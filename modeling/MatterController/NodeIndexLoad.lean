import MatterController.NodeIndex

/-!
# Loading the index of commissioned nodes

A new controller reads the index that an earlier one persisted. The storage does
not tell how long a value is, so the controller reads into a buffer that it
doubles while the value does not fit, up to the most nodes that 16 bits of bytes
can count. `loadCommissionedNodes_eq` says what comes of it, for any value that
may be there.
-/

namespace NodeIndex

/-- **A read the storage refuses**, with its error: none of the answers the caller
distinguishes. -/
structure ReadFailure where
  /-- What the storage returns. -/
  error : ChipError
  failed : error ≠ .noError
  found : error ≠ .persistedStorageValueNotFound
  fits : error ≠ .bufferTooSmall

/-- **What the storage has under the key**: nothing, a value of any length, or
something it cannot read. -/
inductive StoredValue
  | absent
  | value (bytes : List UInt8)
  | unreadable (failure : ReadFailure)

/-- `SyncGetKeyValue`, into a buffer of so many bytes: the value it leaves there. -/
def StoredValue.syncGetKeyValue (stored : StoredValue) (size : ℕ) : ChipError × List UInt8 :=
  match stored with
  | .absent => (.persistedStorageValueNotFound, [])
  | .value bytes => if size < bytes.length then (.bufferTooSmall, []) else (.noError, bytes)
  | .unreadable failure => (failure.error, [])

/-- `kMaximumNodeCount`. -/
abbrev maximumNodeCount : ℕ := 65535 / 8

/-- The loop of `LoadCommissionedNodes`, from a buffer of so many nodes. It returns the
nodes it has read, or that there are none to read; `none` is for running out of
fuel. -/
def readNodes (stored : StoredValue) : ℕ → ℕ → Option (Except Exn (Option (List UInt64)))
  | 0, _ => none
  | fuel + 1, count =>
    -- the size is an `uint16_t`
    let r := stored.syncGetKeyValue (count * 8 % 65536)
    if r.1 = .persistedStorageValueNotFound then some (.ok none)
    else if r.1 = .bufferTooSmall then
      if count = maximumNodeCount then some (.error (.hresult .bounds))
      else readNodes stored fuel (min (count * 2) maximumNodeCount)
    else match checkChipError r.1 with
      | .error exn => some (.error exn)
      | .ok () =>
        if r.2.length = 0 ∨ r.2.length % 8 ≠ 0 then some (.error (.hresult .unexpected))
        else some (.ok (some (bytesNodes r.2)))

/-- `LoadCommissionedNodes`: the buffer starts with one node. -/
def loadCommissionedNodes (stored : StoredValue) : Option (Except Exn (Option (List UInt64))) :=
  readNodes stored maximumNodeCount 1

/-- **What loading comes to**: a value is loaded if it is not empty, is made of whole
nodes and fits 16 bits. -/
def StoredValue.loaded : StoredValue → Except Exn (Option (List UInt64))
  | .absent => .ok none
  | .unreadable failure => .error (.chip failure.error)
  | .value bytes =>
    if maximumNodeCount * 8 < bytes.length then .error (.hresult .bounds)
    else if bytes.length = 0 ∨ bytes.length % 8 ≠ 0 then .error (.hresult .unexpected)
    else .ok (some (bytesNodes bytes))

/-- **The loop ends** from every size it can have, and what it comes to does not depend
on the size. -/
theorem readNodes_eq (stored : StoredValue) {fuel count : ℕ} (hpos : 0 < count)
    (hcount : count ≤ maximumNodeCount) (hfuel : maximumNodeCount - count < fuel) :
    readNodes stored fuel count = some stored.loaded := by
  have hmaximum : maximumNodeCount = 8191 := rfl
  induction fuel generalizing count with
  | zero => omega
  | succ fuel ih =>
    have hsize : count * 8 % 65536 = count * 8 := Nat.mod_eq_of_lt (by omega)
    rw [readNodes]
    simp only [hsize]
    cases stored with
    | absent => rfl
    | unreadable failure =>
      simp [StoredValue.syncGetKeyValue, StoredValue.loaded, failure.found, failure.fits,
        checkChipError, failure.failed]
    | value bytes =>
      rw [StoredValue.syncGetKeyValue, StoredValue.loaded]
      by_cases hfits : count * 8 < bytes.length
      · rw [if_pos hfits, if_neg (by decide), if_pos rfl]
        by_cases hmax : count = maximumNodeCount
        · rw [if_pos hmax, if_pos (hmax ▸ hfits)]
        · -- the buffer grows, and was not at its largest
          rw [if_neg hmax]
          exact ih (by omega) (by omega) (by omega)
      · have hlong : ¬ maximumNodeCount * 8 < bytes.length := by omega
        rw [if_neg hfits, if_neg hlong]
        dsimp only
        rw [if_neg (by decide), if_neg (by decide), checkChipError, if_pos rfl]
        exact (apply_ite some _ _ _).symm

/-- **Loading returns**, whatever is stored. -/
theorem loadCommissionedNodes_eq (stored : StoredValue) :
    loadCommissionedNodes stored = some stored.loaded :=
  readNodes_eq stored (by decide) (by decide) (by decide)

/-- Whether what is stored can be loaded. -/
def StoredValue.loads : StoredValue → Bool
  | .absent => true
  | .unreadable _ => false
  | .value bytes =>
    bytes.length ≠ 0 && bytes.length % 8 = 0 && bytes.length ≤ maximumNodeCount * 8

/-- **Loading returns the nodes of what can be loaded, and throws otherwise.** -/
theorem StoredValue.loads_iff (stored : StoredValue) :
    stored.loads = true ↔ ∃ nodes, stored.loaded = .ok nodes := by
  cases stored with
  | absent => exact ⟨fun _ => ⟨none, rfl⟩, fun _ => rfl⟩
  | unreadable failure =>
    refine ⟨fun h => ?_, ?_⟩
    · cases h
    · rintro ⟨nodes, h⟩
      cases h
  | value bytes =>
    have hloads : (StoredValue.value bytes).loads = true ↔
        bytes.length ≠ 0 ∧ bytes.length % 8 = 0 ∧ bytes.length ≤ maximumNodeCount * 8 := by
      simp [StoredValue.loads, and_assoc]
    rw [hloads, StoredValue.loaded]
    split
    · rename_i hlong
      refine ⟨fun h => absurd h.2.2 (Nat.not_le.mpr hlong), ?_⟩
      rintro ⟨nodes, h⟩
      cases h
    · split
      · rename_i hlong hbad
        refine ⟨fun h => absurd hbad (by omega), ?_⟩
        rintro ⟨nodes, h⟩
        cases h
      · rename_i hlong hgood
        exact ⟨fun _ => ⟨_, rfl⟩, fun _ => ⟨fun h => hgood (Or.inl h), by omega,
          Nat.not_lt.mp hlong⟩⟩

/-! ## What is loaded, and through which buffers -/

/-- The loop of `LoadCommissionedNodes` with a record of the buffers it reads into, in
nodes. -/
def readNodesLog (stored : StoredValue) :
    ℕ → ℕ → Option (List ℕ × Except Exn (Option (List UInt64)))
  | 0, _ => none
  | fuel + 1, count =>
    let r := stored.syncGetKeyValue (count * 8 % 65536)
    if r.1 = .persistedStorageValueNotFound then some ([count], .ok none)
    else if r.1 = .bufferTooSmall then
      if count = maximumNodeCount then some ([count], .error (.hresult .bounds))
      else (readNodesLog stored fuel (min (count * 2) maximumNodeCount)).map
        fun t => (count :: t.1, t.2)
    else match checkChipError r.1 with
      | .error exn => some ([count], .error exn)
      | .ok () =>
        if r.2.length = 0 ∨ r.2.length % 8 ≠ 0 then some ([count], .error (.hresult .unexpected))
        else some ([count], .ok (some (bytesNodes r.2)))

/-- The record does not change the loop. -/
theorem map_readNodesLog (stored : StoredValue) (fuel count : ℕ) :
    (readNodesLog stored fuel count).map Prod.snd = readNodes stored fuel count := by
  induction fuel generalizing count with
  | zero => rfl
  | succ fuel ih =>
    rw [readNodesLog, readNodes]
    split
    · rfl
    · split
      · split
        · rfl
        · rw [Option.map_map, ← ih]
          rfl
      · cases checkChipError (stored.syncGetKeyValue (count * 8 % 65536)).1 with
        | error exn => rfl
        | ok u =>
          dsimp only
          split <;> rfl

/-- **No buffer is larger than the largest.** -/
theorem readNodesLog_le {stored : StoredValue} {fuel count : ℕ} (hcount : count ≤ maximumNodeCount)
    {t : List ℕ × Except Exn (Option (List UInt64))}
    (ht : readNodesLog stored fuel count = some t) : ∀ n ∈ t.1, n ≤ maximumNodeCount := by
  induction fuel generalizing count t with
  | zero => cases ht
  | succ fuel ih =>
    rw [readNodesLog] at ht
    have hlast : ∀ r : Except Exn (Option (List UInt64)), some ([count], r) = some t →
        ∀ n ∈ t.1, n ≤ maximumNodeCount := by
      rintro r ⟨⟩ n hn
      exact List.mem_singleton.mp hn ▸ hcount
    split at ht
    · exact hlast _ ht
    · split at ht
      · split at ht
        · exact hlast _ ht
        · obtain ⟨u, hu, rfl⟩ := Option.map_eq_some_iff.mp ht
          intro n hn
          rcases List.mem_cons.mp hn with rfl | hn
          · exact hcount
          · exact ih (Nat.min_le_right _ _) hu n hn
      · cases hcheck : checkChipError (stored.syncGetKeyValue (count * 8 % 65536)).1 with
        | error exn =>
          rw [hcheck] at ht
          exact hlast _ ht
        | ok u =>
          rw [hcheck] at ht
          dsimp only at ht
          split at ht <;> exact hlast _ ht

/-- The value in storage, as it is read. -/
def storedValue (s : NodeIndex) : StoredValue :=
  match s.stored with
  | none => .absent
  | some bytes => .value bytes

/-- **`LoadCommissionedNodes`, of an index**: the nodes it reads, if there are any to
read, replace the list in memory. -/
def load (s : NodeIndex) : Option (Except Exn Unit × NodeIndex) :=
  (loadCommissionedNodes s.storedValue).map fun
    | .error exn => (.error exn, s)
    | .ok nodes => (.ok (), { s with nodes := nodes.getD s.nodes })

/-- The nodes some bytes hold have those bytes. -/
theorem nodeBytes_bytesNodes {bytes : List UInt8} (h : bytes.length % 8 = 0) :
    nodeBytes (bytesNodes bytes) = bytes := by
  have hlength : bytes.length = bytes.length / 8 * 8 := by omega
  have hfit : ∀ n ∈ Bytes.toNats 8 (bytes.length / 8) bytes,
      (UInt64.toNat ∘ UInt64.ofNat) n = n := by
    intro n hn
    rw [Function.comp_apply, UInt64.toNat_ofNat']
    exact Nat.mod_eq_of_lt (Bytes.lt_of_mem_toNats hlength hn)
  rw [nodeBytes, bytesNodes, List.map_map, List.map_congr_left hfit, List.map_id',
    Bytes.ofNats_toNats hlength]

/-- What is loaded of an index without a value: its list stays. -/
theorem load_of_none {s : NodeIndex} (h : s.stored = none) : s.load = some (.ok (), s) := by
  have hvalue : s.storedValue = .absent := by rw [storedValue, h]
  rw [load, loadCommissionedNodes_eq, hvalue]
  rfl

/-- What is loaded of an index with a value. -/
theorem load_of_some {s : NodeIndex} {bytes : List UInt8} (h : s.stored = some bytes) :
    (bytes.length = 0 ∨ bytes.length % 8 ≠ 0 ∨ 65528 < bytes.length →
      ∃ exn, s.load = some (.error exn, s)) ∧
    (¬ (bytes.length = 0 ∨ bytes.length % 8 ≠ 0 ∨ 65528 < bytes.length) →
      s.load = some (.ok (), { s with nodes := bytesNodes bytes })) := by
  have hvalue : s.storedValue = .value bytes := by rw [storedValue, h]
  have hmaximum : maximumNodeCount * 8 = 65528 := rfl
  rw [load, loadCommissionedNodes_eq, hvalue, StoredValue.loaded, hmaximum]
  by_cases hlong : 65528 < bytes.length
  · rw [if_pos hlong]
    exact ⟨fun _ => ⟨_, rfl⟩, fun hgood => absurd (Or.inr (Or.inr hlong)) hgood⟩
  rw [if_neg hlong]
  by_cases hbad : bytes.length = 0 ∨ bytes.length % 8 ≠ 0
  · rw [if_pos hbad]
    exact ⟨fun _ => ⟨_, rfl⟩, fun hgood => absurd (hbad.imp_right Or.inl) hgood⟩
  · rw [if_neg hbad]
    refine ⟨fun h => ?_, fun _ => rfl⟩
    rcases h with h | h | h
    · exact absurd (Or.inl h) hbad
    · exact absurd (Or.inr h) hbad
    · exact absurd h hlong

/-- **A list that was persisted is stored as its bytes**, or as no value where it is
empty. -/
theorem stored_persist {s : NodeIndex} {failure : Option WriteFailure}
    (hok : (s.persistCommissionedNodes failure).1 = .ok ()) :
    (s.nodes = [] ∧ (s.persistCommissionedNodes failure).2.stored = none) ∨
      (s.nodes ≠ [] ∧ s.nodes.length * 8 ≤ 65535 ∧
        (s.persistCommissionedNodes failure).2.stored = some (nodeBytes s.nodes)) := by
  have hw : Writes failure s.nodes := by
    rcases (persist_spec s failure).2 with ⟨hw, -⟩ | ⟨-, ⟨exn, hexn⟩, -⟩
    · exact hw
    · rw [hexn] at hok
      cases hok
  obtain ⟨rfl, hlength⟩ := hw
  unfold persistCommissionedNodes
  by_cases hnil : s.nodes = []
  · rw [if_pos hnil]
    refine Or.inl ⟨hnil, ?_⟩
    by_cases hs : s.stored = none
    · simp [syncDeleteKeyValue, hs]
    · simp [syncDeleteKeyValue, hs]
  · rw [if_neg hnil, if_neg (by omega)]
    exact Or.inr ⟨hnil, hlength, rfl⟩

/-- **The persisted index is loaded as it was, and what cannot be loaded leaves the one in
memory.** A controller that is created over the storage a successful
`PersistCommissionedNodes` left has its list, in order. Of any other value the loop
loads the nodes with exactly these bytes, or throws where the value is empty, no
whole number of nodes, or longer than the largest buffer. Neither the buffers nor the
value written has a size that 16 bits cannot hold. -/
theorem load_spec :
    (∀ (s : NodeIndex) (failure : Option WriteFailure), s.nodes.length ≤ 8191 →
      (s.persistCommissionedNodes failure).1 = .ok () →
      load { stored := (s.persistCommissionedNodes failure).2.stored }
          = some (.ok (), { nodes := s.nodes,
                            stored := (s.persistCommissionedNodes failure).2.stored }) ∧
        s.nodes.length * 8 % 65536 = s.nodes.length * 8) ∧
    (∀ (s : NodeIndex) (bytes : List UInt8), s.stored = some bytes →
      (bytes.length = 0 ∨ bytes.length % 8 ≠ 0 ∨ 65528 < bytes.length →
        ∃ exn, s.load = some (.error exn, s)) ∧
      (¬ (bytes.length = 0 ∨ bytes.length % 8 ≠ 0 ∨ 65528 < bytes.length) →
        ∃ nodes, nodeBytes nodes = bytes ∧
          s.load = some (.ok (), { s with nodes := nodes }))) ∧
    (∀ s : NodeIndex, ∃ t, readNodesLog s.storedValue maximumNodeCount 1 = some t ∧
      loadCommissionedNodes s.storedValue = some t.2 ∧
      ∀ count ∈ t.1, count * 8 % 65536 = count * 8) := by
  have hmaximum : maximumNodeCount = 8191 := rfl
  refine ⟨fun s failure hlength hok => ⟨?_, Nat.mod_eq_of_lt (by omega)⟩,
    fun s bytes hs => ?_, fun s => ?_⟩
  · rcases stored_persist hok with ⟨hnil, hstored⟩ | ⟨hne, -, hstored⟩
    · rw [hstored, hnil, load_of_none rfl]
    · have hlen : (nodeBytes s.nodes).length = s.nodes.length * 8 := length_nodeBytes s.nodes
      have hpos : 0 < s.nodes.length := List.length_pos_iff.mpr hne
      rw [hstored, (load_of_some rfl).2 (by omega), bytesNodes_nodeBytes]
  · refine ⟨(load_of_some hs).1, fun hgood => ⟨bytesNodes bytes, ?_, (load_of_some hs).2 hgood⟩⟩
    exact nodeBytes_bytesNodes (by omega)
  · have hlog := map_readNodesLog s.storedValue maximumNodeCount 1
    rw [show readNodes s.storedValue maximumNodeCount 1 = some s.storedValue.loaded from
      loadCommissionedNodes_eq s.storedValue] at hlog
    obtain ⟨t, ht, hresult⟩ := Option.map_eq_some_iff.mp hlog
    refine ⟨t, ht, by rw [loadCommissionedNodes_eq, hresult], fun count hc => ?_⟩
    have := readNodesLog_le (by decide) ht count hc
    exact Nat.mod_eq_of_lt (by omega)

/-- Three nodes, persisted and loaded. -/
theorem load_three : load { stored := some (nodeBytes [3, 1, 2]) }
    = some (.ok (), { nodes := [3, 1, 2], stored := some (nodeBytes [3, 1, 2]) }) :=
  (load_spec.1 { nodes := [3, 1, 2] } none (by decide) rfl).1

end NodeIndex
