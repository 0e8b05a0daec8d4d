import MatterController.Bytes
import MatterController.Errors
import Mathlib.Data.List.Induction

/-!
# The index of commissioned nodes

The controller keeps the nodes of its fabric in memory (`mCommissionedNodes`)
and, as the bytes of that list, under one key of its persistent storage. A node
is added where commissioning or recovery ends, and erased where it is removed.

Memory is written first, and storage after it, in a write that may fail: the
storage may refuse it, and a list of more than `UINT16_MAX` bytes is refused
before. The exception then leaves the list as it was written. A later call for
the same node finds it in memory and does not write again, so it succeeds
without the node being persisted.

`indexKept_iff` says when this does not happen: whenever a call changes the
list in memory, its write succeeds.
-/

/-- **A write the storage refuses**, with its error: not success, and not the
answer that there was no value, which says that there is nothing to delete. -/
structure WriteFailure where
  /-- What the storage returns. -/
  error : ChipError
  failed : error ≠ .noError
  found : error ≠ .persistedStorageValueNotFound

/-- **The index**: the list in memory and the value in storage. -/
structure NodeIndex where
  nodes : List UInt64 := []
  stored : Option (List UInt8) := none
  deriving DecidableEq, Repr

namespace NodeIndex

/-- The bytes of a list of nodes in memory. -/
def nodeBytes (ns : List UInt64) : List UInt8 := Bytes.ofNats 8 (ns.map UInt64.toNat)

/-- The list of nodes some bytes hold. -/
def bytesNodes (bs : List UInt8) : List UInt64 :=
  (Bytes.toNats 8 (bs.length / 8) bs).map UInt64.ofNat

/-- **The persisted index**: the nodes the value in storage holds, none where
there is no value. -/
def persisted (s : NodeIndex) : List UInt64 :=
  match s.stored with
  | none => []
  | some bs => bytesNodes bs

/-- The index of a controller that has just been created over a storage with
these nodes. -/
def loaded (ns : List UInt64) : NodeIndex where
  nodes := ns
  stored := if ns = [] then none else some (nodeBytes ns)

/-- `SyncDeleteKeyValue`: deletes the value, or fails to. -/
def syncDeleteKeyValue (s : NodeIndex) : Option WriteFailure → ChipError × NodeIndex
  | some failure => (failure.error, s)
  | none =>
    if s.stored = none then (.persistedStorageValueNotFound, s)
    else (.noError, { s with stored := none })

/-- `SyncSetKeyValue`: replaces the value, or fails to. -/
def syncSetKeyValue (s : NodeIndex) (value : List UInt8) :
    Option WriteFailure → ChipError × NodeIndex
  | some failure => (failure.error, s)
  | none => (.noError, { s with stored := some value })

/-- `PersistCommissionedNodes`: an empty list is no value, and a list of more
bytes than 16 bits can count is not written. -/
def persistCommissionedNodes (s : NodeIndex) (failure : Option WriteFailure) :
    Except Exn Unit × NodeIndex :=
  if s.nodes = [] then
    let r := s.syncDeleteKeyValue failure
    (if r.1 ≠ .persistedStorageValueNotFound then checkChipError r.1 else .ok (), r.2)
  else if s.nodes.length * 8 > 65535 then (.error (.hresult .bounds), s)
  else
    let r := s.syncSetKeyValue (nodeBytes s.nodes) failure
    (checkChipError r.1, r.2)

/-- The index update `Commission` and `RecoverNode` end with: a node that is not
in the list is appended, and the list is written. -/
def addNode (s : NodeIndex) (nodeId : UInt64) (failure : Option WriteFailure) :
    Except Exn Unit × NodeIndex :=
  if nodeId ∈ s.nodes then (.ok (), s)
  else persistCommissionedNodes { s with nodes := s.nodes ++ [nodeId] } failure

/-- `Commission`, from the index update: `pairing` is what came before it. -/
def commission (s : NodeIndex) (nodeId : UInt64) (pairing : Except Exn Unit)
    (failure : Option WriteFailure) : Except Exn Unit × NodeIndex :=
  match pairing with
  | .error exn => (.error exn, s)
  | .ok () => s.addNode nodeId failure

/-- `RecoverNode`: the node answers a read, and the call is admitted, before the
index is updated. -/
def recoverNode (s : NodeIndex) (nodeId : UInt64) (read admission : Except Exn Unit)
    (failure : Option WriteFailure) : Except Exn Unit × NodeIndex :=
  if !isOperationalNodeId nodeId then (.error (.hresult .invalidArgument), s)
  else match read with
    | .error exn => (.error exn, s)
    | .ok () =>
      match admission with
      | .error exn => (.error exn, s)
      | .ok () => s.addNode nodeId failure

/-- `RemoveNode`: a node that could be unpaired is erased wherever it is in the
list, and the list is written in any case. -/
def removeNode (s : NodeIndex) (nodeId : UInt64) (admission : Except Exn Unit)
    (unpairDevice : ChipError) (failure : Option WriteFailure) :
    Except Exn Unit × NodeIndex :=
  match admission with
  | .error exn => (.error exn, s)
  | .ok () =>
    match checkChipError unpairDevice with
    | .error exn => (.error exn, s)
    | .ok () =>
      persistCommissionedNodes { s with nodes := s.nodes.filter (· != nodeId) } failure

/-- **A call that may change the index**, with what it meets: the exceptions
before the index is reached, and the answer of the storage. -/
inductive Call
  | commission (nodeId : UInt64) (pairing : Except Exn Unit) (failure : Option WriteFailure)
  | recoverNode (nodeId : UInt64) (read admission : Except Exn Unit)
      (failure : Option WriteFailure)
  | removeNode (nodeId : UInt64) (admission : Except Exn Unit) (unpairDevice : ChipError)
      (failure : Option WriteFailure)

/-- A call, made: what it returns, and the index after it. -/
def call (s : NodeIndex) : Call → Except Exn Unit × NodeIndex
  | .commission nodeId pairing failure => s.commission nodeId pairing failure
  | .recoverNode nodeId read admission failure => s.recoverNode nodeId read admission failure
  | .removeNode nodeId admission unpairDevice failure =>
    s.removeNode nodeId admission unpairDevice failure

/-- The index after a sequence of calls. -/
def calls (s : NodeIndex) (cs : List Call) : NodeIndex :=
  cs.foldl (fun s c => (s.call c).2) s

/-! ## Reading back what was written -/

theorem length_nodeBytes (ns : List UInt64) : (nodeBytes ns).length = ns.length * 8 := by
  rw [nodeBytes, Bytes.length_ofNats, List.length_map]

/-- The bytes of a list of nodes hold that list. -/
theorem bytesNodes_nodeBytes (ns : List UInt64) : bytesNodes (nodeBytes ns) = ns := by
  have hfit : ∀ n ∈ ns.map UInt64.toNat, n < 256 ^ 8 := by
    intro n hn
    obtain ⟨m, -, rfl⟩ := List.mem_map.mp hn
    exact m.toNat_lt
  have hcount : (nodeBytes ns).length / 8 = (ns.map UInt64.toNat).length := by
    rw [length_nodeBytes, List.length_map]
    omega
  rw [bytesNodes, hcount, nodeBytes, Bytes.toNats_ofNats hfit, List.map_map]
  have hid : UInt64.ofNat ∘ UInt64.toNat = id := funext fun n => n.ofNat_toNat
  rw [hid, List.map_id]

theorem persisted_of_some {s : NodeIndex} {ns : List UInt64}
    (h : s.stored = some (nodeBytes ns)) : s.persisted = ns := by
  rw [persisted, h]
  exact bytesNodes_nodeBytes ns

theorem persisted_of_none {s : NodeIndex} (h : s.stored = none) : s.persisted = [] := by
  rw [persisted, h]

@[simp] theorem persisted_loaded (ns : List UInt64) : (loaded ns).persisted = ns := by
  by_cases h : ns = []
  · rw [persisted_of_none (by simp [loaded, h]), h]
  · exact persisted_of_some (by simp [loaded, h])

/-! ## What a write does -/

/-- Whether a list is written: the storage carries it out, and the list is not
too long for it. -/
def Writes (failure : Option WriteFailure) (ns : List UInt64) : Prop :=
  failure = none ∧ ns.length * 8 ≤ 65535

theorem not_writes_some (f : WriteFailure) (ns : List UInt64) : ¬ Writes (some f) ns := by
  rintro ⟨h, -⟩
  cases h

/-- **What `PersistCommissionedNodes` does.** It returns where the list is
written, and storage then holds it; where it throws, storage is as it was. It
never changes the list in memory. -/
theorem persist_spec (s : NodeIndex) (failure : Option WriteFailure) :
    (s.persistCommissionedNodes failure).2.nodes = s.nodes ∧
      ((Writes failure s.nodes ∧ (s.persistCommissionedNodes failure).1 = .ok () ∧
          (s.persistCommissionedNodes failure).2.persisted = s.nodes) ∨
        (¬ Writes failure s.nodes ∧
          (∃ exn, (s.persistCommissionedNodes failure).1 = .error exn) ∧
          (s.persistCommissionedNodes failure).2 = s)) := by
  unfold persistCommissionedNodes
  by_cases hnil : s.nodes = []
  · rw [if_pos hnil]
    cases failure with
    | some f =>
      refine ⟨rfl, Or.inr ⟨not_writes_some f s.nodes, ⟨.chip f.error, ?_⟩, rfl⟩⟩
      simp [syncDeleteKeyValue, f.found, checkChipError, f.failed]
    | none =>
      have hw : Writes none s.nodes := ⟨rfl, by simp [hnil]⟩
      by_cases hs : s.stored = none
      · have hd : s.syncDeleteKeyValue none = (.persistedStorageValueNotFound, s) :=
          if_pos hs
        rw [hd]
        exact ⟨rfl, Or.inl ⟨hw, rfl, by rw [hnil]; exact persisted_of_none hs⟩⟩
      · have hd : s.syncDeleteKeyValue none = (.noError, { s with stored := none }) :=
          if_neg hs
        rw [hd]
        exact ⟨rfl, Or.inl ⟨hw, rfl, hnil.symm⟩⟩
  · rw [if_neg hnil]
    by_cases hlong : s.nodes.length * 8 > 65535
    · rw [if_pos hlong]
      exact ⟨rfl, Or.inr ⟨fun h => absurd h.2 (by omega), ⟨_, rfl⟩, rfl⟩⟩
    · rw [if_neg hlong]
      cases failure with
      | some f =>
        refine ⟨rfl, Or.inr ⟨not_writes_some f s.nodes, ⟨.chip f.error, ?_⟩, rfl⟩⟩
        simp [syncSetKeyValue, checkChipError, f.failed]
      | none => exact ⟨rfl, Or.inl ⟨⟨rfl, by omega⟩, rfl, persisted_of_some rfl⟩⟩

/-! ## What a call does -/

/-- Whether a call reaches the index: nothing is thrown before. -/
def Call.reaches : Call → Bool
  | .commission _ pairing _ => pairing.isOk
  | .recoverNode nodeId read admission _ =>
    isOperationalNodeId nodeId && read.isOk && admission.isOk
  | .removeNode _ admission unpairDevice _ => admission.isOk && unpairDevice == .noError

/-- The list a call that reaches the index makes of the one in memory. -/
def Call.next : Call → List UInt64 → List UInt64
  | .commission nodeId _ _, ns => if nodeId ∈ ns then ns else ns ++ [nodeId]
  | .recoverNode nodeId _ _ _, ns => if nodeId ∈ ns then ns else ns ++ [nodeId]
  | .removeNode nodeId _ _ _, ns => ns.filter (· != nodeId)

/-- The answer of the storage to the write of a call. -/
def Call.failure : Call → Option WriteFailure
  | .commission _ _ failure => failure
  | .recoverNode _ _ _ failure => failure
  | .removeNode _ _ _ failure => failure

/-- What the success of a call says of a list of nodes. -/
def Call.Wants : Call → List UInt64 → Prop
  | .commission nodeId _ _, ns => nodeId ∈ ns
  | .recoverNode nodeId _ _ _, ns => nodeId ∈ ns
  | .removeNode nodeId _ _ _, ns => nodeId ∉ ns

/-- A call makes of the list in memory what its success says. -/
theorem Call.wants_next (c : Call) (ns : List UInt64) : c.Wants (c.next ns) := by
  cases c with
  | removeNode nodeId admission unpairDevice failure => simp [Call.Wants, Call.next]
  | _ =>
    simp only [Call.Wants, Call.next]
    split
    · assumption
    · simp

/-- An index update does not write a node it finds in memory. -/
theorem addNode_spec (s : NodeIndex) (nodeId : UInt64) (failure : Option WriteFailure) :
    ((if nodeId ∈ s.nodes then s.nodes else s.nodes ++ [nodeId]) = s.nodes ∧
        s.addNode nodeId failure = (.ok (), s)) ∨
      s.addNode nodeId failure = persistCommissionedNodes
        { s with nodes := if nodeId ∈ s.nodes then s.nodes else s.nodes ++ [nodeId] }
        failure := by
  unfold addNode
  by_cases h : nodeId ∈ s.nodes
  · exact Or.inl ⟨if_pos h, if_pos h⟩
  · exact Or.inr (by rw [if_neg h, if_neg h])

/-- **What a call does.** It throws before it reaches the index and leaves it;
or it finds nothing to change and returns; or it writes the list it has made. -/
theorem call_spec (s : NodeIndex) (c : Call) :
    (c.reaches = false ∧ ∃ exn, s.call c = (.error exn, s)) ∨
      (c.reaches = true ∧ c.next s.nodes = s.nodes ∧ s.call c = (.ok (), s)) ∨
      (c.reaches = true ∧
        s.call c = persistCommissionedNodes { s with nodes := c.next s.nodes } c.failure) := by
  cases c with
  | commission nodeId pairing failure =>
    cases pairing with
    | error exn => exact Or.inl ⟨rfl, exn, rfl⟩
    | ok u =>
      rcases s.addNode_spec nodeId failure with h | h
      · exact Or.inr (Or.inl ⟨rfl, h⟩)
      · exact Or.inr (Or.inr ⟨rfl, h⟩)
  | recoverNode nodeId read admission failure =>
    cases hn : isOperationalNodeId nodeId with
    | false =>
      refine Or.inl ⟨by simp [Call.reaches, hn], .hresult .invalidArgument, ?_⟩
      simp [call, recoverNode, hn]
    | true =>
      cases read with
      | error exn =>
        exact Or.inl ⟨by simp [Call.reaches, Except.isOk, Except.toBool], exn,
          by simp [call, recoverNode, hn]⟩
      | ok u =>
        cases admission with
        | error exn =>
          exact Or.inl ⟨by simp [Call.reaches, Except.isOk, Except.toBool], exn,
            by simp [call, recoverNode, hn]⟩
        | ok u =>
          have hr : Call.reaches (.recoverNode nodeId (.ok ()) (.ok ()) failure) = true := by
            simp [Call.reaches, hn, Except.isOk, Except.toBool]
          have hc : s.call (.recoverNode nodeId (.ok ()) (.ok ()) failure)
              = s.addNode nodeId failure := by
            simp [call, recoverNode, hn]
          rw [hc]
          rcases s.addNode_spec nodeId failure with h | h
          · exact Or.inr (Or.inl ⟨hr, h⟩)
          · exact Or.inr (Or.inr ⟨hr, h⟩)
  | removeNode nodeId admission unpairDevice failure =>
    cases admission with
    | error exn => exact Or.inl ⟨rfl, exn, rfl⟩
    | ok u =>
      by_cases hu : unpairDevice = .noError
      · subst hu
        exact Or.inr (Or.inr ⟨rfl, rfl⟩)
      · refine Or.inl ⟨by simp [Call.reaches, hu], .chip unpairDevice, ?_⟩
        simp [call, removeNode, checkChipError, hu]

/-! ## Sequences of calls -/

/-- **A call keeps the index**: where it returns, storage says what its success
says; where it throws, the list in memory is as it was. -/
def Kept (s : NodeIndex) (c : Call) : Prop :=
  match (s.call c).1 with
  | .ok () => c.Wants (s.call c).2.persisted
  | .error _ => (s.call c).2.nodes = s.nodes

/-- **Every call of a sequence keeps the index.** -/
def IndexKept (s : NodeIndex) (cs : List Call) : Prop :=
  ∀ pre c post, cs = pre ++ c :: post → (s.calls pre).Kept c

/-- Where a call changes the list in memory, its write succeeds. -/
def WritesChange (s : NodeIndex) (c : Call) : Prop :=
  c.reaches = true → c.next s.nodes ≠ s.nodes → Writes c.failure (c.next s.nodes)

/-- A call that keeps the index has written what it changed: an exception of the
write leaves the change in memory. -/
theorem Kept.writesChange {s : NodeIndex} {c : Call} (h : s.Kept c) : s.WritesChange c := by
  intro hr hne
  rcases s.call_spec c with ⟨hr', -⟩ | ⟨-, hsame, -⟩ | ⟨-, hc⟩
  · rw [hr] at hr'
    cases hr'
  · exact absurd hsame hne
  · obtain ⟨hnodes, ⟨hw, -, -⟩ | ⟨-, ⟨exn, hexn⟩, -⟩⟩ :=
      persist_spec { s with nodes := c.next s.nodes } c.failure
    · exact hw
    · rw [Kept, hc, hexn] at h
      exact absurd (hnodes.symm.trans h) hne

/-- **One call on an index whose memory is what is persisted**: where it writes
what it changes it keeps the index, and memory is again what is persisted. -/
theorem kept_of_writesChange {s : NodeIndex} {c : Call} (hs : s.persisted = s.nodes)
    (h : s.WritesChange c) :
    s.Kept c ∧ (s.call c).2.persisted = (s.call c).2.nodes := by
  rcases s.call_spec c with ⟨-, exn, hc⟩ | ⟨-, hsame, hc⟩ | ⟨hr, hc⟩
  · rw [Kept, hc]
    exact ⟨rfl, hs⟩
  · rw [Kept, hc]
    refine ⟨?_, hs⟩
    show c.Wants s.persisted
    rw [hs, ← hsame]
    exact c.wants_next s.nodes
  · obtain ⟨hnodes, ⟨-, hok, hp⟩ | ⟨hw, ⟨exn, hexn⟩, hsame⟩⟩ :=
      persist_spec { s with nodes := c.next s.nodes } c.failure
    · rw [Kept, hc, hok]
      refine ⟨?_, hp.trans hnodes.symm⟩
      show c.Wants _
      rw [hp]
      exact c.wants_next s.nodes
    · -- a write that fails had nothing to write: the list was not changed
      have hnext : c.next s.nodes = s.nodes := by
        by_contra hne
        exact hw (h hr hne)
      rw [Kept, hc, hexn, hsame, hnext]
      exact ⟨rfl, hs⟩

/-- Memory is what is persisted, along a sequence of calls that write what they
change. -/
theorem persisted_calls {s : NodeIndex} {cs : List Call} (hs : s.persisted = s.nodes)
    (h : ∀ pre c post, cs = pre ++ c :: post → (s.calls pre).WritesChange c) :
    (s.calls cs).persisted = (s.calls cs).nodes := by
  induction cs using List.reverseRecOn with
  | nil => exact hs
  | append_singleton cs c ih =>
    have hcs : s.calls (cs ++ [c]) = ((s.calls cs).call c).2 := by
      rw [calls, List.foldl_append, List.foldl_cons, List.foldl_nil]
      rfl
    rw [hcs]
    have hpre := ih (fun pre d post he => h pre d (post ++ [c]) (by rw [he]; simp))
    exact (kept_of_writesChange hpre (h cs c [] rfl)).2

/-- **The index is kept exactly where every change is written**: along any
sequence of calls on a controller loaded with any nodes. -/
theorem indexKept_iff (ns : List UInt64) (cs : List Call) :
    (loaded ns).IndexKept cs ↔
      ∀ pre c post, cs = pre ++ c :: post → ((loaded ns).calls pre).WritesChange c := by
  constructor
  · intro h pre c post he
    exact (h pre c post he).writesChange
  · intro h pre c post he
    have hpre : ((loaded ns).calls pre).persisted = ((loaded ns).calls pre).nodes :=
      persisted_calls (persisted_loaded ns)
        (fun pre' d post' he' => h pre' d (post' ++ c :: post) (by rw [he, he']; simp))
    exact (kept_of_writesChange hpre (h pre c post he)).1

/-- A first node is commissioned, and the storage refuses the write; then it is
commissioned again. -/
def refusedWrite : List Call :=
  [.commission 5 (.ok ()) (some ⟨.other 1, by decide, by decide⟩),
    .commission 5 (.ok ()) none]

/-- **A success that is not persisted**: the second call returns, and nothing is
in storage. -/
theorem unpersisted_success : ¬ ∀ ns cs, (loaded ns).IndexKept cs := by
  intro h
  have hkept := h [] refusedWrite [_] _ [] rfl
  revert hkept
  show ¬ (5 : UInt64) ∈ _
  decide

end NodeIndex
