import Mathlib.Data.List.AList
import Mathlib.Data.List.Induction
import MatterController.Errors

/-!
# Ownership of camera audio allocations

A controller remembers which audio streams it allocated, so that it never
releases a stream another controller owns and never releases its own twice.
`CameraAudioAllocationOwnership` is that table: at most one entry per
(node, endpoint), at most eight entries, and five operations, each atomic
under the table's mutex.

The table is a `std::map`, read and written only by key, so it is an `AList`
here: an association list that carries the distinctness of its keys. Each
operation returns its outcome together with the table it leaves, so that what
a throwing call leaves behind is a statement and not a convention.

`Slot` says what one entry is for, without the table: the life of one
allocation from its reservation to its release, or to the state where nobody
knows whether the camera still holds it. `exec_slot` is the refinement – every
call moves the slot of its own key as the life cycle allows, and is refused
where the life cycle has no such move or the table is full – and the
statements about whole histories are proved on the life cycle and read back
through it.
-/

/-! ## The size of a finite map -/

namespace AList

variable {α : Type*} [DecidableEq α] {β : α → Type*}

/-- Writing an existing key keeps the size. -/
theorem length_keys_insert_of_mem {a : α} (b : β a) {s : AList β} (h : a ∈ s) :
    (s.insert a b).keys.length = s.keys.length := by
  have hk := mem_keys.mp h
  have hpos := List.length_pos_of_mem hk
  rw [keys_insert, List.length_cons, List.length_erase_of_mem hk]
  omega

/-- Writing any key adds at most one entry. -/
theorem length_keys_insert_le (a : α) (b : β a) (s : AList β) :
    (s.insert a b).keys.length ≤ s.keys.length + 1 := by
  rw [keys_insert, List.length_cons]
  exact Nat.succ_le_succ List.erase_sublist.length_le

/-- Erasing adds none. -/
theorem length_keys_erase_le (a : α) (s : AList β) :
    (s.erase a).keys.length ≤ s.keys.length := by
  rw [keys_erase]
  exact List.erase_sublist.length_le

end AList

namespace CameraAudioAllocationOwnership

/-- The key of an entry: a node and an endpoint of it. -/
structure Key where
  node : UInt64
  endpoint : UInt16
  deriving DecidableEq, Repr

/-- The states of an entry. -/
inductive State
  | pending
  | owned
  | releasing
  | uncertain
  deriving DecidableEq, Repr

/-- **An entry**: its state and, once committed, the camera's stream id. An
entry that owns or releases a stream knows which, so the others cannot be
built. -/
structure Entry where
  state : State := .pending
  stream : Option UInt16 := none
  known : state = .owned ∨ state = .releasing → stream.isSome = true := by simp
  deriving DecidableEq, Repr

/-- The entry of an outcome nobody knows. -/
def Entry.toUncertain (entry : Entry) : Entry :=
  { entry with state := .uncertain, known := by simp }

/-- **The ownership table** (`mEntries`). -/
abbrev Table := AList (fun _ : Key => Entry)

/-- What a call returns and the table it leaves. -/
abbrev Outcome := Except Exn Unit × Table

/-- `UINT16_MAX`, the reserved stream id. -/
abbrev reservedStream : UInt16 := 65535

/-! ## The operations -/

/-- `Reserve`: a new pending entry, unless the key has one or the table is
full. -/
def reserve (key : Key) (t : Table) : Outcome :=
  if key ∈ t then (.error (.hresult .illegalMethodCall), t)
  else if t.keys.length ≥ 8 then (.error (.hresult .outOfMemory), t)
  else (.ok (), t.insert key {})

/-- `Commit`: the pending entry becomes the owner of `stream`. -/
def commit (key : Key) (stream : UInt16) (t : Table) : Outcome :=
  match t.lookup key with
  | none => (.error (.hresult .bounds), t)
  | some entry =>
    if entry.state ≠ .pending ∨ stream = reservedStream then
      (.error (.hresult .bounds), t)
    else (.ok (), t.insert key
      { entry with stream := some stream, state := .owned, known := fun _ => rfl })

/-- `AllocationFailed`: a pending entry is forgotten where the camera refused
the command, and kept as uncertain otherwise. Any other entry is left alone. -/
def allocationFailed (key : Key) (knownRejection : Bool) (t : Table) : Outcome :=
  match t.lookup key with
  | none => (.ok (), t)
  | some entry =>
    if entry.state = .pending then
      if knownRejection then (.ok (), t.erase key)
      else (.ok (), t.insert key entry.toUncertain)
    else (.ok (), t)

/-- `StartRelease`: the owner of exactly this stream may start its one
deallocation. -/
def startRelease (key : Key) (stream : UInt16) (t : Table) : Outcome :=
  match t.lookup key with
  | none => (.error (.hresult .illegalMethodCall), t)
  | some entry =>
    if h : entry.state ≠ .owned ∨ entry.stream ≠ some stream then
      (.error (.hresult .illegalMethodCall), t)
    else (.ok (), t.insert key
      { entry with state := .releasing, known := fun _ => entry.known (by tauto) })

/-- `ReleaseFinished`: the entry is forgotten after a successful deallocation
and kept as uncertain after a failed one. -/
def releaseFinished (key : Key) (succeeded : Bool) (t : Table) : Outcome :=
  match t.lookup key with
  | none => (.error (.hresult .illegalMethodCall), t)
  | some entry =>
    if entry.state ≠ .releasing then (.error (.hresult .illegalMethodCall), t)
    else if succeeded then (.ok (), t.erase key)
    else (.ok (), t.insert key entry.toUncertain)

/-- The operations with their arguments other than the key. -/
inductive Op
  | reserve
  | commit (stream : UInt16)
  | allocationFailed (knownRejection : Bool)
  | startRelease (stream : UInt16)
  | releaseFinished (succeeded : Bool)
  deriving DecidableEq, Repr

/-- A call on the table. -/
structure Call where
  key : Key
  op : Op
  deriving DecidableEq, Repr

/-- The call, performed. -/
def exec (c : Call) (t : Table) : Outcome :=
  match c.op with
  | .reserve => reserve c.key t
  | .commit stream => commit c.key stream t
  | .allocationFailed known => allocationFailed c.key known t
  | .startRelease stream => startRelease c.key stream t
  | .releaseFinished ok => releaseFinished c.key ok t

/-! ## What any one call does to the table -/

/-- **The four things a call can do**: throw and leave the table, leave it,
write the entry of its own key – an existing one or one more of fewer than
eight –, or erase that entry. -/
theorem exec_cases (c : Call) (t : Table) :
    (∃ e, exec c t = (.error e, t)) ∨ exec c t = (.ok (), t)
      ∨ (∃ entry, exec c t = (.ok (), t.insert c.key entry)
          ∧ (c.key ∈ t ∨ t.keys.length < 8))
      ∨ exec c t = (.ok (), t.erase c.key) := by
  have hmem : ∀ {entry}, t.lookup c.key = some entry → c.key ∈ t := fun h =>
    AList.lookup_isSome.mp (by rw [h]; rfl)
  obtain ⟨key, op⟩ := c
  cases op with
  | reserve =>
    simp only [exec, reserve]
    split
    · exact Or.inl ⟨_, rfl⟩
    · split
      · exact Or.inl ⟨_, rfl⟩
      · exact Or.inr (Or.inr (Or.inl ⟨_, rfl, Or.inr (by omega)⟩))
  | commit stream =>
    simp only [exec, commit]
    split
    · exact Or.inl ⟨_, rfl⟩
    · split
      · exact Or.inl ⟨_, rfl⟩
      · exact Or.inr (Or.inr (Or.inl ⟨_, rfl, Or.inl (hmem ‹_›)⟩))
  | allocationFailed known =>
    simp only [exec, allocationFailed]
    split
    · exact Or.inr (Or.inl rfl)
    · split
      · split
        · exact Or.inr (Or.inr (Or.inr rfl))
        · exact Or.inr (Or.inr (Or.inl ⟨_, rfl, Or.inl (hmem ‹_›)⟩))
      · exact Or.inr (Or.inl rfl)
  | startRelease stream =>
    simp only [exec, startRelease]
    split
    · exact Or.inl ⟨_, rfl⟩
    · split
      · exact Or.inl ⟨_, rfl⟩
      · exact Or.inr (Or.inr (Or.inl ⟨_, rfl, Or.inl (hmem ‹_›)⟩))
  | releaseFinished ok =>
    simp only [exec, releaseFinished]
    split
    · exact Or.inl ⟨_, rfl⟩
    · split
      · exact Or.inl ⟨_, rfl⟩
      · split
        · exact Or.inr (Or.inr (Or.inr rfl))
        · exact Or.inr (Or.inr (Or.inl ⟨_, rfl, Or.inl (hmem ‹_›)⟩))

/-- A call that throws leaves the whole table as it was. -/
theorem exec_of_error {c : Call} {t : Table} {e : Exn}
    (h : (exec c t).1 = .error e) : (exec c t).2 = t := by
  rcases exec_cases c t with ⟨e', he⟩ | he | ⟨entry, he, -⟩ | he
  · rw [he]
  · rw [he]
  · rw [he] at h; cases h
  · rw [he] at h; cases h

/-- **Frame**: no call changes the entry of another key. -/
theorem lookup_exec_of_ne {c : Call} {k : Key} (t : Table) (h : k ≠ c.key) :
    (exec c t).2.lookup k = t.lookup k := by
  rcases exec_cases c t with ⟨e, he⟩ | he | ⟨entry, he, -⟩ | he
  · rw [he]
  · rw [he]
  · rw [he, AList.lookup_insert_ne h]
  · rw [he, AList.lookup_erase_ne h]

/-- A call keeps the table within eight entries. -/
theorem length_keys_exec {c : Call} {t : Table} (h : t.keys.length ≤ 8) :
    (exec c t).2.keys.length ≤ 8 := by
  rcases exec_cases c t with ⟨e, he⟩ | he | ⟨entry, he, hroom⟩ | he
  · rw [he]; exact h
  · rw [he]; exact h
  · rw [he]
    rcases hroom with hk | hlt
    · rw [AList.length_keys_insert_of_mem entry hk]
      exact h
    · exact Nat.le_trans (AList.length_keys_insert_le c.key entry t) hlt
  · rw [he]
    exact Nat.le_trans (AList.length_keys_erase_le c.key t) h

/-! ## The life of one allocation -/

/-- **The life cycle of one (node, endpoint)**: nothing allocated, an
allocation under way, a stream owned, its release under way, or an outcome
nobody knows. -/
inductive Slot
  | free
  | pending
  | owned (stream : UInt16)
  | releasing (stream : UInt16)
  | uncertain
  deriving DecidableEq, Repr

/-- The moves of the life cycle, `none` where an operation is refused. An
uncertain slot has no move but to stay. -/
def Slot.next : Slot → Op → Option Slot
  | .free, .reserve => some .pending
  | .pending, .commit stream =>
    if stream = reservedStream then none else some (.owned stream)
  | .pending, .allocationFailed known => some (if known then .free else .uncertain)
  | slot, .allocationFailed _ => some slot
  | .owned owner, .startRelease stream =>
    if owner = stream then some (.releasing owner) else none
  | .releasing _, .releaseFinished ok => some (if ok then .free else .uncertain)
  | _, _ => none

/-- **An uncertain slot stays uncertain.** -/
theorem Slot.next_uncertain {op : Op} {slot : Slot}
    (h : Slot.uncertain.next op = some slot) : slot = .uncertain := by
  cases op <;> simp only [Slot.next, Option.some.injEq, reduceCtorEq] at h
  exact h.symm

/-- The slot an entry stands for. -/
def Entry.slot (entry : Entry) : Slot :=
  match entry.state, entry.stream with
  | .pending, _ => .pending
  | .owned, some stream => .owned stream
  | .releasing, some stream => .releasing stream
  | _, _ => .uncertain

/-- The slot of a key in a table: free where the key has no entry. -/
def slot (t : Table) (k : Key) : Slot :=
  match t.lookup k with
  | none => .free
  | some entry => entry.slot

@[simp] theorem slot_empty (k : Key) : slot ∅ k = .free := rfl

@[simp] theorem slot_insert (t : Table) (k : Key) (entry : Entry) :
    slot (t.insert k entry) k = entry.slot := by
  rw [slot, AList.lookup_insert]

@[simp] theorem slot_erase (t : Table) (k : Key) : slot (t.erase k) k = .free := by
  rw [slot, AList.lookup_erase]

@[simp] theorem Entry.slot_toUncertain (entry : Entry) :
    entry.toUncertain.slot = .uncertain := rfl

/-- An entry by its state: one that owns or releases a stream knows which. -/
theorem Entry.slot_cases (entry : Entry) :
    (entry.state = .pending ∧ entry.slot = .pending) ∨
      (∃ stream, entry.state = .owned ∧ entry.stream = some stream
        ∧ entry.slot = .owned stream) ∨
      (∃ stream, entry.state = .releasing ∧ entry.stream = some stream
        ∧ entry.slot = .releasing stream) ∨
      (entry.state = .uncertain ∧ entry.slot = .uncertain) := by
  have hknown := entry.known
  cases hst : entry.state with
  | pending => exact Or.inl ⟨rfl, by rw [Entry.slot, hst]⟩
  | owned =>
    obtain ⟨stream, hs⟩ := Option.isSome_iff_exists.mp (hknown (Or.inl hst))
    exact Or.inr (Or.inl ⟨stream, rfl, hs, by rw [Entry.slot, hst, hs]⟩)
  | releasing =>
    obtain ⟨stream, hs⟩ := Option.isSome_iff_exists.mp (hknown (Or.inr hst))
    exact Or.inr (Or.inr (Or.inl ⟨stream, rfl, hs, by rw [Entry.slot, hst, hs]⟩))
  | uncertain => exact Or.inr (Or.inr (Or.inr ⟨rfl, by rw [Entry.slot, hst]⟩))

/-- An uncertain slot is an uncertain entry. -/
theorem lookup_of_slot_uncertain {t : Table} {k : Key} (h : slot t k = .uncertain) :
    ∃ entry, t.lookup k = some entry ∧ entry.state = .uncertain := by
  rw [slot] at h
  split at h
  · cases h
  · rename_i entry hl
    refine ⟨entry, hl, ?_⟩
    rcases entry.slot_cases with ⟨-, hs⟩ | ⟨_, -, -, hs⟩ | ⟨_, -, -, hs⟩ | ⟨hst, -⟩
    · rw [hs] at h; cases h
    · rw [hs] at h; cases h
    · rw [hs] at h; cases h
    · exact hst

theorem slot_exec_of_ne {c : Call} {k : Key} (t : Table) (h : k ≠ c.key) :
    slot (exec c t).2 k = slot t k := by
  rw [slot, slot, lookup_exec_of_ne t h]

/-- **The table refines the life cycle.** A call moves the slot of its own key
as the life cycle does, and is refused exactly where the life cycle has no
such move – or, for a reservation, where the table is full. -/
theorem exec_slot (c : Call) (t : Table) :
    ((exec c t).1 = .ok () ∧
        (slot t c.key).next c.op = some (slot (exec c t).2 c.key)) ∨
      ((exec c t).1 ≠ .ok () ∧
        ((slot t c.key).next c.op = none ∨ c.op = .reserve ∧ 8 ≤ t.keys.length)) := by
  obtain ⟨key, op⟩ := c
  cases hl : t.lookup key with
  | none =>
    have hslot : slot t key = .free := by rw [slot, hl]
    have hmem : key ∉ t := AList.lookup_eq_none.mp hl
    -- a free slot is left by a reservation only, and a failure is lost on it
    cases op with
    | reserve =>
      by_cases hfull : 8 ≤ t.keys.length
      · exact Or.inr ⟨by simp [exec, reserve, hmem, hfull], Or.inr ⟨rfl, hfull⟩⟩
      · refine Or.inl ?_
        simp [exec, reserve, hmem, hfull, hslot, Slot.next, Entry.slot]
    | allocationFailed known =>
      refine Or.inl ?_
      simp [exec, allocationFailed, hl, hslot, Slot.next]
    | _ =>
      refine Or.inr ⟨?_, Or.inl (by rw [hslot]; rfl)⟩
      simp [exec, commit, startRelease, releaseFinished, hl]
  | some entry =>
    have hslot : slot t key = entry.slot := by rw [slot, hl]
    have hmem : key ∈ t := AList.lookup_isSome.mp (by rw [hl]; rfl)
    cases op with
    | reserve =>
      refine Or.inr ⟨by simp [exec, reserve, hmem], Or.inl ?_⟩
      rw [hslot]
      rcases entry.slot_cases with ⟨-, hs⟩ | ⟨_, -, -, hs⟩ | ⟨_, -, -, hs⟩ | ⟨-, hs⟩ <;>
        rw [hs] <;> rfl
    | commit stream =>
      by_cases hr : stream = reservedStream
      · refine Or.inr ⟨by simp [exec, commit, hl, hr], Or.inl ?_⟩
        rw [hslot]
        rcases entry.slot_cases with ⟨-, hs⟩ | ⟨_, -, -, hs⟩ | ⟨_, -, -, hs⟩ | ⟨-, hs⟩ <;>
          simp [hs, Slot.next, hr]
      · rcases entry.slot_cases with ⟨hst, hs⟩ | ⟨_, hst, -, hs⟩ | ⟨_, hst, -, hs⟩ |
          ⟨hst, hs⟩
        · exact Or.inl (by simp [exec, commit, hl, hst, hr, hslot, Slot.next, Entry.slot])
        all_goals
          exact Or.inr (by simp [exec, commit, hl, hst, hslot, hs, Slot.next])
    | allocationFailed known =>
      refine Or.inl ?_
      rcases entry.slot_cases with ⟨hst, hs⟩ | ⟨_, hst, -, hs⟩ | ⟨_, hst, -, hs⟩ |
        ⟨hst, hs⟩
      · cases known <;> simp [exec, allocationFailed, hl, hst, hslot, hs, Slot.next]
      all_goals simp [exec, allocationFailed, hl, hst, hslot, hs, Slot.next]
    | startRelease stream =>
      rcases entry.slot_cases with ⟨hst, hs⟩ | ⟨owner, hst, hstr, hs⟩ | ⟨_, hst, -, hs⟩ |
        ⟨hst, hs⟩
      case inr.inl =>
        by_cases heq : owner = stream
        · refine Or.inl ?_
          simp [exec, startRelease, hl, hst, hstr, hslot, Slot.next, Entry.slot, heq]
        · refine Or.inr ?_
          simp [exec, startRelease, hl, hst, hstr, hslot, hs, Slot.next, heq]
      all_goals
        exact Or.inr (by simp [exec, startRelease, hl, hst, hslot, hs, Slot.next])
    | releaseFinished ok =>
      rcases entry.slot_cases with ⟨hst, hs⟩ | ⟨_, hst, -, hs⟩ | ⟨_, hst, -, hs⟩ |
        ⟨hst, hs⟩
      case inr.inr.inl =>
        refine Or.inl ?_
        cases ok <;> simp [exec, releaseFinished, hl, hst, hslot, hs, Slot.next]
      all_goals
        exact Or.inr (by simp [exec, releaseFinished, hl, hst, hslot, hs, Slot.next])

/-- A call that throws leaves its slot, a call that returns moves it. -/
theorem slot_exec_of_ok {c : Call} {t : Table} (h : (exec c t).1 = .ok ()) :
    (slot t c.key).next c.op = some (slot (exec c t).2 c.key) := by
  rcases exec_slot c t with ⟨-, hn⟩ | ⟨hne, -⟩
  · exact hn
  · exact absurd h hne

/-- A call that the life cycle has no move for throws. -/
theorem exec_ne_ok {c : Call} {t : Table} (h : (slot t c.key).next c.op = none) :
    (exec c t).1 ≠ .ok () := by
  intro hok
  rw [slot_exec_of_ok hok] at h
  cases h

theorem exec_of_ne_ok {c : Call} {t : Table} (h : (exec c t).1 ≠ .ok ()) :
    (exec c t).2 = t := by
  cases hr : (exec c t).1 with
  | error e => exact exec_of_error hr
  | ok u => exact absurd hr h

/-- The two ways to own a stream: to commit it, and to own it already and see
an allocation fail that is not pending. -/
theorem Slot.eq_owned_of_next {slot : Slot} {op : Op} {stream : UInt16}
    (h : slot.next op = some (.owned stream)) :
    op = .commit stream ∨ slot = .owned stream ∧ ∃ known, op = .allocationFailed known := by
  cases slot <;> cases op <;>
    simp only [Slot.next, Option.some.injEq, reduceCtorEq, Option.ite_none_left_eq_some,
      Slot.owned.injEq] at h
  case pending.commit => exact Or.inl (by rw [h.2])
  case pending.allocationFailed known => cases known <;> cases h
  case owned.allocationFailed known => exact Or.inr ⟨by rw [h], known, rfl⟩
  all_goals (split at h <;> cases h)

/-- Only the owner of a stream starts its release. -/
theorem Slot.owned_of_startRelease {slot slot' : Slot} {stream : UInt16}
    (h : slot.next (.startRelease stream) = some slot') : slot = .owned stream := by
  cases slot <;> simp only [Slot.next, reduceCtorEq, Option.ite_none_right_eq_some] at h
  rw [h.1]

/-! ## Histories -/

/-- The table a sequence of calls leaves. -/
def runCalls (t : Table) (cs : List Call) : Table :=
  cs.foldl (fun t c => (exec c t).2) t

theorem runCalls_append (t : Table) (cs ds : List Call) :
    runCalls t (cs ++ ds) = runCalls (runCalls t cs) ds :=
  List.foldl_append

/-- The calls of a sequence that returned, in order. -/
def acceptedCalls (t : Table) : List Call → List Call
  | [] => []
  | c :: cs =>
    if (exec c t).1 = .ok () then c :: acceptedCalls (exec c t).2 cs
    else acceptedCalls (exec c t).2 cs

theorem acceptedCalls_concat (t : Table) (cs : List Call) (c : Call) :
    acceptedCalls t (cs ++ [c])
      = if (exec c (runCalls t cs)).1 = .ok () then acceptedCalls t cs ++ [c]
        else acceptedCalls t cs := by
  induction cs generalizing t with
  | nil => rfl
  | cons d cs ih =>
    rw [List.cons_append, acceptedCalls, acceptedCalls, ih]
    show _ = if (exec c (runCalls (exec d t).2 cs)).1 = .ok () then _ else _
    split_ifs <;> rfl

/-- **The stream is the latest commit's, and not released since**: the history
has a commit of `stream` for the key, and after it neither another commit of
that key nor a started release of it. -/
def CommittedSince (history : List Call) (k : Key) (stream : UInt16) : Prop :=
  ∃ pre post, history = pre ++ ⟨k, .commit stream⟩ :: post ∧
    ∀ c ∈ post, c.key = k → ∀ other, c.op ≠ .commit other ∧ c.op ≠ .startRelease other

theorem CommittedSince.concat {history : List Call} {k : Key} {stream : UInt16}
    (h : CommittedSince history k stream) {c : Call}
    (hc : c.key = k → ∀ other, c.op ≠ .commit other ∧ c.op ≠ .startRelease other) :
    CommittedSince (history ++ [c]) k stream := by
  obtain ⟨pre, post, rfl, hpost⟩ := h
  refine ⟨pre, post ++ [c], by rw [List.append_assoc, List.cons_append], ?_⟩
  intro d hd
  rcases List.mem_append.mp hd with hd | hd
  · exact hpost d hd
  · rw [List.mem_singleton.mp hd]
    exact hc

/-- **An owned slot has its commit in the history**, and no release since: the
invariant behind the once-only release. -/
theorem committedSince_of_owned (cs : List Call) {k : Key} {stream : UInt16}
    (h : slot (runCalls ∅ cs) k = .owned stream) :
    CommittedSince (acceptedCalls ∅ cs) k stream := by
  induction cs using List.reverseRecOn with
  | nil => cases h
  | append_singleton cs c ih =>
    rw [runCalls_append] at h
    change slot (exec c (runCalls ∅ cs)).2 k = .owned stream at h
    rw [acceptedCalls_concat]
    by_cases hk : k = c.key
    · subst hk
      by_cases hok : (exec c (runCalls ∅ cs)).1 = .ok ()
      · rw [if_pos hok]
        have hnext := slot_exec_of_ok hok
        rw [h] at hnext
        rcases Slot.eq_owned_of_next hnext with hop | ⟨hslot, known, hop⟩
        · obtain ⟨key, op⟩ := c
          cases hop
          exact ⟨_, [], rfl, by simp⟩
        · exact (ih hslot).concat (fun _ other => by simp [hop])
      · rw [if_neg hok]
        rw [exec_of_ne_ok hok] at h
        exact ih h
    · rw [slot_exec_of_ne _ hk] at h
      have hold := ih h
      split
      · exact hold.concat (fun hc => absurd hc.symm hk)
      · exact hold

/-- An uncertain slot is uncertain after any further calls. -/
theorem slot_runCalls_uncertain {t : Table} {k : Key} (h : slot t k = .uncertain)
    (cs : List Call) : slot (runCalls t cs) k = .uncertain := by
  induction cs generalizing t with
  | nil => exact h
  | cons c cs ih =>
    refine ih (t := (exec c t).2) ?_
    by_cases hk : k = c.key
    · subst hk
      by_cases hok : (exec c t).1 = .ok ()
      · have hnext := slot_exec_of_ok hok
        rw [h] at hnext
        exact Slot.next_uncertain hnext
      · rw [exec_of_ne_ok hok]
        exact h
    · rw [slot_exec_of_ne t hk]
      exact h

theorem length_keys_runCalls {t : Table} (h : t.keys.length ≤ 8) (cs : List Call) :
    (runCalls t cs).keys.length ≤ 8 := by
  induction cs generalizing t with
  | nil => exact h
  | cons c cs ih => exact ih (length_keys_exec h)

/-- **The ownership policy, over whole histories.** After any sequence of
calls, from the empty table: there are at most eight entries; a call that
throws leaves the table; no call changes the entry of another key; a release
starts only for the stream of the latest commit of its key, and not twice
after one commit; and an uncertain entry is uncertain for ever, its key
refusing every reservation, commit and release. -/
theorem ownership_policy (cs : List Call) :
    (runCalls ∅ cs).keys.length ≤ 8 ∧
    (∀ c e, (exec c (runCalls ∅ cs)).1 = .error e →
      (exec c (runCalls ∅ cs)).2 = runCalls ∅ cs) ∧
    (∀ c k, k ≠ c.key →
      (exec c (runCalls ∅ cs)).2.lookup k = (runCalls ∅ cs).lookup k) ∧
    (∀ k stream, (exec ⟨k, .startRelease stream⟩ (runCalls ∅ cs)).1 = .ok () →
      CommittedSince (acceptedCalls ∅ cs) k stream) ∧
    (∀ k entry, (runCalls ∅ cs).lookup k = some entry → entry.state = .uncertain →
      ∀ ds, (∃ later, (runCalls ∅ (cs ++ ds)).lookup k = some later
          ∧ later.state = .uncertain) ∧
        (exec ⟨k, .reserve⟩ (runCalls ∅ (cs ++ ds))).1 ≠ .ok () ∧
        ∀ stream, (exec ⟨k, .commit stream⟩ (runCalls ∅ (cs ++ ds))).1 ≠ .ok () ∧
          (exec ⟨k, .startRelease stream⟩ (runCalls ∅ (cs ++ ds))).1 ≠ .ok ()) := by
  refine ⟨length_keys_runCalls (by simp) cs, fun c e => exec_of_error,
    fun c k hk => lookup_exec_of_ne _ hk, fun k stream hok => ?_,
    fun k entry hl hst ds => ?_⟩
  · exact committedSince_of_owned cs
      (Slot.owned_of_startRelease (slot_exec_of_ok (c := ⟨k, _⟩) hok))
  · have hslot : slot (runCalls ∅ (cs ++ ds)) k = .uncertain := by
      rw [runCalls_append]
      exact slot_runCalls_uncertain (by simp [slot, hl, Entry.slot, hst]) ds
    have hrefused : ∀ op, Slot.uncertain.next op = none →
        (exec ⟨k, op⟩ (runCalls ∅ (cs ++ ds))).1 ≠ .ok () :=
      fun op hop => exec_ne_ok (c := ⟨k, op⟩) (by rw [hslot]; exact hop)
    refine ⟨?_, hrefused _ rfl, fun stream => ⟨hrefused _ rfl, hrefused _ rfl⟩⟩
    exact lookup_of_slot_uncertain hslot

end CameraAudioAllocationOwnership
