import Mathlib.Logic.Function.Basic
import MatterController.AudioOwnership
import MatterController.InvokeState
import MatterController.Machine
import MatterController.PendingRelease

/-!
# Allocating and deallocating audio streams, concurrently

Any number of `AllocateCameraAudioStream` and `DeallocateCameraAudioStream`
calls run on one controller, and share its ownership table. An allocation
reserves the entry of its (node, endpoint), commits it to the stream the camera
answers with, or forgets it or marks it uncertain when it fails; a
deallocation, of a caller or of an allocation's own rollback, starts and
finishes the release of a committed entry. Every call on the table names its
entry by (node, endpoint) only, so whose entry it finds there is a matter of
the interleaving.

`Allocation.Holds` says when an allocation is between its reservation and its
own commit or failure; the invariant `KeyInv` says, for each key, that an
allocation that holds it finds its entry pending and is the only one, and that
a deallocation under way finds it releasing and is the only one. One step
breaks it: an allocation that had committed runs its failure handler after its
rollback has erased the entry, and finds there what a second allocation
reserved meanwhile. `Undisturbed` is the condition that no step is this one;
`entry_changed_by_another` is a run where one is.
-/

namespace AudioAllocation

open CameraAudioAllocationOwnership

/-- Where a run of `DeallocateCameraAudioStream` stands: before `StartRelease`,
inside the command, before `ReleaseFinished`, or ended – with what it throws. -/
inductive DeallocPc
  | idle
  | starting
  | invoking
  | finishing (failure : Option Exn)
  | ended (failure : Option Exn)
  deriving DecidableEq, Repr

/-- **A run of `DeallocateCameraAudioStream`.** -/
structure Dealloc where
  key : Key := ⟨0, 0⟩
  stream : UInt16 := 0
  pc : DeallocPc := .idle
  deriving DecidableEq, Repr

/-- Who runs a deallocation: a caller of `DeallocateAudioStreamAsync`, or the
release an allocation owes. -/
inductive Caller
  | user (call : ℕ)
  | rollback (allocation : ℕ)
  deriving DecidableEq, Repr

/-- The step of a deallocation, the command answering with `failure`, and the
table it leaves. -/
def Dealloc.step (t : Table) (failure : Option Exn) (d : Dealloc) :
    Option (Dealloc × Table) :=
  match d.pc with
  | .starting =>
    let r := exec ⟨d.key, .startRelease d.stream⟩ t
    let pc := match r.1 with
      | .error exn => .ended (some exn)
      | .ok () => .invoking
    some ({ d with pc := pc }, r.2)
  | .invoking => some ({ d with pc := .finishing failure }, t)
  | .finishing failure =>
    let r := exec ⟨d.key, .releaseFinished failure.isNone⟩ t
    let pc := match r.1 with
      | .error exn => .ended (some exn)
      | .ok () => .ended failure
    some ({ d with pc := pc }, r.2)
  | _ => none

/-- **Where an allocation stands.** `preparing` is everything before `Reserve`;
`invoking` and `dispatched` are inside `InvokeCommand`; `rollback` and
`releasing` are the inner error handler, before and inside `Release`;
`handling` is the outer one, before `AllocationFailed`, and knows whether the
exception left the inner one, so after an accepted `Commit`; `wrapping`,
`wrapRollback` and `wrapReleasing` are `TryAllocateAudioStreamAsync` around
the whole. -/
inductive Pc
  | idle
  | preparing
  | reserving
  | invoking
  | dispatched
  | committing (streamId : UInt16)
  | recording (streamId : UInt16)
  | testingAfter
  | readingBack
  | returning
  | wrapping
  | rollback (failure : Exn)
  | releasing (call : ℕ) (failure : Exn) (failedStage : CameraStage)
  | handling (exn : Exn) (committed : Bool)
  | wrapRollback
  | wrapReleasing (call : ℕ)
  | ended
  deriving Repr

/-- **An allocation**: its key, its coroutine with the stage and the flag it
polls, its cancellation, and the release it owes. -/
structure Allocation where
  key : Key := ⟨0, 0⟩
  pc : Pc := .idle
  stage : CameraStage := .validation
  flag : Bool := false
  cancellation : Cancellation := .idle
  cleanup : Cleanup UInt16 Exn := {}
  deriving Repr

/-- **The controller**: the table, and the allocations and deallocations that
run on it. -/
structure State where
  table : Table := ∅
  allocs : ℕ → Allocation := fun _ => {}
  deallocs : Caller → Dealloc := fun _ => {}

/-- What a step of an allocation is answered. -/
inductive Answer
  | go
  | throws (exn : Exn)
  | response (streamId : UInt16)
  deriving DecidableEq, Repr

/-- **A step of the controller.** -/
inductive Action
  | allocate (i : ℕ) (key : Key)
  | main (i : ℕ) (answer : Answer)
  | cancel (i : ℕ)
  | release (i call : ℕ)
  | releaseEnds (i call : ℕ)
  | deallocate (call : ℕ) (key : Key) (stream : UInt16)
  | dealloc (caller : Caller) (failure : Option Exn)
  deriving DecidableEq, Repr

/-- Replaces one allocation. -/
def State.setAlloc (s : State) (i : ℕ) (x : Allocation) : State :=
  { s with allocs := Function.update s.allocs i x }

/-- Replaces one deallocation. -/
def State.setDealloc (s : State) (c : Caller) (d : Dealloc) : State :=
  { s with deallocs := Function.update s.deallocs c d }

/-- **The step of an allocation.** -/
def mainStep (s : State) (i : ℕ) (a : Answer) : Option State :=
  let x := s.allocs i
  match x.pc, a with
  | .preparing, .go =>
    if x.flag then some (s.setAlloc i { x with pc := .ended })
    else some (s.setAlloc i { x with pc := .reserving, stage := .validation })
  | .preparing, .throws _ => some (s.setAlloc i { x with pc := .ended })
  | .reserving, .go =>
    let r := exec ⟨x.key, .reserve⟩ s.table
    let pc := match r.1 with
      | .error _ => .ended
      | .ok () => .invoking
    some { s.setAlloc i { x with pc := pc } with table := r.2 }
  | .invoking, .go =>
    some (s.setAlloc i { x with pc := .dispatched, stage := .streamAllocation })
  | .invoking, .throws exn => some (s.setAlloc i { x with pc := .handling exn false })
  | .dispatched, .response streamId =>
    some (s.setAlloc i { x with pc := .committing streamId })
  | .dispatched, .throws exn => some (s.setAlloc i { x with pc := .handling exn false })
  | .committing streamId, .go =>
    let r := exec ⟨x.key, .commit streamId⟩ s.table
    let pc := match r.1 with
      | .error exn => .handling exn false
      | .ok () => .recording streamId
    some { s.setAlloc i { x with pc := pc } with table := r.2 }
  | .recording streamId, .go =>
    some (s.setAlloc i
      { x with pc := .testingAfter, cleanup := x.cleanup.record streamId })
  | .testingAfter, .go =>
    if x.flag then some (s.setAlloc i { x with pc := .rollback .canceled })
    else some (s.setAlloc i { x with pc := .readingBack, stage := .streamSelection })
  | .readingBack, .go => some (s.setAlloc i { x with pc := .returning })
  | .readingBack, .throws exn => some (s.setAlloc i { x with pc := .rollback exn })
  | .returning, .go =>
    if x.flag then some (s.setAlloc i { x with pc := .rollback .canceled })
    else some (s.setAlloc i { x with pc := .wrapping })
  | .wrapping, .go => some (s.setAlloc i { x with pc := .ended })
  | .wrapping, .throws _ => some (s.setAlloc i { x with pc := .wrapRollback })
  | .rollback failure, .go =>
    some (s.setAlloc i { x with
      pc := .releasing x.cleanup.calls.length failure x.stage
      stage := .streamDeallocation
      cleanup := x.cleanup.call })
  | .releasing k failure failedStage, .go =>
    match x.cleanup.calls[k]? with
    | some (.returned none) =>
      some (s.setAlloc i { x with pc := .handling failure true, stage := failedStage })
    | some (.returned (some exn)) => some (s.setAlloc i { x with pc := .handling exn true })
    | _ => none
  | .handling exn _, .go =>
    some { s.setAlloc i { x with pc := .ended } with
      table := (exec ⟨x.key, .allocationFailed
        (GenericInvokeState.knownRejection x.stage exn)⟩ s.table).2 }
  | .wrapRollback, .go =>
    some (s.setAlloc i { x with
      pc := .wrapReleasing x.cleanup.calls.length
      stage := .streamDeallocation
      cleanup := x.cleanup.call })
  | .wrapReleasing k, .go =>
    match x.cleanup.calls[k]? with
    | some (.returned _) => some (s.setAlloc i { x with pc := .ended })
    | _ => none
  | _, _ => none

/-- The next step of an allocation's cancellation: requested while it runs, and
the two steps of the callback. -/
def cancelStep (s : State) (i : ℕ) : Option State :=
  let x := s.allocs i
  match x.cancellation with
  | .idle =>
    match x.pc with
    | .idle | .ended => none
    | _ => some (s.setAlloc i { x with cancellation := .requested })
  | .requested => some (s.setAlloc i { x with cancellation := .stored, flag := true })
  | .stored =>
    some (s.setAlloc i { x with cancellation := .done, cleanup := x.cleanup.cancel })
  | .done => none

/-- The step of a call of `Release`: one that runs the release function starts
its deallocation. -/
def releaseStep (s : State) (i k : ℕ) : Option State :=
  let x := s.allocs i
  (x.cleanup.advance k).map fun c =>
    let s := s.setAlloc i { x with cleanup := c }
    match c.calls[k]? with
    | some (.running streamId) => s.setDealloc (.rollback i) ⟨x.key, streamId, .starting⟩
    | _ => s

/-- **The step of the controller.** -/
def step (s : State) : Action → Option State
  | .allocate i key =>
    match (s.allocs i).pc with
    | .idle => some (s.setAlloc i { key := key, pc := .preparing })
    | _ => none
  | .main i a => mainStep s i a
  | .cancel i => cancelStep s i
  | .release i k => releaseStep s i k
  | .releaseEnds i k =>
    let x := s.allocs i
    match (s.deallocs (.rollback i)).pc with
    | .ended failure =>
      (x.cleanup.finish k failure).map fun c => s.setAlloc i { x with cleanup := c }
    | _ => none
  | .deallocate j key stream =>
    if (s.deallocs (.user j)).pc = .idle then
      some (s.setDealloc (.user j) ⟨key, stream, .starting⟩)
    else none
  | .dealloc c failure =>
    ((s.deallocs c).step s.table failure).map fun (d, t) =>
      { s.setDealloc c d with table := t }

/-- **The controller**, from an empty table. -/
def machine : Machine State Action := ⟨{}, step⟩

/-! ## Who an entry belongs to -/

/-- **An allocation holds its key** from its reservation to its own `Commit` or
its own `AllocationFailed`. -/
def Allocation.Holds (x : Allocation) : Prop :=
  match x.pc with
  | .invoking => True
  | .dispatched => True
  | .committing _ => True
  | .handling _ committed => committed = false
  | _ => False

/-- A deallocation is under way from its `StartRelease` to its
`ReleaseFinished`. -/
def Dealloc.Active (d : Dealloc) : Prop :=
  match d.pc with
  | .invoking => True
  | .finishing _ => True
  | _ => False

/-- Allocation `i` holds the key `k`. -/
def State.Holds (s : State) (i : ℕ) (k : Key) : Prop :=
  (s.allocs i).Holds ∧ (s.allocs i).key = k

/-- Deallocation `c` of the key `k` is under way. -/
def State.Active (s : State) (c : Caller) (k : Key) : Prop :=
  (s.deallocs c).Active ∧ (s.deallocs c).key = k

/-- **The invariant of one key**: an allocation that holds it finds the entry
pending and is the only one, and so is a deallocation under way, which finds
it releasing. -/
structure KeyInv (s : State) (k : Key) : Prop where
  pending : ∀ i, s.Holds i k → slot s.table k = .pending
  holder_unique : ∀ i j, s.Holds i k → s.Holds j k → i = j
  releasing : ∀ c, s.Active c k → ∃ stream, slot s.table k = .releasing stream
  active_unique : ∀ c d, s.Active c k → s.Active d k → c = d

/-- **A step breaks the ownership** where an allocation that has committed runs
its failure handler while the entry of its key is pending: its own is not. No
other step does. -/
def Undisturbed (s : State) : Action → Prop
  | .main i _ => ∀ exn, (s.allocs i).pc = .handling exn true →
      slot s.table (s.allocs i).key ≠ .pending
  | _ => True

/-! ## What a step can do -/

/-- **The steps of the controller**, by the call they make on the table. Most
make none, and only let allocations and deallocations leave their critical
parts; the five that do are the five operations, each on its caller's key. -/
inductive Step (s : State) : Action → State → Prop
  | quiet (a : Action) (t : State) (table : t.table = s.table)
      (holds : ∀ i k, t.Holds i k → s.Holds i k)
      (active : ∀ c k, t.Active c k → s.Active c k) : Step s a t
  | reserve (i : ℕ) (a : Answer) (x : Allocation) (key : x.key = (s.allocs i).key)
      (ok : (exec ⟨(s.allocs i).key, .reserve⟩ s.table).1 = .ok ()) :
      Step s (.main i a)
        { s.setAlloc i x with
          table := (exec ⟨(s.allocs i).key, .reserve⟩ s.table).2 }
  | commit (i : ℕ) (a : Answer) (streamId : UInt16) (x : Allocation)
      (key : x.key = (s.allocs i).key) (holds : (s.allocs i).Holds) (left : ¬ x.Holds)
      (ok : (exec ⟨(s.allocs i).key, .commit streamId⟩ s.table).1 = .ok ()) :
      Step s (.main i a)
        { s.setAlloc i x with
          table := (exec ⟨(s.allocs i).key, .commit streamId⟩ s.table).2 }
  | handle (i : ℕ) (a : Answer) (exn : Exn) (committed known : Bool) (x : Allocation)
      (key : x.key = (s.allocs i).key) (pc : (s.allocs i).pc = .handling exn committed)
      (left : ¬ x.Holds) :
      Step s (.main i a)
        { s.setAlloc i x with
          table := (exec ⟨(s.allocs i).key, .allocationFailed known⟩ s.table).2 }
  | startRelease (c : Caller) (failure : Option Exn) (d : Dealloc) (stream : UInt16)
      (key : d.key = (s.deallocs c).key)
      (ok : (exec ⟨(s.deallocs c).key, .startRelease stream⟩ s.table).1 = .ok ()) :
      Step s (.dealloc c failure)
        { s.setDealloc c d with
          table := (exec ⟨(s.deallocs c).key, .startRelease stream⟩ s.table).2 }
  | releaseFinished (c : Caller) (failure : Option Exn) (d : Dealloc) (succeeded : Bool)
      (key : d.key = (s.deallocs c).key) (active : (s.deallocs c).Active)
      (left : ¬ d.Active)
      (ok : (exec ⟨(s.deallocs c).key, .releaseFinished succeeded⟩ s.table).1 = .ok ()) :
      Step s (.dealloc c failure)
        { s.setDealloc c d with
          table := (exec ⟨(s.deallocs c).key, .releaseFinished succeeded⟩ s.table).2 }

/-- Who holds a key after an allocation was replaced. -/
theorem State.Holds.setAlloc {s : State} {i j : ℕ} {x : Allocation} {k : Key}
    (h : (s.setAlloc i x).Holds j k) :
    (j = i ∧ x.Holds ∧ x.key = k) ∨ (j ≠ i ∧ s.Holds j k) := by
  unfold State.Holds State.setAlloc at h
  by_cases hij : j = i
  · subst hij
    simp only [Function.update_self] at h
    exact Or.inl ⟨rfl, h⟩
  · simp only [Function.update_of_ne hij] at h
    exact Or.inr ⟨hij, h⟩

theorem State.Holds.of_setAlloc {s : State} {i j : ℕ} {x : Allocation} {k : Key}
    (hx : x.Holds → (s.allocs i).Holds ∧ x.key = (s.allocs i).key)
    (h : (s.setAlloc i x).Holds j k) : s.Holds j k := by
  rcases h.setAlloc with ⟨rfl, hholds, hk⟩ | ⟨-, hj⟩
  · exact ⟨(hx hholds).1, (hx hholds).2 ▸ hk⟩
  · exact hj

/-- Which deallocations are under way after one was replaced. -/
theorem State.Active.setDealloc {s : State} {c e : Caller} {d : Dealloc} {k : Key}
    (h : (s.setDealloc c d).Active e k) :
    (e = c ∧ d.Active ∧ d.key = k) ∨ (e ≠ c ∧ s.Active e k) := by
  unfold State.Active State.setDealloc at h
  by_cases hec : e = c
  · subst hec
    simp only [Function.update_self] at h
    exact Or.inl ⟨rfl, h⟩
  · simp only [Function.update_of_ne hec] at h
    exact Or.inr ⟨hec, h⟩

theorem State.Active.of_setDealloc {s : State} {c e : Caller} {d : Dealloc} {k : Key}
    (hd : d.Active → (s.deallocs c).Active ∧ d.key = (s.deallocs c).key)
    (h : (s.setDealloc c d).Active e k) : s.Active e k := by
  rcases h.setDealloc with ⟨rfl, hactive, hk⟩ | ⟨-, he⟩
  · exact ⟨(hd hactive).1, (hd hactive).2 ▸ hk⟩
  · exact he

theorem Step.of_setAlloc {s : State} (a : Action) {i : ℕ} {x : Allocation}
    (hx : x.Holds → (s.allocs i).Holds ∧ x.key = (s.allocs i).key) :
    Step s a (s.setAlloc i x) :=
  .quiet a _ rfl (fun _ _ h => h.of_setAlloc hx) (fun _ _ h => h)

theorem Step.of_setDealloc {s : State} (a : Action) {c : Caller} {d : Dealloc}
    (hd : d.Active → (s.deallocs c).Active ∧ d.key = (s.deallocs c).key) :
    Step s a (s.setDealloc c d) :=
  .quiet a _ rfl (fun _ _ h => h) (fun _ _ h => h.of_setDealloc hd)

/-- An accepted call leaves `ok`, a refused one the table. -/
theorem exec_ok_or_same (c : Call) (t : Table) :
    (exec c t).1 = .ok () ∨ (∃ exn, (exec c t).1 = .error exn) ∧ (exec c t).2 = t := by
  cases h : (exec c t).1 with
  | ok u => exact Or.inl rfl
  | error exn => exact Or.inr ⟨⟨exn, rfl⟩, exec_of_error h⟩

/-- The step function of an allocation takes only these steps. -/
theorem mainStep_spec {s t : State} {i : ℕ} {a : Answer} (h : mainStep s i a = some t) :
    Step s (.main i a) t := by
  unfold mainStep at h
  dsimp only at h
  cases hpc : (s.allocs i).pc <;> rw [hpc] at h
  case idle | ended => cases h
  case preparing | testingAfter | returning =>
    cases a with
    | go =>
      dsimp only at h
      split at h <;> cases h <;> exact .of_setAlloc _ (fun hx => by cases hx)
    | _ => cases h <;> exact .of_setAlloc _ (fun hx => by cases hx)
  case readingBack | wrapping | rollback | wrapRollback | recording =>
    cases a <;> cases h <;> exact .of_setAlloc _ (fun hx => by cases hx)
  case reserving =>
    cases a <;> cases h
    rcases exec_ok_or_same ⟨(s.allocs i).key, .reserve⟩ s.table with hok | ⟨⟨exn, he⟩, hsame⟩
    · exact .reserve i _ _ rfl hok
    · rw [hsame, he]
      exact .of_setAlloc _ (fun hx => by cases hx)
  case invoking | dispatched =>
    cases a <;> cases h <;>
      exact .of_setAlloc _ (fun _ => ⟨by simp [Allocation.Holds, hpc], rfl⟩)
  case committing streamId =>
    cases a <;> cases h
    have hholds : (s.allocs i).Holds := by simp [Allocation.Holds, hpc]
    rcases exec_ok_or_same ⟨(s.allocs i).key, .commit streamId⟩ s.table with
      hok | ⟨⟨exn, he⟩, hsame⟩
    · refine .commit i _ streamId _ rfl hholds ?_ hok
      simp [Allocation.Holds, hok]
    · rw [hsame, he]
      exact .of_setAlloc _ (fun _ => ⟨hholds, rfl⟩)
  case releasing k failure failedStage | wrapReleasing k =>
    cases a with
    | go =>
      dsimp only at h
      split at h <;> cases h <;> exact .of_setAlloc _ (fun hx => by cases hx)
    | _ => cases h
  case handling exn committed =>
    cases a <;> cases h
    exact .handle i _ exn committed _ _ rfl hpc (fun hx => by cases hx)

/-- So does the step function of a deallocation. -/
theorem deallocStep_spec {s : State} {c : Caller} {failure : Option Exn} {d : Dealloc}
    {t : Table} (h : (s.deallocs c).step s.table failure = some (d, t)) :
    Step s (.dealloc c failure) { s.setDealloc c d with table := t } := by
  unfold Dealloc.step at h
  dsimp only at h
  split at h
  · obtain ⟨rfl, rfl⟩ := Prod.mk.inj (Option.some.inj h)
    rcases exec_ok_or_same ⟨(s.deallocs c).key, .startRelease (s.deallocs c).stream⟩ s.table
      with hok | ⟨⟨exn, he⟩, hsame⟩
    · exact .startRelease c _ _ _ rfl hok
    · rw [hsame, he]
      exact .of_setDealloc _ (fun hd => by cases hd)
  · rename_i hpc
    obtain ⟨rfl, rfl⟩ := Prod.mk.inj (Option.some.inj h)
    exact .of_setDealloc _ (fun _ => ⟨by simp [Dealloc.Active, hpc], rfl⟩)
  · rename_i f hpc
    obtain ⟨rfl, rfl⟩ := Prod.mk.inj (Option.some.inj h)
    have hactive : (s.deallocs c).Active := by simp [Dealloc.Active, hpc]
    rcases exec_ok_or_same ⟨(s.deallocs c).key, .releaseFinished f.isNone⟩ s.table
      with hok | ⟨⟨exn, he⟩, hsame⟩
    · refine .releaseFinished c _ _ _ rfl hactive ?_ hok
      simp [Dealloc.Active, hok]
    · rw [hsame, he]
      exact .of_setDealloc _ (fun hd => by cases hd)
  · cases h

/-- **The step function takes only these steps.** -/
theorem step_spec {s t : State} {a : Action} (h : step s a = some t) : Step s a t := by
  cases a with
  | allocate i key =>
    unfold step at h
    dsimp only at h
    split at h
    · obtain rfl := Option.some.inj h
      exact .of_setAlloc _ (fun hx => by cases hx)
    · cases h
  | main i a => exact mainStep_spec h
  | cancel i =>
    unfold step cancelStep at h
    dsimp only at h
    split at h
    · split at h
      · cases h
      · cases h
      · obtain rfl := Option.some.inj h
        exact .of_setAlloc _ (fun hx => ⟨hx, rfl⟩)
    · obtain rfl := Option.some.inj h
      exact .of_setAlloc _ (fun hx => ⟨hx, rfl⟩)
    · obtain rfl := Option.some.inj h
      exact .of_setAlloc _ (fun hx => ⟨hx, rfl⟩)
    · cases h
  | release i k =>
    obtain ⟨c, hc, rfl⟩ := Option.map_eq_some_iff.mp h
    dsimp only
    split
    · refine .quiet _ _ rfl (fun j k hj => ?_) (fun e k he => ?_)
      · exact State.Holds.of_setAlloc (i := i) (x := { s.allocs i with cleanup := c })
          (fun hx => ⟨hx, rfl⟩) hj
      · exact State.Active.of_setDealloc (c := .rollback i) (fun hd => by cases hd) he
    · exact .of_setAlloc _ (fun hx => ⟨hx, rfl⟩)
  | releaseEnds i k =>
    unfold step at h
    dsimp only at h
    split at h
    · obtain ⟨c, hc, rfl⟩ := Option.map_eq_some_iff.mp h
      exact .of_setAlloc _ (fun hx => ⟨hx, rfl⟩)
    · cases h
  | deallocate j key stream =>
    unfold step at h
    dsimp only at h
    split at h
    · obtain rfl := Option.some.inj h
      exact .of_setDealloc _ (fun hd => by cases hd)
    · cases h
  | dealloc c failure =>
    obtain ⟨⟨d, t'⟩, hd, rfl⟩ := Option.map_eq_some_iff.mp h
    exact deallocStep_spec hd

/-! ## The invariant of a key -/

theorem keyInv_start (k : Key) : KeyInv machine.start k where
  pending := fun i h => by cases h.1
  holder_unique := fun i j h => by cases h.1
  releasing := fun c h => by cases h.1
  active_unique := fun c d h => by cases h.1

/-- **Frame**: a key whose entry stays, and that nobody starts to hold or to
release, keeps its invariant. -/
theorem KeyInv.frame {s t : State} {k : Key} (h : KeyInv s k)
    (hslot : slot t.table k = slot s.table k)
    (hholds : ∀ i, t.Holds i k → s.Holds i k)
    (hactive : ∀ c, t.Active c k → s.Active c k) : KeyInv t k where
  pending := fun i hi => by rw [hslot]; exact h.pending i (hholds i hi)
  holder_unique := fun i j hi hj => h.holder_unique i j (hholds i hi) (hholds j hj)
  releasing := fun c hc => by rw [hslot]; exact h.releasing c (hactive c hc)
  active_unique := fun c d hc hd => h.active_unique c d (hactive c hc) (hactive d hd)

/-- A key that at most `i` holds and nobody releases, if its entry is pending
where it does. -/
theorem KeyInv.of_holder {t : State} {k : Key} (i : ℕ)
    (hholds : ∀ j, t.Holds j k → j = i ∧ slot t.table k = .pending)
    (hactive : ∀ c, ¬ t.Active c k) : KeyInv t k where
  pending := fun j hj => (hholds j hj).2
  holder_unique := fun j l hj hl => (hholds j hj).1.trans (hholds l hl).1.symm
  releasing := fun c hc => absurd hc (hactive c)
  active_unique := fun c _ hc => absurd hc (hactive c)

/-- A key that nobody holds and at most `c` releases, if its entry is releasing
where it does. -/
theorem KeyInv.of_releaser {t : State} {k : Key} (c : Caller)
    (hholds : ∀ i, ¬ t.Holds i k)
    (hactive : ∀ d, t.Active d k → d = c ∧ ∃ stream, slot t.table k = .releasing stream) :
    KeyInv t k where
  pending := fun i hi => absurd hi (hholds i)
  holder_unique := fun i _ hi => absurd hi (hholds i)
  releasing := fun d hd => (hactive d hd).2
  active_unique := fun d e hd he => (hactive d hd).1.trans (hactive e he).1.symm

/-- Nobody holds a key whose entry is not pending. -/
theorem KeyInv.not_holds {s : State} {k : Key} (h : KeyInv s k)
    (hslot : slot s.table k ≠ .pending) (i : ℕ) : ¬ s.Holds i k :=
  fun hi => hslot (h.pending i hi)

/-- Nobody releases a key whose entry is not releasing. -/
theorem KeyInv.not_active {s : State} {k : Key} (h : KeyInv s k)
    (hslot : ∀ stream, slot s.table k ≠ .releasing stream) (c : Caller) :
    ¬ s.Active c k := by
  intro hc
  obtain ⟨stream, hs⟩ := h.releasing c hc
  exact hslot stream hs

/-- A reservation is a move from free to pending. -/
theorem slot_reserve {t : Table} {k : Key} (hok : (exec ⟨k, .reserve⟩ t).1 = .ok ()) :
    slot t k = .free ∧ slot (exec ⟨k, .reserve⟩ t).2 k = .pending := by
  have hnext := slot_exec_of_ok hok
  cases hs : slot t k <;> simp [hs, Slot.next] at hnext
  exact ⟨rfl, hnext.symm⟩

/-- A commit finds its entry pending. -/
theorem slot_commit {t : Table} {k : Key} {stream : UInt16}
    (hok : (exec ⟨k, .commit stream⟩ t).1 = .ok ()) : slot t k = .pending := by
  have hnext := slot_exec_of_ok hok
  cases hs : slot t k <;> simp [hs, Slot.next] at hnext
  rfl

/-- The start of a release is a move from owned to releasing. -/
theorem slot_startRelease {t : Table} {k : Key} {stream : UInt16}
    (hok : (exec ⟨k, .startRelease stream⟩ t).1 = .ok ()) :
    slot t k = .owned stream ∧
      slot (exec ⟨k, .startRelease stream⟩ t).2 k = .releasing stream := by
  have hnext := slot_exec_of_ok hok
  cases hs : slot t k <;> simp [hs, Slot.next] at hnext
  exact ⟨by rw [hnext.1], by rw [← hnext.2, hnext.1]⟩

/-- The end of a release finds its entry releasing. -/
theorem slot_releaseFinished {t : Table} {k : Key} {ok : Bool}
    (hok : (exec ⟨k, .releaseFinished ok⟩ t).1 = .ok ()) :
    ∃ stream, slot t k = .releasing stream := by
  have hnext := slot_exec_of_ok hok
  cases hs : slot t k <;> simp [hs, Slot.next] at hnext
  exact ⟨_, rfl⟩

/-- A failure leaves an entry that is not pending. -/
theorem slot_allocationFailed {t : Table} {k : Key} {known : Bool}
    (hne : slot t k ≠ .pending) :
    (exec ⟨k, .allocationFailed known⟩ t).2 = t := by
  unfold exec allocationFailed
  dsimp only
  split
  · rfl
  · rename_i entry hl
    split
    · rename_i hst
      exact absurd (by simp [slot, hl, Entry.slot, hst]) hne
    · rfl

/-- A step of an allocation leaves the invariant of the other keys. -/
theorem KeyInv.setAlloc_of_ne {s : State} {i : ℕ} {x : Allocation} {k : Key} {op : Op}
    (h : KeyInv s k) (hx : x.key = (s.allocs i).key) (hk : k ≠ (s.allocs i).key) :
    KeyInv { s.setAlloc i x with table := (exec ⟨(s.allocs i).key, op⟩ s.table).2 } k := by
  refine h.frame (slot_exec_of_ne s.table hk) (fun j hj => ?_) (fun _ hc => hc)
  rcases State.Holds.setAlloc (s := s) hj with ⟨-, -, hxk⟩ | ⟨-, hj⟩
  · exact absurd (hxk.symm.trans hx) hk
  · exact hj

/-- A step of a deallocation leaves the invariant of the other keys. -/
theorem KeyInv.setDealloc_of_ne {s : State} {c : Caller} {d : Dealloc} {k : Key} {op : Op}
    (h : KeyInv s k) (hd : d.key = (s.deallocs c).key) (hk : k ≠ (s.deallocs c).key) :
    KeyInv { s.setDealloc c d with table := (exec ⟨(s.deallocs c).key, op⟩ s.table).2 }
      k := by
  refine h.frame (slot_exec_of_ne s.table hk) (fun _ hi => hi) (fun e he => ?_)
  rcases State.Active.setDealloc (s := s) he with ⟨-, -, hdk⟩ | ⟨-, he⟩
  · exact absurd (hdk.symm.trans hd) hk
  · exact he

/-- **Every undisturbed step keeps the invariant of every key.** -/
theorem keyInv_step {s t : State} {a : Action} (h : ∀ k, KeyInv s k)
    (hok : Undisturbed s a) (hst : Step s a t) (k : Key) : KeyInv t k := by
  cases hst with
  | quiet _ _ table holds active =>
    exact (h k).frame (by rw [table]) (fun i => holds i k) (fun c => active c k)
  | reserve i a x key ok =>
    by_cases hk : k = (s.allocs i).key
    · -- the entry was free: nobody held the key, and nobody released it
      subst hk
      obtain ⟨hfree, hpending⟩ := slot_reserve ok
      refine .of_holder i (fun j hj => ?_)
        ((h _).not_active (fun stream hs => by rw [hfree] at hs; cases hs))
      rcases State.Holds.setAlloc (s := s) hj with ⟨rfl, -, -⟩ | ⟨-, hj⟩
      · exact ⟨rfl, hpending⟩
      · exact absurd hj ((h _).not_holds (by rw [hfree]; simp) j)
    · exact (h k).setAlloc_of_ne key hk
  | commit i a streamId x key holds left ok =>
    by_cases hk : k = (s.allocs i).key
    · -- the entry was pending: the allocation was its only holder, and leaves
      subst hk
      have hpending := slot_commit ok
      refine .of_holder i (fun j hj => ?_)
        ((h _).not_active (fun stream hs => by rw [hpending] at hs; cases hs))
      rcases State.Holds.setAlloc (s := s) hj with ⟨-, hx, -⟩ | ⟨hne, hj⟩
      · exact absurd hx left
      · exact absurd ((h _).holder_unique j i hj ⟨holds, rfl⟩) hne
    · exact (h k).setAlloc_of_ne key hk
  | handle i a exn committed known x key pc left =>
    by_cases hk : k = (s.allocs i).key
    · subst hk
      cases committed with
      | false =>
        -- the allocation held the key to here, and leaves whatever the table says
        have hheld : s.Holds i (s.allocs i).key := ⟨by simp [Allocation.Holds, pc], rfl⟩
        have hpending := (h _).pending i hheld
        refine .of_holder i (fun j hj => ?_)
          ((h _).not_active (fun stream hs => by rw [hpending] at hs; cases hs))
        rcases State.Holds.setAlloc (s := s) hj with ⟨-, hx, -⟩ | ⟨hne, hj⟩
        · exact absurd hx left
        · exact absurd ((h _).holder_unique j i hj hheld) hne
      | true =>
        -- it was undisturbed, so the entry it committed is not pending again
        have hne := hok exn pc
        refine (h _).frame ?_ (fun j hj => ?_) (fun _ hc => hc)
        · show slot (exec _ s.table).2 _ = _
          rw [slot_allocationFailed hne]
        · rcases State.Holds.setAlloc (s := s) hj with ⟨-, hx, -⟩ | ⟨-, hj⟩
          · exact absurd hx left
          · exact hj
    · exact (h k).setAlloc_of_ne key hk
  | startRelease c failure d stream key ok =>
    by_cases hk : k = (s.deallocs c).key
    · -- the entry was owned: nobody held the key, and nobody released it
      subst hk
      obtain ⟨howned, hreleasing⟩ := slot_startRelease ok
      refine .of_releaser c ((h _).not_holds (by rw [howned]; simp)) (fun e he => ?_)
      rcases State.Active.setDealloc (s := s) he with ⟨rfl, -, -⟩ | ⟨-, he⟩
      · exact ⟨rfl, stream, hreleasing⟩
      · exact absurd he ((h _).not_active (by rw [howned]; simp) e)
    · exact (h k).setDealloc_of_ne key hk
  | releaseFinished c failure d succeeded key active left ok =>
    by_cases hk : k = (s.deallocs c).key
    · -- the entry was releasing: this was its only release, and it is over
      subst hk
      obtain ⟨stream, hreleasing⟩ := slot_releaseFinished ok
      refine .of_releaser c ((h _).not_holds (by rw [hreleasing]; simp)) (fun e he => ?_)
      rcases State.Active.setDealloc (s := s) he with ⟨-, hd, -⟩ | ⟨hne, he⟩
      · exact absurd hd left
      · exact absurd ((h _).active_unique e c he ⟨active, rfl⟩) hne
    · exact (h k).setDealloc_of_ne key hk

/-- Every key keeps its invariant along undisturbed runs. -/
theorem keyInv_of_reachable {s : State} (h : machine.ReachableWithin Undisturbed s)
    (k : Key) : KeyInv s k :=
  h.invariant (P := fun s => ∀ k, KeyInv s k) keyInv_start
    (fun _ _ _ _ hs hok hst k => keyInv_step hs hok (step_spec hst) k) k

/-- **An entry that is held changes only by its holder's own steps.** -/
theorem lookup_of_holds {s t : State} {a : Action} {i : ℕ} {k : Key}
    (h : ∀ k, KeyInv s k) (hi : s.Holds i k) (hok : Undisturbed s a) (hst : Step s a t)
    (hother : ∀ answer, a ≠ .main i answer) : t.table.lookup k = s.table.lookup k := by
  have hpending := (h k).pending i hi
  cases hst with
  | quiet _ _ table _ _ => rw [table]
  | reserve j b x key ok =>
    refine lookup_exec_of_ne s.table ?_
    rintro rfl
    rw [(slot_reserve ok).1] at hpending
    cases hpending
  | commit j b streamId x key holds left ok =>
    refine lookup_exec_of_ne s.table ?_
    rintro rfl
    obtain rfl := (h _).holder_unique i j hi ⟨holds, rfl⟩
    exact hother b rfl
  | handle j b exn committed known x key pc left =>
    refine lookup_exec_of_ne s.table ?_
    rintro rfl
    cases committed with
    | false =>
      obtain rfl := (h _).holder_unique i j hi ⟨by simp [Allocation.Holds, pc], rfl⟩
      exact hother b rfl
    | true => exact hok exn pc hpending
  | startRelease c failure d stream key ok =>
    refine lookup_exec_of_ne s.table ?_
    rintro rfl
    rw [(slot_startRelease ok).1] at hpending
    cases hpending
  | releaseFinished c failure d succeeded key active left ok =>
    refine lookup_exec_of_ne s.table ?_
    rintro rfl
    obtain ⟨stream, hs⟩ := slot_releaseFinished ok
    rw [hs] at hpending
    cases hpending

/-- **The entries of a state are their allocations'**, against the steps that
meet `ok`: at most one allocation is between `Reserve` and its `Commit` or
`AllocationFailed` for a key; no such step, other than its own, changes its
entry; and its `Commit` of a stream that is not reserved is accepted. -/
def EntriesOwned (ok : State → Action → Prop) (s : State) : Prop :=
  (∀ i j k, s.Holds i k → s.Holds j k → i = j) ∧
  (∀ i k, s.Holds i k → ∀ a t, ok s a → step s a = some t →
    (∀ answer, a ≠ .main i answer) → t.table.lookup k = s.table.lookup k) ∧
  (∀ i streamId, (s.allocs i).pc = .committing streamId → streamId ≠ reservedStream →
    (exec ⟨(s.allocs i).key, .commit streamId⟩ s.table).1 = .ok ())

/-- **In every undisturbed run, entries are changed by their own allocation
only**, and every commit of a valid stream is accepted. -/
theorem entries_owned : ∀ s, machine.ReachableWithin Undisturbed s →
    EntriesOwned Undisturbed s := by
  intro s hs
  have h := keyInv_of_reachable hs
  refine ⟨fun i j k => (h k).holder_unique i j, fun i k hi a t hok hst hother =>
    lookup_of_holds h hi hok (step_spec hst) hother, fun i streamId hpc hvalid => ?_⟩
  have hpending := (h _).pending i ⟨by simp [Allocation.Holds, hpc], rfl⟩
  rcases exec_slot ⟨(s.allocs i).key, .commit streamId⟩ s.table with ⟨hr, -⟩ | ⟨-, hnone⟩
  · exact hr
  · dsimp only at hnone
    rw [hpending] at hnone
    simp [Slot.next, hvalid] at hnone

/-- An allocation that was answered with a stream: it alone holds its key, and
its commit is accepted. -/
theorem entries_owned_answered :
    ∃ s, machine.run machine.start
        [.allocate 0 ⟨1, 2⟩, .main 0 .go, .main 0 .go, .main 0 .go, .main 0 (.response 7)]
        = some s ∧ s.Holds 0 ⟨1, 2⟩ ∧ EntriesOwned Undisturbed s := by
  refine ⟨_, rfl, ⟨trivial, rfl⟩, entries_owned _ ?_⟩
  refine .step (a := .main 0 (.response 7)) (.step (a := .main 0 .go) (.step (a := .main 0 .go)
    (.step (a := .main 0 .go) (.step (a := .allocate 0 ⟨1, 2⟩) .start trivial rfl)
    ?_ rfl) ?_ rfl) ?_ rfl) ?_ rfl
  all_goals
    intro exn h
    cases h

/-- Two allocations of one endpoint. The first is answered with stream 7 and
commits it, but its readback fails, and its rollback deallocates the stream and
so erases its entry. The second reserves the endpoint. Only then the first runs
its failure handler. The second is answered with stream 9. -/
def lateHandler : List Action :=
  [.allocate 0 ⟨1, 2⟩, .main 0 .go, .main 0 .go, .main 0 .go, .main 0 (.response 7),
    .main 0 .go, .main 0 .go, .main 0 .go, .main 0 (.throws (.hresult .bounds)), .main 0 .go,
    .release 0 0, .dealloc (.rollback 0) none, .dealloc (.rollback 0) none,
    .dealloc (.rollback 0) none, .releaseEnds 0 0, .main 0 .go,
    .allocate 1 ⟨1, 2⟩, .main 1 .go, .main 1 .go,
    .main 0 .go,
    .main 1 .go, .main 1 (.response 9)]

/-- **An entry changed by another allocation**: after `lateHandler` the commit
of the second allocation is refused, although stream 9 is not reserved. -/
theorem entry_changed_by_another :
    ¬ ∀ s, machine.Reachable s → EntriesOwned (fun _ _ => True) s := by
  intro h
  have hrun : (machine.run machine.start lateHandler).map (fun s =>
      ((s.allocs 1).pc, (exec ⟨(s.allocs 1).key, .commit 9⟩ s.table).1))
        = some (.committing 9, .error (.hresult .bounds)) := rfl
  obtain ⟨s, hs, heq⟩ := Option.map_eq_some_iff.mp hrun
  obtain ⟨hpc, hcommit⟩ := Prod.mk.inj heq
  have hok := (h s (machine.reachable_start.run hs)).2.2 1 9 hpc (by decide)
  rw [hcommit] at hok
  cases hok

end AudioAllocation
