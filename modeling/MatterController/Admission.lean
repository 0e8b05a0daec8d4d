import MatterController.Locks
import MatterController.Machine

/-!
# Admission of runtime operations

`RuntimeOperationAdmission` admits the operations of a controller. Ordinary
operations share the controller's lifetime and exclude each other per node;
commissioning and shutdown have the lifetime to themselves; and once shutdown
began nothing is admitted any more.

The lock of a node lives as long as somebody refers to it: the index of node
mutexes holds weak references only, erases those that expired, and makes a new
mutex where it finds none. So two leases of one node exclude each other only if
they found the same mutex, and that is what the invariant says: the mutex a
call refers to is the one the index has for its node (`Inv.index`), because it
has not expired as long as the call refers to it.

A call of an acquire function, with the lease it yields, is one entry of
`State.calls`, from the call to the end of the lease's destruction. Cancellation
and deadlines are answers of the environment (`Answer.throws`), as is how long
a timed attempt to lock waits.
-/

namespace RuntimeOperationAdmission

/-- What `WaitForLifetime` waits for: a shared lease to be returned, one a node
lease is made of, or an exclusive one. -/
inductive Target
  | lifetime
  | node (n : UInt64)
  | exclusive
  deriving DecidableEq, Repr

/-- **Where a call stands.** `waiting` is the head of the loop of
`WaitForLifetime` and `admitted` its rest, after the closing flag was found
clear; `gateWaiting` and `gateAdmitted` are the same of `AcquireOperationLock`
on the mutex `m` of node `n`. The leases are objects that live until they are
destroyed; `droppingMutex` and `droppingLifetime` are the rest of a node
lease's destruction, and of an exception that leaves its acquisition. -/
inductive Pc
  | idle
  | waiting (t : Target) (owns : Bool)
  | admitted (t : Target) (owns : Bool)
  | lifetimeLease
  | exclusiveLease
  | indexing (n : UInt64)
  | gateWaiting (n : UInt64) (m : ℕ) (owns : Bool)
  | gateAdmitted (n : UInt64) (m : ℕ) (owns : Bool)
  | nodeLease (n : UInt64) (m : ℕ)
  | droppingMutex (n : UInt64) (m : ℕ)
  | droppingLifetime
  | cleanupTest
  | cleanupLock
  | cleanupRetest
  | shutdownStore
  | shutdownLock
  | shutdownLease
  deriving Repr

/-- A node mutex, with the calls that own a reference to it; it has expired
where there is none. -/
structure NodeMutex where
  lock : Mutex ℕ := {}
  refs : Finset ℕ := ∅
  deriving DecidableEq

/-- **The state of the admission**: the lifetime lock and the closing flag, the
index of weak references and the mutexes they refer to, the next mutex to be
made, the calls, and – to speak about it – whether a `BeginShutdown` has
returned. -/
structure State where
  lifetime : RwLock ℕ := .free
  closing : Bool := false
  index : UInt64 → Option ℕ := fun _ => none
  mutexes : ℕ → NodeMutex := fun _ => {}
  next : ℕ := 0
  calls : ℕ → Pc := fun _ => .idle
  shutdownReturned : Bool := false

/-- The functions that start a call. -/
inductive Fn
  | acquireLifetime
  | acquireNode (n : UInt64)
  | acquireExclusive
  | acquireCleanup
  | beginShutdown
  deriving DecidableEq, Repr

/-- Where a function starts. -/
def Fn.entry : Fn → Pc
  | .acquireLifetime => .waiting .lifetime false
  | .acquireNode n => .waiting (.node n) false
  | .acquireExclusive => .waiting .exclusive false
  | .acquireCleanup => .cleanupTest
  | .beginShutdown => .shutdownStore

/-- What a step is answered: it goes on, the operation was canceled or its
deadline is over, or the attempt to lock timed out. -/
inductive Answer
  | go
  | throws
  | blocked
  deriving DecidableEq, Repr

/-- **A step**: a call of one of the functions, a call of
`AcquireNodeWithLifetime` that takes over a lifetime lease, or the next step of
a call – for a lease, the next step of its destruction. -/
inductive Action
  | call (i : ℕ) (f : Fn)
  | withLifetime (i : ℕ) (n : UInt64)
  | advance (i : ℕ) (a : Answer)
  deriving DecidableEq, Repr

/-- Moves a call. -/
def State.setCall (s : State) (i : ℕ) (p : Pc) : State :=
  { s with calls := Function.update s.calls i p }

/-- Replaces a node mutex. -/
def State.setMutex (s : State) (m : ℕ) (c : NodeMutex) : State :=
  { s with mutexes := Function.update s.mutexes m c }

/-- `WaitForLifetime` throws: the lease it may have locked is unlocked. -/
def State.leave (s : State) (i : ℕ) (t : Target) (owns : Bool) : State :=
  match owns, t with
  | false, _ => s.setCall i .idle
  | true, .exclusive => { s.setCall i .idle with lifetime := s.lifetime.unlock }
  | true, _ => { s.setCall i .idle with lifetime := s.lifetime.unlockShared i }

/-- `AcquireOperationLock` throws: the mutex it may have locked is unlocked. -/
def State.leaveGate (s : State) (i : ℕ) (n : UInt64) (m : ℕ) (owns : Bool) : State :=
  if owns then
    (s.setCall i (.droppingMutex n m)).setMutex m
      { s.mutexes m with lock := (s.mutexes m).lock.unlock }
  else s.setCall i (.droppingMutex n m)

/-- The entries of the index that have not expired. -/
def State.live (s : State) (n : UInt64) : Option ℕ :=
  (s.index n).filter fun m => (s.mutexes m).refs ≠ ∅

/-- **The index step** of `AcquireNodeWithLifetime`, under the index mutex: the
expired entries are erased, and the call gets a reference to the mutex of its
node, a new one where there was none. -/
def State.indexNode (s : State) (i : ℕ) (n : UInt64) : State :=
  match s.live n with
  | some m =>
    { (s.setCall i (.gateWaiting n m false)).setMutex m
        { s.mutexes m with refs := insert i (s.mutexes m).refs } with
      index := s.live }
  | none =>
    { (s.setCall i (.gateWaiting n s.next false)).setMutex s.next { refs := {i} } with
      index := Function.update s.live n (some s.next)
      next := s.next + 1 }

/-- The lease `WaitForLifetime` was called for, or the way to it. -/
def Target.granted : Target → Pc
  | .lifetime => .lifetimeLease
  | .node n => .indexing n
  | .exclusive => .exclusiveLease

/-- **The next step of a call.** -/
def advance (s : State) (i : ℕ) (a : Answer) : Option State :=
  match s.calls i, a with
  | .waiting t owns, .go =>
    if s.closing then some (s.leave i t owns) else some (s.setCall i (.admitted t owns))
  | .admitted t owns, .throws => some (s.leave i t owns)
  | .admitted t true, .go => some (s.setCall i t.granted)
  | .admitted .exclusive false, .go =>
    (s.lifetime.lock i).map fun l =>
      { s.setCall i (.waiting .exclusive true) with lifetime := l }
  | .admitted t false, .go =>
    (s.lifetime.lockShared i).map fun l => { s.setCall i (.waiting t true) with lifetime := l }
  | .admitted t false, .blocked => some (s.setCall i (.waiting t false))
  | .lifetimeLease, .go =>
    some { s.setCall i .idle with lifetime := s.lifetime.unlockShared i }
  | .exclusiveLease, .go => some { s.setCall i .idle with lifetime := s.lifetime.unlock }
  | .indexing n, .go => some (s.indexNode i n)
  | .gateWaiting n m owns, .go =>
    if s.closing then some (s.leaveGate i n m owns)
    else some (s.setCall i (.gateAdmitted n m owns))
  | .gateAdmitted n m owns, .throws => some (s.leaveGate i n m owns)
  | .gateAdmitted n m true, .go => some (s.setCall i (.nodeLease n m))
  | .gateAdmitted n m false, .go =>
    ((s.mutexes m).lock.lock i).map fun l =>
      (s.setCall i (.gateWaiting n m true)).setMutex m { s.mutexes m with lock := l }
  | .gateAdmitted n m false, .blocked => some (s.setCall i (.gateWaiting n m false))
  | .nodeLease n m, .go => some (s.leaveGate i n m true)
  | .droppingMutex _ m, .go =>
    some ((s.setCall i .droppingLifetime).setMutex m
      { s.mutexes m with refs := (s.mutexes m).refs.erase i })
  | .droppingLifetime, .go =>
    some { s.setCall i .idle with lifetime := s.lifetime.unlockShared i }
  | .cleanupTest, .go =>
    if s.closing then some (s.setCall i .idle) else some (s.setCall i .cleanupLock)
  | .cleanupLock, .go =>
    (s.lifetime.lockShared i).map fun l => { s.setCall i .cleanupRetest with lifetime := l }
  | .cleanupRetest, .go =>
    if s.closing then some { s.setCall i .idle with lifetime := s.lifetime.unlockShared i }
    else some (s.setCall i .lifetimeLease)
  | .shutdownStore, .go => some { s.setCall i .shutdownLock with closing := true }
  | .shutdownLock, .go =>
    (s.lifetime.lock i).map fun l =>
      { s.setCall i .shutdownLease with lifetime := l, shutdownReturned := true }
  | .shutdownLease, .go => some { s.setCall i .idle with lifetime := s.lifetime.unlock }
  | _, _ => none

/-- **The step of the admission.** -/
def step (s : State) : Action → Option State
  | .call i f =>
    match s.calls i with
    | .idle => some (s.setCall i f.entry)
    | _ => none
  | .withLifetime i n =>
    match s.calls i with
    | .lifetimeLease => some (s.setCall i (.indexing n))
    | _ => none
  | .advance i a => advance s i a

/-- **The admission**, open and with no calls. -/
def machine : Machine State Action := ⟨{}, step⟩

/-! ## What a call holds -/

/-- Whether a call that waits for a target holds the lifetime shared, or
exclusively, once it owns it. -/
def Target.shared : Target → Bool
  | .exclusive => false
  | _ => true

/-- The calls that hold the lifetime shared. -/
def Pc.shared : Pc → Bool
  | .waiting t owns => owns && t.shared
  | .admitted t owns => owns && t.shared
  | .lifetimeLease | .indexing _ | .gateWaiting _ _ _ | .gateAdmitted _ _ _
  | .nodeLease _ _ | .droppingMutex _ _ | .droppingLifetime | .cleanupRetest => true
  | _ => false

/-- The calls that hold the lifetime exclusively. -/
def Pc.exclusive : Pc → Bool
  | .waiting t owns => owns && !t.shared
  | .admitted t owns => owns && !t.shared
  | .exclusiveLease | .shutdownLease => true
  | _ => false

/-- The node mutex a call refers to, with the node it is of. -/
def Pc.mutex : Pc → Option (UInt64 × ℕ)
  | .gateWaiting n m _ => some (n, m)
  | .gateAdmitted n m _ => some (n, m)
  | .nodeLease n m => some (n, m)
  | .droppingMutex n m => some (n, m)
  | _ => none

/-- The node mutex a call has locked. -/
def Pc.locked : Pc → Option ℕ
  | .gateWaiting _ m true => some m
  | .gateAdmitted _ m true => some m
  | .nodeLease _ m => some m
  | _ => none

/-- The calls that hold the lifetime and have found the closing flag clear since,
or hold a lease; but for the lease of a shutdown. -/
def Pc.cleared : Pc → Bool
  | .admitted _ owns => owns
  | .lifetimeLease | .exclusiveLease | .indexing _ | .gateWaiting _ _ _
  | .gateAdmitted _ _ _ | .nodeLease _ _ => true
  | _ => false

/-- The leases. -/
def Pc.lease : Pc → Bool
  | .lifetimeLease | .exclusiveLease | .nodeLease _ _ | .shutdownLease => true
  | _ => false

/-- A cleared call holds the lifetime. -/
theorem Pc.holds_of_cleared {p : Pc} (h : p.cleared = true) :
    p.shared = true ∨ p.exclusive = true := by
  cases p with
  | admitted t owns => cases t <;> simp_all [Pc.cleared, Pc.shared, Pc.exclusive, Target.shared]
  | _ => simp_all [Pc.cleared, Pc.shared, Pc.exclusive]

@[simp] theorem State.setCall_self (s : State) (i : ℕ) (p : Pc) :
    (s.setCall i p).calls i = p := by
  rw [State.setCall]
  exact Function.update_self i p s.calls

theorem State.setCall_of_ne (s : State) {i j : ℕ} (p : Pc) (h : j ≠ i) :
    (s.setCall i p).calls j = s.calls j := by
  rw [State.setCall]
  exact Function.update_of_ne h p s.calls

/-- What a call moves to and has in common with where it was, all calls keep. -/
theorem State.setCall_congr {β : Type} (f : Pc → β) {s : State} {i : ℕ} {p : Pc}
    (h : f p = f (s.calls i)) (j : ℕ) : f ((s.setCall i p).calls j) = f (s.calls j) := by
  rw [State.setCall]
  exact update_congr f h j

/-! ## What a step can do -/

/-- **A move of the pc changes nothing a lock or the index depends on**, where
these agree. -/
structure Pc.Same (p q : Pc) : Prop where
  mutex : q.mutex = p.mutex
  locked : q.locked = p.locked

/-- **The steps of a call**, by the lock or the index entry they change. In all
but the last a call is cleared only if it was before or the closing flag is
clear, and is about to lock for shutdown only once the flag is set. -/
inductive Step (s : State) (i : ℕ) : State → Prop
  | move (q : Pc) (same : (s.calls i).Same q) (shared : q.shared = (s.calls i).shared)
      (exclusive : q.exclusive = (s.calls i).exclusive)
      (cleared : q.cleared = true → (s.calls i).cleared = true ∨ s.closing = false)
      (shutdown : q ≠ .shutdownLock) : Step s i (s.setCall i q)
  | lockShared (q : Pc) (l : RwLock ℕ) (locks : s.lifetime.lockShared i = some l)
      (same : (s.calls i).Same q) (shared : q.shared = true)
      (exclusive : q.exclusive = (s.calls i).exclusive) (cleared : q.cleared = false)
      (shutdown : q ≠ .shutdownLock) : Step s i { s.setCall i q with lifetime := l }
  | unlockShared (same : (s.calls i).Same .idle)
      (exclusive : (s.calls i).exclusive = false) :
      Step s i { s.setCall i .idle with lifetime := s.lifetime.unlockShared i }
  | lock (l : RwLock ℕ) (locks : s.lifetime.lock i = some l)
      (pc : s.calls i = .admitted .exclusive false) :
      Step s i { s.setCall i (.waiting .exclusive true) with lifetime := l }
  | unlock (same : (s.calls i).Same .idle) (shared : (s.calls i).shared = false)
      (exclusive : (s.calls i).exclusive = true) :
      Step s i { s.setCall i .idle with lifetime := s.lifetime.unlock }
  | index (n : UInt64) (pc : s.calls i = .indexing n) : Step s i (s.indexNode i n)
  | lockMutex (n : UInt64) (m : ℕ) (l : Mutex ℕ) (locks : (s.mutexes m).lock.lock i = some l)
      (pc : s.calls i = .gateAdmitted n m false) :
      Step s i ((s.setCall i (.gateWaiting n m true)).setMutex m
        { s.mutexes m with lock := l })
  | unlockMutex (n : UInt64) (m : ℕ) (mutex : (s.calls i).mutex = some (n, m))
      (locked : (s.calls i).locked = some m) (shared : (s.calls i).shared = true)
      (exclusive : (s.calls i).exclusive = false) : Step s i (s.leaveGate i n m true)
  | dropMutex (n : UInt64) (m : ℕ) (pc : s.calls i = .droppingMutex n m) :
      Step s i ((s.setCall i .droppingLifetime).setMutex m
        { s.mutexes m with refs := (s.mutexes m).refs.erase i })
  | store (pc : s.calls i = .shutdownStore) :
      Step s i { s.setCall i .shutdownLock with closing := true }
  | shutdown (l : RwLock ℕ) (locks : s.lifetime.lock i = some l)
      (pc : s.calls i = .shutdownLock) :
      Step s i { s.setCall i .shutdownLease with lifetime := l, shutdownReturned := true }

/-- `WaitForLifetime` throwing is one of these steps. -/
theorem leave_spec {s : State} {i : ℕ} {t : Target} {owns : Bool}
    (same : (s.calls i).Same .idle)
    (shared : (s.calls i).shared = (owns && t.shared))
    (exclusive : (s.calls i).exclusive = (owns && !t.shared)) :
    Step s i (s.leave i t owns) := by
  cases owns with
  | false =>
    exact .move .idle same (by rw [shared]; rfl) (by rw [exclusive]; rfl)
      (fun h => by cases h) (by simp)
  | true =>
    cases t with
    | exclusive => exact .unlock same shared exclusive
    | lifetime => exact .unlockShared same exclusive
    | node n => exact .unlockShared same exclusive

/-- So is `AcquireOperationLock` throwing. -/
theorem leaveGate_spec {s : State} {i : ℕ} {n : UInt64} {m : ℕ} {owns : Bool}
    (mutex : (s.calls i).mutex = some (n, m))
    (locked : (s.calls i).locked = if owns then some m else none)
    (shared : (s.calls i).shared = true) (exclusive : (s.calls i).exclusive = false) :
    Step s i (s.leaveGate i n m owns) := by
  cases owns with
  | false =>
    exact .move (.droppingMutex n m) ⟨by rw [mutex]; rfl, by rw [locked]; rfl⟩
      (by rw [shared]; rfl) (by rw [exclusive]; rfl) (fun h => by cases h) (by simp)
  | true => exact .unlockMutex n m mutex locked shared exclusive

/-- A call's next step is one of these. -/
theorem advance_spec {s t : State} {i : ℕ} {a : Answer} (h : advance s i a = some t) :
    Step s i t := by
  unfold advance at h
  cases hpc : s.calls i <;> rw [hpc] at h
  case idle => cases h
  case waiting t owns =>
    cases a with
    | go =>
      dsimp only at h
      split at h <;> cases h
      · exact leave_spec ⟨by rw [hpc]; rfl, by rw [hpc]; rfl⟩ (by rw [hpc]; rfl)
          (by rw [hpc]; rfl)
      · rename_i hopen
        exact .move _ ⟨by rw [hpc]; rfl, by rw [hpc]; rfl⟩ (by rw [hpc]; rfl) (by rw [hpc]; rfl)
          (fun _ => Or.inr (Bool.eq_false_iff.mpr hopen)) (by simp)
    | _ => cases h
  case admitted t owns =>
    cases a with
    | throws =>
      cases h
      exact leave_spec ⟨by rw [hpc]; rfl, by rw [hpc]; rfl⟩ (by rw [hpc]; rfl) (by rw [hpc]; rfl)
    | go =>
      cases owns with
      | true =>
        cases h
        refine .move _ ⟨?_, ?_⟩ ?_ ?_ (fun _ => Or.inl (by rw [hpc]; rfl)) ?_ <;>
          cases t <;> simp [hpc, Target.granted, Pc.mutex, Pc.locked, Pc.shared, Pc.exclusive,
            Target.shared]
      | false =>
        cases t with
        | exclusive =>
          obtain ⟨l, hl, rfl⟩ := Option.map_eq_some_iff.mp h
          exact .lock l hl hpc
        | _ =>
          obtain ⟨l, hl, rfl⟩ := Option.map_eq_some_iff.mp h
          exact .lockShared _ l hl ⟨by rw [hpc]; rfl, by rw [hpc]; rfl⟩ rfl (by rw [hpc]; rfl) rfl
            (by simp)
    | blocked =>
      cases owns with
      | true => cases h
      | false =>
        cases h
        exact .move _ ⟨by rw [hpc]; rfl, by rw [hpc]; rfl⟩ (by rw [hpc]; rfl) (by rw [hpc]; rfl)
          (fun hc => by cases hc) (by simp)
  case lifetimeLease | droppingLifetime =>
    cases a <;> cases h
    exact .unlockShared ⟨by rw [hpc]; rfl, by rw [hpc]; rfl⟩ (by rw [hpc]; rfl)
  case exclusiveLease | shutdownLease =>
    cases a <;> cases h
    exact .unlock ⟨by rw [hpc]; rfl, by rw [hpc]; rfl⟩ (by rw [hpc]; rfl) (by rw [hpc]; rfl)
  case indexing n =>
    cases a <;> cases h
    exact .index n hpc
  case gateWaiting n m owns =>
    cases a with
    | go =>
      dsimp only at h
      split at h <;> cases h
      · exact leaveGate_spec (by rw [hpc]; rfl) (by rw [hpc]; cases owns <;> rfl)
          (by rw [hpc]; rfl) (by rw [hpc]; rfl)
      · exact .move _ ⟨by rw [hpc]; rfl, by rw [hpc]; cases owns <;> rfl⟩ (by rw [hpc]; rfl)
          (by rw [hpc]; rfl) (fun _ => Or.inl (by rw [hpc]; rfl)) (by simp)
    | _ => cases h
  case gateAdmitted n m owns =>
    cases a with
    | throws =>
      cases h
      exact leaveGate_spec (by rw [hpc]; rfl) (by rw [hpc]; cases owns <;> rfl)
        (by rw [hpc]; rfl) (by rw [hpc]; rfl)
    | go =>
      cases owns with
      | true =>
        cases h
        exact .move _ ⟨by rw [hpc]; rfl, by rw [hpc]; rfl⟩ (by rw [hpc]; rfl) (by rw [hpc]; rfl)
          (fun _ => Or.inl (by rw [hpc]; rfl)) (by simp)
      | false =>
        obtain ⟨l, hl, rfl⟩ := Option.map_eq_some_iff.mp h
        exact .lockMutex n m l hl hpc
    | blocked =>
      cases owns with
      | true => cases h
      | false =>
        cases h
        exact .move _ ⟨by rw [hpc]; rfl, by rw [hpc]; rfl⟩ (by rw [hpc]; rfl) (by rw [hpc]; rfl)
          (fun _ => Or.inl (by rw [hpc]; rfl)) (by simp)
  case nodeLease n m =>
    cases a <;> cases h
    exact .unlockMutex n m (by rw [hpc]; rfl) (by rw [hpc]; rfl) (by rw [hpc]; rfl)
      (by rw [hpc]; rfl)
  case droppingMutex n m =>
    cases a <;> cases h
    exact .dropMutex n m hpc
  case cleanupTest =>
    cases a with
    | go =>
      dsimp only at h
      split at h <;> cases h <;>
        exact .move _ ⟨by rw [hpc]; rfl, by rw [hpc]; rfl⟩ (by rw [hpc]; rfl) (by rw [hpc]; rfl)
          (fun hc => by cases hc) (by simp)
    | _ => cases h
  case cleanupLock =>
    cases a with
    | go =>
      obtain ⟨l, hl, rfl⟩ := Option.map_eq_some_iff.mp h
      exact .lockShared _ l hl ⟨by rw [hpc]; rfl, by rw [hpc]; rfl⟩ rfl (by rw [hpc]; rfl) rfl
        (by simp)
    | _ => cases h
  case cleanupRetest =>
    cases a with
    | go =>
      dsimp only at h
      split at h <;> cases h
      · exact .unlockShared ⟨by rw [hpc]; rfl, by rw [hpc]; rfl⟩ (by rw [hpc]; rfl)
      · rename_i hopen
        exact .move _ ⟨by rw [hpc]; rfl, by rw [hpc]; rfl⟩ (by rw [hpc]; rfl) (by rw [hpc]; rfl)
          (fun _ => Or.inr (Bool.eq_false_iff.mpr hopen)) (by simp)
    | _ => cases h
  case shutdownStore =>
    cases a <;> cases h
    exact .store hpc
  case shutdownLock =>
    cases a with
    | go =>
      obtain ⟨l, hl, rfl⟩ := Option.map_eq_some_iff.mp h
      exact .shutdown l hl hpc
    | _ => cases h

/-- **The step function takes only these steps.** -/
theorem step_spec {s t : State} {a : Action} (h : step s a = some t) : ∃ i, Step s i t := by
  cases a with
  | call i f =>
    unfold step at h
    dsimp only at h
    split at h
    · rename_i hpc
      obtain rfl := Option.some.inj h
      refine ⟨i, .move _ ⟨?_, ?_⟩ ?_ ?_ ?_ ?_⟩ <;>
        cases f <;> simp [hpc, Fn.entry, Pc.mutex, Pc.locked, Pc.shared, Pc.exclusive,
          Pc.cleared]
    · cases h
  | withLifetime i n =>
    unfold step at h
    dsimp only at h
    split at h
    · rename_i hpc
      obtain rfl := Option.some.inj h
      exact ⟨i, .move _ ⟨by rw [hpc]; rfl, by rw [hpc]; rfl⟩ (by rw [hpc]; rfl) (by rw [hpc]; rfl)
        (fun _ => Or.inl (by rw [hpc]; rfl)) (by simp)⟩
    · cases h
  | advance i a => exact ⟨i, advance_spec h⟩

/-! ## The invariant -/

/-- **The invariant of the admission**: every lock is owned by the calls whose
place says so, and every mutex referred to by them; a mutex a call refers to
has been made, and is the one the index has for its node; and after a shutdown
returned, the closing flag is set and no call is cleared. -/
structure Inv (s : State) : Prop where
  lifetime : s.lifetime.OwnedBy (fun i => (s.calls i).shared = true)
    (fun i => (s.calls i).exclusive = true)
  locks : ∀ m, (s.mutexes m).lock.OwnedBy (fun i => (s.calls i).locked = some m)
  refs : ∀ m i, i ∈ (s.mutexes m).refs ↔ ∃ n, (s.calls i).mutex = some (n, m)
  made : ∀ i n m, (s.calls i).mutex = some (n, m) → m < s.next
  index : ∀ i n m, (s.calls i).mutex = some (n, m) → s.index n = some m
  storing : ∀ i, s.calls i = .shutdownLock → s.closing = true
  shutdown : s.shutdownReturned = true →
    s.closing = true ∧ ∀ i, (s.calls i).cleared = false

theorem inv_start : Inv machine.start where
  lifetime := ⟨by simp [machine, Pc.shared], by simp [machine, Pc.exclusive]⟩
  locks := fun m i => by simp [machine, Pc.locked]
  refs := fun m i => by simp [machine, Pc.mutex]
  made := fun i n m h => by cases h
  index := fun i n m h => by cases h
  storing := fun i h => by cases h
  shutdown := fun h => by cases h

/-- What a call has locked is a mutex it refers to. -/
theorem Pc.mutex_of_locked {p : Pc} {m : ℕ} (h : p.locked = some m) :
    ∃ n, p.mutex = some (n, m) := by
  cases p with
  | gateWaiting n k owns => cases owns <;> simp_all [Pc.locked, Pc.mutex]
  | gateAdmitted n k owns => cases owns <;> simp_all [Pc.locked, Pc.mutex]
  | nodeLease n k => simp_all [Pc.locked, Pc.mutex]
  | _ => cases h

/-- A mutex that a call refers to has not expired. -/
theorem Inv.live_eq {s : State} (h : Inv s) {i : ℕ} {n : UInt64} {m : ℕ}
    (hm : (s.calls i).mutex = some (n, m)) : s.live n = some m := by
  have hmem : i ∈ (s.mutexes m).refs := (h.refs m i).mpr ⟨n, hm⟩
  have hne : (s.mutexes m).refs ≠ ∅ := by
    intro hempty
    rw [hempty] at hmem
    exact absurd hmem (Finset.notMem_empty i)
  rw [State.live, h.index i n m hm, Option.filter_some]
  simp [hne]

/-- **Steps that leave the mutexes**: what remains to be shown of them concerns
the lifetime and the flag. -/
theorem Inv.of_same {s : State} (h : Inv s) {i : ℕ} {q : Pc}
    (same : (s.calls i).Same q) {l : RwLock ℕ} {closing returned : Bool}
    (hlife : l.OwnedBy (fun j => ((s.setCall i q).calls j).shared = true)
      (fun j => ((s.setCall i q).calls j).exclusive = true))
    (hstoring : ∀ j, (s.setCall i q).calls j = .shutdownLock → closing = true)
    (hshutdown : returned = true →
      closing = true ∧ ∀ j, ((s.setCall i q).calls j).cleared = false) :
    Inv { s.setCall i q with
      lifetime := l, closing := closing, shutdownReturned := returned } := by
  have hmutex := State.setCall_congr Pc.mutex same.mutex
  have hlocked := State.setCall_congr Pc.locked same.locked
  refine ⟨hlife, fun m => ?_, fun m j => ?_, fun j n m hj => ?_, fun j n m hj => ?_,
    hstoring, hshutdown⟩
  · exact (h.locks m).congr (fun j => by rw [hlocked j])
  · refine (h.refs m j).trans ?_
    show (∃ n, (s.calls j).mutex = some (n, m)) ↔
      ∃ n, ((s.setCall i q).calls j).mutex = some (n, m)
    rw [hmutex j]
  · exact h.made j n m (by rw [← hmutex j]; exact hj)
  · exact h.index j n m (by rw [← hmutex j]; exact hj)

/-- The flag and the cleared calls, where a call moves to an uncleared place. -/
theorem Inv.shutdown_of_uncleared {s : State} (h : Inv s) {i : ℕ} {q : Pc}
    (hq : q.cleared = false) (hret : s.shutdownReturned = true) :
    s.closing = true ∧ ∀ j, ((s.setCall i q).calls j).cleared = false := by
  obtain ⟨hclosing, hall⟩ := h.shutdown hret
  refine ⟨hclosing, fun j => ?_⟩
  by_cases hj : j = i
  · rw [hj, s.setCall_self, hq]
  · rw [s.setCall_of_ne q hj]
    exact hall j

/-- The flag is set where a call is about to lock for shutdown, as before, if
none moves there. -/
theorem Inv.storing_of_ne {s : State} (h : Inv s) {i : ℕ} {q : Pc}
    (hq : q ≠ .shutdownLock) (j : ℕ) (hj : (s.setCall i q).calls j = .shutdownLock) :
    s.closing = true := by
  by_cases hji : j = i
  · rw [hji, s.setCall_self] at hj
    exact absurd hj hq
  · rw [s.setCall_of_ne q hji] at hj
    exact h.storing j hj

/-- **Steps that leave the lifetime**: what remains to be shown of them concerns
the mutexes. The call keeps its hold of the lifetime and is not newly cleared. -/
theorem Inv.of_mutexes {s : State} (h : Inv s) {i : ℕ} {q : Pc}
    (shared : q.shared = (s.calls i).shared)
    (exclusive : q.exclusive = (s.calls i).exclusive)
    (cleared : q.cleared = true → (s.calls i).cleared = true) (hq : q ≠ .shutdownLock)
    {index : UInt64 → Option ℕ} {mutexes : ℕ → NodeMutex} {next : ℕ}
    (hlocks : ∀ m, (mutexes m).lock.OwnedBy
      (fun j => ((s.setCall i q).calls j).locked = some m))
    (hrefs : ∀ m j, j ∈ (mutexes m).refs ↔
      ∃ n, ((s.setCall i q).calls j).mutex = some (n, m))
    (hmade : ∀ j n m, ((s.setCall i q).calls j).mutex = some (n, m) → m < next)
    (hindex : ∀ j n m, ((s.setCall i q).calls j).mutex = some (n, m) →
      index n = some m) :
    Inv { s.setCall i q with index := index, mutexes := mutexes, next := next } := by
  have hshared := State.setCall_congr Pc.shared shared
  have hexclusive := State.setCall_congr Pc.exclusive exclusive
  refine ⟨?_, hlocks, hrefs, hmade, hindex, h.storing_of_ne hq, fun hret => ?_⟩
  · exact h.lifetime.congr (fun j => by rw [hshared j]) (fun j => by rw [hexclusive j])
  · obtain ⟨hclosing, hall⟩ := h.shutdown hret
    refine ⟨hclosing, fun j => ?_⟩
    show ((s.setCall i q).calls j).cleared = false
    by_cases hj : j = i
    · rw [hj, s.setCall_self, Bool.eq_false_iff]
      intro hc
      have hold := cleared hc
      rw [hall i] at hold
      cases hold
    · rw [s.setCall_of_ne q hj]
      exact hall j

/-- What is known of the locks after a mutex was replaced, if that is right of
this mutex and the call has locked no other, before or after. -/
theorem Inv.locks_of_update {s : State} (h : Inv s) {i : ℕ} {q : Pc} {k : ℕ} {c : NodeMutex}
    (hk : c.lock.OwnedBy (fun j => ((s.setCall i q).calls j).locked = some k))
    (hnew : ∀ m, q.locked = some m → m = k)
    (hold : ∀ m, (s.calls i).locked = some m → m = k) (m : ℕ) :
    (Function.update s.mutexes k c m).lock.OwnedBy
      (fun j => ((s.setCall i q).calls j).locked = some m) := by
  by_cases hm : m = k
  · rw [hm, Function.update_self]
    exact hk
  · rw [Function.update_of_ne hm]
    refine (h.locks m).congr (fun j => ?_)
    by_cases hji : j = i
    · rw [hji, s.setCall_self]
      exact ⟨fun hq => absurd (hnew m hq) hm, fun hp => absurd (hold m hp) hm⟩
    · rw [s.setCall_of_ne _ hji]

/-- What is known of the references after a mutex was replaced, if that is right
of this mutex and the call refers to no other, before or after. -/
theorem Inv.refs_of_update {s : State} (h : Inv s) {i : ℕ} {q : Pc} {k : ℕ} {c : NodeMutex}
    (hk : ∀ j, j ∈ c.refs ↔ ∃ n, ((s.setCall i q).calls j).mutex = some (n, k))
    (hnew : ∀ n m, q.mutex = some (n, m) → m = k)
    (hold : ∀ n m, (s.calls i).mutex = some (n, m) → m = k) (m j : ℕ) :
    j ∈ (Function.update s.mutexes k c m).refs ↔
      ∃ n, ((s.setCall i q).calls j).mutex = some (n, m) := by
  by_cases hm : m = k
  · rw [hm, Function.update_self]
    exact hk j
  · rw [Function.update_of_ne hm]
    by_cases hji : j = i
    · rw [hji, s.setCall_self]
      constructor
      · intro hmem
        obtain ⟨n, hn⟩ := (h.refs m i).mp hmem
        exact absurd (hold n m hn) hm
      · rintro ⟨n, hn⟩
        exact absurd (hnew n m hn) hm
    · rw [s.setCall_of_ne _ hji]
      exact h.refs m j

/-- **A step at the lock of a node's mutex**: the call refers to this mutex before
and after, so what remains to be shown is who owns the lock. -/
theorem Inv.of_lock {s : State} (h : Inv s) {i : ℕ} {q : Pc} {n : UInt64} {m : ℕ}
    {l : Mutex ℕ} (hp : (s.calls i).mutex = some (n, m)) (hq : q.mutex = some (n, m))
    (shared : q.shared = (s.calls i).shared)
    (exclusive : q.exclusive = (s.calls i).exclusive)
    (cleared : q.cleared = true → (s.calls i).cleared = true) (hne : q ≠ .shutdownLock)
    (hlock : l.OwnedBy (fun j => ((s.setCall i q).calls j).locked = some m)) :
    Inv ((s.setCall i q).setMutex m { s.mutexes m with lock := l }) := by
  have hmutex := State.setCall_congr Pc.mutex (hq.trans hp.symm)
  -- a call has locked no mutex but the one it refers to
  have hlocked : ∀ {p : Pc}, p.mutex = some (n, m) → ∀ k, p.locked = some k → k = m := by
    intro p hp k hk
    obtain ⟨n', hn⟩ := Pc.mutex_of_locked hk
    rw [hp] at hn
    cases hn
    rfl
  refine h.of_mutexes shared exclusive cleared hne
    (h.locks_of_update hlock (hlocked hq) (hlocked hp))
    (h.refs_of_update (fun j => ?_) (fun n' k hk => ?_) (fun n' k hk => ?_))
    (fun j n' k hj => ?_) (fun j n' k hj => ?_)
  · rw [hmutex]
    exact h.refs m j
  · rw [hq] at hk
    cases hk
    rfl
  · rw [hp] at hk
    cases hk
    rfl
  · exact h.made j n' k (by rw [← hmutex]; exact hj)
  · exact h.index j n' k (by rw [← hmutex]; exact hj)

/-- **The index step keeps the invariant.** -/
theorem Inv.indexNode {s : State} (h : Inv s) {i : ℕ} {n : UInt64}
    (pc : s.calls i = .indexing n) : Inv (s.indexNode i n) := by
  have hnone : ∀ n m, (s.calls i).mutex ≠ some (n, m) := by
    intro n m hm
    rw [pc] at hm
    cases hm
  have hunlocked : ∀ m, (s.calls i).locked ≠ some m := by
    intro m hm
    rw [pc] at hm
    cases hm
  unfold State.indexNode
  split
  · rename_i k hlive
    have hmade : k < s.next := by
      rw [State.live, Option.filter_eq_some_iff] at hlive
      obtain ⟨j, hj⟩ := Finset.nonempty_iff_ne_empty.mpr (by simpa using hlive.2)
      obtain ⟨n', hm⟩ := (h.refs k j).mp hj
      exact h.made j n' k hm
    refine h.of_mutexes (q := .gateWaiting n k false) (by rw [pc]; rfl) (by rw [pc]; rfl)
      (fun _ => by rw [pc]; rfl) (by simp)
      (h.locks_of_update (k := k) (c := { s.mutexes k with refs := _ }) ?_
        (fun m hm => by cases hm) (fun m hm => absurd hm (hunlocked m)))
      (h.refs_of_update (k := k) (c := { s.mutexes k with refs := _ }) (fun j => ?_)
        (fun n' m hm => by cases hm; rfl) (fun n' m hm => absurd hm (hnone n' m)))
      (fun j n' m hj => ?_) (fun j n' m hj => ?_)
    · refine (h.locks k).congr (fun j => ?_)
      rw [State.setCall_congr Pc.locked (by rw [pc]; rfl) j]
    · show j ∈ insert i (s.mutexes k).refs ↔ _
      rw [Finset.mem_insert, h.refs k j]
      by_cases hji : j = i
      · simp [hji, Pc.mutex]
      · rw [s.setCall_of_ne _ hji]
        simp [hji]
    all_goals
      by_cases hji : j = i
      · rw [hji, s.setCall_self] at hj
        cases hj
        assumption
      · rw [s.setCall_of_ne _ hji] at hj
        first
        | exact h.made j n' m hj
        | exact h.live_eq hj
  · rename_i hlive
    -- no call refers to a mutex of this node, and none to the new one
    have hnode : ∀ j m, (s.calls j).mutex ≠ some (n, m) := by
      intro j m hj
      rw [h.live_eq hj] at hlive
      cases hlive
    have hnext : ∀ j n', (s.calls j).mutex ≠ some (n', s.next) :=
      fun j n' hj => Nat.lt_irrefl _ (h.made j n' s.next hj)
    refine h.of_mutexes (q := .gateWaiting n s.next false) (by rw [pc]; rfl) (by rw [pc]; rfl)
      (fun _ => by rw [pc]; rfl) (by simp)
      (h.locks_of_update (k := s.next) (c := { refs := {i} }) (fun j => ?_)
        (fun m hm => by cases hm) (fun m hm => absurd hm (hunlocked m)))
      (h.refs_of_update (k := s.next) (c := { refs := {i} }) (fun j => ?_)
        (fun n' m hm => by cases hm; rfl) (fun n' m hm => absurd hm (hnone n' m)))
      (fun j n' m hj => ?_) (fun j n' m hj => ?_)
    · have hno : (s.calls j).locked ≠ some s.next := by
        intro hj
        obtain ⟨n', hm⟩ := Pc.mutex_of_locked hj
        exact hnext j n' hm
      show none = some j ↔ ((s.setCall i _).calls j).locked = some s.next
      rw [State.setCall_congr Pc.locked (by rw [pc]; rfl) j]
      simpa using hno
    · rw [Finset.mem_singleton]
      by_cases hji : j = i
      · simp [hji, Pc.mutex]
      · rw [s.setCall_of_ne _ hji]
        simp [hji, hnext j]
    · by_cases hji : j = i
      · rw [hji, s.setCall_self] at hj
        cases hj
        exact Nat.lt_succ_self _
      · rw [s.setCall_of_ne _ hji] at hj
        exact Nat.lt_succ_of_lt (h.made j n' m hj)
    · by_cases hji : j = i
      · rw [hji, s.setCall_self] at hj
        cases hj
        exact Function.update_self _ _ _
      · rw [s.setCall_of_ne _ hji] at hj
        have hne : n' ≠ n := by
          rintro rfl
          exact hnode j m hj
        rw [Function.update_of_ne hne]
        exact h.live_eq hj

/-- **Every step keeps the invariant.** -/
theorem Inv.step {s t : State} {i : ℕ} (h : Inv s) (hst : Step s i t) : Inv t := by
  cases hst with
  | move q same shared exclusive cleared shutdown =>
    refine h.of_same same ?_ (h.storing_of_ne shutdown) (fun hret => ?_)
    · exact h.lifetime.congr (fun j => by rw [State.setCall_congr Pc.shared shared j])
        (fun j => by rw [State.setCall_congr Pc.exclusive exclusive j])
    · refine h.shutdown_of_uncleared ?_ hret
      obtain ⟨hclosing, hall⟩ := h.shutdown hret
      rw [Bool.eq_false_iff]
      intro hq
      rcases cleared hq with hold | hopen
      · rw [hall i] at hold
        cases hold
      · rw [hclosing] at hopen
        cases hopen
  | lockShared q l locks same shared exclusive cleared shutdown =>
    refine h.of_same same ?_ (h.storing_of_ne shutdown) (h.shutdown_of_uncleared cleared)
    refine h.lifetime.lockShared locks (by rw [s.setCall_self, shared])
      (fun j hj => by rw [s.setCall_of_ne q hj])
      (fun j => by rw [State.setCall_congr Pc.exclusive exclusive j])
  | unlockShared same exclusive =>
    refine h.of_same same ?_ (h.storing_of_ne (by simp)) (h.shutdown_of_uncleared rfl)
    refine h.lifetime.unlockShared (by rw [s.setCall_self]; simp [Pc.shared])
      (fun j hj => by rw [s.setCall_of_ne _ hj])
      (fun j => by rw [State.setCall_congr Pc.exclusive (by rw [exclusive]; rfl) j])
  | lock l locks pc =>
    refine h.of_same ⟨by rw [pc]; rfl, by rw [pc]; rfl⟩ ?_ (h.storing_of_ne (by simp))
      (h.shutdown_of_uncleared rfl)
    refine h.lifetime.lock locks (by rw [s.setCall_self]; rfl)
      (fun j hj => by rw [s.setCall_of_ne _ hj])
      (fun j => by rw [State.setCall_congr Pc.shared (by rw [pc]; rfl) j])
  | unlock same shared exclusive =>
    refine h.of_same same ?_ (h.storing_of_ne (by simp)) (h.shutdown_of_uncleared rfl)
    refine h.lifetime.unlock (i := i) exclusive (by rw [s.setCall_self]; simp [Pc.exclusive])
      (fun j hj => by rw [s.setCall_of_ne _ hj])
      (fun j => by rw [State.setCall_congr Pc.shared (by rw [shared]; rfl) j])
  | index n pc => exact h.indexNode pc
  | lockMutex n m l locks pc =>
    refine h.of_lock (q := .gateWaiting n m true) (by rw [pc]; rfl) rfl (by rw [pc]; rfl)
      (by rw [pc]; rfl) (fun _ => by rw [pc]; rfl) (by simp) ?_
    exact (h.locks m).lock locks (by rw [s.setCall_self]; rfl)
      (fun j hj => by rw [s.setCall_of_ne _ hj])
  | unlockMutex n m mutex locked shared exclusive =>
    refine h.of_lock (q := .droppingMutex n m) mutex rfl (by rw [shared]; rfl)
      (by rw [exclusive]; rfl) (fun hc => by cases hc) (by simp) ?_
    exact (h.locks m).unlock (i := i) locked (by rw [s.setCall_self]; simp [Pc.locked])
      (fun j hj => by rw [s.setCall_of_ne _ hj])
  | dropMutex n m pc =>
    have hother : ∀ j n' k, ((s.setCall i .droppingLifetime).calls j).mutex = some (n', k) →
        (s.calls j).mutex = some (n', k) := by
      intro j n' k hj
      by_cases hji : j = i
      · rw [hji, s.setCall_self] at hj
        cases hj
      · rwa [s.setCall_of_ne _ hji] at hj
    refine h.of_mutexes (q := .droppingLifetime) (by rw [pc]; rfl) (by rw [pc]; rfl)
      (fun hc => by cases hc) (by simp)
      (h.locks_of_update (k := m) (c := { s.mutexes m with refs := _ }) ?_
        (fun k hk => by cases hk) (fun k hk => by rw [pc] at hk; cases hk))
      (h.refs_of_update (k := m) (c := { s.mutexes m with refs := _ }) (fun j => ?_)
        (fun n' k hk => by cases hk) (fun n' k hk => by rw [pc] at hk; cases hk; rfl))
      (fun j n' k hj => h.made j n' k (hother j n' k hj))
      (fun j n' k hj => h.index j n' k (hother j n' k hj))
    · exact (h.locks m).congr
        (fun j => by rw [State.setCall_congr Pc.locked (by rw [pc]; rfl) j])
    · rw [Finset.mem_erase, h.refs m j]
      by_cases hji : j = i
      · simp [hji, Pc.mutex]
      · rw [s.setCall_of_ne _ hji]
        simp [hji]
  | store pc =>
    refine h.of_same ⟨by rw [pc]; rfl, by rw [pc]; rfl⟩ ?_ (fun _ _ => rfl)
      (fun hret => ⟨rfl, (h.shutdown_of_uncleared rfl hret).2⟩)
    exact h.lifetime.congr
      (fun j => by rw [State.setCall_congr Pc.shared (by rw [pc]; rfl) j])
      (fun j => by rw [State.setCall_congr Pc.exclusive (by rw [pc]; rfl) j])
  | shutdown l locks pc =>
    refine h.of_same ⟨by rw [pc]; rfl, by rw [pc]; rfl⟩ ?_ (h.storing_of_ne (by simp))
      (fun _ => ⟨h.storing i pc, fun j => ?_⟩)
    · exact h.lifetime.lock locks (by rw [s.setCall_self]; rfl)
        (fun j hj => by rw [s.setCall_of_ne _ hj])
        (fun j => by rw [State.setCall_congr Pc.shared (by rw [pc]; rfl) j])
    · -- nobody held the lifetime, so nobody was cleared
      by_cases hji : j = i
      · rw [hji, s.setCall_self]
        rfl
      · rw [s.setCall_of_ne _ hji, Bool.eq_false_iff]
        intro hc
        have hfree := h.lifetime.free_of_lock locks j
        rcases Pc.holds_of_cleared hc with hs | hx
        · exact hfree.1 hs
        · exact hfree.2 hx

theorem inv_of_reachable {s : State} (h : machine.Reachable s) : Inv s :=
  h.invariant inv_start (fun _ _ _ _ hs hst => by
    obtain ⟨i, hi⟩ := step_spec hst
    exact hs.step hi)

/-! ## What a machine that embeds the admission uses -/

/-- A step of a call moves no other call. -/
theorem Step.calls_of_ne {s t : State} {i j : ℕ} (h : Step s i t) (hj : j ≠ i) :
    t.calls j = s.calls j := by
  cases h with
  | index n pc =>
    unfold State.indexNode
    split <;> exact s.setCall_of_ne _ hj
  | _ => exact s.setCall_of_ne _ hj

/-- That a shutdown returned stays so. -/
theorem Step.shutdownReturned {s t : State} {i : ℕ} (h : Step s i t)
    (hret : s.shutdownReturned = true) : t.shutdownReturned = true := by
  cases h with
  | index n pc =>
    unfold State.indexNode
    split <;> exact hret
  | shutdown l locks pc => rfl
  | _ => exact hret

/-- A call of a function is a step of the call. -/
theorem call_spec {s t : State} {i : ℕ} {f : Fn} (h : step s (.call i f) = some t) :
    s.calls i = .idle ∧ t = s.setCall i f.entry := by
  unfold step at h
  dsimp only at h
  split at h
  · rename_i hpc
    exact ⟨hpc, (Option.some.inj h).symm⟩
  · cases h

theorem State.leave_calls (s : State) (i : ℕ) (t : Target) (owns : Bool) :
    (s.leave i t owns).calls i = .idle := by
  cases owns with
  | false => exact s.setCall_self i .idle
  | true => cases t <;> exact s.setCall_self i .idle

theorem State.leaveGate_calls (s : State) (i : ℕ) (n : UInt64) (m : ℕ) (owns : Bool) :
    (s.leaveGate i n m owns).calls i = .droppingMutex n m := by
  cases owns <;> exact s.setCall_self i (.droppingMutex n m)

/-- A call has the lease of a shutdown from the step at which `BeginShutdown` returned. -/
theorem advance_shutdownLease {s t : State} {i : ℕ} {a : Answer} (h : advance s i a = some t)
    (hpc : t.calls i = .shutdownLease) : t.shutdownReturned = true := by
  -- every step but that one moves the call elsewhere
  have helse : ∀ {p : Pc}, t.calls i = p → p ≠ .shutdownLease → t.shutdownReturned = true :=
    fun hp hne => absurd (hp.symm.trans hpc) hne
  unfold advance at h
  cases hq : s.calls i <;> rw [hq] at h
  case idle => cases h
  case shutdownLock =>
    cases a with
    | go =>
      obtain ⟨l, hl, rfl⟩ := Option.map_eq_some_iff.mp h
      rfl
    | _ => cases h
  case waiting t owns =>
    cases a with
    | go =>
      dsimp only at h
      split at h <;> cases h
      · exact helse (s.leave_calls i t owns) (by simp)
      · exact helse (s.setCall_self i _) (by simp)
    | _ => cases h
  case admitted t owns =>
    cases a with
    | throws =>
      cases h
      exact helse (s.leave_calls i t owns) (by simp)
    | go =>
      cases owns with
      | true =>
        cases h
        exact helse (s.setCall_self i _) (by cases t <;> simp [Target.granted])
      | false =>
        cases t <;>
        · obtain ⟨l, hl, rfl⟩ := Option.map_eq_some_iff.mp h
          exact helse (Function.update_self i _ s.calls) (by simp)
    | blocked =>
      cases owns <;> cases h
      exact helse (s.setCall_self i _) (by simp)
  case indexing n =>
    cases a <;> cases h
    unfold State.indexNode at hpc
    split at hpc <;> cases (Function.update_self i _ s.calls).symm.trans hpc
  case gateWaiting n m owns =>
    cases a with
    | go =>
      dsimp only at h
      split at h <;> cases h
      · exact helse (s.leaveGate_calls i n m _) (by simp)
      · exact helse (s.setCall_self i _) (by simp)
    | _ => cases h
  case gateAdmitted n m owns =>
    cases a with
    | throws =>
      cases h
      exact helse (s.leaveGate_calls i n m _) (by simp)
    | go =>
      cases owns with
      | true =>
        cases h
        exact helse (s.setCall_self i _) (by simp)
      | false =>
        obtain ⟨l, hl, rfl⟩ := Option.map_eq_some_iff.mp h
        exact helse (Function.update_self i _ s.calls) (by simp)
    | blocked =>
      cases owns <;> cases h
      exact helse (s.setCall_self i _) (by simp)
  case nodeLease n m =>
    cases a <;> cases h
    exact helse (s.leaveGate_calls i n m _) (by simp)
  case cleanupTest | cleanupRetest =>
    cases a with
    | go =>
      dsimp only at h
      split at h <;> cases h <;> exact helse (Function.update_self i _ s.calls) (by simp)
    | _ => cases h
  case cleanupLock =>
    cases a with
    | go =>
      obtain ⟨l, hl, rfl⟩ := Option.map_eq_some_iff.mp h
      exact helse (Function.update_self i _ s.calls) (by simp)
    | _ => cases h
  all_goals
    cases a <;> cases h
    exact helse (Function.update_self i _ s.calls) (by simp)

/-- **A shutdown that has its lease has returned.** -/
theorem shutdownReturned_of_lease {s : State} (h : machine.Reachable s) {i : ℕ}
    (hpc : s.calls i = .shutdownLease) : s.shutdownReturned = true := by
  refine h.invariant (P := fun s => ∀ i, s.calls i = .shutdownLease → s.shutdownReturned = true)
    (fun i hi => by cases hi) (fun s a t _ hs hst i hi => ?_) i hpc
  by_cases hold : s.calls i = .shutdownLease
  · obtain ⟨j, hj⟩ := step_spec hst
    exact hj.shutdownReturned (hs i hold)
  · -- the call has moved, and not by calling a function
    cases a with
    | call j f =>
      obtain ⟨-, rfl⟩ := call_spec hst
      by_cases hji : i = j
      · rw [hji, s.setCall_self] at hi
        cases f <;> cases hi
      · rw [s.setCall_of_ne _ hji] at hi
        exact absurd hi hold
    | withLifetime j n =>
      unfold machine step at hst
      dsimp only at hst
      split at hst
      · obtain rfl := Option.some.inj hst
        by_cases hji : i = j
        · rw [hji, s.setCall_self] at hi
          cases hi
        · rw [s.setCall_of_ne _ hji] at hi
          exact absurd hi hold
      · cases hst
    | advance j a =>
      by_cases hji : i = j
      · rw [hji] at hi
        exact advance_shutdownLease hst hi
      · rw [(advance_spec hst).calls_of_ne hji] at hi
        exact absurd hi hold

/-! ## The admission policy -/

/-- A lease holds the lifetime. -/
theorem Pc.holds_of_lease {p : Pc} (h : p.lease = true) :
    p.shared = true ∨ p.exclusive = true := by
  cases p <;> simp_all [Pc.lease, Pc.shared, Pc.exclusive]

/-- A lease other than a shutdown's is cleared. -/
theorem Pc.cleared_of_lease {p : Pc} (h : p.lease = true) (hne : p ≠ .shutdownLease) :
    p.cleared = true := by
  cases p <;> simp_all [Pc.lease, Pc.cleared]

/-- **Two leases of one node are one**: both locked the mutex the index has for
the node. -/
theorem Inv.nodeLease_unique {s : State} (h : Inv s) {i j : ℕ} {n : UInt64} {m k : ℕ}
    (hi : s.calls i = .nodeLease n m) (hj : s.calls j = .nodeLease n k) : i = j := by
  have hm := h.index i n m (by rw [hi]; rfl)
  have hk := h.index j n k (by rw [hj]; rfl)
  obtain rfl := Option.some.inj (hm.symm.trans hk)
  exact (h.locks m).unique (by rw [hi]; rfl) (by rw [hj]; rfl)

/-- **An exclusive lease is alone.** -/
theorem Inv.exclusive_alone {s : State} (h : Inv s) {i j : ℕ}
    (hi : (s.calls i).exclusive = true) (hj : (s.calls j).lease = true) : i = j := by
  rcases Pc.holds_of_lease hj with hs | hx
  · exact absurd hs (h.lifetime.not_shared hi j)
  · exact h.lifetime.unique hi hx

/-- **The admission policy**, in every reachable state: two live node leases are
never of one node; a live exclusive lease, of `AcquireExclusive` or
`BeginShutdown`, coexists with no other lease; and once a `BeginShutdown` has
returned, there is no lease but of a shutdown, so no acquire function yields
one. -/
theorem admission_policy : ∀ s, machine.Reachable s →
    (∀ i j n m k, s.calls i = .nodeLease n m → s.calls j = .nodeLease n k → i = j) ∧
    (∀ i j, s.calls i = .exclusiveLease ∨ s.calls i = .shutdownLease →
      (s.calls j).lease = true → i = j) ∧
    (s.shutdownReturned = true →
      ∀ i, (s.calls i).lease = true → s.calls i = .shutdownLease) := by
  intro s hs
  have h := inv_of_reachable hs
  refine ⟨fun i j n m k hi hj => h.nodeLease_unique hi hj, fun i j hi hj => ?_,
    fun hret i hi => ?_⟩
  · refine h.exclusive_alone ?_ hj
    rcases hi with hi | hi <;> rw [hi] <;> rfl
  · by_contra hne
    have hcleared := Pc.cleared_of_lease hi hne
    rw [(h.shutdown hret).2 i] at hcleared
    cases hcleared

/-- A call that holds the lease of node 7, one that holds the lifetime, and a
shutdown that waits for both. -/
def sharedLeases : List Action :=
  [.call 0 (.acquireNode 7), .advance 0 .go, .advance 0 .go, .advance 0 .go, .advance 0 .go,
    .advance 0 .go, .advance 0 .go, .advance 0 .go, .advance 0 .go, .advance 0 .go,
    .call 1 .acquireCleanup, .advance 1 .go, .advance 1 .go, .advance 1 .go,
    .call 2 .beginShutdown, .advance 2 .go]

/-- There the lease of the node is the only one of it. -/
theorem admission_policy_shared :
    ∃ s, machine.run machine.start sharedLeases = some s ∧ s.calls 0 = .nodeLease 7 0 ∧
      s.calls 1 = .lifetimeLease ∧ s.closing = true ∧
      ∀ j, s.calls j = .nodeLease 7 0 → 0 = j := by
  have hrun : (machine.run machine.start sharedLeases).map
      (fun s => (s.calls 0, s.calls 1, s.closing))
        = some (.nodeLease 7 0, .lifetimeLease, true) := rfl
  obtain ⟨s, hs, heq⟩ := Option.map_eq_some_iff.mp hrun
  simp only [Prod.mk.injEq] at heq
  refine ⟨s, hs, heq.1, heq.2.1, heq.2.2, fun j hj => ?_⟩
  exact (admission_policy s (machine.reachable_start.run hs)).1 0 j 7 0 0 heq.1 hj

end RuntimeOperationAdmission
