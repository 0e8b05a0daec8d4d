import MatterController.Admission
import MatterController.Errors

/-!
# Subscriptions and the close of the controller

`SubscribeAttribute` and `SubscribeEvent` make a read state, wait until its
subscription is established, and only then put it on a list of the runtime. Until
then the call is the only one that knows the state, and closes it on every way
out; from then on the list knows it, and it is closed by `CloseAsync` of the
subscription, which takes it off the list, or by `Close` of the runtime, which
clears the list. A cleanup that comes too late for the first is refused, not
awaited, and leaves the state to the second.

Nothing is lost in between because of the lifetime lease: a call has it as long as it
knows a state the list does not (`Pc.owns`), and `Close` has it exclusively when it
goes through the lists. The admission is the machine of `RuntimeOperationAdmission`,
with the calls of the two machines under the same numbers. The destruction of the
runtime is a step of its own, possible where no call refers to it; a subscription that
is closed afterwards closes its state without the runtime.
-/

namespace Subscriptions

open RuntimeOperationAdmission (Answer)

/-- The kinds of subscription, each with its list. -/
inductive Kind
  | attribute
  | event
  deriving DecidableEq, Repr

/-- **A `GenericReadState` or `GenericEventReadState`** of a subscription. It is `live`
while its callbacks are registered or it has a client. -/
structure ReadState where
  kind : Kind := .attribute
  live : Bool := false
  established : Bool := false
  complete : Bool := false
  closed : Bool := false
  result : ChipError := .noError
  deriving DecidableEq

/-- `Fail`. -/
def ReadState.fail (r : ReadState) (error : ChipError) : ReadState :=
  if r.closed then r else { r with result := error, complete := true }

/-- What a subscribing call waits for. -/
def ReadState.answered (r : ReadState) : Bool := r.established || r.complete

/-- Where a `Close` of a read state stands: before it looks whether the state is closed,
before it cancels the callbacks and resets the client under the lock of the stack, and
before it marks the state closed. -/
inductive ClosePhase
  | test
  | reset
  | mark
  deriving DecidableEq, Repr

/-- **Where a call stands.** A subscribing call waits for its node lease (`acquiring`),
finds the runtime open and makes its state, starts the connection, waits, and retains the
state; `unwinding` is an exception on its way to the scope guard that closes the state,
`leaving` is behind the guard, and `releasing` is the end of the lease. `CloseAsync` takes
the close function, calls it, acquires its lease, and is `erasing` once it has closed the
state, or `direct` where the runtime is gone. `Close` begins the shutdown, locks, goes
through both lists, and finishes. -/
inductive Pc
  | idle
  | acquiring (kind : Kind)
  | opened (kind : Kind)
  | connecting (k : ℕ)
  | waiting (k : ℕ)
  | retaining (k : ℕ)
  | unwinding (k : ℕ)
  | leaving (k : ℕ)
  | releasing
  | taking (k : ℕ)
  | closing (k : ℕ)
  | acquiringCleanup (k : ℕ)
  | erasing (k : ℕ)
  | direct (k : ℕ)
  | shutdown
  | locking
  | testing
  | sweep (kind : Kind) (rest : List ℕ)
  | finishing
  | finished
  deriving Repr

/-- The calls that own a reference to the runtime. -/
def Pc.uses : Pc → Bool
  | .idle | .taking _ | .closing _ | .direct _ => false
  | _ => true

/-- **The state**: the admission; the mutexes `mOperationMutex` and `mMutex`; the read
states made so far; the lists; the subscriptions that were handed out, with whether they
still have their close function; `mClosed`; the calls that refer to the runtime, and
whether it is gone; the calls, each with the `Close` of a read state it is in; and – to
speak about it – whether a `Close` of the runtime has returned. -/
structure State where
  admission : RuntimeOperationAdmission.State := {}
  operationLock : Mutex ℕ := {}
  lock : Mutex ℕ := {}
  made : ℕ := 0
  states : ℕ → ReadState := fun _ => {}
  lists : Kind → List ℕ := fun _ => []
  subscriptions : ℕ → Option Bool := fun _ => none
  closed : Bool := false
  owners : Finset ℕ := ∅
  expired : Bool := false
  calls : ℕ → Pc := fun _ => .idle
  frames : ℕ → Option (ℕ × ClosePhase) := fun _ => none
  closeReturned : Bool := false

/-- Moves a call. -/
def State.setCall (s : State) (i : ℕ) (q : Pc) : State :=
  { s with
    calls := Function.update s.calls i q
    owners := if q.uses then insert i s.owners else s.owners.erase i }

/-- Replaces a read state. -/
def State.setState (s : State) (k : ℕ) (r : ReadState) : State :=
  { s with states := Function.update s.states k r }

/-- Replaces a list. -/
def State.setList (s : State) (kind : Kind) (l : List ℕ) : State :=
  { s with lists := Function.update s.lists kind l }

/-- The call is in this `Close` of a read state, or in none. -/
def State.setFrame (s : State) (i : ℕ) (f : Option (ℕ × ClosePhase)) : State :=
  { s with frames := Function.update s.frames i f }

/-- A call of `Close` of a read state. -/
def State.enter (s : State) (i k : ℕ) : State := s.setFrame i (some (k, .test))

/-- **`Close` of a read state**, step by step. -/
def State.closeState (s : State) (i k : ℕ) : ClosePhase → State
  | .test =>
    if (s.states k).closed then s.setFrame i none else s.setFrame i (some (k, .reset))
  | .reset =>
    (s.setState k { s.states k with live := false }).setFrame i (some (k, .mark))
  | .mark =>
    (s.setState k { s.states k with closed := true, complete := true }).setFrame i none

/-- A step of the admission. -/
def State.admit (s : State) (a : RuntimeOperationAdmission.Action) : Option State :=
  (RuntimeOperationAdmission.step s.admission a).map fun m => { s with admission := m }

/-- **A new read state**, which the call goes on with. -/
def State.make (s : State) (i : ℕ) (kind : Kind) : State :=
  { (s.setState s.made { kind := kind }).setCall i (.connecting s.made) with
    made := s.made + 1 }

/-- **The state is retained**: it is put on the list of its kind, and the subscription is
handed out with its close function. -/
def State.retain (s : State) (i k : ℕ) : State :=
  { (s.setList (s.states k).kind (s.lists (s.states k).kind ++ [k])).setCall i .releasing with
    subscriptions := Function.update s.subscriptions k (some true) }

/-- The end of `Close` of the runtime, under its locks. -/
def State.finish (s : State) (i : ℕ) : State :=
  { s.setCall i .finished with
    closed := true, operationLock := s.operationLock.unlock, lock := s.lock.unlock }

/-- **The next step of a call** that is in no `Close` of a read state. -/
def body (s : State) (i : ℕ) (a : Answer) : Option State :=
  match s.calls i, a with
  | .acquiring kind, a =>
    match s.admission.calls i with
    | .nodeLease _ _ => some (s.setCall i (.opened kind))
    | .idle => some (s.setCall i .idle)
    | _ => s.admit (.advance i a)
  | .opened kind, .go =>
    if s.lock.owner = none then
      if s.closed then some (s.setCall i .releasing) else some (s.make i kind)
    else none
  -- no memory for the state
  | .opened _, .throws => some (s.setCall i .releasing)
  | .connecting k, .go =>
    some ((s.setState k { s.states k with live := true }).setCall i (.waiting k))
  | .connecting k, .throws => some (s.setCall i (.unwinding k))
  | .waiting k, .go =>
    if (s.states k).answered then
      if (s.states k).result = .noError ∧ (s.states k).established then
        some (s.setCall i (.retaining k))
      else some ((s.setCall i (.unwinding k)).enter i k)
    else none
  -- the wait timed out
  | .waiting k, .throws =>
    if (s.states k).answered then none else some ((s.setCall i (.unwinding k)).enter i k)
  | .retaining k, .go =>
    if s.operationLock.owner = none then some (s.retain i k) else none
  | .retaining k, .throws => some (s.setCall i (.unwinding k))
  | .unwinding k, .go => some ((s.setCall i (.leaving k)).enter i k)
  | .leaving _, .go => some (s.setCall i .releasing)
  | .releasing, a =>
    match s.admission.calls i with
    | .idle => some (s.setCall i .idle)
    | _ => s.admit (.advance i a)
  | .taking k, .go =>
    match s.subscriptions k with
    | some true =>
      some { s.setCall i (.closing k) with
        subscriptions := Function.update s.subscriptions k (some false) }
    | _ => some (s.setCall i .idle)
  | .closing k, .go =>
    if s.expired then some ((s.setCall i (.direct k)).enter i k)
    else s.admit (.call i .acquireCleanup) |>.map fun t => t.setCall i (.acquiringCleanup k)
  | .acquiringCleanup k, a =>
    match s.admission.calls i with
    | .lifetimeLease => some ((s.setCall i (.erasing k)).enter i k)
    | .idle => some (s.setCall i .idle)
    | _ => s.admit (.advance i a)
  | .erasing k, .go =>
    if s.operationLock.owner = none then
      some ((s.setList (s.states k).kind
        ((s.lists (s.states k).kind).filter (· ≠ k))).setCall i .releasing)
    else none
  | .direct _, .go => some (s.setCall i .idle)
  | .shutdown, a =>
    match s.admission.calls i with
    | .shutdownLease => some (s.setCall i .locking)
    | _ => s.admit (.advance i a)
  | .locking, .go =>
    (s.operationLock.lock i).map fun l => { s.setCall i .testing with operationLock := l }
  | .testing, .go =>
    (s.lock.lock i).map fun l =>
      if s.closed then
        { s.setCall i .finished with operationLock := s.operationLock.unlock }
      else { s.setCall i (.sweep .attribute (s.lists .attribute)) with lock := l }
  | .sweep kind (k :: rest), .go => some ((s.setCall i (.sweep kind rest)).enter i k)
  | .sweep .attribute [], .go =>
    some ((s.setList .attribute []).setCall i (.sweep .event (s.lists .event)))
  | .sweep .event [], .go => some ((s.setList .event []).setCall i .finishing)
  | .finishing, .go => some (s.finish i)
  | .finished, a =>
    match s.admission.calls i with
    | .idle => some { s.setCall i .idle with closeReturned := true }
    | _ => s.admit (.advance i a)
  | _, _ => none

/-- **The next step of a call.** -/
def advance (s : State) (i : ℕ) (a : Answer) : Option State :=
  match s.frames i with
  | some (k, p) => some (s.closeState i k p)
  | none => body s i a

/-- **A step**: a call of one of the functions, the next step of a call, an event on a read
state, or the destruction of the runtime. -/
inductive Action
  | subscribe (i : ℕ) (kind : Kind) (nodeId : UInt64) (minimumInterval maximumInterval : UInt16)
  | closeAsync (i k : ℕ)
  | close (i : ℕ)
  | advance (i : ℕ) (a : Answer)
  | established (k : ℕ)
  | fail (k : ℕ) (error : ChipError)
  | expire

/-- A call of a function of the runtime, with the lease it begins with. -/
def State.start (s : State) (i : ℕ) (f : RuntimeOperationAdmission.Fn) (q : Pc) : Option State :=
  match s.calls i with
  | .idle => if s.expired then none else s.admit (.call i f) |>.map fun t => t.setCall i q
  | _ => none

/-- **The step of the subscriptions.** -/
def step (s : State) : Action → Option State
  | .subscribe i kind nodeId minimumInterval maximumInterval =>
    if minimumInterval > maximumInterval then some s
    else s.start i (.acquireNode nodeId) (.acquiring kind)
  | .closeAsync i k =>
    match s.calls i, s.subscriptions k with
    | .idle, some _ => some (s.setCall i (.taking k))
    | _, _ => none
  | .close i => s.start i .beginShutdown .shutdown
  | .advance i a => advance s i a
  | .established k =>
    if (s.states k).live then
      some (s.setState k { s.states k with established := true })
    else none
  | .fail k error =>
    if (s.states k).live then some (s.setState k ((s.states k).fail error)) else none
  | .expire => if s.owners = ∅ then some { s with expired := true } else none

/-- **The subscriptions** of a runtime that is open and has none. -/
def machine : Machine State Action := ⟨{}, step⟩

/-! ## What a call knows -/

/-- The read states a call refers to. -/
def Pc.refs : Pc → List ℕ
  | .connecting k | .waiting k | .retaining k | .unwinding k | .leaving k | .taking k
  | .closing k | .acquiringCleanup k | .erasing k | .direct k => [k]
  | .sweep _ rest => rest
  | _ => []

/-- The read state that no list knows, and this call does. -/
def Pc.owns : Pc → Option ℕ
  | .connecting k | .waiting k | .retaining k | .unwinding k | .leaving k => some k
  | _ => none

/-- The read state a call has called `Close` of. -/
def Pc.settles : Pc → Option ℕ
  | .leaving k | .erasing k | .direct k => some k
  | _ => none

/-- The calls that may be in a `Close` of a read state. -/
def Pc.encloses : Pc → Bool
  | .unwinding _ | .leaving _ | .erasing _ | .direct _ | .sweep _ _ => true
  | _ => false

/-- The calls that go through the lists. -/
def Pc.sweeps : Pc → Bool
  | .sweep _ _ | .finishing => true
  | _ => false

/-- **The lease a call has** where it stands. -/
def Pc.Holds : Pc → RuntimeOperationAdmission.Pc → Prop
  | .idle, p | .taking _, p | .closing _, p | .direct _, p => p = .idle
  | .opened _, p | .connecting _, p | .waiting _, p | .retaining _, p | .unwinding _, p
  | .leaving _, p => ∃ n m, p = .nodeLease n m
  | .erasing _, p => p = .lifetimeLease
  | .locking, p | .testing, p | .sweep _ _, p | .finishing, p => p = .shutdownLease
  | _, _ => True

/-- The state is closed, or the call is in a `Close` of it. -/
def State.Settled (s : State) (i k : ℕ) : Prop :=
  (s.states k).closed = true ∨ ∃ p, s.frames i = some (k, p)

/-- **What is known of a call.** Of the states of a list `Close` goes through, those it
has passed are closed, or about to be. -/
structure CallInv (s : State) (i : ℕ) : Prop where
  holds : (s.calls i).Holds (s.admission.calls i)
  settled : ∀ k, (s.calls i).settles = some k → s.Settled i k
  swept : ∀ kind rest, s.calls i = .sweep kind rest →
    (∀ k ∈ s.lists kind, k ∈ rest ∨ s.Settled i k) ∧
      (kind = .event → s.lists .attribute = [])
  finishing : s.calls i = .finishing → ∀ kind, s.lists kind = []
  finished : s.calls i = .finished → s.closed = true
  opened : (s.calls i).sweeps = true → s.closed = false
  framed : ∀ k p, s.frames i = some (k, p) → (s.calls i).encloses = true ∧ k < s.made
  refs : ∀ k ∈ (s.calls i).refs, k < s.made
  owner : i ∈ s.owners ↔ (s.calls i).uses = true
  gone : ∀ k, s.calls i = .direct k → s.expired = true
  quiet : s.closed = true → ∀ k p, s.frames i = some (k, p) → p = .test

/-- **The invariant**: what is known of every call; a state that was made is closed, on a
list, or owned by a call; and once the runtime is closed there is no lease but of a
shutdown, every state is closed, and the lists are empty. -/
structure Inv (s : State) : Prop where
  admission : RuntimeOperationAdmission.machine.Reachable s.admission
  calls : ∀ i, CallInv s i
  known : ∀ k < s.made, (s.states k).closed = true ∨ (∃ kind, k ∈ s.lists kind) ∨
    ∃ i, (s.calls i).owns = some k
  listed : ∀ kind, ∀ k ∈ s.lists kind, k < s.made
  handed : ∀ k, s.subscriptions k ≠ none → k < s.made
  expired : s.expired = true → s.owners = ∅
  ended : s.closed = true → s.admission.shutdownReturned = true ∧
    (∀ k < s.made, (s.states k).closed = true) ∧ ∀ kind, s.lists kind = []
  returned : s.closeReturned = true → s.closed = true

theorem inv_start : Inv machine.start where
  admission := RuntimeOperationAdmission.machine.reachable_start
  calls := fun i =>
    { holds := rfl
      settled := fun k h => by cases h
      swept := fun kind rest h => by cases h
      finishing := fun h => by cases h
      finished := fun h => by cases h
      opened := fun h => by cases h
      framed := fun k p h => by cases h
      refs := fun k h => by cases h
      owner := by simp [machine, Pc.uses]
      gone := fun k h => by cases h
      quiet := fun h => by cases h }
  known := fun k h => by cases h
  listed := fun kind k h => by cases h
  handed := fun k h => absurd rfl h
  expired := fun h => by cases h
  ended := fun h => by cases h
  returned := fun h => by cases h

/-! ## What a step leaves to the other calls -/

/-- **What another call's step keeps for a call.** It takes nothing from the lists while
this call goes through them, and closes the runtime only where this call closes no read
state. -/
structure Keeps (s t : State) (j : ℕ) : Prop where
  call : t.calls j = s.calls j
  frame : t.frames j = s.frames j
  lease : t.admission.calls j = s.admission.calls j
  owner : j ∈ t.owners ↔ j ∈ s.owners
  expired : s.expired = true → t.expired = true
  made : s.made ≤ t.made
  states : ∀ k < s.made, (s.states k).closed = true → (t.states k).closed = true
  closed : s.closed = true → t.closed = true
  lists : (s.calls j).sweeps = true → t.lists = s.lists ∧ t.closed = s.closed
  quiet : t.closed = true → s.closed = true ∨ s.frames j = none

theorem Keeps.settled {s t : State} {j k : ℕ} (h : Keeps s t j) (hk : k < s.made)
    (hs : s.Settled j k) : t.Settled j k := by
  rcases hs with hs | ⟨p, hp⟩
  · exact Or.inl (h.states k hk hs)
  · exact Or.inr ⟨p, by rw [h.frame, hp]⟩

theorem Pc.mem_refs_of_settles {q : Pc} {k : ℕ} (h : q.settles = some k) : k ∈ q.refs := by
  cases q <;> simp_all [Pc.settles, Pc.refs]

/-- **What is known of a call survives the steps of others.** -/
theorem CallInv.of_keeps {s t : State} {j : ℕ} (h : CallInv s j) (hk : Keeps s t j)
    (listed : ∀ kind, ∀ k ∈ s.lists kind, k < s.made) : CallInv t j where
  holds := by rw [hk.call, hk.lease]; exact h.holds
  settled := fun k hq => by
    rw [hk.call] at hq
    exact hk.settled (h.refs k (Pc.mem_refs_of_settles hq)) (h.settled k hq)
  swept := fun kind rest hq => by
    rw [hk.call] at hq
    obtain ⟨hrest, hattribute⟩ := h.swept kind rest hq
    rw [(hk.lists (by rw [hq]; rfl)).1]
    exact ⟨fun k hmem => (hrest k hmem).imp_right (hk.settled (listed kind k hmem)), hattribute⟩
  finishing := fun hq => by
    rw [hk.call] at hq
    rw [(hk.lists (by rw [hq]; rfl)).1]
    exact h.finishing hq
  finished := fun hq => hk.closed (h.finished (by rw [← hk.call, hq]))
  opened := fun hq => by
    rw [hk.call] at hq
    rw [(hk.lists hq).2, h.opened hq]
  framed := fun k p hf => by
    rw [hk.frame] at hf
    rw [hk.call]
    exact ⟨(h.framed k p hf).1, (h.framed k p hf).2.trans_le hk.made⟩
  refs := fun k hq => by
    rw [hk.call] at hq
    exact (h.refs k hq).trans_le hk.made
  owner := by rw [hk.owner, hk.call]; exact h.owner
  gone := fun k hq => hk.expired (h.gone k (by rw [← hk.call, hq]))
  quiet := fun hc k p hf => by
    rw [hk.frame] at hf
    rcases hk.quiet hc with hc | hnone
    · exact h.quiet hc k p hf
    · rw [hnone] at hf
      cases hf

/-- **A call moves**, and what it is then in. -/
structure Change (s t : State) (i : ℕ) (q : Pc) (f : Option (ℕ × ClosePhase)) : Prop where
  calls : t.calls = Function.update s.calls i q
  frames : t.frames = Function.update s.frames i f
  owners : t.owners = if q.uses then insert i s.owners else s.owners.erase i
  expired : t.expired = s.expired
  reachable : RuntimeOperationAdmission.machine.Reachable t.admission
  leases : ∀ j, j ≠ i → t.admission.calls j = s.admission.calls j
  returned : s.admission.shutdownReturned = true → t.admission.shutdownReturned = true

section Change

variable {s t : State} {i : ℕ} {q : Pc} {f : Option (ℕ × ClosePhase)}

theorem Change.call (c : Change s t i q f) : t.calls i = q := by
  rw [c.calls, Function.update_self]

theorem Change.call_of_ne (c : Change s t i q f) {j : ℕ} (hj : j ≠ i) :
    t.calls j = s.calls j := by
  rw [c.calls, Function.update_of_ne hj]

theorem Change.frame (c : Change s t i q f) : t.frames i = f := by
  rw [c.frames, Function.update_self]

theorem Change.mem_owners (c : Change s t i q f) (j : ℕ) :
    j ∈ t.owners ↔ if j = i then q.uses = true else j ∈ s.owners := by
  rw [c.owners]
  by_cases hj : j = i <;> cases hq : q.uses <;> simp [hj]

/-- The move keeps what is known of others if the lists are as they were, or the others
do not go through them. -/
theorem Change.keeps (c : Change s t i q f) {j : ℕ} (hj : j ≠ i) (made : s.made ≤ t.made)
    (states : ∀ k < s.made, (s.states k).closed = true → (t.states k).closed = true)
    (closed : s.closed = true → t.closed = true)
    (lists : (s.calls j).sweeps = true → t.lists = s.lists ∧ t.closed = s.closed)
    (quiet : t.closed = true → s.closed = true ∨ s.frames j = none) : Keeps s t j where
  call := c.call_of_ne hj
  frame := by rw [c.frames, Function.update_of_ne hj]
  lease := c.leases j hj
  owner := by rw [c.mem_owners, if_neg hj]
  expired := fun h => by rw [c.expired, h]
  made := made
  states := states
  closed := closed
  lists := lists
  quiet := quiet

/-- **What is known of the call that moved**, in terms of where it now stands. -/
theorem Change.callInv (c : Change s t i q f) (holds : q.Holds (t.admission.calls i))
    (settled : ∀ k, q.settles = some k → t.Settled i k)
    (swept : ∀ kind rest, q = .sweep kind rest →
      (∀ k ∈ t.lists kind, k ∈ rest ∨ t.Settled i k) ∧
        (kind = .event → t.lists .attribute = []))
    (finishing : q = .finishing → ∀ kind, t.lists kind = [])
    (finished : q = .finished → t.closed = true)
    (opened : q.sweeps = true → t.closed = false)
    (framed : ∀ k p, f = some (k, p) → q.encloses = true ∧ p = .test ∧ k < t.made)
    (refs : ∀ k ∈ q.refs, k < t.made) (gone : ∀ k, q = .direct k → t.expired = true) :
    CallInv t i where
  holds := by rw [c.call]; exact holds
  settled := by rw [c.call]; exact settled
  swept := by rw [c.call]; exact swept
  finishing := by rw [c.call]; exact finishing
  finished := by rw [c.call]; exact finished
  opened := by rw [c.call]; exact opened
  framed := fun k p hf => by
    obtain ⟨henc, -, hk⟩ := framed k p (by rw [← c.frame, hf])
    exact ⟨by rw [c.call, henc], hk⟩
  refs := by rw [c.call]; exact refs
  owner := by rw [c.mem_owners, if_pos rfl, c.call]
  gone := by rw [c.call]; exact gone
  quiet := fun _ k p hf => (framed k p (by rw [← c.frame, hf])).2.1

/-- A place where a call closes no read state and goes through no list. -/
def Pc.plain (q : Pc) : Bool := !q.encloses && !q.sweeps

/-- A call that moved to such a place. -/
theorem Change.callInv_plain (c : Change s t i q none) (plain : q.plain = true)
    (holds : q.Holds (t.admission.calls i)) (finished : q = .finished → t.closed = true)
    (refs : ∀ k ∈ q.refs, k < t.made) : CallInv t i := by
  refine c.callInv holds (fun k hq => ?_) (fun kind rest hq => ?_) (fun hq => ?_) finished
    (fun hq => ?_) (fun k p hf => by cases hf) refs (fun k hq => ?_)
  all_goals
    cases q <;> simp_all [Pc.plain, Pc.settles, Pc.encloses, Pc.sweeps]

/-- A call that entered a `Close` of the read state it refers to. -/
theorem Change.callInv_enter {k : ℕ} (c : Change s t i q (some (k, .test)))
    (holds : q.Holds (t.admission.calls i)) (encloses : q.encloses = true)
    (sweeps : q.sweeps = false) (refs : q.refs = [k]) (hk : k < t.made)
    (gone : ∀ k, q = .direct k → t.expired = true) : CallInv t i := by
  refine c.callInv holds (fun k' hq => Or.inr ⟨.test, ?_⟩) (fun kind rest hq => ?_)
    (fun hq => ?_) (fun hq => ?_) (fun hq => ?_) (fun k' p hf => ?_) (fun k' hk' => ?_) gone
  · have hmem := Pc.mem_refs_of_settles hq
    rw [refs, List.mem_singleton] at hmem
    rw [c.frame, hmem]
  · rw [hq] at sweeps
    cases sweeps
  · rw [hq] at sweeps
    cases sweeps
  · rw [hq] at encloses
    cases encloses
  · rw [sweeps] at hq
    cases hq
  · cases hf
    exact ⟨encloses, rfl, hk⟩
  · rw [refs, List.mem_singleton] at hk'
    rw [hk']
    exact hk

end Change

/-! ## What a step of a call can be -/

/-- The places where a call waits for the admission. -/
def Pc.waits : Pc → Bool
  | .acquiring _ | .releasing | .acquiringCleanup _ | .shutdown | .finished => true
  | _ => false

/-- A call that waits has no part in a `Close`, and its lease may be any. -/
theorem Pc.of_waits {p : Pc} (h : p.waits = true) :
    p.plain = true ∧ p.encloses = false ∧ p.uses = true ∧ ∀ a, p.Holds a := by
  cases p <;> cases h <;> exact ⟨rfl, rfl, rfl, fun _ => trivial⟩

/-- **The moves that change nothing but where a call stands.** -/
inductive Pc.GoesOn : Pc → Pc → Prop
  | acquired (kind : Kind) : GoesOn (.acquiring kind) (.opened kind)
  | notAcquired (kind : Kind) : GoesOn (.acquiring kind) .idle
  | notOpened (kind : Kind) : GoesOn (.opened kind) .releasing
  | answered (k : ℕ) : GoesOn (.waiting k) (.retaining k)
  | released : GoesOn .releasing .idle
  | notTaken (k : ℕ) : GoesOn (.taking k) .idle
  | notCleaned (k : ℕ) : GoesOn (.acquiringCleanup k) .idle
  | closedDirect (k : ℕ) : GoesOn (.direct k) .idle
  | shut : GoesOn .shutdown .locking

theorem Pc.GoesOn.plain {p q : Pc} (h : p.GoesOn q) : q.plain = true := by
  cases h <;> rfl

theorem Pc.GoesOn.refs {p q : Pc} (h : p.GoesOn q) : q.refs ⊆ p.refs := by
  cases h with
  | answered k => exact fun _ hk => hk
  | _ => exact List.nil_subset _

theorem Pc.GoesOn.uses {p q : Pc} (h : p.GoesOn q) (hq : q.uses = true) : p.uses = true := by
  cases h <;> first | rfl | cases hq

theorem Pc.GoesOn.owns {p q : Pc} (h : p.GoesOn q) {k : ℕ} (hp : p.owns = some k) :
    q.owns = some k := by
  cases h <;> exact hp

theorem Pc.GoesOn.ne_finished {p q : Pc} (h : p.GoesOn q) : q ≠ .finished := by
  cases h <;> rintro ⟨⟩

/-- **The moves into a `Close` of the read state `k`**, but for those of `Close` of the
runtime. -/
inductive Pc.Enters (k : ℕ) : Pc → Pc → Prop
  | failed : Enters k (.waiting k) (.unwinding k)
  | unwound : Enters k (.unwinding k) (.leaving k)
  | runtimeGone : Enters k (.closing k) (.direct k)
  | cleanup : Enters k (.acquiringCleanup k) (.erasing k)

theorem Pc.Enters.encloses {k : ℕ} {p q : Pc} (h : Pc.Enters k p q) : q.encloses = true := by
  cases h <;> rfl

theorem Pc.Enters.sweeps {k : ℕ} {p q : Pc} (h : Pc.Enters k p q) : q.sweeps = false := by
  cases h <;> rfl

theorem Pc.Enters.refs {k : ℕ} {p q : Pc} (h : Pc.Enters k p q) :
    p.refs = [k] ∧ q.refs = [k] := by
  cases h <;> exact ⟨rfl, rfl⟩

theorem Pc.Enters.uses {k : ℕ} {p q : Pc} (h : Pc.Enters k p q) (hq : q.uses = true) :
    p.uses = true := by
  cases h <;> first | rfl | cases hq

theorem Pc.Enters.owns {k k' : ℕ} {p q : Pc} (h : Pc.Enters k p q) (hp : p.owns = some k') :
    q.owns = some k' := by
  cases h <;> exact hp

/-- **What a step of a call can be** that is in no `Close` of a read state. -/
inductive BodyStep (s : State) (i : ℕ) : State → Prop
  | waits {a : Answer} {t : State} (hp : (s.calls i).waits = true)
      (hst : s.admit (.advance i a) = some t) : BodyStep s i t
  | goesOn {p q : Pc} (hpc : s.calls i = p) (hq : p.GoesOn q)
      (holds : p.Holds (s.admission.calls i) → q.Holds (s.admission.calls i)) :
      BodyStep s i (s.setCall i q)
  | enters {k : ℕ} {p q : Pc} (hpc : s.calls i = p) (hq : Pc.Enters k p q)
      (holds : p.Holds (s.admission.calls i) → q.Holds (s.admission.calls i))
      (gone : p = .closing k → s.expired = true) : BodyStep s i ((s.setCall i q).enter i k)
  | makes {kind : Kind} (hpc : s.calls i = .opened kind) (hopen : s.closed = false) :
      BodyStep s i (s.make i kind)
  | connects {k : ℕ} (hpc : s.calls i = .connecting k) :
      BodyStep s i ((s.setState k { s.states k with live := true }).setCall i (.waiting k))
  | unwinds {k : ℕ} (hpc : s.calls i = .connecting k ∨ s.calls i = .retaining k) :
      BodyStep s i (s.setCall i (.unwinding k))
  | retains {k : ℕ} (hpc : s.calls i = .retaining k) : BodyStep s i (s.retain i k)
  | leaves {k : ℕ} (hpc : s.calls i = .leaving k) : BodyStep s i (s.setCall i .releasing)
  | takes {k : ℕ} (hpc : s.calls i = .taking k) (harmed : s.subscriptions k = some true) :
      BodyStep s i { s.setCall i (.closing k) with
        subscriptions := Function.update s.subscriptions k (some false) }
  | cleansUp {k : ℕ} {t : State} (hpc : s.calls i = .closing k) (hexp : s.expired = false)
      (hst : s.admit (.call i .acquireCleanup) = some t) :
      BodyStep s i (t.setCall i (.acquiringCleanup k))
  | erases {k : ℕ} (hpc : s.calls i = .erasing k) :
      BodyStep s i ((s.setList (s.states k).kind
        ((s.lists (s.states k).kind).filter (· ≠ k))).setCall i .releasing)
  | locks {l : Mutex ℕ} (hpc : s.calls i = .locking) :
      BodyStep s i { s.setCall i .testing with operationLock := l }
  | closedBefore (hpc : s.calls i = .testing) (hclosed : s.closed = true) :
      BodyStep s i { s.setCall i .finished with operationLock := s.operationLock.unlock }
  | startsSweep {l : Mutex ℕ} (hpc : s.calls i = .testing) (hopen : s.closed = false) :
      BodyStep s i { s.setCall i (.sweep .attribute (s.lists .attribute)) with lock := l }
  | sweeps {kind : Kind} {k : ℕ} {rest : List ℕ} (hpc : s.calls i = .sweep kind (k :: rest)) :
      BodyStep s i ((s.setCall i (.sweep kind rest)).enter i k)
  | clearsAttributes (hpc : s.calls i = .sweep .attribute []) :
      BodyStep s i ((s.setList .attribute []).setCall i (.sweep .event (s.lists .event)))
  | clearsEvents (hpc : s.calls i = .sweep .event []) :
      BodyStep s i ((s.setList .event []).setCall i .finishing)
  | finishes (hpc : s.calls i = .finishing) : BodyStep s i (s.finish i)
  | returns (hpc : s.calls i = .finished) (hidle : s.admission.calls i = .idle) :
      BodyStep s i { s.setCall i .idle with closeReturned := true }

/-- **The inversion of a step**, by where the call stands. -/
theorem body_spec {s t : State} {i : ℕ} {a : Answer} (hb : body s i a = some t) :
    BodyStep s i t := by
  unfold body at hb
  cases hpc : s.calls i <;> rw [hpc] at hb
  case idle => cases hb
  case acquiring kind =>
    dsimp only at hb
    split at hb
    · rename_i n m hlease
      cases hb
      exact .goesOn hpc (.acquired kind) fun _ => ⟨n, m, hlease⟩
    · rename_i hidle
      cases hb
      exact .goesOn hpc (.notAcquired kind) fun _ => hidle
    · exact .waits (by rw [hpc]; rfl) hb
  case opened kind =>
    cases a with
    | go =>
      dsimp only at hb
      split at hb
      · split at hb <;> cases hb
        · exact .goesOn hpc (.notOpened kind) fun _ => trivial
        · rename_i hopen
          exact .makes hpc (Bool.eq_false_iff.mpr hopen)
      · cases hb
    | throws =>
      cases hb
      exact .goesOn hpc (.notOpened kind) fun _ => trivial
    | blocked => cases hb
  case connecting k =>
    cases a <;> cases hb
    · exact .connects hpc
    · exact .unwinds (Or.inl hpc)
  case waiting k =>
    cases a with
    | go =>
      dsimp only at hb
      split at hb
      · split at hb <;> cases hb
        · exact .goesOn hpc (.answered k) id
        · exact .enters hpc .failed id (by rintro ⟨⟩)
      · cases hb
    | throws =>
      dsimp only at hb
      split at hb <;> cases hb
      exact .enters hpc .failed id (by rintro ⟨⟩)
    | blocked => cases hb
  case retaining k =>
    cases a with
    | go =>
      dsimp only at hb
      split at hb <;> cases hb
      exact .retains hpc
    | throws =>
      cases hb
      exact .unwinds (Or.inr hpc)
    | blocked => cases hb
  case unwinding k =>
    cases a <;> cases hb
    exact .enters hpc .unwound id (by rintro ⟨⟩)
  case leaving k =>
    cases a <;> cases hb
    exact .leaves hpc
  case releasing =>
    dsimp only at hb
    split at hb
    · rename_i hidle
      cases hb
      exact .goesOn hpc .released fun _ => hidle
    · exact .waits (by rw [hpc]; rfl) hb
  case taking k =>
    cases a with
    | go =>
      dsimp only at hb
      split at hb <;> cases hb
      · rename_i harmed
        exact .takes hpc harmed
      · exact .goesOn hpc (.notTaken k) id
    | _ => cases hb
  case closing k =>
    cases a with
    | go =>
      dsimp only at hb
      split at hb
      · rename_i hexp
        cases hb
        exact .enters hpc .runtimeGone id fun _ => hexp
      · rename_i hexp
        obtain ⟨u, hu, rfl⟩ := Option.map_eq_some_iff.mp hb
        exact .cleansUp hpc (Bool.eq_false_iff.mpr hexp) hu
    | _ => cases hb
  case acquiringCleanup k =>
    dsimp only at hb
    split at hb
    · rename_i hlease
      cases hb
      exact .enters hpc .cleanup (fun _ => hlease) (by rintro ⟨⟩)
    · rename_i hidle
      cases hb
      exact .goesOn hpc (.notCleaned k) fun _ => hidle
    · exact .waits (by rw [hpc]; rfl) hb
  case erasing k =>
    cases a with
    | go =>
      dsimp only at hb
      split at hb <;> cases hb
      exact .erases hpc
    | _ => cases hb
  case direct k =>
    cases a <;> cases hb
    exact .goesOn hpc (.closedDirect k) id
  case shutdown =>
    dsimp only at hb
    split at hb
    · rename_i hlease
      cases hb
      exact .goesOn hpc .shut fun _ => hlease
    · exact .waits (by rw [hpc]; rfl) hb
  case locking =>
    cases a with
    | go =>
      obtain ⟨l, -, rfl⟩ := Option.map_eq_some_iff.mp hb
      exact .locks hpc
    | _ => cases hb
  case testing =>
    cases a with
    | go =>
      obtain ⟨l, -, hb⟩ := Option.map_eq_some_iff.mp hb
      split at hb <;> subst hb
      · rename_i hclosed
        exact .closedBefore hpc hclosed
      · rename_i hopen
        exact .startsSweep hpc (Bool.eq_false_iff.mpr hopen)
    | _ => cases hb
  case sweep kind rest =>
    cases rest with
    | cons k rest =>
      cases a <;> cases hb
      exact .sweeps hpc
    | nil =>
      cases kind <;> cases a <;> cases hb
      · exact .clearsAttributes hpc
      · exact .clearsEvents hpc
  case finishing =>
    cases a <;> cases hb
    exact .finishes hpc
  case finished =>
    dsimp only at hb
    split at hb
    · rename_i hidle
      cases hb
      exact .returns hpc hidle
    · exact .waits (by rw [hpc]; rfl) hb

/-- **What a step can be.** -/
inductive StepCase (s : State) : Action → State → Prop
  | refused {i : ℕ} {kind : Kind} {nodeId : UInt64} {minimumInterval maximumInterval : UInt16} :
      StepCase s (.subscribe i kind nodeId minimumInterval maximumInterval) s
  | subscribes {i : ℕ} {kind : Kind} {nodeId : UInt64} {minimumInterval maximumInterval : UInt16}
      {t : State} (hst : s.start i (.acquireNode nodeId) (.acquiring kind) = some t) :
      StepCase s (.subscribe i kind nodeId minimumInterval maximumInterval) t
  | closesAsync {i k : ℕ} (hpc : s.calls i = .idle) (hsub : s.subscriptions k ≠ none) :
      StepCase s (.closeAsync i k) (s.setCall i (.taking k))
  | closes {i : ℕ} {t : State} (hst : s.start i .beginShutdown .shutdown = some t) :
      StepCase s (.close i) t
  | advances {i : ℕ} {a : Answer} {t : State} (hst : advance s i a = some t) :
      StepCase s (.advance i a) t
  | established {k : ℕ} :
      StepCase s (.established k) (s.setState k { s.states k with established := true })
  | fails {k : ℕ} {error : ChipError} :
      StepCase s (.fail k error) (s.setState k ((s.states k).fail error))
  | expires (hempty : s.owners = ∅) : StepCase s .expire { s with expired := true }

/-- **The inversion of a step**, by the action. -/
theorem step_spec {s t : State} {a : Action} (hst : step s a = some t) : StepCase s a t := by
  unfold step at hst
  cases a with
  | subscribe i kind nodeId minimumInterval maximumInterval =>
    dsimp only at hst
    split at hst
    · cases hst
      exact .refused
    · exact .subscribes hst
  | closeAsync i k =>
    dsimp only at hst
    split at hst
    · rename_i armed hpc hsub
      cases hst
      exact .closesAsync hpc (by rw [hsub]; simp)
    · cases hst
  | close i => exact .closes hst
  | advance i a => exact .advances hst
  | established k =>
    dsimp only at hst
    split at hst <;> cases hst
    exact .established
  | fail k error =>
    dsimp only at hst
    split at hst <;> cases hst
    exact .fails
  | expire =>
    dsimp only at hst
    split at hst
    · rename_i hempty
      cases hst
      exact .expires hempty
    · cases hst

/-! ## The steps keep the invariant -/

section Steps

variable {s t : State} {i : ℕ} {q : Pc} {f : Option (ℕ × ClosePhase)}

/-- A call that refers to the runtime keeps it. -/
theorem Inv.not_expired (h : Inv s) (hi : (s.calls i).uses = true) : s.expired = false := by
  rw [Bool.eq_false_iff]
  intro hexp
  have hmem := (h.calls i).owner.mpr hi
  rw [h.expired hexp] at hmem
  exact absurd hmem (Finset.notMem_empty i)

/-- Once the runtime is closed no call is cleared. -/
theorem Inv.not_cleared (h : Inv s) (hclosed : s.closed = true) (i : ℕ) :
    (s.admission.calls i).cleared = false :=
  ((RuntimeOperationAdmission.inv_of_reachable h.admission).shutdown (h.ended hclosed).1).2 i

/-- A call that goes through the lists excludes every other that has a lease. -/
theorem Inv.sweep_alone (h : Inv s) {j : ℕ} (hj : (s.calls j).sweeps = true)
    (hi : (s.admission.calls i).lease = true) : j = i := by
  refine (RuntimeOperationAdmission.inv_of_reachable h.admission).exclusive_alone ?_ hi
  have hholds := (h.calls j).holds
  cases hq : s.calls j <;> rw [hq] at hj hholds <;> cases hj <;>
    rw [show s.admission.calls j = .shutdownLease from hholds] <;> rfl

/-- **A move of one call**, if what is then known of it and of the whole holds. -/
theorem Inv.of_change (h : Inv s) (c : Change s t i q f)
    (uses : q.uses = true → s.expired = false) (hcall : CallInv t i)
    (hkeeps : ∀ j, j ≠ i → Keeps s t j)
    (known : ∀ k < t.made, (t.states k).closed = true ∨ (∃ kind, k ∈ t.lists kind) ∨
      q.owns = some k ∨ ∃ j, j ≠ i ∧ (s.calls j).owns = some k)
    (listed : ∀ kind, ∀ k ∈ t.lists kind, k < t.made)
    (handed : ∀ k, t.subscriptions k ≠ none → k < t.made)
    (ended : t.closed = true → t.admission.shutdownReturned = true ∧
      (∀ k < t.made, (t.states k).closed = true) ∧ ∀ kind, t.lists kind = [])
    (returned : t.closeReturned = true → t.closed = true) : Inv t where
  admission := c.reachable
  calls := fun j => by
    by_cases hj : j = i
    · rw [hj]
      exact hcall
    · exact (h.calls j).of_keeps (hkeeps j hj) h.listed
  known := fun k hk => by
    rcases known k hk with hc | hl | hq | ⟨j, hj, hown⟩
    · exact Or.inl hc
    · exact Or.inr (Or.inl hl)
    · exact Or.inr (Or.inr ⟨i, by rw [c.call, hq]⟩)
    · exact Or.inr (Or.inr ⟨j, by rw [c.call_of_ne hj, hown]⟩)
  listed := listed
  handed := handed
  expired := fun hexp => by
    rw [c.expired] at hexp
    refine Finset.eq_empty_of_forall_notMem fun j hj => ?_
    rw [c.mem_owners] at hj
    split at hj
    · rw [uses hj] at hexp
      cases hexp
    · rw [h.expired hexp] at hj
      exact absurd hj (Finset.notMem_empty j)
  ended := ended
  returned := returned

/-- What is known of a state that was made, without the call that moves. -/
theorem Inv.known_of_owns (h : Inv s)
    (owns : ∀ k, (s.calls i).owns = some k → q.owns = some k ∨ (s.states k).closed = true)
    {k : ℕ} (hk : k < s.made) :
    (s.states k).closed = true ∨ (∃ kind, k ∈ s.lists kind) ∨
      q.owns = some k ∨ ∃ j, j ≠ i ∧ (s.calls j).owns = some k := by
  rcases h.known k hk with hc | hl | ⟨j, hown⟩
  · exact Or.inl hc
  · exact Or.inr (Or.inl hl)
  · by_cases hj : j = i
    · rw [hj] at hown
      rcases owns k hown with hq | hc
      · exact Or.inr (Or.inr (Or.inl hq))
      · exact Or.inl hc
    · exact Or.inr (Or.inr (Or.inr ⟨j, hj, hown⟩))

/-- **A move that changes nothing else**: the lists are as they were, and the same states
are closed. -/
theorem Inv.move (h : Inv s) (c : Change s t i q f)
    (uses : q.uses = true → s.expired = false) (hcall : CallInv t i)
    (made : t.made = s.made) (lists : t.lists = s.lists) (closed : t.closed = s.closed)
    (states : ∀ k, (t.states k).closed = (s.states k).closed)
    (owns : ∀ k, (s.calls i).owns = some k → q.owns = some k ∨ (s.states k).closed = true)
    (handed : ∀ k, t.subscriptions k ≠ none → s.subscriptions k ≠ none)
    (returned : t.closeReturned = true → s.closed = true) : Inv t := by
  refine h.of_change c uses hcall (fun j hj => ?_) (fun k hk => ?_) (fun kind k hk => ?_)
    (fun k hk => ?_) (fun hc => ?_) (fun hret => by rw [closed, returned hret])
  · exact c.keeps hj made.ge (fun k _ hk => by rw [states, hk]) (fun hc => by rw [closed, hc])
      (fun _ => ⟨lists, closed⟩) (fun hc => Or.inl (by rw [← closed, hc]))
  · rw [made] at hk
    rw [states, lists]
    exact h.known_of_owns owns hk
  · rw [lists] at hk
    rw [made]
    exact h.listed kind k hk
  · rw [made]
    exact h.handed k (handed k hk)
  · rw [closed] at hc
    obtain ⟨hret, hstates, hlists⟩ := h.ended hc
    refine ⟨c.returned hret, fun k hk => ?_, by rw [lists]; exact hlists⟩
    rw [made] at hk
    rw [states, hstates k hk]

/-- What is known of a call does not hang on the mutexes or the close functions, and read
states that close, or a runtime that is destroyed, leave it as it is. -/
theorem CallInv.beside (h : CallInv s i) (listed : ∀ kind, ∀ k ∈ s.lists kind, k < s.made)
    {l k : Mutex ℕ} {subscriptions : ℕ → Option Bool} {returned expired : Bool}
    {states : ℕ → ReadState}
    (hstates : ∀ k, (s.states k).closed = true → (states k).closed = true)
    (hexpired : s.expired = true → expired = true) :
    CallInv { s with
      operationLock := l, lock := k, subscriptions := subscriptions
      closeReturned := returned, states := states, expired := expired } i :=
  h.of_keeps
    { call := rfl
      frame := rfl
      lease := rfl
      owner := Iff.rfl
      expired := hexpired
      made := le_rfl
      states := fun k _ => hstates k
      closed := id
      lists := fun _ => ⟨rfl, rfl⟩
      quiet := Or.inl } listed

/-- The mutexes only order the calls further, and the close functions are nobody's
business but `CloseAsync`'s. -/
theorem Inv.of_same (h : Inv s) (l k : Mutex ℕ) {subscriptions : ℕ → Option Bool}
    {returned : Bool} (hsub : ∀ k, subscriptions k ≠ none → s.subscriptions k ≠ none)
    (hret : returned = true → s.closed = true) :
    Inv { s with
      operationLock := l, lock := k, subscriptions := subscriptions
      closeReturned := returned } where
  admission := h.admission
  calls := fun i => (h.calls i).beside h.listed (fun _ hk => hk) id
  known := h.known
  listed := h.listed
  handed := fun k hk => h.handed k (hsub k hk)
  expired := h.expired
  ended := h.ended
  returned := hret

/-- What happens to a read state, but for its being closed, is not the runtime's business. -/
theorem Inv.setState (h : Inv s) {k : ℕ} {r : ReadState}
    (hr : r.closed = (s.states k).closed) : Inv (s.setState k r) := by
  have hstates : ∀ k', ((s.setState k r).states k').closed = (s.states k').closed := by
    intro k'
    show (Function.update s.states k r k').closed = (s.states k').closed
    by_cases hk : k' = k
    · rw [hk, Function.update_self, hr]
    · rw [Function.update_of_ne hk]
  refine
    { admission := h.admission
      calls := fun i => (h.calls i).beside h.listed (fun k' hk => (hstates k').trans hk) id
      known := fun k' hk => (h.known k' hk).imp_left fun hc => by rw [hstates, hc]
      listed := h.listed
      handed := h.handed
      expired := h.expired
      ended := fun hc => ?_
      returned := h.returned }
  obtain ⟨hret, hall, hlists⟩ := h.ended hc
  exact ⟨hret, fun k' hk => by rw [hstates, hall k' hk], hlists⟩

/-- A call that stands where no read state is closed closes none. -/
theorem Inv.frame_eq_none (h : Inv s) (hi : (s.calls i).encloses = false) :
    s.frames i = none := by
  by_contra hne
  obtain ⟨⟨k, p⟩, hf⟩ := Option.ne_none_iff_exists'.mp hne
  rw [((h.calls i).framed k p hf).1] at hi
  cases hi

/-- A move without a step of the admission. -/
theorem Inv.change (h : Inv s) (hf : s.frames i = none)
    (calls : t.calls = Function.update s.calls i q) (frames : t.frames = s.frames)
    (owners : t.owners = if q.uses then insert i s.owners else s.owners.erase i)
    (expired : t.expired = s.expired) (admission : t.admission = s.admission) :
    Change s t i q none where
  calls := calls
  frames := by rw [frames, ← hf, Function.update_eq_self]
  owners := owners
  expired := expired
  reachable := by rw [admission]; exact h.admission
  leases := fun j _ => by rw [admission]
  returned := fun hret => by rw [admission, hret]

/-- **A move to a place where no read state is closed.** -/
theorem Inv.setCall (h : Inv s) (hf : s.frames i = none) {p : Pc} (hpc : s.calls i = p)
    (plain : q.plain = true) (holds : q.Holds (s.admission.calls i)) (refs : q.refs ⊆ p.refs)
    (uses : q.uses = true → p.uses = true)
    (owns : ∀ k, p.owns = some k → q.owns = some k ∨ (s.states k).closed = true)
    (finished : q = .finished → s.closed = true) : Inv (s.setCall i q) := by
  subst hpc
  have c : Change s (s.setCall i q) i q none := h.change hf rfl rfl rfl rfl rfl
  exact h.move c (fun hq => h.not_expired (uses hq))
    (c.callInv_plain plain holds finished fun k hk => (h.calls i).refs k (refs hk))
    rfl rfl rfl (fun _ => rfl) owns (fun _ hk => hk) h.returned

/-- **An exception** on its way to the scope guard. -/
theorem Inv.unwind (h : Inv s) (hf : s.frames i = none) {p : Pc} {k : ℕ}
    (hpc : s.calls i = p) (hholds : ∃ n m, s.admission.calls i = .nodeLease n m)
    (refs : k ∈ p.refs) (uses : p.uses = true) (owns : ∀ k', p.owns = some k' → k' = k) :
    Inv (s.setCall i (.unwinding k)) := by
  subst hpc
  have c : Change s (s.setCall i (.unwinding k)) i (.unwinding k) none :=
    h.change hf rfl rfl rfl rfl rfl
  refine h.move c (fun _ => h.not_expired uses)
    (c.callInv hholds (fun k' hq => by cases hq) (fun kind rest hq => by cases hq)
      (fun hq => by cases hq) (fun hq => by cases hq) (fun hq => by cases hq)
      (fun k' p hk' => by cases hk') (fun k' hk' => ?_) (fun k' hq => by cases hq))
    rfl rfl rfl (fun _ => rfl) (fun k' hown => Or.inl (by rw [owns k' hown]; rfl))
    (fun _ hk => hk) h.returned
  rw [List.mem_singleton.mp hk']
  exact (h.calls i).refs k refs

/-- **A call of `Close` of a read state** on the way. -/
theorem Inv.enter (h : Inv s) {p : Pc} {k : ℕ} (hpc : s.calls i = p) (hq : Pc.Enters k p q)
    (holds : p.Holds (s.admission.calls i) → q.Holds (s.admission.calls i))
    (gone : p = .closing k → s.expired = true) : Inv ((s.setCall i q).enter i k) := by
  subst hpc
  have c : Change s ((s.setCall i q).enter i k) i q (some (k, .test)) :=
    ⟨rfl, rfl, rfl, rfl, h.admission, fun _ _ => rfl, id⟩
  have hk : k < s.made := (h.calls i).refs k (by rw [hq.refs.1]; exact List.mem_singleton_self k)
  refine h.move c (fun huses => h.not_expired (hq.uses huses))
    (c.callInv_enter (holds (h.calls i).holds) hq.encloses hq.sweeps hq.refs.2 hk
      fun k' hdirect => ?_)
    rfl rfl rfl (fun _ => rfl) (fun k' hown => Or.inl (hq.owns hown)) (fun _ hk => hk)
    h.returned
  -- only a call that found the runtime gone closes the state directly
  rw [hdirect] at hq
  generalize hp : s.calls i = p at hq gone
  cases hq
  exact gone rfl

/-- **A move that changes nothing but where the call stands.** -/
theorem Inv.goOn (h : Inv s) (hf : s.frames i = none) {p : Pc} (hpc : s.calls i = p)
    (hq : p.GoesOn q)
    (holds : p.Holds (s.admission.calls i) → q.Holds (s.admission.calls i)) :
    Inv (s.setCall i q) := by
  have hholds := (h.calls i).holds
  rw [hpc] at hholds
  exact h.setCall hf hpc hq.plain (holds hholds) hq.refs hq.uses
    (fun k hk => Or.inl (hq.owns hk)) (fun hfin => absurd hfin hq.ne_finished)

/-- **A step of the admission**, of the call's own. -/
theorem Inv.admit (h : Inv s) (hf : s.frames i = none)
    {a : RuntimeOperationAdmission.Action}
    (ha : (∃ x, a = .advance i x) ∨ ∃ g, a = .call i g) (hst : s.admit a = some t)
    (plain : q.plain = true) (holds : ∀ p, q.Holds p) (refs : ∀ k ∈ q.refs, k < s.made)
    (uses : q.uses = true → s.expired = false)
    (owns : ∀ k, (s.calls i).owns = some k → q.owns = some k ∨ (s.states k).closed = true)
    (finished : q = .finished → s.closed = true) : Inv (t.setCall i q) := by
  obtain ⟨m, hm, rfl⟩ := Option.map_eq_some_iff.mp hst
  have hother : (∀ j, j ≠ i → m.calls j = s.admission.calls j) ∧
      (s.admission.shutdownReturned = true → m.shutdownReturned = true) := by
    rcases ha with ⟨x, rfl⟩ | ⟨g, rfl⟩
    · have hstep := RuntimeOperationAdmission.advance_spec hm
      exact ⟨fun j hj => hstep.calls_of_ne hj, hstep.shutdownReturned⟩
    · obtain ⟨-, rfl⟩ := RuntimeOperationAdmission.call_spec hm
      exact ⟨fun j hj => s.admission.setCall_of_ne _ hj, id⟩
  have c : Change s (({ s with admission := m } : State).setCall i q) i q none :=
    { calls := rfl
      frames := by rw [← hf, Function.update_eq_self]; rfl
      owners := rfl
      expired := rfl
      reachable := h.admission.step hm
      leases := hother.1
      returned := hother.2 }
  exact h.move c uses (c.callInv_plain plain (holds _) finished refs)
    rfl rfl rfl (fun _ => rfl) owns (fun _ hk => hk) h.returned

/-- A call that stays where it is has moved nowhere. -/
theorem Inv.setCall_self (h : Inv s) (i : ℕ) : s.setCall i (s.calls i) = s := by
  have howners : (if (s.calls i).uses then insert i s.owners else s.owners.erase i) =
      s.owners := by
    split
    · rename_i huses
      exact Finset.insert_eq_self.mpr ((h.calls i).owner.mpr huses)
    · rename_i huses
      exact Finset.erase_eq_of_notMem fun hmem => huses ((h.calls i).owner.mp hmem)
  rw [State.setCall, Function.update_eq_self, howners]

/-- The admission takes a step while the call waits for it. -/
theorem Inv.admit_self (h : Inv s) {a : Answer} (hst : s.admit (.advance i a) = some t)
    (hp : (s.calls i).waits = true) : Inv t := by
  obtain ⟨plain, encloses, uses, holds⟩ := Pc.of_waits hp
  have hinv := h.admit (h.frame_eq_none encloses) (Or.inl ⟨a, rfl⟩) hst plain holds
    (h.calls i).refs (fun _ => h.not_expired uses) (fun k hk => Or.inl hk)
    (h.calls i).finished
  obtain ⟨m, hm, rfl⟩ := Option.map_eq_some_iff.mp hst
  have heq : ({ s with admission := m } : State).setCall i (s.calls i) =
      { s.setCall i (s.calls i) with admission := m } := rfl
  rw [heq, h.setCall_self] at hinv
  exact hinv

/-- A step in a `Close` of a read state: the state is closed where the call is through with
it, and a call that finds it closed is. -/
theorem Inv.setFrame (h : Inv s) {k : ℕ} {p : ClosePhase} (hf : s.frames i = some (k, p))
    {r : ReadState} (closed : (s.states k).closed = true → r.closed = true)
    (done : f = none → r.closed = true) (same : ∀ k' p', f = some (k', p') → k' = k)
    (quiet : p = .test → (s.states k).closed = true → f = none) :
    Inv ((s.setState k r).setFrame i f) := by
  have hstates : ∀ k', (s.states k').closed = true →
      (((s.setState k r).setFrame i f).states k').closed = true := by
    intro k' hk'
    show (Function.update s.states k r k').closed = true
    by_cases hk : k' = k
    · rw [hk, Function.update_self]
      exact closed (by rw [← hk, hk'])
    · rw [Function.update_of_ne hk, hk']
  have hframe : ((s.setState k r).setFrame i f).frames i = f := by
    show Function.update s.frames i f i = f
    rw [Function.update_self]
  have hsettled : ∀ k', s.Settled i k' → ((s.setState k r).setFrame i f).Settled i k' := by
    rintro k' (hk' | ⟨p', hp'⟩)
    · exact Or.inl (hstates k' hk')
    · -- it is the state this `Close` is of
      rw [hf] at hp'
      cases hp'
      cases hfn : f with
      | none =>
        refine Or.inl ?_
        show (Function.update s.states k r k).closed = true
        rw [Function.update_self, done hfn]
      | some kp =>
        obtain ⟨k', p'⟩ := kp
        obtain rfl := same k' p' hfn
        exact Or.inr ⟨p', by rw [← hfn]; exact hframe⟩
  refine
    { admission := h.admission
      calls := fun j => ?_
      known := fun k' hk' => (h.known k' hk').imp_left (hstates k')
      listed := h.listed
      handed := h.handed
      expired := h.expired
      ended := fun hc => ?_
      returned := h.returned }
  · by_cases hj : j = i
    · subst hj
      have hcall := h.calls j
      exact
        { holds := hcall.holds
          settled := fun k' hq => hsettled k' (hcall.settled k' hq)
          swept := fun kind rest hq =>
            ⟨fun k' hk' => ((hcall.swept kind rest hq).1 k' hk').imp_right (hsettled k'),
              (hcall.swept kind rest hq).2⟩
          finishing := hcall.finishing
          finished := hcall.finished
          opened := hcall.opened
          framed := fun k' p' hf' => by
            rw [hframe] at hf'
            rw [same k' p' hf']
            exact hcall.framed k p hf
          refs := hcall.refs
          owner := hcall.owner
          gone := hcall.gone
          quiet := fun hc k' p' hf' => by
            rw [hframe, quiet (hcall.quiet hc k p hf)
              ((h.ended hc).2.1 k (hcall.framed k p hf).2)] at hf'
            cases hf' }
    · refine (h.calls j).of_keeps ?_ h.listed
      exact
        { call := rfl
          frame := Function.update_of_ne hj _ _
          lease := rfl
          owner := Iff.rfl
          expired := id
          made := le_rfl
          states := fun k' _ => hstates k'
          closed := id
          lists := fun _ => ⟨rfl, rfl⟩
          quiet := Or.inl }
  · obtain ⟨hret, hall, hlists⟩ := h.ended hc
    exact ⟨hret, fun k' hk' => hstates k' (hall k' hk'), hlists⟩

/-- **A step of a `Close` of a read state.** -/
theorem Inv.closeState (h : Inv s) {k : ℕ} {p : ClosePhase} (hf : s.frames i = some (k, p)) :
    Inv (s.closeState i k p) := by
  have hself : s.setState k (s.states k) = s := by
    rw [State.setState, Function.update_eq_self]
  cases p with
  | test =>
    simp only [State.closeState]
    by_cases hc : (s.states k).closed = true
    · rw [if_pos hc]
      have hinv := h.setFrame (f := none) hf id (fun _ => hc) (fun k' p' hk' => by cases hk')
        (fun _ _ => rfl)
      rwa [hself] at hinv
    · rw [if_neg hc]
      have hinv := h.setFrame (f := some (k, .reset)) hf id (fun hn => by cases hn)
        (fun k' p' hk' => by cases hk'; rfl) (fun _ hk => absurd hk hc)
      rwa [hself] at hinv
  | reset =>
    exact h.setFrame hf id (fun hn => by cases hn) (fun k' p' hk' => by cases hk'; rfl)
      (fun hp => by cases hp)
  | mark =>
    exact h.setFrame hf (fun _ => rfl) (fun _ => rfl) (fun k' p' hk' => by cases hk')
      (fun hp => by cases hp)

/-! ## The lists -/

/-- **A new state** is known to the call that made it. -/
theorem Inv.make (h : Inv s) {kind : Kind} (hpc : s.calls i = .opened kind)
    (hopen : s.closed = false) : Inv (s.make i kind) := by
  have hf := h.frame_eq_none (i := i) (by rw [hpc]; rfl)
  have c : Change s (s.make i kind) i (.connecting s.made) none :=
    h.change hf rfl rfl rfl rfl rfl
  have hstates : ∀ k < s.made, (s.make i kind).states k = s.states k :=
    fun k hk => Function.update_of_ne hk.ne _ _
  have hholds : Pc.Holds (.connecting s.made) (s.admission.calls i) := by
    have hholds := (h.calls i).holds
    rw [hpc] at hholds
    exact hholds
  refine h.of_change c (fun _ => h.not_expired (by rw [hpc]; rfl))
    (c.callInv_plain rfl hholds (fun hq => by cases hq) (fun k hk => ?_)) (fun j hj => ?_)
    (fun k hk => ?_) (fun kind k hk => (h.listed kind k hk).trans (Nat.lt_succ_self _))
    (fun k hk => (h.handed k hk).trans (Nat.lt_succ_self _)) (fun hc => ?_) h.returned
  · rw [List.mem_singleton.mp hk]
    exact Nat.lt_succ_self _
  · exact c.keeps hj (Nat.le_succ _) (fun k hk hc => by rw [hstates k hk, hc]) id
      (fun _ => ⟨rfl, rfl⟩) Or.inl
  · rcases Nat.lt_succ_iff_lt_or_eq.mp hk with hk | rfl
    · rw [hstates k hk]
      exact h.known_of_owns (fun k hq => by rw [hpc] at hq; cases hq) hk
    · exact Or.inr (Or.inr (Or.inl rfl))
  · rw [show (s.make i kind).closed = s.closed from rfl, hopen] at hc
    cases hc

/-- What a list that was replaced has, and the others. -/
theorem mem_update_list {l : List ℕ} {kind kind' : Kind} {k : ℕ} {lists : Kind → List ℕ}
    (h : k ∈ Function.update lists kind l kind') :
    (kind' = kind ∧ k ∈ l) ∨ k ∈ lists kind' := by
  by_cases hkind : kind' = kind
  · rw [hkind, Function.update_self] at h
    exact Or.inl ⟨hkind, h⟩
  · rw [Function.update_of_ne hkind] at h
    exact Or.inr h

/-- A lease that is not a shutdown's keeps the runtime open. -/
theorem Inv.opened (h : Inv s) (hi : (s.admission.calls i).cleared = true) :
    s.closed = false := by
  rw [Bool.eq_false_iff]
  intro hclosed
  rw [h.not_cleared hclosed i] at hi
  cases hi

/-- **A move that replaces a list**, by a call that has a lease while the runtime is open:
what leaves the list is closed, or the call knows it. -/
theorem Inv.setList (h : Inv s) (c : Change s t i q none) {kind : Kind} {l : List ℕ}
    (lease : (s.admission.calls i).lease = true) (hopen : s.closed = false)
    (uses : (s.calls i).uses = true) (hcall : CallInv t i) (made : t.made = s.made)
    (states : t.states = s.states) (lists : t.lists = Function.update s.lists kind l)
    (closed : t.closed = s.closed) (returned : t.closeReturned = s.closeReturned)
    (old : ∀ k ∈ s.lists kind, k ∈ l ∨ (s.states k).closed = true)
    (new : ∀ k ∈ l, k < s.made)
    (owns : ∀ k, (s.calls i).owns = some k →
      q.owns = some k ∨ k ∈ l ∨ (s.states k).closed = true)
    (handed : ∀ k, t.subscriptions k ≠ none → k < s.made) : Inv t := by
  refine h.of_change c (fun _ => h.not_expired uses) hcall (fun j hj => ?_) (fun k hk => ?_)
    (fun kind' k hk => ?_) (fun k hk => by rw [made]; exact handed k hk) (fun hc => ?_)
    (fun hret => by rw [closed, h.returned (by rw [← returned, hret])])
  · exact c.keeps hj made.ge (fun k _ hk => by rw [states, hk]) (fun hc => by rw [closed, hc])
      (fun hsweep => absurd (h.sweep_alone hsweep lease) hj)
      (fun hc => Or.inl (by rw [← closed, hc]))
  · rw [made] at hk
    rw [states, lists]
    rcases h.known k hk with hc | ⟨kind', hk'⟩ | ⟨j, hown⟩
    · exact Or.inl hc
    · by_cases hkind : kind' = kind
      · rw [hkind] at hk'
        rcases old k hk' with hl | hc
        · exact Or.inr (Or.inl ⟨kind, by rw [Function.update_self]; exact hl⟩)
        · exact Or.inl hc
      · exact Or.inr (Or.inl ⟨kind', by rw [Function.update_of_ne hkind]; exact hk'⟩)
    · by_cases hj : j = i
      · rw [hj] at hown
        rcases owns k hown with hq | hl | hc
        · exact Or.inr (Or.inr (Or.inl hq))
        · exact Or.inr (Or.inl ⟨kind, by rw [Function.update_self]; exact hl⟩)
        · exact Or.inl hc
      · exact Or.inr (Or.inr (Or.inr ⟨j, hj, hown⟩))
  · rw [lists] at hk
    rw [made]
    rcases mem_update_list hk with ⟨-, hl⟩ | hk
    · exact new k hl
    · exact h.listed kind' k hk
  · rw [closed, hopen] at hc
    cases hc

/-- **The state is retained**: the list knows it instead of the call. -/
theorem Inv.retain (h : Inv s) {k : ℕ} (hpc : s.calls i = .retaining k) :
    Inv (s.retain i k) := by
  have hf := h.frame_eq_none (i := i) (by rw [hpc]; rfl)
  have hk : k < s.made := (h.calls i).refs k (by rw [hpc]; exact List.mem_singleton_self k)
  obtain ⟨n, m, hlease⟩ : ∃ n m, s.admission.calls i = .nodeLease n m := by
    have hholds := (h.calls i).holds
    rw [hpc] at hholds
    exact hholds
  have c : Change s (s.retain i k) i .releasing none := h.change hf rfl rfl rfl rfl rfl
  refine h.setList c (by rw [hlease]; rfl) (h.opened (i := i) (by rw [hlease]; rfl))
    (by rw [hpc]; rfl)
    (c.callInv_plain rfl trivial (fun hq => by cases hq) (fun k hk => by cases hk)) rfl rfl rfl
    rfl rfl (fun k' hk' => Or.inl (List.mem_append_left _ hk')) (fun k' hk' => ?_)
    (fun k' hown => ?_) (fun k' hk' => ?_)
  · rcases List.mem_append.mp hk' with hk' | hk'
    · exact h.listed _ k' hk'
    · rw [List.mem_singleton.mp hk']
      exact hk
  · rw [hpc] at hown
    cases hown
    exact Or.inr (Or.inl (List.mem_append_right _ (List.mem_singleton_self k)))
  · by_cases hkk : k' = k
    · rw [hkk]
      exact hk
    · exact h.handed k' (by
        rw [show (s.retain i k).subscriptions k' = s.subscriptions k' from
          Function.update_of_ne hkk _ _] at hk'
        exact hk')

/-- **The state is taken off its list** after it was closed. -/
theorem Inv.erase (h : Inv s) {k : ℕ} (hf : s.frames i = none) (hpc : s.calls i = .erasing k) :
    Inv ((s.setList (s.states k).kind
      ((s.lists (s.states k).kind).filter (· ≠ k))).setCall i .releasing) := by
  have hlease : s.admission.calls i = .lifetimeLease := by
    have hholds := (h.calls i).holds
    rw [hpc] at hholds
    exact hholds
  have hclosed : (s.states k).closed = true := by
    rcases (h.calls i).settled k (by rw [hpc]; rfl) with hc | ⟨p, hp⟩
    · exact hc
    · rw [hf] at hp
      cases hp
  have c : Change s ((s.setList (s.states k).kind
      ((s.lists (s.states k).kind).filter (· ≠ k))).setCall i .releasing) i .releasing none :=
    h.change hf rfl rfl rfl rfl rfl
  refine h.setList c (by rw [hlease]; rfl) (h.opened (i := i) (by rw [hlease]; rfl))
    (by rw [hpc]; rfl)
    (c.callInv_plain rfl trivial (fun hq => by cases hq) (fun k hk => by cases hk)) rfl rfl rfl
    rfl rfl (fun k' hk' => ?_) (fun k' hk' => h.listed _ k' (List.mem_of_mem_filter hk'))
    (fun k' hown => by rw [hpc] at hown; cases hown) h.handed
  by_cases hkk : k' = k
  · rw [hkk]
    exact Or.inr hclosed
  · exact Or.inl (List.mem_filter.mpr ⟨hk', by simpa using hkk⟩)

/-- **`Close` starts with the attributes**, all of which are still to be closed. -/
theorem Inv.sweep (h : Inv s) (hf : s.frames i = none) (hpc : s.calls i = .testing)
    (hopen : s.closed = false) : Inv (s.setCall i (.sweep .attribute (s.lists .attribute))) := by
  have c : Change s (s.setCall i (.sweep .attribute (s.lists .attribute))) i
      (.sweep .attribute (s.lists .attribute)) none := h.change hf rfl rfl rfl rfl rfl
  have hholds := (h.calls i).holds
  rw [hpc] at hholds
  refine h.move c (fun _ => h.not_expired (by rw [hpc]; rfl))
    (c.callInv hholds (fun k' hq => by cases hq) (fun kind rest hq => ?_)
      (fun hq => by cases hq) (fun hq => by cases hq) (fun _ => hopen)
      (fun k p hk => by cases hk) (h.listed .attribute) (fun k hq => by cases hq))
    rfl rfl rfl (fun _ => rfl) (fun k hown => by rw [hpc] at hown; cases hown)
    (fun _ hk => hk) h.returned
  cases hq
  exact ⟨fun k hk => Or.inl hk, fun hkind => by cases hkind⟩

/-- A call that goes through a list and closes nothing has closed what it passed. -/
theorem Inv.swept (h : Inv s) {kind : Kind} {rest : List ℕ} (hf : s.frames i = none)
    (hpc : s.calls i = .sweep kind rest) {k : ℕ} (hk : k ∈ s.lists kind) :
    k ∈ rest ∨ (s.states k).closed = true := by
  rcases ((h.calls i).swept kind rest hpc).1 k hk with hrest | hc | ⟨p, hp⟩
  · exact Or.inl hrest
  · exact Or.inr hc
  · rw [hf] at hp
    cases hp

/-- **The next state of a list** is closed. -/
theorem Inv.sweepNext (h : Inv s) {kind : Kind} {k : ℕ} {rest : List ℕ}
    (hf : s.frames i = none) (hpc : s.calls i = .sweep kind (k :: rest)) :
    Inv ((s.setCall i (.sweep kind rest)).enter i k) := by
  have c : Change s ((s.setCall i (.sweep kind rest)).enter i k) i (.sweep kind rest)
      (some (k, .test)) := ⟨rfl, rfl, rfl, rfl, h.admission, fun _ _ => rfl, id⟩
  have hrefs := (h.calls i).refs
  have hholds := (h.calls i).holds
  rw [hpc] at hrefs hholds
  refine h.move c (fun _ => h.not_expired (by rw [hpc]; rfl))
    (c.callInv hholds (fun k' hq => by cases hq) (fun kind' rest' hq => ?_)
      (fun hq => by cases hq) (fun hq => by cases hq)
      (fun _ => (h.calls i).opened (by rw [hpc]; rfl))
      (fun k' p hk' => by cases hk'; exact ⟨rfl, rfl, hrefs k List.mem_cons_self⟩)
      (fun k' hk' => hrefs k' (List.mem_cons_of_mem k hk')) (fun k' hq => by cases hq))
    rfl rfl rfl (fun _ => rfl) (fun k' hown => by rw [hpc] at hown; cases hown)
    (fun _ hk => hk) h.returned
  cases hq
  refine ⟨fun k' hk' => ?_, ((h.calls i).swept _ _ hpc).2⟩
  rcases h.swept hf hpc hk' with hmem | hc
  · rcases List.mem_cons.mp hmem with rfl | hrest
    · exact Or.inr (Or.inr ⟨.test, c.frame⟩)
    · exact Or.inl hrest
  · exact Or.inr (Or.inl hc)

/-- **A list is cleared**, all its states being closed. -/
theorem Inv.clear (h : Inv s) {kind : Kind} (hf : s.frames i = none)
    (hpc : s.calls i = .sweep kind [])
    (hcall : CallInv ((s.setList kind []).setCall i q) i) :
    Inv ((s.setList kind []).setCall i q) := by
  have hlease : s.admission.calls i = .shutdownLease := by
    have hholds := (h.calls i).holds
    rw [hpc] at hholds
    exact hholds
  have c : Change s ((s.setList kind []).setCall i q) i q none :=
    h.change hf rfl rfl rfl rfl rfl
  refine h.setList c (by rw [hlease]; rfl) ((h.calls i).opened (by rw [hpc]; rfl))
    (by rw [hpc]; rfl) hcall rfl rfl rfl rfl rfl (fun k hk => ?_) (fun k hk => by cases hk)
    (fun k hown => by rw [hpc] at hown; cases hown) h.handed
  rcases h.swept hf hpc hk with hrest | hc
  · cases hrest
  · exact Or.inr hc

/-- After the attributes come the events. -/
theorem Inv.clearAttributes (h : Inv s) (hf : s.frames i = none)
    (hpc : s.calls i = .sweep .attribute []) :
    Inv ((s.setList .attribute []).setCall i (.sweep .event (s.lists .event))) := by
  have c : Change s ((s.setList .attribute []).setCall i (.sweep .event (s.lists .event))) i
      (.sweep .event (s.lists .event)) none := h.change hf rfl rfl rfl rfl rfl
  have hholds := (h.calls i).holds
  rw [hpc] at hholds
  refine h.clear hf hpc (c.callInv hholds (fun k' hq => by cases hq) (fun kind rest hq => ?_)
    (fun hq => by cases hq) (fun hq => by cases hq)
    (fun _ => (h.calls i).opened (by rw [hpc]; rfl)) (fun k p hk => by cases hk)
    (h.listed .event) (fun k hq => by cases hq))
  cases hq
  exact ⟨fun k hk => Or.inl hk, fun _ => rfl⟩

/-- After the events nothing is left. -/
theorem Inv.clearEvents (h : Inv s) (hf : s.frames i = none)
    (hpc : s.calls i = .sweep .event []) :
    Inv ((s.setList .event []).setCall i .finishing) := by
  have c : Change s ((s.setList .event []).setCall i .finishing) i .finishing none :=
    h.change hf rfl rfl rfl rfl rfl
  have hholds := (h.calls i).holds
  rw [hpc] at hholds
  refine h.clear hf hpc (c.callInv hholds (fun k' hq => by cases hq)
    (fun kind rest hq => by cases hq) (fun _ kind => ?_) (fun hq => by cases hq)
    (fun _ => (h.calls i).opened (by rw [hpc]; rfl)) (fun k p hk => by cases hk)
    (fun k hk => by cases hk) (fun k hq => by cases hq))
  match kind with
  | .attribute => exact ((h.calls i).swept _ _ hpc).2 rfl
  | .event => rfl

/-- A call that owns a state has a lease; so has one that is closing one, but for a direct
close. -/
theorem Pc.lease_of_holds {p : Pc} {a : RuntimeOperationAdmission.Pc} (h : p.Holds a)
    (hp : p.owns ≠ none ∨ p.encloses = true) : a.lease = true ∨ ∃ k, p = .direct k := by
  cases p with
  | connecting k | waiting k | retaining k | unwinding k | leaving k =>
    obtain ⟨n, m, rfl⟩ := h
    exact Or.inl rfl
  | erasing k =>
    obtain rfl : a = .lifetimeLease := h
    exact Or.inl rfl
  | sweep kind rest =>
    obtain rfl : a = .shutdownLease := h
    exact Or.inl rfl
  | direct k => exact Or.inr ⟨k, rfl⟩
  | _ => simp_all [Pc.owns, Pc.encloses]

/-- **The runtime is closed**: the lists are empty, and no call knows a state they do
not. -/
theorem Inv.finish (h : Inv s) (hpc : s.calls i = .finishing) : Inv (s.finish i) := by
  have hf := h.frame_eq_none (i := i) (by rw [hpc]; rfl)
  have hadm := RuntimeOperationAdmission.inv_of_reachable h.admission
  have hlease : s.admission.calls i = .shutdownLease := by
    have hholds := (h.calls i).holds
    rw [hpc] at hholds
    exact hholds
  have hempty := (h.calls i).finishing hpc
  have hexp := h.not_expired (i := i) (by rw [hpc]; rfl)
  -- the lease of the shutdown is the only one, and the runtime is not gone
  have halone : ∀ j, ((s.calls j).owns ≠ none ∨ (s.calls j).encloses = true) → j = i := by
    intro j hj
    rcases Pc.lease_of_holds (h.calls j).holds hj with hl | ⟨k, hk⟩
    · exact (hadm.exclusive_alone (by rw [hlease]; rfl) hl).symm
    · rw [(h.calls j).gone k hk] at hexp
      cases hexp
  have hclosed : ∀ k < s.made, (s.states k).closed = true := by
    intro k hk
    rcases h.known k hk with hc | ⟨kind, hl⟩ | ⟨j, hown⟩
    · exact hc
    · rw [hempty kind] at hl
      cases hl
    · rw [halone j (Or.inl (by rw [hown]; simp)), hpc] at hown
      cases hown
  have hfinal : Inv { s.setCall i .finished with closed := true } := by
    have c : Change s { s.setCall i .finished with closed := true } i .finished none :=
      h.change hf rfl rfl rfl rfl rfl
    refine h.of_change c (fun _ => hexp)
      (c.callInv_plain rfl trivial (fun _ => rfl) (fun k hk => by cases hk)) (fun j hj => ?_)
      (fun k hk => Or.inl (hclosed k hk)) h.listed h.handed (fun _ => ?_) (fun _ => rfl)
    · refine c.keeps hj le_rfl (fun k _ hc => hc) (fun _ => rfl) (fun hsweep => ?_)
        (fun _ => Or.inr (h.frame_eq_none ?_))
      · exact absurd (h.sweep_alone hsweep (by rw [hlease]; rfl)) hj
      · rw [Bool.eq_false_iff]
        exact fun henc => hj (halone j (Or.inr henc))
    · exact ⟨RuntimeOperationAdmission.shutdownReturned_of_lease h.admission hlease, hclosed,
        hempty⟩
  exact hfinal.of_same s.operationLock.unlock s.lock.unlock (fun _ hk => hk) (fun _ => rfl)

/-- **The end of the scope guard**: the state the call owned is closed. -/
theorem Inv.leave (h : Inv s) (hf : s.frames i = none) {k : ℕ} (hpc : s.calls i = .leaving k) :
    Inv (s.setCall i .releasing) := by
  refine h.setCall hf hpc rfl trivial (fun _ hk => by cases hk) (fun _ => rfl)
    (fun k' hk' => Or.inr ?_) (fun hq => by cases hq)
  rcases (h.calls i).settled k' (by rw [hpc]; exact hk') with hc | ⟨p, hp⟩
  · exact hc
  · rw [hf] at hp
    cases hp

/-- **`CloseAsync` takes the close function.** -/
theorem Inv.take (h : Inv s) (hf : s.frames i = none) {k : ℕ} (hpc : s.calls i = .taking k)
    (harmed : s.subscriptions k = some true) :
    Inv { s.setCall i (.closing k) with
      subscriptions := Function.update s.subscriptions k (some false) } := by
  have hholds := (h.calls i).holds
  rw [hpc] at hholds
  have hmoved : Inv (s.setCall i (.closing k)) :=
    h.setCall hf hpc rfl hholds (fun _ hk => hk) (fun hq => by cases hq)
      (fun k hk => Or.inl hk) (fun hq => by cases hq)
  refine hmoved.of_same s.operationLock s.lock (fun k' hk' => ?_) h.returned
  show s.subscriptions k' ≠ none
  by_cases hkk : k' = k
  · rw [hkk, harmed]
    simp
  · rwa [Function.update_of_ne hkk] at hk'

/-- **The step of a call keeps the invariant.** -/
theorem Inv.body {a : Answer} (h : Inv s) (hf : s.frames i = none) (hb : body s i a = some t) :
    Inv t := by
  have hholds := (h.calls i).holds
  cases body_spec hb with
  | waits hp hst => exact h.admit_self hst hp
  | goesOn hpc hq holds => exact h.goOn hf hpc hq holds
  | enters hpc hq holds gone => exact h.enter hpc hq holds gone
  | makes hpc hopen => exact h.make hpc hopen
  | @connects k hpc =>
    rw [hpc] at hholds
    exact (h.setState (r := { s.states k with live := true }) rfl).setCall hf hpc rfl hholds
      (fun _ hk => hk) (fun _ => rfl) (fun k hk => Or.inl hk) (fun hq => by cases hq)
  | @unwinds k hpc =>
    rcases hpc with hpc | hpc
    all_goals
      rw [hpc] at hholds
      exact h.unwind hf hpc hholds (List.mem_singleton_self k) rfl
        (fun k' hk' => (Option.some.inj hk').symm)
  | retains hpc => exact h.retain hpc
  | leaves hpc => exact h.leave hf hpc
  | takes hpc harmed => exact h.take hf hpc harmed
  | cleansUp hpc hexp hst =>
    exact h.admit hf (Or.inr ⟨_, rfl⟩) hst rfl (fun _ => trivial)
      (fun k' hk' => (h.calls i).refs k' (by rw [hpc]; exact hk')) (fun _ => hexp)
      (fun k hk => by rw [hpc] at hk; cases hk) (fun hq => by cases hq)
  | erases hpc => exact h.erase hf hpc
  | @locks l hpc =>
    rw [hpc] at hholds
    exact (h.setCall (q := .testing) hf hpc rfl hholds (fun _ hk => hk) (fun _ => rfl)
      (fun k hk => Or.inl hk) (fun hq => by cases hq)).of_same l s.lock (fun _ hk => hk)
      h.returned
  | closedBefore hpc hclosed =>
    exact (h.setCall (q := .finished) hf hpc rfl trivial (fun _ hk => hk) (fun _ => rfl)
      (fun k hk => Or.inl hk) (fun _ => hclosed)).of_same s.operationLock.unlock s.lock
      (fun _ hk => hk) h.returned
  | @startsSweep l hpc hopen =>
    exact (h.sweep hf hpc hopen).of_same s.operationLock l (fun _ hk => hk) h.returned
  | sweeps hpc => exact h.sweepNext hf hpc
  | clearsAttributes hpc => exact h.clearAttributes hf hpc
  | clearsEvents hpc => exact h.clearEvents hf hpc
  | finishes hpc => exact h.finish hpc
  | returns hpc hidle =>
    exact (h.setCall (q := .idle) hf hpc rfl hidle (fun _ hk => hk) (fun hq => by cases hq)
      (fun k hk => Or.inl hk) (fun hq => by cases hq)).of_same s.operationLock s.lock
      (fun _ hk => hk) (fun _ => (h.calls i).finished hpc)

/-- **Every step of a call keeps the invariant.** -/
theorem Inv.advance {a : Answer} (h : Inv s) (ha : advance s i a = some t) : Inv t := by
  unfold Subscriptions.advance at ha
  split at ha
  · rename_i k p hf
    obtain rfl := Option.some.inj ha
    exact h.closeState hf
  · rename_i hf
    exact h.body hf ha

/-- **A call of a function of the runtime keeps the invariant.** -/
theorem Inv.start (h : Inv s) {g : RuntimeOperationAdmission.Fn}
    (hst : s.start i g q = some t) (plain : q.plain = true) (holds : ∀ p, q.Holds p)
    (refs : q.refs = []) (finished : q ≠ .finished) : Inv t := by
  unfold State.start at hst
  split at hst
  · rename_i hpc
    split at hst
    · cases hst
    · rename_i hexp
      obtain ⟨u, hu, rfl⟩ := Option.map_eq_some_iff.mp hst
      exact h.admit (h.frame_eq_none (by rw [hpc]; rfl)) (Or.inr ⟨g, rfl⟩) hu plain holds
        (fun k hk => by rw [refs] at hk; cases hk) (fun _ => Bool.eq_false_iff.mpr hexp)
        (fun k hk => by rw [hpc] at hk; cases hk) (fun hq => absurd hq finished)
  · cases hst

/-- The runtime is destroyed once no call refers to it. -/
theorem Inv.expire (h : Inv s) (hempty : s.owners = ∅) : Inv { s with expired := true } where
  admission := h.admission
  calls := fun i => (h.calls i).beside h.listed (fun _ hk => hk) fun _ => rfl
  known := h.known
  listed := h.listed
  handed := h.handed
  expired := fun _ => hempty
  ended := h.ended
  returned := h.returned

/-- `CloseAsync` is called of a subscription that was handed out. -/
theorem Inv.closeAsync (h : Inv s) {k : ℕ} (hpc : s.calls i = .idle)
    (hk : s.subscriptions k ≠ none) : Inv (s.setCall i (.taking k)) := by
  have c : Change s (s.setCall i (.taking k)) i (.taking k) none :=
    h.change (h.frame_eq_none (by rw [hpc]; rfl)) rfl rfl rfl rfl rfl
  have hholds := (h.calls i).holds
  rw [hpc] at hholds
  refine h.move c (fun hq => by cases hq)
    (c.callInv_plain rfl hholds (fun hq => by cases hq) fun k' hk' => ?_)
    rfl rfl rfl (fun _ => rfl) (fun k' hk' => by rw [hpc] at hk'; cases hk')
    (fun _ hk' => hk') h.returned
  rw [List.mem_singleton.mp hk']
  exact h.handed k hk

/-- `Fail` closes nothing. -/
@[simp] theorem ReadState.fail_closed (r : ReadState) (error : ChipError) :
    (r.fail error).closed = r.closed := by
  unfold ReadState.fail
  split <;> rfl

/-- **Every step keeps the invariant.** -/
theorem Inv.step {a : Action} (h : Inv s) (hst : step s a = some t) : Inv t := by
  cases step_spec hst with
  | refused => exact h
  | subscribes hst => exact h.start hst rfl (fun _ => trivial) rfl (by simp)
  | closesAsync hpc hsub => exact h.closeAsync hpc hsub
  | closes hst => exact h.start hst rfl (fun _ => trivial) rfl (by simp)
  | advances hst => exact h.advance hst
  | established => exact h.setState rfl
  | @fails k error => exact h.setState (ReadState.fail_closed _ error)
  | expires hempty => exact h.expire hempty

theorem inv_of_reachable (h : machine.Reachable s) : Inv s :=
  h.invariant inv_start fun _ _ _ _ hs hst => hs.step hst

end Steps

/-! ## After the close -/

section After

variable {s t : State} {i : ℕ}

/-- **Nothing changed** of the read states, the lists and the runtime's being closed. -/
structure State.Same (s t : State) : Prop where
  states : t.states = s.states
  lists : t.lists = s.lists
  made : t.made = s.made
  closed : t.closed = s.closed

/-- The steps of calls, as against events on a read state. -/
def Action.ofCall : Action → Bool
  | .established _ | .fail _ _ => false
  | _ => true

/-- What a call does with a lease on a read state, a list or the runtime it does before the
runtime is closed. -/
theorem Inv.opened_of_holds (h : Inv s)
    (hlease : (∃ n m, s.admission.calls i = .nodeLease n m) ∨
      s.admission.calls i = .lifetimeLease) : s.closed = false := by
  refine h.opened (i := i) ?_
  rcases hlease with ⟨n, m, hlease⟩ | hlease <;> rw [hlease] <;> rfl

/-- **A call that goes on after the close changes nothing**: those that would have no
lease. -/
theorem Inv.body_same {a : Answer} (h : Inv s) (hclosed : s.closed = true)
    (hb : Subscriptions.body s i a = some t) : s.Same t := by
  have hholds := (h.calls i).holds
  have hopened := (h.calls i).opened
  have hno : s.closed = false → s.Same t := fun hopen => by
    rw [hopen] at hclosed
    cases hclosed
  cases body_spec hb with
  | waits hp hst =>
    obtain ⟨m, -, rfl⟩ := Option.map_eq_some_iff.mp hst
    exact ⟨rfl, rfl, rfl, rfl⟩
  | cleansUp hpc hexp hst =>
    obtain ⟨m, -, rfl⟩ := Option.map_eq_some_iff.mp hst
    exact ⟨rfl, rfl, rfl, rfl⟩
  | makes hpc hopen => exact hno hopen
  | connects hpc | retains hpc =>
    rw [hpc] at hholds
    exact hno (h.opened_of_holds (Or.inl hholds))
  | erases hpc =>
    rw [hpc] at hholds
    exact hno (h.opened_of_holds (Or.inr hholds))
  | clearsAttributes hpc | clearsEvents hpc | finishes hpc =>
    rw [hpc] at hopened
    exact hno (hopened rfl)
  | _ => exact ⟨rfl, rfl, rfl, rfl⟩

/-- The call of a function only begins with the admission. -/
theorem State.same_of_start {g : RuntimeOperationAdmission.Fn} {q : Pc}
    (hst : s.start i g q = some t) : s.Same t := by
  unfold State.start at hst
  split at hst
  · split at hst
    · cases hst
    · obtain ⟨u, hu, rfl⟩ := Option.map_eq_some_iff.mp hst
      obtain ⟨m, -, rfl⟩ := Option.map_eq_some_iff.mp hu
      exact ⟨rfl, rfl, rfl, rfl⟩
  · cases hst

/-- Nor does a `Close` of a read state: it is about to find the state closed. -/
theorem Inv.advance_same {a : Answer} (h : Inv s) (hclosed : s.closed = true)
    (hst : Subscriptions.advance s i a = some t) : s.Same t := by
  unfold Subscriptions.advance at hst
  split at hst
  · rename_i k p hf
    obtain rfl := Option.some.inj hst
    obtain rfl := (h.calls i).quiet hclosed k p hf
    have hk := (h.ended hclosed).2.1 k ((h.calls i).framed k .test hf).2
    simp only [State.closeState, if_pos hk]
    exact ⟨rfl, rfl, rfl, rfl⟩
  · exact h.body_same hclosed hst

/-- **No step of a call changes anything** after the close. -/
theorem Inv.step_same {a : Action} (h : Inv s) (hclosed : s.closed = true)
    (ha : a.ofCall = true) (hst : Subscriptions.step s a = some t) : s.Same t := by
  cases step_spec hst with
  | subscribes hst | closes hst => exact State.same_of_start hst
  | advances hst => exact h.advance_same hclosed hst
  | established | fails => cases ha
  | _ => exact ⟨rfl, rfl, rfl, rfl⟩

/-- **A call returns**, left to itself. -/
def State.Returns (s : State) (i : ℕ) : Prop :=
  ∃ n t, machine.run s (List.replicate n (.advance i .go)) = some t ∧ t.calls i = .idle

theorem State.returns_of_idle (h : s.calls i = .idle) : s.Returns i := ⟨0, s, rfl, h⟩

theorem State.Returns.step (hst : Subscriptions.advance s i .go = some t) (h : t.Returns i) :
    s.Returns i := by
  obtain ⟨n, u, hrun, hidle⟩ := h
  refine ⟨n + 1, u, ?_, hidle⟩
  rw [List.replicate_succ, Machine.run_cons, show machine.step s (.advance i .go) = some t from hst,
    Option.bind_some, hrun]

/-- A call whose cleanup was refused returns. -/
theorem returns_of_refused {k : ℕ} (hf : s.frames i = none)
    (hpc : s.calls i = .acquiringCleanup k) (hclosing : s.admission.closing = true)
    (hlease : s.admission.calls i = .cleanupTest) : s.Returns i := by
  have hadmit : s.admit (.advance i .go) =
      some { s with admission := s.admission.setCall i .idle } := by
    simp only [RuntimeOperationAdmission.step, State.admit, RuntimeOperationAdmission.advance,
      hlease, hclosing, if_true, Option.map_some]
  refine .step (t := { s with admission := s.admission.setCall i .idle }) ?_ ?_
  · simp only [Subscriptions.advance, hf, Subscriptions.body, hpc, hlease]
    exact hadmit
  · refine .step (t := State.setCall { s with admission := s.admission.setCall i .idle } i .idle)
      ?_ (State.returns_of_idle (Function.update_self _ _ _))
    simp only [Subscriptions.advance, hf, Subscriptions.body, hpc,
      RuntimeOperationAdmission.State.setCall_self]

/-- A call that closes its state without the runtime returns, if the state is closed. -/
theorem returns_of_direct {k : ℕ} (hf : s.frames i = some (k, .test))
    (hpc : s.calls i = .direct k) (hstate : (s.states k).closed = true) : s.Returns i := by
  refine .step (t := s.setFrame i none) ?_ ?_
  · simp only [Subscriptions.advance, hf, State.closeState, hstate, if_true]
  · refine .step (t := (s.setFrame i none).setCall i .idle) ?_
      (State.returns_of_idle (Function.update_self _ _ _))
    simp only [Subscriptions.advance, Subscriptions.body, State.setFrame, Function.update_self, hpc]

/-- A call with the close function returns, if the runtime and the state are closed. -/
theorem returns_of_closing {k : ℕ} (hf : s.frames i = none) (hpc : s.calls i = .closing k)
    (hclosing : s.admission.closing = true) (hlease : s.admission.calls i = .idle)
    (hstate : (s.states k).closed = true) : s.Returns i := by
  by_cases hexp : s.expired = true
  · refine .step (t := (s.setCall i (.direct k)).enter i k) ?_
      (returns_of_direct (Function.update_self _ _ _) (Function.update_self _ _ _) hstate)
    simp only [Subscriptions.advance, hf, Subscriptions.body, hpc, if_pos hexp]
  · refine .step (t := State.setCall
      { s with admission := s.admission.setCall i .cleanupTest } i (.acquiringCleanup k)) ?_
      (returns_of_refused hf (Function.update_self _ _ _) hclosing (Function.update_self _ _ _))
    simp only [Subscriptions.advance, hf, Subscriptions.body, hpc, if_neg hexp, State.admit,
      RuntimeOperationAdmission.step, hlease, RuntimeOperationAdmission.Fn.entry,
      Option.map_some]

/-- **A `CloseAsync` after the close returns**: the close function is gone, or the runtime
is and the state is found closed, or the cleanup is refused. -/
theorem Inv.closeAsync_returns (h : Inv s) (hclosed : s.closed = true)
    (hpc : s.calls i = .idle) {k : ℕ} (hk : s.subscriptions k ≠ none) :
    (s.setCall i (.taking k)).Returns i := by
  have hf := h.frame_eq_none (i := i) (by rw [hpc]; rfl)
  have hidle : s.admission.calls i = .idle := by
    have hholds := (h.calls i).holds
    rw [hpc] at hholds
    exact hholds
  have hclosing : s.admission.closing = true :=
    ((RuntimeOperationAdmission.inv_of_reachable h.admission).shutdown (h.ended hclosed).1).1
  have hstate : (s.states k).closed = true := (h.ended hclosed).2.1 k (h.handed k hk)
  have hcall : (s.setCall i (.taking k)).calls i = .taking k := Function.update_self _ _ _
  obtain ⟨armed, harmed⟩ := Option.ne_none_iff_exists'.mp hk
  have hsub : (s.setCall i (.taking k)).subscriptions k = some armed := harmed
  cases armed with
  | false =>
    refine .step (t := (s.setCall i (.taking k)).setCall i .idle) ?_
      (State.returns_of_idle (Function.update_self _ _ _))
    rw [Subscriptions.advance, show (s.setCall i (.taking k)).frames i = none from hf]
    simp only [Subscriptions.body, hcall, hsub]
  | true =>
    refine .step (t := { (s.setCall i (.taking k)).setCall i (.closing k) with
      subscriptions := Function.update s.subscriptions k (some false) }) ?_
      (returns_of_closing hf (Function.update_self _ _ _) hclosing hidle hstate)
    rw [Subscriptions.advance, show (s.setCall i (.taking k)).frames i = none from hf]
    simp only [Subscriptions.body, hcall, hsub]
    rfl

/-- The runtime stays closed, and no state is made. -/
theorem Inv.step_closed {a : Action} (h : Inv s) (hclosed : s.closed = true)
    (hst : Subscriptions.step s a = some t) : t.closed = true ∧ t.made = s.made := by
  cases ha : a.ofCall with
  | true =>
    have hsame := h.step_same hclosed ha hst
    exact ⟨by rw [hsame.closed, hclosed], hsame.made⟩
  | false =>
    cases step_spec hst with
    | established | fails => exact ⟨hclosed, rfl⟩
    | _ => cases ha

/-- So it does along every schedule. -/
theorem Inv.leads_closed (h : Inv s) (hclosed : s.closed = true) (ht : machine.Leads s t) :
    Inv t ∧ t.closed = true ∧ t.made = s.made := by
  obtain ⟨as, hr⟩ := ht
  induction as generalizing s with
  | nil =>
    obtain rfl := Option.some.inj hr
    exact ⟨h, hclosed, rfl⟩
  | cons a as ih =>
    obtain ⟨u, hu, hrest⟩ := Option.bind_eq_some_iff.mp hr
    obtain ⟨hcu, hmu⟩ := h.step_closed hclosed hu
    obtain ⟨hinv, hct, hmt⟩ := ih (h.step hu) hcu hrest
    exact ⟨hinv, hct, hmt.trans hmu⟩

end After

/-- **Once `Close` of the runtime has returned**, in any interleaving, and whatever happens
then: every read state that subscribing calls ever made is closed, and no more is made; the
lists are empty; a `CloseAsync` of any subscription returns; and no step of a call changes
a read state or a list. -/
theorem closed_after_close {s t : State} (h : machine.Reachable s)
    (hret : s.closeReturned = true) (ht : machine.Leads s t) :
    (∀ k < t.made, (t.states k).closed = true) ∧ t.made = s.made ∧
      (∀ kind, t.lists kind = []) ∧
      (∀ i k, t.calls i = .idle → t.subscriptions k ≠ none →
        ∃ u, machine.step t (.closeAsync i k) = some u ∧ u.Returns i) ∧
      ∀ a u, a.ofCall = true → machine.step t a = some u → t.Same u := by
  have hs := inv_of_reachable h
  obtain ⟨hinv, hclosed, hmade⟩ := hs.leads_closed (hs.returned hret) ht
  obtain ⟨-, hstates, hlists⟩ := hinv.ended hclosed
  refine ⟨hstates, hmade, hlists, fun i k hpc hk => ?_, fun a u ha hst => ?_⟩
  · refine ⟨t.setCall i (.taking k), ?_, hinv.closeAsync_returns hclosed hpc hk⟩
    obtain ⟨armed, harmed⟩ := Option.ne_none_iff_exists'.mp hk
    simp only [machine, step, hpc, harmed]
  · exact hinv.step_same hclosed ha hst

/-- A call left to itself for some steps. -/
def steps (i n : ℕ) : List Action := List.replicate n (.advance i .go)

/-- An attribute subscription that is established and one of an event that times out; a
`CloseAsync` of the first, whose cleanup is refused because `Close` has begun; and `Close`,
which closes it. -/
def closedLate : List Action :=
  .subscribe 0 .attribute 7 1 10 :: steps 0 12 ++ .established 0 :: steps 0 6 ++
    .subscribe 1 .event 8 1 10 :: steps 1 12 ++ .advance 1 .throws :: steps 1 10 ++
    .closeAsync 2 0 :: steps 2 2 ++ .close 3 :: steps 3 1 ++ steps 2 2 ++ steps 3 13

/-- There both states that were made are closed, and the subscription may be closed
again. -/
theorem closed_after_close_late :
    ∃ s, machine.run machine.start closedLate = some s ∧ s.closeReturned = true ∧
      s.made = 2 ∧ (s.states 0).closed = true ∧ (s.states 1).closed = true ∧
      ∃ t, machine.step s (.closeAsync 4 0) = some t ∧ t.Returns 4 := by
  have hrun : (machine.run machine.start closedLate).map
      (fun s => (s.closeReturned, s.made, s.calls 4, s.subscriptions 0)) =
        some (true, 2, .idle, some false) := rfl
  obtain ⟨s, hs, heq⟩ := Option.map_eq_some_iff.mp hrun
  simp only [Prod.mk.injEq] at heq
  obtain ⟨hclosed, -, -, hreturns, -⟩ :=
    closed_after_close (machine.reachable_start.run hs) heq.1 (.refl machine s)
  exact ⟨s, hs, heq.1, heq.2.1, hclosed 0 (by rw [heq.2.1]; decide),
    hclosed 1 (by rw [heq.2.1]; decide),
    hreturns 4 0 heq.2.2.1 (by rw [heq.2.2.2]; simp)⟩

end Subscriptions
