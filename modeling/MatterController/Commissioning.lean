import MatterController.Machine
import MatterController.NodeIndex

/-!
# Commissioning a node

`Commission` starts a native pairing and waits until the pairing's delegate
says how it went. There is one delegate and one `PairingState` for all
pairings. `Commission` resets the state when it starts, and then believes
whatever is reported into it.

A pairing that timed out, was canceled or was rejected at attestation may still
report afterwards. Its report names its node, but `onCommissioningComplete`
does not look at the name: a late success of an earlier pairing completes the
call that waits now, and its node enters the index. So would a failure report
whose error is no error.

`success_confirmed` says that this is the only way: where every report of
success that comes while a call is past its reset is for the node of that call,
or comes after one that is, a node is returned and added only on its own
success.
-/

/-- **The stages of a native commissioning**, those the projection names and
any other. -/
inductive CommissioningStage
  | securePairing
  | readCommissioningInfo
  | configRegulatory
  | wiFiNetworkSetup
  | threadNetworkSetup
  | requestWiFiCredentials
  | requestThreadCredentials
  | wiFiNetworkEnable
  | threadNetworkEnable
  | findOperationalForStayActive
  | findOperationalForCommissioningComplete
  | sendComplete
  | other (id : ℕ)
  deriving DecidableEq, Repr

/-- How a failed commissioning ended. -/
structure CompletionStatus where
  err : ChipError := .noError
  failedStage : Option CommissioningStage := none
  deriving DecidableEq, Repr

/-- What the delegate tells the progress callback. -/
structure NativeCommissioningProgress where
  stage : CommissioningStage
  error : ChipError := .noError
  completed : Bool := false
  retrying : Bool := false
  deriving DecidableEq, Repr

/-- **What the delegate knows of the pairing**, of whichever pairing it is. -/
structure PairingState where
  complete : Bool := false
  error : ChipError := .noError
  activeStage : Option CommissioningStage := none
  lastCompletedStage : Option CommissioningStage := none
  completionStatus : CompletionStatus := {}
  hasCompletionStatus : Bool := false
  deriving DecidableEq, Repr

/-- **What the native stack reports to the delegate.** The verdict on the
device's attestation comes with the answer to the attempt to continue. -/
inductive PairingCallback
  | onCommissioningComplete (nodeId : UInt64) (error : ChipError)
  | onCommissioningFailure (completionStatus : CompletionStatus)
  | onCommissioningStageStart (stageStarting : CommissioningStage)
  | onCommissioningStatusUpdate (stageCompleted : CommissioningStage) (error : ChipError)
  | onCommissioningRetry (stage : CommissioningStage) (error : ChipError)
  | onDeviceAttestationCompleted (success : Bool) (continued : ChipError)
  deriving DecidableEq, Repr

namespace PairingDelegate

/-- `Complete`. -/
def complete (error : ChipError) (s : PairingState) : PairingState :=
  { s with complete := true, error := error }

/-- `OnCommissioningComplete`: the node it is about is not looked at. -/
def onCommissioningComplete (_nodeId : UInt64) (error : ChipError) (s : PairingState) :
    PairingState :=
  complete error s

/-- `OnCommissioningFailure`. -/
def onCommissioningFailure (status : CompletionStatus) (s : PairingState) :
    PairingState × Option NativeCommissioningProgress :=
  ({ s with
      completionStatus := status
      hasCompletionStatus := true
      error := status.err
      complete := true },
    status.failedStage.map fun stage => { stage := stage, error := status.err })

/-- `OnCommissioningStageStart`. -/
def onCommissioningStageStart (stage : CommissioningStage) (s : PairingState) :
    PairingState × Option NativeCommissioningProgress :=
  ({ s with activeStage := some stage }, some { stage := stage })

/-- `OnCommissioningStatusUpdate`: a stage that ended without error is no longer
active. -/
def onCommissioningStatusUpdate (stage : CommissioningStage) (error : ChipError)
    (s : PairingState) : PairingState × Option NativeCommissioningProgress :=
  (if error = .noError then
      { s with lastCompletedStage := some stage, activeStage := none }
    else s,
    some { stage := stage, error := error, completed := true })

/-- `OnCommissioningRetry`. -/
def onCommissioningRetry (stage : CommissioningStage) (error : ChipError)
    (s : PairingState) : PairingState × Option NativeCommissioningProgress :=
  (s, some { stage := stage, error := error, retrying := true })

/-- `OnDeviceAttestationCompleted`: a device that fails its attestation completes
the pairing as not trusted, unless test devices are allowed. -/
def onDeviceAttestationCompleted (allowTestAttestation success : Bool)
    (continued : ChipError) (s : PairingState) : PairingState :=
  if !success && !allowTestAttestation then complete .certNotTrusted s
  else if continued ≠ .noError then complete continued s
  else s

/-- A callback, delivered: the state it leaves, and what the progress callback
is told. -/
def deliver (allowTestAttestation : Bool) (s : PairingState) :
    PairingCallback → PairingState × Option NativeCommissioningProgress
  | .onCommissioningComplete nodeId error => (onCommissioningComplete nodeId error s, none)
  | .onCommissioningFailure status => onCommissioningFailure status s
  | .onCommissioningStageStart stage => onCommissioningStageStart stage s
  | .onCommissioningStatusUpdate stage error => onCommissioningStatusUpdate stage error s
  | .onCommissioningRetry stage error => onCommissioningRetry stage error s
  | .onDeviceAttestationCompleted success continued =>
    (onDeviceAttestationCompleted allowTestAttestation success continued s, none)

/-- **Whether a callback reports success**: that commissioning is complete, with
no error. -/
def reportsSuccess : PairingCallback → Bool
  | .onCommissioningComplete _ error => error == .noError
  | .onCommissioningFailure status => status.err == .noError
  | _ => false

/-- A callback completes the pairing without error only if it reports success,
or the pairing was so completed before. -/
theorem deliver_succeeds {allow : Bool} {s : PairingState} {c : PairingCallback}
    (hc : (deliver allow s c).1.complete = true)
    (he : (deliver allow s c).1.error = .noError) :
    reportsSuccess c = true ∨ (s.complete = true ∧ s.error = .noError) := by
  cases c with
  | onCommissioningComplete nodeId error => exact Or.inl (beq_iff_eq.mpr he)
  | onCommissioningFailure status => exact Or.inl (beq_iff_eq.mpr he)
  | onCommissioningStageStart stage => exact Or.inr ⟨hc, he⟩
  | onCommissioningRetry stage error => exact Or.inr ⟨hc, he⟩
  | onCommissioningStatusUpdate stage error =>
    simp only [deliver, onCommissioningStatusUpdate] at hc he
    split at hc <;> split at he <;> exact Or.inr ⟨hc, he⟩
  | onDeviceAttestationCompleted success continued =>
    -- an attestation only ever completes the pairing with an error
    simp only [deliver, onDeviceAttestationCompleted] at hc he
    split at he
    · cases he
    · rename_i hsuccess
      rw [if_neg hsuccess] at hc
      split at he
      · exact absurd he (by assumption)
      · rename_i hcontinued
        rw [if_neg hcontinued] at hc
        exact Or.inr ⟨hc, he⟩

/-- No callback takes back that the pairing is complete. -/
theorem deliver_complete {allow : Bool} {s : PairingState} (c : PairingCallback)
    (h : s.complete = true) : (deliver allow s c).1.complete = true := by
  cases c with
  | onCommissioningStatusUpdate stage error =>
    simp only [deliver, onCommissioningStatusUpdate]
    split <;> exact h
  | onDeviceAttestationCompleted success continued =>
    simp only [deliver, onDeviceAttestationCompleted]
    split
    · rfl
    · split
      · rfl
      · exact h
  | onCommissioningComplete nodeId error => rfl
  | onCommissioningFailure status => rfl
  | onCommissioningStageStart stage => exact h
  | onCommissioningRetry stage error => exact h

end PairingDelegate

namespace Commissioning

open PairingDelegate

/-- **Where a call of `Commission` stands**, once it has the operation lock:
before `EnsureOpen` and the test of cancellation, before the reset, before
`PairDevice`, before the second test, and then around its two waits. In `woken`
and `deciding` it holds the mutex of the pairing state. -/
inductive Pc
  | entered
  | opened
  | reset
  | paired
  | waiting
  | woken
  | waitingDetail
  | deciding
  deriving DecidableEq, Repr

/-- Whether a call is past its reset. -/
def Pc.pastReset : Pc → Bool
  | .entered => false
  | .opened => false
  | _ => true

/-- Whether a call holds the mutex of the pairing state. -/
def Pc.locked : Pc → Bool
  | .woken => true
  | .deciding => true
  | _ => false

/-- **A call**, with its cancellation flag and – to speak about it – what was
delivered since its reset. -/
structure Call where
  nodeId : UInt64
  pc : Pc := .entered
  cancellationRequested : Bool := false
  delivered : List PairingCallback := []
  deriving DecidableEq, Repr

/-- Whether the native stack has reported the success of a call's own node since
its reset. -/
def Call.Confirmed (c : Call) : Prop :=
  .onCommissioningComplete c.nodeId .noError ∈ c.delivered

instance (c : Call) : Decidable c.Confirmed := by
  unfold Call.Confirmed
  infer_instance

/-- How a call ended: what it returned, and the nodes in memory before and after
its last step. -/
structure Outcome where
  call : Call
  result : Except Exn Unit
  before : List UInt64
  after : List UInt64

/-- **The state**: what the delegate knows, the index, the call that has the
operation lock, and how the calls before it ended. -/
structure State where
  pairing : PairingState := {}
  index : NodeIndex
  call : Option Call := none
  outcomes : List Outcome := []

/-- What a step of a call is answered: it goes on, a native function returns an
error, an exception is thrown, a wait expires, or the index is written. -/
inductive Answer
  | go
  | native (error : ChipError)
  | throws (exn : Exn)
  | expires
  | write (failure : Option WriteFailure)

/-- **A step**: a call of `Commission` that gets the operation lock, a request
to cancel it, its next step, or a callback of some pairing. -/
inductive Action
  | commission (nodeId : UInt64)
  | cancel
  | advance (a : Answer)
  | callback (c : PairingCallback)

/-- The call moves. -/
def State.setPc (s : State) (c : Call) (pc : Pc) : State :=
  { s with call := some { c with pc := pc } }

/-- The call throws. -/
def State.leave (s : State) (c : Call) (exn : Exn) : State :=
  { s with
    call := none
    outcomes := s.outcomes ++ [⟨c, .error exn, s.index.nodes, s.index.nodes⟩] }

/-- `ThrowCommissioningError`: the exception carries the native error. -/
def throwCommissioningError (s : PairingState) : Exn := .chip s.error

/-- What `Commission` makes of the pairing state in the end. -/
def verdict (s : PairingState) : Except Exn Unit :=
  if s.error ≠ .noError && s.hasCompletionStatus then .error (throwCommissioningError s)
  else checkChipError s.error

/-- `Commission` decides, and updates the index where it does not throw. -/
def State.decide (s : State) (c : Call) (failure : Option WriteFailure) : State :=
  let r := s.index.commission c.nodeId (verdict s.pairing) failure
  { s with
    index := r.2
    call := none
    outcomes := s.outcomes ++ [⟨c, r.1, s.index.nodes, r.2.nodes⟩] }

/-- The predicate of the first wait. -/
def State.wakes (s : State) (c : Call) : Bool :=
  s.pairing.complete || c.cancellationRequested

/-- **The next step of the call.** -/
def advance (s : State) (c : Call) (a : Answer) : Option State :=
  match c.pc, a with
  | .entered, .throws exn => some (s.leave c exn)
  | .entered, .go =>
    if c.cancellationRequested then some (s.leave c .canceled) else some (s.setPc c .opened)
  | .opened, .go =>
    some { s with pairing := {}, call := some { c with pc := .reset, delivered := [] } }
  | .reset, .throws exn => some (s.leave c exn)
  | .reset, .native error =>
    if error ≠ .noError then some (s.leave c (.chip error)) else some (s.setPc c .paired)
  -- a cancellation seen here stops the pairing; the wait below ends at once
  | .paired, .go => some (s.setPc c .waiting)
  | .waiting, .go => if s.wakes c then some (s.setPc c .woken) else none
  | .waiting, .expires => if s.wakes c then none else some (s.leave c (.hresult .timeout))
  | .woken, .go =>
    if c.cancellationRequested then some (s.leave c .canceled)
    else if s.pairing.error ≠ .noError && !s.pairing.hasCompletionStatus then
      some (s.setPc c .waitingDetail)
    else some (s.setPc c .deciding)
  | .waitingDetail, .go => some (s.setPc c .deciding)
  | .deciding, .write failure => some (s.decide c failure)
  | _, _ => none

/-- **The step of commissioning.** A callback waits for the mutex of the pairing
state. -/
def step (allowTestAttestation : Bool) (s : State) : Action → Option State
  | .commission nodeId =>
    if s.call.isNone then some { s with call := some { nodeId := nodeId } } else none
  | .cancel => s.call.map fun c => { s with call := some { c with cancellationRequested := true } }
  | .advance a => s.call.bind fun c => advance s c a
  | .callback cb =>
    if s.call.any fun c => c.pc.locked then none
    else some
      { s with
        pairing := (deliver allowTestAttestation s.pairing cb).1
        call := s.call.map fun c => { c with delivered := c.delivered ++ [cb] } }

/-- **Commissioning** with a controller loaded with some nodes. -/
def machine (allowTestAttestation : Bool) (ns : List UInt64) : Machine State Action :=
  ⟨{ index := NodeIndex.loaded ns }, step allowTestAttestation⟩

/-- **A report of success is the call's own**: while a call is past its reset,
the success reported is that of its node, or comes after one that was. -/
def OwnSuccess (s : State) : Action → Prop
  | .callback cb => ∀ c, s.call = some c → c.pc.pastReset = true → reportsSuccess cb = true →
      cb = .onCommissioningComplete c.nodeId .noError ∨ c.Confirmed
  | _ => True

/-- **A call succeeds on evidence**: it returns, or changes the list in memory,
only if the success of its node was reported since its reset. -/
def Outcome.Evidence (o : Outcome) : Prop :=
  o.result = .ok () ∨ o.after ≠ o.before → o.call.Confirmed

/-! ## What a step can do -/

/-- **The steps**, by what they change. -/
inductive Step (allow : Bool) (s : State) : Action → State → Prop
  | commission (nodeId : UInt64) (free : s.call = none) :
      Step allow s (.commission nodeId) { s with call := some { nodeId := nodeId } }
  | cancel (c : Call) (call : s.call = some c) :
      Step allow s .cancel { s with call := some { c with cancellationRequested := true } }
  | callback (cb : PairingCallback) (free : ∀ c, s.call = some c → c.pc.locked = false) :
      Step allow s (.callback cb)
        { s with
          pairing := (deliver allow s.pairing cb).1
          call := s.call.map fun c => { c with delivered := c.delivered ++ [cb] } }
  | reset (a : Answer) (c : Call) (call : s.call = some c) :
      Step allow s (.advance a)
        { s with pairing := {}, call := some { c with pc := .reset, delivered := [] } }
  | move (a : Answer) (c : Call) (pc : Pc) (call : s.call = some c)
      (past : pc.pastReset = true → c.pc.pastReset = true)
      (woken : pc = .woken → s.wakes c = true)
      (decides : pc = .waitingDetail ∨ pc = .deciding →
        c.pc = .waitingDetail ∨ (c.pc = .woken ∧ c.cancellationRequested = false)) :
      Step allow s (.advance a) (s.setPc c pc)
  | leave (a : Answer) (c : Call) (exn : Exn) (call : s.call = some c) :
      Step allow s (.advance a) (s.leave c exn)
  | decide (c : Call) (failure : Option WriteFailure) (call : s.call = some c)
      (pc : c.pc = .deciding) : Step allow s (.advance (.write failure)) (s.decide c failure)

/-- A step of the call is one of these. -/
theorem advance_spec {allow : Bool} {s t : State} {c : Call} {a : Answer}
    (hc : s.call = some c) (h : advance s c a = some t) : Step allow s (.advance a) t := by
  unfold advance at h
  cases hpc : c.pc <;> rw [hpc] at h
  case entered =>
    cases a with
    | throws exn =>
      cases h
      exact .leave _ c exn hc
    | go =>
      dsimp only at h
      split at h <;> cases h
      · exact .leave _ c _ hc
      · exact .move _ c .opened hc (by simp [Pc.pastReset]) (by simp) (by simp)
    | _ => cases h
  case opened =>
    cases a <;> cases h
    exact .reset _ c hc
  case reset =>
    cases a with
    | throws exn =>
      cases h
      exact .leave _ c exn hc
    | native error =>
      dsimp only at h
      split at h <;> cases h
      · exact .leave _ c _ hc
      · exact .move _ c .paired hc (by simp [hpc, Pc.pastReset]) (by simp) (by simp)
    | _ => cases h
  case paired =>
    cases a <;> cases h
    exact .move _ c .waiting hc (by simp [hpc, Pc.pastReset]) (by simp) (by simp)
  case waiting =>
    cases a with
    | go =>
      dsimp only at h
      split at h <;> cases h
      rename_i hw
      exact .move _ c .woken hc (by simp [hpc, Pc.pastReset]) (fun _ => hw) (by simp)
    | expires =>
      dsimp only at h
      split at h <;> cases h
      exact .leave _ c _ hc
    | _ => cases h
  case woken =>
    cases a with
    | go =>
      dsimp only at h
      split at h
      · cases h
        exact .leave _ c _ hc
      · rename_i hcancel
        have hwoken : c.pc = .woken ∧ c.cancellationRequested = false :=
          ⟨hpc, Bool.eq_false_iff.mpr hcancel⟩
        split at h <;> cases h
        · exact .move _ c .waitingDetail hc (by simp [hpc, Pc.pastReset]) (by simp)
            (fun _ => Or.inr hwoken)
        · exact .move _ c .deciding hc (by simp [hpc, Pc.pastReset]) (by simp)
            (fun _ => Or.inr hwoken)
    | _ => cases h
  case waitingDetail =>
    cases a <;> cases h
    exact .move _ c .deciding hc (by simp [hpc, Pc.pastReset]) (by simp) (fun _ => Or.inl hpc)
  case deciding =>
    cases a with
    | write failure =>
      cases h
      exact .decide c failure hc hpc
    | _ => cases h

/-- **Every step is one of these.** -/
theorem step_spec {allow : Bool} {s t : State} {a : Action}
    (h : step allow s a = some t) : Step allow s a t := by
  unfold step at h
  cases a with
  | commission nodeId =>
    dsimp only at h
    split at h
    · rename_i hfree
      obtain rfl := Option.some.inj h
      exact .commission nodeId (Option.isNone_iff_eq_none.mp hfree)
    · cases h
  | cancel =>
    obtain ⟨c, hc, rfl⟩ := Option.map_eq_some_iff.mp h
    exact .cancel c hc
  | advance a =>
    obtain ⟨c, hc, ha⟩ := Option.bind_eq_some_iff.mp h
    exact advance_spec hc ha
  | callback cb =>
    dsimp only at h
    split at h
    · cases h
    · rename_i hfree
      obtain rfl := Option.some.inj h
      exact .callback cb (fun c hc => by simpa [hc] using hfree)

/-! ## The invariant -/

/-- **The invariant**: a pairing that was completed without error since the
reset of a call was confirmed; a call that woke found the pairing complete, or
itself canceled; one that decides found it complete; and all calls that ended
did so on evidence. -/
structure Inv (s : State) : Prop where
  confirmed : ∀ c, s.call = some c → c.pc.pastReset = true → s.pairing.complete = true →
    s.pairing.error = .noError → c.Confirmed
  woken : ∀ c, s.call = some c → c.pc = .woken → s.wakes c = true
  complete : ∀ c, s.call = some c → c.pc = .waitingDetail ∨ c.pc = .deciding →
    s.pairing.complete = true
  outcomes : ∀ o ∈ s.outcomes, o.Evidence

theorem inv_start (allow : Bool) (ns : List UInt64) : Inv (machine allow ns).start where
  confirmed := fun c h => by cases h
  woken := fun c h => by cases h
  complete := fun c h => by cases h
  outcomes := fun o h => by cases h

/-- A state without a call needs evidence only for how calls ended. -/
theorem Inv.of_none {s : State} (hcall : s.call = none)
    (houtcomes : ∀ o ∈ s.outcomes, o.Evidence) : Inv s where
  confirmed := fun c h => by rw [hcall] at h; cases h
  woken := fun c h => by rw [hcall] at h; cases h
  complete := fun c h => by rw [hcall] at h; cases h
  outcomes := houtcomes

/-- One more outcome, on evidence. -/
theorem Inv.outcomes_concat {s : State} (h : Inv s) {o : Outcome} (ho : o.Evidence) :
    ∀ o' ∈ s.outcomes ++ [o], o'.Evidence := by
  intro o' ho'
  rcases List.mem_append.mp ho' with hmem | hmem
  · exact h.outcomes o' hmem
  · rw [List.mem_singleton.mp hmem]
    exact ho

/-- An exception is evidence of nothing. -/
theorem evidence_leave (c : Call) (exn : Exn) (ns : List UInt64) :
    Outcome.Evidence ⟨c, .error exn, ns, ns⟩ := by
  rintro (h | h)
  · cases h
  · exact absurd rfl h

/-- **A call that decides does so on evidence**: the pairing was complete, so it
was confirmed unless it had an error – and then the index stays. -/
theorem Inv.evidence_decide {s : State} (h : Inv s) {c : Call} (hc : s.call = some c)
    (hpc : c.pc = .deciding) (failure : Option WriteFailure) :
    Outcome.Evidence ⟨c, (s.index.commission c.nodeId (verdict s.pairing) failure).1,
      s.index.nodes, (s.index.commission c.nodeId (verdict s.pairing) failure).2.nodes⟩ := by
  by_cases herr : s.pairing.error = .noError
  · intro _
    exact h.confirmed c hc (by rw [hpc]; rfl) (h.complete c hc (Or.inr hpc)) herr
  · have hv : ∃ exn, verdict s.pairing = .error exn := by
      unfold verdict
      split
      · exact ⟨_, rfl⟩
      · exact ⟨_, if_neg herr⟩
    obtain ⟨exn, hexn⟩ := hv
    rw [hexn]
    exact evidence_leave c exn s.index.nodes

/-- **Every step keeps the invariant**, where the reports of success are the
call's own. -/
theorem Inv.step {allow : Bool} {s t : State} {a : Action} (h : Inv s)
    (hok : OwnSuccess s a) (hst : Step allow s a t) : Inv t := by
  cases hst with
  | commission nodeId free =>
    refine ⟨fun c hc hpast => ?_, fun c hc hpc => ?_, fun c hc hpc => ?_, h.outcomes⟩ <;>
      obtain rfl := Option.some.inj hc
    · cases hpast
    · cases hpc
    · rcases hpc with hpc | hpc <;> cases hpc
  | cancel c call =>
    refine ⟨fun d hd hpast => ?_, fun d hd hpc => ?_, fun d hd hpc => ?_, h.outcomes⟩ <;>
      obtain rfl := Option.some.inj hd
    · exact h.confirmed c call hpast
    · show (s.pairing.complete || true) = true
      rw [Bool.or_true]
    · exact h.complete c call hpc
  | callback cb free =>
    refine ⟨fun d hd hpast hcomplete herror => ?_, fun d hd hpc => ?_, fun d hd hpc => ?_,
      h.outcomes⟩ <;>
      obtain ⟨c, hc, rfl⟩ := Option.map_eq_some_iff.mp hd
    · show _ ∈ c.delivered ++ [cb]
      rw [List.mem_append, List.mem_singleton]
      rcases deliver_succeeds hcomplete herror with hsuccess | ⟨hbefore, hnone⟩
      · rcases hok c hc hpast hsuccess with hown | hconfirmed
        · exact Or.inr hown.symm
        · exact Or.inl hconfirmed
      · exact Or.inl (h.confirmed c hc hpast hbefore hnone)
    · -- the mutex was free, so the call has not woken
      have hlocked := free c hc
      rw [show c.pc = .woken from hpc] at hlocked
      cases hlocked
    · exact deliver_complete cb (h.complete c hc hpc)
  | reset a c call =>
    refine ⟨fun d hd hpast hcomplete => ?_, fun d hd hpc => ?_, fun d hd hpc => ?_,
      h.outcomes⟩
    · cases hcomplete
    · obtain rfl := Option.some.inj hd
      cases hpc
    · obtain rfl := Option.some.inj hd
      rcases hpc with hpc | hpc <;> cases hpc
  | move a c pc call past woken decides =>
    refine ⟨fun d hd hpast => ?_, fun d hd hpc => ?_, fun d hd hpc => ?_, h.outcomes⟩ <;>
      obtain rfl := Option.some.inj hd
    · exact h.confirmed c call (past hpast)
    · exact woken hpc
    · rcases decides hpc with hdetail | ⟨hwoken, hcancel⟩
      · exact h.complete c call (Or.inl hdetail)
      · -- it woke, and not because it was canceled
        have hwakes := h.woken c call hwoken
        rwa [State.wakes, hcancel, Bool.or_false] at hwakes
  | leave a c exn call =>
    exact .of_none rfl (h.outcomes_concat (evidence_leave c exn s.index.nodes))
  | decide c failure call pc =>
    exact .of_none rfl (h.outcomes_concat (h.evidence_decide call pc failure))

/-- **Success is confirmed**: in every run in which the successes reported to a
call are its own, a call that returned, or changed the list in memory, did so
after the success of its node was reported. -/
theorem success_confirmed (allow : Bool) (ns : List UInt64) :
    ∀ s, (machine allow ns).ReachableWithin OwnSuccess s → ∀ o ∈ s.outcomes, o.Evidence := by
  intro s hs
  have hinv : Inv s := hs.invariant (P := Inv) (inv_start allow ns)
    (fun _ _ _ _ h hok hst => h.step hok (step_spec hst))
  exact hinv.outcomes

/-- A call that is confirmed and returns. -/
theorem success_confirmed_returned :
    ∃ s, (machine false []).run (machine false []).start
        [.commission 2, .advance .go, .advance .go, .advance (.native .noError), .advance .go,
          .callback (.onCommissioningComplete 2 .noError), .advance .go, .advance .go,
          .advance (.write none)] = some s ∧
      (∃ o ∈ s.outcomes, o.result = .ok ()) ∧ ∀ o ∈ s.outcomes, o.Evidence := by
  refine ⟨_, rfl, ⟨_, List.mem_singleton_self _, rfl⟩, success_confirmed false [] _ ?_⟩
  refine .step (a := .advance (.write none)) (.step (a := .advance .go) (.step (a := .advance .go)
    (.step (a := .callback (.onCommissioningComplete 2 .noError)) (.step (a := .advance .go)
    (.step (a := .advance (.native .noError)) (.step (a := .advance .go)
    (.step (a := .advance .go) (.step (a := .commission 2) .start trivial rfl)
    trivial rfl) trivial rfl) trivial rfl) trivial rfl) ?_ rfl) trivial rfl) trivial rfl)
    trivial rfl
  intro c hc _ _
  obtain rfl := Option.some.inj hc
  exact Or.inl rfl

/-- Node 1 is commissioned, and the wait for it expires. Node 2 is commissioned,
and while it is, the success of node 1 is reported. -/
def lateSuccess : List Action :=
  [.commission 1, .advance .go, .advance .go, .advance (.native .noError), .advance .go,
    .advance .expires,
    .commission 2, .advance .go, .advance .go, .advance (.native .noError), .advance .go,
    .callback (.onCommissioningComplete 1 .noError), .advance .go, .advance .go,
    .advance (.write none)]

/-- **The success of another node**: after `lateSuccess` the call for node 2 has
returned and node 2 is in the index, though only node 1 was commissioned. -/
theorem success_of_another :
    ¬ ∀ allow ns s, (machine allow ns).Reachable s → ∀ o ∈ s.outcomes, o.Evidence := by
  intro h
  have hrun : ((machine false []).run (machine false []).start lateSuccess).map
      (fun s => s.outcomes.map (fun o => (o.call.nodeId, o.call.delivered, o.result, o.after)))
        = some [(1, [], .error (.hresult .timeout), []),
            (2, [.onCommissioningComplete 1 .noError], .ok (), [2])] := rfl
  obtain ⟨s, hs, heq⟩ := Option.map_eq_some_iff.mp hrun
  have hmem : (2, [.onCommissioningComplete 1 .noError], .ok (), [2]) ∈
      s.outcomes.map (fun o => (o.call.nodeId, o.call.delivered, o.result, o.after)) := by
    rw [heq]
    simp
  obtain ⟨o, ho, hfields⟩ := List.mem_map.mp hmem
  simp only [Prod.mk.injEq] at hfields
  obtain ⟨hnode, hdelivered, hresult, -⟩ := hfields
  have hreach := (machine false []).reachable_start.run hs
  have hconfirmed := h false [] s hreach o ho (Or.inl hresult)
  rw [Call.Confirmed, hnode, hdelivered] at hconfirmed
  revert hconfirmed
  decide

end Commissioning
