import MatterController.CameraDiscovery
import MatterController.CameraStreams
import MatterController.Interactions
import MatterController.PendingRelease

/-!
# Allocating a video stream, under cancellation

One `AllocateVideoStreamAsync` or `TryAllocateVideoStreamAsync` operation is a
machine of several threads: the coroutine that runs `AllocateCameraVideoStream`
and its wrapper, the callbacks of the command it invokes, the thread that
requests the cancellation and runs its callback, and the calls of
`PendingCameraRelease::Release` any of them made or spawned. Whatever the
camera, the network or the locks answer is in the actions.

The coroutine's place (`Pc`) follows the source statement by statement where a
cancellation can come between. Inside `InvokeCommand` it is a call that waits
for callbacks (`invokeCommand`), which the cancellation does not reach: the
camera may answer, and the call throw all the same, for what it is told after
the answer or for want of an end. The operation's cancellation is a request,
which WinRT accepts only while the operation has not completed and which
discards the result, and a callback of two steps: it stores the flag the
coroutine polls, and it cancels the owner of the release.

`Inv` says what each place of the coroutine knows of the release owed. The
argument is short once that is written down: the stream is handed over only
where no cancellation was requested and no release was ever called for
(`State.Place`), and every other end left a call of `Release` behind or a
callback that will make one; `Cleanup` does the rest. What it is owed for is
the identifier the command returned. An identifier that a camera has sent to a
command that throws is never recorded (`repeatedResponse_forgets`).
-/

namespace VideoAllocation

/-- The two operations: one throws its failures, the other returns them. -/
inductive Wrapper
  | allocateVideoStreamAsync
  | tryAllocateVideoStreamAsync
  deriving DecidableEq, Repr

/-- **How the operation ends**: the stream, a failure object with its stage
(`RunCameraOperation`), an error, or canceled. -/
inductive Outcome
  | handed (stream : MatterCameraVideoStream)
  | failure (stage : CameraStage) (exn : Exn)
  | error (exn : Exn)
  | canceled
  deriving DecidableEq, Repr

/-- **Where the coroutine stands.** The first five are `AllocateCameraVideoStream`
up to the test before the command; `invoking` and `dispatched` are inside
`InvokeCommand`; then the identifier is recorded, the flag tested, the streams
read back, the flag tested again; `rollback` and `releasing` are an error
handler, of the function or of its wrapper, before and inside `Release`; and
`faulted` is the end of the process. -/
inductive Pc
  | validating
  | readingDescriptor
  | readingCapabilities
  | readingPrivacy
  | readingLimits
  | testingBefore
  | invoking
  | dispatched
  | recording (streamId : UInt16)
  | testingAfter (streamId : UInt16)
  | readingBack (streamId : UInt16)
  | returning (stream : MatterCameraVideoStream)
  | wrapping (stream : MatterCameraVideoStream)
  | completing (stream : MatterCameraVideoStream)
  | rollback (failure : Exn)
  | releasing (call : ℕ) (failure : Exn) (failedStage : CameraStage)
  | failing (failure : Exn)
  | ended
  | faulted
  deriving DecidableEq, Repr

/-- **What the coroutine's step is answered**: that it goes on, with the data
it reads if any, that something it calls throws, or that a null it has come
upon ends the process. -/
inductive Answer
  | go
  | throws (exn : Exn)
  | faults
  | capabilities (c : VideoCapabilities)
  | limits (l : VideoLimits)
  | streams (data : Option PropertySet)

/-- What the native stack calls back to the command, where `δ` is the data of a
response before it is decoded. -/
abbrev Callback (δ : Type) := SentCallback (SenderCallback δ)

/-- The command while it runs, with the callbacks delivered to it. -/
abbrev CommandRun (δ : Type) :=
  CallbackCall.Run (GenericInvokeState PropertySet) (Callback δ) Exn PropertySet

/-- **A step of the machine**: of the coroutine, of the command it is inside of,
of the cancellation, of a call of `Release`, or the end of the deallocation such
a call runs. -/
inductive Action (δ : Type)
  | main (answer : Answer)
  | invoke (a : CallbackCall.Action (Callback δ) Exn)
  | cancel
  | release (call : ℕ)
  | releaseEnds (call : ℕ) (failure : Option Exn)

/-- Whether a step is a callback of the command. -/
def Action.isDelivery {δ : Type} : Action δ → Bool
  | .invoke (.deliver _) => true
  | _ => false

/-- **The state of the operation**: the coroutine with the stage it reports, the
command, the flag it polls, the cancellation, the release owed, and – to speak
about them – the identifier the command returned and the outcome. -/
structure State (δ : Type) where
  pc : Pc := .validating
  stage : CameraStage := .validation
  command : CommandRun δ
  flag : Bool := false
  cancellation : Cancellation := .idle
  cleanup : Cleanup UInt16 Exn := {}
  returned : Option UInt16 := none
  outcome : Option Outcome := none

variable {δ : Type}

/-- Goes on, at a place of the coroutine. -/
def State.goto (s : State δ) (pc : Pc) : State δ := { s with pc := pc }

/-- Goes on, with the stage set on the way. -/
def State.enter (s : State δ) (stage : CameraStage) (pc : Pc) : State δ :=
  { s with stage := stage, pc := pc }

/-- **The end of the coroutine**: WinRT discards the result of an operation that
was canceled before it completed. -/
def State.complete (s : State δ) (outcome : Outcome) : State δ :=
  { s with
    pc := .ended
    outcome := some (if s.cancellation = .idle then outcome else .canceled) }

/-- What an exception that leaves `AllocateCameraVideoStream` makes of the
operation: `RunCameraOperation` turns all but a cancellation into a failure
object. -/
def failureOutcome (wrapper : Wrapper) (stage : CameraStage) : Exn → Outcome
  | .canceled => .canceled
  | exn =>
    match wrapper with
    | .allocateVideoStreamAsync => .error exn
    | .tryAllocateVideoStreamAsync => .failure stage exn

/-- A failure hands nothing over. -/
theorem failureOutcome_ne_handed (wrapper : Wrapper) (stage : CameraStage) (exn : Exn)
    (stream : MatterCameraVideoStream) : failureOutcome wrapper stage exn ≠ .handed stream := by
  cases exn <;> cases wrapper <;> simp [failureOutcome]

/-- The identifier a response to the command has, which is not the reserved one. -/
def readStreamId (response : PropertySet) : Except Failure UInt16 := do
  let streamId ← cameraStreamField (some response) (fieldKey 0)
  if streamId = reservedStreamId then .error (.code .bounds) else .ok streamId

/-- The stream among those that are read back, with the checks of it. -/
def readBack (request : VideoStreamAllocate) (streamId : UInt16) (data : Option PropertySet) :
    Except Failure MatterCameraVideoStream := do
  let streams ← readCameraVideoStreams data
  match MatterCameraVideoStream.findAllocatedLiveViewStream
      (streams.map AllocatedVideoStream.toMatterCameraVideoStream) streamId with
  | none => .error (.code .bounds)
  | some stream =>
    match request.validateAllocated stream with
    | .error exn => .error (.throws exn)
    | .ok () => .ok stream

/-- The stream that is read back is the one of the identifier. -/
theorem streamId_of_readBack {request : VideoStreamAllocate} {streamId : UInt16}
    {data : Option PropertySet} {stream : MatterCameraVideoStream}
    (h : readBack request streamId data = .ok stream) : stream.streamId = streamId := by
  obtain ⟨streams, -, h⟩ := Except.bind_ok_iff.mp h
  split at h
  · cases h
  · rename_i found hfind
    split at h <;> cases h
    exact MatterCameraVideoStream.streamId_of_find hfind

section Steps

variable (decode : δ → Option PropertySet) (nodeId : UInt64) (endpointId : UInt16)
  (request : VideoStreamAllocate) (wrapper : Wrapper)

/-- **The command**: `InvokeCommand` of `VideoStreamAllocate`, which requires its
response, with data. -/
def allocateCommand :
    CallbackCall (GenericInvokeState PropertySet) (Callback δ) Exn PropertySet :=
  invokeCommand decode ⟨endpointId, cameraAvStreamManagementId, videoStreamAllocateId⟩
    (some videoStreamAllocateResponseId) true

/-- **The step of the coroutine.** Its failures before the command are all in
`throws`; what the command has come to is in its run. -/
def mainStep (s : State δ) (a : Answer) : Option (State δ) :=
  match s.pc, a with
  | .validating, .go =>
    if !isOperationalNodeId nodeId || endpointId == invalidEndpointId then
      some (s.goto (.failing (.hresult .invalidArgument)))
    else some (s.enter .descriptor .readingDescriptor)
  | .validating, .throws exn => some (s.goto (.failing exn))
  | .readingDescriptor, .go => some (s.enter .capabilities .readingCapabilities)
  | .readingDescriptor, .throws exn => some (s.goto (.failing exn))
  | .readingDescriptor, .faults => some (s.goto .faulted)
  | .readingCapabilities, .capabilities c =>
    match c.check with
    | .error exn => some (s.goto (.failing exn))
    | .ok () => some (s.enter .privacy .readingPrivacy)
  | .readingCapabilities, .throws exn => some (s.goto (.failing exn))
  | .readingPrivacy, .go => some (s.enter .streamSelection .readingLimits)
  | .readingPrivacy, .throws exn => some (s.goto (.failing exn))
  | .readingLimits, .limits l =>
    match l.check request with
    | .error exn => some (s.goto (.failing exn))
    | .ok () => some (s.goto .testingBefore)
  | .readingLimits, .throws exn => some (s.goto (.failing exn))
  | .testingBefore, .go =>
    if s.flag then some (s.goto (.failing .canceled))
    else some (s.enter .validation .invoking)
  | .invoking, .go => some (s.enter .streamAllocation .dispatched)
  | .invoking, .throws exn => some (s.goto (.failing exn))
  | .dispatched, .go =>
    match s.command.phase with
    | .returned (.error exn) => some (s.goto (.failing exn))
    | .returned (.ok response) =>
      match readStreamId response with
      | .error (.throws exn) => some (s.goto (.failing exn))
      | .error .fault => some (s.goto .faulted)
      | .ok streamId => some { s with pc := .recording streamId, returned := some streamId }
    | _ => none
  | .recording streamId, .go =>
    some { s with pc := .testingAfter streamId, cleanup := s.cleanup.record streamId }
  | .testingAfter streamId, .go =>
    if s.flag then some (s.goto (.rollback .canceled))
    else some (s.enter .streamSelection (.readingBack streamId))
  | .readingBack streamId, .streams data =>
    match readBack request streamId data with
    | .error (.throws exn) => some (s.goto (.rollback exn))
    | .error .fault => some (s.goto .faulted)
    | .ok stream => some (s.goto (.returning stream))
  | .readingBack _, .throws exn => some (s.goto (.rollback exn))
  | .returning stream, .go =>
    if s.flag then some (s.goto (.rollback .canceled))
    else match wrapper with
      | .allocateVideoStreamAsync => some (s.goto (.completing stream))
      | .tryAllocateVideoStreamAsync => some (s.goto (.wrapping stream))
  | .wrapping stream, .go => some (s.goto (.completing stream))
  | .wrapping _, .throws exn => some (s.goto (.rollback exn))
  | .completing stream, .go => some (s.complete (.handed stream))
  | .rollback failure, .go =>
    some { s with
      pc := .releasing s.cleanup.calls.length failure s.stage
      stage := .streamDeallocation
      cleanup := s.cleanup.call }
  | .releasing k failure failedStage, .go =>
    match s.cleanup.calls[k]? with
    | some (.returned none) => some (s.enter failedStage (.failing failure))
    | some (.returned (some exn)) => some (s.goto (.failing exn))
    | _ => none
  | .failing exn, .go => some (s.complete (failureOutcome wrapper s.stage exn))
  | _, _ => none

/-- **A step of the command**, while the coroutine is inside of it. Its node is
admitted and the runtime is open by then, and the cancellation is not passed to
it. -/
def invokeStep (s : State δ) (a : CallbackCall.Action (Callback δ) Exn) : Option (State δ) :=
  match s.pc, a with
  | .dispatched, .refuse _ => none
  | .dispatched, .cancel => none
  | .dispatched, a =>
    ((allocateCommand decode endpointId).step s.command a).map fun r => { s with command := r }
  | _, _ => none

/-- **The next step of the cancellation**: the request, while the operation has
no outcome, and the two steps of its callback. -/
def cancelStep (s : State δ) : Option (State δ) :=
  match s.cancellation with
  | .idle =>
    if s.outcome = none then some { s with cancellation := .requested } else none
  | .requested => some { s with cancellation := .stored, flag := true }
  | .stored => some { s with cancellation := .done, cleanup := s.cleanup.cancel }
  | .done => none

/-- The step of a thread of the process. -/
def liveStep (s : State δ) : Action δ → Option (State δ)
  | .main a => mainStep nodeId endpointId request wrapper s a
  | .invoke a => invokeStep decode endpointId s a
  | .cancel => cancelStep s
  | .release k => (s.cleanup.advance k).map fun c => { s with cleanup := c }
  | .releaseEnds k failure =>
    (s.cleanup.finish k failure).map fun c => { s with cleanup := c }

/-- The step of the machine: of a thread, while there is a process. -/
def step (s : State δ) (a : Action δ) : Option (State δ) :=
  if s.pc = .faulted then none
  else liveStep decode nodeId endpointId request wrapper s a

/-- The state before the first step. -/
def start : State δ := { command := { state := (allocateCommand decode endpointId).initial } }

/-- **The operation**, from its first step. -/
def machine : Machine (State δ) (Action δ) :=
  ⟨start decode endpointId, step decode nodeId endpointId request wrapper⟩

end Steps

/-- The operation is over: it has its outcome, the cancellation callback is back
if one was requested, and so is every call of `Release`. -/
def State.Over (s : State δ) : Prop :=
  s.outcome.isSome = true ∧ (s.cancellation = .idle ∨ s.cancellation = .done) ∧
    s.cleanup.Settled

/-- **The command has returned an identifier.** -/
def State.CommandReturned (s : State δ) (streamId : UInt16) : Prop :=
  ∃ response, s.command.phase = .returned (.ok response) ∧ readStreamId response = .ok streamId

/-- **The camera has sent an identifier**: a success response to the command, with
data that has it, is among what was delivered. -/
def State.CameraReturned (decode : δ → Option PropertySet) (endpointId : UInt16) (s : State δ)
    (streamId : UInt16) : Prop :=
  ∃ status data response,
    .reported (.onResponse
      ⟨endpointId, cameraAvStreamManagementId, videoStreamAllocateResponseId⟩ status (some data))
        ∈ s.command.delivered ∧
      status.isSuccess = true ∧ decode data = some response ∧
      readStreamId response = .ok streamId

/-- **A stream is handed over, or given back once**: at most one deallocation was
attempted, and of that stream; where the operation completed with a stream, it
is that one and no deallocation was attempted; and where it ended otherwise and
is over, exactly one was. -/
structure State.GivesBack (s : State δ) (streamId : UInt16) : Prop where
  once : s.cleanup.invocations = [] ∨ s.cleanup.invocations = [streamId]
  handed : ∀ stream, s.outcome = some (.handed stream) →
    stream.streamId = streamId ∧ s.cleanup.invocations = []
  released : s.Over → (∀ stream, s.outcome ≠ some (.handed stream)) →
    s.cleanup.invocations = [streamId]

/-! ## What a step of the coroutine can do -/

/-- The places before the camera answered. -/
def Pc.early : Pc → Bool
  | .validating | .readingDescriptor | .readingCapabilities | .readingPrivacy
  | .readingLimits | .testingBefore | .invoking | .dispatched => true
  | _ => false

/-- The identifier a place between the answer and its outcome is about. -/
def Pc.streamId : Pc → Option UInt16
  | .testingAfter streamId => some streamId
  | .readingBack streamId => some streamId
  | .returning stream => some stream.streamId
  | .wrapping stream => some stream.streamId
  | .completing stream => some stream.streamId
  | _ => none

/-- The steps the coroutine has left, at most, with the calls of `Release` they
make: a recording and an error handler may each add one, of two steps. -/
def Pc.weight : Pc → ℕ
  | .validating => 20
  | .readingDescriptor => 19
  | .readingCapabilities => 18
  | .readingPrivacy => 17
  | .readingLimits => 16
  | .testingBefore => 15
  | .invoking => 14
  | .dispatched => 13
  | .recording _ => 12
  | .testingAfter _ => 9
  | .readingBack _ => 8
  | .returning _ => 7
  | .wrapping _ => 6
  | .completing _ => 5
  | .rollback _ => 5
  | .releasing _ _ _ => 2
  | .failing _ => 1
  | .ended => 0
  | .faulted => 0

/-- **The steps of the coroutine**, by what they do to the rest of the state:
before the command has returned an identifier they only move and set the stage;
the identifier is noted, then recorded; from there they move between places that
are about it, or to the error handler, which calls `Release` and waits; two
steps complete the operation, and one ends the process. -/
inductive MainStep (wrapper : Wrapper) (s : State δ) : State δ → Prop
  | before (stage : CameraStage) (pc : Pc) (early : s.pc.early = true)
      (next : pc.early = true ∨ ∃ exn, pc = .failing exn)
      (unanswered : s.pc = .dispatched → ∀ streamId, ¬ s.CommandReturned streamId)
      (down : pc.weight < s.pc.weight) :
      MainStep wrapper s (s.enter stage pc)
  | answered (streamId : UInt16) (pc : s.pc = .dispatched)
      (answer : s.CommandReturned streamId) :
      MainStep wrapper s { s with pc := .recording streamId, returned := some streamId }
  | record (streamId : UInt16) (pc : s.pc = .recording streamId) :
      MainStep wrapper s
        { s with pc := .testingAfter streamId, cleanup := s.cleanup.record streamId }
  | after (stage : CameraStage) (pc : Pc) (streamId : UInt16)
      (about : s.pc.streamId = some streamId)
      (next : pc.streamId = some streamId ∨ ∃ exn, pc = .rollback exn)
      (down : pc.weight < s.pc.weight) :
      MainStep wrapper s (s.enter stage pc)
  | release (failure : Exn) (pc : s.pc = .rollback failure) :
      MainStep wrapper s
        { s with
          pc := .releasing s.cleanup.calls.length failure s.stage
          stage := .streamDeallocation
          cleanup := s.cleanup.call }
  | released (k : ℕ) (failure exn : Exn) (failedStage stage : CameraStage)
      (pc : s.pc = .releasing k failure failedStage) :
      MainStep wrapper s (s.enter stage (.failing exn))
  | hand (stream : MatterCameraVideoStream) (pc : s.pc = .completing stream) :
      MainStep wrapper s (s.complete (.handed stream))
  | fail (exn : Exn) (pc : s.pc = .failing exn) :
      MainStep wrapper s (s.complete (failureOutcome wrapper s.stage exn))
  | fault (place : s.pc.early = true ∨ ∃ streamId, s.pc.streamId = some streamId)
      (unanswered : s.pc = .dispatched → ∀ streamId, ¬ s.CommandReturned streamId) :
      MainStep wrapper s (s.goto .faulted)

/-- The command is the last place before the answer. -/
theorem Pc.eq_dispatched_of_early {p : Pc} (h : p.early = true)
    (hle : p.weight ≤ Pc.dispatched.weight) : p = .dispatched := by
  cases p <;> simp_all [Pc.early, Pc.weight]

theorem Pc.weight_of_early {p : Pc} (h : p.early = true) : 12 < p.weight := by
  cases p <;> simp_all [Pc.early, Pc.weight]

/-- A step is left at a place before the answer, and at one about an identifier. -/
theorem Pc.weight_pos {p : Pc} (h : p.early = true ∨ ∃ streamId, p.streamId = some streamId) :
    0 < p.weight := by
  cases p <;> simp_all [Pc.early, Pc.streamId, Pc.weight]

/-- A place before the answer that throws fails the operation. -/
theorem MainStep.throws_early {wrapper : Wrapper} {s : State δ} (exn : Exn)
    (early : s.pc.early = true)
    (unanswered : s.pc = .dispatched → ∀ streamId, ¬ s.CommandReturned streamId) :
    MainStep wrapper s (s.goto (.failing exn)) :=
  .before s.stage _ early (Or.inr ⟨exn, rfl⟩) unanswered
    (Nat.lt_of_le_of_lt (by decide : 1 ≤ 12) (Pc.weight_of_early early))

/-- One after it leads to the error handler. -/
theorem MainStep.throws_late {wrapper : Wrapper} {s : State δ} {streamId : UInt16} (exn : Exn)
    (about : s.pc.streamId = some streamId) (weight : 5 < s.pc.weight) :
    MainStep wrapper s (s.goto (.rollback exn)) :=
  .after s.stage _ streamId about (Or.inr ⟨exn, rfl⟩) weight

/-- The step function takes only these. -/
theorem mainStep_spec {nodeId : UInt64} {endpointId : UInt16}
    {request : VideoStreamAllocate} {wrapper : Wrapper} {s t : State δ} {a : Answer}
    (h : mainStep nodeId endpointId request wrapper s a = some t) :
    MainStep wrapper s t := by
  unfold mainStep at h
  cases hpc : s.pc <;> rw [hpc] at h
  case validating =>
    have early : s.pc.early = true := by rw [hpc]; rfl
    have unanswered : s.pc = .dispatched → ∀ streamId, ¬ s.CommandReturned streamId := by
      rw [hpc]
      rintro ⟨⟩
    cases a with
    | go =>
      dsimp only at h
      split at h <;> cases h
      · exact .throws_early _ early unanswered
      · exact .before _ _ early (Or.inl rfl) unanswered (by rw [hpc]; decide)
    | throws exn =>
      cases h
      exact .throws_early exn early unanswered
    | _ => cases h
  case readingDescriptor =>
    have early : s.pc.early = true := by rw [hpc]; rfl
    have unanswered : s.pc = .dispatched → ∀ streamId, ¬ s.CommandReturned streamId := by
      rw [hpc]
      rintro ⟨⟩
    cases a with
    | go =>
      cases h
      exact .before _ _ early (Or.inl rfl) unanswered (by rw [hpc]; decide)
    | throws exn =>
      cases h
      exact .throws_early exn early unanswered
    | faults =>
      cases h
      exact .fault (Or.inl early) unanswered
    | _ => cases h
  case readingPrivacy | invoking =>
    have early : s.pc.early = true := by rw [hpc]; rfl
    have unanswered : s.pc = .dispatched → ∀ streamId, ¬ s.CommandReturned streamId := by
      rw [hpc]
      rintro ⟨⟩
    cases a with
    | go =>
      cases h
      exact .before _ _ early (Or.inl rfl) unanswered (by rw [hpc]; decide)
    | throws exn =>
      cases h
      exact .throws_early exn early unanswered
    | _ => cases h
  case readingCapabilities =>
    have early : s.pc.early = true := by rw [hpc]; rfl
    have unanswered : s.pc = .dispatched → ∀ streamId, ¬ s.CommandReturned streamId := by
      rw [hpc]
      rintro ⟨⟩
    cases a with
    | capabilities c =>
      dsimp only at h
      split at h <;> cases h
      · exact .throws_early _ early unanswered
      · exact .before _ _ early (Or.inl rfl) unanswered (by rw [hpc]; decide)
    | throws exn =>
      cases h
      exact .throws_early exn early unanswered
    | _ => cases h
  case readingLimits =>
    have early : s.pc.early = true := by rw [hpc]; rfl
    have unanswered : s.pc = .dispatched → ∀ streamId, ¬ s.CommandReturned streamId := by
      rw [hpc]
      rintro ⟨⟩
    cases a with
    | limits l =>
      dsimp only at h
      split at h <;> cases h
      · exact .throws_early _ early unanswered
      · exact .before s.stage _ early (Or.inl rfl) unanswered (by rw [hpc]; decide)
    | throws exn =>
      cases h
      exact .throws_early exn early unanswered
    | _ => cases h
  case testingBefore =>
    have early : s.pc.early = true := by rw [hpc]; rfl
    have unanswered : s.pc = .dispatched → ∀ streamId, ¬ s.CommandReturned streamId := by
      rw [hpc]
      rintro ⟨⟩
    cases a with
    | go =>
      dsimp only at h
      split at h <;> cases h
      · exact .throws_early _ early unanswered
      · exact .before _ _ early (Or.inl rfl) unanswered (by rw [hpc]; decide)
    | _ => cases h
  case dispatched =>
    have early : s.pc.early = true := by rw [hpc]; rfl
    cases a with
    | go =>
      dsimp only at h
      split at h
      · rename_i exn hphase
        cases h
        refine .throws_early exn early ?_
        rintro - streamId ⟨response, hreturned, -⟩
        rw [hphase] at hreturned
        cases hreturned
      · rename_i response hphase
        have hreads : ∀ streamId, s.CommandReturned streamId →
            readStreamId response = .ok streamId := by
          rintro streamId ⟨response', hreturned, hread⟩
          rw [hphase] at hreturned
          cases hreturned
          exact hread
        split at h
        · rename_i exn hread
          cases h
          refine .throws_early exn early fun _ streamId hreturned => ?_
          rw [hread] at hreads
          cases hreads streamId hreturned
        · rename_i hread
          cases h
          refine .fault (Or.inl early) fun _ streamId hreturned => ?_
          rw [hread] at hreads
          cases hreads streamId hreturned
        · rename_i streamId hread
          cases h
          exact .answered streamId hpc ⟨response, hphase, hread⟩
      · cases h
    | _ => cases h
  case recording streamId =>
    cases a <;> cases h
    exact .record streamId hpc
  case testingAfter streamId =>
    have about : s.pc.streamId = some streamId := by rw [hpc]; rfl
    cases a with
    | go =>
      dsimp only at h
      split at h <;> cases h
      · exact .throws_late _ about (by rw [hpc]; simp [Pc.weight])
      · exact .after _ _ streamId about (Or.inl rfl) (by rw [hpc]; simp [Pc.weight])
    | _ => cases h
  case readingBack streamId =>
    have about : s.pc.streamId = some streamId := by rw [hpc]; rfl
    cases a with
    | streams data =>
      dsimp only at h
      split at h
      · cases h
        exact .throws_late _ about (by rw [hpc]; simp [Pc.weight])
      · cases h
        refine .fault (Or.inr ⟨streamId, about⟩) ?_
        rw [hpc]
        rintro ⟨⟩
      · rename_i stream hread
        cases h
        exact .after s.stage _ streamId about (Or.inl (congrArg some (streamId_of_readBack hread)))
          (by rw [hpc]; simp [Pc.weight])
    | throws exn =>
      cases h
      exact .throws_late exn about (by rw [hpc]; simp [Pc.weight])
    | _ => cases h
  case returning stream =>
    have about : s.pc.streamId = some stream.streamId := by rw [hpc]; rfl
    cases a with
    | go =>
      dsimp only at h
      split at h
      · cases h
        exact .throws_late _ about (by rw [hpc]; simp [Pc.weight])
      · cases wrapper <;> cases h <;>
          exact .after s.stage _ stream.streamId about (Or.inl rfl) (by rw [hpc]; simp [Pc.weight])
    | _ => cases h
  case wrapping stream =>
    have about : s.pc.streamId = some stream.streamId := by rw [hpc]; rfl
    cases a with
    | go =>
      cases h
      exact .after s.stage _ stream.streamId about (Or.inl rfl) (by rw [hpc]; simp [Pc.weight])
    | throws exn =>
      cases h
      exact .throws_late exn about (by rw [hpc]; simp [Pc.weight])
    | _ => cases h
  case completing stream =>
    cases a <;> cases h
    exact .hand stream hpc
  case rollback failure =>
    cases a <;> cases h
    exact .release failure hpc
  case releasing k failure failedStage =>
    cases a with
    | go =>
      dsimp only at h
      split at h <;> cases h
      · exact .released k failure failure failedStage failedStage hpc
      · exact .released k failure _ failedStage s.stage hpc
    | _ => cases h
  case failing exn =>
    cases a <;> cases h
    exact .fail exn hpc
  case ended | faulted => cases h

/-! ## What each place knows of the release owed -/

/-- The identifier recorded with the owner of the release: the one returned,
from the place after `Record` on. -/
def State.recorded (s : State δ) : Option UInt16 :=
  match s.pc with
  | .recording _ => none
  | _ => s.returned

/-- Without a cancellation, no release was called for. -/
def State.Quiet (s : State δ) : Prop :=
  s.cancellation = .idle → s.cleanup.calls = []

/-- **What each place knows.** Before the answer nothing is owed; then nobody
but a cancellation calls for a release, until the error handler does; and an
operation that ended handed the stream over with nobody calling for its
release, or left a call behind, or was canceled. -/
def State.Place (s : State δ) : Prop :=
  match s.pc with
  | .recording streamId => s.returned = some streamId ∧ s.Quiet
  | .testingAfter streamId => s.returned = some streamId ∧ s.Quiet
  | .readingBack streamId => s.returned = some streamId ∧ s.Quiet
  | .returning stream => s.returned = some stream.streamId ∧ s.Quiet
  | .wrapping stream => s.returned = some stream.streamId ∧ s.Quiet
  | .completing stream => s.returned = some stream.streamId ∧ s.Quiet
  | .rollback _ => s.returned.isSome = true
  | .releasing k _ _ => s.returned.isSome = true ∧ k < s.cleanup.calls.length
  | .failing _ => s.returned = none ∨ s.cleanup.calls ≠ []
  | .ended =>
    (∃ stream, s.outcome = some (.handed stream) ∧ s.returned = some stream.streamId ∧
        s.cancellation = .idle ∧ s.cleanup.calls = []) ∨
      (∃ outcome, s.outcome = some outcome ∧ (∀ stream, outcome ≠ .handed stream) ∧
        (s.returned = none ∨ s.cleanup.calls ≠ [] ∨ s.cancellation ≠ .idle))
  | .faulted => True
  | _ => s.returned = none

/-- **The invariant of the operation**: the command has returned no identifier
but the one that is noted, or to be noted next; and what the coroutine's place
knows, the phase of the release with the identifier recorded, and that a
callback that is done has canceled the owner and called for the release of what
was recorded. -/
structure Inv (s : State δ) : Prop where
  command : s.pc.early = true → s.pc ≠ .dispatched → s.command.phase = .starting
  answered : ∀ streamId, s.CommandReturned streamId →
    s.pc = .dispatched ∨ s.returned = some streamId
  outcome : s.pc ≠ .ended → s.outcome = none
  place : s.Place
  phase : ∃ ph, s.cleanup.At 0 ph ∧ ph.id = s.recorded
  canceled : s.cleanup.owner.canceled = true ↔ s.cancellation = .done
  called : s.cancellation = .done → s.recorded.isSome = true → s.cleanup.calls ≠ []

theorem State.returned_of_early {s : State δ} (h : s.Place) (hpc : s.pc.early = true) :
    s.returned = none := by
  unfold State.Place at h
  cases hs : s.pc <;> simp_all [Pc.early]

theorem State.returned_of_streamId {s : State δ} {streamId : UInt16} (h : s.Place)
    (hpc : s.pc.streamId = some streamId) : s.returned = some streamId ∧ s.Quiet := by
  unfold State.Place at h
  cases hs : s.pc <;> simp_all [Pc.streamId]

/-- Moving to a place that is about the same identifier, or to the error
handler, keeps what is known. -/
theorem State.place_of_streamId {s : State δ} {streamId : UInt16}
    (h : s.returned = some streamId ∧ s.Quiet)
    (hpc : s.pc.streamId = some streamId ∨ ∃ exn, s.pc = .rollback exn) : s.Place := by
  unfold State.Place
  rcases hpc with hpc | ⟨exn, hpc⟩
  · cases hs : s.pc <;> simp_all [Pc.streamId]
  · simp [hpc, h.1]

/-- The identifier recorded at a place other than the recording. -/
theorem State.recorded_eq {s : State δ} (h : ∀ streamId, s.pc ≠ .recording streamId) :
    s.recorded = s.returned := by
  unfold State.recorded
  cases hs : s.pc <;> simp_all

/-- A command that has not begun has returned nothing. -/
theorem State.not_commandReturned {s : State δ} (h : s.command.phase = .starting)
    (streamId : UInt16) : ¬ s.CommandReturned streamId := by
  rintro ⟨response, hreturned, -⟩
  rw [h] at hreturned
  cases hreturned

/-- It returns one identifier. -/
theorem State.CommandReturned.unique {s : State δ} {a b : UInt16} (ha : s.CommandReturned a)
    (hb : s.CommandReturned b) : a = b := by
  obtain ⟨response, hphase, hread⟩ := ha
  obtain ⟨response', hphase', hread'⟩ := hb
  rw [hphase] at hphase'
  cases hphase'
  rw [hread] at hread'
  exact Except.ok.inj hread'

/-- What the command has returned is noted, past the place where it is noted. -/
theorem Inv.noted {s : State δ} (h : Inv s) (hpc : s.pc ≠ .dispatched) {streamId : UInt16}
    (hret : s.CommandReturned streamId) : s.returned = some streamId :=
  (h.answered streamId hret).resolve_left hpc

theorem inv_start (decode : δ → Option PropertySet) (endpointId : UInt16) :
    Inv (start decode endpointId) where
  command := fun _ _ => rfl
  answered := fun streamId h => absurd h (State.not_commandReturned rfl streamId)
  outcome := fun _ => rfl
  place := rfl
  phase := ⟨.vacant, Cleanup.at_vacant, rfl⟩
  canceled := by simp [start]
  called := by simp [start]

/-- **The coroutine keeps the invariant.** -/
theorem Inv.main {wrapper : Wrapper} {s t : State δ} (h : Inv s)
    (hst : MainStep wrapper s t) : Inv t := by
  obtain ⟨ph, hat, hid⟩ := h.phase
  cases hst with
  | before stage pc early next unanswered down =>
    -- the command has returned nothing, so there is nothing to release
    have hnot : ∀ streamId, ¬ s.CommandReturned streamId := by
      by_cases hpc : s.pc = .dispatched
      · exact unanswered hpc
      · exact State.not_commandReturned (h.command early hpc)
    have hret := s.returned_of_early h.place early
    have hnone : s.recorded = none := by
      unfold State.recorded
      split <;> simp [hret]
    have hrec : (s.enter stage pc).recorded = none := by
      unfold State.recorded
      split <;> simp [State.enter, hret]
    refine ⟨fun hearly hne => h.command early fun hpc => ?_,
      fun streamId hreturned => absurd hreturned (hnot streamId),
      fun _ => h.outcome (by rintro he; rw [he] at early; cases early), ?_,
      ⟨ph, hat, by rw [hid, hnone, hrec]⟩, h.canceled, fun _ hsome => ?_⟩
    · -- no step leads from the command to a place before it
      rw [hpc] at down
      exact hne (Pc.eq_dispatched_of_early hearly (Nat.le_of_lt down))
    · unfold State.Place
      rcases next with next | ⟨exn, rfl⟩
      · cases pc <;> simp_all [Pc.early, State.enter]
      · exact Or.inl hret
    · rw [hrec] at hsome
      cases hsome
  | answered streamId hpc answer =>
    have early : s.pc.early = true := by rw [hpc]; rfl
    have hret := s.returned_of_early h.place early
    have hnone : s.recorded = none := by
      unfold State.recorded
      split <;> simp [hret]
    have hvac : ph = .vacant := by
      rw [hnone] at hid
      cases ph <;> simp_all [Cleanup.Phase.id]
    subst hvac
    refine ⟨(by rintro ⟨⟩), fun other hother => Or.inr ?_,
      fun _ => h.outcome (by rintro he; rw [he] at early; cases early),
      ⟨rfl, fun _ => List.eq_nil_of_length_eq_zero (hat.vacant rfl)⟩,
      ⟨.vacant, hat, rfl⟩, h.canceled, fun _ hsome => by cases hsome⟩
    exact congrArg some (State.CommandReturned.unique answer hother)
  | record streamId pc =>
    have hplace := h.place
    rw [State.Place, pc] at hplace
    have hvac : ph = .vacant := by
      rw [State.recorded, pc] at hid
      cases ph <;> simp_all [Cleanup.Phase.id]
    subst hvac
    have hspec := Cleanup.record_spec streamId s.cleanup
    refine ⟨(by rintro ⟨⟩), fun id hret => Or.inr (h.noted (by simp [pc]) hret),
      fun _ => h.outcome (by simp [pc]), ⟨hplace.1, fun hidle => ?_⟩,
      ⟨.held streamId, hat.record streamId, hplace.1.symm⟩,
      by rw [← h.canceled, hspec.1], fun hc _ => hspec.2.1 (h.canceled.mpr hc)⟩
    have hfalse : s.cleanup.owner.canceled = false := by
      rw [Bool.eq_false_iff, Ne, h.canceled]
      intro hdone
      cases hidle.symm.trans hdone
    -- the owner was not canceled, so recording makes no call of its own
    rw [hspec.2.2 hfalse]
    exact List.eq_nil_of_length_eq_zero (hat.vacant rfl)
  | after stage pc streamId about next _ =>
    have hret := s.returned_of_streamId h.place about
    have hrec : s.recorded = s.returned :=
      s.recorded_eq (fun id hpc => by rw [hpc] at about; cases about)
    have hrec' : (s.enter stage pc).recorded = s.returned :=
      State.recorded_eq (fun id hpc => by
        rcases next with next | ⟨exn, rfl⟩
        · rw [show pc = .recording id from hpc] at next
          cases next
        · cases hpc)
    have hne : s.pc ≠ .dispatched := by
      rintro he
      rw [he] at about
      cases about
    refine ⟨fun hearly => ?_, fun id hcommand => Or.inr (h.noted hne hcommand),
      fun _ => h.outcome (by rintro he; rw [he] at about; cases about),
      State.place_of_streamId hret next, ⟨ph, hat, by rw [hid, hrec, hrec']⟩, h.canceled,
      fun hc hsome => h.called hc (by rw [hrec]; rw [hrec'] at hsome; exact hsome)⟩
    rcases next with next | ⟨exn, rfl⟩
    · cases pc <;> simp_all [Pc.early, Pc.streamId, State.enter]
    · cases hearly
  | release failure pc =>
    have hret : s.returned.isSome = true := by
      have hplace := h.place
      rwa [State.Place, pc] at hplace
    have hrec : s.recorded = s.returned := s.recorded_eq (by simp [pc])
    have hne : ph ≠ .vacant := by
      rintro rfl
      rw [← hrec, ← hid] at hret
      cases hret
    exact ⟨(by rintro ⟨⟩), fun id hid => Or.inr (h.noted (by simp [pc]) hid),
      fun _ => h.outcome (by simp [pc]), ⟨hret, by simp [Cleanup.call]⟩,
      ⟨ph, hat.call hne, by rw [hid, hrec]; rfl⟩,
      h.canceled, fun _ _ => by simp [Cleanup.call]⟩
  | released k failure exn failedStage stage pc =>
    have hplace := h.place
    rw [State.Place, pc] at hplace
    have hrec : s.recorded = s.returned := s.recorded_eq (by simp [pc])
    refine ⟨(by rintro ⟨⟩), fun id hid => Or.inr (h.noted (by simp [pc]) hid),
      fun _ => h.outcome (by simp [pc]), Or.inr fun hnil => ?_,
      ⟨ph, hat, by rw [hid, hrec]; rfl⟩, h.canceled,
      fun hc hsome => h.called hc (by rw [hrec]; exact hsome)⟩
    have hlt := hplace.2
    rw [show s.cleanup.calls = [] from hnil] at hlt
    exact absurd hlt (Nat.not_lt_zero k)
  | hand stream pc =>
    have hplace := h.place
    rw [State.Place, pc] at hplace
    have hrec : s.recorded = s.returned := s.recorded_eq (by simp [pc])
    refine ⟨(by rintro ⟨⟩), fun id hid => Or.inr (h.noted (by simp [pc]) hid),
      fun hne => absurd rfl hne, ?_, ⟨ph, hat, by rw [hid, hrec]; rfl⟩,
      h.canceled, fun hc hsome => h.called hc (by rw [hrec]; exact hsome)⟩
    -- an operation that was canceled has its outcome already
    by_cases hidle : s.cancellation = .idle
    · exact Or.inl ⟨stream, by simp [State.complete, hidle], hplace.1, hidle,
        hplace.2 hidle⟩
    · exact Or.inr ⟨.canceled, by simp [State.complete, hidle], by simp,
        Or.inr (Or.inr hidle)⟩
  | fail exn pc =>
    have hplace := h.place
    rw [State.Place, pc] at hplace
    have hrec : s.recorded = s.returned := s.recorded_eq (by simp [pc])
    refine ⟨(by rintro ⟨⟩), fun id hid => Or.inr (h.noted (by simp [pc]) hid),
      fun hne => absurd rfl hne, Or.inr ?_,
      ⟨ph, hat, by rw [hid, hrec]; rfl⟩, h.canceled,
      fun hc hsome => h.called hc (by rw [hrec]; exact hsome)⟩
    by_cases hidle : s.cancellation = .idle
    · exact ⟨_, by simp only [State.complete, hidle, if_true],
        failureOutcome_ne_handed wrapper s.stage exn, by tauto⟩
    · exact ⟨.canceled, by simp [State.complete, hidle], by simp, by tauto⟩
  | fault place unanswered =>
    have hrec : s.recorded = s.returned := by
      refine s.recorded_eq fun id hpc => ?_
      rw [hpc] at place
      rcases place with early | ⟨streamId, about⟩
      · cases early
      · cases about
    refine ⟨(by rintro ⟨⟩), fun id hcommand => Or.inr ?_, fun _ => h.outcome fun he => ?_, trivial,
      ⟨ph, hat, by rw [hid, hrec]; rfl⟩, h.canceled,
      fun hc hsome => h.called hc (by rw [hrec]; exact hsome)⟩
    · by_cases hpc : s.pc = .dispatched
      · exact absurd hcommand (unanswered hpc id)
      · exact h.noted hpc hcommand
    · rw [he] at place
      rcases place with early | ⟨streamId, about⟩
      · cases early
      · cases about

/-- **What a place knows survives the other threads**, where they forget no call
and call for a release only after a cancellation. -/
theorem State.Place.mono {s t : State δ} (h : s.Place) (hpc : t.pc = s.pc)
    (hret : t.returned = s.returned) (hout : t.outcome = s.outcome)
    (hlen : s.cleanup.calls.length ≤ t.cleanup.calls.length)
    (hquiet : t.cancellation = .idle →
      s.cancellation = .idle ∧ (s.cleanup.calls = [] → t.cleanup.calls = []))
    (hkeep : s.outcome.isSome = true → s.cancellation = .idle → s.cleanup.calls = [] →
      t.cancellation = .idle) : t.Place := by
  have hq : s.Quiet → t.Quiet := fun hs hi => (hquiet hi).2 (hs (hquiet hi).1)
  have hne : s.cleanup.calls ≠ [] → t.cleanup.calls ≠ [] := by
    intro hs ht
    rw [ht] at hlen
    exact hs (List.eq_nil_of_length_eq_zero (Nat.le_zero.mp hlen))
  unfold State.Place at h ⊢
  rw [hpc, hret, hout]
  cases hs : s.pc <;> simp only [hs] at h ⊢
  case recording | testingAfter | readingBack => exact ⟨h.1, hq h.2⟩
  case returning | wrapping | completing => exact ⟨h.1, hq h.2⟩
  case rollback => exact h
  case releasing => exact ⟨h.1, Nat.lt_of_lt_of_le h.2 hlen⟩
  case failing => exact h.imp_right hne
  case ended =>
    rcases h with ⟨stream, ho, hr, hi, hc⟩ | ⟨outcome, ho, hno, hor⟩
    · have hi' := hkeep (by rw [ho]; rfl) hi hc
      exact Or.inl ⟨stream, ho, hr, hi', (hquiet hi').2 hc⟩
    · refine Or.inr ⟨outcome, ho, hno, ?_⟩
      rcases hor with hr | hc | hi
      · exact Or.inl hr
      · exact Or.inr (Or.inl (hne hc))
      · exact Or.inr (Or.inr fun hi' => hi (hquiet hi').1)
  all_goals exact h

/-- **The cancellation keeps the invariant.** -/
theorem Inv.cancel {s t : State δ} (h : Inv s) (hst : cancelStep s = some t) : Inv t := by
  obtain ⟨ph, hat, hid⟩ := h.phase
  unfold cancelStep at hst
  split at hst
  · rename_i hidle
    split at hst
    · rename_i hout
      obtain rfl := Option.some.inj hst
      refine ⟨h.command, h.answered, h.outcome, ?_, ⟨ph, hat, hid⟩, ?_, by simp⟩
      · exact h.place.mono rfl rfl rfl (Nat.le_refl _) (by simp)
          (fun hsome => by rw [hout] at hsome; cases hsome)
      · rw [show s.cleanup.owner.canceled = true ↔ _ from h.canceled, hidle]
        simp
    · cases hst
  · rename_i hreq
    obtain rfl := Option.some.inj hst
    refine ⟨h.command, h.answered, h.outcome, ?_, ⟨ph, hat, hid⟩, ?_, by simp⟩
    · exact h.place.mono rfl rfl rfl (Nat.le_refl _) (by simp)
        (fun _ hidle => by rw [hreq] at hidle; cases hidle)
    · rw [show s.cleanup.owner.canceled = true ↔ _ from h.canceled, hreq]
      simp
  · rename_i hstored
    obtain rfl := Option.some.inj hst
    have hspec := s.cleanup.cancel_spec
    refine ⟨h.command, h.answered, h.outcome, ?_, ⟨ph, hat.cancel, hid⟩, by simp [hspec.1],
      fun _ hsome => ?_⟩
    · exact h.place.mono rfl rfl rfl hspec.2.1 (by simp)
        (fun _ hidle => by rw [hstored] at hidle; cases hidle)
    · refine hat.cancel_calls ?_
      rintro rfl
      have hnone : (none : Option UInt16).isSome = true := by
        rw [show none = s.recorded from hid]
        exact hsome
      cases hnone
  · cases hst

/-- **A call of `Release` keeps the invariant**: it moves the phase, not its
identifier. -/
theorem Inv.release {s : State δ} {c : Cleanup UInt16 Exn} {k : ℕ} (h : Inv s)
    (hphase : ∀ ph, s.cleanup.At 0 ph → ∃ ph', c.At 0 ph' ∧ ph'.id = ph.id)
    (hspec : c.owner.canceled = s.cleanup.owner.canceled ∧
      c.calls.length = s.cleanup.calls.length ∧ k < s.cleanup.calls.length) :
    Inv { s with cleanup := c } := by
  obtain ⟨ph, hat, hid⟩ := h.phase
  obtain ⟨ph', hat', hid'⟩ := hphase ph hat
  have hne : s.cleanup.calls ≠ [] := by
    intro hnil
    rw [hnil] at hspec
    exact absurd hspec.2.2 (Nat.not_lt_zero k)
  refine ⟨h.command, h.answered, h.outcome, ?_, ⟨ph', hat', hid'.trans hid⟩, ?_,
    fun hc hsome hnil => ?_⟩
  · exact h.place.mono rfl rfl rfl (Nat.le_of_eq hspec.2.1.symm)
      (fun hidle => ⟨hidle, fun hnil => absurd hnil hne⟩) (fun _ hidle _ => hidle)
  · rw [show c.owner.canceled = s.cleanup.owner.canceled from hspec.1]
    exact h.canceled
  · have hlen := hspec.2.1
    rw [show c.calls = [] from hnil] at hlen
    exact hne (List.eq_nil_of_length_eq_zero hlen.symm)

/-! ## The steps an operation has left -/

/-- The steps the operation has left, at most, besides the callbacks of the command. -/
def State.weight (s : State δ) : ℕ :=
  s.pc.weight + s.command.phase.weight + s.cancellation.weight + s.cleanup.weight

section Steps

variable {decode : δ → Option PropertySet} {nodeId : UInt64} {endpointId : UInt16}
  {request : VideoStreamAllocate} {wrapper : Wrapper}

/-- A step of the machine is one of a thread. -/
theorem liveStep_of_step {s t : State δ} {a : Action δ}
    (h : step decode nodeId endpointId request wrapper s a = some t) :
    s.pc ≠ .faulted ∧ liveStep decode nodeId endpointId request wrapper s a = some t := by
  unfold step at h
  split at h
  · cases h
  · rename_i hpc
    exact ⟨hpc, h⟩

/-- **What a step of the command does**: it is the command's own, and the rest stays. -/
theorem invokeStep_spec {s t : State δ} {a : CallbackCall.Action (Callback δ) Exn}
    (h : invokeStep decode endpointId s a = some t) :
    s.pc = .dispatched ∧ a ≠ .cancel ∧
      ∃ r, (allocateCommand decode endpointId).step s.command a = some r ∧
        t = { s with command := r } := by
  unfold invokeStep at h
  split at h
  · cases h
  · cases h
  · rename_i hpc _ hcancel
    obtain ⟨r, hr, rfl⟩ := Option.map_eq_some_iff.mp h
    exact ⟨hpc, hcancel, r, hr, rfl⟩
  · cases h

/-- **Every step is one fewer**, but for the callbacks of the command. -/
theorem weight_step {s t : State δ} {a : Action δ}
    (hst : step decode nodeId endpointId request wrapper s a = some t) :
    t.weight + 1 ≤ s.weight + if a.isDelivery then 1 else 0 := by
  have hlive := (liveStep_of_step hst).2
  cases a with
  | main a =>
    show t.weight < s.weight
    unfold State.weight
    cases mainStep_spec hlive with
    | before _ _ _ _ _ down =>
      simp only [State.enter]
      omega
    | after _ _ _ _ _ down =>
      simp only [State.enter]
      omega
    | answered _ pc _ => simp [pc, Pc.weight]
    | record streamId pc =>
      have hle := s.cleanup.weight_record_le streamId
      simp only [pc, Pc.weight]
      omega
    | release failure pc =>
      have hcall := s.cleanup.weight_call
      simp only [pc, Pc.weight]
      omega
    | released _ _ _ _ _ pc => simp [pc, Pc.weight, State.enter]
    | hand _ pc => simp [pc, Pc.weight, State.complete]
    | fail _ pc => simp [pc, Pc.weight, State.complete]
    | fault place _ =>
      have hpos := Pc.weight_pos place
      show 0 + s.command.phase.weight + s.cancellation.weight + s.cleanup.weight < _
      omega
  | invoke a =>
    obtain ⟨-, hcancel, r, hr, rfl⟩ := invokeStep_spec hlive
    unfold State.weight
    dsimp only
    rcases CallbackCall.weight_step hr with hlt | ⟨hphase, rfl | ⟨k, rfl⟩⟩
    · omega
    · exact absurd rfl hcancel
    · rw [hphase]
      rfl
  | cancel =>
    have hcancel := s.cleanup.weight_cancel_le
    show t.weight < s.weight
    unfold liveStep cancelStep at hlive
    dsimp only at hlive
    split at hlive
    · rename_i hc
      split at hlive
      · obtain rfl := Option.some.inj hlive
        simp [State.weight, Cancellation.weight, hc]
      · cases hlive
    · rename_i hc
      obtain rfl := Option.some.inj hlive
      simp [State.weight, Cancellation.weight, hc]
    · rename_i hc
      obtain rfl := Option.some.inj hlive
      simp only [State.weight, Cancellation.weight, hc]
      omega
    · cases hlive
  | release k =>
    obtain ⟨c, hc, rfl⟩ := Option.map_eq_some_iff.mp hlive
    exact Nat.add_lt_add_left (Cleanup.weight_advance_lt hc) _
  | releaseEnds k failure =>
    obtain ⟨c, hc, rfl⟩ := Option.map_eq_some_iff.mp hlive
    exact Nat.add_lt_add_left (Cleanup.weight_finish_lt hc) _

/-- **Every run is short**, besides the callbacks of the command. -/
theorem length_le_of_run {s t : State δ} {as : List (Action δ)}
    (h : (machine decode nodeId endpointId request wrapper).run s as = some t) :
    as.length + t.weight ≤ s.weight + as.countP Action.isDelivery := by
  have hbound := Machine.run_length_le (P := fun _ : State δ => True) (r := Action.isDelivery)
    (fun s a t _ hst => ⟨trivial, weight_step hst⟩) trivial h
  rw [Nat.one_mul] at hbound
  exact hbound.2

/-- **A step of the command keeps the invariant**: nothing it returns is noted yet. -/
theorem Inv.invoke {s : State δ} {r : CommandRun δ} (h : Inv s) (hpc : s.pc = .dispatched) :
    Inv { s with command := r } where
  command := fun _ hne => absurd hpc hne
  answered := fun _ _ => Or.inl hpc
  outcome := h.outcome
  place := h.place
  phase := h.phase
  canceled := h.canceled
  called := h.called

/-- **Every step keeps the invariant.** -/
theorem Inv.step {s t : State δ} {a : Action δ} (h : Inv s)
    (hst : step decode nodeId endpointId request wrapper s a = some t) : Inv t := by
  have hlive := (liveStep_of_step hst).2
  cases a with
  | main a => exact h.main (mainStep_spec hlive)
  | invoke a =>
    obtain ⟨hpc, -, r, -, rfl⟩ := invokeStep_spec hlive
    exact h.invoke hpc
  | cancel => exact h.cancel hlive
  | release k =>
    obtain ⟨c, hc, rfl⟩ := Option.map_eq_some_iff.mp hlive
    refine h.release (fun ph hat => ?_) (Cleanup.advance_spec hc)
    rcases hat.advance hc with hat' | ⟨id, rfl, hat'⟩
    · exact ⟨ph, hat', rfl⟩
    · exact ⟨_, hat', rfl⟩
  | releaseEnds k failure =>
    obtain ⟨c, hc, rfl⟩ := Option.map_eq_some_iff.mp hlive
    refine h.release (fun ph hat => ?_) (Cleanup.finish_spec hc)
    obtain ⟨id, rfl, hat'⟩ := hat.finish hc
    exact ⟨_, hat', rfl⟩

theorem inv_of_reachable {s : State δ}
    (h : (machine decode nodeId endpointId request wrapper).Reachable s) : Inv s :=
  h.invariant (inv_start decode endpointId) (fun _ _ _ _ hs hst => hs.step hst)

/-! ## The operation ends -/

/-- **The operation is never stuck** while there is a process: while it is not over, a step
other than requesting a cancellation is enabled, which is no callback of the command. A call
of `Release` that waits does so for one that runs; the coroutine waits only for its own call,
and for its command, which goes on by itself. -/
theorem exists_step {s : State δ} (h : Inv s) (hlive : s.pc ≠ .faulted) (hover : ¬ s.Over) :
    ∃ a, (a = .cancel → s.cancellation ≠ .idle) ∧ a.isDelivery = false ∧
      (step decode nodeId endpointId request wrapper s a).isSome = true := by
  simp only [step, if_neg hlive]
  obtain ⟨ph, hat, -⟩ := h.phase
  by_cases hset : s.cleanup.Settled
  · by_cases hc : s.cancellation = .idle ∨ s.cancellation = .done
    · have hout : s.outcome = none := by
        by_contra hne
        exact hover ⟨Option.isSome_iff_ne_none.mpr hne, hc, hset⟩
      have hplace := h.place
      unfold State.Place at hplace
      cases hpc : s.pc <;> simp only [hpc] at hplace
      case ended =>
        rcases hplace with ⟨_, ho, -⟩ | ⟨_, ho, -⟩ <;> rw [hout] at ho <;> cases ho
      case faulted => exact absurd hpc hlive
      case releasing k failure failedStage =>
        have hget := List.getElem?_eq_getElem hplace.2
        obtain ⟨f, hf⟩ := hset _ (List.getElem_mem hplace.2)
        rw [hf] at hget
        refine ⟨.main .go, by simp, rfl, ?_⟩
        cases f <;> simp [liveStep, mainStep, hpc, hget]
      case dispatched =>
        by_cases hphase : ∃ r, s.command.phase = .returned r
        · obtain ⟨r, hphase⟩ := hphase
          refine ⟨.main .go, by simp, rfl, ?_⟩
          simp only [liveStep, mainStep, hpc, hphase]
          cases r with
          | error exn => rfl
          | ok response =>
            dsimp only
            split <;> rfl
        · -- the command has not returned, and goes on by itself
          obtain ⟨a, ha, hsome⟩ := CallbackCall.exists_step
            (allocateCommand decode endpointId) (s := s.command) fun r hr => hphase ⟨r, hr⟩
          refine ⟨.invoke a, by simp, ?_, ?_⟩
          · rcases ha with rfl | rfl | rfl | rfl <;> rfl
          · simp only [liveStep, invokeStep, hpc]
            rcases ha with rfl | rfl | rfl | rfl <;> simpa using hsome
      case readingCapabilities | readingLimits | readingBack =>
        exact ⟨.main (.throws .canceled), by simp, rfl, by simp [liveStep, mainStep, hpc]⟩
      case validating | testingBefore | testingAfter =>
        refine ⟨.main .go, by simp, rfl, ?_⟩
        simp only [liveStep, mainStep, hpc]
        split <;> rfl
      case returning =>
        refine ⟨.main .go, by simp, rfl, ?_⟩
        simp only [liveStep, mainStep, hpc]
        split
        · rfl
        · split <;> rfl
      all_goals exact ⟨.main .go, by simp, rfl, by simp [liveStep, mainStep, hpc]⟩
    · refine ⟨.cancel, fun _ hidle => hc (Or.inl hidle), rfl, ?_⟩
      cases hcan : s.cancellation <;> simp_all [liveStep, cancelStep]
  · -- some call is not back: it steps, or the one it waits for does
    have hstep := hat.exists_step hset
    rcases hstep with ⟨k, ha⟩ | ⟨k, ha⟩
    · exact ⟨.release k, by simp, rfl, by simpa [liveStep] using ha⟩
    · exact ⟨.releaseEnds k none, by simp, rfl, by simpa [liveStep] using ha none⟩

/-- The deallocations attempted so far: none, or one of the recorded
identifier. -/
theorem invocations_eq {s : State δ} {streamId : UInt16} (h : Inv s)
    (hret : s.returned = some streamId) :
    s.cleanup.invocations = [] ∨ s.cleanup.invocations = [streamId] := by
  obtain ⟨ph, hat, hid⟩ := h.phase
  rw [hat.runs]
  have hrec : ph.id = none ∨ ph.id = some streamId := by
    rw [hid]
    unfold State.recorded
    split
    · exact Or.inl rfl
    · exact Or.inr hret
  clear hid
  cases ph <;> simp_all [Cleanup.Phase.id, Cleanup.Phase.runs]

/-- **An operation that is over and handed nothing over has released.** -/
theorem invocations_of_over {s : State δ} {streamId : UInt16} (h : Inv s)
    (hret : s.returned = some streamId) (hover : s.Over)
    (hnot : ∀ stream, s.outcome ≠ some (.handed stream)) :
    s.cleanup.invocations = [streamId] := by
  obtain ⟨ph, hat, hid⟩ := h.phase
  obtain ⟨hout, hcan, hset⟩ := hover
  have hpc : s.pc = .ended := by
    by_contra hne
    rw [h.outcome hne] at hout
    cases hout
  have hrec : s.recorded = s.returned := s.recorded_eq (by simp [hpc])
  have hplace := h.place
  rw [State.Place, hpc] at hplace
  have hcalls : s.cleanup.calls ≠ [] := by
    rcases hplace with ⟨stream, ho, -⟩ | ⟨outcome, -, -, hnone | hcalls | hidle⟩
    · exact absurd ho (hnot stream)
    · rw [hret] at hnone
      cases hnone
    · exact hcalls
    · exact h.called (hcan.resolve_left hidle) (by rw [hrec, hret]; rfl)
  obtain ⟨id, failure, rfl⟩ := hat.exists_released (List.length_pos_of_ne_nil hcalls) hset
  rw [hat.runs]
  rw [hrec, hret] at hid
  rw [← Option.some.inj hid]
  rfl

end Steps

/-- **What the command has returned is handed over, or given back once.** -/
theorem Inv.givesBack {s : State δ} {streamId : UInt16} (h : Inv s)
    (hcommand : s.CommandReturned streamId) : s.GivesBack streamId := by
  rcases h.answered streamId hcommand with hpc | hret
  · -- the identifier is not noted yet, and nothing is released
    have hplace := h.place
    rw [State.Place, hpc] at hplace
    have hout := h.outcome (by rw [hpc]; rintro ⟨⟩)
    obtain ⟨ph, hat, hid⟩ := h.phase
    have hvac : ph = .vacant := by
      rw [s.recorded_eq (by simp [hpc]), hplace] at hid
      cases ph <;> simp_all [Cleanup.Phase.id]
    subst hvac
    refine ⟨Or.inl hat.runs, fun stream hhanded => ?_, fun hover => ?_⟩
    · rw [hout] at hhanded
      cases hhanded
    · have hsome := hover.1
      rw [hout] at hsome
      cases hsome
  · refine ⟨invocations_eq h hret, fun stream hout => ?_,
      fun hover hnot => invocations_of_over h hret hover hnot⟩
    have hpc : s.pc = .ended := by
      by_contra hne
      rw [h.outcome hne] at hout
      cases hout
    have hplace := h.place
    rw [State.Place, hpc] at hplace
    rcases hplace with ⟨other, ho, hid, -, hcalls⟩ | ⟨other, ho, hno, -⟩
    · rw [hout] at ho
      cases ho
      obtain ⟨ph, hat, -⟩ := h.phase
      refine ⟨Option.some.inj (hid.symm.trans hret), ?_⟩
      by_contra hne
      exact hat.called (by rw [← hat.runs]; exact hne) hcalls
    · rw [hout] at ho
      cases ho
      exact absurd rfl (hno stream)

/-- **An allocated stream is handed over, or given back once.** In every state
of every run, whichever operation, once the command has returned a stream
identifier that is not reserved, the stream is handed over or given back once.
An operation that is not over can go on, without a cancellation and without a
callback of its command, unless a fault has ended the process; and every run of
it is short but for such callbacks. -/
theorem handed_or_released_once (decode : δ → Option PropertySet) (nodeId : UInt64)
    (endpointId : UInt16) (request : VideoStreamAllocate) (wrapper : Wrapper) :
    (∀ s streamId, (machine decode nodeId endpointId request wrapper).Reachable s →
      s.CommandReturned streamId → s.GivesBack streamId) ∧
    (∀ s, (machine decode nodeId endpointId request wrapper).Reachable s →
      s.pc ≠ .faulted → ¬ s.Over →
        ∃ a, (a = .cancel → s.cancellation ≠ .idle) ∧ a.isDelivery = false ∧
          (step decode nodeId endpointId request wrapper s a).isSome = true) ∧
    (∀ as s, (machine decode nodeId endpointId request wrapper).run
      (machine decode nodeId endpointId request wrapper).start as = some s →
        as.length ≤ 28 + as.countP Action.isDelivery) :=
  ⟨fun _ _ hs hret => (inv_of_reachable hs).givesBack hret,
    fun _ hs hlive hover => exists_step (inv_of_reachable hs) hlive hover,
    fun _ _ hrun => Nat.le_trans (Nat.le_add_right _ _) (length_le_of_run hrun)⟩

/-- A request for a stream of at most nine by nine pixels. -/
def smallRequest : VideoStreamAllocate := ⟨3, 0, 1, 30, ⟨1, 1⟩, ⟨9, 9⟩, 1, 9, 1⟩

/-- The steps up to the command, on a camera that can serve it, and its registration. -/
def toCommand : List (Action PropertySet) :=
  [.main .go, .main .go, .main (.capabilities ⟨true, [3, 6], [4]⟩), .main .go,
    .main (.limits ⟨⟨9, 9⟩, 30, ⟨1, 1⟩, [3]⟩), .main .go, .main .go, .invoke (.register none)]

/-- A success response to the command that has the identifier 7. -/
def seventh : Callback PropertySet :=
  .reported (.onResponse ⟨2, cameraAvStreamManagementId, videoStreamAllocateResponseId⟩ ⟨0, none⟩
    (some [(fieldKey 0, .value (.uint64 7))]))

/-- **An identifier the camera has sent may be forgotten**: a second response makes the command
throw, and the operation ends with nothing handed over and nothing released. -/
theorem repeatedResponse_forgets :
    ¬ ∀ (s : State PropertySet) streamId,
      (machine some 1 2 smallRequest .allocateVideoStreamAsync).Reachable s →
        s.CameraReturned some 2 streamId → s.GivesBack streamId := by
  intro hall
  have hrun : ∃ s, (machine (some : PropertySet → _) 1 2 smallRequest
      .allocateVideoStreamAsync).run (start some 2)
      (toCommand ++ [.invoke (.deliver seventh), .invoke (.deliver seventh),
        .invoke (.deliver .onDone), .invoke .look, .invoke .release, .main .go, .main .go])
        = some s ∧ s.outcome = some (.error (.chip .invalidArgument)) ∧
      s.cancellation = .idle ∧ s.cleanup.calls = [] ∧ s.cleanup.invocations = [] ∧
      seventh ∈ s.command.delivered := ⟨_, rfl, rfl, rfl, rfl, rfl, List.mem_cons_self⟩
  obtain ⟨s, hs, hout, hidle, hcalls, hnone, hsent⟩ := hrun
  have hover : s.Over := ⟨by rw [hout]; rfl, Or.inl hidle, by simp [Cleanup.Settled, hcalls]⟩
  have hback := hall s 7 (Machine.reachable_iff_run.mpr ⟨_, hs⟩)
    ⟨_, _, _, hsent, rfl, rfl, rfl⟩
  have hreleased := hback.released hover fun stream => by rw [hout]; rintro ⟨⟩
  rw [hnone] at hreleased
  cases hreleased

/-- A cancellation between the answer and the recording: the operation ends
canceled, and the stream is deallocated once, though the recording and the error
handler both call for it. -/
example :
    ((machine some 1 2 smallRequest .allocateVideoStreamAsync).run (start some 2)
      (toCommand ++ [.invoke (.deliver seventh), .invoke (.deliver .onDone), .invoke .look,
        .invoke .release, .main .go, .cancel, .cancel, .cancel, .main .go, .main .go, .main .go,
        .release 1, .release 0, .releaseEnds 1 none, .release 0, .main .go, .main .go])).map
      (fun s => (s.outcome, s.cleanup.invocations)) = some (some .canceled, [7]) := by
  rfl

end VideoAllocation
