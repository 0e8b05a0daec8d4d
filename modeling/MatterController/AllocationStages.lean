import MatterController.AudioStream
import MatterController.Effects
import MatterController.InvokeState
import MatterController.PendingRelease

/-!
# The stage of a failed allocation

`TryAllocateVideoStreamAsync` and `TryAllocateAudioStreamAsync` return a failure
with the stage it belongs to. Two of the stages tell an application that a
stream may be left on the camera: `StreamAllocation`, for a command that may
have been sent and whose answer is not known, and `StreamDeallocation`, for a
stream that could not be given back. `failure_stage` says that every other stage
means that there is nothing to give back: no command was sent, or its stream was
deallocated.

The stage is one variable that many write: the allocation as it goes, the
readers of the camera, `InvokeCommand` at the point from which on the command
may be sent, and the error handler, which saves it, sets its own, and puts it
back only after the release returned. So the two operations are written here as
programs on a state with the stage (`Allocation`), statement by statement, and
what each part leaves in the stage when it throws is a postcondition of its own.

Nothing is canceled here: the flag the operations poll stays down.
-/

namespace AllocationStages

open Effects

/-- **The operation's state**: the stage it reports, the owner of the release, and – to
speak about them – whether its command may have been sent, the stream the camera
returned, and the streams that were deallocated. -/
structure Allocation where
  stage : CameraStage := .validation
  owner : PendingCameraRelease UInt16 Exn := {}
  dispatched : Bool := false
  returned : Option UInt16 := none
  deallocated : List UInt16 := []

/-- A part of the operation. -/
abbrev Op := EStateM Exn Allocation

/-- Sets the stage. -/
def setStage (stage : CameraStage) : Op Unit := modify fun s => { s with stage := stage }

/-! ## Commands -/

/-- **What a command meets**: failures before it is sent, then those of the connection, a
timeout, and the status of the answer. -/
structure Invocation where
  arguments : Except Exn Unit := .ok ()
  encode : ChipError := .noError
  acquireNode : Except Exn Unit := .ok ()
  ensureOpen : Except Exn Unit := .ok ()
  construct : Except Exn Unit := .ok ()
  startConnectedOperation : Except Exn Unit := .ok ()
  completes : Bool := true
  result : ChipError := .noError

/-- Writes the stage of an allocation, where the command is one. -/
def writeAllocationStage (allocation : Bool) (stage : CameraStage) : Op Unit :=
  modify fun s => if allocation then { s with stage := stage } else s

/-- Notes that the command of an allocation may be sent from here on. -/
def noteDispatch (allocation : Bool) : Op Unit :=
  modify fun s => if allocation then { s with dispatched := true } else s

/-- `InvokeCommand`, with its arguments; `allocation` is whether it has a stage to
write. -/
def invokeCommand (i : Invocation) (allocation : Bool) : Op Unit := do
  answer i.arguments
  writeAllocationStage allocation .validation
  answer (checkChipError i.encode)
  answer i.acquireNode
  answer i.ensureOpen
  answer i.construct
  writeAllocationStage allocation .streamAllocation
  noteDispatch allocation
  answer i.startConnectedOperation
  require i.completes (.hresult .timeout)
  answer (checkChipError i.result)

/-- Notes that a stream was deallocated. -/
def noteDeallocation (id : UInt16) : Op Unit :=
  modify fun s => { s with deallocated := id :: s.deallocated }

/-- `DeallocateCameraVideoStream`. -/
def deallocateCameraVideoStream (nodeId : UInt64) (endpointId : UInt16) (i : Invocation)
    (streamId : UInt16) : Op Unit := do
  require (isOperationalNodeId nodeId && endpointId != invalidEndpointId &&
    streamId != reservedStreamId) (.hresult .invalidArgument)
  invokeCommand i false
  noteDeallocation streamId

/-- **What the deallocation of an audio stream meets**: the command, and the answers of
the ownership table before and after it. -/
structure AudioDeallocation where
  startRelease : Except Exn Unit := .ok ()
  invocation : Invocation := {}
  releaseFinished : Bool → Except Exn Unit := fun _ => .ok ()

/-- `DeallocateCameraAudioStream`. -/
def deallocateCameraAudioStream (d : AudioDeallocation) (stream : UInt16) : Op Unit := do
  answer d.startRelease
  tryCatch (invokeCommand d.invocation false) fun exn => do
    answer (d.releaseFinished false)
    throw exn
  noteDeallocation stream
  answer (d.releaseFinished true)

/-! ## The release owed -/

/-- `Record`; nobody has canceled. -/
def record (streamId : UInt16) : Op Unit :=
  modify fun s => { s with owner := (s.owner.record streamId).1 }

/-- The release function, run for an identifier, and its outcome kept. -/
def runRelease (mRelease : UInt16 → Op Unit) (id : UInt16) : Op Unit := do
  let failure ← tryCatch (do mRelease id; pure none) fun exn => pure (some exn)
  modify fun s => { s with owner := s.owner.finish failure }
  match failure with
  | some exn => throw exn
  | none => pure ()

/-- `Release`; a call that finds another one made finds it over. -/
def release (mRelease : UInt16 → Op Unit) : Op Unit := do
  let s ← get
  match s.owner.enter.2 with
  | .running id =>
    modify fun s => { s with owner := s.owner.enter.1 }
    runRelease mRelease id
  | .waiting =>
    match s.owner.failure with
    | some exn => throw exn
    | none => pure ()
  | _ => pure ()

/-- **The error handler**: the release under its own stage, and the stage of the failure
again after it. -/
def rollback {α : Type} (mRelease : UInt16 → Op Unit) (failure : Exn) : Op α := do
  let s ← get
  setStage .streamDeallocation
  release mRelease
  setStage s.stage
  throw failure

/-! ## Video -/

/-- **What the allocation of a video stream meets.** -/
structure VideoAnswers where
  descriptor : Except Exn Unit := .ok ()
  capabilities : Except Exn VideoCapabilities
  privacy : Except Exn Unit := .ok ()
  limits : Except Exn VideoLimits
  invocation : Invocation := {}
  /-- Field 0 of the response. -/
  streamId : Except Exn UInt16
  streams : Except Exn (List MatterCameraVideoStream)
  deallocation : Invocation := {}
  /-- The construction of the result. -/
  result : Except Exn Unit := .ok ()

/-- Notes the stream the camera returned. -/
def noteReturned (streamId : UInt16) : Op Unit :=
  modify fun s => { s with returned := some streamId }

section Video

variable (nodeId : UInt64) (endpointId : UInt16) (request : VideoStreamAllocate)
  (a : VideoAnswers)

/-- `AllocateCameraVideoStream`, before the command. -/
def prepareVideo : Op Unit := do
  setStage .validation
  require (isOperationalNodeId nodeId && endpointId != invalidEndpointId)
    (.hresult .invalidArgument)
  setStage .descriptor
  answer a.descriptor
  setStage .capabilities
  let capabilities ← answer a.capabilities
  answer capabilities.check
  setStage .privacy
  answer a.privacy
  setStage .streamSelection
  let limits ← answer a.limits
  answer (limits.check request)
  setStage .validation

/-- What is asked of the streams read back. -/
def confirmVideo (streamId : UInt16) : Op MatterCameraVideoStream := do
  setStage .streamSelection
  let streams ← answer a.streams
  let stream ← answer ((MatterCameraVideoStream.findAllocatedLiveViewStream streams streamId).elim
    (.error (.hresult .bounds)) .ok)
  answer (request.validateAllocated stream)
  pure stream

/-- The release function of a video allocation. -/
def releaseVideo : UInt16 → Op Unit :=
  deallocateCameraVideoStream nodeId endpointId a.deallocation

/-- `AllocateCameraVideoStream`. -/
def allocateCameraVideoStream : Op MatterCameraVideoStream := do
  prepareVideo nodeId endpointId request a
  invokeCommand a.invocation true
  let streamId ← answer a.streamId
  noteReturned streamId
  require (streamId != reservedStreamId) (.hresult .bounds)
  record streamId
  tryCatch (confirmVideo request a streamId) (rollback (releaseVideo nodeId endpointId a))

end Video

/-! ## Audio -/

/-- **What the allocation of an audio stream meets**, of the camera and of the ownership
table. -/
structure AudioAnswers where
  descriptor : Except Exn Unit := .ok ()
  capabilities : Except Exn MatterCameraAudioCapabilities
  /-- Whether the camera offers audio, given a microphone. -/
  offersAudio : Bool := true
  privacyEnabled : Except Exn Bool := .ok false
  usages : Except Exn (List UInt8)
  reserve : Except Exn Unit := .ok ()
  invocation : Invocation := {}
  /-- Field 0 of the response. -/
  streamId : Except Exn UInt16
  commit : Except Exn Unit := .ok ()
  streams : Except Exn (List MatterCameraAudioStream)
  deallocation : AudioDeallocation := {}
  allocationFailed : Bool → Except Exn Unit := fun _ => .ok ()
  /-- The construction of the result. -/
  result : Except Exn Unit := .ok ()

section Audio

variable (nodeId : UInt64) (endpointId : UInt16) (request : AudioStreamAllocate)
  (a : AudioAnswers)

/-- `ReadCameraAudioCapabilities`, with whether the camera is in its privacy mode. Its three
answers are those of a device (`MatterController.CapabilityReads`). -/
def readCameraAudioCapabilities : Op (MatterCameraAudioCapabilities × Bool) := do
  setStage .validation
  require (isOperationalNodeId nodeId && endpointId != invalidEndpointId)
    (.hresult .invalidArgument)
  setStage .descriptor
  answer a.descriptor
  setStage .capabilities
  let capabilities ← answer a.capabilities
  setStage .privacy
  let privacyEnabled ← answer a.privacyEnabled
  pure (capabilities, privacyEnabled)

/-- `RequireListening`, with the microphone it makes sure of. -/
def requireListening (capabilities : MatterCameraAudioCapabilities) (privacyEnabled : Bool) :
    Op MatterCameraAudioFormatCapabilities := do
  setStage .capabilities
  require a.offersAudio (.hresult .notImplemented)
  let microphone ← answer (capabilities.microphone.elim (.error (.hresult .notImplemented)) .ok)
  setStage .privacy
  require (!privacyEnabled) (.hresult .accessDenied)
  pure microphone

/-- `AllocateCameraAudioStream`, before it reserves its entry. -/
def prepareAudio : Op Unit := do
  let (capabilities, privacyEnabled) ← readCameraAudioCapabilities nodeId endpointId a
  let microphone ← requireListening a capabilities privacyEnabled
  setStage .streamSelection
  answer (microphone.validate request)
  let usages ← answer a.usages
  require (usages.contains request.streamUsage &&
    request.bitRate ≤ capabilities.maximumNetworkBandwidth) (.hresult .notImplemented)
  setStage .validation
  answer a.reserve

/-- What is asked of the streams read back. -/
def confirmAudio (id : UInt16) : Op MatterCameraAudioStream := do
  setStage .streamSelection
  let streams ← answer a.streams
  let stream ← answer ((streams.find? fun stream => stream.streamId == id).elim
    (.error (.hresult .bounds)) .ok)
  answer (request.validateAllocated stream)
  pure stream

/-- `AllocateCameraAudioStream`, from the command on. -/
def invokeAudio : Op MatterCameraAudioStream := do
  invokeCommand a.invocation true
  let id ← answer a.streamId
  noteReturned id
  answer a.commit
  record id
  tryCatch (confirmAudio request a id) (rollback (deallocateCameraAudioStream a.deallocation))

/-- `AllocateCameraAudioStream`: its outer handler tells the table whether the command was
certainly refused. -/
def allocateCameraAudioStream : Op MatterCameraAudioStream := do
  prepareAudio nodeId endpointId request a
  tryCatch (invokeAudio request a) fun exn => do
    let s ← get
    answer (a.allocationFailed (GenericInvokeState.knownRejection s.stage exn))
    throw exn

end Audio

/-! ## Structured results -/

/-- `MatterCameraFailure`. -/
structure MatterCameraFailure where
  stage : CameraStage
  exn : Exn

/-- `RunCameraOperation`: an exception that is no cancellation becomes a failure with the
stage at hand. -/
def runCameraOperation {α : Type} (operation : Op α) : Op (Except MatterCameraFailure α) :=
  tryCatch (do let value ← operation; pure (.ok value)) fun exn =>
    match exn with
    | .canceled => throw .canceled
    | exn => do
      let s ← get
      pure (.error ⟨s.stage, exn⟩)

/-- The snapshot of an application's options, which may be null. -/
def snapshot {α : Type} (options : Option (Except Exn α)) : Op α :=
  answer (options.getD (.error (.hresult .invalidArgument)))

/-- The two parts of an operation with a structured result: the snapshot, and what is done
with it. -/
def withSnapshot {α β : Type} (options : Option (Except Exn α)) (operation : α → Op β) :
    Op (Except MatterCameraFailure β) := do
  match ← runCameraOperation (snapshot options) with
  | .error failure => pure (.error failure)
  | .ok request => runCameraOperation (operation request)

/-- `TryAllocateVideoStreamAsync`. -/
def tryAllocateVideoStreamAsync (nodeId : UInt64) (endpointId : UInt16)
    (options : Option (Except Exn VideoStreamAllocate)) (a : VideoAnswers) :
    Op (Except MatterCameraFailure MatterCameraVideoStream) :=
  withSnapshot options fun request => do
    let stream ← allocateCameraVideoStream nodeId endpointId request a
    tryCatch (answer a.result) (rollback (releaseVideo nodeId endpointId a))
    pure stream

/-- `TryAllocateAudioStreamAsync`: a result that cannot be constructed leaves the stage of
the release. -/
def tryAllocateAudioStreamAsync (nodeId : UInt64) (endpointId : UInt16)
    (options : Option (Except Exn AudioStreamAllocate)) (a : AudioAnswers) :
    Op (Except MatterCameraFailure MatterCameraAudioStream) :=
  withSnapshot options fun request => do
    let stream ← allocateCameraAudioStream nodeId endpointId request a
    tryCatch (answer a.result) fun exn => do
      setStage .streamDeallocation
      release (deallocateCameraAudioStream a.deallocation)
      throw exn
    pure stream

/-! ## What each part leaves -/

/-- **Nothing is left on the camera**: no command was sent, or its stream was
deallocated. -/
def Allocation.Clear (s : Allocation) : Prop :=
  s.dispatched = false ∨ ∃ id, s.returned = some id ∧ id ∈ s.deallocated

/-- The stage says that something may be left. -/
def Allocation.Reported (s : Allocation) : Prop :=
  s.stage = .streamAllocation ∨ s.stage = .streamDeallocation

/-- **What every exception leaves.** -/
def Allocation.Ends (s : Allocation) : Prop := s.Reported ∨ s.Clear

/-- Before the command. -/
def Allocation.Fresh (s : Allocation) : Prop := s.dispatched = false ∧ s.owner = {}

/-- After the command was sent, and before its stream is recorded. -/
def Allocation.Sent (s : Allocation) : Prop := s.stage = .streamAllocation ∧ s.owner = {}

/-- With a stream whose release is owed. -/
def Allocation.Holds (id : UInt16) (s : Allocation) : Prop :=
  s.returned = some id ∧ s.owner = { stream := some id }

/-- During the release of a stream. -/
def Allocation.Releases (id : UInt16) (s : Allocation) : Prop :=
  s.returned = some id ∧ s.stage = .streamDeallocation

theorem Allocation.Fresh.ends {s : Allocation} (h : s.Fresh) : s.Ends := Or.inr (Or.inl h.1)

theorem Allocation.Sent.ends {s : Allocation} (h : s.Sent) : s.Ends := Or.inl (Or.inl h.1)

/-- A stage may be set wherever what holds does not speak of it. -/
theorem ensures_setStage {P : Allocation → Prop} {E : Exn → Allocation → Prop}
    {stage : CameraStage} (h : ∀ s, P s → P { s with stage := stage }) :
    Ensures P (setStage stage) (fun _ => P) E :=
  ensures_modify h

/-- **What is asked of the outside** leaves things as they were. -/
theorem ensures_answer_keep {α : Type} {P : Allocation → Prop} {E : Exn → Allocation → Prop}
    {r : Except Exn α} (h : ∀ e s, P s → E e s) : Ensures P (answer r) (fun _ => P) E :=
  ensures_answer (fun _ _ _ hs => hs) h

theorem ensures_require_keep {P : Allocation → Prop} {E : Exn → Allocation → Prop}
    {test : Bool} {exn : Exn} (h : ∀ e s, P s → E e s) :
    Ensures P (require test exn) (fun _ => P) E :=
  ensures_require (fun _ _ hs => hs) (h exn)

/-! ### Commands -/

/-- A command that is no allocation leaves everything as it was. -/
theorem invokeCommand_keeps (i : Invocation) (P : Allocation → Prop) :
    Ensures P (invokeCommand i false) (fun _ => P) (fun _ => P) := by
  have hkeep : ∀ e s, P s → (fun (_ : Exn) => P) e s := fun _ _ hs => hs
  refine .bind (ensures_answer_keep hkeep) fun _ =>
    .bind (ensures_modify (R := fun _ => P) fun _ hs => hs) fun _ => ?_
  refine .bind (ensures_answer_keep hkeep) fun _ => .bind (ensures_answer_keep hkeep) fun _ =>
    .bind (ensures_answer_keep hkeep) fun _ => .bind (ensures_answer_keep hkeep) fun _ => ?_
  refine .bind (ensures_modify (R := fun _ => P) fun _ hs => hs) fun _ =>
    .bind (ensures_modify (R := fun _ => P) fun _ hs => hs) fun _ => ?_
  exact .bind (ensures_answer_keep hkeep) fun _ => .bind (ensures_require_keep hkeep) fun _ =>
    ensures_answer_keep hkeep

/-- **The command of an allocation**: it fails before it may be sent, or with its stage. -/
theorem invokeCommand_sends (i : Invocation) :
    Ensures Allocation.Fresh (invokeCommand i true) (fun _ => Allocation.Sent)
      (fun _ => Allocation.Ends) := by
  have hfresh : ∀ (_ : Exn) s, Allocation.Fresh s → s.Ends := fun _ _ hs => hs.ends
  have hsent : ∀ (_ : Exn) s, Allocation.Sent s → s.Ends := fun _ _ hs => hs.ends
  -- up to the connection nothing can have been sent
  refine .bind (ensures_answer_keep hfresh) fun _ => .bind
    (ensures_modify (R := fun _ => Allocation.Fresh) fun _ hs => hs) fun _ => ?_
  refine .bind (ensures_answer_keep hfresh) fun _ => .bind (ensures_answer_keep hfresh) fun _ =>
    .bind (ensures_answer_keep hfresh) fun _ => .bind (ensures_answer_keep hfresh) fun _ => ?_
  -- from here on the stage says so
  refine .bind (ensures_modify (R := fun _ => Allocation.Sent) fun _ hs => ⟨rfl, hs.2⟩)
    fun _ => .bind (ensures_modify (R := fun _ => Allocation.Sent) fun _ hs => hs) fun _ => ?_
  exact .bind (ensures_answer_keep hsent) fun _ => .bind (ensures_require_keep hsent) fun _ =>
    ensures_answer_keep hsent

/-! ### Releases -/

/-- **A function that deallocates**: where it returns, the stream is deallocated. -/
def Deallocates (mRelease : UInt16 → Op Unit) : Prop :=
  ∀ id, Ensures (Allocation.Releases id) (mRelease id)
    (fun _ s => s.Releases id ∧ id ∈ s.deallocated) (fun _ => Allocation.Releases id)

theorem ensures_noteDeallocation (id : UInt16) {E : Exn → Allocation → Prop} :
    Ensures (Allocation.Releases id) (noteDeallocation id)
      (fun _ s => s.Releases id ∧ id ∈ s.deallocated) E :=
  ensures_modify fun _ hs => ⟨hs, List.mem_cons_self⟩

theorem deallocates_video (nodeId : UInt64) (endpointId : UInt16) (i : Invocation) :
    Deallocates (deallocateCameraVideoStream nodeId endpointId i) := fun id =>
  .bind (ensures_require_keep fun _ _ hs => hs) fun _ =>
    .bind (invokeCommand_keeps i _) fun _ => ensures_noteDeallocation id

theorem deallocates_audio (d : AudioDeallocation) :
    Deallocates (deallocateCameraAudioStream d) := by
  intro id
  refine .bind (ensures_answer_keep fun _ _ hs => hs) fun _ =>
    .bind (.handle (invokeCommand_keeps d.invocation _) fun exn => ?_) fun _ =>
    .bind (ensures_noteDeallocation id) fun _ => ensures_answer_keep fun _ _ hs => hs.1
  exact .bind (ensures_answer_keep fun _ _ hs => hs) fun _ => ensures_throw fun _ hs => hs

/-- A release that is the first one runs the function. -/
theorem release_running {mRelease : UInt16 → Op Unit} {s : Allocation} {id : UInt16}
    (h : s.owner.enter.2 = .running id) :
    release mRelease s = runRelease mRelease id { s with owner := s.owner.enter.1 } := by
  unfold release
  show (EStateM.bind EStateM.get _) s = _
  unfold EStateM.bind EStateM.get
  dsimp only
  rw [h]
  rfl

/-- **A release that is owed** returns with the stream deallocated, or throws with its
stage. -/
theorem release_owed {mRelease : UInt16 → Op Unit} (hm : Deallocates mRelease) (id : UInt16) :
    Ensures (fun s => s.Holds id ∧ s.Releases id) (release mRelease)
      (fun _ => Allocation.Clear) (fun _ => Allocation.Releases id) := by
  -- the function is run and its outcome is kept and thrown
  have hrun : Ensures (Allocation.Releases id) (runRelease mRelease id)
      (fun _ => Allocation.Clear) (fun _ => Allocation.Releases id) := by
    refine .bind (R := fun failure s => s.Releases id ∧ (failure = none → id ∈ s.deallocated))
      (.handle (.bind (hm id) fun _ => ensures_pure fun _ hs => ⟨hs.1, fun _ => hs.2⟩)
        fun exn => ensures_pure fun _ hs => ⟨hs, fun h => by cases h⟩) fun failure => ?_
    refine .bind (R := fun _ s => s.Releases id ∧ (failure = none → id ∈ s.deallocated))
      (ensures_modify fun _ hs => hs) fun _ => ?_
    cases failure with
    | some exn => exact ensures_throw fun _ hs => hs.1
    | none => exact ensures_pure fun _ hs => Or.inr ⟨id, hs.1.1, hs.2 rfl⟩
  intro s hs
  rw [release_running (show s.owner.enter.2 = .running id by rw [hs.1.2]; rfl)]
  exact hrun _ hs.2

/-- **The error handler** ends well, whatever stage it is entered with. -/
theorem rollback_ends {α : Type} {mRelease : UInt16 → Op Unit} (hm : Deallocates mRelease)
    (id : UInt16) (exn : Exn) {Q : α → Allocation → Prop} :
    Ensures (Allocation.Holds id) (rollback mRelease exn) Q (fun _ => Allocation.Ends) := by
  refine .bind (ensures_get fun _ hs => hs) fun s₀ => ?_
  refine .bind (R := fun _ s => s.Holds id ∧ s.Releases id)
    (ensures_modify fun _ hs => ⟨hs, hs.1, rfl⟩) fun _ => ?_
  refine .bind ((release_owed hm id).mono (fun _ hs => hs) (fun _ _ hs => hs)
    fun _ _ hs => Or.inl (Or.inr hs.2)) fun _ => ?_
  exact .bind (ensures_setStage fun _ hs => hs) fun _ => ensures_throw fun _ hs => Or.inr hs

/-! ### Allocations -/

/-- A stream that is recorded is held. -/
theorem ensures_record (id : UInt16) {E : Exn → Allocation → Prop} :
    Ensures (fun s => s.Sent ∧ s.returned = some id) (record id) (fun _ => Allocation.Holds id)
      E :=
  ensures_modify fun s hs => ⟨hs.2, by rw [hs.1.2]; rfl⟩

/-- The stream the camera returned is noted. -/
theorem ensures_noteReturned (id : UInt16) {E : Exn → Allocation → Prop} :
    Ensures Allocation.Sent (noteReturned id) (fun _ s => s.Sent ∧ s.returned = some id) E :=
  ensures_modify fun _ hs => ⟨hs, rfl⟩

theorem prepareVideo_fresh (nodeId : UInt64) (endpointId : UInt16)
    (request : VideoStreamAllocate) (a : VideoAnswers) :
    Ensures Allocation.Fresh (prepareVideo nodeId endpointId request a)
      (fun _ => Allocation.Fresh) (fun _ => Allocation.Ends) := by
  have hfresh : ∀ (_ : Exn) s, Allocation.Fresh s → s.Ends := fun _ _ hs => hs.ends
  refine .bind (ensures_setStage fun _ hs => hs) fun _ =>
    .bind (ensures_require_keep hfresh) fun _ => ?_
  refine .bind (ensures_setStage fun _ hs => hs) fun _ =>
    .bind (ensures_answer_keep hfresh) fun _ => ?_
  refine .bind (ensures_setStage fun _ hs => hs) fun _ =>
    .bind (ensures_answer_keep hfresh) fun _ => .bind (ensures_answer_keep hfresh) fun _ => ?_
  refine .bind (ensures_setStage fun _ hs => hs) fun _ =>
    .bind (ensures_answer_keep hfresh) fun _ => ?_
  refine .bind (ensures_setStage fun _ hs => hs) fun _ =>
    .bind (ensures_answer_keep hfresh) fun _ => .bind (ensures_answer_keep hfresh) fun _ => ?_
  exact ensures_setStage fun _ hs => hs

theorem confirmVideo_holds (request : VideoStreamAllocate) (a : VideoAnswers) (id : UInt16) :
    Ensures (Allocation.Holds id) (confirmVideo request a id) (fun _ => Allocation.Holds id)
      (fun _ => Allocation.Holds id) := by
  have hkeep : ∀ (_ : Exn) s, Allocation.Holds id s → s.Holds id := fun _ _ hs => hs
  refine .bind (ensures_setStage fun _ hs => hs) fun _ => ?_
  exact .bind (ensures_answer_keep hkeep) fun _ => .bind (ensures_answer_keep hkeep) fun _ =>
    .bind (ensures_answer_keep hkeep) fun _ => ensures_pure fun _ hs => hs

/-- **`AllocateCameraVideoStream`** returns with a stream to give back, and ends well. -/
theorem allocateCameraVideoStream_ends (nodeId : UInt64) (endpointId : UInt16)
    (request : VideoStreamAllocate) (a : VideoAnswers) :
    Ensures Allocation.Fresh (allocateCameraVideoStream nodeId endpointId request a)
      (fun _ s => ∃ id, s.Holds id) (fun _ => Allocation.Ends) := by
  refine .bind (prepareVideo_fresh nodeId endpointId request a) fun _ =>
    .bind (invokeCommand_sends a.invocation) fun _ =>
    .bind (ensures_answer_keep fun _ _ hs => hs.ends) fun id => ?_
  refine .bind (ensures_noteReturned id) fun _ =>
    .bind (ensures_require_keep fun _ _ hs => hs.1.ends) fun _ =>
    .bind (ensures_record id) fun _ => ?_
  exact .handle ((confirmVideo_holds request a id).mono (fun _ hs => hs)
    (fun _ _ hs => ⟨id, hs⟩) fun _ _ hs => hs)
    fun exn => rollback_ends (deallocates_video nodeId endpointId a.deallocation) id exn

theorem prepareAudio_fresh (nodeId : UInt64) (endpointId : UInt16)
    (request : AudioStreamAllocate) (a : AudioAnswers) :
    Ensures Allocation.Fresh (prepareAudio nodeId endpointId request a)
      (fun _ => Allocation.Fresh) (fun _ => Allocation.Ends) := by
  have hfresh : ∀ (_ : Exn) s, Allocation.Fresh s → s.Ends := fun _ _ hs => hs.ends
  have hread : Ensures Allocation.Fresh (readCameraAudioCapabilities nodeId endpointId a)
      (fun _ => Allocation.Fresh) (fun _ => Allocation.Ends) := by
    refine .bind (ensures_setStage fun _ hs => hs) fun _ =>
      .bind (ensures_require_keep hfresh) fun _ => ?_
    refine .bind (ensures_setStage fun _ hs => hs) fun _ =>
      .bind (ensures_answer_keep hfresh) fun _ => ?_
    refine .bind (ensures_setStage fun _ hs => hs) fun _ =>
      .bind (ensures_answer_keep hfresh) fun _ => ?_
    exact .bind (ensures_setStage fun _ hs => hs) fun _ =>
      .bind (ensures_answer_keep hfresh) fun _ => ensures_pure fun _ hs => hs
  have hrequire : ∀ c p, Ensures Allocation.Fresh (requireListening a c p)
      (fun _ => Allocation.Fresh) (fun _ => Allocation.Ends) := by
    intro c p
    refine .bind (ensures_setStage fun _ hs => hs) fun _ =>
      .bind (ensures_require_keep hfresh) fun _ => .bind (ensures_answer_keep hfresh) fun _ => ?_
    exact .bind (ensures_setStage fun _ hs => hs) fun _ =>
      .bind (ensures_require_keep hfresh) fun _ => ensures_pure fun _ hs => hs
  refine .bind hread fun (c, p) => .bind (hrequire c p) fun _ => ?_
  refine .bind (ensures_setStage fun _ hs => hs) fun _ =>
    .bind (ensures_answer_keep hfresh) fun _ => .bind (ensures_answer_keep hfresh) fun _ =>
    .bind (ensures_require_keep hfresh) fun _ => ?_
  exact .bind (ensures_setStage fun _ hs => hs) fun _ => ensures_answer_keep hfresh

theorem confirmAudio_holds (request : AudioStreamAllocate) (a : AudioAnswers) (id : UInt16) :
    Ensures (Allocation.Holds id) (confirmAudio request a id) (fun _ => Allocation.Holds id)
      (fun _ => Allocation.Holds id) := by
  have hkeep : ∀ (_ : Exn) s, Allocation.Holds id s → s.Holds id := fun _ _ hs => hs
  refine .bind (ensures_setStage fun _ hs => hs) fun _ => ?_
  exact .bind (ensures_answer_keep hkeep) fun _ => .bind (ensures_answer_keep hkeep) fun _ =>
    .bind (ensures_answer_keep hkeep) fun _ => ensures_pure fun _ hs => hs

/-- **`AllocateCameraAudioStream`** returns with a stream to give back, and ends well. -/
theorem allocateCameraAudioStream_ends (nodeId : UInt64) (endpointId : UInt16)
    (request : AudioStreamAllocate) (a : AudioAnswers) :
    Ensures Allocation.Fresh (allocateCameraAudioStream nodeId endpointId request a)
      (fun _ s => ∃ id, s.Holds id) (fun _ => Allocation.Ends) := by
  refine .bind (prepareAudio_fresh nodeId endpointId request a) fun _ =>
    @Ensures.handle _ _ _ _ _ _ (fun _ => Allocation.Ends) _ _ ?_ fun exn => ?_
  · refine .bind (invokeCommand_sends a.invocation) fun _ =>
      .bind (ensures_answer_keep fun _ _ hs => hs.ends) fun id => ?_
    refine .bind (ensures_noteReturned id) fun _ =>
      .bind (ensures_answer_keep fun _ _ hs => hs.1.ends) fun _ =>
      .bind (ensures_record id) fun _ => ?_
    exact .handle ((confirmAudio_holds request a id).mono (fun _ hs => hs)
      (fun _ _ hs => ⟨id, hs⟩) fun _ _ hs => hs)
      fun exn => rollback_ends (deallocates_audio a.deallocation) id exn
  · exact .bind (ensures_get (R := fun _ => Allocation.Ends) fun _ hs => hs) fun _ =>
      .bind (ensures_answer_keep fun _ _ hs => hs) fun _ => ensures_throw fun _ hs => hs

/-! ### Structured results -/

/-- A failure has the stage at hand, and ends well. -/
def Structured {α : Type} (r : Except MatterCameraFailure α) (s : Allocation) : Prop :=
  match r with
  | .ok _ => True
  | .error failure => failure.stage = s.stage ∧ s.Ends

/-- **A structured failure** has the stage its exception left. -/
theorem runCameraOperation_ends {α : Type} {P : Allocation → Prop} {Q : α → Allocation → Prop}
    {operation : Op α} (h : Ensures P operation Q fun _ => Allocation.Ends) :
    Ensures P (runCameraOperation operation)
      (fun r s => match r with
        | .ok value => Q value s
        | .error failure => failure.stage = s.stage ∧ s.Ends)
      fun _ _ => True := by
  refine .handle (.bind h fun value => ensures_pure fun _ hs => hs) fun exn => ?_
  cases exn with
  | canceled => exact ensures_throw fun _ _ => trivial
  | chip error =>
    exact .bind (ensures_get (R := fun s₀ s => s₀ = s ∧ s.Ends) fun _ hs => ⟨rfl, hs⟩) fun _ =>
      ensures_pure fun _ hs => ⟨by rw [hs.1], hs.2⟩
  | hresult code =>
    exact .bind (ensures_get (R := fun s₀ s => s₀ = s ∧ s.Ends) fun _ hs => ⟨rfl, hs⟩) fun _ =>
      ensures_pure fun _ hs => ⟨by rw [hs.1], hs.2⟩

/-- A failed snapshot sends nothing. -/
theorem snapshot_fresh {α : Type} (options : Option (Except Exn α)) :
    Ensures Allocation.Fresh (snapshot options) (fun _ => Allocation.Fresh)
      (fun _ => Allocation.Ends) :=
  ensures_answer_keep fun _ _ hs => hs.ends

/-- An operation that snapshots its options first. -/
theorem withSnapshot_ends {α β : Type} {options : Option (Except Exn α)} {operation : α → Op β}
    (h : ∀ request, Ensures Allocation.Fresh (operation request) (fun _ _ => True)
      fun _ => Allocation.Ends) :
    Ensures Allocation.Fresh (withSnapshot options operation)
      Structured fun _ _ => True := by
  refine .bind (runCameraOperation_ends (snapshot_fresh options)) fun r => ?_
  cases r with
  | error failure => exact ensures_pure fun _ hs => hs
  | ok request => exact runCameraOperation_ends (h request)

theorem tryAllocateVideoStreamAsync_ends (nodeId : UInt64) (endpointId : UInt16)
    (options : Option (Except Exn VideoStreamAllocate)) (a : VideoAnswers) :
    Ensures Allocation.Fresh (tryAllocateVideoStreamAsync nodeId endpointId options a)
      Structured fun _ _ => True := by
  unfold tryAllocateVideoStreamAsync
  refine withSnapshot_ends fun request =>
    .bind (allocateCameraVideoStream_ends nodeId endpointId request a) fun _ => ?_
  rintro s ⟨id, hs⟩
  have hwrap : Ensures (Allocation.Holds id)
      (tryCatch (answer a.result) (rollback (releaseVideo nodeId endpointId a)) : Op Unit)
      (fun _ _ => True) (fun _ => Allocation.Ends) :=
    .handle (ensures_answer (fun _ _ _ _ => trivial) fun _ _ hs => hs) fun exn =>
      rollback_ends (deallocates_video nodeId endpointId a.deallocation) id exn
  exact Ensures.bind hwrap (fun _ => ensures_pure fun _ _ => trivial) s hs

theorem tryAllocateAudioStreamAsync_ends (nodeId : UInt64) (endpointId : UInt16)
    (options : Option (Except Exn AudioStreamAllocate)) (a : AudioAnswers) :
    Ensures Allocation.Fresh (tryAllocateAudioStreamAsync nodeId endpointId options a)
      Structured fun _ _ => True := by
  unfold tryAllocateAudioStreamAsync
  refine withSnapshot_ends fun request =>
    .bind (allocateCameraAudioStream_ends nodeId endpointId request a) fun _ => ?_
  rintro s ⟨id, hs⟩
  refine Ensures.bind (P := Allocation.Holds id) (R := fun _ _ => True)
    (.handle (ensures_answer (fun _ _ _ _ => trivial) fun _ _ hs => hs) fun exn => ?_)
    (fun _ => ensures_pure fun _ _ => trivial) s hs
  -- the stage stays that of the release, whether it returns or throws
  refine .bind (R := fun _ s => s.Holds id ∧ s.Releases id)
    (ensures_modify fun _ hs => ⟨hs, hs.1, rfl⟩) fun _ => ?_
  exact .bind ((release_owed (deallocates_audio a.deallocation) id).mono (fun _ hs => hs)
    (fun _ _ hs => hs) fun _ _ hs => Or.inl (Or.inr hs.2)) fun _ =>
    ensures_throw fun _ hs => Or.inr hs

/-- **A stage that is neither that of the allocation nor that of the deallocation leaves
nothing on the camera**, whatever the camera, the network and the controller answer. -/
theorem failure_stage :
    (∀ nodeId endpointId options a failure s,
      tryAllocateVideoStreamAsync nodeId endpointId options a {} = .ok (.error failure) s →
      failure.stage ≠ .streamAllocation → failure.stage ≠ .streamDeallocation → s.Clear) ∧
    ∀ nodeId endpointId options a failure s,
      tryAllocateAudioStreamAsync nodeId endpointId options a {} = .ok (.error failure) s →
      failure.stage ≠ .streamAllocation → failure.stage ≠ .streamDeallocation → s.Clear := by
  have hclear : ∀ {failure : MatterCameraFailure} {s : Allocation},
      failure.stage = s.stage ∧ s.Ends → failure.stage ≠ .streamAllocation →
      failure.stage ≠ .streamDeallocation → s.Clear := by
    rintro failure s ⟨hstage, (hreported | hclear)⟩ hallocation hdeallocation
    · rw [hstage] at hallocation hdeallocation
      rcases hreported with h | h
      · exact absurd h hallocation
      · exact absurd h hdeallocation
    · exact hclear
  refine ⟨fun nodeId endpointId options a failure s h => hclear ?_,
    fun nodeId endpointId options a failure s h => hclear ?_⟩
  · exact (tryAllocateVideoStreamAsync_ends nodeId endpointId options a).of_ok ⟨rfl, rfl⟩ h
  · exact (tryAllocateAudioStreamAsync_ends nodeId endpointId options a).of_ok ⟨rfl, rfl⟩ h

/-- A camera that allocates stream 7 and does not list it. -/
def absentStream : AudioAnswers where
  capabilities := .ok ⟨some ⟨2, [0], [48000], [16]⟩, 100000⟩
  usages := .ok [3]
  streamId := .ok 7
  streams := .ok []

/-- The failure has the stage of the selection, and the stream was deallocated. -/
theorem failure_stage_absent :
    ∃ s, tryAllocateAudioStreamAsync 1 2 (some (.ok ⟨3, 0, 1, 48000, 64000, 16⟩)) absentStream {}
        = .ok (.error ⟨.streamSelection, .hresult .bounds⟩) s ∧
      s.deallocated = [7] ∧ s.Clear :=
  ⟨_, rfl, rfl, failure_stage.2 1 2 (some (.ok ⟨3, 0, 1, 48000, 64000, 16⟩)) absentStream
    ⟨.streamSelection, .hresult .bounds⟩ _ rfl (by decide) (by decide)⟩

end AllocationStages
