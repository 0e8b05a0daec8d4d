import MatterController.CameraDiscovery
import MatterController.CameraStreams
import MatterController.Settling

/-!
# Starting a session on two selections

`StartPreparedCameraSession` is given a selection for each medium: absent, for the camera to
select, or a stream that is named. Before the offer it asks the camera for what the
selections need, and of an audio that is not absent it requires a microphone. After the
offer it asks the session which streams the camera has selected, and checks those – whatever
was asked for.

What the two parts look at is not the same. A camera may advertise no microphone, which is
no obstacle where the audio is absent, and may yet name an audio stream for the session;
then the check of that stream asks a microphone that is not there
(`validateCameraSelectedAudio`). The other way for the function to end in neither a session
nor an exception is a null in what it reads: a device type of the descriptor, or a flag of a
video stream, in one of two lists. `endsProperly_iff` says that there is no third, and what
each takes (`Unguarded`, `NullReached`).

This is the function from its first line to its last, on one thread. What it calls outside
of itself returns or throws, as an answer; a read of a list answers with a decoded value. The
attributes that no null can be reached in answer with what is made of them, and
`MatterController.CapabilityReads` says that a device does so. The interleaving with the
cancellation and with other operations is the subject of `MatterController.CameraStart`.
-/

/-- **A selection** (`MatterCameraStreamSelection`): its constructor takes a stream
identifier with the kind `ExplicitId` and with no other, and refuses the reserved one. -/
inductive MatterCameraStreamSelection
  | absent
  | autoSelect
  | explicitId (id : UInt16) (nonreserved : id ≠ reservedStreamId)
  deriving DecidableEq

/-! ## What a camera advertises -/

/-- The features of the stream management that are asked for. -/
inductive CameraFeature
  | audio
  | video
  deriving DecidableEq, Repr

/-- The attributes of the stream management that are asked for. -/
inductive CameraAttribute
  | microphoneCapabilities
  | maxNetworkBandwidth
  | supportedStreamUsages
  | allocatedVideoStreams
  | allocatedAudioStreams
  deriving DecidableEq, Repr

/-- The commands of the two clusters that are asked for. -/
inductive CameraClusterCommand
  | audioStreamAllocate
  | audioStreamAllocateResponse
  | audioStreamDeallocate
  | provideOffer
  | provideOfferResponse
  | provideIceCandidates
  | endSession
  deriving DecidableEq, Repr

/-- `MatterCameraClusterCapabilities`. -/
structure MatterCameraClusterCapabilities where
  revision : UInt16
  featureMap : List CameraFeature
  attributes : List CameraAttribute
  acceptedCommands : List CameraClusterCommand
  generatedCommands : List CameraClusterCommand
  deriving DecidableEq, Repr

/-- `MatterCameraCapabilities`. -/
structure MatterCameraCapabilities where
  descriptor : MatterEndpointDescriptor
  streamManagement : MatterCameraClusterCapabilities
  transportProvider : MatterCameraClusterCapabilities
  deriving DecidableEq, Repr

/-- `WebRTCTransportRequestor::Id`. -/
abbrev webRtcTransportRequestorId : UInt32 := 0x0554

namespace MatterCameraCapabilities

/-- `SupportsClientOffer`. -/
def supportsClientOffer (c : MatterCameraCapabilities) : Bool :=
  c.streamManagement.featureMap.contains .video &&
    c.transportProvider.acceptedCommands.contains .provideOffer &&
    c.transportProvider.acceptedCommands.contains .provideIceCandidates &&
    c.transportProvider.acceptedCommands.contains .endSession &&
    c.transportProvider.generatedCommands.contains .provideOfferResponse

/-- `IsCameraAudioAdapter`. -/
def isCameraAudioAdapter (c : MatterCameraCapabilities) : Bool :=
  (c.descriptor.deviceTypes.any fun type => type.deviceType == 0x0142 && type.revision ≤ 2) &&
    c.descriptor.hasCameraClusters &&
    c.descriptor.clientList.contains webRtcTransportRequestorId &&
    c.streamManagement.revision == 2 && c.transportProvider.revision == 2

/-- Whether the camera has a microphone to read the formats of. -/
def advertisesMicrophone (c : MatterCameraCapabilities) : Bool :=
  c.streamManagement.featureMap.contains .audio &&
    c.streamManagement.attributes.contains .microphoneCapabilities

/-- `CameraOffersAudio`. -/
def cameraOffersAudio (c : MatterCameraCapabilities) : Bool :=
  c.streamManagement.featureMap.contains .audio &&
    c.streamManagement.attributes.contains .microphoneCapabilities &&
    c.streamManagement.attributes.contains .allocatedAudioStreams &&
    c.streamManagement.attributes.contains .supportedStreamUsages &&
    c.streamManagement.acceptedCommands.contains .audioStreamAllocate &&
    c.streamManagement.acceptedCommands.contains .audioStreamDeallocate &&
    c.streamManagement.generatedCommands.contains .audioStreamAllocateResponse &&
    c.transportProvider.acceptedCommands.contains .provideOffer &&
    c.transportProvider.acceptedCommands.contains .provideIceCandidates &&
    c.transportProvider.acceptedCommands.contains .endSession &&
    c.transportProvider.generatedCommands.contains .provideOfferResponse

end MatterCameraCapabilities

namespace CameraSelections

open Effects

/-- **What was read of a camera** (`MatterCameraAudioCapabilities`), with the camera's own
capabilities. -/
structure AudioCapabilities extends MatterCameraAudioCapabilities where
  camera : MatterCameraCapabilities
  privacyEnabled : Bool
  deriving DecidableEq, Repr

/-- `SupportsListening`. -/
def AudioCapabilities.supportsListening (c : AudioCapabilities) : Bool :=
  c.camera.isCameraAudioAdapter && c.microphone.any fun microphone =>
    c.camera.cameraOffersAudio &&
      1 ≤ microphone.maximumChannels && microphone.maximumChannels ≤ 8 &&
      (microphone.sampleRates.any fun rate => rate != 0) &&
      (microphone.codecs.contains opusCodec || microphone.codecs.contains aacLcCodec) &&
      microphone.bitDepths.any fun depth => depth == 8 || depth == 16 || depth == 24 || depth == 32

/-! ## The function -/

/-- **What the function is called with.** The ICE servers only go on to `StartCamera`. -/
structure Request where
  node : UInt64
  endpoint : UInt16
  video : Option MatterCameraStreamSelection
  audio : Option MatterCameraStreamSelection
  sdp : List UInt8

/-- **What `ReadAttribute` answers**: a decoded value, or an exception. -/
abbrev AttributeRead := Except Exn { value : Inspectable // Decoded value }

/-- What a list is made of: the root of the value that is read. -/
def AttributeRead.root : AttributeRead → Except Failure (Option PropertySet)
  | .ok value => .ok (some (decodedRoot value))
  | .error exn => .error (.throws exn)

/-- **What the function is answered**, in the order of its calls. -/
structure Answers where
  ensureCameraSignalingEnabled : Except Exn Unit := .ok ()
  descriptor : DescriptorAttribute → AttributeRead
  streamManagement : Except Exn MatterCameraClusterCapabilities
  transportProvider : Except Exn MatterCameraClusterCapabilities
  /-- The formats of the microphone, which are read where they are advertised. -/
  microphone : Except Exn MatterCameraAudioFormatCapabilities
  /-- The reads of the speaker, the mute states and the volumes. -/
  levels : Except Exn Unit := .ok ()
  bandwidth : Except Exn UInt32
  privacyEnabled : Except Exn Bool := .ok false
  usages : AttributeRead
  privacyBefore : Except Exn Bool := .ok false
  videoStreams : AttributeRead
  audioStreams : AttributeRead
  canceledBefore : Bool := false
  /-- `StartCamera`, with the handle of the session. -/
  startCamera : Except Exn UInt64
  /-- `SelectedCameraStreams`: the streams of the native session's metadata. -/
  selected : Except Exn (Option UInt16 × Option UInt16)
  videoStreamsAfter : AttributeRead
  audioStreamsAfter : AttributeRead
  privacyAfter : Except Exn Bool := .ok false
  canceledAfter : Bool := false
  /-- `Release` of the session that was recorded. -/
  release : Except Exn Unit := .ok ()

/-- **The function's state**: the stage it reports, the session its owner has recorded, and –
to speak about it – for every check of an audio stream whether there was a microphone. -/
structure Start where
  stage : CameraStage := .validation
  recorded : Option UInt64 := none
  audioChecks : List Bool := []
  deriving DecidableEq, Repr

/-- A part of the function. It may end in a fault of the process. -/
abbrev Op := EStateM Failure Start

/-- Sets the stage. -/
def setStage (stage : CameraStage) : Op Unit := modify fun s => { s with stage := stage }

/-- A call that returns or throws. -/
def attempt {α : Type} (r : Except Exn α) : Op α := answer (r.mapError .throws)

/-- Throws a result code unless a test is passed. -/
def demand (test : Bool) (code : HResult) : Op Unit := require test (.code code)

/-- `ReadEndpointDescriptor`. -/
def Answers.readDescriptor (a : Answers) (endpoint : UInt16) :
    Except Failure MatterEndpointDescriptor :=
  readEndpointDescriptor (fun x => (a.descriptor x).root) endpoint

/-- `DescriptorNumericList`, of the usages that are read. -/
def readUsages (read : AttributeRead) : Except Failure (List UInt8) := do
  descriptorNumericList (← read.root)

/-- `ReadCameraVideoStreams`. -/
def readVideo (read : AttributeRead) : Except Failure (List MatterCameraVideoStream) := do
  let streams ← readCameraVideoStreams (← read.root)
  .ok (streams.map AllocatedVideoStream.toMatterCameraVideoStream)

/-- `ReadCameraAudioStreams`. -/
def readAudio (read : AttributeRead) : Except Failure (List MatterCameraAudioStream) := do
  readCameraAudioStreams (← read.root)

/-- The test of the parameters, with the selections there are. -/
def Request.check (q : Request) :
    Except Exn (MatterCameraStreamSelection × MatterCameraStreamSelection) :=
  match q.video, q.audio with
  | some video, some audio =>
    if !isOperationalNodeId q.node || q.endpoint == invalidEndpointId ||
        (video = .absent ∧ audio = .absent) || q.sdp.isEmpty || 16384 < q.sdp.length ||
        q.sdp.contains 0 then
      .error (.hresult .invalidArgument)
    else .ok (video, audio)
  | _, _ => .error (.hresult .invalidArgument)

/-- `ReadCameraCapabilities`. -/
def readCameraCapabilities (a : Answers) (descriptor : MatterEndpointDescriptor) :
    Op MatterCameraCapabilities := do
  demand descriptor.hasCameraClusters .notImplemented
  let streamManagement ← attempt a.streamManagement
  let transportProvider ← attempt a.transportProvider
  pure ⟨descriptor, streamManagement, transportProvider⟩

/-- The formats of the microphone, where they are advertised. -/
def readMicrophone (a : Answers) (camera : MatterCameraCapabilities) :
    Op (Option MatterCameraAudioFormatCapabilities) :=
  if camera.advertisesMicrophone then do
    let microphone ← attempt a.microphone
    pure (some microphone)
  else pure none

/-- `ReadCameraAudioCapabilities`. -/
def readCameraAudioCapabilities (q : Request) (a : Answers) : Op AudioCapabilities := do
  setStage .validation
  demand (isOperationalNodeId q.node && q.endpoint != invalidEndpointId) .invalidArgument
  setStage .descriptor
  let descriptor ← answer (a.readDescriptor q.endpoint)
  setStage .capabilities
  let camera ← readCameraCapabilities a descriptor
  demand camera.isCameraAudioAdapter .notImplemented
  let microphone ← readMicrophone a camera
  attempt a.levels
  demand (camera.streamManagement.attributes.contains .maxNetworkBandwidth) .notImplemented
  let bandwidth ← attempt a.bandwidth
  demand (bandwidth != 0) .bounds
  setStage .privacy
  let privacyEnabled ← attempt a.privacyEnabled
  pure ⟨⟨microphone, bandwidth⟩, camera, privacyEnabled⟩

/-- `RequireListening`. -/
def requireListening (c : AudioCapabilities) : Op Unit := do
  setStage .capabilities
  demand c.supportsListening .notImplemented
  setStage .privacy
  demand (!c.privacyEnabled) .accessDenied

/-- `ReadCameraPrivacy`. -/
def readCameraPrivacy (enabled : Except Exn Bool) : Op Unit := do
  let enabled ← attempt enabled
  demand (!enabled) .accessDenied

/-- What an audio that is not absent needs. -/
def requireAudio (a : Answers) (c : AudioCapabilities) (audio : MatterCameraStreamSelection) :
    Op Unit :=
  if audio = .absent then pure ()
  else do
    requireListening c
    setStage .streamSelection
    let usages ← answer (readUsages a.usages)
    demand (usages.contains liveViewUsage) .notImplemented

/-- What a video that is not absent needs. -/
def requireVideo (c : AudioCapabilities) (video : MatterCameraStreamSelection) : Op Unit :=
  if video ≠ .absent ∧ c.camera.supportsClientOffer = false then do
    setStage .capabilities
    throw (.code .notImplemented)
  else pure ()

/-- `ValidateCameraSelectedVideo` of the streams that are read. -/
def checkVideo (read : AttributeRead) (id : UInt16) : Op Unit := do
  let streams ← answer (readVideo read)
  attempt (validateCameraSelectedVideo streams id)

/-- How a check ends that may use what is not there. -/
def endCheck : Option (Except Exn Unit) → Op Unit
  | none => throw .fault
  | some r => attempt r

/-- `ValidateCameraSelectedAudio`, which notes whether there is a microphone. -/
def validateAudio (c : AudioCapabilities) (streams : List MatterCameraAudioStream)
    (id : UInt16) : Op Unit := do
  modify fun s => { s with audioChecks := s.audioChecks ++ [c.microphone.isSome] }
  endCheck (validateCameraSelectedAudio c.toMatterCameraAudioCapabilities streams id)

/-- `ValidateCameraSelectedAudio` of the streams that are read. -/
def checkAudio (c : AudioCapabilities) (read : AttributeRead) (id : UInt16) : Op Unit := do
  let streams ← answer (readAudio read)
  validateAudio c streams id

/-- A check of a stream that is named. -/
def checkNamed (check : UInt16 → Op Unit) : MatterCameraStreamSelection → Op Unit
  | .explicitId id _ => check id
  | _ => pure ()

/-- A check of a stream that the camera has selected, if it has. -/
def checkSelected (check : UInt16 → Op Unit) : Option UInt16 → Op Unit
  | some id => check id
  | none => pure ()

/-- What the two selections need of the camera, whichever stream is named. -/
def requireSelections (a : Answers) (c : AudioCapabilities)
    (video audio : MatterCameraStreamSelection) : Op Unit := do
  requireAudio a c audio
  requireVideo c video
  setStage .privacy
  readCameraPrivacy a.privacyBefore
  setStage .streamSelection
  demand (video = .absent || c.camera.streamManagement.attributes.contains .allocatedVideoStreams)
    .notImplemented

/-- The checks of the streams that are named. -/
def checkNamedStreams (a : Answers) (c : AudioCapabilities)
    (video audio : MatterCameraStreamSelection) : Op Unit := do
  checkNamed (checkVideo a.videoStreams) video
  checkNamed (checkAudio c a.audioStreams) audio
  require (!a.canceledBefore) (.throws .canceled)

/-- The function before it starts the session. -/
def prepare (q : Request) (a : Answers) : Op AudioCapabilities := do
  setStage .validation
  let (video, audio) ← attempt q.check
  attempt a.ensureCameraSignalingEnabled
  let c ← readCameraAudioCapabilities q a
  requireSelections a c video audio
  checkNamedStreams a c video audio
  pure c

/-- What is done with the session before it is returned. -/
def confirm (a : Answers) (c : AudioCapabilities) (handle : UInt64) : Op UInt64 := do
  modify fun s => { s with recorded := some handle }
  setStage .streamSelection
  let (video, audio) ← attempt a.selected
  checkSelected (checkVideo a.videoStreamsAfter) video
  checkSelected (checkAudio c a.audioStreamsAfter) audio
  setStage .privacy
  readCameraPrivacy a.privacyAfter
  require (!a.canceledAfter) (.throws .canceled)
  pure handle

/-- **The error handler**, for an exception: the release under its own stage, and the stage
of the failure again after it. A fault has no handler. -/
def rollback (a : Answers) : Failure → Op UInt64
  | .fault => throw .fault
  | .throws exn => do
    let s ← get
    setStage .sessionEnd
    attempt a.release
    setStage s.stage
    throw (.throws exn)

/-- **`StartPreparedCameraSession`.** -/
def startPreparedCameraSession (q : Request) (a : Answers) : Op UInt64 := do
  let c ← prepare q a
  setStage .signaling
  let handle ← attempt a.startCamera
  tryCatch (confirm a c handle) (rollback a)

/-! ## What is read -/

/-- A root is there where a value was read. -/
theorem AttributeRead.root_ok_iff {read : AttributeRead} {data : Option PropertySet} :
    read.root = .ok data ↔ ∃ value, read = .ok value ∧ data = some (decodedRoot value.1) := by
  cases read with
  | ok value =>
    refine ⟨fun h => ⟨value, rfl, (Except.ok.inj h).symm⟩, ?_⟩
    rintro ⟨_, ⟨⟩, rfl⟩
    rfl
  | error exn => exact ⟨(by rintro ⟨⟩), (by rintro ⟨_, ⟨⟩, -⟩)⟩

theorem AttributeRead.root_ne_fault (read : AttributeRead) : read.root ≠ .error .fault := by
  cases read <;> rintro ⟨⟩

/-- **The descriptor comes upon a null**: its lists are read, and a device type is null. -/
def Answers.ReachesNullType (a : Answers) : Prop :=
  ∃ values : DescriptorAttribute → { value : Inspectable // Decoded value },
    (∀ x, a.descriptor x = .ok (values x)) ∧ NullTypeReached fun x => (values x).1

/-- Nothing else of a descriptor is a fault. -/
theorem Answers.readDescriptor_fault_iff {a : Answers} {endpoint : UInt16} :
    a.readDescriptor endpoint = .error .fault ↔ a.ReachesNullType := by
  have hread : ∀ values : DescriptorAttribute → { value : Inspectable // Decoded value },
      (∀ x, a.descriptor x = .ok (values x)) →
      a.readDescriptor endpoint
        = readEndpointDescriptor (decodedReads fun x => (values x).1) endpoint := by
    intro values hvalues
    unfold Answers.readDescriptor
    congr 1
    funext x
    rw [hvalues x]
    rfl
  constructor
  · -- a fault comes after all four lists are read
    intro hfault
    have hall : ∀ x, ∃ value, a.descriptor x = .ok value := by
      unfold Answers.readDescriptor readEndpointDescriptor at hfault
      simp only [Except.bind_error_iff, AttributeRead.root_ne_fault, AttributeRead.root_ok_iff,
        descriptorNumericList_ne_fault, descriptorList_ne_fault, false_or] at hfault
      obtain ⟨_, ⟨v1, h1, -⟩, _, -, _, ⟨v2, h2, -⟩, _, -, _, ⟨v3, h3, -⟩, _, -, _, ⟨v4, h4, -⟩,
        -⟩ := hfault
      intro x
      cases x
      · exact ⟨v1, h1⟩
      · exact ⟨v2, h2⟩
      · exact ⟨v3, h3⟩
      · exact ⟨v4, h4⟩
    choose values hvalues using hall
    rw [hread values hvalues, readEndpointDescriptor_fault_iff fun x => (values x).2] at hfault
    exact ⟨values, hvalues, hfault⟩
  · rintro ⟨values, hvalues, hnull⟩
    rw [hread values hvalues, readEndpointDescriptor_fault_iff fun x => (values x).2]
    exact hnull

/-- **A list of video streams comes upon a null**: it is read, and a flag is null. -/
def ReachesNullFlag (read : AttributeRead) : Prop :=
  ∃ value, read = .ok value ∧ NullFlagReached value.1

/-- Nothing else of such a list is a fault. -/
theorem readVideo_fault_iff {read : AttributeRead} :
    readVideo read = .error .fault ↔ ReachesNullFlag read := by
  unfold readVideo ReachesNullFlag
  simp only [Except.bind_error_iff, AttributeRead.root_ne_fault, AttributeRead.root_ok_iff,
    reduceCtorEq, and_false, exists_false, false_or, or_false]
  constructor
  · rintro ⟨_, ⟨value, hvalue, rfl⟩, hfault⟩
    exact ⟨value, hvalue, (readCameraVideoStreams_fault_iff value.2).mp hfault⟩
  · rintro ⟨value, hvalue, hnull⟩
    exact ⟨_, ⟨value, hvalue, rfl⟩, (readCameraVideoStreams_fault_iff value.2).mpr hnull⟩

/-- The other lists are read without a fault. -/
theorem readUsages_ne_fault (read : AttributeRead) : readUsages read ≠ .error .fault := by
  unfold readUsages
  simp [Except.bind_error_iff, AttributeRead.root_ne_fault, descriptorNumericList_ne_fault]

theorem readAudio_ne_fault (read : AttributeRead) : readAudio read ≠ .error .fault := by
  unfold readAudio
  simp [Except.bind_error_iff, AttributeRead.root_ne_fault, readCameraAudioStreams_ne_fault]

/-! ## What a part of the function does -/

/-- **No audio was checked without a microphone.** -/
def Start.Guarded (s : Start) : Prop := ∀ check ∈ s.audioChecks, check = true

/-- **A failure is improper**: a fault, or an exception after an audio was checked without a
microphone. -/
def Improper (e : Failure) (s : Start) : Prop := e = .fault ∨ ¬ s.Guarded

/-- A part of the function that is guarded and does not fault, by what it returns. -/
abbrev Yields {α : Type} (x : Op α) (R : α → Prop) : Prop :=
  Effects.Yields Start.Guarded (· ≠ .fault) x R

/-- **A part of the function**, by when it returns, when it fails improperly, and what it
returns. -/
abbrev Ends {α : Type} (x : Op α) (S B : Prop) (R : α → Prop) : Prop :=
  Settles Improper Start.Guarded x S B R Start.Guarded

theorem not_improper (e : Failure) (s : Start) (he : e ≠ .fault) (hs : s.Guarded) :
    ¬ Improper e s := by
  rintro (hfault | hunguarded)
  · exact he hfault
  · exact hunguarded hs

/-- What comes after a part that is guarded. -/
theorem Yields.andThen {α β : Type} {x : Op β} {f : β → Op α} {R C D : β → Prop} {T : α → Prop}
    (hx : Yields x R) (hf : ∀ b, R b → Ends (f b) (C b) (D b) T) :
    Ends (x >>= f) (∃ b, R b ∧ C b) (∃ b, R b ∧ D b) T :=
  Effects.Yields.bindSettles hx not_improper hf

/-- A part that is guarded, by itself. -/
theorem Yields.ends {α : Type} {x : Op α} {R : α → Prop} (hx : Yields x R) :
    Ends x (∃ a, R a) False R :=
  Effects.Yields.settles hx not_improper

/-- A part of which the value is not asked for. -/
theorem Yields.done {x : Op Unit} {C : Prop} (hx : Yields x fun _ => C) :
    Ends x C False fun _ => True :=
  (hx.ends.mono (fun _ hs => hs) (fun _ _ => trivial) fun _ hs => hs).congr (exists_const _)
    Iff.rfl

/-- **What is made of a value** may be a fault. -/
theorem ends_answer {α : Type} (r : Except Failure α) :
    Ends (answer r) (∃ a, r = .ok a) (r = .error .fault) (r = .ok ·) := by
  refine settles_answer (fun a s hr hs => ⟨⟨a, hr⟩, ?_, hr, hs⟩) fun e s hr hs => ⟨?_, ?_⟩
  · rw [hr]
    rintro ⟨⟩
  · rw [hr]
    rintro ⟨a, ⟨⟩⟩
  · rw [hr]
    exact ⟨fun h => congrArg Except.error (h.resolve_right (not_not.mpr hs)),
      fun h => Or.inl (Except.error.inj h)⟩

/-- Or it is none. -/
theorem yields_answer_of_ne {α : Type} {r : Except Failure α} (h : r ≠ .error .fault) :
    Yields (answer r) (r = .ok ·) :=
  yields_answer fun e he hfault => h (by rw [he, hfault])

theorem yields_attempt {α : Type} (r : Except Exn α) : Yields (attempt r) (r = .ok ·) := by
  refine (yields_answer_of_ne ?_).congr fun a => ?_
  · cases r <;> rintro ⟨⟩
  · cases r with
    | ok b =>
      have hok : ∀ {ε ε' : Type}, (Except.ok b : Except ε α) = .ok a →
          (Except.ok b : Except ε' α) = .ok a := fun h => congrArg Except.ok (Except.ok.inj h)
      exact ⟨hok, hok⟩
    | error exn => exact ⟨(by rintro ⟨⟩), (by rintro ⟨⟩)⟩

theorem yields_demand (test : Bool) (code : HResult) :
    Yields (demand test code) (fun _ => test = true) :=
  yields_require Failure.noConfusion

theorem yields_setStage (stage : CameraStage) : Yields (setStage stage) (fun _ => True) :=
  yields_modify fun _ hs => hs

/-- What is read of the formats of the microphone. -/
def MicrophoneRead (a : Answers) (camera : MatterCameraCapabilities)
    (microphone : Option MatterCameraAudioFormatCapabilities) : Prop :=
  if camera.advertisesMicrophone then ∃ formats, a.microphone = .ok formats ∧
    microphone = some formats
  else microphone = none

theorem yields_readMicrophone (a : Answers) (camera : MatterCameraCapabilities) :
    Yields (readMicrophone a camera) (MicrophoneRead a camera) := by
  unfold readMicrophone MicrophoneRead
  split
  · exact (yields_attempt a.microphone).bind fun formats _ => yields_pure (some formats)
  · exact yields_pure none

/-- **What is read of the camera**: the capabilities, where the reads return and are what
the function wants of every camera. -/
structure Advertised (q : Request) (a : Answers) (c : AudioCapabilities) : Prop where
  operational : (isOperationalNodeId q.node && q.endpoint != invalidEndpointId) = true
  descriptor : a.readDescriptor q.endpoint = .ok c.camera.descriptor
  cameraClusters : c.camera.descriptor.hasCameraClusters = true
  streamManagement : a.streamManagement = .ok c.camera.streamManagement
  transportProvider : a.transportProvider = .ok c.camera.transportProvider
  adapter : c.camera.isCameraAudioAdapter = true
  microphone : MicrophoneRead a c.camera c.microphone
  levels : a.levels = .ok ()
  bandwidthAdvertised :
    c.camera.streamManagement.attributes.contains .maxNetworkBandwidth = true
  bandwidth : a.bandwidth = .ok c.maximumNetworkBandwidth
  bandwidthNonzero : (c.maximumNetworkBandwidth != 0) = true
  privacy : a.privacyEnabled = .ok c.privacyEnabled

theorem yields_readCameraCapabilities (a : Answers) (descriptor : MatterEndpointDescriptor) :
    Yields (readCameraCapabilities a descriptor) fun camera => camera.descriptor = descriptor ∧
      descriptor.hasCameraClusters = true ∧ a.streamManagement = .ok camera.streamManagement ∧
      a.transportProvider = .ok camera.transportProvider := by
  refine ((yields_demand _ _).bind fun _ _ =>
    (yields_attempt a.streamManagement).bind fun stream _ =>
    (yields_attempt a.transportProvider).bind fun transport _ =>
    yields_pure _).congr fun camera => ?_
  constructor
  · rintro ⟨-, hclusters, stream, hstream, transport, htransport, rfl⟩
    exact ⟨rfl, hclusters, hstream, htransport⟩
  · rintro ⟨rfl, hclusters, hstream, htransport⟩
    exact ⟨(), hclusters, _, hstream, _, htransport, rfl⟩

/-- **The capabilities that are read**, or a null device type. -/
theorem ends_readCameraAudioCapabilities {q : Request} (a : Answers)
    (hq : (isOperationalNodeId q.node && q.endpoint != invalidEndpointId) = true) :
    Ends (readCameraAudioCapabilities q a) (∃ c, Advertised q a c) a.ReachesNullType
      (Advertised q a) := by
  have hrest : ∀ descriptor, a.readDescriptor q.endpoint = .ok descriptor →
      Yields (do
        setStage .capabilities
        let camera ← readCameraCapabilities a descriptor
        demand camera.isCameraAudioAdapter .notImplemented
        let microphone ← readMicrophone a camera
        attempt a.levels
        demand (camera.streamManagement.attributes.contains .maxNetworkBandwidth) .notImplemented
        let bandwidth ← attempt a.bandwidth
        demand (bandwidth != 0) .bounds
        setStage .privacy
        let privacyEnabled ← attempt a.privacyEnabled
        pure ⟨⟨microphone, bandwidth⟩, camera, privacyEnabled⟩) (Advertised q a) := by
    intro descriptor hdescriptor
    refine ((yields_setStage _).bind fun _ _ => (yields_readCameraCapabilities a descriptor).bind
      fun camera _ => (yields_demand _ _).bind fun _ _ => (yields_readMicrophone a camera).bind
      fun microphone _ => (yields_attempt a.levels).bind fun _ _ => (yields_demand _ _).bind
      fun _ _ => (yields_attempt a.bandwidth).bind fun bandwidth _ => (yields_demand _ _).bind
      fun _ _ => (yields_setStage _).bind fun _ _ => (yields_attempt a.privacyEnabled).bind
      fun privacyEnabled _ => yields_pure _).congr fun c => ?_
    constructor
    · rintro ⟨-, -, camera, ⟨rfl, hclusters, hstream, htransport⟩, -, hadapter, microphone,
        hmicrophone, _, hlevels, -, hadvertised, bandwidth, hbandwidth, -, hnonzero, -, -, privacy,
        hprivacy, rfl⟩
      exact ⟨hq, hdescriptor, hclusters, hstream, htransport, hadapter, hmicrophone,
        hlevels, hadvertised, hbandwidth, hnonzero, hprivacy⟩
    · intro h
      have heq : c.camera.descriptor = descriptor :=
        Except.ok.inj (h.descriptor.symm.trans hdescriptor)
      exact ⟨(), trivial, c.camera, ⟨heq, heq ▸ h.cameraClusters, h.streamManagement,
        h.transportProvider⟩, (), h.adapter, _, h.microphone, (), h.levels, (),
        h.bandwidthAdvertised, _, h.bandwidth, (), h.bandwidthNonzero, (), trivial, _, h.privacy,
        rfl⟩
  have hunique : ∀ d d', a.readDescriptor q.endpoint = .ok d →
      a.readDescriptor q.endpoint = .ok d' → d = d' := fun d d' h h' =>
    Except.ok.inj (h.symm.trans h')
  refine ((yields_setStage _).andThen fun _ _ => (yields_demand _ _).andThen fun _ _ =>
    (yields_setStage _).andThen fun _ _ => (ends_answer (a.readDescriptor q.endpoint)).bindValue
      hunique fun descriptor hd => (hrest descriptor hd).ends).congr ?_ ?_
  · constructor
    · rintro ⟨-, -, -, -, -, -, -, -, c, hc⟩
      exact ⟨c, hc⟩
    · rintro ⟨c, hc⟩
      exact ⟨(), trivial, (), hq, (), trivial, _, hc.descriptor, c, hc⟩
  · simp only [and_false, exists_false, or_false, true_and, exists_const, hq,
      Answers.readDescriptor_fault_iff]

/-- What is read of the camera is one. -/
theorem Advertised.unique {q : Request} {a : Answers} {c c' : AudioCapabilities}
    (h : Advertised q a c) (h' : Advertised q a c') : c = c' := by
  obtain ⟨⟨microphone, bandwidth⟩, ⟨descriptor, stream, transport⟩, privacy⟩ := c
  obtain ⟨⟨microphone', bandwidth'⟩, ⟨descriptor', stream', transport'⟩, privacy'⟩ := c'
  obtain rfl := Except.ok.inj (h.descriptor.symm.trans h'.descriptor)
  obtain rfl := Except.ok.inj (h.streamManagement.symm.trans h'.streamManagement)
  obtain rfl := Except.ok.inj (h.transportProvider.symm.trans h'.transportProvider)
  obtain rfl := Except.ok.inj (h.bandwidth.symm.trans h'.bandwidth)
  obtain rfl := Except.ok.inj (h.privacy.symm.trans h'.privacy)
  have hguarded : Start.Guarded {} := fun _ hcheck => absurd hcheck List.not_mem_nil
  obtain rfl := (yields_readMicrophone a _).unique hguarded h.microphone h'.microphone
  rfl

/-- **A microphone that was made sure of** is there. -/
theorem microphone_of_listening {c : AudioCapabilities} (h : c.supportsListening = true) :
    c.microphone.isSome = true := by
  rw [AudioCapabilities.supportsListening, Bool.and_eq_true] at h
  cases hm : c.microphone with
  | none =>
    rw [hm] at h
    exact absurd h.2 Bool.false_ne_true
  | some microphone => rfl

/-- **What an audio needs**: where it is not absent, a microphone and the rest. -/
def AudioMet (a : Answers) (c : AudioCapabilities) (audio : MatterCameraStreamSelection) : Prop :=
  audio ≠ .absent → c.supportsListening = true ∧ c.privacyEnabled = false ∧
    ∃ usages, readUsages a.usages = .ok usages ∧ usages.contains liveViewUsage = true

theorem yields_requireAudio (a : Answers) (c : AudioCapabilities)
    (audio : MatterCameraStreamSelection) :
    Yields (requireAudio a c audio) (fun _ => AudioMet a c audio) := by
  unfold requireAudio AudioMet
  split
  · rename_i habsent
    exact (yields_pure ()).congr fun _ => ⟨fun _ hne => absurd habsent hne, fun _ => rfl⟩
  · rename_i hpresent
    refine (((yields_setStage _).bind fun _ _ => (yields_demand _ _).bind fun _ _ =>
      (yields_setStage _).bind fun _ _ => yields_demand _ _).bind fun _ _ =>
      (yields_setStage _).bind fun _ _ =>
      (yields_answer_of_ne (readUsages_ne_fault a.usages)).bind fun usages _ =>
      yields_demand _ _).congr fun _ => ?_
    simp only [true_and, exists_const, Bool.not_eq_true', hpresent, not_false_eq_true,
      forall_const, ne_eq, and_assoc]

/-- **What a video needs.** -/
theorem yields_requireVideo (c : AudioCapabilities) (video : MatterCameraStreamSelection) :
    Yields (requireVideo c video)
      (fun _ => video ≠ .absent → c.camera.supportsClientOffer = true) := by
  unfold requireVideo
  split
  · rename_i hmissing
    refine ((yields_setStage _).bind fun _ _ => (yields_demand false .notImplemented)).congr
      fun _ => ?_
    simp [hmissing.1, hmissing.2]
  · rename_i hmet
    refine (yields_pure ()).congr fun _ => ⟨fun _ hne => ?_, fun _ => rfl⟩
    exact Bool.not_eq_false _ ▸ fun hfalse => hmet ⟨hne, hfalse⟩

theorem yields_readCameraPrivacy (enabled : Except Exn Bool) :
    Yields (readCameraPrivacy enabled) (fun _ => enabled = .ok false) := by
  refine ((yields_attempt enabled).bind fun b _ => yields_demand _ _).congr fun _ => ?_
  constructor
  · rintro ⟨b, hb, hoff⟩
    rw [Bool.not_eq_true'] at hoff
    rw [hb, hoff]
  · exact fun h => ⟨false, h, rfl⟩

/-- The test of the flag that a cancellation stores. -/
theorem yields_notCanceled (canceled : Bool) :
    Yields (require (!canceled) (.throws .canceled)) (fun _ => canceled = false) := by
  refine (yields_require (A := (· ≠ Failure.fault)) Failure.noConfusion).congr fun _ => ?_
  rw [Bool.not_eq_true']

/-- **A video stream passes its check** in the list that is read. -/
def VideoPasses (read : AttributeRead) (id : UInt16) : Prop :=
  ∃ l, readVideo read = .ok l ∧ validateCameraSelectedVideo l id = .ok ()

/-- **The check of a video stream** is one of the list that is read. -/
theorem ends_checkVideo (read : AttributeRead) (id : UInt16) :
    Ends (checkVideo read id) (VideoPasses read id) (ReachesNullFlag read) fun _ => True := by
  refine ((ends_answer (readVideo read)).bindValue
    (fun l l' h h' => Except.ok.inj (h.symm.trans h')) fun l _ =>
    (yields_attempt (validateCameraSelectedVideo l id)).done).congr Iff.rfl ?_
  simp only [and_false, exists_false, or_false, readVideo_fault_iff]

/-- **An audio stream passes its check** in the list that is read, where there is a
microphone. -/
def AudioPasses (c : AudioCapabilities) (read : AttributeRead) (id : UInt16) : Prop :=
  ∃ l, readAudio read = .ok l ∧
    validateCameraSelectedAudio c.toMatterCameraAudioCapabilities l id = some (.ok ())

/-- With a microphone, the check of an audio stream does not fault. -/
theorem validateCameraSelectedAudio_ne_none {c : MatterCameraAudioCapabilities}
    (h : c.microphone.isSome = true) (streams : List MatterCameraAudioStream) (id : UInt16) :
    validateCameraSelectedAudio c streams id ≠ none := by
  obtain ⟨microphone, hm⟩ := Option.isSome_iff_exists.mp h
  unfold validateCameraSelectedAudio
  rw [hm]
  split
  · exact Option.some_ne_none _
  · split
    · exact Option.some_ne_none _
    · dsimp only
      split <;> exact Option.some_ne_none _

/-- Without a microphone, the check of an audio stream never passes. -/
theorem validateCameraSelectedAudio_ne_ok {c : MatterCameraAudioCapabilities}
    (h : c.microphone = none) (streams : List MatterCameraAudioStream) (id : UInt16) :
    validateCameraSelectedAudio c streams id ≠ some (.ok ()) := by
  unfold validateCameraSelectedAudio
  rw [h]
  split
  · simp
  · split
    · simp
    · dsimp only
      split <;> simp

/-- **The check of an audio stream goes wrong without a microphone**, whatever the stream. -/
theorem ends_validateAudio (c : AudioCapabilities) (l : List MatterCameraAudioStream)
    (id : UInt16) :
    Ends (validateAudio c l id)
      (validateCameraSelectedAudio c.toMatterCameraAudioCapabilities l id = some (.ok ()))
      (c.microphone = none) fun _ => True := by
  cases hm : c.microphone with
  | none =>
    -- it is noted, and what follows is a fault or an exception
    intro s _
    have hunguarded :
        ¬ Start.Guarded { s with audioChecks := s.audioChecks ++ [c.microphone.isSome] } := by
      intro hguarded
      exact absurd (hguarded false (by rw [hm]; simp)) Bool.false_ne_true
    unfold validateAudio
    cases hr : validateCameraSelectedAudio c.toMatterCameraAudioCapabilities l id with
    | none => exact ⟨(by rintro ⟨⟩), fun _ => rfl, fun _ => Or.inl rfl⟩
    | some r =>
      cases r with
      | ok u => exact absurd hr (validateCameraSelectedAudio_ne_ok hm l id)
      | error exn => exact ⟨(by rintro ⟨⟩), fun _ => rfl, fun _ => Or.inr hunguarded⟩
  | some microphone =>
    have hnote : Yields (modify fun s : Start =>
        { s with audioChecks := s.audioChecks ++ [c.microphone.isSome] }) (fun _ => True) := by
      refine yields_modify fun s hs check hcheck => ?_
      rcases List.mem_append.mp hcheck with hbefore | hlast
      · exact hs check hbefore
      · rw [List.mem_singleton.mp hlast, hm]
        rfl
    unfold validateAudio
    cases hr : validateCameraSelectedAudio c.toMatterCameraAudioCapabilities l id with
    | none => exact absurd hr (validateCameraSelectedAudio_ne_none (by rw [hm]; rfl) l id)
    | some r =>
      have hcheck : Yields (endCheck (some r)) (fun _ => r = .ok ()) := yields_attempt r
      refine (hnote.andThen fun _ _ => hcheck.done).congr ?_ ?_ <;> simp

/-- So does that of one in a list that is yet to be read, once it is. -/
theorem ends_checkAudio (c : AudioCapabilities) (read : AttributeRead) (id : UInt16) :
    Ends (checkAudio c read id) (AudioPasses c read id)
      (c.microphone = none ∧ ∃ l, readAudio read = .ok l) fun _ => True := by
  refine ((yields_answer_of_ne (readAudio_ne_fault read)).andThen fun l _ =>
    ends_validateAudio c l id).congr Iff.rfl ?_
  exact ⟨fun ⟨l, hl, hm⟩ => ⟨hm, l, hl⟩, fun ⟨hm, l, hl⟩ => ⟨l, hl, hm⟩⟩

/-- The check of a stream that is named, if it is. -/
theorem ends_checkNamed {check : UInt16 → Op Unit} {S B : UInt16 → Prop}
    {selection : MatterCameraStreamSelection}
    (h : ∀ id nonreserved, selection = .explicitId id nonreserved →
      Ends (check id) (S id) (B id) fun _ => True) :
    Ends (checkNamed check selection)
      (∀ id nonreserved, selection = .explicitId id nonreserved → S id)
      (∃ id nonreserved, selection = .explicitId id nonreserved ∧ B id) fun _ => True := by
  cases selection with
  | explicitId id nonreserved =>
    refine (h id nonreserved rfl).congr ⟨?_, fun hall => hall id nonreserved rfl⟩
      ⟨fun hb => ⟨id, nonreserved, rfl, hb⟩, ?_⟩
    · rintro hid _ _ ⟨⟩
      exact hid
    · rintro ⟨_, _, ⟨⟩, hb⟩
      exact hb
  | absent =>
    exact (settles_pure trivial).congr (iff_of_true trivial (by rintro _ _ ⟨⟩))
      (iff_of_false not_false (by rintro ⟨_, _, ⟨⟩, -⟩))
  | autoSelect =>
    exact (settles_pure trivial).congr (iff_of_true trivial (by rintro _ _ ⟨⟩))
      (iff_of_false not_false (by rintro ⟨_, _, ⟨⟩, -⟩))

/-- The check of a stream that the camera has selected, if it has. -/
theorem ends_checkSelected {check : UInt16 → Op Unit} {S B : UInt16 → Prop}
    (h : ∀ id, Ends (check id) (S id) (B id) fun _ => True) (selected : Option UInt16) :
    Ends (checkSelected check selected) (∀ id, selected = some id → S id)
      (∃ id, selected = some id ∧ B id) fun _ => True := by
  cases selected with
  | none =>
    exact (settles_pure trivial).congr (iff_of_true trivial (by rintro _ ⟨⟩))
      (iff_of_false not_false (by rintro ⟨_, ⟨⟩, -⟩))
  | some id =>
    refine (h id).congr ⟨?_, fun hall => hall id rfl⟩ ⟨fun hb => ⟨id, rfl, hb⟩, ?_⟩
    · rintro hid _ ⟨⟩
      exact hid
    · rintro ⟨_, ⟨⟩, hb⟩
      exact hb

/-! ## The function before the session -/

/-- **The camera is admitted**: it has what the two selections need, whichever stream is
named. -/
structure Admitted (a : Answers) (c : AudioCapabilities)
    (video audio : MatterCameraStreamSelection) : Prop where
  audioMet : AudioMet a c audio
  clientOffer : video ≠ .absent → c.camera.supportsClientOffer = true
  privacy : a.privacyBefore = .ok false
  readback : video ≠ .absent →
    c.camera.streamManagement.attributes.contains .allocatedVideoStreams = true

theorem yields_requireSelections (a : Answers) (c : AudioCapabilities)
    (video audio : MatterCameraStreamSelection) :
    Yields (requireSelections a c video audio) (fun _ => Admitted a c video audio) := by
  refine ((yields_requireAudio a c audio).bind fun _ _ =>
    (yields_requireVideo c video).bind fun _ _ => (yields_setStage _).bind fun _ _ =>
    (yields_readCameraPrivacy a.privacyBefore).bind fun _ _ => (yields_setStage _).bind fun _ _ =>
    yields_demand _ _).congr fun _ => ?_
  rw [Bool.or_eq_true, decide_eq_true_iff]
  constructor
  · rintro ⟨-, hmet, -, hoffer, -, -, -, hprivacy, -, -, hreadback⟩
    exact ⟨hmet, hoffer, hprivacy, fun hne => hreadback.resolve_left hne⟩
  · intro h
    exact ⟨(), h.audioMet, (), h.clientOffer, (), trivial, (), h.privacy, (), trivial,
      or_iff_not_imp_left.mpr h.readback⟩

/-- **The streams that are named pass**, and the start is not canceled. -/
structure NamedPass (a : Answers) (c : AudioCapabilities)
    (video audio : MatterCameraStreamSelection) : Prop where
  video : ∀ id h, video = .explicitId id h → VideoPasses a.videoStreams id
  audio : ∀ id h, audio = .explicitId id h → AudioPasses c a.audioStreams id
  notCanceled : a.canceledBefore = false

/-- A video stream is named, and its list comes upon a null. -/
def NamedNull (a : Answers) (video : MatterCameraStreamSelection) : Prop :=
  (∃ id h, video = .explicitId id h) ∧ ReachesNullFlag a.videoStreams

/-- **The checks of the streams that are named** are guarded, on a camera that is admitted. -/
theorem ends_checkNamedStreams {a : Answers} {c : AudioCapabilities}
    {video audio : MatterCameraStreamSelection} (h : Admitted a c video audio) :
    Ends (checkNamedStreams a c video audio) (NamedPass a c video audio) (NamedNull a video)
      fun _ => True := by
  -- an audio stream is only named where there is a microphone
  have hmicrophone : ∀ {id nonreserved}, audio = .explicitId id nonreserved →
      ((c.microphone = none ∧ ∃ l, readAudio a.audioStreams = .ok l) ↔ False) := by
    intro id nonreserved hnamed
    have hsome := microphone_of_listening (h.audioMet (by rw [hnamed]; rintro ⟨⟩)).1
    refine iff_false_intro fun hnone => ?_
    rw [hnone.1] at hsome
    cases hsome
  have haudio : Ends (checkNamed (checkAudio c a.audioStreams) audio) _ _ fun _ => True :=
    ends_checkNamed fun id _ hnamed =>
      (ends_checkAudio c a.audioStreams id).congr Iff.rfl (hmicrophone hnamed)
  refine ((ends_checkNamed fun id _ _ => ends_checkVideo a.videoStreams id).bind fun _ _ =>
    haudio.bind fun _ _ => (yields_notCanceled a.canceledBefore).done).congr ?_ ?_
  · exact ⟨fun ⟨hvideo, haudio, hcanceled⟩ => ⟨hvideo, haudio, hcanceled⟩,
      fun ⟨hvideo, haudio, hcanceled⟩ => ⟨hvideo, haudio, hcanceled⟩⟩
  · simp only [and_false, exists_false, or_false]
    exact ⟨fun ⟨id, hn, hid, hnull⟩ => ⟨⟨id, hn, hid⟩, hnull⟩,
      fun ⟨⟨id, hn, hid⟩, hnull⟩ => ⟨id, hn, hid, hnull⟩⟩

/-- **Everything passes before the session is started**: the parameters, and what the two
selections need of the camera that is read. -/
structure Prepared (q : Request) (a : Answers) (c : AudioCapabilities)
    (video audio : MatterCameraStreamSelection) : Prop where
  parameters : q.check = .ok (video, audio)
  signaling : a.ensureCameraSignalingEnabled = .ok ()
  advertised : Advertised q a c
  admitted : Admitted a c video audio
  named : NamedPass a c video audio

/-- **A null is reached before the session is started**: a device type of the descriptor is
null, or a flag in the list that is read for a video stream that is named. -/
inductive NullBefore (q : Request) (a : Answers) : Prop
  | descriptor {video audio : MatterCameraStreamSelection}
      (parameters : q.check = .ok (video, audio))
      (signaling : a.ensureCameraSignalingEnabled = .ok ()) (h : a.ReachesNullType)
  | videoNamed {c : AudioCapabilities} {video audio : MatterCameraStreamSelection}
      (parameters : q.check = .ok (video, audio))
      (signaling : a.ensureCameraSignalingEnabled = .ok ()) (advertised : Advertised q a c)
      (admitted : Admitted a c video audio) (h : NamedNull a video)

/-- Parameters that pass have a valid node and endpoint. -/
theorem Request.operational_of_check {q : Request}
    {selections : MatterCameraStreamSelection × MatterCameraStreamSelection}
    (h : q.check = .ok selections) :
    (isOperationalNodeId q.node && q.endpoint != invalidEndpointId) = true := by
  unfold Request.check at h
  split at h
  · split at h
    · cases h
    · rename_i hvalid
      simp only [Bool.or_eq_true, not_or, Bool.not_eq_true', Bool.not_eq_false,
        beq_iff_eq] at hvalid
      rw [Bool.and_eq_true, bne_iff_ne]
      exact ⟨hvalid.1.1.1.1.1, hvalid.1.1.1.1.2⟩
  · cases h

/-- **The function before the session** goes on exactly where everything passes, and goes wrong
where a null is reached. -/
theorem ends_prepare (q : Request) (a : Answers) :
    Ends (prepare q a) (∃ c video audio, Prepared q a c video audio) (NullBefore q a)
      (fun c => ∃ video audio, Prepared q a c video audio) := by
  have hread : ∀ selections, q.check = .ok selections →
      Ends (readCameraAudioCapabilities q a) (∃ c, Advertised q a c) a.ReachesNullType
        (Advertised q a) := fun _ hq =>
    ends_readCameraAudioCapabilities a (q.operational_of_check hq)
  refine ((yields_setStage _).andThen fun _ _ =>
    (yields_attempt q.check).andThen fun selections hparameters =>
    (yields_attempt a.ensureCameraSignalingEnabled).andThen fun _ hsignaling =>
    (hread selections hparameters).bindValue (fun _ _ => Advertised.unique) fun c hadvertised =>
    (yields_requireSelections a c selections.1 selections.2).andThen fun _ hadmitted =>
    (ends_checkNamedStreams hadmitted).bindKnown fun _ hnamed _ => settles_pure
      ⟨selections.1, selections.2, hparameters, hsignaling, hadvertised, hadmitted, hnamed⟩).congr
      ?_ ?_
  · constructor
    · rintro ⟨-, -, ⟨video, audio⟩, hparameters, _, hsignaling, c, hadvertised, _, hadmitted,
        hnamed, -⟩
      exact ⟨c, video, audio, hparameters, hsignaling, hadvertised, hadmitted, hnamed⟩
    · rintro ⟨c, video, audio, h⟩
      exact ⟨(), trivial, (video, audio), h.parameters, (), h.signaling, c, h.advertised, (),
        h.admitted, h.named, trivial⟩
  · constructor
    · rintro ⟨-, -, ⟨video, audio⟩, hparameters, _, hsignaling, hnull | ⟨c, hadvertised, _,
        hadmitted, hnull | ⟨-, ⟨⟩⟩⟩⟩
      · exact .descriptor hparameters hsignaling hnull
      · exact .videoNamed hparameters hsignaling hadvertised hadmitted hnull
    · rintro (⟨hparameters, hsignaling, hnull⟩ | ⟨hparameters, hsignaling, hadvertised, hadmitted,
        hnull⟩)
      · exact ⟨(), trivial, _, hparameters, (), hsignaling, Or.inl hnull⟩
      · exact ⟨(), trivial, _, hparameters, (), hsignaling, Or.inr ⟨_, hadvertised, (), hadmitted,
          Or.inl hnull⟩⟩

/-! ## The session that was started -/

/-- **A part ends properly** from a state: it returns or throws, does not fault, and has
checked no audio without a microphone. -/
def EndsProperly {α : Type} (x : Op α) (s : Start) : Prop :=
  match x s with
  | .ok _ t => t.Guarded
  | .error e t => e ≠ .fault ∧ t.Guarded

/-- So does a part that goes wrong in no state. -/
theorem Ends.properly_iff {α : Type} {x : Op α} {S B : Prop} {R : α → Prop}
    (hx : Ends x S B R) {s : Start} (hs : s.Guarded) : EndsProperly x s ↔ ¬ B := by
  have h := hx s hs
  unfold EndsProperly
  cases hr : x s with
  | ok a t =>
    rw [hr] at h
    exact iff_of_true h.2.2.2 h.2.1
  | error e t =>
    rw [hr] at h
    rw [← h.2]
    exact ⟨fun hends => not_improper e t hends.1 hends.2, fun hnot =>
      ⟨fun he => hnot (Or.inl he), not_not.mp fun ht => hnot (Or.inr ht)⟩⟩

/-- The error handler throws, and checks no audio. -/
theorem rollback_throws (a : Answers) (exn : Exn) (s : Start) :
    ∃ exn' t, rollback a (.throws exn) s = .error (.throws exn') t ∧
      t.audioChecks = s.audioChecks := by
  unfold rollback
  cases hrelease : a.release with
  | ok u => exact ⟨_, _, rfl, rfl⟩
  | error e => exact ⟨_, _, rfl, rfl⟩

/-- **The error handler changes nothing** about how a part ends. -/
theorem ends_rollback (a : Answers) {x : Op UInt64} {S B : Prop} {R : UInt64 → Prop}
    (hx : Ends x S B R) : Ends (tryCatch x (rollback a)) S B R := by
  have hrun : ∀ s, (tryCatch x (rollback a) : Op UInt64) s = match x s with
      | .ok handle t => .ok handle t
      | .error e t => rollback a e t := by
    intro s
    show EStateM.tryCatch x (rollback a) s = _
    unfold EStateM.tryCatch
    cases x s <;> rfl
  intro s hs
  have h := hx s hs
  rw [hrun s]
  cases hr : x s with
  | ok handle t =>
    rw [hr] at h
    exact h
  | error e t =>
    rw [hr] at h
    cases e with
    | fault => exact h
    | throws exn =>
      obtain ⟨exn', u, hu, hchecks⟩ := rollback_throws a exn t
      dsimp only
      rw [hu]
      refine ⟨h.1, Iff.trans ?_ h.2⟩
      unfold Improper Start.Guarded
      rw [hchecks]
      simp

/-- **The check of an audio stream is reached**: the session has one, the list is read, and
the video stream it has, if any, passes before. -/
def AudioReached (a : Answers) : Prop :=
  ∃ video id l, a.selected = .ok (video, some id) ∧
    (∀ id', video = some id' → VideoPasses a.videoStreamsAfter id') ∧
    readAudio a.audioStreamsAfter = .ok l

/-- The session has a video stream, and its list comes upon a null. -/
def SelectedNull (a : Answers) : Prop :=
  (∃ id audio, a.selected = .ok (some id, audio)) ∧ ReachesNullFlag a.videoStreamsAfter

/-- **The checks of a session go wrong** where its video stream is looked for in a list with a
null, or its audio stream is checked without a microphone. -/
theorem ends_confirm (a : Answers) (c : AudioCapabilities) (handle : UInt64) :
    ∃ S, Ends (confirm a c handle) S (SelectedNull a ∨ c.microphone = none ∧ AudioReached a)
      fun _ => True := by
  have hrecord : Yields (modify fun s : Start => { s with recorded := some handle })
      (fun _ => True) := yields_modify fun _ hs => hs
  have hrest : Yields (do
      setStage .privacy
      readCameraPrivacy a.privacyAfter
      require (!a.canceledAfter) (.throws .canceled)
      pure handle) _ :=
    (yields_setStage _).bind fun _ _ => (yields_readCameraPrivacy a.privacyAfter).bind fun _ _ =>
      (yields_notCanceled a.canceledAfter).bind fun _ _ => yields_pure handle
  refine ⟨_, (hrecord.andThen fun _ _ => (yields_setStage .streamSelection).andThen fun _ _ =>
    (yields_attempt a.selected).andThen fun selected _ =>
    (ends_checkSelected (ends_checkVideo a.videoStreamsAfter) selected.1).bind fun _ _ =>
    (ends_checkSelected (ends_checkAudio c a.audioStreamsAfter) selected.2).bind fun _ _ =>
    hrest.ends.mono (fun _ hs => hs) (fun _ _ => trivial) fun _ hs => hs).congr Iff.rfl ?_⟩
  constructor
  · rintro ⟨-, -, -, -, ⟨video, audio⟩, hselected, ⟨id, hid, hnull⟩ |
      ⟨hvideo, ⟨id, hid, hm, l, hl⟩ | ⟨-, ⟨⟩⟩⟩⟩
    · obtain rfl : video = some id := hid
      exact Or.inl ⟨⟨id, audio, hselected⟩, hnull⟩
    · obtain rfl : audio = some id := hid
      exact Or.inr ⟨hm, video, id, l, hselected, hvideo, hl⟩
  · rintro (⟨⟨id, audio, hselected⟩, hnull⟩ | ⟨hm, video, id, l, hselected, hvideo, hl⟩)
    · exact ⟨(), trivial, (), trivial, _, hselected, Or.inl ⟨id, rfl, hnull⟩⟩
    · exact ⟨(), trivial, (), trivial, _, hselected,
        Or.inr ⟨hvideo, Or.inl ⟨id, rfl, hm, l, hl⟩⟩⟩

/-- **An audio stream is checked without a microphone**: the audio is absent and everything
passes before the session, the camera has no microphone, the session is started, and the
check of an audio stream is reached. -/
def Unguarded (q : Request) (a : Answers) : Prop :=
  ∃ c video, Prepared q a c video .absent ∧ c.microphone = none ∧
    (∃ handle, a.startCamera = .ok handle) ∧ AudioReached a

/-- **A null is reached**: before the session is started, or in the list that is read for the
video stream of a session. -/
def NullReached (q : Request) (a : Answers) : Prop :=
  NullBefore q a ∨ ∃ c video audio, Prepared q a c video audio ∧
    (∃ handle, a.startCamera = .ok handle) ∧ SelectedNull a

/-- Without a microphone, nothing but an absent audio is let pass. -/
theorem Prepared.absent {q : Request} {a : Answers} {c : AudioCapabilities}
    {video audio : MatterCameraStreamSelection} (h : Prepared q a c video audio)
    (hm : c.microphone = none) : audio = .absent := by
  by_contra hne
  have hsome := microphone_of_listening (h.admitted.audioMet hne).1
  rw [hm] at hsome
  exact absurd hsome Bool.false_ne_true

/-- **The start of a session ends in a session or an exception, and asks no microphone that
is not there**, unless the camera has none, was to send no audio, and has an audio stream
for the session all the same; or a null is reached in what is read of it. -/
theorem endsProperly_iff (q : Request) (a : Answers) :
    EndsProperly (startPreparedCameraSession q a) {} ↔ ¬ (Unguarded q a ∨ NullReached q a) := by
  have hstart : Start.Guarded {} := fun _ h => absurd h List.not_mem_nil
  have hunique : ∀ c c', (∃ video audio, Prepared q a c video audio) →
      (∃ video audio, Prepared q a c' video audio) → c = c' :=
    fun _ _ ⟨_, _, h⟩ ⟨_, _, h'⟩ => h.advertised.unique h'.advertised
  choose S hconfirm using ends_confirm a
  have hrun : Ends (startPreparedCameraSession q a) _ _ fun _ => True :=
    (ends_prepare q a).bindValue hunique fun c _ => (yields_setStage .signaling).andThen fun _ _ =>
      (yields_attempt a.startCamera).andThen fun handle _ => ends_rollback a (hconfirm c handle)
  rw [hrun.properly_iff hstart, not_iff_not]
  constructor
  · rintro (hnull | ⟨c, ⟨video, audio, hprepared⟩, -, -, handle, hhandle,
      hnull | ⟨hm, hreached⟩⟩)
    · exact Or.inr (Or.inl hnull)
    · exact Or.inr (Or.inr ⟨c, video, audio, hprepared, ⟨handle, hhandle⟩, hnull⟩)
    · obtain rfl := hprepared.absent hm
      exact Or.inl ⟨c, video, hprepared, hm, ⟨handle, hhandle⟩, hreached⟩
  · rintro (⟨c, video, hprepared, hm, ⟨handle, hhandle⟩, hreached⟩ | hnull |
      ⟨c, video, audio, hprepared, ⟨handle, hhandle⟩, hnull⟩)
    · exact Or.inr ⟨c, ⟨video, .absent, hprepared⟩, (), trivial, handle, hhandle,
        Or.inr ⟨hm, hreached⟩⟩
    · exact Or.inl hnull
    · exact Or.inr ⟨c, ⟨video, audio, hprepared⟩, (), trivial, handle, hhandle, Or.inl hnull⟩

/-- A start for the video that the camera selects, and no audio. -/
def videoOnly : Request := ⟨1, 1, some .autoSelect, some .absent, [0x76]⟩

/-- A list of numbers, as an attribute has it. -/
def numberList (numbers : List UInt64) : { value : Inspectable // Decoded value } :=
  ⟨.vector (numbers.map fun n => .value (.uint64 n)), .vector fun i hi => by
    obtain ⟨n, -, rfl⟩ := List.mem_map.mp hi
    exact .uint64 n⟩

/-- A list with one entry, whose fields are numbers. -/
def numberedEntry (fields : List (UInt8 × UInt64))
    (nodup : (fields.map fun e => fieldKey e.1.toNat).Nodup) :
    { value : Inspectable // Decoded value } :=
  ⟨.vector [.propertySet
    ((fields.map fun e => (e.1, .value (.uint64 e.2))).map fun e => (fieldKey e.1.toNat, e.2))], by
    refine .vector fun i hi => ?_
    rw [List.mem_singleton.mp hi]
    refine Decoded.numbered (by rwa [List.map_map]) fun e he => ?_
    obtain ⟨field, -, rfl⟩ := List.mem_map.mp he
    exact .uint64 field.2⟩

/-- A camera without a microphone that has an audio stream for the session. -/
def silentCamera : Answers where
  descriptor
    | .partsList => .ok (numberList [])
    | .serverList => .ok (numberList [0x0551, 0x0553])
    | .clientList => .ok (numberList [0x0554])
    | .deviceTypeList => .ok (numberedEntry [(0, 0x0142), (1, 2)] (by decide))
  streamManagement := .ok ⟨2, [.video], [.maxNetworkBandwidth, .allocatedVideoStreams], [], []⟩
  transportProvider := .ok ⟨2, [], [], [.provideOffer, .provideIceCandidates, .endSession],
    [.provideOfferResponse]⟩
  microphone := .error (.hresult .fail)
  bandwidth := .ok 1000000
  usages := .ok (numberList [])
  videoStreams := .ok (numberList [])
  audioStreams := .ok (numberList [])
  startCamera := .ok 1
  selected := .ok (none, some 7)
  videoStreamsAfter := .ok (numberList [])
  audioStreamsAfter := .ok (numberedEntry
    [(0, 7), (1, 3), (2, 0), (3, 1), (4, 48000), (5, 64000), (6, 16), (7, 1)] (by decide))

/-- **The start of a session on it is a fault of the process.** -/
theorem silentCamera_faults :
    ∃ t, startPreparedCameraSession videoOnly silentCamera {} = .error .fault t ∧
      t.audioChecks = [false] ∧
      ¬ EndsProperly (startPreparedCameraSession videoOnly silentCamera) {} :=
  ⟨_, rfl, rfl, fun h => h.1 rfl⟩

end CameraSelections
