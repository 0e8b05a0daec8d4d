import MatterController.CameraFailures
import MatterController.CameraSelections
import MatterController.CameraStreams
import MatterController.Scalars

/-!
# Reading what a camera offers for audio

`ReadCameraAudioCapabilities` reads the descriptor of an endpoint, what its two camera
clusters say of themselves, and those attributes of the stream management that they
advertise: the formats of the microphone and of the speaker, their mute states and volumes,
the bandwidth and the privacy flags. Each value is what the device chose to send, and goes
through one of the helpers: a list through `DescriptorNumericList`, a number through
`DescriptorUnsigned` or `CameraStreamField`, a flag through `PropertySetScalar`.

This is the function with all of its reads. A device answers each of them with a value or an
exception (`Device`), and the state of the function has the stage and, to speak about it, the
attributes that were read. `Device.Sound` says of an attribute that its value can be used.
The numbers of the attributes and of the features belong to the SDK, and are parameters.
-/

namespace CameraAudioReads

open Effects

/-! ## Devices -/

/-- The two clusters of a camera. -/
inductive CameraCluster
  | streamManagement
  | transportProvider
  deriving DecidableEq, Repr

/-- The attributes that every cluster has (`Globals::Attributes`). -/
inductive GlobalAttribute
  | clusterRevision
  | featureMap
  | attributeList
  | acceptedCommandList
  | generatedCommandList
  deriving DecidableEq, Repr

/-- The attributes of the stream management that are read. -/
inductive StreamAttribute
  | microphoneCapabilities
  | speakerCapabilities
  | microphoneMuted
  | microphoneVolumeLevel
  | microphoneMinLevel
  | microphoneMaxLevel
  | twoWayTalkSupport
  | speakerMuted
  | speakerVolumeLevel
  | speakerMinLevel
  | speakerMaxLevel
  | maxNetworkBandwidth
  | hardPrivacyModeOn
  | softLivestreamPrivacyModeEnabled
  deriving DecidableEq, Repr

/-- **What is read of an endpoint.** -/
inductive Path
  | descriptor (a : DescriptorAttribute)
  | global (cluster : CameraCluster) (a : GlobalAttribute)
  | stream (a : StreamAttribute)
  deriving DecidableEq, Repr

/-- **A device**: every read of it is answered by a decoded value or an exception. -/
structure Device where
  read : Path → Except Exn Inspectable
  decoded : ∀ p v, read p = .ok v → Decoded v

/-- **The numbers of the SDK**: those of the attributes, and the bits of the features. -/
structure StreamManagement where
  id : StreamAttribute → UInt32
  audio : UInt32
  speaker : UInt32

/-- What the function has come to: the stage it reports, and the reads it has made. -/
structure Progress where
  stage : CameraStage
  reads : List Path
  deriving DecidableEq, Repr

/-- A part of the function. It may end in a fault of the process. -/
abbrev Op := EStateM Failure Progress

/-- Sets the stage. -/
def setStage (stage : CameraStage) : Op Unit := modify fun s => { s with stage := stage }

/-- Throws a result code unless a test is passed. -/
def demand (test : Bool) (code : HResult) : Op Unit := require test (.code code)

/-- **`ReadAttribute`**, which gives the root of the value. -/
def readAttribute (d : Device) (p : Path) : Op PropertySet := do
  modify fun s => { s with reads := s.reads ++ [p] }
  let value ← answer ((d.read p).mapError .throws)
  pure (decodedRoot value)

/-- What a helper makes of an attribute. -/
def readAs {α : Type} (d : Device) (p : Path)
    (project : Option PropertySet → Except Failure α) : Op α := do
  let data ← readAttribute d p
  answer (project (some data))

/-- `CameraAdvertises`. -/
def cameraAdvertises (values : List UInt32) (value : UInt32) : Bool := values.contains value

/-! ## The descriptor and the clusters -/

/-- `ReadEndpointDescriptor`. -/
def readDescriptor (d : Device) (endpointId : UInt16) : Op MatterEndpointDescriptor := do
  let parts ← readAs d (.descriptor .partsList) descriptorNumericList
  let servers ← readAs d (.descriptor .serverList) descriptorNumericList
  let clients ← readAs d (.descriptor .clientList) descriptorNumericList
  let types ← readAs d (.descriptor .deviceTypeList) fun data => do
    let list ← descriptorList data
    list.mapM readDeviceType
  pure ⟨endpointId, parts, servers, clients, types⟩

/-- The answer of the device to a read, by itself. -/
def Device.root (d : Device) (p : Path) : Except Failure (Option PropertySet) := do
  let value ← (d.read p).mapError .throws
  .ok (some (decodedRoot value))

/-- The read of an attribute comes to its answer. -/
theorem readAttribute_computes (d : Device) (p : Path) :
    Computes Progress.stage (readAttribute d p)
      (((d.read p).mapError .throws).map decodedRoot) := by
  have hnote : Computes Progress.stage
      (modify fun s => { s with reads := s.reads ++ [p] } : Op Unit) (.ok ()) :=
    computes_modify fun _ => rfl
  have hrun : Computes Progress.stage (readAttribute d p) _ :=
    hnote.bind fun _ => (computes_answer _).bind fun value => computes_pure (decodedRoot value)
  cases hread : d.read p with
  | ok value =>
    rw [hread] at hrun
    exact hrun
  | error e =>
    rw [hread] at hrun
    exact hrun

/-- A helper makes of an answer what it makes of it by itself. -/
theorem readAs_computes {α : Type} (d : Device) (p : Path)
    (project : Option PropertySet → Except Failure α) :
    Computes Progress.stage (readAs d p project) (d.root p >>= project) := by
  have hrun : Computes Progress.stage (readAs d p project) _ :=
    (readAttribute_computes d p).bind fun data => computes_answer (project (some data))
  unfold Device.root
  cases hread : d.read p with
  | ok value =>
    rw [hread] at hrun
    exact hrun
  | error e =>
    rw [hread] at hrun
    exact hrun

/-- **The descriptor is read as it is by itself.** -/
theorem readDescriptor_computes (d : Device) (endpointId : UInt16) :
    Computes Progress.stage (readDescriptor d endpointId)
      (readEndpointDescriptor (fun a => d.root (.descriptor a)) endpointId) := by
  have hread : readEndpointDescriptor (fun a => d.root (.descriptor a)) endpointId = (do
      let parts ← d.root (.descriptor .partsList) >>= descriptorNumericList
      let servers ← d.root (.descriptor .serverList) >>= descriptorNumericList
      let clients ← d.root (.descriptor .clientList) >>= descriptorNumericList
      let types ← d.root (.descriptor .deviceTypeList) >>= fun data => do
        let list ← descriptorList data
        list.mapM readDeviceType
      .ok ⟨endpointId, parts, servers, clients, types⟩) := by
    simp only [bind_assoc]
    rfl
  rw [hread]
  exact (readAs_computes d _ _).bind fun _ => (readAs_computes d _ _).bind fun _ =>
    (readAs_computes d _ _).bind fun _ => (readAs_computes d _ _).bind fun _ => computes_pure _

/-- `MatterCameraClusterCapabilities`, as it is read: by numbers. -/
structure ClusterCapabilities where
  revision : UInt16
  featureMap : UInt32
  attributes : List UInt32
  acceptedCommands : List UInt32
  generatedCommands : List UInt32
  deriving DecidableEq, Repr

/-- The arguments of the constructor of `MatterCameraClusterCapabilities`, and its check. -/
def clusterCapabilities (revision features : PropertySet)
    (attributes accepted generated : List UInt32) : Except Failure ClusterCapabilities := do
  let revision ← descriptorUnsigned (← revision.lookup valueKey)
  let features ← descriptorUnsigned (← features.lookup valueKey)
  if revision = 0 then .error (.code .bounds)
  else .ok ⟨revision, features, attributes, accepted, generated⟩

/-- **`ReadCameraClusterCapabilities`**: two of the values are read before the others and
projected after them. -/
def readCameraClusterCapabilities (d : Device) (cluster : CameraCluster) :
    Op ClusterCapabilities := do
  let revision ← readAttribute d (.global cluster .clusterRevision)
  let features ← readAttribute d (.global cluster .featureMap)
  let attributes ← readAs d (.global cluster .attributeList) descriptorNumericList
  let accepted ← readAs d (.global cluster .acceptedCommandList) descriptorNumericList
  let generated ← readAs d (.global cluster .generatedCommandList) descriptorNumericList
  answer (clusterCapabilities revision features attributes accepted generated)

/-- `MatterCameraCapabilities`, as it is read. -/
structure Capabilities where
  descriptor : MatterEndpointDescriptor
  streamManagement : ClusterCapabilities
  transportProvider : ClusterCapabilities
  deriving DecidableEq, Repr

/-- `ReadCameraCapabilities`. -/
def readCameraCapabilities (d : Device) (descriptor : MatterEndpointDescriptor) :
    Op Capabilities := do
  demand descriptor.hasCameraClusters .notImplemented
  let stream ← readCameraClusterCapabilities d .streamManagement
  let transport ← readCameraClusterCapabilities d .transportProvider
  pure ⟨descriptor, stream, transport⟩

/-- `IsCameraAudioAdapter`. -/
def Capabilities.isCameraAudioAdapter (c : Capabilities) : Bool :=
  (c.descriptor.deviceTypes.any fun type => type.deviceType == 0x0142 && type.revision ≤ 2) &&
    c.descriptor.hasCameraClusters &&
    cameraAdvertises c.descriptor.clientList webRtcTransportRequestorId &&
    c.streamManagement.revision == 2 && c.transportProvider.revision == 2

/-- A feature and the attribute with its formats are both advertised. -/
def ClusterCapabilities.offers (c : ClusterCapabilities) (feature formats : UInt32) : Bool :=
  c.featureMap &&& feature != 0 && cameraAdvertises c.attributes formats

/-! ## The attributes of the stream management -/

/-- A list under a key of a structure, in the constructor of the formats. -/
def formatList {α : Type} [ProjectedUnsigned α] (fields : PropertySet) (key : HString) :
    Except Failure (List α) :=
  if !fields.hasKey key then .error (.code .bounds)
  else do
    let value ← fields.lookup key
    descriptorNumericList (some [(valueKey, value)])

/-- **The constructor of `MatterCameraAudioFormatCapabilities`.** Its callers throw what it
throws with the same code, and the name of the attribute in the message. -/
def audioFormatCapabilities (fields : Option PropertySet) :
    Except Failure MatterCameraAudioFormatCapabilities := do
  let channels ← cameraStreamField fields (fieldKey 0)
  let fields ← call fields
  let codecs ← formatList fields (fieldKey 1)
  let rates ← formatList fields (fieldKey 2)
  let depths ← formatList fields (fieldKey 3)
  .ok ⟨channels, codecs, rates, depths⟩

/-- What is read where it is advertised. -/
def whenAdvertised {α : Type} (advertised : Bool) (x : Op α) : Op (Option α) :=
  if advertised then do
    let value ← x
    pure (some value)
  else pure none

/-- What is read where there are formats. -/
def whenPresent {α β : Type} (formats : Option β) (x : Op α) (absent : α) : Op α :=
  if formats.isSome then x else pure absent

/-- **The controls of a microphone or a speaker.** -/
structure AudioControls where
  muted : Option Bool := none
  volume : Option UInt8 := none
  minimum : Option UInt8 := none
  maximum : Option UInt8 := none
  deriving DecidableEq, Repr

/-- The controls of a speaker, and the talk support. -/
structure SpeakerControls extends AudioControls where
  twoWayTalk : Option UInt8 := none
  deriving DecidableEq, Repr

/-- `MatterCameraAudioCapabilities`, as it is read. -/
structure AudioCapabilities where
  camera : Capabilities
  microphone : Option MatterCameraAudioFormatCapabilities
  speaker : Option MatterCameraAudioFormatCapabilities
  microphoneControls : AudioControls
  speakerControls : SpeakerControls
  bandwidth : UInt32
  privacy : Bool
  deriving DecidableEq, Repr

section Attributes

variable (d : Device) (sdk : StreamManagement) (attributes : List UInt32)

/-- The number of an attribute, where it is advertised (the lambda `number`). -/
def readNumber (a : StreamAttribute) : Op (Option UInt8) :=
  whenAdvertised (cameraAdvertises attributes (sdk.id a)) <|
    readAs d (.stream a) fun data => cameraStreamField data valueKey

/-- The flag of an attribute, where it is advertised (the lambda `boolean`). -/
def readBoolean (a : StreamAttribute) : Op (Option Bool) :=
  whenAdvertised (cameraAdvertises attributes (sdk.id a)) <|
    readAs d (.stream a) propertySetBoolean

/-- The controls behind four attributes, in the order in which they are read. -/
def readControls (muted volume minimum maximum : StreamAttribute) : Op AudioControls := do
  let muted ← readBoolean d sdk attributes muted
  let volume ← readNumber d sdk attributes volume
  let minimum ← readNumber d sdk attributes minimum
  let maximum ← readNumber d sdk attributes maximum
  pure ⟨muted, volume, minimum, maximum⟩

/-- The controls of the microphone. -/
def readMicrophoneControls : Op AudioControls :=
  readControls d sdk attributes .microphoneMuted .microphoneVolumeLevel .microphoneMinLevel
    .microphoneMaxLevel

/-- The talk support, and the controls of the speaker. -/
def readSpeakerControls : Op SpeakerControls := do
  let twoWayTalk ← readNumber d sdk attributes .twoWayTalkSupport
  let controls ← readControls d sdk attributes .speakerMuted .speakerVolumeLevel .speakerMinLevel
    .speakerMaxLevel
  pure { controls with twoWayTalk }

/-- The loop of `CameraPrivacyEnabled`: it ends with the first flag that is set. -/
def privacyEnabledIn : List StreamAttribute → Op Bool
  | [] => pure false
  | a :: rest =>
    if cameraAdvertises attributes (sdk.id a) then do
      let enabled ← readAs d (.stream a) propertySetBoolean
      if enabled then pure true else privacyEnabledIn rest
    else privacyEnabledIn rest

/-- **`CameraPrivacyEnabled`**. -/
def cameraPrivacyEnabled : Op Bool :=
  privacyEnabledIn d sdk attributes [.hardPrivacyModeOn, .softLivestreamPrivacyModeEnabled]

end Attributes

/-- The bandwidth, which is required, and its check. -/
def readBandwidth (d : Device) (sdk : StreamManagement) (attributes : List UInt32) :
    Op UInt32 := do
  demand (cameraAdvertises attributes (sdk.id .maxNetworkBandwidth)) .notImplemented
  readAs d (.stream .maxNetworkBandwidth) fun data => do
    let bandwidth ← cameraStreamField data valueKey
    if bandwidth = 0 then .error (.code .bounds) else .ok bandwidth

/-- The last of the attributes, of which the flags are read at a stage of their own. -/
def readBandwidthAndPrivacy (d : Device) (sdk : StreamManagement) (attributes : List UInt32) :
    Op (UInt32 × Bool) := do
  let bandwidth ← readBandwidth d sdk attributes
  setStage .privacy
  let privacy ← cameraPrivacyEnabled d sdk attributes
  pure (bandwidth, privacy)

/-- `ReadCameraAudioCapabilities`, after the camera has been read. -/
def readAudioAttributes (d : Device) (sdk : StreamManagement) (camera : Capabilities) :
    Op AudioCapabilities := do
  let attributes := camera.streamManagement.attributes
  let microphone ← whenAdvertised
    (camera.streamManagement.offers sdk.audio (sdk.id .microphoneCapabilities))
    (readAs d (.stream .microphoneCapabilities) audioFormatCapabilities)
  let speaker ← whenAdvertised
    (camera.streamManagement.offers sdk.speaker (sdk.id .speakerCapabilities))
    (readAs d (.stream .speakerCapabilities) audioFormatCapabilities)
  let microphoneControls ← whenPresent microphone (readMicrophoneControls d sdk attributes) {}
  let speakerControls ← whenPresent speaker (readSpeakerControls d sdk attributes) {}
  let last ← readBandwidthAndPrivacy d sdk attributes
  pure ⟨camera, microphone, speaker, microphoneControls, speakerControls, last.1, last.2⟩

/-- **`ReadCameraAudioCapabilities`**. -/
def readCameraAudioCapabilities (d : Device) (sdk : StreamManagement) (node : UInt64)
    (endpoint : UInt16) : Op AudioCapabilities := do
  setStage .validation
  demand (isOperationalNodeId node && endpoint != invalidEndpointId) .invalidArgument
  setStage .descriptor
  let descriptor ← readDescriptor d endpoint
  setStage .capabilities
  let camera ← readCameraCapabilities d descriptor
  demand camera.isCameraAudioAdapter .notImplemented
  readAudioAttributes d sdk camera

end CameraAudioReads
