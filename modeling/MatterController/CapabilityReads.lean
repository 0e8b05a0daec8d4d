import MatterController.AllocationStages
import MatterController.AttributeValues

/-!
# The capabilities that are read, in fewer answers

`ReadCameraAudioCapabilities` is part of three programs here. `MatterController.CameraAudioReads`
has it with all of its reads. The start of a session (`MatterController.CameraSelections`) has it
with an answer for each cluster, for the microphone and for what is read of the levels; the
allocation of an audio stream (`MatterController.AllocationStages`) with one answer for the
descriptor, one for the capabilities and one for the privacy mode.

The fewer answers are those of a device. Of every device there are answers with which the start
does what the function with all its reads does: it returns the same, by name what the other has
by number, throws the same, faults where it does, and leaves the same stage
(`selections_readCameraAudioCapabilities`). So there are for an allocation, which has no fault
(`stages_readCameraAudioCapabilities`). What the answers put together only reads: it keeps the
stage, and does not fault.
-/

namespace CameraAudioReads

open Effects Except

/-! ## Parts that only read -/

section OnlyReads

variable {α β : Type} {d : Device}

/-- **A part only reads**: it has one result, whatever was read before, keeps the stage, and
does not fault. -/
def OnlyReads (x : Op α) : Prop :=
  ∃ r, Computes Progress.stage x r ∧ Throws (· ≠ .fault) r

/-- An answer is read, and is no fault. -/
theorem onlyReads_answer {r : Except Failure α} (h : Throws (· ≠ .fault) r) :
    OnlyReads (answer r) :=
  ⟨r, computes_answer r, h⟩

theorem onlyReads_pure (a : α) : OnlyReads (pure a) := onlyReads_answer (throws_ok a)

/-- One part after the other. -/
theorem OnlyReads.bind {x : Op β} {f : β → Op α} (hx : OnlyReads x) (hf : ∀ b, OnlyReads (f b)) :
    OnlyReads (x >>= f) := by
  obtain ⟨r, hr, hthrows⟩ := hx
  choose g hg using hf
  exact ⟨r >>= g, hr.bind fun b => (hg b).1, hthrows.bind fun b _ => (hg b).2⟩

/-- What is demanded is thrown with its result code. -/
theorem onlyReads_demand (test : Bool) (code : HResult) : OnlyReads (demand test code) := by
  cases test with
  | true => exact onlyReads_pure ()
  | false =>
    exact onlyReads_answer (throws_error (A := (· ≠ Failure.fault)) (e := .code code)
      Failure.noConfusion)

/-- A helper that throws one of the result codes for a malformed value. -/
theorem malformedCode_ne_fault {r : Except Failure α} (h : Throws MalformedCode r) :
    Throws (· ≠ .fault) r := by
  rintro e he rfl
  rcases h _ he with hcode | hcode <;> cases hcode

/-- An attribute is read: the device throws what it throws, and that is no fault. -/
theorem onlyReads_readAttribute (d : Device) (p : Path) : OnlyReads (readAttribute d p) := by
  refine ⟨_, readAttribute_computes d p, ?_⟩
  cases d.read p with
  | ok v => exact throws_ok _
  | error exn => exact throws_error Failure.noConfusion

/-- So does a helper that does not fault of what the attribute may be. -/
theorem onlyReads_readAs {p : Path} {project : Option PropertySet → Except Failure α}
    (h : ∀ v, Decoded v → Throws (· ≠ .fault) (project (some (decodedRoot v)))) :
    OnlyReads (readAs d p project) := by
  refine ⟨_, readAs_computes d p project, ?_⟩
  unfold Device.root
  cases hread : d.read p with
  | ok v => exact h v (d.decoded p v hread)
  | error exn => exact throws_error Failure.noConfusion

/-- What is not advertised is not read. -/
theorem onlyReads_whenAdvertised {advertised : Bool} {x : Op α} (hx : OnlyReads x) :
    OnlyReads (whenAdvertised advertised x) := by
  cases advertised with
  | true => exact hx.bind fun a => onlyReads_pure (some a)
  | false => exact onlyReads_pure none

/-- Nor is what depends on formats that are not there. -/
theorem onlyReads_whenPresent {formats : Option β} {x : Op α} {absent : α} (hx : OnlyReads x) :
    OnlyReads (whenPresent formats x absent) := by
  cases formats with
  | some _ => exact hx
  | none => exact onlyReads_pure absent

end OnlyReads

section Reads

variable (d : Device) (sdk : StreamManagement) (attributes : List UInt32)

/-- **A cluster is read** in five reads, and what it has is put together. -/
theorem onlyReads_readCameraClusterCapabilities (cluster : CameraCluster) :
    OnlyReads (readCameraClusterCapabilities d cluster) := by
  have hlist : ∀ p : Path, OnlyReads
      (readAs d p descriptorNumericList : Op (List UInt32)) := fun p =>
    onlyReads_readAs fun _ _ => malformedCode_ne_fault (descriptorNumericList_throws _)
  exact (onlyReads_readAttribute d _).bind fun _ => (onlyReads_readAttribute d _).bind fun _ =>
    (hlist _).bind fun _ => (hlist _).bind fun _ => (hlist _).bind fun _ =>
      onlyReads_answer (malformedCode_ne_fault (clusterCapabilities_throws _ _ _ _ _))

theorem onlyReads_readFormats (a : StreamAttribute) :
    OnlyReads (readAs d (.stream a) audioFormatCapabilities) :=
  onlyReads_readAs fun _ _ => malformedCode_ne_fault (audioFormatCapabilities_throws _)

/-- A number is refused where it is malformed. -/
theorem onlyReads_readNumber (a : StreamAttribute) : OnlyReads (readNumber d sdk attributes a) :=
  onlyReads_whenAdvertised <| onlyReads_readAs fun _ _ =>
    malformedCode_ne_fault (cameraStreamField_throws _ _)

/-- A flag that is refused is no fault. -/
theorem onlyReads_readFlag (a : StreamAttribute) :
    OnlyReads (readAs d (.stream a) propertySetBoolean) :=
  onlyReads_readAs fun v hv e he => by
    rintro rfl
    rcases propertySetBoolean_throws hv _ he with ⟨hcode | hcode, -⟩ | ⟨hcode, -⟩ <;> cases hcode

theorem onlyReads_readBoolean (a : StreamAttribute) : OnlyReads (readBoolean d sdk attributes a) :=
  onlyReads_whenAdvertised (onlyReads_readFlag d a)

/-- **The controls of a level** are a flag and three numbers. -/
theorem onlyReads_readControls (muted volume minimum maximum : StreamAttribute) :
    OnlyReads (readControls d sdk attributes muted volume minimum maximum) :=
  (onlyReads_readBoolean d sdk attributes _).bind fun _ =>
    (onlyReads_readNumber d sdk attributes _).bind fun _ =>
    (onlyReads_readNumber d sdk attributes _).bind fun _ =>
    (onlyReads_readNumber d sdk attributes _).bind fun _ => onlyReads_pure _

theorem onlyReads_readSpeakerControls : OnlyReads (readSpeakerControls d sdk attributes) :=
  (onlyReads_readNumber d sdk attributes _).bind fun _ =>
    (onlyReads_readControls d sdk attributes _ _ _ _).bind fun _ => onlyReads_pure _

/-- The modes of privacy are read one after the other, up to the first that is on. -/
theorem onlyReads_privacyEnabledIn (l : List StreamAttribute) :
    OnlyReads (privacyEnabledIn d sdk attributes l) := by
  induction l with
  | nil => exact onlyReads_pure false
  | cons a rest ih =>
    unfold privacyEnabledIn
    split
    · refine (onlyReads_readFlag d a).bind fun enabled => ?_
      cases enabled with
      | true => exact onlyReads_pure true
      | false => exact ih
    · exact ih

end Reads

/-! ## What is named -/

/-- **The numbers of the SDK** that the start of a session asks for. -/
structure CameraNumbers extends StreamManagement where
  video : UInt32
  supportedStreamUsages : UInt32
  allocatedVideoStreams : UInt32
  allocatedAudioStreams : UInt32
  command : CameraClusterCommand → UInt32

namespace CameraNumbers

variable (sdk : CameraNumbers)

/-- The bit of a feature. -/
def featureBit : CameraFeature → UInt32
  | .audio => sdk.audio
  | .video => sdk.video

/-- The number of an attribute. -/
def attributeId : CameraAttribute → UInt32
  | .microphoneCapabilities => sdk.id .microphoneCapabilities
  | .maxNetworkBandwidth => sdk.id .maxNetworkBandwidth
  | .supportedStreamUsages => sdk.supportedStreamUsages
  | .allocatedVideoStreams => sdk.allocatedVideoStreams
  | .allocatedAudioStreams => sdk.allocatedAudioStreams

/-- The commands among these numbers. -/
def commands (numbers : List UInt32) : List CameraClusterCommand :=
  [.audioStreamAllocate, .audioStreamAllocateResponse, .audioStreamDeallocate, .provideOffer,
    .provideOfferResponse, .provideIceCandidates, .endSession].filter fun x =>
      cameraAdvertises numbers (sdk.command x)

/-- **What a cluster says of itself**, by name. -/
def cluster (c : ClusterCapabilities) : MatterCameraClusterCapabilities where
  revision := c.revision
  featureMap := [.audio, .video].filter fun x => c.featureMap &&& sdk.featureBit x != 0
  attributes :=
    [.microphoneCapabilities, .maxNetworkBandwidth, .supportedStreamUsages,
      .allocatedVideoStreams, .allocatedAudioStreams].filter fun x =>
        cameraAdvertises c.attributes (sdk.attributeId x)
  acceptedCommands := sdk.commands c.acceptedCommands
  generatedCommands := sdk.commands c.generatedCommands

/-- What a camera says of itself. -/
def camera (c : Capabilities) : MatterCameraCapabilities :=
  ⟨c.descriptor, sdk.cluster c.streamManagement, sdk.cluster c.transportProvider⟩

/-- What is read of it. -/
def audioCapabilities (c : AudioCapabilities) : CameraSelections.AudioCapabilities :=
  ⟨⟨c.microphone, c.bandwidth⟩, sdk.camera c.camera, c.privacy⟩

/-- A name is on a list where the number is. -/
theorem contains_filter {ι : Type} [BEq ι] [LawfulBEq ι] {l : List ι} {test : ι → Bool} {x : ι}
    (h : x ∈ l) : (l.filter test).contains x = test x := by
  rw [Bool.eq_iff_iff, List.contains_iff_mem, List.mem_filter, and_iff_right h]

/-- The microphone is advertised by name where it is by number. -/
theorem advertisesMicrophone_camera (c : Capabilities) :
    (sdk.camera c).advertisesMicrophone
      = c.streamManagement.offers sdk.audio (sdk.id .microphoneCapabilities) := by
  unfold MatterCameraCapabilities.advertisesMicrophone camera cluster
  rw [contains_filter List.mem_cons_self, contains_filter List.mem_cons_self]
  rfl

/-- So is the bandwidth. -/
theorem contains_maxNetworkBandwidth (c : ClusterCapabilities) :
    (sdk.cluster c).attributes.contains .maxNetworkBandwidth
      = cameraAdvertises c.attributes (sdk.id .maxNetworkBandwidth) := by
  unfold cluster
  rw [contains_filter (List.mem_cons_of_mem _ List.mem_cons_self)]
  rfl

end CameraNumbers

/-! ## The function in parts -/

section Parts

variable (d : Device) (sdk : StreamManagement)

/-- The formats of the microphone, where they are advertised. -/
def readMicrophone (c : ClusterCapabilities) : Op (Option MatterCameraAudioFormatCapabilities) :=
  whenAdvertised (c.offers sdk.audio (sdk.id .microphoneCapabilities))
    (readAs d (.stream .microphoneCapabilities) audioFormatCapabilities)

/-- **The levels**: the formats of the speaker, and the controls of both. -/
structure Levels where
  speaker : Option MatterCameraAudioFormatCapabilities
  microphoneControls : AudioControls
  speakerControls : SpeakerControls

/-- What is read of them. -/
def readLevels (c : ClusterCapabilities)
    (microphone : Option MatterCameraAudioFormatCapabilities) : Op Levels := do
  let speaker ← whenAdvertised (c.offers sdk.speaker (sdk.id .speakerCapabilities))
    (readAs d (.stream .speakerCapabilities) audioFormatCapabilities)
  let microphoneControls ← whenPresent microphone (readMicrophoneControls d sdk c.attributes) {}
  let speakerControls ← whenPresent speaker (readSpeakerControls d sdk c.attributes) {}
  pure ⟨speaker, microphoneControls, speakerControls⟩

/-- The bandwidth before it is checked. -/
def readMaxNetworkBandwidth : Op UInt32 :=
  readAs d (.stream .maxNetworkBandwidth) fun data => cameraStreamField data valueKey

/-- **What is read at the stage of the capabilities**, with the privacy mode yet to come. -/
def readAtCapabilities (descriptor : MatterEndpointDescriptor) : Op AudioCapabilities := do
  let camera ← readCameraCapabilities d descriptor
  demand camera.isCameraAudioAdapter .notImplemented
  let microphone ← readMicrophone d sdk camera.streamManagement
  let levels ← readLevels d sdk camera.streamManagement microphone
  demand (cameraAdvertises camera.streamManagement.attributes (sdk.id .maxNetworkBandwidth))
    .notImplemented
  let bandwidth ← readMaxNetworkBandwidth d
  demand (bandwidth != 0) .bounds
  pure ⟨camera, microphone, levels.speaker, levels.microphoneControls, levels.speakerControls,
    bandwidth, false⟩

/-- An answer that is made of two is read as the two. -/
theorem answer_bind {α β : Type} (r : Except Failure β) (f : β → Except Failure α) :
    (answer (r >>= f) : Op α) = answer r >>= fun b => answer (f b) := by
  cases r <;> rfl

/-- The bandwidth is checked after it is read. -/
theorem readBandwidth_eq (attributes : List UInt32) :
    readBandwidth d sdk attributes = (do
      demand (cameraAdvertises attributes (sdk.id .maxNetworkBandwidth)) .notImplemented
      let bandwidth ← readMaxNetworkBandwidth d
      demand (bandwidth != 0) .bounds
      pure bandwidth) := by
  have hcheck : ∀ bandwidth : UInt32,
      (answer (if bandwidth = 0 then .error (.code .bounds) else .ok bandwidth) : Op UInt32)
        = (do demand (bandwidth != 0) .bounds; pure bandwidth) := by
    intro bandwidth
    by_cases hzero : bandwidth = 0
    · subst hzero
      rfl
    · rw [if_neg hzero, bne_iff_ne.mpr hzero]
      rfl
  unfold readBandwidth readMaxNetworkBandwidth readAs
  simp only [answer_bind, hcheck, bind_assoc]

/-- **The function is made of these parts.** -/
theorem readCameraAudioCapabilities_eq (node : UInt64) (endpoint : UInt16) :
    readCameraAudioCapabilities d sdk node endpoint = (do
      setStage .validation
      demand (isOperationalNodeId node && endpoint != invalidEndpointId) .invalidArgument
      setStage .descriptor
      let descriptor ← readDescriptor d endpoint
      setStage .capabilities
      let c ← readAtCapabilities d sdk descriptor
      setStage .privacy
      let privacy ← cameraPrivacyEnabled d sdk c.camera.streamManagement.attributes
      pure { c with privacy }) := by
  unfold readCameraAudioCapabilities readAudioAttributes readBandwidthAndPrivacy
    readAtCapabilities readLevels readMicrophone
  simp only [readBandwidth_eq, bind_assoc, pure_bind]

theorem onlyReads_readLevels (c : ClusterCapabilities)
    (microphone : Option MatterCameraAudioFormatCapabilities) :
    OnlyReads (readLevels d sdk c microphone) :=
  (onlyReads_whenAdvertised (onlyReads_readFormats d _)).bind fun _ =>
    (onlyReads_whenPresent (onlyReads_readControls d sdk _ _ _ _ _)).bind fun _ =>
    (onlyReads_whenPresent (onlyReads_readSpeakerControls d sdk _)).bind fun _ => onlyReads_pure _

theorem onlyReads_readMaxNetworkBandwidth : OnlyReads (readMaxNetworkBandwidth d) :=
  onlyReads_readAs fun _ _ => malformedCode_ne_fault (cameraStreamField_throws _ _)

/-- **Everything between the descriptor and the privacy mode only reads.** -/
theorem onlyReads_readAtCapabilities (descriptor : MatterEndpointDescriptor) :
    OnlyReads (readAtCapabilities d sdk descriptor) := by
  have hcamera : OnlyReads (readCameraCapabilities d descriptor) :=
    (onlyReads_demand _ _).bind fun _ =>
      (onlyReads_readCameraClusterCapabilities d _).bind fun _ =>
      (onlyReads_readCameraClusterCapabilities d _).bind fun _ => onlyReads_pure _
  exact hcamera.bind fun _ => (onlyReads_demand _ _).bind fun _ =>
    (onlyReads_whenAdvertised (onlyReads_readFormats d _)).bind fun _ =>
    (onlyReads_readLevels d sdk _ _).bind fun _ => (onlyReads_demand _ _).bind fun _ =>
    (onlyReads_readMaxNetworkBandwidth d).bind fun _ => (onlyReads_demand _ _).bind fun _ =>
    onlyReads_pure _

end Parts

/-! ## The answers of a device -/

section Answers

variable (d : Device)

/-- A part that only reads has an answer. -/
theorem OnlyReads.exists_answer {α : Type} {x : Op α} (hx : OnlyReads x) :
    ∃ r : Except Exn α, Computes Progress.stage x (r.mapError .throws) := by
  obtain ⟨r, hr, hthrows⟩ := hx
  cases r with
  | ok a => exact ⟨.ok a, hr⟩
  | error e =>
    cases e with
    | fault => exact absurd rfl (hthrows .fault rfl)
    | throws exn => exact ⟨.error exn, hr⟩

/-- The answer of the device to the read of an attribute, as a start has it. -/
def Device.attributeRead (p : Path) : CameraSelections.AttributeRead :=
  match h : d.read p with
  | .ok value => .ok ⟨value, d.decoded p value h⟩
  | .error exn => .error exn

/-- It has the root that the device has. -/
theorem root_attributeRead (p : Path) : (d.attributeRead p).root = d.root p := by
  unfold Device.attributeRead
  split
  · rename_i value h
    have hroot : d.root p = .ok (some (decodedRoot value)) := by
      rw [Device.root, h]
      rfl
    exact hroot.symm
  · rename_i exn h
    have hroot : d.root p = .error (.throws exn) := by
      rw [Device.root, h]
      rfl
    exact hroot.symm

/-- **The same stage**: a start is as it was but for the stage, which is that of the reads. -/
def SameStage (s₀ s : CameraSelections.Start) (t : Progress) : Prop :=
  s = { s₀ with stage := t.stage }

variable {s₀ : CameraSelections.Start}

/-- The stage is set in both. -/
theorem mirrors_setStage (stage : CameraStage) :
    Mirrors (SameStage s₀) id id (CameraSelections.setStage stage) (setStage stage) :=
  mirrors_modify fun s t hs => by
    unfold SameStage at hs ⊢
    rw [hs]

/-- Both demand the same, with the same result code. -/
theorem mirrors_demand (test : Bool) (code : HResult) :
    Mirrors (SameStage s₀) id id (CameraSelections.demand test code) (demand test code) :=
  mirrors_require Function.injective_id test _

/-- What keeps the stage keeps them the same. -/
theorem SameStage.keep {s : CameraSelections.Start} {t t' : Progress} (h : t'.stage = t.stage)
    (hs : SameStage s₀ s t) : SameStage s₀ s t' := by
  unfold SameStage at hs ⊢
  rw [hs, h]

/-- An answer mirrors what computes it. -/
theorem mirrors_attempt {α β : Type} {f : β → α} {r : Except Exn α} {r' : Except Exn β}
    {y : Op β} (hy : Computes Progress.stage y (r'.mapError .throws)) (hr : r = r'.map f) :
    Mirrors (SameStage s₀) id f (CameraSelections.attempt r) y := by
  subst hr
  cases r' with
  | ok b =>
    exact mirrors_answer hy (fun _ _ _ => .keep) (by rintro _ ⟨⟩; rfl) (by rintro _ ⟨⟩)
  | error exn =>
    exact mirrors_answer hy (fun _ _ _ => .keep) (by rintro _ ⟨⟩) (by rintro _ ⟨⟩; rfl)

/-- So does the computation itself, with its faults. -/
theorem mirrors_computed {α : Type} {r : Except Failure α} {y : Op α}
    (hy : Computes Progress.stage y r) : Mirrors (SameStage s₀) id id (answer r) y :=
  mirrors_answer hy (fun _ _ _ => .keep) (fun _ h => h) fun _ h => h

/-- What an answer was, where the part has returned. -/
theorem answer_of_ok {β : Type} {r : Except Exn β} {y : Op β} {b : β} {t t' : Progress}
    (hy : Computes Progress.stage y (r.mapError .throws)) (h : y t = .ok b t') : r = .ok b := by
  have hok := hy.of_ok h
  cases r with
  | ok b' =>
    cases hok
    rfl
  | error exn => cases hok

/-- The microphone, if it is advertised, by its answer. -/
def microphoneAnswer (sdk : StreamManagement) (c : ClusterCapabilities)
    (formats : Except Exn MatterCameraAudioFormatCapabilities) :
    Except Exn (Option MatterCameraAudioFormatCapabilities) :=
  if c.offers sdk.audio (sdk.id .microphoneCapabilities) then formats.map some else .ok none

theorem readMicrophone_computes {sdk : StreamManagement}
    {formats : Except Exn MatterCameraAudioFormatCapabilities}
    (h : Computes Progress.stage
      (readAs d (.stream .microphoneCapabilities) audioFormatCapabilities)
      (formats.mapError .throws)) (c : ClusterCapabilities) :
    Computes Progress.stage (readMicrophone d sdk c)
      ((microphoneAnswer sdk c formats).mapError .throws) := by
  unfold readMicrophone microphoneAnswer
  cases c.offers sdk.audio (sdk.id .microphoneCapabilities) with
  | false => exact computes_pure none
  | true =>
    have hsome := h.bind fun f => computes_pure (some f)
    cases formats <;> exact hsome

theorem mirrors_readMicrophone {sdk : CameraNumbers} {a : CameraSelections.Answers}
    {formats : Except Exn MatterCameraAudioFormatCapabilities}
    (h : Computes Progress.stage
      (readAs d (.stream .microphoneCapabilities) audioFormatCapabilities)
      (formats.mapError .throws)) (ha : a.microphone = formats) (c : Capabilities) :
    Mirrors (SameStage s₀) id id (CameraSelections.readMicrophone a (sdk.camera c))
      (readMicrophone d sdk.toStreamManagement c.streamManagement) := by
  subst ha
  unfold CameraSelections.readMicrophone readMicrophone
  rw [sdk.advertisesMicrophone_camera]
  cases c.streamManagement.offers sdk.audio (sdk.id .microphoneCapabilities) with
  | false => exact mirrors_pure rfl
  | true =>
    exact (mirrors_attempt (f := id) h (congrFun Except.map_id _).symm).bind fun m _ =>
      mirrors_pure rfl

/-- **A start reads what the device has to say.** Of every device there are answers, whatever
the others may be, with which the start of a session reads by name what the function with all
its reads does by number, and throws and faults as it does. -/
theorem selections_readCameraAudioCapabilities (sdk : CameraNumbers)
    (rest : CameraSelections.Answers) :
    ∃ a : CameraSelections.Answers,
      a = { rest with
        descriptor := fun x => d.attributeRead (.descriptor x)
        streamManagement := a.streamManagement
        transportProvider := a.transportProvider
        microphone := a.microphone
        levels := a.levels
        bandwidth := a.bandwidth
        privacyEnabled := a.privacyEnabled } ∧
      ∀ (q : CameraSelections.Request) (s₀ : CameraSelections.Start),
        Mirrors (SameStage s₀) id sdk.audioCapabilities
          (CameraSelections.readCameraAudioCapabilities q a)
          (readCameraAudioCapabilities d sdk.toStreamManagement q.node q.endpoint) := by
  choose cluster hcluster using fun c =>
    (onlyReads_readCameraClusterCapabilities d c).exists_answer
  obtain ⟨formats, hformats⟩ := (onlyReads_readFormats d .microphoneCapabilities).exists_answer
  choose levels hlevels using fun c m =>
    (onlyReads_readLevels d sdk.toStreamManagement c m).exists_answer
  obtain ⟨bandwidth, hbandwidth⟩ := (onlyReads_readMaxNetworkBandwidth d).exists_answer
  choose privacy hprivacy using fun attributes =>
    (onlyReads_privacyEnabledIn d sdk.toStreamManagement attributes
      [.hardPrivacyModeOn, .softLivestreamPrivacyModeEnabled]).exists_answer
  refine ⟨{ rest with
    descriptor := fun x => d.attributeRead (.descriptor x)
    streamManagement := (cluster .streamManagement).map sdk.cluster
    transportProvider := (cluster .transportProvider).map sdk.cluster
    microphone := formats
    levels := do
      let c ← cluster .streamManagement
      let m ← microphoneAnswer sdk.toStreamManagement c formats
      (levels c m).map fun _ => ()
    bandwidth := bandwidth
    privacyEnabled := do
      let c ← cluster .streamManagement
      privacy c.attributes }, rfl, fun q s₀ => ?_⟩
  rw [readCameraAudioCapabilities_eq]
  unfold CameraSelections.readCameraAudioCapabilities CameraSelections.readCameraCapabilities
    readAtCapabilities readCameraCapabilities
  simp only [bind_assoc, pure_bind]
  refine (mirrors_setStage _).bind fun _ _ => (mirrors_demand _ _).bind fun _ _ =>
    (mirrors_setStage _).bind fun _ _ => ?_
  refine Mirrors.bind (f := id) ?_ fun descriptor _ => ?_
  · unfold CameraSelections.Answers.readDescriptor
    simp only [root_attributeRead]
    exact mirrors_computed (readDescriptor_computes d q.endpoint)
  refine (mirrors_setStage _).bind fun _ _ => (mirrors_demand _ _).bind fun _ _ =>
    (mirrors_attempt (hcluster .streamManagement) rfl).bind fun c hc =>
    (mirrors_attempt (hcluster .transportProvider) rfl).bind fun transport _ =>
    (mirrors_demand _ _).bind fun _ _ => ?_
  obtain ⟨_, _, hc⟩ := hc
  have hstream := answer_of_ok (hcluster .streamManagement) hc
  refine (mirrors_readMicrophone d hformats rfl ⟨descriptor, c, transport⟩).bind fun m hm => ?_
  obtain ⟨_, _, hm⟩ := hm
  have hmicrophone := answer_of_ok (readMicrophone_computes d hformats c) hm
  have hlevel : (do
      let c ← cluster .streamManagement
      let m ← microphoneAnswer sdk.toStreamManagement c formats
      (levels c m).map fun _ => ()) = (levels c m).map fun _ => () := by
    rw [hstream]
    show (do
      let m ← microphoneAnswer sdk.toStreamManagement c formats
      (levels c m).map fun _ => ()) = _
    rw [hmicrophone]
    rfl
  refine (mirrors_attempt (hlevels c m) hlevel).bind fun _ _ => ?_
  refine Mirrors.bind (f := id) ?_ fun _ _ => ?_
  · rw [sdk.contains_maxNetworkBandwidth]
    exact mirrors_demand _ _
  refine (mirrors_attempt (f := id) hbandwidth (congrFun Except.map_id _).symm).bind fun b _ =>
    (mirrors_demand _ _).bind fun _ _ => (mirrors_setStage _).bind fun _ _ =>
    (mirrors_attempt (f := id) (hprivacy c.attributes) ?_).bind fun p _ => mirrors_pure rfl
  rw [hstream]
  exact (congrFun Except.map_id _).symm

/-- **The same stage**, of an allocation: it is as it was but for the stage. -/
def SameAllocationStage (s₀ s : AllocationStages.Allocation) (t : Progress) : Prop :=
  s = { s₀ with stage := t.stage }

theorem SameAllocationStage.keep {s₀ s : AllocationStages.Allocation} {t t' : Progress}
    (h : t'.stage = t.stage) (hs : SameAllocationStage s₀ s t) : SameAllocationStage s₀ s t' := by
  unfold SameAllocationStage at hs ⊢
  rw [hs, h]

/-- An answer of an allocation mirrors what computes it. -/
theorem mirrors_stageAnswer {s₀ : AllocationStages.Allocation} {α β : Type} {f : β → α}
    {r : Except Exn α} {r' : Except Exn β} {y : Op β}
    (hy : Computes Progress.stage y (r'.mapError .throws)) (hr : r = r'.map f) :
    Mirrors (SameAllocationStage s₀) .throws f (answer r) y := by
  subst hr
  cases r' with
  | ok b =>
    exact mirrors_answer hy (fun _ _ _ => .keep) (by rintro _ ⟨⟩; rfl) (by rintro _ ⟨⟩)
  | error exn =>
    exact mirrors_answer hy (fun _ _ _ => .keep) (by rintro _ ⟨⟩) (by rintro _ ⟨⟩; rfl)

/-- **An allocation reads what the device has to say**, in three answers, unless a read faults. -/
theorem stages_readCameraAudioCapabilities (sdk : StreamManagement) (endpoint : UInt16)
    (rest : AllocationStages.AudioAnswers) :
    ∃ a : AllocationStages.AudioAnswers,
      a = { rest with
        descriptor := a.descriptor
        capabilities := a.capabilities
        privacyEnabled := a.privacyEnabled } ∧
      ∀ (node : UInt64) (s₀ : AllocationStages.Allocation),
        Mirrors (SameAllocationStage s₀) .throws
          (fun c : AudioCapabilities => (⟨c.microphone, c.bandwidth⟩, c.privacy))
          (AllocationStages.readCameraAudioCapabilities node endpoint a)
          (readCameraAudioCapabilities d sdk node endpoint) := by
  choose capabilities hcapabilities using fun descriptor =>
    (onlyReads_readAtCapabilities d sdk descriptor).exists_answer
  choose privacy hprivacy using fun attributes => (onlyReads_privacyEnabledIn d sdk attributes
    [.hardPrivacyModeOn, .softLivestreamPrivacyModeEnabled]).exists_answer
  have hdescriptor := readDescriptor_computes d endpoint
  generalize readEndpointDescriptor (fun a => d.root (.descriptor a)) endpoint = read
    at hdescriptor
  -- the answers are those after the descriptor that is read; after a fault nothing is asked
  obtain ⟨descriptor, answered, enabled, hanswers, hthrown⟩ : ∃ (descriptor : Except Exn Unit)
      (answered : Except Exn MatterCameraAudioCapabilities) (enabled : Except Exn Bool),
      (∀ b, read = .ok b → descriptor = .ok () ∧
        answered = (capabilities b).map (fun c => ⟨c.microphone, c.bandwidth⟩) ∧
        enabled = do privacy (← capabilities b).camera.streamManagement.attributes) ∧
      ∀ e, read = .error (.throws e) → descriptor = .error e := by
    cases read with
    | ok b => exact ⟨_, _, _, (by rintro _ ⟨⟩; exact ⟨rfl, rfl, rfl⟩), (by rintro _ ⟨⟩)⟩
    | error e =>
      cases e with
      | fault => exact ⟨.ok (), rest.capabilities, .ok false, (by rintro _ ⟨⟩), (by rintro _ ⟨⟩)⟩
      | throws exn =>
        exact ⟨.error exn, rest.capabilities, .ok false, (by rintro _ ⟨⟩), (by rintro _ ⟨⟩; rfl)⟩
  refine ⟨{ rest with
    descriptor := descriptor
    capabilities := answered
    privacyEnabled := enabled }, rfl, fun node s₀ => ?_⟩
  have hstage : ∀ stage, Mirrors (SameAllocationStage s₀) Failure.throws id
      (AllocationStages.setStage stage) (setStage stage) := fun stage =>
    mirrors_modify fun s t hs => by
      unfold SameAllocationStage at hs ⊢
      rw [hs]
  have hdemand : ∀ (test : Bool) (code : HResult), Mirrors (SameAllocationStage s₀) Failure.throws
      id (require test (.hresult code)) (demand test code) := fun test code =>
    mirrors_require (fun _ _ => Failure.throws.inj) test _
  rw [readCameraAudioCapabilities_eq]
  unfold AllocationStages.readCameraAudioCapabilities
  refine (hstage _).bind fun _ _ => (hdemand _ _).bind fun _ _ => (hstage _).bind fun _ _ =>
    (mirrors_answer (f := fun _ => ()) hdescriptor (fun _ _ _ => .keep)
      (fun b hb => (hanswers b hb).1) hthrown).bind fun b hb => (hstage _).bind fun _ _ => ?_
  obtain ⟨_, _, hb⟩ := hb
  obtain ⟨-, hcap, henabled⟩ := hanswers b (hdescriptor.of_ok hb)
  subst hcap henabled
  refine (mirrors_stageAnswer (hcapabilities b) rfl).bind fun c hc => ?_
  obtain ⟨_, _, hc⟩ := hc
  rw [answer_of_ok (hcapabilities b) hc]
  exact (hstage _).bind fun _ _ => (mirrors_stageAnswer (f := id) (hprivacy _)
    (congrFun Except.map_id _).symm).bind fun p _ => mirrors_pure rfl

end Answers

end CameraAudioReads
