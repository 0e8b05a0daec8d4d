import MatterController.AllocationStages

/-!
# What an application asks of a stream, and what a session asks of it

An application fills in options, and an allocation takes a snapshot of them that
it has checked. Of the stream the camera then reads back the allocation asks that
it matches the request; the start of a session does not know the request, and
asks for conditions of its own – the codec of its adapter, bounds that are not
zero, a bit depth it can encode, the bandwidth of the network.

`allocated_stream_starts` says that the second check follows from the first: what
the options cannot say (the usage and the codec of a video stream are fixed by
their constructor), what the snapshot refuses and what a match carries over are
together all that the start asks for.
-/

/-- **`MatterCameraVideoStreamOptions`**: its properties, with what the constructor
sets them to. The usage and the codec are no properties. -/
structure MatterCameraVideoStreamOptions where
  minimumWidth : UInt16 := 640
  maximumWidth : UInt16 := 640
  minimumHeight : UInt16 := 480
  maximumHeight : UInt16 := 480
  minimumFrameRate : UInt16 := 30
  maximumFrameRate : UInt16 := 30
  minimumBitRate : UInt32 := 500000
  maximumBitRate : UInt32 := 2000000
  keyFrameInterval : UInt16 := 1000
  deriving DecidableEq, Repr

/-- **`MatterCameraAudioStreamOptions`**: its properties, the codec unknown at first. The
usage is no property. -/
structure MatterCameraAudioStreamOptions where
  audioCodec : UInt8 := 2
  channels : UInt8 := 0
  sampleRate : UInt32 := 0
  bitRate : UInt32 := 0
  bitDepth : UInt8 := 0
  deriving DecidableEq, Repr

namespace MatterCameraVideoStreamOptions

/-- The request the options stand for (`mRequest`). -/
def request (o : MatterCameraVideoStreamOptions) : VideoStreamAllocate where
  streamUsage := liveViewUsage
  videoCodec := h264Codec
  minFrameRate := o.minimumFrameRate
  maxFrameRate := o.maximumFrameRate
  minResolution := ⟨o.minimumWidth, o.minimumHeight⟩
  maxResolution := ⟨o.maximumWidth, o.maximumHeight⟩
  minBitRate := o.minimumBitRate
  maxBitRate := o.maximumBitRate
  keyFrameInterval := o.keyFrameInterval

/-- `MatterCameraVideoStreamOptions::Snapshot`. -/
def snapshot (o : MatterCameraVideoStreamOptions) : Except Exn VideoStreamAllocate :=
  let r := o.request
  if r.minResolution.width == 0 || r.minResolution.height == 0 || r.minFrameRate == 0 ||
      r.minBitRate == 0 || r.keyFrameInterval == 0 ||
      r.minResolution.width > r.maxResolution.width ||
      r.minResolution.height > r.maxResolution.height ||
      r.minFrameRate > r.maxFrameRate || r.minBitRate > r.maxBitRate then
    .error (.hresult .invalidArgument)
  else .ok r

end MatterCameraVideoStreamOptions

namespace MatterCameraAudioStreamOptions

/-- The request the options stand for (`mRequest`). -/
def request (o : MatterCameraAudioStreamOptions) : AudioStreamAllocate where
  streamUsage := liveViewUsage
  audioCodec := o.audioCodec
  channelCount := o.channels
  sampleRate := o.sampleRate
  bitRate := o.bitRate
  bitDepth := o.bitDepth

/-- `MatterCameraAudioStreamOptions::Snapshot`. -/
def snapshot (o : MatterCameraAudioStreamOptions) : Except Exn AudioStreamAllocate :=
  let r := o.request
  if (r.audioCodec != opusCodec && r.audioCodec != aacLcCodec) || r.channelCount == 0 ||
      r.channelCount > 8 || r.sampleRate == 0 || r.bitRate == 0 ||
      (r.bitDepth != 8 && r.bitDepth != 16 && r.bitDepth != 24 && r.bitDepth != 32) then
    .error (.hresult .invalidArgument)
  else .ok r

end MatterCameraAudioStreamOptions

/-! ## What a snapshot has -/

/-- The bounds of a video request from below are not zero, and its codec is that of the
adapter. -/
structure VideoStreamAllocate.Checked (r : VideoStreamAllocate) : Prop where
  codec : r.videoCodec = h264Codec
  width : r.minResolution.width ≠ 0
  height : r.minResolution.height ≠ 0
  frameRate : r.minFrameRate ≠ 0
  bitRate : r.minBitRate ≠ 0
  keyFrameInterval : r.keyFrameInterval ≠ 0

/-- The codec and the bit depth of an audio request are ones that can be encoded. -/
structure AudioStreamAllocate.Checked (r : AudioStreamAllocate) : Prop where
  codec : r.audioCodec = opusCodec ∨ r.audioCodec = aacLcCodec
  bitDepth : r.bitDepth = 8 ∨ r.bitDepth = 16 ∨ r.bitDepth = 24 ∨ r.bitDepth = 32

theorem MatterCameraVideoStreamOptions.checked_of_snapshot {o : MatterCameraVideoStreamOptions}
    {r : VideoStreamAllocate} (h : o.snapshot = .ok r) : r.Checked := by
  unfold MatterCameraVideoStreamOptions.snapshot at h
  dsimp only at h
  split at h
  · cases h
  · rename_i hbounds
    cases h
    simp only [Bool.or_eq_true, not_or, beq_iff_eq] at hbounds
    obtain ⟨⟨⟨⟨⟨⟨⟨⟨hw, hh⟩, hf⟩, hb⟩, hk⟩, -⟩, -⟩, -⟩, -⟩ := hbounds
    exact ⟨rfl, hw, hh, hf, hb, hk⟩

theorem MatterCameraAudioStreamOptions.checked_of_snapshot {o : MatterCameraAudioStreamOptions}
    {r : AudioStreamAllocate} (h : o.snapshot = .ok r) : r.Checked := by
  unfold MatterCameraAudioStreamOptions.snapshot at h
  dsimp only at h
  split at h
  · cases h
  · rename_i hformat
    cases h
    simp only [Bool.or_eq_true, Bool.and_eq_true, not_or, not_and_or, bne_iff_ne, not_not]
      at hformat
    obtain ⟨⟨⟨⟨⟨hcodec, -⟩, -⟩, -⟩, -⟩, hdepth⟩ := hformat
    exact ⟨hcodec, by tauto⟩

/-! ## What a match carries over -/

/-- **A video stream that matches a checked request can be selected.** The lower bounds
of the stream are not below those of the request, so they are not zero either. -/
theorem validateCameraSelectedVideo_of_validateAllocated {r : VideoStreamAllocate}
    (hr : r.Checked) {streams : List MatterCameraVideoStream} {id : UInt16}
    {stream : MatterCameraVideoStream}
    (hfind : MatterCameraVideoStream.findAllocatedLiveViewStream streams id = some stream)
    (h : r.validateAllocated stream = .ok ()) :
    validateCameraSelectedVideo streams id = .ok () := by
  unfold VideoStreamAllocate.validateAllocated at h
  split at h
  · cases h
  rename_i hmatch
  simp only [Bool.or_eq_true, not_or, decide_eq_true_eq, bne_iff_ne, not_not] at hmatch
  obtain ⟨⟨⟨⟨⟨⟨⟨⟨⟨⟨-, hcodec⟩, hwidth⟩, hheight⟩, -⟩, -⟩, hrate⟩, -⟩, hbits⟩, -⟩, hkey⟩ := hmatch
  have hw := hr.width
  have hh := hr.height
  have hf := hr.frameRate
  have hb := hr.bitRate
  have hk := hr.keyFrameInterval
  unfold validateCameraSelectedVideo
  rw [hfind]
  dsimp only
  rw [if_neg (by simp [hcodec, hr.codec]), if_neg ?_]
  simp only [Bool.or_eq_true, not_or, beq_iff_eq]
  refine ⟨⟨⟨⟨fun h0 => ?_, fun h0 => ?_⟩, fun h0 => ?_⟩, fun h0 => ?_⟩, hkey ▸ hk⟩
  · rw [h0] at hwidth
    exact hwidth (UInt16.pos_iff_ne_zero.mpr hw)
  · rw [h0] at hheight
    exact hheight (UInt16.pos_iff_ne_zero.mpr hh)
  · rw [h0] at hrate
    exact hrate (UInt16.pos_iff_ne_zero.mpr hf)
  · rw [h0] at hbits
    exact hbits (UInt32.pos_iff_ne_zero.mpr hb)

/-- **An audio stream that matches a checked request can be selected**, where the
microphone and the network allowed that request: the start asks them for the
request it makes of the stream, and that is the request again. -/
theorem validateCameraSelectedAudio_of_validateAllocated {r : AudioStreamAllocate}
    (hr : r.Checked) {capabilities : MatterCameraAudioCapabilities}
    {microphone : MatterCameraAudioFormatCapabilities}
    (hmicrophone : capabilities.microphone = some microphone)
    (hformat : microphone.validate r = .ok ())
    (hbandwidth : r.bitRate ≤ capabilities.maximumNetworkBandwidth)
    {streams : List MatterCameraAudioStream} {id : UInt16} {stream : MatterCameraAudioStream}
    (hfind : (streams.find? fun stream => stream.streamId == id) = some stream)
    (h : r.validateAllocated stream = .ok ()) :
    validateCameraSelectedAudio capabilities streams id = some (.ok ()) := by
  unfold AudioStreamAllocate.validateAllocated at h
  split at h
  · cases h
  rename_i hmatch
  simp only [Bool.or_eq_true, not_or, bne_iff_ne, not_not, Bool.not_eq_true', Bool.not_eq_false]
    at hmatch
  obtain ⟨⟨⟨⟨⟨hlive, hcodec⟩, hchannels⟩, hrate⟩, hbits⟩, hdepth⟩ := hmatch
  unfold validateCameraSelectedAudio
  rw [hfind]
  dsimp only
  rw [hlive, hcodec, hchannels, hrate, hbits, hdepth, hmicrophone]
  rw [if_neg (by simp), if_neg ?_, Option.map_some]
  · unfold MatterCameraAudioFormatCapabilities.validate at hformat ⊢
    exact congrArg some hformat
  · have hc := hr.codec
    have hd := hr.bitDepth
    simp only [Bool.or_eq_true, Bool.and_eq_true, not_or, not_and_or, bne_iff_ne, not_not,
      decide_eq_true_eq]
    exact ⟨⟨hc, by tauto⟩, fun hlt => absurd hbandwidth (UInt32.not_le.mpr hlt)⟩

namespace AllocationStages

open Effects

variable (nodeId : UInt64) (endpointId : UInt16)

/-! ## What an allocation that returns has asked -/

theorem ensures_true {α : Type} (x : Op α) :
    Ensures (fun _ => True) x (fun _ _ => True) (fun _ _ => True) := by
  intro s _
  cases x s <;> trivial

/-- Where a call is answered, its answer is known from there on. -/
theorem ensures_answer_eq {α : Type} (r : Except Exn α) :
    Ensures (fun _ : Allocation => True) (answer r) (fun b _ => r = .ok b) (fun _ _ => True) :=
  ensures_answer (fun _ _ h _ => h) fun _ _ _ => trivial

/-- Where something is looked for, what is found is known from there on. -/
theorem ensures_answer_some {α : Type} (found : Option α) (exn : Exn) :
    Ensures (fun _ : Allocation => True) (answer (found.elim (.error exn) .ok))
      (fun b _ => found = some b) (fun _ _ => True) := by
  cases found with
  | none => exact ensures_throw fun _ _ => trivial
  | some b => exact ensures_pure fun _ _ => rfl

/-- What is known before a program is known after it. -/
theorem ensures_fact {α : Type} {p : Prop} {x : Op α} {Q : α → Allocation → Prop}
    (h : Ensures (fun _ => True) x Q (fun _ _ => True)) :
    Ensures (fun _ => p) x (fun a s => p ∧ Q a s) (fun _ _ => True) := by
  intro s hp
  have hx := h s trivial
  cases hr : x s with
  | ok a t =>
    rw [hr] at hx
    exact ⟨hp, hx⟩
  | error e t => trivial

/-- The error handler never returns. -/
theorem rollback_ensures {α : Type} (mRelease : UInt16 → Op Unit) (failure : Exn)
    (Q : α → Allocation → Prop) :
    Ensures (fun _ => True) (rollback mRelease failure) Q (fun _ _ => True) :=
  .bind (ensures_true _) fun _ => .bind (ensures_true _) fun _ => .bind (ensures_true _) fun _ =>
    .bind (ensures_true _) fun _ => ensures_throw fun _ _ => trivial

/-- **A video allocation returns a stream it found and matched** in the list it read
back. -/
theorem allocateCameraVideoStream_ensures (request : VideoStreamAllocate) (a : VideoAnswers) :
    Ensures (fun _ => True) (allocateCameraVideoStream nodeId endpointId request a)
      (fun stream _ => ∃ streams id, a.streams = .ok streams ∧
        MatterCameraVideoStream.findAllocatedLiveViewStream streams id = some stream ∧
        request.validateAllocated stream = .ok ())
      (fun _ _ => True) := by
  refine .bind (ensures_true _) fun _ => .bind (ensures_true _) fun _ => ?_
  refine .bind (ensures_true _) fun id => .bind (ensures_true _) fun _ => ?_
  refine .bind (ensures_true _) fun _ => .bind (ensures_true _) fun _ => ?_
  refine .handle ?_ fun failure => rollback_ensures _ failure _
  refine .bind (ensures_true _) fun _ => .bind (ensures_answer_eq a.streams) fun streams => ?_
  refine .bind (ensures_fact (ensures_answer_some _ _)) fun stream => ?_
  exact .bind (ensures_fact (ensures_answer_eq (request.validateAllocated stream))) fun _ =>
    ensures_pure fun _ hs => ⟨streams, id, hs.1.1, hs.1.2, hs.2⟩

/-- **What the camera was asked before an audio stream is allocated.** -/
def Permitted (request : AudioStreamAllocate) (capabilities : MatterCameraAudioCapabilities) :
    Prop :=
  request.bitRate ≤ capabilities.maximumNetworkBandwidth ∧
    ∃ microphone, capabilities.microphone = some microphone ∧ microphone.validate request = .ok ()

theorem requireListening_ensures (a : AudioAnswers) (capabilities : MatterCameraAudioCapabilities)
    (privacyEnabled : Bool) :
    Ensures (fun _ => True) (requireListening a capabilities privacyEnabled)
      (fun microphone _ => capabilities.microphone = some microphone) (fun _ _ => True) := by
  refine .bind (ensures_true _) fun _ => .bind (ensures_true _) fun _ => ?_
  refine .bind (ensures_answer_some capabilities.microphone _) fun microphone => ?_
  exact .bind (ensures_fact (ensures_true _)) fun _ => .bind (ensures_fact (ensures_true _))
    fun _ => ensures_pure fun _ hs => hs.1.1

theorem prepareAudio_ensures (request : AudioStreamAllocate) (a : AudioAnswers) :
    Ensures (fun _ => True) (prepareAudio nodeId endpointId request a)
      (fun _ _ => ∃ capabilities, a.capabilities = .ok capabilities ∧
        Permitted request capabilities) (fun _ _ => True) := by
  refine .bind (R := fun read _ => a.capabilities = .ok read.1) ?_ fun read => ?_
  · refine .bind (ensures_true _) fun _ => .bind (ensures_true _) fun _ => ?_
    refine .bind (ensures_true _) fun _ => .bind (ensures_true _) fun _ => ?_
    refine .bind (ensures_true _) fun _ => .bind (ensures_answer_eq a.capabilities)
      fun capabilities => ?_
    exact .bind (ensures_fact (ensures_true _)) fun _ => .bind (ensures_fact (ensures_true _))
      fun _ => ensures_pure fun _ hs => hs.1.1
  refine .bind (ensures_fact (requireListening_ensures a read.1 read.2)) fun microphone => ?_
  refine .bind (ensures_fact (ensures_true _)) fun _ => ?_
  refine .bind (ensures_fact (ensures_answer_eq (microphone.validate request))) fun _ => ?_
  refine .bind (ensures_fact (ensures_true _)) fun usages => ?_
  refine .bind (ensures_require (R := fun _ _ => ∃ capabilities,
    a.capabilities = .ok capabilities ∧ Permitted request capabilities) ?_ fun _ _ => trivial)
    fun _ => .bind (ensures_fact (ensures_true _)) fun _ => ?_
  · rintro s htest ⟨⟨⟨⟨hread, hmicrophone⟩, -⟩, hformat⟩, -⟩
    simp only [Bool.and_eq_true, decide_eq_true_eq] at htest
    exact ⟨read.1, hread, htest.2, microphone, hmicrophone, hformat⟩
  · exact (ensures_fact (ensures_true _)).mono (fun _ h => h) (fun _ _ h => h.1.1)
      fun _ _ _ => trivial

/-- **An audio allocation returns a stream it found and matched** in the list it read
back, from the command on. -/
theorem invokeAudio_ensures (request : AudioStreamAllocate) (a : AudioAnswers) :
    Ensures (fun _ => True) (invokeAudio request a)
      (fun stream _ => ∃ streams id, a.streams = .ok streams ∧
        (streams.find? fun stream => stream.streamId == id) = some stream ∧
        request.validateAllocated stream = .ok ())
      (fun _ _ => True) := by
  refine .bind (ensures_true _) fun _ => .bind (ensures_true _) fun id => ?_
  refine .bind (ensures_true _) fun _ => .bind (ensures_true _) fun _ => ?_
  refine .bind (ensures_true _) fun _ => ?_
  refine .handle ?_ fun failure => rollback_ensures _ failure _
  refine .bind (ensures_true _) fun _ => .bind (ensures_answer_eq a.streams) fun streams => ?_
  refine .bind (ensures_fact (ensures_answer_some _ _)) fun stream => ?_
  exact .bind (ensures_fact (ensures_answer_eq (request.validateAllocated stream))) fun _ =>
    ensures_pure fun _ hs => ⟨streams, id, hs.1.1, hs.1.2, hs.2⟩

/-- **An audio allocation that returns was permitted, and its stream matches.** -/
theorem allocateCameraAudioStream_ensures (request : AudioStreamAllocate) (a : AudioAnswers) :
    Ensures (fun _ => True) (allocateCameraAudioStream nodeId endpointId request a)
      (fun stream _ => (∃ capabilities, a.capabilities = .ok capabilities ∧
          Permitted request capabilities) ∧
        ∃ streams id, a.streams = .ok streams ∧
          (streams.find? fun stream => stream.streamId == id) = some stream ∧
          request.validateAllocated stream = .ok ())
      (fun _ _ => True) := by
  refine .bind (prepareAudio_ensures nodeId endpointId request a) fun _ => ?_
  refine .handle (ensures_fact (invokeAudio_ensures request a)) fun exn => ?_
  exact .bind (ensures_true _) fun _ => .bind (ensures_true _) fun _ =>
    ensures_throw fun _ _ => trivial

/-! ## A stream that was allocated can be selected -/

/-- **The start of a session never refuses a stream the allocation returned**, whatever
the options, the camera and the list it reads back, where it reads the same list and
the same capabilities. -/
theorem allocated_stream_starts :
    (∀ (options : MatterCameraVideoStreamOptions) (request : VideoStreamAllocate)
      (a : VideoAnswers) (streams : List MatterCameraVideoStream) (s t : Allocation)
      (stream : MatterCameraVideoStream),
      options.snapshot = .ok request → a.streams = .ok streams →
      allocateCameraVideoStream nodeId endpointId request a s = .ok stream t →
      validateCameraSelectedVideo streams stream.streamId = .ok ()) ∧
    (∀ (options : MatterCameraAudioStreamOptions) (request : AudioStreamAllocate)
      (a : AudioAnswers) (capabilities : MatterCameraAudioCapabilities)
      (streams : List MatterCameraAudioStream) (s t : Allocation)
      (stream : MatterCameraAudioStream),
      options.snapshot = .ok request → a.capabilities = .ok capabilities →
      a.streams = .ok streams →
      allocateCameraAudioStream nodeId endpointId request a s = .ok stream t →
      validateCameraSelectedAudio capabilities streams stream.streamId = some (.ok ())) := by
  refine ⟨fun options request a streams s t stream hsnapshot hstreams hok => ?_,
    fun options request a capabilities streams s t stream hsnapshot hcapabilities hstreams
      hok => ?_⟩
  · obtain ⟨streams', id, hstreams', hfind, hmatch⟩ :=
      (allocateCameraVideoStream_ensures nodeId endpointId request a).of_ok trivial hok
    rw [hstreams] at hstreams'
    cases hstreams'
    rw [MatterCameraVideoStream.streamId_of_find hfind]
    exact validateCameraSelectedVideo_of_validateAllocated
      (MatterCameraVideoStreamOptions.checked_of_snapshot hsnapshot) hfind hmatch
  · obtain ⟨⟨capabilities', hcapabilities', hbandwidth, microphone, hmicrophone, hformat⟩,
        streams', id, hstreams', hfind, hmatch⟩ :=
      (allocateCameraAudioStream_ensures nodeId endpointId request a).of_ok trivial hok
    rw [hstreams] at hstreams'
    rw [hcapabilities] at hcapabilities'
    cases hstreams'
    cases hcapabilities'
    have hid : stream.streamId = id := by simpa using List.find?_some hfind
    rw [hid]
    exact validateCameraSelectedAudio_of_validateAllocated
      (MatterCameraAudioStreamOptions.checked_of_snapshot hsnapshot) hmicrophone hformat
      hbandwidth hfind hmatch

/-- A camera with one stream of each kind, both allocated with options it can meet. -/
theorem allocated_stream_starts_one :
    validateCameraSelectedVideo [⟨7, 3, 0, 30, 30, ⟨640, 480⟩, ⟨640, 480⟩, 500000, 2000000, 1000⟩]
        7 = .ok () ∧
      validateCameraSelectedAudio ⟨some ⟨2, [0], [48000], [16]⟩, 5000000⟩
        [⟨9, 3, 0, 1, 48000, 32000, 16⟩] 9 = some (.ok ()) :=
  ⟨(allocated_stream_starts 1 1).1 {} (MatterCameraVideoStreamOptions.request {})
      { capabilities := .ok ⟨true, [3, 6], [4]⟩
        limits := .ok ⟨⟨1920, 1080⟩, 60, ⟨320, 240⟩, [3]⟩
        streamId := .ok 7
        streams := .ok
          [⟨7, 3, 0, 30, 30, ⟨640, 480⟩, ⟨640, 480⟩, 500000, 2000000, 1000⟩] } _ {} _ _ rfl rfl rfl,
    (allocated_stream_starts 1 1).2 ⟨0, 1, 48000, 32000, 16⟩
      (MatterCameraAudioStreamOptions.request ⟨0, 1, 48000, 32000, 16⟩)
      { capabilities := .ok ⟨some ⟨2, [0], [48000], [16]⟩, 5000000⟩
        usages := .ok [3]
        streamId := .ok 9
        streams := .ok [⟨9, 3, 0, 1, 48000, 32000, 16⟩] } _ _ {} _ _ rfl rfl rfl rfl⟩

end AllocationStages
