import MatterController.CameraSelections
import MatterController.StreamOptions

/-!
# The audio formats an app proposes

An app that wants the sound of a camera chooses a sample rate and a bit rate before it
allocates a stream, from what the camera advertises, what its own media engine supports and
what the video leaves of the bandwidth. `CameraAudioProfiles` makes a short list of such
profiles, and puts first the one that has worked with the same camera, engine and video less
than five minutes ago.

What it chooses is checked three times over by the SDK, in places that know nothing of it: the
snapshot of the options, the allocation, and the start of a session on the stream that was
allocated. `prepare_accepted` says that a profile on the list passes all of them, if two things
that the choice does not look at are as they should be: the camera lists the usage LiveView, and
the table of ownership grants the reservation. What is remembered decides the order of the list,
and never whether there is one (`prepare_reorders`).
-/

namespace CameraAudioProfiles

/-- **A profile.** -/
structure Profile where
  sampleRate : UInt32
  bitRate : UInt32
  bitDepth : UInt8 := 16
  deriving DecidableEq, Repr

/-- `Options`: the codec is Opus, with one channel. -/
def Profile.options (p : Profile) : MatterCameraAudioStreamOptions where
  audioCodec := 0
  channels := 1
  sampleRate := p.sampleRate
  bitRate := p.bitRate
  bitDepth := p.bitDepth

/-- **What a camera offers** (`MatterCameraAudioCapabilities`), with its speaker, and the number
its features are. -/
structure Offer extends CameraSelections.AudioCapabilities where
  speaker : Option MatterCameraAudioFormatCapabilities
  twoWayTalkSupport : Option UInt8
  speakerMuted : Option Bool
  speakerVolume : Option UInt8
  featureNumber : UInt32

/-- **What the media engine supports**, with the text it says it in. -/
structure Engine where
  codecs : List String
  maximumChannels : UInt8
  sampleRates : List UInt32
  bitDepths : List UInt8
  sourceBitDepths : Option (List UInt8)
  rawText : String

/-- **What a list is prepared for.** -/
structure Inputs where
  endpoint : UInt16
  firmware : UInt32
  offer : Offer
  engine : Engine
  talk : Bool
  videoBitRate : UInt32

/-- Why there is no list. -/
inductive Unsupported
  | microphone
  | talkback
  | bitDepth
  | sampleRate
  deriving DecidableEq, Repr

/-! ## The candidates -/

/-- Formats that Opus can be used with. -/
def usable (formats : MatterCameraAudioFormatCapabilities) : Bool :=
  1 ≤ formats.maximumChannels && formats.maximumChannels ≤ 8 && formats.codecs.contains 0

/-- The test of the camera and of the engine, with the microphone it makes sure of. -/
def Inputs.listening (i : Inputs) : Except Unsupported MatterCameraAudioFormatCapabilities :=
  match i.offer.microphone with
  | none => .error .microphone
  | some microphone =>
    if !i.offer.supportsListening || i.offer.privacyEnabled ||
        i.offer.camera.streamManagement.revision != 2 ||
        i.offer.camera.transportProvider.revision != 2 || !usable microphone ||
        !i.engine.codecs.contains "audio/opus" || i.engine.maximumChannels < 1 then
      .error .microphone
    else .ok microphone

/-- The test of the speaker, which is made for a talk. -/
def Inputs.talking (i : Inputs) : Except Unsupported Unit :=
  if i.talk && (i.offer.twoWayTalkSupport != some 2 || !i.offer.speaker.any usable ||
      i.offer.speakerMuted == some true || i.offer.speakerVolume == some 0) then
    .error .talkback
  else .ok ()

/-- What the video leaves of the bandwidth, for one direction. -/
def Inputs.available (i : Inputs) : UInt32 :=
  if i.offer.maximumNetworkBandwidth > i.videoBitRate then
    (i.offer.maximumNetworkBandwidth - i.videoBitRate) / (if i.talk then 2 else 1)
  else 0

/-- The bit depths of the engine: those of its source, where it says so. -/
def Engine.depths (engine : Engine) : List UInt8 :=
  engine.sourceBitDepths.getD engine.bitDepths

/-- A talk asks the same of the speaker. -/
def Inputs.speaks (i : Inputs) (test : MatterCameraAudioFormatCapabilities → Bool) : Bool :=
  !i.talk || i.offer.speaker.any test

/-- The bit depth of all candidates: the first that all sides have. -/
def Inputs.depth (i : Inputs) (microphone : MatterCameraAudioFormatCapabilities) : Option UInt8 :=
  [16, 24, 32, 8].find? fun value =>
    i.engine.depths.contains value && microphone.bitDepths.contains value &&
      i.speaks fun speaker => speaker.bitDepths.contains value

/-- A sample rate that all sides have, and bandwidth to use it. -/
def Inputs.hasRate (i : Inputs) (microphone : MatterCameraAudioFormatCapabilities)
    (rate : UInt32) : Bool :=
  i.engine.sampleRates.contains rate && microphone.sampleRates.contains rate &&
    (i.speaks fun speaker => speaker.sampleRates.contains rate) && 6000 ≤ i.available

/-- The bit rate of a candidate. -/
def Inputs.bitRate (i : Inputs) (rate : UInt32) : UInt32 :=
  min i.available (min 64000 (rate * 2))

/-- The rates that are tried, the preferred first. -/
def sampleRates : List UInt32 := [48000, 24000, 16000, 12000, 8000]

/-- One candidate for each rate. -/
def Inputs.rated (i : Inputs) (microphone : MatterCameraAudioFormatCapabilities) (depth : UInt8) :
    List Profile :=
  (sampleRates.filter (i.hasRate microphone)).map fun rate => ⟨rate, i.bitRate rate, depth⟩

/-- Where there are few candidates, the preferred one is tried again with less. -/
def reduced (candidates : List Profile) : List Profile :=
  match candidates with
  | [] => []
  | preferred :: rest =>
    if (preferred :: rest).length < 3 then
      preferred :: rest ++ (([32000, 20000] : List UInt32).filter (· < preferred.bitRate)).map
        fun budget => { preferred with bitRate := budget }
    else preferred :: rest

/-- **The candidates**, as they are before anything is remembered. -/
def Inputs.candidates (i : Inputs) : Except Unsupported (List Profile) := do
  let microphone ← i.listening
  i.talking
  let depth ← (i.depth microphone).elim (.error .bitDepth) .ok
  .ok (reduced (i.rated microphone depth))

/-! ## The list -/

/-- Values, as they are joined for the key. -/
def joined {α : Type} [ToString α] (values : List α) : String :=
  String.intercalate "," (values.map toString)

/-- What the key says of formats there may be. -/
def formatsKey (formats : Option MatterCameraAudioFormatCapabilities) : List String :=
  [formats.elim "" fun f => toString f.maximumChannels,
    joined (formats.elim [] (·.codecs)), joined (formats.elim [] (·.sampleRates)),
    joined (formats.elim [] (·.bitDepths))]

/-- **The key** of what a list is prepared for. -/
def Inputs.key (i : Inputs) : String :=
  String.intercalate ":" <|
    [toString i.endpoint, toString i.firmware, if i.talk then "True" else "False",
      toString i.videoBitRate, toString i.offer.maximumNetworkBandwidth,
      toString i.offer.featureNumber, i.offer.twoWayTalkSupport.elim "" toString] ++
    formatsKey i.offer.microphone ++ formatsKey i.offer.speaker ++ [i.engine.rawText]

/-- **What is remembered**: a profile that has worked, under its key, and until when; and the
key of the list that was prepared last. Times are in ticks. -/
structure Profiles where
  successfulKey : Option String := none
  successfulProfile : Option Profile := none
  expires : ℕ := 0
  currentKey : String := ""

/-- The ticks of five minutes. -/
abbrev fiveMinutes : ℕ := 5 * 60 * 10000000

namespace Profiles

/-- `Invalidate`. -/
def invalidate (s : Profiles) : Profiles :=
  { s with successfulKey := none, successfulProfile := none }

/-- `InvalidateIfExpired`. -/
def invalidateIfExpired (s : Profiles) (now : ℕ) : Profiles :=
  if now ≥ s.expires then s.invalidate else s

/-- `Remember`. -/
def remember (s : Profiles) (p : Profile) (now : ℕ) : Profiles :=
  { s with
    successfulKey := some s.currentKey
    successfulProfile := some p
    expires := now + fiveMinutes }

/-- The list with the remembered profile first, where it is on the list. -/
def order (s : Profiles) (candidates : List Profile) : List Profile :=
  match s.successfulProfile with
  | none => candidates
  | some p => if p ∈ candidates then p :: candidates.erase p else candidates

/-- The end of `Prepare`, for the candidates. -/
def offerInOrder (s : Profiles) (key : String) (candidates : List Profile) :
    Except Unsupported (List Profile) × Profiles :=
  let s := { s with currentKey := key }
  let s := if s.successfulKey ≠ some s.currentKey then s.invalidate else s
  let candidates := s.order candidates
  (if candidates = [] then .error .sampleRate else .ok (candidates.take 3), s)

/-- **`Prepare`.** -/
def prepare (s : Profiles) (i : Inputs) (now : ℕ) : Except Unsupported (List Profile) × Profiles :=
  let s := s.invalidateIfExpired now
  match i.candidates with
  | .error e => (.error e, s)
  | .ok candidates => s.offerInOrder i.key candidates

end Profiles

/-! ## What a candidate has -/

/-- Bit depths that can be encoded. -/
def encodable (depth : UInt8) : Prop := depth = 16 ∨ depth = 24 ∨ depth = 32 ∨ depth = 8

/-- **What every candidate has**: the microphone has its sample rate and its bit depth, and so
have the engine and, for a talk, the speaker; its bit rate is not zero, and what is left of the
bandwidth is enough for it in each direction. -/
structure Inputs.Fits (i : Inputs) (microphone : MatterCameraAudioFormatCapabilities)
    (p : Profile) : Prop where
  rate : p.sampleRate ∈ sampleRates
  depth : encodable p.bitDepth
  microphoneRate : p.sampleRate ∈ microphone.sampleRates
  microphoneDepth : p.bitDepth ∈ microphone.bitDepths
  engineRate : p.sampleRate ∈ i.engine.sampleRates
  engineDepth : p.bitDepth ∈ i.engine.depths
  speaker : i.talk = true → ∃ speaker, i.offer.speaker = some speaker ∧
    p.sampleRate ∈ speaker.sampleRates ∧ p.bitDepth ∈ speaker.bitDepths
  bitRate : p.bitRate ≠ 0
  available : p.bitRate ≤ i.available

/-- The lesser of two is not below what neither is below, and not above the first. -/
theorem le_min_of_le {a b c : UInt32} (hb : a ≤ b) (hc : a ≤ c) : a ≤ min b c := by
  show a ≤ if b ≤ c then b else c
  split
  · exact hb
  · exact hc

theorem min_le_first (a b : UInt32) : min a b ≤ a := by
  show (if a ≤ b then a else b) ≤ a
  split
  · exact UInt32.le_refl a
  · rename_i h
    exact UInt32.le_of_lt (UInt32.not_le.mp h)

section Candidates

variable {i : Inputs} {microphone : MatterCameraAudioFormatCapabilities} {depth : UInt8}

/-- What is asked of the speaker. -/
theorem Inputs.speaks_iff {test : MatterCameraAudioFormatCapabilities → Bool} :
    i.speaks test = true ↔ (i.talk = true → ∃ speaker, i.offer.speaker = some speaker ∧
      test speaker = true) := by
  unfold Inputs.speaks
  cases i.talk with
  | false => simp
  | true => simp [Option.any_eq_true]

theorem fits_of_mem_rated (hdepth : i.depth microphone = some depth) {p : Profile}
    (hp : p ∈ i.rated microphone depth) : i.Fits microphone p := by
  obtain ⟨rate, hrate, rfl⟩ := List.mem_map.mp hp
  obtain ⟨hmem, hhas⟩ := List.mem_filter.mp hrate
  simp only [Inputs.hasRate, Bool.and_eq_true, List.contains_iff_mem, decide_eq_true_eq] at hhas
  obtain ⟨⟨⟨hengine, hmicrophone⟩, hspeaks⟩, henough⟩ := hhas
  have hin := List.mem_of_find?_eq_some hdepth
  have hsides := List.find?_some hdepth
  simp only [Bool.and_eq_true, List.contains_iff_mem] at hsides
  obtain ⟨⟨hengineDepth, hmicrophoneDepth⟩, hspeaksDepth⟩ := hsides
  have hencodable : encodable depth := by
    simp only [List.mem_cons, List.not_mem_nil, or_false] at hin
    exact hin
  have hbudget : 6000 ≤ min (64000 : UInt32) (rate * 2) := by
    simp only [sampleRates, List.mem_cons, List.not_mem_nil, or_false] at hmem
    rcases hmem with rfl | rfl | rfl | rfl | rfl <;> decide
  have hbitRate : 6000 ≤ i.bitRate rate := le_min_of_le henough hbudget
  exact
    { rate := hmem
      depth := hencodable
      microphoneRate := hmicrophone
      microphoneDepth := hmicrophoneDepth
      engineRate := hengine
      engineDepth := hengineDepth
      speaker := fun ht => by
        obtain ⟨speaker, hs, hr⟩ := Inputs.speaks_iff.mp hspeaks ht
        obtain ⟨speaker', hs', hd⟩ := Inputs.speaks_iff.mp hspeaksDepth ht
        rw [hs] at hs'
        cases hs'
        exact ⟨speaker, hs, List.contains_iff_mem.mp hr, List.contains_iff_mem.mp hd⟩
      bitRate := fun h0 => by
        rw [show i.bitRate rate = 0 from h0] at hbitRate
        exact absurd hbitRate (by decide)
      available := min_le_first _ _ }

/-- A candidate with a bit rate that is less fits too. -/
theorem Inputs.Fits.less {p : Profile} (h : i.Fits microphone p) {budget : UInt32}
    (hpos : budget ≠ 0) (hless : budget < p.bitRate) :
    i.Fits microphone { p with bitRate := budget } :=
  { h with bitRate := hpos, available := UInt32.le_trans (UInt32.le_of_lt hless) h.available }

/-- The candidates with less that are added. -/
theorem mem_reduced {ps : List Profile} {p : Profile} (h : p ∈ reduced ps) :
    p ∈ ps ∨ ∃ q ∈ ps, ∃ budget : UInt32, budget ≠ 0 ∧ budget < q.bitRate ∧
      p = { q with bitRate := budget } := by
  cases ps with
  | nil => cases h
  | cons q rest =>
    rw [reduced] at h
    split at h
    · rcases List.mem_append.mp h with h | h
      · exact Or.inl h
      · obtain ⟨budget, hb, rfl⟩ := List.mem_map.mp h
        obtain ⟨hin, hless⟩ := List.mem_filter.mp hb
        refine Or.inr ⟨q, List.mem_cons_self, budget, ?_, of_decide_eq_true hless, rfl⟩
        rcases List.mem_cons.mp hin with rfl | hin
        · decide
        · rw [List.mem_singleton.mp hin]
          decide
    · exact Or.inl h

/-- **Every candidate fits.** -/
theorem fits_of_mem_reduced (hdepth : i.depth microphone = some depth) {p : Profile}
    (hp : p ∈ reduced (i.rated microphone depth)) : i.Fits microphone p := by
  rcases mem_reduced hp with hp | ⟨q, hq, budget, hpos, hless, rfl⟩
  · exact fits_of_mem_rated hdepth hp
  · exact (fits_of_mem_rated hdepth hq).less hpos hless

/-- No rate is a candidate twice. -/
theorem nodup_rated :
    ((i.rated microphone depth).map Profile.sampleRate).Nodup := by
  rw [Inputs.rated, List.map_map]
  have hid : (Profile.sampleRate ∘ fun rate => ⟨rate, i.bitRate rate, depth⟩) = id := rfl
  rw [hid, List.map_id]
  exact List.Nodup.filter _ (by decide)

/-- **No candidate is there twice**: what is added has the rate of the first, and a bit rate of
its own. -/
theorem nodup_reduced {ps : List Profile} (h : (ps.map Profile.sampleRate).Nodup) :
    (reduced ps).Nodup := by
  cases ps with
  | nil => exact List.nodup_nil
  | cons q rest =>
    have hps : (q :: rest).Nodup := h.of_map _
    rw [reduced]
    split
    · refine List.nodup_append.mpr ⟨hps, ?_, ?_⟩
      · refine List.Nodup.map (fun a b hab => ?_) (List.Nodup.filter _ (by decide))
        exact congrArg Profile.bitRate hab
      · intro p hp r hr he
        obtain ⟨budget, hb, rfl⟩ := List.mem_map.mp hr
        have hless := of_decide_eq_true (List.mem_filter.mp hb).2
        rcases List.mem_cons.mp hp with rfl | hp
        · exact UInt32.ne_of_lt hless (congrArg Profile.bitRate he).symm
        · exact (List.nodup_cons.mp h).1
            (List.mem_map.mpr ⟨p, hp, by rw [he]⟩)
    · exact hps

end Candidates

/-! ## What the SDK accepts -/

/-- **The answers of a camera that still is what it was offered as**, to an allocation that
nobody cancels. It also lists the usage LiveView, and the reservation is granted, neither of
which is in the offer. -/
structure Answers (offer : Offer) (a : AllocationStages.AudioAnswers) : Prop where
  descriptor : a.descriptor = .ok ()
  capabilities : a.capabilities = .ok offer.toMatterCameraAudioCapabilities
  offersAudio : a.offersAudio = offer.supportsListening
  privacyEnabled : a.privacyEnabled = .ok offer.privacyEnabled
  usages : ∃ usages, a.usages = .ok usages ∧ liveViewUsage ∈ usages
  reserve : a.reserve = .ok ()

/-- **A profile that the SDK accepts** wherever it looks at it: its options have a snapshot;
the microphone allows the request, and for a talk so does the speaker; the network has the
bandwidth for it beside the video, in both directions for a talk; an allocation that is answered
so comes to its command; and a session can be started on a stream that was allocated as
requested. -/
structure Profile.Accepted (i : Inputs) (p : Profile) : Prop where
  snapshot : p.options.snapshot = .ok p.options.request
  microphone : ∃ microphone, i.offer.microphone = some microphone ∧
    microphone.validate p.options.request = .ok ()
  speaker : i.talk = true → ∃ speaker, i.offer.speaker = some speaker ∧
    speaker.validate p.options.request = .ok ()
  bandwidth : i.videoBitRate.toNat + (if i.talk then 2 else 1) * p.bitRate.toNat ≤
    i.offer.maximumNetworkBandwidth.toNat
  allocates : ∀ (node : UInt64) (a : AllocationStages.AudioAnswers)
    (s : AllocationStages.Allocation),
    (isOperationalNodeId node && i.endpoint != invalidEndpointId) = true → Answers i.offer a →
    ∃ t, AllocationStages.prepareAudio node i.endpoint p.options.request a s = .ok () t
  starts : ∀ (streams : List MatterCameraAudioStream) (id : UInt16)
    (stream : MatterCameraAudioStream),
    (streams.find? fun stream => stream.streamId == id) = some stream →
    p.options.request.validateAllocated stream = .ok () →
    validateCameraSelectedAudio i.offer.toMatterCameraAudioCapabilities streams id = some (.ok ())

/-- A profile that fits usable formats is valid for them. -/
theorem validate_of_usable {formats : MatterCameraAudioFormatCapabilities} {p : Profile}
    (h : usable formats = true) (hrate : p.sampleRate ∈ formats.sampleRates)
    (hpos : p.sampleRate ≠ 0) (hdepth : p.bitDepth ∈ formats.bitDepths) (hd : p.bitDepth ≠ 0) :
    formats.validate p.options.request = .ok () := by
  simp only [usable, Bool.and_eq_true, decide_eq_true_eq, List.contains_iff_mem] at h
  obtain ⟨⟨hone, height⟩, hcodec⟩ := h
  have hchannels : formats.maximumChannels ≠ 0 := by
    rintro h0
    rw [h0] at hone
    exact absurd hone (by decide)
  unfold MatterCameraAudioFormatCapabilities.validate
  rw [if_neg]
  simp only [Bool.or_eq_true, beq_iff_eq, decide_eq_true_eq, not_or, not_not]
  exact ⟨⟨⟨⟨⟨⟨⟨⟨hchannels, UInt8.not_lt.mpr height⟩, (by decide : (1 : UInt8) ≠ 0)⟩,
    UInt8.not_lt.mpr hone⟩, hpos⟩, hd⟩, hcodec⟩, hrate⟩, hdepth⟩

/-- The rates that are tried are none of them zero. -/
theorem ne_zero_of_mem_sampleRates {rate : UInt32} (h : rate ∈ sampleRates) : rate ≠ 0 := by
  rintro rfl
  exact absurd h (by decide)

theorem encodable.ne_zero {depth : UInt8} (h : encodable depth) : depth ≠ 0 := by
  rcases h with rfl | rfl | rfl | rfl <;> decide

/-- Its options have a snapshot. -/
theorem Inputs.Fits.snapshot {i : Inputs} {microphone : MatterCameraAudioFormatCapabilities}
    {p : Profile} (h : i.Fits microphone p) :
    p.options.snapshot = .ok p.options.request := by
  have hrate := ne_zero_of_mem_sampleRates h.rate
  have hdepth := h.depth
  unfold encodable at hdepth
  unfold MatterCameraAudioStreamOptions.snapshot
  dsimp only
  rw [if_neg]
  simp only [Profile.options, MatterCameraAudioStreamOptions.request, Bool.or_eq_true,
    Bool.and_eq_true, bne_iff_ne, beq_iff_eq, not_or, not_and_or, not_not]
  exact ⟨⟨⟨⟨⟨Or.inl trivial, by simp⟩, by simp⟩, hrate⟩, h.bitRate⟩, by tauto⟩

/-- The bandwidth is enough for the video and for each direction. -/
theorem Inputs.Fits.bandwidth {i : Inputs} {microphone : MatterCameraAudioFormatCapabilities}
    {p : Profile} (h : i.Fits microphone p) :
    i.videoBitRate.toNat + (if i.talk then 2 else 1) * p.bitRate.toNat ≤
      i.offer.maximumNetworkBandwidth.toNat := by
  have havailable := UInt32.le_iff_toNat_le.mp h.available
  have hpos : 0 < p.bitRate.toNat := Nat.pos_of_ne_zero fun h0 =>
    h.bitRate (UInt32.toNat_inj.mp h0)
  unfold Inputs.available at havailable
  split at havailable
  · rename_i hmore
    have hsub : (i.offer.maximumNetworkBandwidth - i.videoBitRate).toNat =
        i.offer.maximumNetworkBandwidth.toNat - i.videoBitRate.toNat :=
      UInt32.toNat_sub_of_le _ _ (UInt32.le_of_lt hmore)
    have hlt := UInt32.lt_iff_toNat_lt.mp hmore
    rw [UInt32.toNat_div, hsub] at havailable
    cases ht : i.talk with
    | false =>
      rw [ht] at havailable
      simp at havailable ⊢
      omega
    | true =>
      rw [ht] at havailable
      simp at havailable ⊢
      omega
  · rw [UInt32.toNat_zero] at havailable
    omega

open AllocationStages Effects in
/-- **An allocation comes to its command** where every test before it is passed. -/
theorem prepareAudio_ok {offer : Offer} {a : AudioAnswers} (ha : Answers offer a)
    {microphone : MatterCameraAudioFormatCapabilities}
    (hmicrophone : offer.microphone = some microphone) (hlisten : offer.supportsListening = true)
    (hprivacy : offer.privacyEnabled = false) {request : AudioStreamAllocate}
    (husage : request.streamUsage = liveViewUsage)
    (hvalid : microphone.validate request = .ok ())
    (hbandwidth : request.bitRate ≤ offer.maximumNetworkBandwidth) {node : UInt64}
    {endpoint : UInt16}
    (hnode : (isOperationalNodeId node && endpoint != invalidEndpointId) = true)
    (s : Allocation) : ∃ t, prepareAudio node endpoint request a s = .ok () t := by
  obtain ⟨usages, husages, hlive⟩ := ha.usages
  have hread : readCameraAudioCapabilities node endpoint a s = .ok
      (offer.toMatterCameraAudioCapabilities, false) { s with stage := .privacy } := by
    unfold readCameraAudioCapabilities
    rw [ha.descriptor, ha.capabilities, ha.privacyEnabled, hprivacy, hnode]
    rfl
  have hlistening : requireListening a offer.toMatterCameraAudioCapabilities false
      { s with stage := .privacy } = .ok microphone { s with stage := .privacy } := by
    unfold requireListening
    rw [ha.offersAudio, hlisten, hmicrophone]
    rfl
  have hfits : (usages.contains request.streamUsage &&
      request.bitRate ≤ offer.maximumNetworkBandwidth) = true := by
    rw [husage]
    simp [hlive, hbandwidth]
  refine ⟨{ s with stage := .validation }, ?_⟩
  unfold prepareAudio
  show EStateM.bind _ _ s = _
  rw [EStateM.bind, hread]
  show EStateM.bind _ _ _ = _
  rw [EStateM.bind, hlistening]
  dsimp only
  rw [hvalid, husages, ha.reserve]
  show EStateM.bind (require _ _) _ _ = _
  rw [hfits]
  rfl

/-- What the test of the camera makes sure of. -/
theorem Inputs.of_listening {i : Inputs} {microphone : MatterCameraAudioFormatCapabilities}
    (h : i.listening = .ok microphone) : i.offer.microphone = some microphone ∧
      i.offer.supportsListening = true ∧ i.offer.privacyEnabled = false ∧
      usable microphone = true := by
  unfold Inputs.listening at h
  split at h
  · cases h
  · rename_i m hm
    split at h
    · cases h
    · rename_i htests
      cases h
      simp only [Bool.or_eq_true, not_or, Bool.not_eq_true, Bool.not_eq_false'] at htests
      obtain ⟨⟨⟨⟨⟨⟨hlisten, hprivacy⟩, -⟩, -⟩, husable⟩, -⟩, -⟩ := htests
      exact ⟨hm, hlisten, hprivacy, husable⟩

/-- What the test of the speaker makes sure of. -/
theorem Inputs.of_talking {i : Inputs} (h : i.talking = .ok ()) (ht : i.talk = true) :
    ∃ speaker, i.offer.speaker = some speaker ∧ usable speaker = true := by
  unfold Inputs.talking at h
  split at h
  · cases h
  · rename_i htests
    simp only [ht, Bool.true_and, Bool.or_eq_true, not_or, Bool.not_eq_true,
      Bool.not_eq_false'] at htests
    obtain ⟨hsome, hu⟩ := (Option.any_eq_true_iff_get _ _).mp htests.1.1.2
    exact ⟨_, (Option.some_get hsome).symm, hu⟩

/-- **A candidate is accepted.** -/
theorem accepted_of_fits {i : Inputs} {microphone : MatterCameraAudioFormatCapabilities}
    (hlistening : i.listening = .ok microphone) (htalking : i.talking = .ok ()) {p : Profile}
    (h : i.Fits microphone p) : p.Accepted i := by
  obtain ⟨hmicrophone, hlisten, hprivacy, husable⟩ := i.of_listening hlistening
  have hrate := ne_zero_of_mem_sampleRates h.rate
  have hvalid : microphone.validate p.options.request = .ok () :=
    validate_of_usable husable h.microphoneRate hrate h.microphoneDepth h.depth.ne_zero
  have hfits : p.options.request.bitRate ≤ i.offer.maximumNetworkBandwidth := by
    have hb := h.bandwidth
    apply UInt32.le_iff_toNat_le.mpr
    show p.bitRate.toNat ≤ _
    split at hb <;> omega
  refine
    { snapshot := h.snapshot
      microphone := ⟨microphone, hmicrophone, hvalid⟩
      speaker := fun ht => ?_
      bandwidth := h.bandwidth
      allocates := fun node a s hnode ha =>
        prepareAudio_ok ha hmicrophone hlisten hprivacy rfl hvalid hfits hnode s
      starts := fun streams id stream hfind hmatch =>
        validateCameraSelectedAudio_of_validateAllocated
          (MatterCameraAudioStreamOptions.checked_of_snapshot h.snapshot) hmicrophone hvalid hfits
          hfind hmatch }
  obtain ⟨speaker, hspeaker, hu⟩ := i.of_talking htalking ht
  obtain ⟨speaker', hspeaker', hr, hd⟩ := h.speaker ht
  rw [hspeaker] at hspeaker'
  cases hspeaker'
  exact ⟨speaker, hspeaker, validate_of_usable hu hr hrate hd h.depth.ne_zero⟩

/-! ## The list, in order -/

/-- What there is to know of candidates. -/
theorem Inputs.of_candidates {i : Inputs} {ps : List Profile} (h : i.candidates = .ok ps) :
    (∀ p ∈ ps, p.Accepted i) ∧ ps.Nodup := by
  unfold Inputs.candidates at h
  cases hlistening : i.listening with
  | error e => rw [hlistening] at h; cases h
  | ok microphone =>
    cases htalking : i.talking with
    | error e => rw [hlistening, htalking] at h; cases h
    | ok u =>
      cases hdepth : i.depth microphone with
      | none =>
        simp [hlistening, htalking, hdepth, bind, Except.bind] at h
      | some depth =>
        simp [hlistening, htalking, hdepth, bind, Except.bind] at h
        subst h
        exact ⟨fun p hp => accepted_of_fits hlistening htalking (fits_of_mem_reduced hdepth hp),
          nodup_reduced nodup_rated⟩

/-- What is remembered changes the order of the candidates only. -/
theorem Profiles.order_perm (s : Profiles) (ps : List Profile) : (s.order ps).Perm ps := by
  unfold Profiles.order
  split
  · exact List.Perm.refl _
  · split
    · rename_i p hp
      exact (List.perm_cons_erase hp).symm
    · exact List.Perm.refl _

theorem Profiles.order_eq_nil {s : Profiles} {ps : List Profile} : s.order ps = [] ↔ ps = [] := by
  have hlength := (s.order_perm ps).length_eq
  rw [← List.length_eq_zero_iff, hlength, List.length_eq_zero_iff]

/-- The state a list is put in order by: what is remembered under another key is forgotten. -/
def Profiles.under (s : Profiles) (key : String) : Profiles :=
  let s := { s with currentKey := key }
  if s.successfulKey ≠ some s.currentKey then s.invalidate else s

/-- **How a list is made.** -/
theorem Profiles.prepare_eq (s : Profiles) (i : Inputs) (now : ℕ) :
    s.prepare i now = match i.candidates with
      | .error e => (.error e, s.invalidateIfExpired now)
      | .ok ps =>
        let t := (s.invalidateIfExpired now).under i.key
        (if ps = [] then .error .sampleRate else .ok ((t.order ps).take 3), t) := by
  unfold Profiles.prepare
  cases i.candidates with
  | error e => rfl
  | ok ps => exact Prod.ext (if_congr Profiles.order_eq_nil rfl rfl) rfl

/-- A list that is returned, and the candidates it is of. -/
theorem Profiles.of_prepare {s : Profiles} {i : Inputs} {now : ℕ} {ps : List Profile}
    (h : (s.prepare i now).1 = .ok ps) : ∃ qs, i.candidates = .ok qs ∧ qs ≠ [] ∧
      ps = (((s.invalidateIfExpired now).under i.key).order qs).take 3 := by
  rw [Profiles.prepare_eq] at h
  cases hc : i.candidates with
  | error e => rw [hc] at h; cases h
  | ok qs =>
    rw [hc] at h
    dsimp only at h
    split at h
    · cases h
    · rename_i hne
      cases h
      exact ⟨qs, rfl, hne, rfl⟩

/-- **A profile on the list is accepted**, by every check that the SDK makes of it. In every
state of what is remembered, at every time and for every camera, engine and video, the list has
one to three profiles, none of them twice, and whichever the app tries, its options have a
snapshot, microphone, speaker and bandwidth allow it, its allocation comes to the command as
long as the camera answers as before, lists LiveView, and the reservation is granted, and a
session starts on the stream that is allocated. -/
theorem prepare_accepted {s : Profiles} {i : Inputs} {now : ℕ} {ps : List Profile}
    (h : (s.prepare i now).1 = .ok ps) :
    ps ≠ [] ∧ ps.length ≤ 3 ∧ ps.Nodup ∧ ∀ p ∈ ps, p.Accepted i := by
  obtain ⟨qs, hqs, hne, rfl⟩ := Profiles.of_prepare h
  obtain ⟨haccepted, hnodup⟩ := Inputs.of_candidates hqs
  have hperm := Profiles.order_perm ((s.invalidateIfExpired now).under i.key) qs
  refine ⟨fun hnil => ?_, List.length_take_le _ _,
    (hperm.nodup_iff.mpr hnodup).sublist (List.take_sublist _ _),
    fun p hp => haccepted p (hperm.subset (List.mem_of_mem_take hp))⟩
  rcases List.take_eq_nil_iff.mp hnil with h3 | hnil
  · cases h3
  · exact hne (Profiles.order_eq_nil.mp hnil)

/-! ## What is remembered -/

/-- **What happens to what is remembered**: a list is prepared, a profile has worked, an attempt
has failed. -/
inductive Event
  | prepare (i : Inputs) (now : ℕ)
  | remember (p : Profile) (now : ℕ)
  | invalidate

/-- What an event leaves. -/
def Profiles.next (s : Profiles) : Event → Profiles
  | .prepare i now => (s.prepare i now).2
  | .remember p now => s.remember p now
  | .invalidate => s.invalidate

/-- What is remembered after some events. -/
def after (es : List Event) : Profiles := es.foldl Profiles.next {}

theorem after_concat (es : List Event) (e : Event) : after (es ++ [e]) = (after es).next e := by
  rw [after, List.foldl_append]
  rfl

/-- **A profile was remembered** after a list had been prepared under this key, until this time,
and nothing has invalidated it since. -/
def Remembered (es : List Event) (key : String) (p : Profile) (expires : ℕ) : Prop :=
  ∃ pre now post, es = pre ++ .remember p now :: post ∧ (after pre).currentKey = key ∧
    expires = now + fiveMinutes ∧ .invalidate ∉ post

/-- Other events leave it remembered. -/
theorem Remembered.concat {es : List Event} {key : String} {p : Profile} {expires : ℕ}
    (h : Remembered es key p expires) {e : Event} (he : e ≠ .invalidate) :
    Remembered (es ++ [e]) key p expires := by
  obtain ⟨pre, now, post, rfl, hkey, hexpires, hpost⟩ := h
  refine ⟨pre, now, post ++ [e], by simp, hkey, hexpires, fun hmem => ?_⟩
  rcases List.mem_append.mp hmem with hmem | hmem
  · exact hpost hmem
  · exact he (List.mem_singleton.mp hmem).symm

/-- What can be forgotten of what is remembered: all of it, or nothing. -/
theorem Profiles.kept_of_prepare {s : Profiles} {i : Inputs} {now : ℕ} {p : Profile}
    (h : (s.prepare i now).2.successfulProfile = some p) :
    s.successfulProfile = some p ∧ (s.prepare i now).2.successfulKey = s.successfulKey ∧
      (s.prepare i now).2.expires = s.expires := by
  have hexpired : (s.invalidateIfExpired now).successfulProfile = some p →
      s.successfulProfile = some p ∧ (s.invalidateIfExpired now).successfulKey = s.successfulKey ∧
        (s.invalidateIfExpired now).expires = s.expires := by
    unfold Profiles.invalidateIfExpired
    split
    · intro hnone
      cases hnone
    · exact fun hsome => ⟨hsome, rfl, rfl⟩
  rw [Profiles.prepare_eq] at h ⊢
  cases hc : i.candidates with
  | error e =>
    rw [hc] at h
    exact hexpired h
  | ok ps =>
    rw [hc] at h
    dsimp only [Profiles.under] at h ⊢
    split at h
    · cases h
    · rename_i hkey
      rw [if_neg hkey]
      exact hexpired h

/-- **What is remembered was remembered.** -/
theorem remembered_of_after (es : List Event) {p : Profile}
    (h : (after es).successfulProfile = some p) :
    ∃ key, (after es).successfulKey = some key ∧ Remembered es key p (after es).expires := by
  induction es using List.reverseRecOn with
  | nil => cases h
  | append_singleton es e ih =>
    rw [after_concat] at h ⊢
    cases e with
    | prepare i now =>
      obtain ⟨hp, hkey, hexpires⟩ := Profiles.kept_of_prepare h
      obtain ⟨key, hk, hr⟩ := ih hp
      rw [Profiles.next, hkey, hexpires]
      exact ⟨key, hk, hr.concat (by simp)⟩
    | remember q now =>
      cases h
      exact ⟨_, rfl, es, now, [], rfl, rfl, rfl, List.not_mem_nil⟩
    | invalidate => cases h

section Order

variable {s : Profiles} {key : String} {now : ℕ}

/-- What is remembered under the same key and has not expired is used. -/
theorem Profiles.under_of_remembered (hkey : s.successfulKey = some key) (hnow : now < s.expires) :
    (s.invalidateIfExpired now).under key = { s with currentKey := key } := by
  rw [Profiles.invalidateIfExpired, if_neg (Nat.not_le.mpr hnow), Profiles.under]
  dsimp only
  rw [if_neg (not_not.mpr hkey)]

/-- What is not is forgotten. -/
theorem Profiles.under_of_forgotten (h : s.successfulKey ≠ some key ∨ s.expires ≤ now) :
    ((s.invalidateIfExpired now).under key).successfulProfile = none := by
  unfold Profiles.invalidateIfExpired Profiles.under
  by_cases hnow : s.expires ≤ now
  · rw [if_pos hnow]
    dsimp only
    rw [if_pos (by simp [Profiles.invalidate])]
    rfl
  · rw [if_neg hnow]
    dsimp only
    rw [if_pos (h.resolve_right hnow)]
    rfl

/-- The remembered profile is put first, if it is on the list. -/
theorem Profiles.order_eq {p : Profile} (hp : s.successfulProfile = some p) (qs : List Profile) :
    s.order qs = if p ∈ qs then p :: qs.erase p else qs := by
  rw [Profiles.order, hp]

/-- **The order of a list**: that of the candidates, or the remembered profile before them. -/
theorem Profiles.of_order (s : Profiles) (key : String) (now : ℕ) (qs : List Profile) :
    (((s.invalidateIfExpired now).under key).order qs = qs) ∨
      ∃ p, s.successfulProfile = some p ∧ s.successfulKey = some key ∧ now < s.expires ∧
        p ∈ qs ∧ ((s.invalidateIfExpired now).under key).order qs = p :: qs.erase p := by
  by_cases h : s.successfulKey = some key ∧ now < s.expires
  · rw [Profiles.under_of_remembered h.1 h.2]
    rcases Option.eq_none_or_eq_some s.successfulProfile with hp | ⟨p, hp⟩
    · exact Or.inl (by rw [Profiles.order, hp])
    · have horder := Profiles.order_eq (s := { s with currentKey := key }) (p := p) hp qs
      by_cases hmem : p ∈ qs
      · exact Or.inr ⟨p, hp, h.1, h.2, hmem, horder.trans (if_pos hmem)⟩
      · exact Or.inl (horder.trans (if_neg hmem))
  · refine Or.inl ?_
    rw [Profiles.order, Profiles.under_of_forgotten]
    rcases not_and_or.mp h with h | h
    · exact Or.inl h
    · exact Or.inr (Nat.not_lt.mp h)

end Order

/-- Preparing a list notes its key. -/
theorem Profiles.currentKey_of_prepare {s : Profiles} {i : Inputs} {now : ℕ} {ps : List Profile}
    (h : (s.prepare i now).1 = .ok ps) : (s.prepare i now).2.currentKey = i.key := by
  obtain ⟨qs, hqs, -, -⟩ := Profiles.of_prepare h
  rw [Profiles.prepare_eq, hqs]
  dsimp only [Profiles.under]
  split <;> rfl

/-- **What is remembered decides the order, and nothing else.** After any lists that were
prepared, profiles that have worked and attempts that have failed, whether there is a list is as
if nothing were remembered. A list has the first three candidates, or before the first two
others the one that was remembered under the same key and for at most five minutes, with no
failure since. And a profile of a list that is remembered is the first of the next list for the
same. -/
theorem prepare_reorders (es : List Event) (i : Inputs) (now : ℕ) :
    (∀ e, ((after es).prepare i now).1 = .error e ↔
      (({} : Profiles).prepare i now).1 = .error e) ∧
    ∀ ps, ((after es).prepare i now).1 = .ok ps → ∃ qs, i.candidates = .ok qs ∧
      (ps = qs.take 3 ∨ ∃ p expires, ps = p :: (qs.erase p).take 2 ∧ p ∈ qs ∧
        Remembered es i.key p expires ∧ now < expires) ∧
      ∀ p ∈ ps, ∀ worked later, later < worked + fiveMinutes →
        ((after (es ++ [.prepare i now, .remember p worked])).prepare i later).1
          = .ok (p :: (qs.erase p).take 2) := by
  refine ⟨fun e => ?_, fun ps hps => ?_⟩
  · rw [Profiles.prepare_eq, Profiles.prepare_eq]
    cases i.candidates with
    | error e' => rfl
    | ok qs =>
      dsimp only
      by_cases hnil : qs = [] <;> simp [hnil]
  · obtain ⟨qs, hqs, hne, htake⟩ := Profiles.of_prepare hps
    refine ⟨qs, hqs, ?_, fun p hp worked later hlater => ?_⟩
    · rw [htake]
      rcases (after es).of_order i.key now qs with h | ⟨p, hp, hkey, hnow, hmem, h⟩
      · exact Or.inl (by rw [h])
      · obtain ⟨key, hk, hr⟩ := remembered_of_after es hp
        have hsame : i.key = key := Option.some.inj (hkey.symm.trans hk)
        rw [← hsame] at hr
        exact Or.inr ⟨p, _, by rw [h, List.take_succ_cons], hmem, hr, hnow⟩
    · have hmem : p ∈ qs := (Profiles.order_perm _ qs).subset
        (List.mem_of_mem_take (htake ▸ hp))
      have hafter : after (es ++ [.prepare i now, .remember p worked])
          = ((after es).prepare i now).2.remember p worked := by
        rw [after, List.foldl_append]
        rfl
      have hkey : (((after es).prepare i now).2.remember p worked).successfulKey = some i.key :=
        congrArg some (Profiles.currentKey_of_prepare hps)
      have hexpires : later < (((after es).prepare i now).2.remember p worked).expires := by
        rw [Profiles.remember]
        exact hlater
      rw [hafter, Profiles.prepare_eq, hqs]
      dsimp only
      rw [if_neg hne, Profiles.under_of_remembered hkey hexpires, Profiles.order_eq (p := p) rfl,
        if_pos hmem, List.take_succ_cons]

/-! ## A camera -/

/-- A camera with a microphone of two sample rates, and a speaker of the same. -/
def exampleInputs : Inputs where
  endpoint := 1
  firmware := 3
  talk := true
  videoBitRate := 500000
  offer :=
    { microphone := some ⟨1, [0], [48000, 16000], [16]⟩
      maximumNetworkBandwidth := 560000
      camera :=
        { descriptor := ⟨1, [], [cameraAvStreamManagementId, webRtcTransportProviderId],
            [webRtcTransportRequestorId], [⟨0x0142, 1⟩]⟩
          streamManagement := ⟨2, [.audio, .video],
            [.microphoneCapabilities, .allocatedAudioStreams, .supportedStreamUsages],
            [.audioStreamAllocate, .audioStreamDeallocate], [.audioStreamAllocateResponse]⟩
          transportProvider := ⟨2, [], [], [.provideOffer, .provideIceCandidates, .endSession],
            [.provideOfferResponse]⟩ }
      privacyEnabled := false
      speaker := some ⟨1, [0], [48000, 16000], [16]⟩
      twoWayTalkSupport := some 2
      speakerMuted := some false
      speakerVolume := none
      featureNumber := 3 }
  engine := ⟨["audio/opus"], 2, [48000, 24000, 16000], [32], some [16], ""⟩

/-- Its list: the bandwidth is short, and divided by two. -/
theorem prepare_example : (({} : Profiles).prepare exampleInputs 0).1
    = .ok [⟨48000, 30000, 16⟩, ⟨16000, 30000, 16⟩, ⟨48000, 20000, 16⟩] := by
  rfl

/-- The least of them is accepted. -/
theorem prepare_accepted_example : (⟨48000, 20000, 16⟩ : Profile).Accepted exampleInputs :=
  (prepare_accepted prepare_example).2.2.2 _ (by decide)

/-- The second has worked, and is the first a minute later. -/
theorem prepare_reorders_example :
    ((after [.prepare exampleInputs 0, .remember ⟨16000, 30000, 16⟩ 0]).prepare exampleInputs
        600000000).1
      = .ok [⟨16000, 30000, 16⟩, ⟨48000, 30000, 16⟩, ⟨48000, 20000, 16⟩] := by
  obtain ⟨qs, hqs, -, hfirst⟩ := (prepare_reorders [] exampleInputs 0).2 _ prepare_example
  have hcandidates : exampleInputs.candidates
      = .ok [⟨48000, 30000, 16⟩, ⟨16000, 30000, 16⟩, ⟨48000, 20000, 16⟩] := rfl
  cases hqs.symm.trans hcandidates
  exact hfirst ⟨16000, 30000, 16⟩ (by decide) 0 600000000 (by decide)

end CameraAudioProfiles
