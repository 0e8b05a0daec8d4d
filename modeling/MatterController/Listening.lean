import MatterController.CameraSelections
import MatterController.StreamOptions

/-!
# When a microphone can be listened to

A microphone advertises how many channels it has and three lists: codecs, sample rates and
bit depths. The lists are kept as they are reported, with entries that no request can use.
Whether an application may ask for its sound is decided three times. `SupportsListening`
looks at the microphone before there is a request, the snapshot of the options looks at the
request before there is a microphone, and `Validate` looks at both.

`canListen_iff` says that the first is exactly what is left of the other two when the options
are forgotten: the gate is open where some options pass both.
-/

/-- A codec that can be encoded. -/
def EncodableCodec (codec : UInt8) : Prop := codec = opusCodec ∨ codec = aacLcCodec

/-- A bit depth that can be encoded. -/
def EncodableDepth (depth : UInt8) : Prop := depth = 8 ∨ depth = 16 ∨ depth = 24 ∨ depth = 32

namespace MatterCameraAudioFormatCapabilities

/-- **The conditions of `SupportsListening`** on the microphone. -/
def canListen (m : MatterCameraAudioFormatCapabilities) : Bool :=
  1 ≤ m.maximumChannels && m.maximumChannels ≤ 8 &&
    (m.sampleRates.any fun rate => rate != 0) &&
    (m.codecs.contains opusCodec || m.codecs.contains aacLcCodec) &&
    m.bitDepths.any fun depth => depth == 8 || depth == 16 || depth == 24 || depth == 32

/-- What the gate looks for in the lists. -/
theorem canListen_iff_exists {m : MatterCameraAudioFormatCapabilities} :
    m.canListen = true ↔ (1 ≤ m.maximumChannels ∧ m.maximumChannels ≤ 8) ∧
      (∃ rate ∈ m.sampleRates, rate ≠ 0) ∧ (∃ codec ∈ m.codecs, EncodableCodec codec) ∧
      ∃ depth ∈ m.bitDepths, EncodableDepth depth := by
  have hcodecs : (∃ codec ∈ m.codecs, EncodableCodec codec) ↔
      opusCodec ∈ m.codecs ∨ aacLcCodec ∈ m.codecs := by
    constructor
    · rintro ⟨codec, hmem, rfl | rfl⟩
      · exact Or.inl hmem
      · exact Or.inr hmem
    · rintro (hmem | hmem)
      · exact ⟨opusCodec, hmem, Or.inl rfl⟩
      · exact ⟨aacLcCodec, hmem, Or.inr rfl⟩
  rw [hcodecs]
  unfold canListen EncodableDepth
  simp only [Bool.and_eq_true, Bool.or_eq_true, decide_eq_true_eq, List.any_eq_true, bne_iff_ne,
    beq_iff_eq, List.contains_iff_mem, and_assoc, or_assoc]

/-- What the check of a request asks. -/
theorem validate_ok_iff {m : MatterCameraAudioFormatCapabilities} {r : AudioStreamAllocate} :
    m.validate r = .ok () ↔ (m.maximumChannels ≠ 0 ∧ m.maximumChannels ≤ 8) ∧
      (r.channelCount ≠ 0 ∧ r.channelCount ≤ m.maximumChannels) ∧ r.sampleRate ≠ 0 ∧
      r.bitDepth ≠ 0 ∧ r.audioCodec ∈ m.codecs ∧ r.sampleRate ∈ m.sampleRates ∧
      r.bitDepth ∈ m.bitDepths := by
  unfold validate
  split
  · rename_i hrefused
    refine ⟨(by rintro ⟨⟩), fun h => absurd hrefused ?_⟩
    simp only [Bool.or_eq_true, not_or, beq_iff_eq, decide_eq_true_eq, gt_iff_lt, UInt8.not_lt,
      not_not]
    tauto
  · rename_i haccepted
    simp only [Bool.or_eq_true, not_or, beq_iff_eq, decide_eq_true_eq, gt_iff_lt, UInt8.not_lt,
      not_not] at haccepted
    refine ⟨fun _ => ?_, fun _ => rfl⟩
    tauto

end MatterCameraAudioFormatCapabilities

/-- What the snapshot of the options asks. -/
theorem MatterCameraAudioStreamOptions.snapshot_ok_iff {o : MatterCameraAudioStreamOptions}
    {r : AudioStreamAllocate} :
    o.snapshot = .ok r ↔ r = o.request ∧ EncodableCodec o.audioCodec ∧
      (o.channels ≠ 0 ∧ o.channels ≤ 8) ∧ o.sampleRate ≠ 0 ∧ o.bitRate ≠ 0 ∧
      EncodableDepth o.bitDepth := by
  unfold snapshot request EncodableCodec EncodableDepth
  dsimp only
  split
  · rename_i hrefused
    refine ⟨(by rintro ⟨⟩), fun h => absurd hrefused ?_⟩
    simp only [Bool.or_eq_true, Bool.and_eq_true, not_or, not_and_or, beq_iff_eq, bne_iff_ne,
      decide_eq_true_eq, gt_iff_lt, UInt8.not_lt, not_not]
    tauto
  · rename_i haccepted
    simp only [Bool.or_eq_true, Bool.and_eq_true, not_or, not_and_or, beq_iff_eq, bne_iff_ne,
      decide_eq_true_eq, gt_iff_lt, UInt8.not_lt, not_not] at haccepted
    refine ⟨fun h => ⟨(Except.ok.inj h).symm, ?_⟩, fun h => congrArg Except.ok h.1.symm⟩
    tauto

namespace CameraSelections

/-- The gate of `SupportsListening` asks the camera, and then the microphone. -/
theorem AudioCapabilities.supportsListening_iff {c : AudioCapabilities} :
    c.supportsListening = true ↔ c.camera.isCameraAudioAdapter = true ∧
      c.camera.cameraOffersAudio = true ∧
      ∃ microphone, c.microphone = some microphone ∧ microphone.canListen = true := by
  unfold AudioCapabilities.supportsListening MatterCameraAudioFormatCapabilities.canListen
  cases c.microphone with
  | none => simp
  | some microphone =>
    simp only [Option.any_some, Bool.and_eq_true, Option.some.injEq, exists_eq_left', and_assoc]

/-- **The gate admits a microphone exactly where some request can use it.** Whatever it
advertises, the conditions of `SupportsListening` on it hold where there are options of which
a snapshot can be taken, and the microphone accepts the request of that snapshot. These
conditions are all that `SupportsListening` asks of a microphone. -/
theorem canListen_iff (m : MatterCameraAudioFormatCapabilities) (c : AudioCapabilities) :
    (m.canListen = true ↔ ∃ (o : MatterCameraAudioStreamOptions) (r : AudioStreamAllocate),
      o.snapshot = .ok r ∧ m.validate r = .ok ()) ∧
    (c.supportsListening = true ↔ c.camera.isCameraAudioAdapter = true ∧
      c.camera.cameraOffersAudio = true ∧
      ∃ microphone, c.microphone = some microphone ∧ microphone.canListen = true) := by
  refine ⟨?_, AudioCapabilities.supportsListening_iff⟩
  rw [MatterCameraAudioFormatCapabilities.canListen_iff_exists]
  constructor
  · -- one channel, any bit rate, and of each list the entry the gate has found
    rintro ⟨⟨hone, height⟩, ⟨rate, hrate, hrate0⟩, ⟨codec, hcodec, hencodable⟩, depth, hdepth,
      hdepths⟩
    have hchannels : (1 : UInt8) ≠ 0 ∧ (1 : UInt8) ≤ 8 := by decide
    have hbits : (1 : UInt32) ≠ 0 := by decide
    have hmaximum : m.maximumChannels ≠ 0 := UInt8.pos_iff_ne_zero.mp hone
    have hdepth0 : depth ≠ 0 := by
      rcases hdepths with rfl | rfl | rfl | rfl <;> decide
    exact ⟨⟨codec, 1, rate, 1, depth⟩, _, MatterCameraAudioStreamOptions.snapshot_ok_iff.mpr
      ⟨rfl, hencodable, hchannels, hrate0, hbits, hdepths⟩,
      MatterCameraAudioFormatCapabilities.validate_ok_iff.mpr
        ⟨⟨hmaximum, height⟩, ⟨hchannels.1, hone⟩, hrate0, hdepth0, hcodec, hrate, hdepth⟩⟩
  · rintro ⟨o, r, hsnapshot, hvalidate⟩
    obtain ⟨rfl, hcodec, -, -, -, hdepth⟩ :=
      MatterCameraAudioStreamOptions.snapshot_ok_iff.mp hsnapshot
    obtain ⟨⟨h0, height⟩, -, hrate0, -, hcodecs, hrates, hdepths⟩ :=
      MatterCameraAudioFormatCapabilities.validate_ok_iff.mp hvalidate
    exact ⟨⟨UInt8.pos_iff_ne_zero.mpr h0, height⟩, ⟨_, hrates, hrate0⟩, ⟨_, hcodecs, hcodec⟩,
      _, hdepths, hdepth⟩

end CameraSelections
