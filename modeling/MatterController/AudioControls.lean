import MatterController.MalformedReads
import MatterController.PropertySetRoundTrip

/-!
# The controls of a camera's microphone and speaker

A camera may let its microphone and its speaker be muted, and their volumes be set. There are
four such controls, and one function that writes them, `WriteCameraAudioControl`. It reads
all that the camera offers for audio, asks `CameraAudioControlArguments` whether the control
can be set to the value, and writes what that returns. Between two writes it remembers
nothing: each goes by what the camera says at the time, and the camera says what it was sent
before.

So a write could be in the way of later ones: a volume out of its bounds would have every
further write of it refused, for the volume that is read is checked against the bounds too.
`controls_kept` rules this out. After any sequence of writes, a camera that stores what it is
sent has the values written last, and nothing else of what it offers has changed. Every
further write is answered as it would have been at first, to the byte and to the exception.

A value crosses the projection twice, as TLV that is written and as TLV that is read; so the
faithfulness of the native reader and writer is what the result rests on.
-/

namespace CameraAudioReads

open Effects

/-! ## The controls -/

/-- **A write of a control**: of the speaker or of the microphone, of its volume or whether
it is muted. A mute state is written as a number that is not zero. -/
structure ControlWrite where
  speaker : Bool
  volume : Bool
  value : UInt8
  deriving DecidableEq, Repr

namespace ControlWrite

/-- The attribute of a control. -/
def attributeId (w : ControlWrite) : StreamAttribute :=
  if w.volume then if w.speaker then .speakerVolumeLevel else .microphoneVolumeLevel
  else if w.speaker then .speakerMuted else .microphoneMuted

theorem attributeId_of_speaker {w : ControlWrite} (hs : w.speaker = true) :
    w.attributeId = if w.volume then .speakerVolumeLevel else .speakerMuted := by
  unfold attributeId
  rw [hs]
  rfl

theorem attributeId_of_microphone {w : ControlWrite} (hs : w.speaker = false) :
    w.attributeId = if w.volume then .microphoneVolumeLevel else .microphoneMuted := by
  unfold attributeId
  rw [hs]
  rfl

/-- There are four controls. -/
theorem ne_attributeId {w : ControlWrite} {b : StreamAttribute}
    (hb : b ∉ [StreamAttribute.microphoneMuted, .microphoneVolumeLevel, .speakerMuted,
      .speakerVolumeLevel]) : b ≠ w.attributeId := by
  rintro rfl
  unfold attributeId at hb
  cases hv : w.volume <;> cases hs : w.speaker <;> simp [hv, hs] at hb

/-- The boxed value. -/
def boxed (w : ControlWrite) : Inspectable :=
  if w.volume then .value (.uint8 w.value) else .value (.boolean (w.value != 0))

/-- The value as it is read: the number in its widest type. -/
def decodedValue (w : ControlWrite) : Inspectable :=
  if w.volume then .value (.uint64 w.value.toUInt64) else .value (.boolean (w.value != 0))

end ControlWrite

namespace AudioCapabilities

/-- The formats of the microphone or of the speaker. -/
def format (c : AudioCapabilities) (speaker : Bool) : Option MatterCameraAudioFormatCapabilities :=
  if speaker then c.speaker else c.microphone

/-- The controls of the microphone or of the speaker. -/
def controls (c : AudioCapabilities) (speaker : Bool) : AudioControls :=
  if speaker then c.speakerControls.toAudioControls else c.microphoneControls

end AudioCapabilities

namespace AudioControls

/-- The checks of a volume: it has all three levels, they are consistent, and the value is in
bounds. -/
def checkVolume (k : AudioControls) (value : UInt8) : Except Failure Unit :=
  match k.volume, k.minimum, k.maximum with
  | some level, some minimum, some maximum =>
    if maximum < minimum ∨ level < minimum ∨ maximum < level then .error (.code .bounds)
    else if value < minimum ∨ maximum < value then .error (.code .invalidArgument)
    else .ok ()
  | _, _, _ => .error (.code .notImplemented)

/-- The checks of a mute state: privacy keeps a camera from being unmuted, not from being
muted. -/
def checkMuted (k : AudioControls) (privacy : Bool) (value : UInt8) : Except Failure Unit :=
  if k.muted.isNone then .error (.code .notImplemented)
  else if value = 0 ∧ privacy = true then .error (.code .accessDenied)
  else .ok ()

/-- What a volume is to be for a value to be written: offered, in bounds, and so is the
value. -/
def AdmitsVolume (k : AudioControls) (value : UInt8) : Prop :=
  ∃ level minimum maximum, k.volume = some level ∧ k.minimum = some minimum ∧
    k.maximum = some maximum ∧ (minimum ≤ level ∧ level ≤ maximum) ∧
    minimum ≤ value ∧ value ≤ maximum

end AudioControls

/-- **`CameraAudioControlArguments`**: the attribute to write, and the property set to write
it with. -/
def cameraAudioControlArguments (c : AudioCapabilities) (w : ControlWrite) :
    Except Failure (StreamAttribute × PropertySet) :=
  if !c.camera.isCameraAudioAdapter || (c.format w.speaker).isNone then
    .error (.code .notImplemented)
  else do
    let () ← if w.volume then (c.controls w.speaker).checkVolume w.value
      else (c.controls w.speaker).checkMuted c.privacy w.value
    .ok (w.attributeId, [(valueKey, w.boxed)])

/-- **A camera admits a write**: it offers the control, with a volume that is in bounds where
the control is one, and the value is in them; and it is not unmuted in privacy. -/
def AudioCapabilities.Admits (c : AudioCapabilities) (w : ControlWrite) : Prop :=
  c.camera.isCameraAudioAdapter = true ∧ (c.format w.speaker).isSome = true ∧
    if w.volume then (c.controls w.speaker).AdmitsVolume w.value
    else (c.controls w.speaker).muted.isSome = true ∧ (w.value = 0 → c.privacy = false)

section Write

variable {R W β : Type} (tlv : Tlv.Sdk R W β ChipError) (text : TextConversion)

/-- What `WriteCameraAudioControl` does with the capabilities: the attribute, and the bytes
that `WriteAttribute` is to send for it. -/
def sendCameraAudioControl (c : AudioCapabilities) (w : ControlWrite) :
    Op (StreamAttribute × β) := do
  let arguments ← answer (cameraAudioControlArguments c w)
  let encoded ← answer ((encodePropertySetRoot tlv text (some arguments.2)).mapError fun e =>
    .throws (.chip e))
  pure (arguments.1, encoded)

/-- **`WriteCameraAudioControl`**, up to the sending of the bytes. -/
def writeCameraAudioControl (d : Device) (sdk : StreamManagement) (node : UInt64)
    (endpoint : UInt16) (w : ControlWrite) : Op (StreamAttribute × β) := do
  setStage .validation
  let capabilities ← readCameraAudioCapabilities d sdk node endpoint
  sendCameraAudioControl tlv text capabilities w

/-! ## What a camera does with a write -/

/-- **A device answers an attribute with a value**, and everything else as another does. -/
structure Device.Answers (d d' : Device) (a : StreamAttribute) (v : Inspectable) : Prop where
  answer : d'.read (.stream a) = .ok v
  others : ∀ p, p ≠ .stream a → d'.read p = d.read p

/-- **A device stores what it is sent**: from then on it answers the attribute with a value
that decodes as the bytes do. -/
def Device.Stored (d : Device) (a : StreamAttribute) (b : β) (d' : Device) : Prop :=
  ∃ v r n, d.Answers d' a v ∧ tlv.reader.next (tlv.initReader b) = (none, r) ∧
    ∀ fuel ≥ n, decodePropertySetRoot tlv.reader text fuel r = .ok (decodedRoot v)

variable (sdk : StreamManagement) (node : UInt64) (endpoint : UInt16)

/-- **A device after some writes**, each of which it stored. A write that is refused or lost
on its way leaves the device as it is, and is none of them. -/
inductive Written (d₀ : Device) : List ControlWrite → Device → Prop
  | start : Written d₀ [] d₀
  | write {ws : List ControlWrite} {d d' : Device} {w : ControlWrite} {a : StreamAttribute}
      {b : β} {t : Progress} (before : Written d₀ ws d)
      (sent : writeCameraAudioControl tlv text d sdk node endpoint w ⟨.validation, []⟩
        = .ok (a, b) t)
      (stored : d.Stored tlv text a b d') : Written d₀ (ws ++ [w]) d'

end Write

/-- The controls with a value written, where there is that control. -/
def AudioControls.set (w : ControlWrite) (k : AudioControls) : AudioControls :=
  if w.volume then { k with volume := k.volume.map fun _ => w.value }
  else { k with muted := k.muted.map fun _ => w.value != 0 }

/-- **The capabilities after a write**: nothing but the control has changed. -/
def AudioCapabilities.set (c : AudioCapabilities) (w : ControlWrite) : AudioCapabilities :=
  if w.speaker then
    { c with speakerControls :=
        { c.speakerControls with toAudioControls := c.speakerControls.toAudioControls.set w } }
  else { c with microphoneControls := c.microphoneControls.set w }

/-! ## What a write is answered -/

namespace AudioControls

theorem checkVolume_ok_iff {k : AudioControls} {value : UInt8} :
    k.checkVolume value = .ok () ↔ k.AdmitsVolume value := by
  unfold checkVolume AdmitsVolume
  cases k.volume with
  | none => simp
  | some level =>
    cases k.minimum with
    | none => simp
    | some minimum =>
      cases k.maximum with
      | none => simp
      | some maximum =>
        simp only [Option.some.injEq, exists_and_left, exists_eq_left']
        split
        · rename_i hbounds
          refine ⟨(by rintro ⟨⟩), fun ⟨hlevel, hvalue⟩ => ?_⟩
          grind
        · rename_i hbounds
          split <;> grind

theorem checkMuted_ok_iff {k : AudioControls} {privacy : Bool} {value : UInt8} :
    k.checkMuted privacy value = .ok () ↔
      k.muted.isSome = true ∧ (value = 0 → privacy = false) := by
  unfold checkMuted
  cases k.muted with
  | none => simp
  | some muted => cases privacy <;> simp

/-- **A volume in bounds leaves the checks as they are**: they look at the level only to see
that it is in bounds. -/
theorem checkVolume_of_admits {k : AudioControls} {value : UInt8} (h : k.AdmitsVolume value) :
    { k with volume := some value }.checkVolume = k.checkVolume := by
  obtain ⟨level, minimum, maximum, hlevel, hminimum, hmaximum, hbounds, hvalue⟩ := h
  funext other
  unfold checkVolume
  simp only [hlevel, hminimum, hmaximum]
  grind

/-- A control that is set to an admitted value is checked as before. -/
theorem checkVolume_set {k : AudioControls} {w : ControlWrite}
    (h : w.volume = true → k.AdmitsVolume w.value) : (k.set w).checkVolume = k.checkVolume := by
  unfold set
  cases hv : w.volume with
  | true =>
    have hadmits := h hv
    obtain ⟨level, -, -, hlevel, -⟩ := h hv
    rw [if_pos rfl, hlevel]
    exact checkVolume_of_admits hadmits
  | false => rfl

theorem checkMuted_set {k : AudioControls} {w : ControlWrite} :
    (k.set w).checkMuted = k.checkMuted := by
  unfold set checkMuted
  cases w.volume <;> simp

end AudioControls

theorem cameraAudioControlArguments_ok_iff {c : AudioCapabilities} {w : ControlWrite}
    {r : StreamAttribute × PropertySet} :
    cameraAudioControlArguments c w = .ok r ↔
      c.Admits w ∧ r = (w.attributeId, [(valueKey, w.boxed)]) := by
  have hbind : ∀ {x : Except Failure Unit} {y : StreamAttribute × PropertySet},
      (x >>= fun _ => Except.ok y) = .ok r ↔ x = .ok () ∧ r = y := by
    rintro (e | _) y
    · exact ⟨(by rintro ⟨⟩), (by rintro ⟨⟨⟩, -⟩)⟩
    · exact ⟨fun h => ⟨rfl, (Except.ok.inj h).symm⟩, fun h => congrArg Except.ok h.2.symm⟩
  unfold cameraAudioControlArguments AudioCapabilities.Admits
  cases c.camera.isCameraAudioAdapter with
  | false => simp
  | true =>
    cases hformat : c.format w.speaker with
    | none => simp
    | some format =>
      cases w.volume with
      | true =>
        simp only [Bool.not_true, Option.isNone_some, Bool.or_self, Bool.false_eq_true, if_false,
          if_true, hbind, AudioControls.checkVolume_ok_iff, Option.isSome_some, true_and]
      | false =>
        simp only [Bool.not_true, Option.isNone_some, Bool.or_self, Bool.false_eq_true, if_false,
          hbind, AudioControls.checkMuted_ok_iff, Option.isSome_some, true_and]

namespace AudioCapabilities

@[simp] theorem camera_set (c : AudioCapabilities) (w : ControlWrite) :
    (c.set w).camera = c.camera := by
  unfold set
  split <;> rfl

@[simp] theorem format_set (c : AudioCapabilities) (w : ControlWrite) :
    (c.set w).format = c.format := by
  unfold set
  split <;> rfl

@[simp] theorem privacy_set (c : AudioCapabilities) (w : ControlWrite) :
    (c.set w).privacy = c.privacy := by
  unfold set
  split <;> rfl

theorem controls_set (c : AudioCapabilities) (w : ControlWrite) (speaker : Bool) :
    (c.set w).controls speaker
      = if speaker = w.speaker then (c.controls speaker).set w else c.controls speaker := by
  unfold set controls
  cases w.speaker <;> cases speaker <;> rfl

/-- **A write leaves it open which writes are admitted**, and with what exception the others
are refused. -/
theorem arguments_set {c : AudioCapabilities} {w : ControlWrite} (h : c.Admits w) :
    cameraAudioControlArguments (c.set w) = cameraAudioControlArguments c := by
  funext other
  have hvolume : w.volume = true → (c.controls w.speaker).AdmitsVolume w.value := fun hv => by
    have hadmits := h.2.2
    rwa [if_pos hv] at hadmits
  have hchecks : ((c.set w).controls other.speaker).checkVolume
        = (c.controls other.speaker).checkVolume ∧
      ((c.set w).controls other.speaker).checkMuted
        = (c.controls other.speaker).checkMuted := by
    rw [controls_set]
    by_cases hs : other.speaker = w.speaker
    · rw [if_pos hs, hs]
      exact ⟨AudioControls.checkVolume_set hvolume, AudioControls.checkMuted_set⟩
    · rw [if_neg hs]
      exact ⟨rfl, rfl⟩
  unfold cameraAudioControlArguments
  rw [camera_set, format_set, privacy_set, hchecks.1, hchecks.2]

end AudioCapabilities

/-! ## What is read after a write -/

section Reads

variable {d d' : Device}

theorem readAttribute_congr {p : Path} (h : d'.read p = d.read p) :
    readAttribute d' p = readAttribute d p := by
  unfold readAttribute
  rw [h]

theorem readAs_congr {α : Type} {p : Path} (h : d'.read p = d.read p)
    (project : Option PropertySet → Except Failure α) :
    readAs d' p project = readAs d p project := by
  unfold readAs
  rw [readAttribute_congr h]

/-- **An attribute that is answered anew** is read as the new value, where it was read
before. -/
theorem readAs_follows {α : Type} {p : Path} {v : Inspectable} {b : α}
    {project : Option PropertySet → Except Failure α} (hread : d'.read p = .ok v)
    (hproject : project (some (decodedRoot v)) = .ok b) :
    Follows (readAs d p project) (readAs d' p project) fun _ => b := by
  have hd' : ∀ s : Progress, readAs d' p project s
      = .ok b { s with reads := s.reads ++ [p] } := by
    intro s
    show EStateM.bind (readAttribute d' p) _ s = _
    unfold readAttribute
    rw [hread]
    show answer (project (some (decodedRoot v))) _ = _
    rw [hproject]
    rfl
  intro s a t h
  rw [hd' s]
  change EStateM.bind (readAttribute d p) _ s = _ at h
  unfold readAttribute at h
  cases hd : d.read p with
  | error e =>
    rw [hd] at h
    cases h
  | ok value =>
    rw [hd] at h
    change answer (project (some (decodedRoot value))) _ = _ at h
    cases hp : project (some (decodedRoot value)) with
    | error e =>
      rw [hp] at h
      cases h
    | ok a' =>
      rw [hp] at h
      cases h
      rfl

/-- The loop over the privacy flags, on devices that agree on them. -/
theorem privacyEnabledIn_congr (sdk : StreamManagement) (attributes : List UInt32)
    {flags : List StreamAttribute}
    (h : ∀ b ∈ flags, d'.read (.stream b) = d.read (.stream b)) :
    privacyEnabledIn d' sdk attributes flags = privacyEnabledIn d sdk attributes flags := by
  induction flags with
  | nil => rfl
  | cons b flags ih =>
    have hrest := ih fun c hc => h c (List.mem_cons_of_mem b hc)
    unfold privacyEnabledIn
    rw [hrest, readAs_congr (h b List.mem_cons_self)]

theorem whenAdvertised_follows {α : Type} {advertised : Bool} {x y : Op α} {f : α → α}
    (h : Follows x y f) :
    Follows (whenAdvertised advertised x) (whenAdvertised advertised y) (Option.map f) := by
  cases advertised with
  | false => exact follows_pure rfl
  | true => exact h.bind fun a => follows_pure rfl

theorem whenPresent_follows {α γ : Type} {formats : Option γ} {x y : Op α} {absent : α}
    {f : α → α} (h : Follows x y f) (habsent : f absent = absent) :
    Follows (whenPresent formats x absent) (whenPresent formats y absent) f := by
  cases formats with
  | some formats => exact h
  | none => exact follows_pure habsent.symm

end Reads

section Answers

variable {d d' : Device} {a : StreamAttribute} {v : Inspectable} (h : d.Answers d' a v)
  (sdk : StreamManagement) (attributes : List UInt32)

include h

theorem Device.Answers.read_stream {b : StreamAttribute} (hb : b ≠ a) :
    d'.read (.stream b) = d.read (.stream b) :=
  h.others _ fun hp => hb (Path.stream.inj hp)

theorem Device.Answers.readNumber {b : StreamAttribute} (hb : b ≠ a) :
    readNumber d' sdk attributes b = readNumber d sdk attributes b := by
  unfold CameraAudioReads.readNumber
  rw [readAs_congr (h.read_stream hb)]

theorem Device.Answers.readBoolean {b : StreamAttribute} (hb : b ≠ a) :
    readBoolean d' sdk attributes b = readBoolean d sdk attributes b := by
  unfold CameraAudioReads.readBoolean
  rw [readAs_congr (h.read_stream hb)]

/-- The descriptor and the clusters are no attributes of the stream management. -/
theorem Device.Answers.readDescriptor (endpoint : UInt16) :
    readDescriptor d' endpoint = readDescriptor d endpoint := by
  have hread : ∀ b, d'.read (.descriptor b) = d.read (.descriptor b) :=
    fun b => h.others _ (by rintro ⟨⟩)
  unfold CameraAudioReads.readDescriptor
  simp only [readAs_congr (hread _)]

theorem Device.Answers.readCameraCapabilities (descriptor : MatterEndpointDescriptor) :
    readCameraCapabilities d' descriptor = readCameraCapabilities d descriptor := by
  have hread : ∀ cluster b, d'.read (.global cluster b) = d.read (.global cluster b) :=
    fun cluster b => h.others _ (by rintro ⟨⟩)
  unfold CameraAudioReads.readCameraCapabilities readCameraClusterCapabilities
  simp only [readAs_congr (hread _ _), readAttribute_congr (hread _ _)]

theorem Device.Answers.readControls {muted volume minimum maximum : StreamAttribute}
    (hmuted : muted ≠ a) (hvolume : volume ≠ a) (hminimum : minimum ≠ a)
    (hmaximum : maximum ≠ a) :
    readControls d' sdk attributes muted volume minimum maximum
      = readControls d sdk attributes muted volume minimum maximum := by
  unfold CameraAudioReads.readControls
  rw [h.readBoolean sdk attributes hmuted, h.readNumber sdk attributes hvolume,
    h.readNumber sdk attributes hminimum, h.readNumber sdk attributes hmaximum]

end Answers

namespace ControlWrite

/-- A written volume is read as the number it is. -/
theorem readNumber_decoded {w : ControlWrite} (hv : w.volume = true) :
    (cameraStreamField (some (decodedRoot w.decodedValue)) valueKey : Except Failure UInt8)
      = .ok w.value := by
  have hdecoded : Decoded w.decodedValue := by
    unfold decodedValue
    rw [if_pos hv]
    exact .uint64 _
  refine (readNumber_ok_iff hdecoded).mpr ⟨w.value.toUInt64, ?_, ?_⟩
  · unfold decodedValue
    rw [if_pos hv]
  · exact UInt8.toNat_toUInt64 w.value

/-- A written mute state is read as the flag it is. -/
theorem readBoolean_decoded {w : ControlWrite} (hv : w.volume = false) :
    propertySetBoolean (some (decodedRoot w.decodedValue)) = .ok (w.value != 0) := by
  unfold decodedValue
  rw [hv]
  exact (propertySetBoolean_ok_iff (.boolean _)).mpr rfl

end ControlWrite

section Controls

variable {d d' : Device} {w : ControlWrite} (h : d.Answers d' w.attributeId w.decodedValue)
  (sdk : StreamManagement) (attributes : List UInt32)

include h

/-- **The four attributes of a microphone or a speaker**, of which one is written. -/
theorem readControls_follows {muted volume minimum maximum : StreamAttribute}
    (hwritten : w.attributeId = if w.volume then volume else muted)
    (hdistinct : muted ≠ volume ∧ minimum ≠ w.attributeId ∧ maximum ≠ w.attributeId) :
    Follows (readControls d sdk attributes muted volume minimum maximum)
      (readControls d' sdk attributes muted volume minimum maximum) (AudioControls.set w) := by
  obtain ⟨hne, hminimum, hmaximum⟩ := hdistinct
  have hread := h.answer
  unfold readControls AudioControls.set
  cases hv : w.volume with
  | true =>
    rw [hv, if_pos rfl] at hwritten
    rw [hwritten] at hread hminimum hmaximum h
    rw [h.readBoolean sdk attributes hne, h.readNumber sdk attributes hminimum,
      h.readNumber sdk attributes hmaximum]
    refine follows_bind_same fun m => ?_
    refine (whenAdvertised_follows
      (readAs_follows hread (ControlWrite.readNumber_decoded hv))).bind fun level => ?_
    refine follows_bind_same fun lowest => follows_bind_same fun highest => ?_
    exact follows_pure rfl
  | false =>
    rw [hv, if_neg Bool.false_ne_true] at hwritten
    rw [hwritten] at hread hminimum hmaximum h
    rw [h.readNumber sdk attributes hne.symm, h.readNumber sdk attributes hminimum,
      h.readNumber sdk attributes hmaximum]
    refine (whenAdvertised_follows
      (readAs_follows hread (ControlWrite.readBoolean_decoded hv))).bind fun m => ?_
    refine follows_bind_same fun level => ?_
    refine follows_bind_same fun lowest => follows_bind_same fun highest => ?_
    exact follows_pure rfl

/-- The bandwidth and the privacy flags are no controls. -/
theorem readBandwidthAndPrivacy_written :
    readBandwidthAndPrivacy d' sdk attributes = readBandwidthAndPrivacy d sdk attributes := by
  have hprivacy : cameraPrivacyEnabled d' sdk attributes
      = cameraPrivacyEnabled d sdk attributes := by
    refine privacyEnabledIn_congr sdk attributes fun b hb => ?_
    simp only [List.mem_cons, List.not_mem_nil, or_false] at hb
    rcases hb with rfl | rfl <;> exact h.read_stream (ControlWrite.ne_attributeId (by decide))
  unfold readBandwidthAndPrivacy readBandwidth
  rw [hprivacy, readAs_congr (h.read_stream (ControlWrite.ne_attributeId (by decide)))]

/-- The formats are no controls. -/
theorem readFormats_written {b : StreamAttribute}
    (hb : b = .microphoneCapabilities ∨ b = .speakerCapabilities) :
    readAs d' (.stream b) audioFormatCapabilities
      = readAs d (.stream b) audioFormatCapabilities := by
  refine readAs_congr (h.read_stream (ControlWrite.ne_attributeId ?_)) _
  rcases hb with rfl | rfl <;> decide

/-- The microphone's controls, where the speaker's are written. -/
theorem readMicrophoneControls_of_speaker (hs : w.speaker = true) :
    readMicrophoneControls d' sdk attributes = readMicrophoneControls d sdk attributes := by
  rw [ControlWrite.attributeId_of_speaker hs] at h
  cases hv : w.volume <;> rw [hv] at h <;>
    exact h.readControls sdk attributes (by decide) (by decide) (by decide) (by decide)

/-- The microphone's controls, of which one is written. -/
theorem readMicrophoneControls_follows (hs : w.speaker = false) :
    Follows (readMicrophoneControls d sdk attributes) (readMicrophoneControls d' sdk attributes)
      (AudioControls.set w) :=
  readControls_follows h sdk attributes (ControlWrite.attributeId_of_microphone hs)
    ⟨by decide, ControlWrite.ne_attributeId (by decide), ControlWrite.ne_attributeId (by decide)⟩

/-- The speaker's controls, where the microphone's are written. -/
theorem readSpeakerControls_of_microphone (hs : w.speaker = false) :
    readSpeakerControls d' sdk attributes = readSpeakerControls d sdk attributes := by
  unfold readSpeakerControls
  rw [ControlWrite.attributeId_of_microphone hs] at h
  cases hv : w.volume <;> rw [hv] at h <;>
    rw [h.readNumber sdk attributes (by decide),
      h.readControls sdk attributes (by decide) (by decide) (by decide) (by decide)]

/-- The speaker's controls, of which one is written. -/
theorem readSpeakerControls_follows (hs : w.speaker = true) :
    Follows (readSpeakerControls d sdk attributes) (readSpeakerControls d' sdk attributes)
      fun k => { k with toAudioControls := k.toAudioControls.set w } := by
  unfold readSpeakerControls
  rw [h.readNumber sdk attributes (ControlWrite.ne_attributeId (by decide))]
  have hcontrols := readControls_follows h sdk attributes
    (ControlWrite.attributeId_of_speaker hs) ⟨by decide,
      ControlWrite.ne_attributeId (by decide : StreamAttribute.speakerMinLevel ∉ _),
      ControlWrite.ne_attributeId (by decide : StreamAttribute.speakerMaxLevel ∉ _)⟩
  exact follows_bind_same fun talk => hcontrols.bind fun k => follows_pure rfl

omit h in
/-- Controls that are not offered stay so. -/
theorem AudioControls.set_absent (w : ControlWrite) : AudioControls.set w {} = {} := by
  unfold AudioControls.set
  cases w.volume <;> rfl

/-- **After a write, the capabilities are read with the control set.** -/
theorem readCameraAudioCapabilities_follows (node : UInt64) (endpoint : UInt16) :
    Follows (readCameraAudioCapabilities d sdk node endpoint)
      (readCameraAudioCapabilities d' sdk node endpoint) fun c => c.set w := by
  unfold readCameraAudioCapabilities readAudioAttributes
  rw [h.readDescriptor]
  simp only [h.readCameraCapabilities, readFormats_written h (Or.inl rfl),
    readFormats_written h (Or.inr rfl), readBandwidthAndPrivacy_written h]
  refine follows_bind_same fun _ => follows_bind_same fun _ => follows_bind_same fun _ =>
    follows_bind_same fun descriptor => follows_bind_same fun _ =>
    follows_bind_same fun camera => follows_bind_same fun _ => ?_
  refine follows_bind_same fun microphone => follows_bind_same fun speaker => ?_
  cases hs : w.speaker with
  | true =>
    rw [readMicrophoneControls_of_speaker h sdk _ hs]
    refine follows_bind_same fun controls => ?_
    refine (whenPresent_follows (readSpeakerControls_follows h sdk _ hs) ?_).bind fun k => ?_
    · rw [show ({} : SpeakerControls).toAudioControls = {} from rfl, AudioControls.set_absent]
    · refine follows_bind_same fun last => follows_pure ?_
      unfold AudioCapabilities.set
      rw [if_pos hs]
  | false =>
    rw [readSpeakerControls_of_microphone h sdk _ hs]
    refine (whenPresent_follows (readMicrophoneControls_follows h sdk _ hs)
      (AudioControls.set_absent w)).bind fun k => ?_
    refine follows_bind_same fun controls => follows_bind_same fun last => follows_pure ?_
    unfold AudioCapabilities.set
    rw [if_neg (by rw [hs]; exact Bool.false_ne_true)]

end Controls

/-! ## Runs -/

section Run

variable {R W β : Type} {tlv : Tlv.Sdk R W β ChipError} {text : TextConversion}
  {I : Tlv.Interpretation R W} {sdk : StreamManagement} {node : UInt64} {endpoint : UInt16}
  {d d' d₀ : Device} {w : ControlWrite} {c : AudioCapabilities} {t : Progress}

/-- A write, where the capabilities are read. -/
theorem writeCameraAudioControl_of_read
    (hread : readCameraAudioCapabilities d sdk node endpoint ⟨.validation, []⟩ = .ok c t) :
    writeCameraAudioControl tlv text d sdk node endpoint w ⟨.validation, []⟩
      = sendCameraAudioControl tlv text c w t := by
  show EStateM.bind (readCameraAudioCapabilities d sdk node endpoint) _ ⟨.validation, []⟩ = _
  unfold EStateM.bind
  rw [hread]

/-- **A write that is sent** is admitted, and sends its value. -/
theorem sendCameraAudioControl_ok {a : StreamAttribute} {b : β} {u : Progress}
    (h : sendCameraAudioControl tlv text c w t = .ok (a, b) u) :
    c.Admits w ∧ a = w.attributeId ∧
      encodePropertySetRoot tlv text (some [(valueKey, w.boxed)]) = .ok b := by
  unfold sendCameraAudioControl at h
  cases harguments : cameraAudioControlArguments c w with
  | error e =>
    rw [harguments] at h
    cases h
  | ok r =>
    rw [harguments] at h
    obtain ⟨hadmits, rfl⟩ := cameraAudioControlArguments_ok_iff.mp harguments
    change EStateM.bind (answer ((encodePropertySetRoot tlv text
      (some [(valueKey, w.boxed)])).mapError _)) _ t = _ at h
    cases hencode : encodePropertySetRoot tlv text (some [(valueKey, w.boxed)]) with
    | error e =>
      rw [hencode] at h
      cases h
    | ok b' =>
      rw [hencode] at h
      cases h
      exact ⟨hadmits, rfl, rfl⟩

/-- **What was encoded decodes to the value**, in its widest type. -/
theorem decode_boxed (hsdk : tlv.Faithful .endOfTlv I) {b : β}
    (h : encodePropertySetRoot tlv text (some [(valueKey, w.boxed)]) = .ok b) :
    ∃ r, tlv.reader.next (tlv.initReader b) = (none, r) ∧
      ∃ n, ∀ fuel ≥ n, decodePropertySetRoot tlv.reader text fuel r
        = .ok [(valueKey, w.decodedValue)] := by
  have hscalar : ∃ s, valueElement text w.boxed = .scalar s ∧
      scalarValue text I.promote s = w.decodedValue := by
    unfold ControlWrite.boxed ControlWrite.decodedValue
    cases w.volume <;> exact ⟨_, rfl, rfl⟩
  obtain ⟨s, helement, hvalue⟩ := hscalar
  have hat := encodeRootValue_read hsdk ((encode_wrapped w.boxed).symm.trans h)
  obtain ⟨r, hnext, hat⟩ := hsdk.reader.next_cons hat rfl
  refine ⟨r, hnext, elementCost (.scalar s), fun fuel hfuel => ?_⟩
  rw [helement] at hat
  rw [decodePropertySetRoot_eq hsdk (.scalar s) hat rfl hfuel, elementValue, hvalue]
  unfold ControlWrite.decodedValue
  cases w.volume <;> rfl

/-- **A device that stored a value answers it.** -/
theorem Device.Stored.answers (hsdk : tlv.Faithful .endOfTlv I) {a : StreamAttribute} {b : β}
    (h : d.Stored tlv text a b d')
    (hencode : encodePropertySetRoot tlv text (some [(valueKey, w.boxed)]) = .ok b) :
    d.Answers d' a w.decodedValue := by
  obtain ⟨v, r, n, hanswers, hnext, hdecode⟩ := h
  obtain ⟨r', hnext', m, hdecode'⟩ := decode_boxed hsdk hencode
  rw [hnext] at hnext'
  obtain rfl := (Prod.mk.inj hnext').2
  have hroot : decodedRoot v = [(valueKey, w.decodedValue)] :=
    Except.ok.inj ((hdecode (max n m) (Nat.le_max_left _ _)).symm.trans
      (hdecode' _ (Nat.le_max_right _ _)))
  have hfind : (decodedRoot v).find valueKey = some w.decodedValue := by
    rw [hroot]
    simp [PropertySet.find]
  rw [((find_decodedRoot (d'.decoded _ _ hanswers.answer)).mp hfind).1] at hanswers
  exact hanswers

/-- **The controls of a camera are kept.** After any sequence of writes that a camera stored,
each of them was one that the camera admits as it was at first; the capabilities are read with
the values written, and are otherwise those that were read at first; and every further write
is answered as at first, be it sent or refused. -/
theorem controls_kept (hsdk : tlv.Faithful .endOfTlv I)
    (hread : readCameraAudioCapabilities d₀ sdk node endpoint ⟨.validation, []⟩ = .ok c t)
    {ws : List ControlWrite} (h : Written tlv text sdk node endpoint d₀ ws d) :
    (∀ w ∈ ws, c.Admits w) ∧
      readCameraAudioCapabilities d sdk node endpoint ⟨.validation, []⟩
        = .ok (ws.foldl AudioCapabilities.set c) t ∧
      ∀ w, writeCameraAudioControl tlv text d sdk node endpoint w ⟨.validation, []⟩
        = writeCameraAudioControl tlv text d₀ sdk node endpoint w ⟨.validation, []⟩ := by
  have hkept : (∀ w ∈ ws, c.Admits w) ∧
      readCameraAudioCapabilities d sdk node endpoint ⟨.validation, []⟩
        = .ok (ws.foldl AudioCapabilities.set c) t ∧
      cameraAudioControlArguments (ws.foldl AudioCapabilities.set c)
        = cameraAudioControlArguments c := by
    induction h with
    | start => exact ⟨fun w hw => absurd hw List.not_mem_nil, hread, rfl⟩
    | @write ws d d' w a b u before sent stored ih =>
      obtain ⟨hadmitted, hcapabilities, harguments⟩ := ih
      rw [writeCameraAudioControl_of_read hcapabilities] at sent
      obtain ⟨hadmits, rfl, hencode⟩ := sendCameraAudioControl_ok sent
      have hfirst : c.Admits w := by
        have hok := cameraAudioControlArguments_ok_iff.mpr ⟨hadmits, rfl⟩
        rw [harguments] at hok
        exact (cameraAudioControlArguments_ok_iff.mp hok).1
      refine ⟨?_, ?_, ?_⟩
      · rw [List.forall_mem_append, List.forall_mem_singleton]
        exact ⟨hadmitted, hfirst⟩
      · rw [List.foldl_append]
        exact readCameraAudioCapabilities_follows (stored.answers hsdk hencode) sdk node
          endpoint hcapabilities
      · rw [List.foldl_append]
        exact (AudioCapabilities.arguments_set hadmits).trans harguments
  refine ⟨hkept.1, hkept.2.1, fun w => ?_⟩
  rw [writeCameraAudioControl_of_read hkept.2.1, writeCameraAudioControl_of_read hread]
  unfold sendCameraAudioControl
  rw [hkept.2.2]

/-- The device that answers a control with a value, and everything else as before. -/
def Device.answering (d : Device) (w : ControlWrite) : Device where
  read p := if p = .stream w.attributeId then .ok w.decodedValue else d.read p
  decoded p v h := by
    split at h
    · cases h
      unfold ControlWrite.decodedValue
      cases w.volume
      · exact .boolean _
      · exact .uint64 _
    · exact d.decoded p v h

/-- It is one that has stored the value. -/
theorem Device.stored_answering (hsdk : tlv.Faithful .endOfTlv I) {b : β}
    (hencode : encodePropertySetRoot tlv text (some [(valueKey, w.boxed)]) = .ok b) :
    d.Stored tlv text w.attributeId b (d.answering w) := by
  obtain ⟨r, hnext, n, hdecode⟩ := decode_boxed hsdk hencode
  refine ⟨w.decodedValue, r, n, ⟨if_pos rfl, fun p hp => if_neg hp⟩, hnext, fun fuel hfuel => ?_⟩
  rw [hdecode fuel hfuel]
  unfold ControlWrite.decodedValue
  cases w.volume <;> rfl

end Run

/-- What a camera answers that has a microphone, which is muted, and a volume of 50 between 10
and 90. -/
def microphoneCameraValues : Path → Inspectable
  | .global _ .featureMap => .value (.uint64 1)
  | .global _ .attributeList => numbers [0, 2, 3, 4, 5, 11]
  | .stream .microphoneCapabilities =>
    .propertySet [(fieldKey 0, .value (.uint64 1)), (fieldKey 1, numbers [0]),
      (fieldKey 2, numbers [48000]), (fieldKey 3, numbers [16])]
  | .stream .microphoneMuted => .value (.boolean true)
  | .stream .microphoneVolumeLevel => .value (.uint64 50)
  | .stream .microphoneMinLevel => .value (.uint64 10)
  | .stream .microphoneMaxLevel => .value (.uint64 90)
  | p => numberedPrivacyValues p

theorem decoded_microphoneCameraValues (p : Path) : Decoded (microphoneCameraValues p) := by
  unfold microphoneCameraValues
  split
  · exact .uint64 _
  · exact decoded_numbers _
  · refine @Decoded.numbered [(0, .value (.uint64 1)), (1, numbers [0]), (2, numbers [48000]),
      (3, numbers [16])] (show List.Nodup [fieldKey 0, fieldKey 1, fieldKey 2, fieldKey 3] by
        decide) fun e he => ?_
    simp only [List.mem_cons, List.not_mem_nil, or_false] at he
    rcases he with rfl | rfl | rfl | rfl
    · exact .uint64 _
    all_goals exact decoded_numbers _
  · exact .boolean _
  · exact .uint64 _
  · exact .uint64 _
  · exact .uint64 _
  · exact decoded_numberedPrivacyValues _

/-- This camera. -/
def microphoneCamera : Device where
  read p := .ok (microphoneCameraValues p)
  decoded p _ h := Except.ok.inj h ▸ decoded_microphoneCameraValues p

/-- Its volume is set and it is unmuted; then its volume is 40, and 91 is still refused. -/
theorem controls_kept_microphone :
    ∃ d c t, Written tokenTlv .standard streamNumbers 1 1 microphoneCamera
        [⟨false, true, 40⟩, ⟨false, false, 0⟩] d ∧
      readCameraAudioCapabilities d streamNumbers 1 1 ⟨.validation, []⟩ = .ok c t ∧
      c.microphoneControls = ⟨some false, some 40, some 10, some 90⟩ ∧
      writeCameraAudioControl tokenTlv .standard d streamNumbers 1 1 ⟨false, true, 91⟩
        ⟨.validation, []⟩ = .error (.code .invalidArgument) t := by
  have hwritten : Written tokenTlv .standard streamNumbers 1 1 microphoneCamera
      [⟨false, true, 40⟩, ⟨false, false, 0⟩]
      ((microphoneCamera.answering ⟨false, true, 40⟩).answering ⟨false, false, 0⟩) :=
    .write (.write .start rfl (Device.stored_answering tokenTlv_faithful rfl)) rfl
      (Device.stored_answering tokenTlv_faithful rfl)
  obtain ⟨-, hread, hwrite⟩ := controls_kept tokenTlv_faithful (t := _) rfl hwritten
  exact ⟨_, _, _, hwritten, hread, rfl, hwrite _⟩

end CameraAudioReads
