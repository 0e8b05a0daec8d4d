import MatterController.CameraAudioReads

/-!
# The values of a camera's attributes

An attribute may have any value. `Path.WellFormed` says which values it is to have, by what
the attribute is, and `Device.Malformed` that a device answers with another. The helpers that
project the values are described by what they return, which is what a well-formed value says,
and by what they throw of any other value.

Nearly all of them throw one of two result codes (`MalformedCode`). There are two exceptions:
a flag of another kind is an invalid argument (`propertySetBoolean_throws`), and a list of
device types with a null is not refused at all (`deviceTypes_throws`).
-/

namespace CameraAudioReads

open Except

/-! ## What an attribute is to be -/

/-- The value is a list of these numbers. -/
def Lists {α : Type} [ProjectedUnsigned α] (value : Inspectable) (ns : List α) : Prop :=
  ∃ items, ListOf value items ∧ List.Forall₂ Reads items ns

/-- The structure has a list of these numbers under this key. -/
def HasList {α : Type} [ProjectedUnsigned α] (p : PropertySet) (key : HString) (ns : List α) :
    Prop :=
  ∃ value, p.find key = some value ∧ Lists value ns

/-- A value is read as one number only. -/
theorem Reads.unique {α : Type} [ProjectedUnsigned α] {value : Inspectable} {n m : α}
    (hn : Reads value n) (hm : Reads value m) : n = m :=
  Except.ok.inj ((descriptorUnsigned_ok_iff.mpr hn).symm.trans (descriptorUnsigned_ok_iff.mpr hm))

/-- A value is a list of one sequence of numbers only. -/
theorem Lists.unique {α : Type} [ProjectedUnsigned α] {value : Inspectable} {ns ms : List α}
    (hns : Lists value ns) (hms : Lists value ms) : ns = ms := by
  obtain ⟨items, hitems, hns⟩ := hns
  obtain ⟨items', hitems', hms⟩ := hms
  have heq : Inspectable.vector items = .vector items' := hitems.vector.symm.trans hitems'.vector
  cases heq
  have hunique : Relator.RightUnique (Reads (α := α)) := fun _ _ _ hn hm => Reads.unique hn hm
  exact hunique.forall₂ hns hms

/-- **The formats of a microphone or a speaker.** -/
def IsFormats (value : Inspectable) (f : MatterCameraAudioFormatCapabilities) : Prop :=
  ∃ p : PropertySet, value = .propertySet p ∧ HasField p (fieldKey 0) f.maximumChannels ∧
    HasList p (fieldKey 1) f.codecs ∧ HasList p (fieldKey 2) f.sampleRates ∧
    HasList p (fieldKey 3) f.bitDepths

/-- What the attributes of the stream management are. -/
inductive AttributeKind
  | formats
  | flag
  | level
  | bandwidth
  deriving DecidableEq, Repr

/-- What an attribute is. -/
def StreamAttribute.kind : StreamAttribute → AttributeKind
  | .microphoneCapabilities | .speakerCapabilities => .formats
  | .microphoneMuted | .speakerMuted => .flag
  | .hardPrivacyModeOn | .softLivestreamPrivacyModeEnabled => .flag
  | .microphoneVolumeLevel | .microphoneMinLevel | .microphoneMaxLevel => .level
  | .speakerVolumeLevel | .speakerMinLevel | .speakerMaxLevel => .level
  | .twoWayTalkSupport => .level
  | .maxNetworkBandwidth => .bandwidth

/-- The value is one for such an attribute. A bandwidth is not zero. -/
def AttributeKind.WellFormed (value : Inspectable) : AttributeKind → Prop
  | .formats => ∃ f, IsFormats value f
  | .flag => ∃ b, value = .value (.boolean b)
  | .level => ∃ n : UInt8, Reads value n
  | .bandwidth => ∃ n : UInt32, Reads value n ∧ n ≠ 0

/-- **A value is well-formed** for what is read. A revision is not zero. -/
def Path.WellFormed (value : Inspectable) : Path → Prop
  | .descriptor .partsList => ∃ ns : List UInt16, Lists value ns
  | .descriptor .serverList | .descriptor .clientList => ∃ ns : List UInt32, Lists value ns
  | .descriptor .deviceTypeList =>
    ∃ items types, ListOf value items ∧ List.Forall₂ DescribesType items types
  | .global _ .clusterRevision => ∃ r : UInt16, Reads value r ∧ r ≠ 0
  | .global _ .featureMap => ∃ features : UInt32, Reads value features
  | .global _ .attributeList | .global _ .acceptedCommandList
  | .global _ .generatedCommandList => ∃ ns : List UInt32, Lists value ns
  | .stream a => a.kind.WellFormed value

section Device

variable (d : Device)

/-- The device answers the read. -/
def Device.Returns (p : Path) : Prop := ∃ v, d.read p = .ok v

/-- **The device answers with a malformed value.** -/
def Device.Malformed (p : Path) : Prop := ∃ v, d.read p = .ok v ∧ ¬ p.WellFormed v

/-- The device answers with a well-formed value. -/
def Device.Sound (p : Path) : Prop := ∃ v, d.read p = .ok v ∧ p.WellFormed v

/-- **A value of another kind than a flag**: neither a flag nor a null, and no structure, in
which no flag is looked for. -/
def OtherKind (value : Inspectable) : Prop :=
  value ≠ .null ∧ (∀ b, value ≠ .value (.boolean b)) ∧ ∀ p, value ≠ .propertySet p

/-- The device answers the read of a flag with a value of another kind. -/
def Device.Mistyped (a : StreamAttribute) : Prop :=
  a.kind = .flag ∧ ∃ v, d.read (.stream a) = .ok v ∧ OtherKind v

/-- The attribute of the stream management has a well-formed value. -/
def Device.SoundAttribute (a : StreamAttribute) : Prop := d.Sound (.stream a)

end Device

/-! ## What the helpers throw -/

section Projected

variable {α : Type} [ProjectedUnsigned α]

theorem formatList_throws (fields : PropertySet) (key : HString) :
    Throws MalformedCode (formatList fields key : Except Failure (List α)) := by
  unfold formatList
  split
  · exact throws_error malformedCode_bounds
  · exact (lookup_throws fields key).bind fun v _ => descriptorNumericList_throws _

end Projected

theorem audioFormatCapabilities_throws (p : PropertySet) :
    Throws MalformedCode (audioFormatCapabilities (some p)) := by
  refine (cameraStreamField_throws (some p) _).bind fun channels _ => ?_
  refine (throws_ok p).bind fun fields _ => ?_
  refine (formatList_throws fields _).bind fun codecs _ => ?_
  refine (formatList_throws fields _).bind fun rates _ => ?_
  refine (formatList_throws fields _).bind fun depths _ => ?_
  exact throws_ok _

theorem clusterCapabilities_throws (revision features : PropertySet)
    (attributes accepted generated : List UInt32) :
    Throws MalformedCode
      (clusterCapabilities revision features attributes accepted generated) := by
  refine (lookup_throws revision _).bind fun r _ => (descriptorUnsigned_throws r).bind fun r _ => ?_
  refine (lookup_throws features _).bind fun f _ => (descriptorUnsigned_throws f).bind fun f _ => ?_
  split
  · exact throws_error malformedCode_bounds
  · exact throws_ok _

/-! ## What the helpers return -/

/-- The root has a value, unless it is a structure. -/
theorem find_decodedRoot {v w : Inspectable} (h : Decoded v) :
    (decodedRoot v).find valueKey = some w ↔ v = w ∧ ∀ p, v ≠ .propertySet p := by
  cases h with
  | propertySet nodup keys values =>
    rw [decodedRoot, PropertySet.find_valueKey keys]
    exact ⟨(by rintro ⟨⟩), fun h => absurd rfl (h.2 _)⟩
  | _ => exact ⟨fun h => ⟨Option.some.inj h, (by rintro p ⟨⟩)⟩, fun h => congrArg some h.1⟩

/-- A root stores its value where it is neither a structure nor null. -/
theorem stores_decodedRoot {v w : Inspectable} (h : Decoded v) :
    Stores (some (decodedRoot v)) w ↔ v = w ∧ (∀ p, v ≠ .propertySet p) ∧ v ≠ .null := by
  constructor
  · rintro ⟨p, ⟨⟩, hfind, hnull⟩
    obtain ⟨rfl, hp⟩ := (find_decodedRoot h).mp hfind
    exact ⟨rfl, hp, hnull⟩
  · rintro ⟨rfl, hp, hnull⟩
    exact ⟨_, rfl, (find_decodedRoot h).mpr ⟨rfl, hp⟩, hnull⟩

/-- A flag that is returned is one. -/
theorem propertySetBoolean_ok_iff {v : Inspectable} (h : Decoded v) {b : Bool} :
    propertySetBoolean (some (decodedRoot v)) = .ok b ↔ v = .value (.boolean b) := by
  unfold propertySetBoolean
  by_cases hstores : Stores (some (decodedRoot v)) v
  · rw [propertySetScalar_of_stores hstores, unexpectedType_ok_iff, Inspectable.unboxBoolean_ok_iff]
  · rw [propertySetScalar_of_not_stores]
    · refine ⟨(by rintro ⟨⟩), ?_⟩
      rintro rfl
      exact absurd ((stores_decodedRoot h).mpr ⟨rfl, (by rintro p ⟨⟩), (by rintro ⟨⟩)⟩) hstores
    · rintro ⟨w, hw⟩
      obtain ⟨rfl, -⟩ := (stores_decodedRoot h).mp hw
      exact hstores hw

/-- **A flag that is refused** is refused as what it is not: a null and a structure as out
of bounds, and a value of another kind as an invalid argument. -/
theorem propertySetBoolean_throws {v : Inspectable} (h : Decoded v) :
    Throws (fun e => (MalformedCode e ∧ ¬ OtherKind v) ∨
      (e = .code .invalidArgument ∧ OtherKind v)) (propertySetBoolean (some (decodedRoot v))) := by
  intro e he
  unfold propertySetBoolean at he
  by_cases hstores : Stores (some (decodedRoot v)) v
  · obtain ⟨-, hp, hnull⟩ := (stores_decodedRoot h).mp hstores
    rw [propertySetScalar_of_stores hstores] at he
    have hboolean : ∀ b, v ≠ .value (.boolean b) := by
      rintro b rfl
      cases he
    have hthrows : v.unboxBoolean = .error (.code .noInterface) := by
      cases v with
      | null => exact absurd rfl hnull
      | value w =>
        cases w with
        | boolean b => exact absurd rfl (hboolean b)
        | _ => rfl
      | _ => rfl
    rw [hthrows] at he
    cases he
    exact Or.inr ⟨rfl, hnull, hboolean, hp⟩
  · rw [propertySetScalar_of_not_stores] at he
    · cases he
      exact Or.inl ⟨malformedCode_bounds, fun ⟨hnull, _, hp⟩ =>
        hstores ((stores_decodedRoot h).mpr ⟨rfl, hp, hnull⟩)⟩
    · rintro ⟨w, hw⟩
      obtain ⟨rfl, -⟩ := (stores_decodedRoot h).mp hw
      exact hstores hw

section Numbers

variable {α : Type} [ProjectedUnsigned α] {v : Inspectable}

/-- A number under the key of a root that is no structure. -/
theorem hasField_decodedRoot (h : Decoded v) {n : α} :
    HasField (decodedRoot v) valueKey n ↔ Reads v n := by
  unfold HasField
  constructor
  · rintro ⟨w, hfind, hn⟩
    obtain ⟨rfl, -⟩ := (find_decodedRoot h).mp hfind
    exact hn
  · intro hn
    refine ⟨v, (find_decodedRoot h).mpr ⟨rfl, ?_⟩, hn⟩
    rintro p rfl
    obtain ⟨n, ⟨⟩, -⟩ := hn

theorem readNumber_ok_iff (h : Decoded v) {n : α} :
    cameraStreamField (some (decodedRoot v)) valueKey = .ok n ↔ Reads v n :=
  cameraStreamField_ok_iff.trans (hasField_decodedRoot h)

/-- A list of numbers that was put under the key of a root. -/
theorem wrappedList_ok_iff (h : Decoded v) {ns : List α} :
    descriptorNumericList (some [(valueKey, v)]) = .ok ns ↔ Lists v ns := by
  have hdecoded := h
  cases h with
  | propertySet nodup keys values =>
    refine ⟨(by rintro ⟨⟩), ?_⟩
    rintro ⟨items, hlist, -⟩
    cases hlist.vector
  | _ => exact descriptorNumericList_ok_iff hdecoded

/-- A list of a structure is returned where the structure has it. -/
theorem formatList_ok_iff {p : PropertySet} (h : ∀ e ∈ p, Decoded e.2) {key : HString}
    {ns : List α} : formatList p key = .ok ns ↔ HasList p key ns := by
  unfold formatList HasList
  split
  · rename_i hmissing
    refine ⟨(by rintro ⟨⟩), ?_⟩
    rintro ⟨w, hfind, -⟩
    rw [← PropertySet.find_isSome, hfind] at hmissing
    cases hmissing
  · simp only [bind_ok_iff, PropertySet.lookup_ok_iff]
    refine exists_congr fun w => and_congr_right fun hfind => ?_
    exact wrappedList_ok_iff (h _ (PropertySet.mem_of_find hfind))

end Numbers

/-- **The formats are returned where the value is a structure with all of them.** -/
theorem audioFormatCapabilities_ok_iff {v : Inspectable} (h : Decoded v)
    {f : MatterCameraAudioFormatCapabilities} :
    audioFormatCapabilities (some (decodedRoot v)) = .ok f ↔ IsFormats v f := by
  unfold audioFormatCapabilities
  simp only [bind_ok_iff, cameraStreamField_ok_iff]
  cases h with
  | propertySet nodup keys values =>
    constructor
    · rintro ⟨channels, hchannels, _, ⟨⟩, codecs, hcodecs, rates, hrates, depths, hdepths, ⟨⟩⟩
      exact ⟨_, rfl, hchannels, (formatList_ok_iff values).mp hcodecs,
        (formatList_ok_iff values).mp hrates, (formatList_ok_iff values).mp hdepths⟩
    · rintro ⟨_, ⟨⟩, hchannels, hcodecs, hrates, hdepths⟩
      exact ⟨_, hchannels, _, rfl, _, (formatList_ok_iff values).mpr hcodecs,
        _, (formatList_ok_iff values).mpr hrates, _, (formatList_ok_iff values).mpr hdepths, rfl⟩
  | _ =>
    -- the root has no number for a key
    refine ⟨?_, (by rintro ⟨_, ⟨⟩, _⟩)⟩
    rintro ⟨channels, ⟨w, hfind, -⟩, -⟩
    cases hfind

/-- The list of device types is returned where each of its entries is one. -/
theorem deviceTypes_ok_iff {v : Inspectable} (h : Decoded v) {types : List MatterDeviceType} :
    (descriptorList (some (decodedRoot v)) >>= fun list => list.mapM readDeviceType) = .ok types ↔
      ∃ items, ListOf v items ∧ List.Forall₂ DescribesType items types := by
  have htypes : (fun v t => readDeviceType v = .ok t) = DescribesType :=
    funext fun v => funext fun t => propext readDeviceType_ok_iff
  simp only [bind_ok_iff, descriptorList_ok_iff h, mapM_ok_iff, htypes]

/-- A null among device types, with none before it that is malformed. -/
def NullTypeIn (value : Inspectable) : Prop :=
  ∃ before after, ListOf value (before ++ .null :: after) ∧ ∀ e ∈ before, ∃ t, DescribesType e t

/-- **A list of device types is refused**, or is not noticed to have a null. -/
theorem deviceTypes_throws {v : Inspectable} (h : Decoded v) :
    Throws (fun e => (MalformedCode e ∧ ¬ NullTypeIn v) ∨ (e = .fault ∧ NullTypeIn v))
      (descriptorList (some (decodedRoot v)) >>= fun list => list.mapM readDeviceType) := by
  intro e he
  by_cases hnull : NullTypeIn v
  · -- the entries before it are read, so it is the one that fails
    obtain ⟨before, after, hlist, hbefore⟩ := hnull
    have hfault := mapM_error_iff.mpr ⟨before, .null, after, rfl, fun x hx =>
      (hbefore x hx).imp fun t ht => readDeviceType_ok_iff.mpr ht,
      readDeviceType_fault_iff.mpr rfl⟩
    rw [(descriptorList_ok_iff h).mpr hlist] at he
    exact Or.inr ⟨Except.error.inj (he.symm.trans hfault), before, after, hlist, hbefore⟩
  · refine Or.inl ⟨?_, hnull⟩
    rcases bind_error_iff.mp he with he | ⟨list, hlist, he⟩
    · exact descriptorList_throws _ e he
    · obtain ⟨before, x, after, rfl, hbefore, hx⟩ := mapM_error_iff.mp he
      refine readDeviceType_throws ?_ e hx
      rintro rfl
      exact hnull ⟨before, after, (descriptorList_ok_iff h).mp hlist, fun x hx =>
        (hbefore x hx).imp fun t ht => readDeviceType_ok_iff.mp ht⟩

/-- A bandwidth that is returned is not zero. -/
theorem bandwidth_ok_iff {v : Inspectable} (h : Decoded v) {n : UInt32} :
    (cameraStreamField (some (decodedRoot v)) valueKey >>= fun bandwidth =>
      if bandwidth = 0 then .error (.code .bounds) else .ok bandwidth) = .ok n ↔
      Reads v n ∧ n ≠ 0 := by
  simp only [bind_ok_iff, readNumber_ok_iff h]
  constructor
  · rintro ⟨m, hm, heq⟩
    split at heq
    · cases heq
    · rename_i hne
      cases heq
      exact ⟨hm, hne⟩
  · rintro ⟨hn, hne⟩
    exact ⟨n, hn, if_neg hne⟩

/-- **A cluster's capabilities are returned** where the two values that are left to project
are numbers, and the revision is not zero. -/
theorem clusterCapabilities_ok_iff {revision features : Inspectable} (hr : Decoded revision)
    (hf : Decoded features) {attributes accepted generated : List UInt32}
    {c : ClusterCapabilities} :
    clusterCapabilities (decodedRoot revision) (decodedRoot features) attributes accepted generated
        = .ok c ↔
      (Reads revision c.revision ∧ c.revision ≠ 0) ∧ Reads features c.featureMap ∧
        c.attributes = attributes ∧ c.acceptedCommands = accepted ∧
        c.generatedCommands = generated := by
  unfold clusterCapabilities
  simp only [bind_ok_iff, PropertySet.lookup_ok_iff, descriptorUnsigned_ok_iff]
  constructor
  · rintro ⟨v, hv, r, hvr, w, hw, f, hwf, h⟩
    split at h
    · cases h
    · rename_i hne
      cases h
      exact ⟨⟨(hasField_decodedRoot hr).mp ⟨v, hv, hvr⟩, hne⟩,
        (hasField_decodedRoot hf).mp ⟨w, hw, hwf⟩, rfl, rfl, rfl⟩
  · rintro ⟨⟨hvr, hne⟩, hwf, rfl, rfl, rfl⟩
    obtain ⟨v, hv, hvr⟩ := (hasField_decodedRoot hr).mpr hvr
    obtain ⟨w, hw, hwf⟩ := (hasField_decodedRoot hf).mpr hwf
    exact ⟨v, hv, _, hvr, w, hw, _, hwf, if_neg hne⟩

end CameraAudioReads
