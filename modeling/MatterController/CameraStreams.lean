import MatterController.AudioStream
import MatterController.Descriptors

/-!
# The allocated streams of a camera

`ReadCameraVideoStreams` projects the list of streams a camera reports. An entry has
thirteen fields that are needed and two flags that may be left out; two of the fields are
structures themselves. `CameraStreamField` asks of each whether it is there before it is
looked at, and is asked for the fields of a null, too. The flags are only asked whether they
are there, not whether they are null.

`Projects` says what a stream is of an entry. `readCameraVideoStreams_iff` says when the
reading agrees with it: all that is returned are projections of the entries, with distinct
identifiers, and a failure is an exception – unless the reading comes upon a flag that is
null, in an entry that is valid otherwise.

`ReadCameraAudioStreams` is made alike, of eight fields that are all needed, and comes upon
no such null.
-/

/-- **An allocated stream** with all the camera reports of it (`MatterCameraVideoStream`). -/
structure AllocatedVideoStream extends MatterCameraVideoStream where
  referenceCount : UInt8
  watermarkEnabled : Option Bool
  onScreenDisplayEnabled : Option Bool
  deriving DecidableEq, Repr

/-- `CameraStreamField`. -/
def cameraStreamField {α : Type} [ProjectedUnsigned α] (fields : Option PropertySet)
    (key : HString) : Except Failure α :=
  match fields with
  | none => .error (.code .bounds)
  | some fields =>
    if !fields.hasKey key then .error (.code .bounds)
    else do descriptorUnsigned (← fields.lookup key)

/-- The width and the height of a resolution. -/
def cameraResolution (fields : Option PropertySet) : Except Failure Resolution := do
  let width ← cameraStreamField fields (fieldKey 0)
  let height ← cameraStreamField fields (fieldKey 1)
  .ok ⟨width, height⟩

/-- **The constructor of a stream**, up to its check of the bounds: the members in the order
of their declaration, and the resolutions. -/
def videoStreamMembers (fields : Option PropertySet) :
    Except Failure (MatterCameraVideoStream × UInt8) := do
  let streamId ← cameraStreamField fields (fieldKey 0)
  let streamUsage ← cameraStreamField fields (fieldKey 1)
  let videoCodec ← cameraStreamField fields (fieldKey 2)
  let minimumFrameRate ← cameraStreamField fields (fieldKey 3)
  let maximumFrameRate ← cameraStreamField fields (fieldKey 4)
  let minimumBitRate ← cameraStreamField fields (fieldKey 7)
  let maximumBitRate ← cameraStreamField fields (fieldKey 8)
  let keyFrameInterval ← cameraStreamField fields (fieldKey 9)
  let referenceCount ← cameraStreamField fields (fieldKey 12)
  let fields ← call fields
  if !fields.hasKey (fieldKey 5) || !fields.hasKey (fieldKey 6) then .error (.code .bounds)
  else do
    let minimum ← (← fields.lookup (fieldKey 5)).asPropertySet
    let maximum ← (← fields.lookup (fieldKey 6)).asPropertySet
    let minimumResolution ← cameraResolution minimum
    let maximumResolution ← cameraResolution maximum
    .ok (⟨streamId, streamUsage, videoCodec, minimumFrameRate, maximumFrameRate,
      minimumResolution, maximumResolution, minimumBitRate, maximumBitRate,
      keyFrameInterval⟩, referenceCount)

/-- Whether the constructor finds the identifier reserved, or a minimum above its
maximum. -/
def MatterCameraVideoStream.reversed (s : MatterCameraVideoStream) : Bool :=
  s.streamId == reservedStreamId || s.minimumFrameRate > s.maximumFrameRate ||
    s.minimumResolution.width > s.maximumResolution.width ||
    s.minimumResolution.height > s.maximumResolution.height ||
    s.minimumBitRate > s.maximumBitRate

/-- A flag that may be left out. -/
def optionalFlag (fields : PropertySet) (key : HString) : Except Failure (Option Bool) :=
  if fields.hasKey key then do
    let flag ← (← fields.lookup key).unboxBoolean
    .ok (some flag)
  else .ok none

/-- **The constructor of a stream.** -/
def allocatedVideoStream (fields : Option PropertySet) : Except Failure AllocatedVideoStream := do
  let (stream, referenceCount) ← videoStreamMembers fields
  if stream.reversed then .error (.code .bounds)
  else do
    let fields ← call fields
    let watermarkEnabled ← optionalFlag fields (fieldKey 10)
    let onScreenDisplayEnabled ← optionalFlag fields (fieldKey 11)
    .ok { stream with referenceCount, watermarkEnabled, onScreenDisplayEnabled }

/-- An entry of the list, in the loop of `ReadCameraVideoStreams`. -/
def addVideoStream (streams : List AllocatedVideoStream) (entry : Inspectable) :
    Except Failure (List AllocatedVideoStream) := do
  let stream ← allocatedVideoStream (← entry.asPropertySet)
  if streams.any fun existing => existing.streamId == stream.streamId then
    .error (.code .bounds)
  else .ok (streams ++ [stream])

/-- **`ReadCameraVideoStreams`**, of what `ReadAttribute` gave. -/
def readCameraVideoStreams (data : Option PropertySet) :
    Except Failure (List AllocatedVideoStream) := do
  let list ← descriptorList data
  list.foldlM addVideoStream []

/-! ## What a stream is -/

/-- The structure has this field, and its projection is this. -/
def HasField {α : Type} [ProjectedUnsigned α] (p : PropertySet) (key : HString) (a : α) : Prop :=
  ∃ value, p.find key = some value ∧ Reads value a

/-- The structure has this resolution. -/
def HasResolution (p : PropertySet) (key : HString) (r : Resolution) : Prop :=
  ∃ q : PropertySet, p.find key = some (.propertySet q) ∧
    HasField q (fieldKey 0) r.width ∧ HasField q (fieldKey 1) r.height

/-- The flag, where the structure has one, and none where it has none. -/
def HasFlag (p : PropertySet) (key : HString) : Option Bool → Prop
  | none => p.find key = none
  | some b => p.find key = some (.value (.boolean b))

/-- **The fields a stream cannot do without.** -/
structure HasMembers (p : PropertySet) (s : MatterCameraVideoStream) (referenceCount : UInt8) :
    Prop where
  streamId : HasField p (fieldKey 0) s.streamId
  streamUsage : HasField p (fieldKey 1) s.streamUsage
  videoCodec : HasField p (fieldKey 2) s.videoCodec
  minimumFrameRate : HasField p (fieldKey 3) s.minimumFrameRate
  maximumFrameRate : HasField p (fieldKey 4) s.maximumFrameRate
  minimumResolution : HasResolution p (fieldKey 5) s.minimumResolution
  maximumResolution : HasResolution p (fieldKey 6) s.maximumResolution
  minimumBitRate : HasField p (fieldKey 7) s.minimumBitRate
  maximumBitRate : HasField p (fieldKey 8) s.maximumBitRate
  keyFrameInterval : HasField p (fieldKey 9) s.keyFrameInterval
  referenceCount : HasField p (fieldKey 12) referenceCount

/-- **A stream that can be**: its identifier is not the reserved one, and no minimum is
above its maximum. -/
structure MatterCameraVideoStream.Ordered (s : MatterCameraVideoStream) : Prop where
  streamId : s.streamId ≠ 65535
  frameRate : s.minimumFrameRate ≤ s.maximumFrameRate
  width : s.minimumResolution.width ≤ s.maximumResolution.width
  height : s.minimumResolution.height ≤ s.maximumResolution.height
  bitRate : s.minimumBitRate ≤ s.maximumBitRate

/-- **The stream of an entry.** -/
def Projects (entry : Inspectable) (s : AllocatedVideoStream) : Prop :=
  ∃ p, entry = .propertySet p ∧ HasMembers p s.toMatterCameraVideoStream s.referenceCount ∧
    s.toMatterCameraVideoStream.Ordered ∧ HasFlag p (fieldKey 10) s.watermarkEnabled ∧
    HasFlag p (fieldKey 11) s.onScreenDisplayEnabled

/-- **An entry with a null flag** that is valid otherwise, as far as it is read. -/
def HasNullFlag (entry : Inspectable) : Prop :=
  ∃ (p : PropertySet) (s : MatterCameraVideoStream) (referenceCount : UInt8),
    entry = .propertySet p ∧ HasMembers p s referenceCount ∧ s.Ordered ∧
    (p.find (fieldKey 10) = some .null ∨
      (∃ flag, HasFlag p (fieldKey 10) flag) ∧ p.find (fieldKey 11) = some .null)

/-- **A null flag is reached**: the entries before it are streams, with distinct
identifiers. -/
def NullFlagReached (value : Inspectable) : Prop :=
  ∃ before entry after streams, ListOf value (before ++ entry :: after) ∧
    List.Forall₂ Projects before streams ∧
    (streams.map fun s : AllocatedVideoStream => s.streamId).Nodup ∧ HasNullFlag entry

/-! ## The fields -/

section Field

variable {α : Type} [ProjectedUnsigned α]

/-- A field is read where the structure has it. -/
theorem cameraStreamField_ok_iff {p : PropertySet} {key : HString} {a : α} :
    cameraStreamField (some p) key = .ok a ↔ HasField p key a := by
  show (if !p.hasKey key then _ else p.lookup key >>= descriptorUnsigned) = _ ↔ _
  split
  · rename_i hmissing
    refine ⟨(by rintro ⟨⟩), ?_⟩
    rintro ⟨value, hvalue, -⟩
    rw [← PropertySet.find_isSome, hvalue] at hmissing
    cases hmissing
  · simp only [Except.bind_ok_iff, PropertySet.lookup_ok_iff, descriptorUnsigned_ok_iff]
    exact Iff.rfl

/-- A field that cannot be read is refused. -/
theorem cameraStreamField_throws (fields : Option PropertySet) (key : HString) :
    Except.Throws MalformedCode (cameraStreamField fields key : Except Failure α) := by
  cases fields with
  | none => exact Except.throws_error malformedCode_bounds
  | some p =>
    show Except.Throws _ (if !p.hasKey key then _ else p.lookup key >>= descriptorUnsigned)
    split
    · exact Except.throws_error malformedCode_bounds
    · exact (lookup_throws p key).bind fun v _ => descriptorUnsigned_throws v

theorem cameraStreamField_ne_fault (fields : Option PropertySet) (key : HString) :
    (cameraStreamField fields key : Except Failure α) ≠ .error .fault :=
  ne_fault_of_throws (cameraStreamField_throws fields key)

end Field

/-- A resolution is read where the structure has its fields. -/
theorem cameraResolution_ok_iff {p : PropertySet} {r : Resolution} :
    cameraResolution (some p) = .ok r ↔
      HasField p (fieldKey 0) r.width ∧ HasField p (fieldKey 1) r.height := by
  unfold cameraResolution
  simp only [Except.bind_ok_iff, cameraStreamField_ok_iff]
  constructor
  · rintro ⟨width, hwidth, height, hheight, ⟨⟩⟩
    exact ⟨hwidth, hheight⟩
  · rintro ⟨hwidth, hheight⟩
    exact ⟨_, hwidth, _, hheight, rfl⟩

/-- A null has no resolution. -/
theorem cameraResolution_none : cameraResolution none = .error (.code .bounds) := rfl

theorem cameraResolution_ne_fault (fields : Option PropertySet) :
    cameraResolution fields ≠ .error .fault := by
  unfold cameraResolution
  simp [Except.bind_error_iff, cameraStreamField_ne_fault]

/-- A property set is asked for its interface. -/
theorem asPropertySet_ok_iff {value : Inspectable} {p : PropertySet} :
    value.asPropertySet = .ok (some p) ↔ value = .propertySet p := by
  cases value <;> simp [Inspectable.asPropertySet]

theorem asPropertySet_ne_fault (value : Inspectable) :
    value.asPropertySet ≠ .error .fault := by
  cases value <;> simp [Inspectable.asPropertySet]

/-- A resolution that is read comes from a structure. -/
theorem cameraResolution_of_ok {fields : Option PropertySet} {r : Resolution}
    (h : cameraResolution fields = .ok r) :
    ∃ p, fields = some p ∧ HasField p (fieldKey 0) r.width ∧ HasField p (fieldKey 1) r.height := by
  cases fields with
  | none =>
    rw [cameraResolution_none] at h
    cases h
  | some p => exact ⟨p, rfl, cameraResolution_ok_iff.mp h⟩

/-- **The members are read** where the structure has them. -/
theorem videoStreamMembers_ok_iff {p : PropertySet} {s : MatterCameraVideoStream}
    {referenceCount : UInt8} :
    videoStreamMembers (some p) = .ok (s, referenceCount) ↔ HasMembers p s referenceCount := by
  unfold videoStreamMembers
  simp only [Except.bind_ok_iff, cameraStreamField_ok_iff]
  constructor
  · rintro ⟨streamId, h0, streamUsage, h1, videoCodec, h2, minimumFrameRate, h3,
      maximumFrameRate, h4, minimumBitRate, h7, maximumBitRate, h8, keyFrameInterval, h9,
      count, h12, _, ⟨⟩, h⟩
    split at h
    · cases h
    · simp only [Except.bind_ok_iff, PropertySet.lookup_ok_iff] at h
      obtain ⟨v5, h5, minimum, hmin, v6, h6, maximum, hmax, r5, hr5, r6, hr6, ⟨⟩⟩ := h
      obtain ⟨q5, rfl, hq5⟩ := cameraResolution_of_ok hr5
      obtain ⟨q6, rfl, hq6⟩ := cameraResolution_of_ok hr6
      rw [asPropertySet_ok_iff] at hmin hmax
      rw [hmin] at h5
      rw [hmax] at h6
      exact ⟨h0, h1, h2, h3, h4, ⟨q5, h5, hq5⟩, ⟨q6, h6, hq6⟩, h7, h8, h9, h12⟩
  · rintro ⟨h0, h1, h2, h3, h4, ⟨q5, h5, hq5⟩, ⟨q6, h6, hq6⟩, h7, h8, h9, h12⟩
    refine ⟨_, h0, _, h1, _, h2, _, h3, _, h4, _, h7, _, h8, _, h9, _, h12, p, rfl, ?_⟩
    have hkeys : (!p.hasKey (fieldKey 5) || !p.hasKey (fieldKey 6)) = false := by
      rw [← PropertySet.find_isSome, ← PropertySet.find_isSome, h5, h6]
      rfl
    rw [hkeys]
    simp only [Bool.false_eq_true, if_false, Except.bind_ok_iff, PropertySet.lookup_ok_iff]
    exact ⟨_, h5, some q5, rfl, _, h6, some q6, rfl, _, cameraResolution_ok_iff.mpr hq5, _,
      cameraResolution_ok_iff.mpr hq6, rfl⟩

/-- Members that cannot be read are an exception. -/
theorem videoStreamMembers_ne_fault (fields : Option PropertySet) :
    videoStreamMembers fields ≠ .error .fault := by
  unfold videoStreamMembers
  simp only [ne_eq, Except.bind_error_iff, cameraStreamField_ne_fault, false_or]
  rintro ⟨_, h0, _, -, _, -, _, -, _, -, _, -, _, -, _, -, _, -, h⟩
  cases fields with
  | none => cases h0
  | some p =>
    rcases h with h | ⟨_, ⟨⟩, h⟩
    · cases h
    · split at h
      · cases h
      · simp [Except.bind_error_iff, PropertySet.lookup_ne_fault, asPropertySet_ne_fault,
          cameraResolution_ne_fault] at h

/-- A flag that is there is looked up and unboxed. -/
theorem optionalFlag_of_find {p : PropertySet} {key : HString} {value : Inspectable}
    (h : p.find key = some value) :
    optionalFlag p key = value.unboxBoolean >>= fun flag => .ok (some flag) := by
  unfold optionalFlag
  rw [← PropertySet.find_isSome, h, PropertySet.lookup_ok_iff.mpr h]
  rfl

/-- One that is left out is not. -/
theorem optionalFlag_of_missing {p : PropertySet} {key : HString} (h : p.find key = none) :
    optionalFlag p key = .ok none := by
  unfold optionalFlag
  rw [← PropertySet.find_isSome, h]
  rfl

/-- **A flag is read** where it is left out or a truth value. -/
theorem optionalFlag_ok_iff {p : PropertySet} {key : HString} {flag : Option Bool} :
    optionalFlag p key = .ok flag ↔ HasFlag p key flag := by
  cases hv : p.find key with
  | none =>
    rw [optionalFlag_of_missing hv]
    cases flag <;> simp [HasFlag, hv]
  | some value =>
    rw [optionalFlag_of_find hv, Except.bind_ok_iff]
    simp only [Inspectable.unboxBoolean_ok_iff]
    cases flag <;> simp [HasFlag, hv]

/-- **Only a null flag is not noticed.** -/
theorem optionalFlag_fault_iff {p : PropertySet} {key : HString} :
    optionalFlag p key = .error .fault ↔ p.find key = some .null := by
  cases hv : p.find key with
  | none =>
    rw [optionalFlag_of_missing hv]
    exact ⟨(by rintro ⟨⟩), (by rintro ⟨⟩)⟩
  | some value =>
    rw [optionalFlag_of_find hv, Except.bind_error_iff, Inspectable.unboxBoolean_fault_iff]
    simp

/-- The check of the bounds. -/
theorem MatterCameraVideoStream.reversed_iff {s : MatterCameraVideoStream} :
    s.reversed = false ↔ s.Ordered := by
  unfold MatterCameraVideoStream.reversed
  simp only [Bool.or_eq_false_iff, beq_eq_false_iff_ne, decide_eq_false_iff_not, gt_iff_lt,
    UInt16.not_lt, UInt32.not_lt]
  exact ⟨fun ⟨⟨⟨⟨h1, h2⟩, h3⟩, h4⟩, h5⟩ => ⟨h1, h2, h3, h4, h5⟩,
    fun h => ⟨⟨⟨⟨h.streamId, h.frameRate⟩, h.width⟩, h.height⟩, h.bitRate⟩⟩

/-! ## The entries -/

/-- **A stream is read** where the structure is one. -/
theorem allocatedVideoStream_ok_iff {p : PropertySet} {s : AllocatedVideoStream} :
    allocatedVideoStream (some p) = .ok s ↔
      HasMembers p s.toMatterCameraVideoStream s.referenceCount ∧
        s.toMatterCameraVideoStream.Ordered ∧ HasFlag p (fieldKey 10) s.watermarkEnabled ∧
        HasFlag p (fieldKey 11) s.onScreenDisplayEnabled := by
  unfold allocatedVideoStream
  rw [Except.bind_ok_iff]
  constructor
  · rintro ⟨⟨stream, count⟩, hmembers, h⟩
    dsimp only at h
    split at h
    · cases h
    · rename_i hordered
      obtain ⟨_, ⟨⟩, h⟩ := Except.bind_ok_iff.mp h
      obtain ⟨watermark, hwatermark, h⟩ := Except.bind_ok_iff.mp h
      obtain ⟨display, hdisplay, ⟨⟩⟩ := Except.bind_ok_iff.mp h
      exact ⟨videoStreamMembers_ok_iff.mp hmembers,
        MatterCameraVideoStream.reversed_iff.mp (Bool.eq_false_iff.mpr hordered),
        optionalFlag_ok_iff.mp hwatermark, optionalFlag_ok_iff.mp hdisplay⟩
  · rintro ⟨hmembers, hordered, hwatermark, hdisplay⟩
    refine ⟨_, videoStreamMembers_ok_iff.mpr hmembers, ?_⟩
    dsimp only
    rw [MatterCameraVideoStream.reversed_iff.mpr hordered, if_neg Bool.false_ne_true]
    exact Except.bind_ok_iff.mpr ⟨p, rfl, Except.bind_ok_iff.mpr
      ⟨_, optionalFlag_ok_iff.mpr hwatermark, Except.bind_ok_iff.mpr
        ⟨_, optionalFlag_ok_iff.mpr hdisplay, rfl⟩⟩⟩

/-- The flags of a stream, at the end of its constructor. -/
theorem optionalFlags_fault_iff {p : PropertySet}
    {build : Option Bool → Option Bool → AllocatedVideoStream} :
    (optionalFlag p (fieldKey 10) >>= fun watermark =>
      optionalFlag p (fieldKey 11) >>= fun display => .ok (build watermark display)) =
        .error .fault ↔
      p.find (fieldKey 10) = some .null ∨
        (∃ flag, HasFlag p (fieldKey 10) flag) ∧ p.find (fieldKey 11) = some .null := by
  simp only [Except.bind_error_iff, optionalFlag_fault_iff, optionalFlag_ok_iff, reduceCtorEq,
    and_false, exists_false, or_false, exists_and_right]

/-- **Only a null flag is not noticed**, after the members and the bounds were. -/
theorem allocatedVideoStream_fault_iff {p : PropertySet} :
    allocatedVideoStream (some p) = .error .fault ↔ HasNullFlag (.propertySet p) := by
  unfold allocatedVideoStream
  simp only [Except.bind_error_iff, videoStreamMembers_ne_fault, false_or]
  constructor
  · rintro ⟨⟨stream, count⟩, hmembers, h⟩
    dsimp only at h
    split at h
    · cases h
    · rename_i hordered
      exact ⟨p, stream, count, rfl, videoStreamMembers_ok_iff.mp hmembers,
        MatterCameraVideoStream.reversed_iff.mp (Bool.eq_false_iff.mpr hordered),
        optionalFlags_fault_iff.mp h⟩
  · rintro ⟨_, stream, count, ⟨⟩, hmembers, hordered, hflag⟩
    refine ⟨_, videoStreamMembers_ok_iff.mpr hmembers, ?_⟩
    dsimp only
    rw [MatterCameraVideoStream.reversed_iff.mpr hordered, if_neg Bool.false_ne_true]
    exact optionalFlags_fault_iff.mpr hflag

/-- A null has no members. -/
theorem allocatedVideoStream_none : allocatedVideoStream none = .error (.code .bounds) := rfl

/-- **An entry is read where it has a stream.** -/
theorem entry_ok_iff {entry : Inspectable} {s : AllocatedVideoStream} :
    (entry.asPropertySet >>= allocatedVideoStream) = .ok s ↔ Projects entry s := by
  rw [Except.bind_ok_iff]
  constructor
  · rintro ⟨fields, hfields, h⟩
    cases fields with
    | none =>
      rw [allocatedVideoStream_none] at h
      cases h
    | some p =>
      exact ⟨p, asPropertySet_ok_iff.mp hfields, allocatedVideoStream_ok_iff.mp h⟩
  · rintro ⟨p, hp, h⟩
    exact ⟨some p, asPropertySet_ok_iff.mpr hp, allocatedVideoStream_ok_iff.mpr h⟩

/-- An entry that is a fault has a null flag; a null entry is none. -/
theorem entry_fault_iff {entry : Inspectable} :
    (entry.asPropertySet >>= allocatedVideoStream) = .error .fault ↔ HasNullFlag entry := by
  rw [Except.bind_error_iff, or_iff_right (asPropertySet_ne_fault entry)]
  constructor
  · rintro ⟨fields, hfields, h⟩
    cases fields with
    | none =>
      rw [allocatedVideoStream_none] at h
      cases h
    | some p =>
      rw [asPropertySet_ok_iff.mp hfields]
      exact allocatedVideoStream_fault_iff.mp h
  · rintro ⟨p, s, count, rfl, h⟩
    exact ⟨some p, rfl, allocatedVideoStream_fault_iff.mpr ⟨p, s, count, rfl, h⟩⟩

/-! ## The list -/

/-- Among the identifiers of the streams so far, this one is. -/
theorem any_streamId_iff {streams : List AllocatedVideoStream} {s : AllocatedVideoStream} :
    (streams.any fun existing => existing.streamId == s.streamId) = true ↔
      s.streamId ∈ streams.map fun s => s.streamId := by
  simp only [List.any_eq_true, beq_iff_eq, List.mem_map]

/-- **A step of the loop**: the entry has a stream, and its identifier is a new one. -/
theorem addVideoStream_ok_iff {streams r : List AllocatedVideoStream} {entry : Inspectable} :
    addVideoStream streams entry = .ok r ↔
      ∃ s, Projects entry s ∧ s.streamId ∉ streams.map (fun s => s.streamId) ∧
        r = streams ++ [s] := by
  show (entry.asPropertySet >>= fun fields => allocatedVideoStream fields >>= fun stream => _) =
    _ ↔ _
  rw [← bind_assoc, Except.bind_ok_iff]
  simp only [entry_ok_iff]
  refine exists_congr fun s => and_congr_right fun _ => ?_
  rw [← any_streamId_iff]
  split
  · rename_i hany
    exact ⟨(by rintro ⟨⟩), fun h => absurd hany h.1⟩
  · rename_i hany
    exact ⟨fun h => ⟨hany, by cases h; rfl⟩, fun h => by rw [h.2]⟩

/-- A step that is a fault is one at the entry. -/
theorem addVideoStream_fault_iff {streams : List AllocatedVideoStream} {entry : Inspectable} :
    addVideoStream streams entry = .error .fault ↔ HasNullFlag entry := by
  show (entry.asPropertySet >>= fun fields => allocatedVideoStream fields >>= fun stream => _) =
    _ ↔ _
  rw [← bind_assoc, Except.bind_error_iff, entry_fault_iff]
  refine or_iff_left ?_
  rintro ⟨s, -, h⟩
  split at h <;> cases h

/-- A stream more has an identifier more. -/
theorem nodup_streamId_concat {streams : List AllocatedVideoStream} {s : AllocatedVideoStream} :
    ((streams ++ [s]).map fun s => s.streamId).Nodup ↔
      (streams.map fun s => s.streamId).Nodup ∧
        s.streamId ∉ streams.map fun s => s.streamId := by
  rw [List.map_append, List.map_singleton, List.nodup_append_comm, List.singleton_append,
    List.nodup_cons, and_comm]

/-- **The loop**, from streams with distinct identifiers: it adds the streams of the entries,
and all have distinct identifiers. -/
theorem foldlM_addVideoStream_ok_iff {entries : List Inspectable}
    {streams r : List AllocatedVideoStream} (h : (streams.map fun s => s.streamId).Nodup) :
    entries.foldlM addVideoStream streams = .ok r ↔
      ∃ added, r = streams ++ added ∧ List.Forall₂ Projects entries added ∧
        (r.map fun s => s.streamId).Nodup := by
  induction entries generalizing streams with
  | nil =>
    rw [List.foldlM_nil]
    constructor
    · rintro ⟨⟩
      exact ⟨[], (List.append_nil _).symm, .nil, h⟩
    · rintro ⟨added, rfl, hadded, -⟩
      cases hadded
      rw [List.append_nil]
      rfl
  | cons entry entries ih =>
    rw [List.foldlM_cons, Except.bind_ok_iff]
    constructor
    · rintro ⟨next, hnext, hrest⟩
      obtain ⟨s, hs, hnew, rfl⟩ := addVideoStream_ok_iff.mp hnext
      obtain ⟨added, rfl, hadded, hr⟩ := (ih (nodup_streamId_concat.mpr ⟨h, hnew⟩)).mp hrest
      exact ⟨s :: added, List.append_assoc .., .cons hs hadded, hr⟩
    · rintro ⟨added, rfl, hadded, hr⟩
      cases hadded with
      | @cons _ s _ added hs hadded =>
        rw [List.append_cons] at hr
        have hnodup : ((streams ++ [s]).map fun s => s.streamId).Nodup := by
          rw [List.map_append] at hr
          exact hr.of_append_left
        exact ⟨streams ++ [s],
          addVideoStream_ok_iff.mpr ⟨s, hs, (nodup_streamId_concat.mp hnodup).2, rfl⟩,
          (ih hnodup).mpr ⟨added, List.append_cons .., hadded, by rwa [List.append_cons]⟩⟩

/-- **The loop of the reading**, which starts with no streams. -/
theorem foldlM_addVideoStream_nil_iff {entries : List Inspectable}
    {r : List AllocatedVideoStream} :
    entries.foldlM addVideoStream [] = .ok r ↔
      List.Forall₂ Projects entries r ∧ (r.map fun s => s.streamId).Nodup := by
  rw [foldlM_addVideoStream_ok_iff (by simp)]
  constructor
  · rintro ⟨added, rfl, h⟩
    exact h
  · intro h
    exact ⟨r, rfl, h⟩

section Reading

variable {value : Inspectable}

/-- **The streams are read** where the value is a list of entries that have one each, with
distinct identifiers. -/
theorem readCameraVideoStreams_ok_iff (h : Decoded value) {streams : List AllocatedVideoStream} :
    readCameraVideoStreams (some (decodedRoot value)) = .ok streams ↔
      ∃ items, ListOf value items ∧ List.Forall₂ Projects items streams ∧
        (streams.map fun s => s.streamId).Nodup := by
  unfold readCameraVideoStreams
  rw [Except.bind_ok_iff]
  refine exists_congr fun items => ?_
  rw [descriptorList_ok_iff h, foldlM_addVideoStream_nil_iff]

/-- **A fault is a null flag that is reached.** -/
theorem readCameraVideoStreams_fault_iff (h : Decoded value) :
    readCameraVideoStreams (some (decodedRoot value)) = .error .fault ↔
      NullFlagReached value := by
  unfold readCameraVideoStreams
  rw [Except.bind_error_iff, or_iff_right (descriptorList_ne_fault _)]
  simp only [descriptorList_ok_iff h, Except.foldlM_error_iff, addVideoStream_fault_iff,
    foldlM_addVideoStream_nil_iff]
  constructor
  · rintro ⟨_, hlist, before, entry, after, streams, rfl, ⟨hbefore, hnodup⟩, hflag⟩
    exact ⟨before, entry, after, streams, hlist, hbefore, hnodup, hflag⟩
  · rintro ⟨before, entry, after, streams, hlist, hbefore, hnodup, hflag⟩
    exact ⟨_, hlist, before, entry, after, streams, rfl, ⟨hbefore, hnodup⟩, hflag⟩

end Reading

/-- **The reading of the streams**, for all decoded values: what it returns is a stream for
each entry, in order, with the flags the entry has and with distinct identifiers, and where
it returns nothing it throws – exactly where no null flag is reached. -/
theorem readCameraVideoStreams_iff {value : Inspectable} (h : Decoded value) :
    ((∀ streams, readCameraVideoStreams (some (decodedRoot value)) = .ok streams →
        ∃ items, ListOf value items ∧ List.Forall₂ Projects items streams ∧
          (streams.map fun s => s.streamId).Nodup) ∧
      ∀ f, readCameraVideoStreams (some (decodedRoot value)) = .error f →
        ∃ exn, f = .throws exn) ↔
      ¬ NullFlagReached value := by
  rw [← readCameraVideoStreams_fault_iff h]
  constructor
  · rintro ⟨-, hthrows⟩ hfault
    obtain ⟨exn, hexn⟩ := hthrows .fault hfault
    cases hexn
  · intro hfault
    refine ⟨fun streams => (readCameraVideoStreams_ok_iff h).mp, fun f hf => ?_⟩
    cases f with
    | throws exn => exact ⟨exn, rfl⟩
    | fault => exact absurd hf hfault

/-- A resolution as the camera reports it. -/
def resolutionValue (width height : UInt64) : Inspectable :=
  .propertySet [(fieldKey 0, .value (.uint64 width)), (fieldKey 1, .value (.uint64 height))]

/-- A stream as the camera reports it, with this watermark flag. -/
def streamValue (watermark : Inspectable) : Inspectable :=
  .propertySet
    [(fieldKey 0, .value (.uint64 7)), (fieldKey 1, .value (.uint64 3)),
      (fieldKey 2, .value (.uint64 0)), (fieldKey 3, .value (.uint64 15)),
      (fieldKey 4, .value (.uint64 30)), (fieldKey 5, resolutionValue 640 360),
      (fieldKey 6, resolutionValue 1920 1080), (fieldKey 7, .value (.uint64 10000)),
      (fieldKey 8, .value (.uint64 2000000)), (fieldKey 9, .value (.uint64 4000)),
      (fieldKey 10, watermark), (fieldKey 12, .value (.uint64 1))]

theorem decoded_resolutionValue (width height : UInt64) :
    Decoded (resolutionValue width height) := by
  refine @Decoded.numbered [(0, .value (.uint64 width)), (1, .value (.uint64 height))]
    (show List.Nodup [fieldKey 0, fieldKey 1] by decide) fun e he => ?_
  simp only [List.mem_cons, List.not_mem_nil, or_false] at he
  rcases he with rfl | rfl <;> exact .uint64 _

theorem decoded_streamValue {watermark : Inspectable} (h : Decoded watermark) :
    Decoded (.vector [streamValue watermark]) := by
  refine .vector fun i hi => ?_
  rw [List.mem_singleton.mp hi]
  refine @Decoded.numbered
    [(0, .value (.uint64 7)), (1, .value (.uint64 3)), (2, .value (.uint64 0)),
      (3, .value (.uint64 15)), (4, .value (.uint64 30)), (5, resolutionValue 640 360),
      (6, resolutionValue 1920 1080), (7, .value (.uint64 10000)),
      (8, .value (.uint64 2000000)), (9, .value (.uint64 4000)), (10, watermark),
      (12, .value (.uint64 1))]
    (show List.Nodup (List.map fieldKey [0, 1, 2, 3, 4, 5, 6, 7, 8, 9, 10, 12]) by decide)
    fun e he => ?_
  simp only [List.mem_cons, List.not_mem_nil, or_false] at he
  rcases he with rfl | rfl | rfl | rfl | rfl | rfl | rfl | rfl | rfl | rfl | rfl | rfl
  all_goals
    first
    | exact .uint64 _
    | exact decoded_resolutionValue _ _
    | exact h

/-- The stream it is, with a watermark. -/
def liveViewStream : AllocatedVideoStream where
  streamId := 7
  streamUsage := 3
  videoCodec := 0
  minimumFrameRate := 15
  maximumFrameRate := 30
  minimumResolution := ⟨640, 360⟩
  maximumResolution := ⟨1920, 1080⟩
  minimumBitRate := 10000
  maximumBitRate := 2000000
  keyFrameInterval := 4000
  referenceCount := 1
  watermarkEnabled := some true
  onScreenDisplayEnabled := none

/-- It is read. -/
theorem readCameraVideoStreams_iff_live :
    Decoded (.vector [streamValue (.value (.boolean true))]) ∧
      ∃ items, ListOf (.vector [streamValue (.value (.boolean true))]) items ∧
        List.Forall₂ Projects items [liveViewStream] ∧
        ([liveViewStream].map fun s => s.streamId).Nodup := by
  have hdecoded := decoded_streamValue (.boolean true)
  have hread : readCameraVideoStreams
      (some (decodedRoot (.vector [streamValue (.value (.boolean true))]))) =
      .ok [liveViewStream] := rfl
  have hnone : ¬ NullFlagReached (.vector [streamValue (.value (.boolean true))]) := by
    rw [← readCameraVideoStreams_fault_iff hdecoded, hread]
    rintro ⟨⟩
  exact ⟨hdecoded, ((readCameraVideoStreams_iff hdecoded).mpr hnone).1 _ hread⟩

/-- **A null flag is a fault**: the value is decoded, and its only entry a stream but for its
watermark, which is null; the reading returns no streams and throws nothing. -/
theorem readCameraVideoStreams_null :
    ∃ value, Decoded value ∧
      readCameraVideoStreams (some (decodedRoot value)) = .error .fault ∧
      (¬ ∃ streams, readCameraVideoStreams (some (decodedRoot value)) = .ok streams) ∧
      ¬ ∃ exn, readCameraVideoStreams (some (decodedRoot value)) = .error (.throws exn) := by
  have hfault : readCameraVideoStreams
      (some (decodedRoot (.vector [streamValue .null]))) = .error .fault := rfl
  refine ⟨_, decoded_streamValue .null, hfault, ?_, ?_⟩
  · rintro ⟨streams, hstreams⟩
    rw [hfault] at hstreams
    cases hstreams
  · rintro ⟨exn, hexn⟩
    rw [hfault] at hexn
    cases hexn

/-! ## The allocated audio streams -/

/-- **The constructor of an audio stream**, with its check of the bounds. The reference count
is read with the others, and nobody asks for it. -/
def allocatedAudioStream (fields : Option PropertySet) :
    Except Failure MatterCameraAudioStream := do
  let streamId ← cameraStreamField fields (fieldKey 0)
  let streamUsage ← cameraStreamField fields (fieldKey 1)
  let audioCodec ← cameraStreamField fields (fieldKey 2)
  let channels ← cameraStreamField fields (fieldKey 3)
  let sampleRate ← cameraStreamField fields (fieldKey 4)
  let bitRate ← cameraStreamField fields (fieldKey 5)
  let bitDepth ← cameraStreamField fields (fieldKey 6)
  let _referenceCount : UInt8 ← cameraStreamField fields (fieldKey 7)
  if streamId == reservedStreamId || channels == 0 || channels > 8 || sampleRate == 0 ||
      bitRate == 0 || bitDepth == 0 then .error (.code .bounds)
  else .ok ⟨streamId, streamUsage, audioCodec, channels, sampleRate, bitRate, bitDepth⟩

/-- An entry of the list, in the loop of `ReadCameraAudioStreams`. -/
def addAudioStream (streams : List MatterCameraAudioStream) (entry : Inspectable) :
    Except Failure (List MatterCameraAudioStream) := do
  let stream ← allocatedAudioStream (← entry.asPropertySet)
  if streams.any fun existing => existing.streamId == stream.streamId then
    .error (.code .bounds)
  else .ok (streams ++ [stream])

/-- **`ReadCameraAudioStreams`**, of what `ReadAttribute` gave. -/
def readCameraAudioStreams (data : Option PropertySet) :
    Except Failure (List MatterCameraAudioStream) := do
  let list ← descriptorList data
  list.foldlM addAudioStream []

/-- An audio stream is read without a fault. -/
theorem allocatedAudioStream_ne_fault (fields : Option PropertySet) :
    allocatedAudioStream fields ≠ .error .fault := by
  unfold allocatedAudioStream
  simp only [Ne, Except.bind_error_iff, cameraStreamField_ne_fault, false_or, not_exists, not_and]
  intros
  split <;> simp

/-- **The audio streams are read without a fault.** -/
theorem readCameraAudioStreams_ne_fault (data : Option PropertySet) :
    readCameraAudioStreams data ≠ .error .fault := by
  unfold readCameraAudioStreams addAudioStream
  simp only [Ne, Except.bind_error_iff, Except.foldlM_error_iff, descriptorList_ne_fault,
    asPropertySet_ne_fault, allocatedAudioStream_ne_fault, false_or, not_exists, not_and]
  intros
  split <;> simp
