import MatterController.Inspectable
import MatterController.Results

/-!
# Endpoint descriptors

`ReadEndpointDescriptor` reads the four lists of the Descriptor cluster and projects them.
What it reads is a tree that the device chose, so each list, each of its entries and each
field of an entry may be null or of any kind. The helpers look for a null before they ask a
value for an interface – but for the entries of the list of device types, which are asked
first. What a helper does throw has one of two codes (`MalformedCode`).

`Describes` says what a descriptor is of the values that were read, by its own words, and
`readEndpointDescriptor_iff` when the reading agrees with it: it returns the descriptor
where there is one and throws where there is none, unless it comes upon a device type that
is null.
-/

/-- **The types a numeric field is projected to** (`DescriptorUnsigned<Value>`): unsigned,
of at most 64 bits, with `std::numeric_limits<Value>::max` and the conversion of a number
in this range. -/
class ProjectedUnsigned (α : Type) where
  max : ℕ
  cast : UInt64 → α
  toNat : α → ℕ
  toNat_le : ∀ a, toNat a ≤ max
  toNat_injective : Function.Injective toNat
  toNat_cast : ∀ n : UInt64, n.toNat ≤ max → toNat (cast n) = n.toNat

instance : ProjectedUnsigned UInt8 where
  max := 0xFF
  cast := UInt64.toUInt8
  toNat := UInt8.toNat
  toNat_le := fun a => Nat.le_of_lt_succ a.toNat_lt
  toNat_injective := fun _ _ => UInt8.toNat_inj.mp
  toNat_cast := fun n hn => by
    rw [UInt64.toNat_toUInt8]
    exact Nat.mod_eq_of_lt (Nat.lt_succ_of_le hn)

instance : ProjectedUnsigned UInt16 where
  max := 0xFFFF
  cast := UInt64.toUInt16
  toNat := UInt16.toNat
  toNat_le := fun a => Nat.le_of_lt_succ a.toNat_lt
  toNat_injective := fun _ _ => UInt16.toNat_inj.mp
  toNat_cast := fun n hn => by
    rw [UInt64.toNat_toUInt16]
    exact Nat.mod_eq_of_lt (Nat.lt_succ_of_le hn)

instance : ProjectedUnsigned UInt32 where
  max := 0xFFFFFFFF
  cast := UInt64.toUInt32
  toNat := UInt32.toNat
  toNat_le := fun a => Nat.le_of_lt_succ a.toNat_lt
  toNat_injective := fun _ _ => UInt32.toNat_inj.mp
  toNat_cast := fun n hn => by
    rw [UInt64.toNat_toUInt32]
    exact Nat.mod_eq_of_lt (Nat.lt_succ_of_le hn)

/-- `kMaximumDescriptorListItems`. -/
def maximumDescriptorListItems : ℕ := 512

/-- `DescriptorList`: the list under the key of a root that is no structure. -/
def descriptorList (data : Option PropertySet) : Except Failure (List Inspectable) :=
  match data with
  | none => .error (.code .bounds)
  | some data =>
    match data.find valueKey with
    | none | some .null => .error (.code .bounds)
    | some value => do
      let list ← call (← value.asVector)
      if list.length > maximumDescriptorListItems then .error (.code .bounds) else .ok list

section Projected

variable {α : Type} [ProjectedUnsigned α]

/-- `DescriptorUnsigned`. -/
def descriptorUnsigned (value : Inspectable) : Except Failure α :=
  if value.isNull then .error (.code .bounds)
  else do
    let number ← value.unboxUInt64
    if number.toNat > ProjectedUnsigned.max α then .error (.code .bounds)
    else .ok (ProjectedUnsigned.cast number)

/-- `DescriptorNumericList`. -/
def descriptorNumericList (data : Option PropertySet) : Except Failure (List α) := do
  let list ← descriptorList data
  list.mapM descriptorUnsigned

end Projected

/-- `MatterDeviceType`. -/
structure MatterDeviceType where
  deviceType : UInt32
  revision : UInt16
  deriving DecidableEq, Repr

/-- `MatterEndpointDescriptor`. -/
structure MatterEndpointDescriptor where
  endpointId : UInt16
  partsList : List UInt16
  serverList : List UInt32
  clientList : List UInt32
  deviceTypes : List MatterDeviceType
  deriving DecidableEq, Repr

/-- The attributes of the Descriptor cluster that are read. -/
inductive DescriptorAttribute
  | partsList
  | serverList
  | clientList
  | deviceTypeList
  deriving DecidableEq, Repr

/-- **An entry of the list of device types**, in the loop of `ReadEndpointDescriptor`: a
member call on the interface comes before anything is known of it. -/
def readDeviceType (value : Inspectable) : Except Failure MatterDeviceType := do
  let fields ← call (← value.asPropertySet)
  if !fields.hasKey (fieldKey 0) || !fields.hasKey (fieldKey 1) then .error (.code .bounds)
  else do
    let deviceType ← descriptorUnsigned (← fields.lookup (fieldKey 0))
    let revision ← descriptorUnsigned (← fields.lookup (fieldKey 1))
    if revision = 0 then .error (.code .bounds) else .ok ⟨deviceType, revision⟩

/-- **`ReadEndpointDescriptor`**, where `read` is `ReadAttribute` of the endpoint's
Descriptor cluster. -/
def readEndpointDescriptor (read : DescriptorAttribute → Except Failure (Option PropertySet))
    (endpointId : UInt16) : Except Failure MatterEndpointDescriptor := do
  let parts ← descriptorNumericList (← read .partsList)
  let servers ← descriptorNumericList (← read .serverList)
  let clients ← descriptorNumericList (← read .clientList)
  let list ← descriptorList (← read .deviceTypeList)
  let types ← list.mapM readDeviceType
  .ok ⟨endpointId, parts, servers, clients, types⟩

/-! ## What a descriptor is -/

/-- The value is an unsigned integer, and this is its projection. -/
def Reads {α : Type} [ProjectedUnsigned α] (value : Inspectable) (a : α) : Prop :=
  ∃ n : UInt64, value = .value (.uint64 n) ∧ n.toNat = ProjectedUnsigned.toNat a

/-- The value is a list of these items, and of no more than the limit. -/
structure ListOf (value : Inspectable) (items : List Inspectable) : Prop where
  vector : value = .vector items
  limit : items.length ≤ 512

/-- **A device type**: a structure with the identifier and the revision, which is not
zero. -/
def DescribesType (value : Inspectable) (t : MatterDeviceType) : Prop :=
  ∃ (p : PropertySet) (a b : Inspectable), value = .propertySet p ∧
    p.find (fieldKey 0) = some a ∧ Reads a t.deviceType ∧
    p.find (fieldKey 1) = some b ∧ Reads b t.revision ∧ t.revision ≠ 0

/-- **The descriptor of the values of the four attributes**: each is a list, and each of
its entries is projected to one of the descriptor, in order. -/
structure Describes (values : DescriptorAttribute → Inspectable) (endpointId : UInt16)
    (d : MatterEndpointDescriptor) : Prop where
  endpoint : d.endpointId = endpointId
  parts : ∃ items, ListOf (values .partsList) items ∧ List.Forall₂ Reads items d.partsList
  servers : ∃ items, ListOf (values .serverList) items ∧ List.Forall₂ Reads items d.serverList
  clients : ∃ items, ListOf (values .clientList) items ∧ List.Forall₂ Reads items d.clientList
  types : ∃ items, ListOf (values .deviceTypeList) items ∧
    List.Forall₂ DescribesType items d.deviceTypes

/-- **A null device type is reached**: the other lists are read, and the entries before
it. -/
structure NullTypeReached (values : DescriptorAttribute → Inspectable) : Prop where
  parts : ∃ items ns, ListOf (values .partsList) items ∧
    List.Forall₂ Reads items (ns : List UInt16)
  servers : ∃ items ns, ListOf (values .serverList) items ∧
    List.Forall₂ Reads items (ns : List UInt32)
  clients : ∃ items ns, ListOf (values .clientList) items ∧
    List.Forall₂ Reads items (ns : List UInt32)
  types : ∃ before after, ListOf (values .deviceTypeList) (before ++ .null :: after) ∧
    ∀ e ∈ before, ∃ t, DescribesType e t

/-! ## What the helpers throw -/

section Throws

open Except

/-- **The result codes that are reported as malformed data.** -/
def MalformedCode (e : Failure) : Prop := e = .code .bounds ∨ e = .code .noInterface

theorem malformedCode_bounds : MalformedCode (.code .bounds) := Or.inl rfl

theorem malformedCode_noInterface : MalformedCode (.code .noInterface) := Or.inr rfl

/-- No such code is a fault. -/
theorem ne_fault_of_throws {α : Type} {x : Except Failure α} (h : Throws MalformedCode x) :
    x ≠ .error .fault := by
  intro hx
  rcases h .fault hx with hcode | hcode <;> cases hcode

/-- A value that is not null refuses to be what it is not. -/
theorem unboxUInt64_throws {value : Inspectable} (h : value ≠ .null) :
    Throws MalformedCode value.unboxUInt64 := by
  cases value with
  | null => exact absurd rfl h
  | value w =>
    cases w with
    | uint64 n => exact throws_ok n
    | _ => exact throws_error malformedCode_noInterface
  | _ => exact throws_error malformedCode_noInterface

theorem lookup_throws (p : PropertySet) (key : HString) :
    Throws MalformedCode (p.lookup key) := by
  unfold PropertySet.lookup
  split
  · exact throws_error malformedCode_bounds
  · exact throws_ok _

theorem descriptorList_throws (data : Option PropertySet) :
    Throws MalformedCode (descriptorList data) := by
  unfold descriptorList
  split
  · exact throws_error malformedCode_bounds
  · split
    · exact throws_error malformedCode_bounds
    · exact throws_error malformedCode_bounds
    · rename_i value hnull _
      cases value with
      | null => exact absurd rfl hnull
      | vector items =>
        show Throws _ (if items.length > maximumDescriptorListItems then _ else Except.ok items)
        split
        · exact throws_error malformedCode_bounds
        · exact throws_ok items
      | _ => exact throws_error malformedCode_noInterface

section Projected

variable {α : Type} [ProjectedUnsigned α]

theorem descriptorUnsigned_throws (value : Inspectable) :
    Throws MalformedCode (descriptorUnsigned value : Except Failure α) := by
  unfold descriptorUnsigned
  split
  · exact throws_error malformedCode_bounds
  · rename_i hnull
    refine (unboxUInt64_throws fun h => hnull (Inspectable.isNull_iff.mpr h)).bind fun n _ => ?_
    split
    · exact throws_error malformedCode_bounds
    · exact throws_ok _

theorem descriptorNumericList_throws (data : Option PropertySet) :
    Throws MalformedCode (descriptorNumericList data : Except Failure (List α)) :=
  (descriptorList_throws data).bind fun _ _ => throws_mapM fun v _ => descriptorUnsigned_throws v

end Projected

/-- An entry that is a structure. -/
theorem readDeviceType_propertySet (p : PropertySet) :
    readDeviceType (.propertySet p) =
      (if !p.hasKey (fieldKey 0) || !p.hasKey (fieldKey 1) then .error (.code .bounds)
      else do
        let deviceType ← descriptorUnsigned (← p.lookup (fieldKey 0))
        let revision ← descriptorUnsigned (← p.lookup (fieldKey 1))
        if revision = 0 then .error (.code .bounds) else .ok ⟨deviceType, revision⟩) :=
  rfl

/-- An entry that is not null is refused, where it is no device type. -/
theorem readDeviceType_throws {value : Inspectable} (h : value ≠ .null) :
    Throws MalformedCode (readDeviceType value) := by
  cases value with
  | null => exact absurd rfl h
  | propertySet p =>
    rw [readDeviceType_propertySet]
    split
    · exact throws_error malformedCode_bounds
    · refine (lookup_throws p _).bind fun a _ => (descriptorUnsigned_throws a).bind fun type _ => ?_
      refine (lookup_throws p _).bind fun b _ => (descriptorUnsigned_throws b).bind fun r _ => ?_
      split
      · exact throws_error malformedCode_bounds
      · exact throws_ok _
  | _ => exact throws_error malformedCode_noInterface

theorem PropertySet.lookup_ne_fault (p : PropertySet) (key : HString) :
    p.lookup key ≠ .error .fault :=
  ne_fault_of_throws (lookup_throws p key)

theorem descriptorList_ne_fault (data : Option PropertySet) :
    descriptorList data ≠ .error .fault :=
  ne_fault_of_throws (descriptorList_throws data)

theorem descriptorNumericList_ne_fault {α : Type} [ProjectedUnsigned α]
    (data : Option PropertySet) :
    (descriptorNumericList data : Except Failure (List α)) ≠ .error .fault :=
  ne_fault_of_throws (descriptorNumericList_throws data)

end Throws

/-! ## What the helpers return -/

/-- The list is read where the value is one. -/
theorem descriptorList_ok_iff {value : Inspectable} (h : Decoded value)
    {items : List Inspectable} :
    descriptorList (some (decodedRoot value)) = .ok items ↔ ListOf value items := by
  cases h with
  | propertySet nodup keys values =>
    rw [descriptorList, decodedRoot, PropertySet.find_valueKey keys]
    exact ⟨(by rintro ⟨⟩), fun hlist => by cases hlist.vector⟩
  | @vector items' _ =>
    show (if items'.length > maximumDescriptorListItems then _ else Except.ok items') = _ ↔ _
    split
    · rename_i hlong
      refine ⟨(by rintro ⟨⟩), fun hlist => ?_⟩
      cases hlist.vector
      exact absurd hlist.limit (Nat.not_le_of_lt hlong)
    · rename_i hshort
      constructor
      · intro heq
        cases heq
        exact ⟨rfl, Nat.le_of_not_lt hshort⟩
      · intro hlist
        cases hlist.vector
        rfl
  | _ => exact ⟨(by rintro ⟨⟩), fun hlist => by cases hlist.vector⟩

section Projected

variable {α : Type} [ProjectedUnsigned α]

/-- A number is read where the value is one in the range. -/
theorem descriptorUnsigned_ok_iff {value : Inspectable} {a : α} :
    descriptorUnsigned value = .ok a ↔ Reads value a := by
  unfold descriptorUnsigned
  split
  · rename_i hnull
    rw [Inspectable.isNull_iff.mp hnull]
    exact ⟨(by rintro ⟨⟩), (by rintro ⟨n, ⟨⟩, -⟩)⟩
  rw [Except.bind_ok_iff]
  constructor
  · rintro ⟨n, hn, h⟩
    rw [Inspectable.unboxUInt64_ok_iff] at hn
    split at h
    · cases h
    · rename_i hmax
      cases h
      exact ⟨n, hn, (ProjectedUnsigned.toNat_cast n (Nat.le_of_not_lt hmax)).symm⟩
  · rintro ⟨n, hn, heq⟩
    have hmax : n.toNat ≤ ProjectedUnsigned.max α := by
      rw [heq]
      exact ProjectedUnsigned.toNat_le a
    refine ⟨n, Inspectable.unboxUInt64_ok_iff.mpr hn, ?_⟩
    rw [if_neg (Nat.not_lt_of_le hmax)]
    exact congrArg Except.ok
      (ProjectedUnsigned.toNat_injective ((ProjectedUnsigned.toNat_cast n hmax).trans heq))

/-- A list of numbers is read where the value is a list and each of its items a number. -/
theorem descriptorNumericList_ok_iff {value : Inspectable} (h : Decoded value) {ns : List α} :
    descriptorNumericList (some (decodedRoot value)) = .ok ns ↔
      ∃ items, ListOf value items ∧ List.Forall₂ Reads items ns := by
  have hreads : (fun v a => (descriptorUnsigned v : Except Failure α) = .ok a) = Reads :=
    funext fun v => funext fun a => propext descriptorUnsigned_ok_iff
  unfold descriptorNumericList
  simp only [Except.bind_ok_iff, descriptorList_ok_iff h, Except.mapM_ok_iff, hreads]

end Projected

/-! ## The entries of the list of device types -/

/-- A field that is there is looked up. -/
theorem PropertySet.lookup_ok_iff {p : PropertySet} {key : HString} {value : Inspectable} :
    p.lookup key = .ok value ↔ p.find key = some value := by
  unfold PropertySet.lookup
  cases p.find key with
  | none => exact ⟨(by rintro ⟨⟩), (by rintro ⟨⟩)⟩
  | some v => exact ⟨fun h => by cases h; rfl, fun h => by cases h; rfl⟩

/-- **A device type is read where the value is one.** -/
theorem readDeviceType_ok_iff {value : Inspectable} {t : MatterDeviceType} :
    readDeviceType value = .ok t ↔ DescribesType value t := by
  cases value with
  | propertySet p =>
    rw [readDeviceType_propertySet]
    split
    · rename_i hmissing
      refine ⟨(by rintro ⟨⟩), ?_⟩
      rintro ⟨_, a, b, ⟨⟩, ha, -, hb, -, -⟩
      rw [← PropertySet.find_isSome, ← PropertySet.find_isSome, ha, hb] at hmissing
      cases hmissing
    · simp only [Except.bind_ok_iff, PropertySet.lookup_ok_iff, descriptorUnsigned_ok_iff]
      constructor
      · rintro ⟨a, ha, type, htype, b, hb, revision, hrevision, h⟩
        split at h
        · cases h
        · rename_i hne
          cases h
          exact ⟨p, a, b, rfl, ha, htype, hb, hrevision, hne⟩
      · rintro ⟨_, a, b, ⟨⟩, ha, htype, hb, hrevision, hne⟩
        exact ⟨a, ha, _, htype, b, hb, _, hrevision, if_neg hne⟩
  | _ => exact ⟨(by rintro ⟨⟩), (by rintro ⟨_, _, _, ⟨⟩, _⟩)⟩

/-- **Only a null is not noticed.** -/
theorem readDeviceType_fault_iff {value : Inspectable} :
    readDeviceType value = .error .fault ↔ value = .null := by
  constructor
  · intro hfault
    by_contra hnull
    exact ne_fault_of_throws (readDeviceType_throws hnull) hfault
  · rintro rfl
    rfl

/-! ## The descriptor -/

/-- What `ReadAttribute` gives of decoded values. -/
def decodedReads (values : DescriptorAttribute → Inspectable) (a : DescriptorAttribute) :
    Except Failure (Option PropertySet) :=
  .ok (some (decodedRoot (values a)))

section Descriptor

variable {values : DescriptorAttribute → Inspectable} {endpointId : UInt16}

/-- **A descriptor is returned where there is one.** -/
theorem readEndpointDescriptor_ok_iff (h : ∀ a, Decoded (values a))
    {d : MatterEndpointDescriptor} :
    readEndpointDescriptor (decodedReads values) endpointId = .ok d ↔
      Describes values endpointId d := by
  have htypes : (fun v t => readDeviceType v = .ok t) = DescribesType :=
    funext fun v => funext fun t => propext readDeviceType_ok_iff
  unfold readEndpointDescriptor decodedReads
  simp only [Except.bind_ok_iff, Except.ok.injEq, Except.mapM_ok_iff, htypes]
  constructor
  · rintro ⟨_, rfl, parts, hparts, _, rfl, servers, hservers, _, rfl, clients, hclients, _, rfl,
      list, hlist, types, htypes, rfl⟩
    exact ⟨rfl, (descriptorNumericList_ok_iff (h _)).mp hparts,
      (descriptorNumericList_ok_iff (h _)).mp hservers,
      (descriptorNumericList_ok_iff (h _)).mp hclients,
      list, (descriptorList_ok_iff (h _)).mp hlist, htypes⟩
  · rintro ⟨rfl, hparts, hservers, hclients, list, hlist, htypes⟩
    exact ⟨_, rfl, _, (descriptorNumericList_ok_iff (h _)).mpr hparts, _, rfl, _,
      (descriptorNumericList_ok_iff (h _)).mpr hservers, _, rfl, _,
      (descriptorNumericList_ok_iff (h _)).mpr hclients, _, rfl,
      list, (descriptorList_ok_iff (h _)).mpr hlist, _, htypes, rfl⟩

/-- **A fault is a null device type that is reached.** -/
theorem readEndpointDescriptor_fault_iff (h : ∀ a, Decoded (values a)) :
    readEndpointDescriptor (decodedReads values) endpointId = .error .fault ↔
      NullTypeReached values := by
  unfold readEndpointDescriptor decodedReads
  simp only [Except.bind_error_iff, reduceCtorEq, Except.ok.injEq, false_or,
    descriptorNumericList_ne_fault, descriptorList_ne_fault, and_false, exists_false, or_false,
    Except.mapM_error_iff, readDeviceType_fault_iff, readDeviceType_ok_iff]
  constructor
  · rintro ⟨_, rfl, parts, hparts, _, rfl, servers, hservers, _, rfl, clients, hclients, _, rfl,
      list, hlist, before, _, after, rfl, hbefore, rfl⟩
    obtain ⟨ps, hps⟩ := (descriptorNumericList_ok_iff (h _)).mp hparts
    obtain ⟨ss, hss⟩ := (descriptorNumericList_ok_iff (h _)).mp hservers
    obtain ⟨cs, hcs⟩ := (descriptorNumericList_ok_iff (h _)).mp hclients
    exact ⟨⟨ps, parts, hps⟩, ⟨ss, servers, hss⟩, ⟨cs, clients, hcs⟩,
      before, after, (descriptorList_ok_iff (h _)).mp hlist, hbefore⟩
  · rintro ⟨⟨ps, parts, hps⟩, ⟨ss, servers, hss⟩, ⟨cs, clients, hcs⟩, before, after, hlist,
      hbefore⟩
    exact ⟨_, rfl, _, (descriptorNumericList_ok_iff (h _)).mpr ⟨ps, hps⟩, _, rfl, _,
      (descriptorNumericList_ok_iff (h _)).mpr ⟨ss, hss⟩, _, rfl, _,
      (descriptorNumericList_ok_iff (h _)).mpr ⟨cs, hcs⟩, _, rfl, _,
      (descriptorList_ok_iff (h _)).mpr hlist, before, _, after, rfl, hbefore, rfl⟩

end Descriptor

/-- **The reading of a descriptor**, for all decoded values: it returns the descriptor of
the values where there is one, throws where there is none, and calls nothing on a null
interface – exactly where no null device type is reached. -/
theorem readEndpointDescriptor_iff {values : DescriptorAttribute → Inspectable}
    (h : ∀ a, Decoded (values a)) (endpointId : UInt16) :
    ((∀ d, readEndpointDescriptor (decodedReads values) endpointId = .ok d ↔
        Describes values endpointId d) ∧
      ∀ f, readEndpointDescriptor (decodedReads values) endpointId = .error f →
        ∃ exn, f = .throws exn) ↔
      ¬ NullTypeReached values := by
  rw [← @readEndpointDescriptor_fault_iff values endpointId h]
  constructor
  · rintro ⟨-, hthrows⟩ hfault
    obtain ⟨exn, hexn⟩ := hthrows .fault hfault
    cases hexn
  · intro hfault
    refine ⟨fun d => readEndpointDescriptor_ok_iff h, fun f hf => ?_⟩
    cases f with
    | throws exn => exact ⟨exn, rfl⟩
    | fault => exact absurd hf hfault

/-- The lists of an endpoint with one device type, a camera. -/
def cameraLists : DescriptorAttribute → Inspectable
  | .partsList => .vector []
  | .serverList => .vector [.value (.uint64 0x0551), .value (.uint64 0x0553)]
  | .clientList => .vector []
  | .deviceTypeList =>
    .vector [.propertySet
      [(fieldKey 0, .value (.uint64 0x0142)), (fieldKey 1, .value (.uint64 1))]]

theorem decoded_cameraLists (a : DescriptorAttribute) : Decoded (cameraLists a) := by
  cases a with
  | deviceTypeList =>
    refine .vector fun i hi => ?_
    rw [List.mem_singleton.mp hi]
    refine @Decoded.numbered [(0, .value (.uint64 0x0142)), (1, .value (.uint64 1))]
      (show List.Nodup [fieldKey 0, fieldKey 1] by decide) fun e he => ?_
    simp only [List.mem_cons, List.not_mem_nil, or_false] at he
    rcases he with rfl | rfl <;> exact .uint64 _
  | _ =>
    refine .vector fun i hi => ?_
    simp only [List.mem_cons, List.not_mem_nil, or_false] at hi
    try rcases hi with rfl | rfl <;> exact .uint64 _

/-- Its descriptor is read. -/
theorem readEndpointDescriptor_iff_camera :
    (∀ a, Decoded (cameraLists a)) ∧ Describes cameraLists 1
      ⟨1, [], [0x0551, 0x0553], [], [⟨0x0142, 1⟩]⟩ := by
  have hnone : ¬ NullTypeReached cameraLists := by
    rintro ⟨-, -, -, before, after, hlist, -⟩
    injection hlist.vector with heq
    have hmem : Inspectable.null ∈ before ++ .null :: after := by simp
    rw [← heq, List.mem_singleton] at hmem
    cases hmem
  exact ⟨decoded_cameraLists, ((readEndpointDescriptor_iff decoded_cameraLists 1).mpr hnone).1 _
    |>.mp rfl⟩

/-- Empty lists, and a list of device types with a null. -/
def nullTypeLists : DescriptorAttribute → Inspectable
  | .deviceTypeList => .vector [.null]
  | _ => .vector []

/-- **A null device type is a fault**: the values are decoded, there is no descriptor of
them, and the reading throws nothing. -/
theorem readEndpointDescriptor_null :
    ∃ values : DescriptorAttribute → Inspectable, (∀ a, Decoded (values a)) ∧
      (∀ d, ¬ Describes values 1 d) ∧
      readEndpointDescriptor (decodedReads values) 1 = .error .fault ∧
      ¬ ∃ exn, readEndpointDescriptor (decodedReads values) 1 = .error (.throws exn) := by
  have hdecoded : ∀ a, Decoded (nullTypeLists a) := by
    intro a
    cases a <;> refine .vector fun i hi => ?_
    all_goals
      first
      | exact absurd hi List.not_mem_nil
      | rw [List.mem_singleton.mp hi]
        exact .null
  have hfault : readEndpointDescriptor (decodedReads nullTypeLists) 1 = .error .fault := rfl
  refine ⟨nullTypeLists, hdecoded, fun d hd => ?_, hfault, ?_⟩
  · rw [← readEndpointDescriptor_ok_iff hdecoded, hfault] at hd
    cases hd
  · rintro ⟨exn, hexn⟩
    rw [hfault] at hexn
    cases hexn
