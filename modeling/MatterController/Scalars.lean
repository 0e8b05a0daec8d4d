import MatterController.Descriptors

/-!
# Scalar attributes

An attribute that is no structure is read as a property set with one entry, and
`PropertySetScalar` takes the scalar out of it: a null is out of bounds, a value of another
kind is an invalid argument, and an integer is checked against the range of the type it is
projected to. The check stands inside the block whose handler is to report the kind, so
what it throws is reported as that, too.

`DescriptorUnsigned` does the same without such a handler. `ScalarDeclared` is what both are
for, and `propertySetScalar_declared_iff` says of which stored values it holds of the first:
of all but the integers out of range.
-/

instance : ProjectedUnsigned UInt64 where
  max := 0xFFFFFFFFFFFFFFFF
  cast := fun n => n
  toNat := UInt64.toNat
  toNat_le := fun a => Nat.le_of_lt_succ a.toNat_lt
  toNat_injective := fun _ _ => UInt64.toNat_inj.mp
  toNat_cast := fun _ _ => rfl

/-- **The signed types an integer is projected to**, of at most 64 bits, with
`std::numeric_limits<Value>` and the conversion of a number in this range. -/
class ProjectedSigned (α : Type) where
  min : Int
  max : Int
  cast : Int64 → α
  toInt : α → Int
  le_toInt : ∀ a, min ≤ toInt a
  toInt_le : ∀ a, toInt a ≤ max
  toInt_injective : Function.Injective toInt
  toInt_cast : ∀ i : Int64, min ≤ i.toInt → i.toInt ≤ max → toInt (cast i) = i.toInt

instance : ProjectedSigned Int8 where
  min := -0x80
  max := 0x7F
  cast := Int64.toInt8
  toInt := Int8.toInt
  le_toInt := Int8.le_toInt
  toInt_le := fun a => Int.le_of_lt_add_one a.toInt_lt
  toInt_injective := fun _ _ => Int8.toInt_inj.mp
  toInt_cast := fun i hmin hmax => by
    rw [Int64.toInt_toInt8]
    exact Int.bmod_eq_of_le hmin (Int.lt_add_one_of_le hmax)

instance : ProjectedSigned Int16 where
  min := -0x8000
  max := 0x7FFF
  cast := Int64.toInt16
  toInt := Int16.toInt
  le_toInt := Int16.le_toInt
  toInt_le := fun a => Int.le_of_lt_add_one a.toInt_lt
  toInt_injective := fun _ _ => Int16.toInt_inj.mp
  toInt_cast := fun i hmin hmax => by
    rw [Int64.toInt_toInt16]
    exact Int.bmod_eq_of_le hmin (Int.lt_add_one_of_le hmax)

instance : ProjectedSigned Int32 where
  min := -0x80000000
  max := 0x7FFFFFFF
  cast := Int64.toInt32
  toInt := Int32.toInt
  le_toInt := Int32.le_toInt
  toInt_le := fun a => Int.le_of_lt_add_one a.toInt_lt
  toInt_injective := fun _ _ => Int32.toInt_inj.mp
  toInt_cast := fun i hmin hmax => by
    rw [Int64.toInt_toInt32]
    exact Int.bmod_eq_of_le hmin (Int.lt_add_one_of_le hmax)

instance : ProjectedSigned Int64 where
  min := -0x8000000000000000
  max := 0x7FFFFFFFFFFFFFFF
  cast := fun i => i
  toInt := Int64.toInt
  le_toInt := Int64.le_toInt
  toInt_le := fun a => Int.le_of_lt_add_one a.toInt_lt
  toInt_injective := fun _ _ => Int64.toInt_inj.mp
  toInt_cast := fun _ _ _ => rfl

/-- `unbox_value<int64_t>`. -/
def Inspectable.unboxInt64 : Inspectable → Except Failure Int64
  | .null => .error .fault
  | .value (.int64 i) => .ok i
  | _ => .error (.code .noInterface)

/-! ## The template -/

/-- The handler of `PropertySetScalar`: every exception becomes one of the kind. -/
def unexpectedType {α : Type} : Except Failure α → Except Failure α
  | .error (.throws _) => .error (.code .invalidArgument)
  | r => r

/-- **`PropertySetScalar`**, around the block that takes a value apart. -/
def propertySetScalar {α : Type} (unbox : Inspectable → Except Failure α)
    (values : Option PropertySet) : Except Failure α :=
  match values with
  | none => .error (.code .bounds)
  | some values =>
    match values.find valueKey with
    | none | some .null => .error (.code .bounds)
    | some value => unexpectedType (unbox value)

/-- The block of an unsigned type. -/
def unboxUnsigned {α : Type} [ProjectedUnsigned α] (value : Inspectable) : Except Failure α := do
  let decoded ← value.unboxUInt64
  if decoded.toNat > ProjectedUnsigned.max α then .error (.code .bounds)
  else .ok (ProjectedUnsigned.cast decoded)

/-- The block of a signed type. -/
def unboxSigned {α : Type} [ProjectedSigned α] (value : Inspectable) : Except Failure α := do
  let decoded ← value.unboxInt64
  if decoded.toInt < ProjectedSigned.min α ∨ decoded.toInt > ProjectedSigned.max α then
    .error (.code .bounds)
  else .ok (ProjectedSigned.cast decoded)

/-- `PropertySetScalar` of an unsigned type. -/
def propertySetUnsigned {α : Type} [ProjectedUnsigned α] (values : Option PropertySet) :
    Except Failure α :=
  propertySetScalar unboxUnsigned values

/-- `PropertySetScalar` of a signed type. -/
def propertySetSigned {α : Type} [ProjectedSigned α] (values : Option PropertySet) :
    Except Failure α :=
  propertySetScalar unboxSigned values

/-- `PropertySetScalar<bool>`, of the types that are no integers. -/
def propertySetBoolean (values : Option PropertySet) : Except Failure Bool :=
  propertySetScalar Inspectable.unboxBoolean values

/-- **A value is stored**: it is there, and not null. -/
def Stores (values : Option PropertySet) (value : Inspectable) : Prop :=
  ∃ p, values = some p ∧ p.find valueKey = some value ∧ value ≠ .null

section Template

variable {α : Type} {unbox : Inspectable → Except Failure α} {values : Option PropertySet}

/-- A value that is stored is taken apart. -/
theorem propertySetScalar_of_stores {value : Inspectable} (h : Stores values value) :
    propertySetScalar unbox values = unexpectedType (unbox value) := by
  obtain ⟨p, rfl, hfind, hnull⟩ := h
  unfold propertySetScalar
  dsimp only
  rw [hfind]
  cases value with
  | null => exact absurd rfl hnull
  | _ => rfl

/-- Where none is, it is out of bounds. -/
theorem propertySetScalar_of_not_stores (h : ¬ ∃ value, Stores values value) :
    propertySetScalar unbox values = .error (.code .bounds) := by
  unfold propertySetScalar
  cases values with
  | none => rfl
  | some p =>
    dsimp only
    cases hfind : p.find valueKey with
    | none => rfl
    | some value =>
      cases value with
      | null => rfl
      | _ => exact absurd ⟨_, p, rfl, hfind, (by rintro ⟨⟩)⟩ h

end Template

/-! ## What a scalar is to be -/

/-- **The result as it is declared**, of an integer type with this range: an integer that is
stored is returned, where it is in the range; what is null, missing or out of range is out of
bounds; and what is of another kind, and nothing else, is an invalid argument. -/
structure ScalarDeclared {α : Type} (stored : Inspectable → Int → Prop) (min max : Int)
    (toInt : α → Int) (values : Option PropertySet) (result : Except Failure α) : Prop where
  returns : ∀ value z, Stores values value → stored value z → min ≤ z ∧ z ≤ max →
    ∃ a, result = .ok a ∧ toInt a = z
  absent : (¬ ∃ value, Stores values value) → result = .error (.code .bounds)
  outside : ∀ value z, Stores values value → stored value z → ¬ (min ≤ z ∧ z ≤ max) →
    result = .error (.code .bounds)
  kind : result = .error (.code .invalidArgument) ↔
    ∃ value, Stores values value ∧ ∀ z, ¬ stored value z

/-- **A block takes an integer** of a kind and in a range, and throws at everything else but
a null. -/
structure TakesInteger {α : Type} (unbox : Inspectable → Except Failure α)
    (stored : Inspectable → Int → Prop) (min max : Int) (toInt : α → Int) : Prop where
  functional : ∀ value z z', stored value z → stored value z' → z = z'
  returns : ∀ value z, stored value z → min ≤ z ∧ z ≤ max →
    ∃ a, unbox value = .ok a ∧ toInt a = z
  throws : ∀ value, value ≠ .null → (∀ z, stored value z → ¬ (min ≤ z ∧ z ≤ max)) →
    ∃ exn, unbox value = .error (.throws exn)

section Declared

variable {α : Type} {unbox : Inspectable → Except Failure α}
  {stored : Inspectable → Int → Prop} {min max : Int} {toInt : α → Int}

/-- What the block throws at is reported as of another kind. -/
theorem TakesInteger.scalar_throws (h : TakesInteger unbox stored min max toInt)
    {values : Option PropertySet} {value : Inspectable} (hvalue : Stores values value)
    (hout : ∀ z, stored value z → ¬ (min ≤ z ∧ z ≤ max)) :
    propertySetScalar unbox values = .error (.code .invalidArgument) := by
  obtain ⟨exn, hexn⟩ := h.throws value hvalue.choose_spec.2.2 hout
  rw [propertySetScalar_of_stores hvalue, hexn]
  rfl

/-- **The template does what it declares exactly where no integer out of range is
stored.** -/
theorem TakesInteger.declared_iff (h : TakesInteger unbox stored min max toInt)
    (values : Option PropertySet) :
    ScalarDeclared stored min max toInt values (propertySetScalar unbox values) ↔
      ¬ ∃ value z, Stores values value ∧ stored value z ∧ ¬ (min ≤ z ∧ z ≤ max) := by
  constructor
  · -- the handler has made an invalid argument of what was thrown for the range
    rintro hdeclared ⟨value, z, hvalue, hz, hout⟩
    have hbounds := hdeclared.outside value z hvalue hz hout
    rw [h.scalar_throws hvalue fun z' hz' => h.functional value z z' hz hz' ▸ hout] at hbounds
    cases hbounds
  · intro hin
    refine ⟨fun value z hvalue hz hrange => ?_, propertySetScalar_of_not_stores,
      fun value z hvalue hz hout => absurd ⟨value, z, hvalue, hz, hout⟩ hin, fun hkind => ?_, ?_⟩
    · obtain ⟨a, ha, heq⟩ := h.returns value z hz hrange
      exact ⟨a, by rw [propertySetScalar_of_stores hvalue, ha]; rfl, heq⟩
    · by_cases hsome : ∃ value, Stores values value
      · obtain ⟨value, hvalue⟩ := hsome
        refine ⟨value, hvalue, fun z hz => ?_⟩
        have hrange : min ≤ z ∧ z ≤ max :=
          not_not.mp fun hout => hin ⟨value, z, hvalue, hz, hout⟩
        obtain ⟨a, ha, -⟩ := h.returns value z hz hrange
        rw [propertySetScalar_of_stores hvalue, ha] at hkind
        cases hkind
      · rw [propertySetScalar_of_not_stores hsome] at hkind
        cases hkind
    · rintro ⟨value, hvalue, hother⟩
      exact h.scalar_throws hvalue fun z hz => absurd hz (hother z)

end Declared

/-! ## The two kinds of integers -/

/-- The value is an unsigned integer. -/
def StoresUnsigned (value : Inspectable) (z : Int) : Prop :=
  ∃ n : UInt64, value = .value (.uint64 n) ∧ z = n.toNat

/-- The value is a signed integer. -/
def StoresSigned (value : Inspectable) (z : Int) : Prop :=
  ∃ i : Int64, value = .value (.int64 i) ∧ z = i.toInt

/-- What is no unsigned integer is of another interface. -/
theorem unboxUInt64_of_other {value : Inspectable} (hnull : value ≠ .null)
    (h : ∀ n, value ≠ .value (.uint64 n)) : value.unboxUInt64 = .error (.code .noInterface) := by
  cases value with
  | null => exact absurd rfl hnull
  | value w =>
    cases w with
    | uint64 n => exact absurd rfl (h n)
    | _ => rfl
  | _ => rfl

theorem unboxInt64_of_other {value : Inspectable} (hnull : value ≠ .null)
    (h : ∀ i, value ≠ .value (.int64 i)) : value.unboxInt64 = .error (.code .noInterface) := by
  cases value with
  | null => exact absurd rfl hnull
  | value w =>
    cases w with
    | int64 i => exact absurd rfl (h i)
    | _ => rfl
  | _ => rfl

/-- The block of an unsigned type, on an unsigned integer. -/
theorem unboxUnsigned_uint64 {α : Type} [ProjectedUnsigned α] (n : UInt64) :
    (unboxUnsigned (.value (.uint64 n)) : Except Failure α) =
      if n.toNat > ProjectedUnsigned.max α then .error (.code .bounds)
      else .ok (ProjectedUnsigned.cast n) :=
  rfl

/-- The block of a signed type, on a signed integer. -/
theorem unboxSigned_int64 {α : Type} [ProjectedSigned α] (i : Int64) :
    (unboxSigned (.value (.int64 i)) : Except Failure α) =
      if i.toInt < ProjectedSigned.min α ∨ i.toInt > ProjectedSigned.max α then
        .error (.code .bounds)
      else .ok (ProjectedSigned.cast i) :=
  rfl

theorem takesInteger_unsigned (α : Type) [ProjectedUnsigned α] :
    TakesInteger (unboxUnsigned : Inspectable → Except Failure α) StoresUnsigned 0
      (ProjectedUnsigned.max α) (fun a => ProjectedUnsigned.toNat a) where
  functional := by
    rintro value z z' ⟨n, rfl, rfl⟩ ⟨n', heq, rfl⟩
    cases heq
    rfl
  returns := by
    rintro value z ⟨n, rfl, rfl⟩ ⟨-, hmax⟩
    have hn : n.toNat ≤ ProjectedUnsigned.max α := Int.ofNat_le.mp hmax
    refine ⟨ProjectedUnsigned.cast n, ?_, ?_⟩
    · rw [unboxUnsigned_uint64, if_neg (Nat.not_lt_of_le hn)]
    · exact congrArg Int.ofNat (ProjectedUnsigned.toNat_cast n hn)
  throws := by
    intro value hnull hout
    by_cases hn : ∃ n, value = .value (.uint64 n)
    · obtain ⟨n, rfl⟩ := hn
      have hmax : n.toNat > ProjectedUnsigned.max α := by
        by_contra hle
        exact hout n.toNat ⟨n, rfl, rfl⟩
          ⟨Int.natCast_nonneg _, Int.ofNat_le.mpr (Nat.le_of_not_lt hle)⟩
      exact ⟨_, by rw [unboxUnsigned_uint64, if_pos hmax]⟩
    · refine ⟨.hresult .noInterface, ?_⟩
      unfold unboxUnsigned
      rw [unboxUInt64_of_other hnull (not_exists.mp hn)]
      rfl

theorem takesInteger_signed (α : Type) [ProjectedSigned α] :
    TakesInteger (unboxSigned : Inspectable → Except Failure α) StoresSigned
      (ProjectedSigned.min α) (ProjectedSigned.max α) ProjectedSigned.toInt where
  functional := by
    rintro value z z' ⟨i, rfl, rfl⟩ ⟨i', heq, rfl⟩
    cases heq
    rfl
  returns := by
    rintro value z ⟨i, rfl, rfl⟩ ⟨hmin, hmax⟩
    refine ⟨ProjectedSigned.cast i, ?_, ProjectedSigned.toInt_cast i hmin hmax⟩
    rw [unboxSigned_int64, if_neg (not_or.mpr ⟨Int.not_lt.mpr hmin, Int.not_lt.mpr hmax⟩)]
  throws := by
    intro value hnull hout
    by_cases hi : ∃ i, value = .value (.int64 i)
    · obtain ⟨i, rfl⟩ := hi
      have hrange : i.toInt < ProjectedSigned.min α ∨ i.toInt > ProjectedSigned.max α := by
        by_contra hin
        obtain ⟨hmin, hmax⟩ := not_or.mp hin
        exact hout i.toInt ⟨i, rfl, rfl⟩ ⟨Int.not_lt.mp hmin, Int.not_lt.mp hmax⟩
      exact ⟨_, by rw [unboxSigned_int64, if_pos hrange]⟩
    · refine ⟨.hresult .noInterface, ?_⟩
      unfold unboxSigned
      rw [unboxInt64_of_other hnull (not_exists.mp hi)]
      rfl

/-! ## The two readings of an unsigned integer -/

/-- `DescriptorUnsigned` is the block without its handler. -/
theorem descriptorUnsigned_eq {α : Type} [ProjectedUnsigned α] {value : Inspectable}
    (hnull : value ≠ .null) :
    (descriptorUnsigned value : Except Failure α) = unboxUnsigned value := by
  unfold descriptorUnsigned
  rw [if_neg fun h => hnull (Inspectable.isNull_iff.mp h)]
  rfl

/-- **The two readings agree** on a property set: they return the same of the value that is
stored, and find the same values out of bounds. -/
def AgreesWithDescriptor (α : Type) [ProjectedUnsigned α] (values : Option PropertySet) : Prop :=
  ∀ p value, values = some p → p.find valueKey = some value →
    (∀ a : α, propertySetUnsigned values = .ok a ↔ descriptorUnsigned value = .ok a) ∧
    ((propertySetUnsigned values : Except Failure α) = .error (.code .bounds) ↔
      (descriptorUnsigned value : Except Failure α) = .error (.code .bounds))

/-- The handler returns what the block returns. -/
theorem unexpectedType_ok_iff {α : Type} {r : Except Failure α} {a : α} :
    unexpectedType r = .ok a ↔ r = .ok a := by
  cases r with
  | ok b => exact Iff.rfl
  | error f => cases f <;> exact ⟨(by rintro ⟨⟩), (by rintro ⟨⟩)⟩

/-- It throws nothing that is out of bounds. -/
theorem unexpectedType_ne_bounds {α : Type} (r : Except Failure α) :
    unexpectedType r ≠ .error (.code .bounds) := by
  cases r with
  | ok b => rintro ⟨⟩
  | error f => cases f <;> rintro ⟨⟩

/-- An unsigned integer that the block finds out of bounds is out of range. -/
theorem unboxUnsigned_bounds {α : Type} [ProjectedUnsigned α] {value : Inspectable}
    (h : (unboxUnsigned value : Except Failure α) = .error (.code .bounds)) :
    ∃ z, StoresUnsigned value z ∧ ¬ (0 ≤ z ∧ z ≤ (ProjectedUnsigned.max α : Int)) := by
  by_cases hn : ∃ n, value = .value (.uint64 n)
  · obtain ⟨n, rfl⟩ := hn
    rw [unboxUnsigned_uint64] at h
    split at h
    · rename_i hmax
      exact ⟨n.toNat, ⟨n, rfl, rfl⟩, fun hin => absurd (Int.ofNat_le.mp hin.2) (by omega)⟩
    · cases h
  · by_cases hnull : value = .null
    · rw [hnull] at h
      cases h
    · unfold unboxUnsigned at h
      rw [unboxUInt64_of_other hnull (not_exists.mp hn)] at h
      cases h

/-- Where no integer out of range is stored, the two readings agree. -/
theorem agreesWithDescriptor {α : Type} [ProjectedUnsigned α] {values : Option PropertySet}
    (hin : ¬ ∃ value z, Stores values value ∧ StoresUnsigned value z ∧
      ¬ (0 ≤ z ∧ z ≤ (ProjectedUnsigned.max α : Int))) : AgreesWithDescriptor α values := by
  intro p value hp hfind
  by_cases hnull : value = .null
  · -- a null is out of bounds for both
    have hnone : ¬ ∃ value', Stores values value' := by
      rintro ⟨value', p', hp', hfind', hne⟩
      rw [hp] at hp'
      obtain rfl := Option.some.inj hp'
      rw [hfind, hnull] at hfind'
      exact hne (Option.some.inj hfind').symm
    have hbounds : (propertySetUnsigned values : Except Failure α) = .error (.code .bounds) :=
      propertySetScalar_of_not_stores hnone
    rw [hbounds, hnull]
    exact ⟨fun a => ⟨(by rintro ⟨⟩), (by rintro ⟨⟩)⟩, fun _ => rfl, fun _ => rfl⟩
  · have hstores : Stores values value := ⟨p, hp, hfind, hnull⟩
    have hscalar : (propertySetUnsigned values : Except Failure α) =
        unexpectedType (unboxUnsigned value) := propertySetScalar_of_stores hstores
    rw [hscalar, descriptorUnsigned_eq hnull]
    refine ⟨fun a => unexpectedType_ok_iff, fun h => absurd h (unexpectedType_ne_bounds _),
      fun h => ?_⟩
    obtain ⟨z, hz, hout⟩ := unboxUnsigned_bounds h
    exact absurd ⟨value, z, hstores, hz, hout⟩ hin

/-- **A scalar is read as it is declared exactly where no integer out of range is stored**,
for every unsigned and every signed type and every property set. Where that is so, an
unsigned integer is read as `DescriptorUnsigned` reads it. -/
theorem propertySetScalar_declared_iff {α β : Type} [ProjectedUnsigned α] [ProjectedSigned β]
    (values : Option PropertySet) :
    ((ScalarDeclared StoresUnsigned 0 (ProjectedUnsigned.max α)
        (fun a : α => (ProjectedUnsigned.toNat a : Int)) values (propertySetUnsigned values) ∧
        AgreesWithDescriptor α values) ↔
      ¬ ∃ value z, Stores values value ∧ StoresUnsigned value z ∧
        ¬ (0 ≤ z ∧ z ≤ (ProjectedUnsigned.max α : Int))) ∧
    (ScalarDeclared StoresSigned (ProjectedSigned.min β) (ProjectedSigned.max β)
        (ProjectedSigned.toInt : β → Int) values (propertySetSigned values) ↔
      ¬ ∃ value z, Stores values value ∧ StoresSigned value z ∧
        ¬ (ProjectedSigned.min β ≤ z ∧ z ≤ ProjectedSigned.max β)) := by
  have hunsigned := (takesInteger_unsigned α).declared_iff values
  refine ⟨⟨fun h => hunsigned.mp h.1, fun hin => ⟨hunsigned.mpr hin, agreesWithDescriptor hin⟩⟩,
    (takesInteger_signed β).declared_iff values⟩

/-- The first number that is no `uint16_t`. -/
def outOfRange : PropertySet := [(valueKey, .value (.uint64 65536))]

/-- **It is reported as of another kind**, and not as out of bounds, as `DescriptorUnsigned`
reports it. -/
theorem outOfRange_unexpectedType :
    (propertySetUnsigned (some outOfRange) : Except Failure UInt16)
        = .error (.code .invalidArgument) ∧
      (descriptorUnsigned (.value (.uint64 65536)) : Except Failure UInt16)
        = .error (.code .bounds) ∧
      ¬ ScalarDeclared StoresUnsigned 0 0xFFFF (fun a : UInt16 => (a.toNat : Int))
        (some outOfRange) (propertySetUnsigned (some outOfRange)) := by
  refine ⟨rfl, rfl, fun h => ?_⟩
  have hbounds := h.outside _ _ ⟨outOfRange, rfl, rfl, (by rintro ⟨⟩)⟩ ⟨65536, rfl, rfl⟩ (by decide)
  cases hbounds
