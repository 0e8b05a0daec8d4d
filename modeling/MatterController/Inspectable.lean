import Mathlib.Data.List.Nodup
import MatterController.Errors
import MatterController.Text

/-!
# Dynamic values

What the projection knows of a value of the native stack is an `IInspectable`:
a null, a boxed scalar, a vector or a property set, found out by asking the
object for an interface. `Inspectable` is such a value, and `as…` and `unbox…`
are the questions. A null answers every question with a null interface, on which
the next call is a fault of the process; so what a function of such values does
is one of three things: it returns, it throws, or it faults (`Failure`).

A property set is a map from strings. Its entries are listed in the order in
which it is iterated, about which nothing is promised.
-/

/-- **What a boxed value holds** (`IPropertyValue`). -/
inductive PropertyValue
  | boolean (value : Bool)
  | int16 (value : Int16)
  | int32 (value : Int32)
  | int64 (value : Int64)
  | uint8 (value : UInt8)
  | uint16 (value : UInt16)
  | uint32 (value : UInt32)
  | uint64 (value : UInt64)
  | single (bits : UInt32)
  | double (bits : UInt64)
  | string (value : HString)
  | uint8Array (value : List UInt8)
  /-- A type that has no representation in TLV. -/
  | other
  deriving DecidableEq, Repr

/-- **A dynamic value** (`IInspectable`): null, a boxed value, a vector of bytes, a
vector of values, a property set, or an object that is none of these. -/
inductive Inspectable
  | null
  | value (value : PropertyValue)
  | byteVector (bytes : List UInt8)
  | vector (items : List Inspectable)
  | propertySet (entries : List (HString × Inspectable))
  | other

/-- **Induction over dynamic values**: a vector may use its items, and a property set
the values of its entries. -/
theorem Inspectable.induct {P : Inspectable → Prop} (null : P .null)
    (value : ∀ v, P (.value v)) (byteVector : ∀ bytes, P (.byteVector bytes))
    (vector : ∀ items, (∀ i ∈ items, P i) → P (.vector items))
    (propertySet : ∀ entries, (∀ e ∈ entries, P e.2) → P (.propertySet entries))
    (other : P .other) (v : Inspectable) : P v :=
  @Inspectable.rec P (fun items => ∀ i ∈ items, P i) (fun entries => ∀ e ∈ entries, P e.2)
    (fun e => P e.2) null value byteVector vector propertySet other
    (fun _ hi => absurd hi List.not_mem_nil)
    (fun _ _ head tail i hi => by
      rcases List.mem_cons.mp hi with rfl | hi
      · exact head
      · exact tail i hi)
    (fun _ he => absurd he List.not_mem_nil)
    (fun _ _ head tail e he => by
      rcases List.mem_cons.mp he with rfl | he
      · exact head
      · exact tail e he)
    (fun _ _ ih => ih) v

/-- **A property set** (`IPropertySet`), by its entries. -/
abbrev PropertySet := List (HString × Inspectable)

/-- The decimal key of a number. -/
def fieldKey (number : ℕ) : HString := utf16 (Nat.toDigits 10 number)

/-- The key of a root that is no property set. -/
def valueKey : HString := utf16 ['v', 'a', 'l', 'u', 'e']

/-! ## Property sets -/

namespace PropertySet

/-- The keys of a property set. -/
def keys (p : PropertySet) : List HString := p.map Prod.fst

/-- `HasKey`. -/
def hasKey (p : PropertySet) (key : HString) : Bool := key ∈ p.keys

/-- `Lookup`, without its exception. -/
def find (p : PropertySet) (key : HString) : Option Inspectable :=
  List.lookup key p

/-- `Insert`: the value of a key that is there is replaced. -/
def insert (p : PropertySet) (key : HString) (value : Inspectable) : PropertySet :=
  if p.hasKey key then p.map fun e => if e.1 = key then (key, value) else e
  else p ++ [(key, value)]

theorem keys_insert (p : PropertySet) (key : HString) (value : Inspectable) :
    (p.insert key value).keys = if p.hasKey key then p.keys else p.keys ++ [key] := by
  unfold insert
  split
  · unfold keys
    rw [List.map_map]
    refine List.map_congr_left fun e _ => ?_
    show (if e.1 = key then (key, value) else e).1 = e.1
    split
    · rename_i he
      exact he.symm
    · rfl
  · rw [keys, List.map_append]
    rfl

/-- A new key goes last. -/
theorem insert_of_not_mem {p : PropertySet} {key : HString} (h : key ∉ p.keys)
    (value : Inspectable) : p.insert key value = p ++ [(key, value)] := by
  unfold insert hasKey
  rw [if_neg (by simpa using h)]

/-- A key that is there has a value. -/
theorem find_isSome (p : PropertySet) (key : HString) : (p.find key).isSome = p.hasKey key := by
  unfold find hasKey keys
  induction p with
  | nil => rfl
  | cons e p ih =>
    rw [List.lookup_cons, List.map_cons]
    by_cases he : key = e.1
    · rw [he, beq_self_eq_true]
      simp
    · rw [beq_false_of_ne he]
      simp [he, ih]

/-- What a key finds is among the entries. -/
theorem mem_of_find {p : PropertySet} {key : HString} {value : Inspectable}
    (h : p.find key = some value) : (key, value) ∈ p := by
  unfold find at h
  induction p with
  | nil => cases h
  | cons e p ih =>
    rw [List.lookup_cons] at h
    by_cases he : key = e.1
    · rw [he, beq_self_eq_true] at h
      obtain rfl := Option.some.inj h
      rw [he]
      exact List.mem_cons_self
    · rw [beq_false_of_ne he] at h
      exact List.mem_cons_of_mem e (ih h)

end PropertySet

/-! ## Failures -/

/-- **How a function of dynamic values ends early**: by an exception, or by a call on
a null interface. -/
inductive Failure
  | throws (exn : Exn)
  | fault
  deriving DecidableEq, Repr

/-- An exception with one of the result codes. -/
abbrev Failure.code (code : HResult) : Failure := .throws (.hresult code)

namespace Inspectable

/-- `as<IPropertySet>`, where `none` is the null interface. -/
def asPropertySet : Inspectable → Except Failure (Option PropertySet)
  | .null => .ok none
  | .propertySet p => .ok (some p)
  | _ => .error (.code .noInterface)

/-- `as<IVector<IInspectable>>`, where `none` is the null interface. -/
def asVector : Inspectable → Except Failure (Option (List Inspectable))
  | .null => .ok none
  | .vector items => .ok (some items)
  | _ => .error (.code .noInterface)

/-- `unbox_value<uint64_t>`. -/
def unboxUInt64 : Inspectable → Except Failure UInt64
  | .null => .error .fault
  | .value (.uint64 n) => .ok n
  | _ => .error (.code .noInterface)

/-- `unbox_value<bool>`. -/
def unboxBoolean : Inspectable → Except Failure Bool
  | .null => .error .fault
  | .value (.boolean b) => .ok b
  | _ => .error (.code .noInterface)

/-- Whether a value is null. -/
def isNull : Inspectable → Bool
  | .null => true
  | _ => false

theorem unboxUInt64_ok_iff {v : Inspectable} {n : UInt64} :
    v.unboxUInt64 = .ok n ↔ v = .value (.uint64 n) := by
  cases v with
  | value w => cases w <;> simp [unboxUInt64]
  | _ => simp [unboxUInt64]

theorem unboxBoolean_ok_iff {v : Inspectable} {b : Bool} :
    v.unboxBoolean = .ok b ↔ v = .value (.boolean b) := by
  cases v with
  | value w => cases w <;> simp [unboxBoolean]
  | _ => simp [unboxBoolean]

theorem unboxBoolean_fault_iff {v : Inspectable} :
    v.unboxBoolean = .error .fault ↔ v = .null := by
  cases v with
  | value w => cases w <;> simp [unboxBoolean]
  | _ => simp [unboxBoolean]

theorem isNull_iff {v : Inspectable} : v.isNull = true ↔ v = .null := by
  cases v <;> simp [isNull]

end Inspectable

/-- A member call on an interface that may be null. -/
def call {α : Type} : Option α → Except Failure α
  | none => .error .fault
  | some interface => .ok interface

/-- `Lookup`: a key that is not there is out of bounds. -/
def PropertySet.lookup (p : PropertySet) (key : HString) : Except Failure Inspectable :=
  match p.find key with
  | none => .error (.code .bounds)
  | some value => .ok value

/-! ## Decoded values -/

/-- **The values decoding makes**: scalars of the widest type of their kind, vectors,
and property sets whose keys are the numbers of context tags. -/
inductive Decoded : Inspectable → Prop
  | null : Decoded .null
  | boolean (b : Bool) : Decoded (.value (.boolean b))
  | int64 (i : Int64) : Decoded (.value (.int64 i))
  | uint64 (n : UInt64) : Decoded (.value (.uint64 n))
  | double (bits : UInt64) : Decoded (.value (.double bits))
  | string (s : HString) : Decoded (.value (.string s))
  | byteVector (bytes : List UInt8) : Decoded (.byteVector bytes)
  | vector {items : List Inspectable} (h : ∀ i ∈ items, Decoded i) : Decoded (.vector items)
  | propertySet {p : PropertySet} (nodup : p.keys.Nodup)
      (keys : ∀ e ∈ p, ∃ n : UInt8, e.1 = fieldKey n.toNat) (values : ∀ e ∈ p, Decoded e.2) :
      Decoded (.propertySet p)

/-- A property set of numbered entries is one of them. -/
theorem Decoded.numbered {entries : List (UInt8 × Inspectable)}
    (hnodup : (entries.map fun e => fieldKey e.1.toNat).Nodup)
    (h : ∀ e ∈ entries, Decoded e.2) :
    Decoded (.propertySet (entries.map fun e => (fieldKey e.1.toNat, e.2))) := by
  refine .propertySet ?_ ?_ ?_
  · rw [PropertySet.keys, List.map_map]
    exact hnodup
  all_goals
    intro e he
    obtain ⟨entry, hentry, rfl⟩ := List.mem_map.mp he
  · exact ⟨entry.1, rfl⟩
  · exact h entry hentry

/-- **The root of a decoded value**: a property set is its own root, anything else is
wrapped. -/
def decodedRoot : Inspectable → PropertySet
  | .propertySet p => p
  | v => [(valueKey, v)]

/-- The key of a wrapped root is no number. -/
theorem fieldKey_ne_valueKey (n : UInt8) : fieldKey n.toNat ≠ valueKey := by
  have hall : ∀ i : Fin 256, fieldKey i.val ≠ valueKey := by decide +kernel
  exact hall ⟨n.toNat, n.toNat_lt⟩

/-- **A structure is never taken for a wrapped root.** -/
theorem PropertySet.find_valueKey {p : PropertySet}
    (keys : ∀ e ∈ p, ∃ n : UInt8, e.1 = fieldKey n.toNat) : p.find valueKey = none := by
  cases h : p.find valueKey with
  | none => rfl
  | some v =>
    obtain ⟨n, hn⟩ := keys _ (PropertySet.mem_of_find h)
    exact absurd hn.symm (fieldKey_ne_valueKey n)
