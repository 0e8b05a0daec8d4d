import MatterController.Inspectable
import MatterController.Tlv

/-!
# Property sets as TLV

The generic operations of the controller exchange property sets with an
application and TLV with a device. `encodePropertySetRoot` and
`decodePropertySetRoot` are the two directions, call by call on a writer and a
reader of the native stack, which are a parameter (`Tlv.Sdk`), as are the
conversions of text.

A structure is a property set whose keys are the decimal numbers of its context
tags, an array a vector, and a root that is no structure the value of a property
set with the one key `value`. The encoder asks every object for its interfaces
in a fixed order and sorts the fields of a structure by their numbers; the
decoder knows every value it makes. It is a loop inside a recursion over what
the device sent, so it runs on fuel here, and running out of it is told from
every error of the native stack.
-/

/-- `kGenericTlvBufferSize`. -/
abbrev genericTlvBufferSize : ℕ := 64 * 1024

/-- `CHIP_END_OF_TLV`. -/
abbrev ChipError.endOfTlv : ChipError := .other 0x21

/-- `CHIP_ERROR_INVALID_TLV_TAG`. -/
abbrev ChipError.invalidTlvTag : ChipError := .other 0x25

/-- `CHIP_ERROR_WRONG_TLV_TYPE`. -/
abbrev ChipError.wrongTlvType : ChipError := .other 0x26

/-! ## Keys -/

/-- `isspace` of the C locale. -/
def isSpace (b : UInt8) : Bool := b == 0x20 || (0x09 ≤ b && b ≤ 0x0D)

def isDigit (b : UInt8) : Bool := 0x30 ≤ b && b ≤ 0x39

/-- `ULONG_MAX`; a `long` has 32 bits on Windows. -/
abbrev ulongMax : ℕ := 0xFFFFFFFF

/-- What `c_str` shows of a string: it ends at the first null. -/
def cString (bytes : List UInt8) : List UInt8 := bytes.takeWhile (· != 0)

/-- The sign `strtoul` accepts before the digits, and what follows it. -/
def splitSign : List UInt8 → Bool × List UInt8
  | 0x2D :: text => (true, text)
  | 0x2B :: text => (false, text)
  | text => (false, text)

/-- The number some digits stand for. -/
def digitsValue (digits : List UInt8) : ℕ :=
  digits.foldl (fun n d => 10 * n + (d.toNat - 0x30)) 0

/-- **`strtoul`** to the base ten, with where it ends. It skips white space, takes a
sign, and negates after the conversion; without a digit it ends where it
started. -/
def strtoul (text : List UInt8) : ℕ × List UInt8 :=
  let (negative, rest) := splitSign (text.dropWhile isSpace)
  let digits := rest.takeWhile isDigit
  if digits.isEmpty then (0, text)
  else
    let n := digitsValue digits
    let n := if ulongMax < n then ulongMax
      else if negative then (ulongMax + 1 - n) % (ulongMax + 1)
      else n
    (n, rest.dropWhile isDigit)

/-- The number of a context tag that a key stands for: it has digits, nothing after
them, and is not above `UINT8_MAX`. -/
def keyNumber (key : List UInt8) : Option UInt8 :=
  let key := cString key
  let (number, fin) := strtoul key
  if fin.length ≠ key.length ∧ fin = [] ∧ number ≤ 255 then some (UInt8.ofNat number) else none

section Keys

variable (text : TextConversion)

/-- The number of a field, by its key. -/
def fieldNumber (key : HString) : Option UInt8 := keyNumber (text.toString key)

/-! ## Encoding -/

/-- The scalar a boxed value is put as, if its type has one. -/
def PropertyValue.toScalar : PropertyValue → Option Tlv.Scalar
  | .boolean b => some (.boolean b)
  | .int16 i => some (.signed i.toInt64)
  | .int32 i => some (.signed i.toInt64)
  | .int64 i => some (.signed i)
  | .uint8 n => some (.unsigned n.toUInt64)
  | .uint16 n => some (.unsigned n.toUInt64)
  | .uint32 n => some (.unsigned n.toUInt64)
  | .uint64 n => some (.unsigned n)
  | .single bits => some (.single bits)
  | .double bits => some (.double bits)
  | .string s => some (.utf8String (text.toString s))
  | .uint8Array bytes => some (.byteString bytes)
  | .other => none

end Keys

section Encode

variable {W : Type} (writer : Tlv.Writer W ChipError) (text : TextConversion)

/-- The order of fields in a structure. -/
abbrev fieldOrder {α : Type} (f g : UInt8 × α) : Prop := f.1 ≤ g.1

/-- Writes fields in their order, each by what is to be done for it. -/
def writeFields : List (UInt8 × (Tlv.Tag → W → Except ChipError W)) → W → Except ChipError W
  | [], w => .ok w
  | (number, write) :: fields, w => do
    let w ← write (.context number) w
    writeFields fields w

mutual

/-- **`EncodeInspectable`**, with `EncodePropertySet` as its case for a property set. -/
def encodeInspectable : Inspectable → Tlv.Tag → W → Except ChipError W
  | .null, tag, w => writer.put tag .null w
  | .propertySet entries, tag, w => do
    let (container, w) ← writer.startContainer tag .struct w
    let fields ← encodeFields entries
    let w ← writeFields (fields.insertionSort fieldOrder) w
    writer.endContainer container w
  | .vector items, tag, w => do
    let (container, w) ← writer.startContainer tag .array w
    let w ← encodeItems items w
    writer.endContainer container w
  | .byteVector bytes, tag, w => writer.put tag (.byteString bytes) w
  | .value value, tag, w =>
    match value.toScalar text with
    | some s => writer.put tag s w
    | none => .error .invalidArgument
  | .other, _, _ => .error .invalidArgument

/-- The fields of a property set: the number of each key, and how its value is
written. -/
def encodeFields : List (HString × Inspectable) →
    Except ChipError (List (UInt8 × (Tlv.Tag → W → Except ChipError W)))
  | [] => .ok []
  | (key, value) :: entries =>
    match fieldNumber text key with
    | none => .error .invalidArgument
    | some number => do
      let fields ← encodeFields entries
      .ok ((number, encodeInspectable value) :: fields)

/-- The items of a vector, one after the other. -/
def encodeItems : List Inspectable → W → Except ChipError W
  | [], w => .ok w
  | item :: items, w => do
    let w ← encodeInspectable item .anonymous w
    encodeItems items w

end

/-- `EncodePropertySet`. -/
def encodePropertySet (values : PropertySet) (tag : Tlv.Tag) (w : W) : Except ChipError W :=
  encodeInspectable writer text (.propertySet values) tag w

end Encode

/-! ## Decoding -/

/-- **How decoding ends early**: with an error, or out of fuel. -/
inductive Stop
  | failed (error : ChipError)
  | outOfFuel
  deriving DecidableEq, Repr

/-- A call on the reader, whose error ends the decoding. -/
def checked {α : Type} (r : Except ChipError α) : Except Stop α := r.mapError .failed

section Decode

variable {R : Type} (reader : Tlv.Reader R ChipError) (text : TextConversion)

mutual

/-- **`DecodeTlvValue`**, with the reader it leaves. -/
def decodeTlvValue : ℕ → R → Except Stop (Inspectable × R)
  | 0, _ => .error .outOfFuel
  | fuel + 1, r =>
    match reader.getType r with
    | .boolean => do
      let decoded ← checked (reader.getBoolean r)
      .ok (.value (.boolean decoded), r)
    | .signedInteger => do
      let decoded ← checked (reader.getSigned r)
      .ok (.value (.int64 decoded), r)
    | .unsignedInteger => do
      let decoded ← checked (reader.getUnsigned r)
      .ok (.value (.uint64 decoded), r)
    | .floatingPointNumber => do
      let decoded ← checked (reader.getDouble r)
      .ok (.value (.double decoded), r)
    | .utf8String => do
      let decoded ← checked (reader.getString r)
      .ok (.value (.string (text.toHstring decoded)), r)
    | .byteString => do
      let decoded ← checked (reader.getBytes r)
      .ok (.byteVector decoded, r)
    | .null => .ok (.null, r)
    | .container .struct => do
      let (container, r) ← checked (reader.enterContainer r)
      let (properties, r) ← decodeMembers fuel r []
      let r ← checked (reader.exitContainer container r)
      .ok (.propertySet properties, r)
    | .container _ => do
      let (container, r) ← checked (reader.enterContainer r)
      let (items, r) ← decodeItems fuel r []
      let r ← checked (reader.exitContainer container r)
      .ok (.vector items, r)
    | .notSpecified => .error (.failed .wrongTlvType)

/-- The loop over the members of a structure. The tag is read before the value, which
moves the reader. -/
def decodeMembers : ℕ → R → PropertySet → Except Stop (PropertySet × R)
  | 0, _, _ => .error .outOfFuel
  | fuel + 1, r, properties =>
    match reader.next r with
    | (some error, r) =>
      if error = .endOfTlv then .ok (properties, r) else .error (.failed error)
    | (none, r) =>
      match reader.getTag r with
      | .context number => do
        let (field, r) ← decodeTlvValue fuel r
        decodeMembers fuel r (properties.insert (fieldKey number.toNat) field)
      | _ => .error (.failed .invalidTlvTag)

/-- The loop over the items of an array or a list. -/
def decodeItems : ℕ → R → List Inspectable → Except Stop (List Inspectable × R)
  | 0, _, _ => .error .outOfFuel
  | fuel + 1, r, items =>
    match reader.next r with
    | (some error, r) =>
      if error = .endOfTlv then .ok (items, r) else .error (.failed error)
    | (none, r) => do
      let (item, r) ← decodeTlvValue fuel r
      decodeItems fuel r (items ++ [item])

end

/-- **`DecodePropertySetRoot`**, which throws the error as a `ChipOperationError`. -/
def decodePropertySetRoot (fuel : ℕ) (r : R) : Except Stop PropertySet := do
  let (decoded, _) ← decodeTlvValue reader text fuel r
  .ok (decodedRoot decoded)

end Decode

section Root

variable {R W β : Type} (sdk : Tlv.Sdk R W β ChipError) (text : TextConversion)

/-- **`EncodePropertySetRoot`**: the bytes of a property set, or of the value it
wraps. -/
def encodePropertySetRoot : Option PropertySet → Except ChipError β
  | none => .error .invalidArgument
  | some values => do
    let w := sdk.initWriter genericTlvBufferSize
    let w ← match values.find valueKey with
      | some value =>
        if values.length ≠ 1 then .error .invalidArgument
        else encodeInspectable sdk.writer text value .anonymous w
      | none => encodePropertySet sdk.writer text values .anonymous w
    let w ← sdk.writer.finalize w
    .ok (sdk.encoded w)

end Root
