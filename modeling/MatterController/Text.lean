import Mathlib.Algebra.GroupWithZero.Nat
import Mathlib.Data.List.Basic
import Mathlib.Tactic.Common

/-!
# Text in two encodings

WinRT strings are sequences of UTF-16 code units, the native stack's are bytes.
`HString` is the former, as it is: nothing keeps a string from ending inside a
surrogate pair. The conversions between the two belong to C++/WinRT and are a
parameter here (`TextConversion`). What is relied on is that they agree on text,
that is on the encodings of a list of characters (`TextConversion.Lawful`); what
they make of anything else is left open.

`TextConversion.standard` shows that there are such conversions. It replaces
what it cannot decode by U+FFFD.
-/

/-- **A WinRT string**, in code units. -/
abbrev HString := List UInt16

/-- The code units of a character: itself, or a surrogate pair. -/
def utf16Char (c : Char) : List UInt16 :=
  if c.toNat < 0x10000 then [UInt16.ofNat c.toNat]
  else [UInt16.ofNat (0xD800 + (c.toNat - 0x10000) / 0x400),
    UInt16.ofNat (0xDC00 + (c.toNat - 0x10000) % 0x400)]

/-- The code units of a text. -/
def utf16 (text : List Char) : HString := text.flatMap utf16Char

/-- The bytes of a text. -/
def utf8 (text : List Char) : List UInt8 := text.flatMap String.utf8EncodeChar

/-- **The conversions of C++/WinRT** between bytes and WinRT strings. -/
structure TextConversion where
  /-- `to_hstring`. -/
  toHstring : List UInt8 → HString
  /-- `to_string`. -/
  toString : HString → List UInt8

/-- **The conversions agree on text.** -/
structure TextConversion.Lawful (conversion : TextConversion) : Prop where
  toHstring_utf8 : ∀ text, conversion.toHstring (utf8 text) = utf16 text
  toString_utf16 : ∀ text, conversion.toString (utf16 text) = utf8 text

/-! ## The standard conversions -/

/-- The character that stands for what does not decode. -/
def replacementChar : Char := '\uFFFD'

/-- The characters of some code units; a surrogate without its partner is
replaced. -/
def decodeUtf16 : List UInt16 → List Char
  | [] => []
  | [u] => if 0xD800 ≤ u.toNat ∧ u.toNat < 0xE000 then [replacementChar] else [Char.ofNat u.toNat]
  | u :: v :: us =>
    if 0xD800 ≤ u.toNat ∧ u.toNat < 0xDC00 then
      if 0xDC00 ≤ v.toNat ∧ v.toNat < 0xE000 then
        Char.ofNat (0x10000 + (u.toNat - 0xD800) * 0x400 + (v.toNat - 0xDC00)) :: decodeUtf16 us
      else replacementChar :: decodeUtf16 (v :: us)
    else if 0xDC00 ≤ u.toNat ∧ u.toNat < 0xE000 then replacementChar :: decodeUtf16 (v :: us)
    else Char.ofNat u.toNat :: decodeUtf16 (v :: us)

/-- A unit outside the surrogates is its own character. -/
theorem decodeUtf16_cons {u : UInt16} (h : ¬ (0xD800 ≤ u.toNat ∧ u.toNat < 0xE000))
    (us : List UInt16) : decodeUtf16 (u :: us) = Char.ofNat u.toNat :: decodeUtf16 us := by
  cases us with
  | nil =>
    unfold decodeUtf16
    rw [if_neg h]
  | cons v us => rw [decodeUtf16, if_neg (by omega), if_neg (by omega)]

/-- **What was encoded decodes.** -/
theorem decodeUtf16_utf16Char (c : Char) (us : List UInt16) :
    decodeUtf16 (utf16Char c ++ us) = c :: decodeUtf16 us := by
  have hvalid : c.toNat < 0xD800 ∨ 0xDFFF < c.toNat ∧ c.toNat < 0x110000 := c.valid
  unfold utf16Char
  by_cases hc : c.toNat < 0x10000
  · have hu : (UInt16.ofNat c.toNat).toNat = c.toNat := by
      rw [UInt16.toNat_ofNat']
      omega
    rw [if_pos hc, List.singleton_append, decodeUtf16_cons (by rw [hu]; omega), hu,
      Char.ofNat_toNat]
  · have hhigh : (UInt16.ofNat (0xD800 + (c.toNat - 0x10000) / 0x400)).toNat
        = 0xD800 + (c.toNat - 0x10000) / 0x400 := by
      rw [UInt16.toNat_ofNat']
      omega
    have hlow : (UInt16.ofNat (0xDC00 + (c.toNat - 0x10000) % 0x400)).toNat
        = 0xDC00 + (c.toNat - 0x10000) % 0x400 := by
      rw [UInt16.toNat_ofNat']
      omega
    rw [if_neg hc, List.cons_append, List.singleton_append, decodeUtf16, hhigh, hlow,
      if_pos (by omega), if_pos (by omega)]
    have hback : 0x10000 + (0xD800 + (c.toNat - 0x10000) / 0x400 - 0xD800) * 0x400
        + (0xDC00 + (c.toNat - 0x10000) % 0x400 - 0xDC00) = c.toNat := by omega
    rw [hback, Char.ofNat_toNat]

theorem decodeUtf16_utf16 (text : List Char) : decodeUtf16 (utf16 text) = text := by
  induction text with
  | nil => rfl
  | cons c text ih => rw [utf16, List.flatMap_cons, decodeUtf16_utf16Char, ← utf16, ih]

/-- The characters of some bytes, or the replacement for all of them. -/
def decodeUtf8 (bytes : List UInt8) : List Char :=
  match bytes.toByteArray.utf8Decode? with
  | some text => text.toList
  | none => [replacementChar]

theorem decodeUtf8_utf8 (text : List Char) : decodeUtf8 (utf8 text) = text := by
  have hbytes : (utf8 text).toByteArray = text.utf8Encode := rfl
  rw [decodeUtf8, hbytes, List.utf8Decode?_utf8Encode]

/-- **The standard conversions**: decode, and encode the other way. -/
def TextConversion.standard : TextConversion where
  toHstring bytes := utf16 (decodeUtf8 bytes)
  toString units := utf8 (decodeUtf16 units)

theorem TextConversion.standard_lawful : TextConversion.standard.Lawful where
  toHstring_utf8 text := congrArg utf16 (decodeUtf8_utf8 text)
  toString_utf16 text := congrArg utf8 (decodeUtf16_utf16 text)
