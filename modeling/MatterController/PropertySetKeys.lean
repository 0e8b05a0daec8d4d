import MatterController.PropertySetElements
import MatterController.TlvTokens
import Mathlib.Data.List.Induction
import Mathlib.Data.List.TakeWhile
import Mathlib.Data.Nat.Digits.Defs

/-!
# The keys of an encoded property set

The keys of a property set stand for the context tags of a structure, as decimal numbers.
The encoder reads a key by `strtoul` and accepts it where nothing is left and the number is
a byte. `strtoul` is made for reading a number out of a text: it skips white space, takes a
sign, and has no objection to leading zeros; and it sees a key only up to its first null. So
keys are accepted that are no decimal numbers, and distinct keys can stand for one tag, of
which the structure then has several members.

`encodePropertySet_keys_iff` says when that does not happen: where every key, at every
level, begins with a digit and has no null in it, and no two keys of one set are the same up
to leading zeros. What is written is an element whatever the keys are
(`encodeInspectable_written`), and its structures are those of the property sets inside the
value (`isStructure_valueElement`), so the rest is about the keys of one set.
-/

/-! ## Decimal numbers -/

/-- The digit a byte stands for. -/
def digit (b : UInt8) : ℕ := b.toNat - 0x30

/-- **A decimal number** of one byte: digits and nothing else, up to 255. -/
structure IsDecimal (bytes : List UInt8) : Prop where
  nonempty : bytes ≠ []
  digits : ∀ b ∈ bytes, isDigit b = true
  small : digitsValue bytes ≤ 255

/-- The bytes without leading zeros. -/
def significant (bytes : List UInt8) : List UInt8 := bytes.dropWhile (· == 0x30)

theorem isDigit_iff {b : UInt8} : isDigit b = true ↔ 0x30 ≤ b.toNat ∧ b.toNat ≤ 0x39 := by
  rw [isDigit, Bool.and_eq_true, decide_eq_true_iff, decide_eq_true_iff, UInt8.le_iff_toNat_le,
    UInt8.le_iff_toNat_le]
  rfl

/-- A digit determines its byte. -/
theorem ofNat_digit {b : UInt8} (h : isDigit b = true) : UInt8.ofNat (digit b + 0x30) = b := by
  rw [digit, Nat.sub_add_cancel (isDigit_iff.mp h).1, UInt8.ofNat_toNat]

theorem digitsValue_concat (bytes : List UInt8) (b : UInt8) :
    digitsValue (bytes ++ [b]) = digit b + 10 * digitsValue bytes := by
  rw [digitsValue, List.foldl_append, Nat.add_comm]
  rfl

/-- The value of some bytes is that of their digits, the last being the lowest. -/
theorem digitsValue_eq_ofDigits (bytes : List UInt8) :
    digitsValue bytes = Nat.ofDigits 10 (bytes.map digit).reverse := by
  induction bytes using List.reverseRecOn with
  | nil => rfl
  | append_singleton bytes b ih =>
    rw [digitsValue_concat, ih, List.map_append, List.reverse_append]
    rfl

/-- Leading zeros do not count. -/
theorem digitsValue_significant (bytes : List UInt8) :
    digitsValue (significant bytes) = digitsValue bytes := by
  induction bytes with
  | nil => rfl
  | cons b bytes ih =>
    rw [significant, List.dropWhile_cons]
    split
    · rename_i hb
      rw [beq_iff_eq.mp hb]
      exact ih
    · rfl

/-- **The digits of the value of a decimal number** are its own, without leading zeros. -/
theorem digits_digitsValue {bytes : List UInt8} (h : ∀ b ∈ bytes, isDigit b = true) :
    Nat.digits 10 (digitsValue bytes) = ((significant bytes).map digit).reverse := by
  have hdigits : ∀ b ∈ significant bytes, isDigit b = true := fun b hb =>
    h b (List.dropWhile_subset _ hb)
  rw [← digitsValue_significant, digitsValue_eq_ofDigits]
  refine Nat.digits_ofDigits 10 (by decide) _ (fun d hd => ?_) fun hne => ?_
  · obtain ⟨b, hb, rfl⟩ := List.mem_map.mp (List.mem_reverse.mp hd)
    have hb := isDigit_iff.mp (hdigits b hb)
    rw [digit]
    omega
  · -- the last digit is the first of the number, and that is no zero
    have hne' : significant bytes ≠ [] := fun hnil => hne (by rw [hnil]; rfl)
    have hfirst := List.head_dropWhile_not (· == (0x30 : UInt8)) hne'
    have hb := isDigit_iff.mp (hdigits _ (List.head_mem hne'))
    rw [List.getLast_reverse, List.head_map, digit]
    intro hzero
    refine absurd (UInt8.toNat_inj.mp ?_) (beq_eq_false_iff_ne.mp hfirst)
    show _ = 0x30
    exact Nat.le_antisymm (Nat.sub_eq_zero_iff_le.mp hzero) hb.1

/-- **Two decimal numbers have one value exactly where they are the same up to leading
zeros.** -/
theorem digitsValue_eq_iff {bytes bytes' : List UInt8} (h : ∀ b ∈ bytes, isDigit b = true)
    (h' : ∀ b ∈ bytes', isDigit b = true) :
    digitsValue bytes = digitsValue bytes' ↔ significant bytes = significant bytes' := by
  constructor
  · intro hvalue
    have hmap : (significant bytes).map digit = (significant bytes').map digit := by
      rw [← List.reverse_inj, ← digits_digitsValue h, ← digits_digitsValue h', hvalue]
    have hrecover : ∀ {l : List UInt8}, (∀ b ∈ l, isDigit b = true) →
        ((significant l).map digit).map (fun d => UInt8.ofNat (d + 0x30)) = significant l := by
      intro l hl
      rw [List.map_map]
      exact (List.map_congr_left fun b hb =>
        ofNat_digit (hl b (List.dropWhile_subset _ hb))).trans (List.map_id _)
    rw [← hrecover h, hmap, hrecover h']
  · intro hsame
    rw [← digitsValue_significant bytes, hsame, digitsValue_significant]

/-! ## Plain keys -/

/-- **A plain key** begins with a digit and has no null in it. -/
def IsPlain (bytes : List UInt8) : Prop := bytes.head?.any isDigit = true ∧ 0 ∉ bytes

instance (bytes : List UInt8) : Decidable (IsPlain bytes) := by
  unfold IsPlain
  infer_instance

theorem IsDecimal.plain {bytes : List UInt8} (h : IsDecimal bytes) : IsPlain bytes := by
  refine ⟨?_, fun h0 => absurd (h.digits 0 h0) (by decide)⟩
  rw [List.head?_eq_some_head h.nonempty]
  exact h.digits _ (List.head_mem h.nonempty)

/-- From a digit on, `strtoul` takes the digits that follow. -/
theorem strtoul_of_digit {b : UInt8} (hb : isDigit b = true) (bytes : List UInt8) :
    strtoul (b :: bytes) = (if ulongMax < digitsValue ((b :: bytes).takeWhile isDigit) then ulongMax
      else digitsValue ((b :: bytes).takeWhile isDigit), (b :: bytes).dropWhile isDigit) := by
  obtain ⟨hlow, hhigh⟩ := isDigit_iff.mp hb
  have hspace : (b :: bytes).dropWhile isSpace = b :: bytes := by
    refine List.dropWhile_cons_of_neg fun h => ?_
    rw [isSpace, Bool.or_eq_true, Bool.and_eq_true, beq_iff_eq, decide_eq_true_iff,
      decide_eq_true_iff, UInt8.le_iff_toNat_le, UInt8.le_iff_toNat_le] at h
    rcases h with rfl | ⟨-, h⟩
    · exact absurd hlow (by decide)
    · exact absurd (hlow.trans h) (by decide)
  have hsign : splitSign (b :: bytes) = (false, b :: bytes) := by
    unfold splitSign
    split
    · rename_i h
      obtain ⟨rfl, -⟩ := List.cons_eq_cons.mp h
      exact absurd hlow (by decide)
    · rename_i h
      obtain ⟨rfl, -⟩ := List.cons_eq_cons.mp h
      exact absurd hlow (by decide)
    · rfl
  have hdigits : ((b :: bytes).takeWhile isDigit).isEmpty = false := by
    rw [List.takeWhile_cons_of_pos hb]
    rfl
  rw [strtoul, hspace, hsign]
  dsimp only
  rw [hdigits]
  rfl

/-- **A plain key that is accepted is a decimal number**, and stands for its value. -/
theorem IsPlain.decimal {bytes : List UInt8} (h : IsPlain bytes) {number : UInt8}
    (hnumber : keyNumber bytes = some number) :
    IsDecimal bytes ∧ number = UInt8.ofNat (digitsValue bytes) := by
  obtain ⟨hfirst, hnull⟩ := h
  have hcString : cString bytes = bytes :=
    List.takeWhile_eq_self_iff.mpr fun b hb => bne_iff_ne.mpr fun h0 => hnull (h0 ▸ hb)
  cases bytes with
  | nil => cases hfirst
  | cons b bytes =>
    rw [keyNumber, hcString, strtoul_of_digit hfirst] at hnumber
    dsimp only at hnumber
    rw [Option.ite_none_right_eq_some] at hnumber
    obtain ⟨⟨-, hend, hsmall⟩, hvalue⟩ := hnumber
    have hdigits := List.dropWhile_eq_nil_iff.mp hend
    rw [List.takeWhile_eq_self_iff.mpr hdigits] at hvalue hsmall
    have hfits : ¬ ulongMax < digitsValue (b :: bytes) := by
      intro hlarge
      rw [if_pos hlarge] at hsmall
      exact absurd hsmall (by decide)
    rw [if_neg hfits] at hvalue hsmall
    exact ⟨⟨List.cons_ne_nil _ _, hdigits, hsmall⟩, (Option.some.inj hvalue).symm⟩

/-! ## Structures and property sets, at every level -/

/-- **A property set inside a value**, at any level. -/
inductive Holds (q : PropertySet) : Inspectable → Prop
  | here : Holds q (.propertySet q)
  | entry {p : PropertySet} {e : HString × Inspectable} (he : e ∈ p) (h : Holds q e.2) :
      Holds q (.propertySet p)
  | item {items : List Inspectable} {i : Inspectable} (hi : i ∈ items) (h : Holds q i) :
      Holds q (.vector items)

/-- **A structure inside an element**, at any level, by its members. -/
inductive IsStructure (members : List (Tlv.Tag × Tlv.Element)) : Tlv.Element → Prop
  | here : IsStructure members (.container .struct members)
  | inside {k : Tlv.Container} {outer : List (Tlv.Tag × Tlv.Element)}
      {m : Tlv.Tag × Tlv.Element} (hm : m ∈ outer) (h : IsStructure members m.2) :
      IsStructure members (.container k outer)

section Structures

variable {text : TextConversion}

/-- The members of the structure of a property set. -/
def structureMembers (text : TextConversion) (q : PropertySet) : List (Tlv.Tag × Tlv.Element) :=
  Tlv.ascendingMembers (fieldElements text q)

/-- A member of the structure of a property set is the element of one of its values. -/
theorem exists_entry_of_member {q : PropertySet} {m : Tlv.Tag × Tlv.Element}
    (h : m ∈ structureMembers text q) : ∃ e ∈ q, m.2 = valueElement text e.2 := by
  rw [structureMembers, ascending_fieldElements] at h
  obtain ⟨written, hwritten, rfl⟩ := List.mem_map.mp h
  obtain ⟨e, he, rfl⟩ := List.mem_map.mp hwritten
  exact ⟨e, mem_ascendingEntries.mp he, rfl⟩

/-- **The structures of the element of a value are those of the property sets inside
it.** -/
theorem isStructure_valueElement {v : Inspectable} {members : List (Tlv.Tag × Tlv.Element)} :
    IsStructure members (valueElement text v) ↔
      ∃ q, Holds q v ∧ members = structureMembers text q := by
  constructor
  · intro h
    induction v using Inspectable.induct with
    | propertySet p ih =>
      rw [valueElement] at h
      cases h with
      | here => exact ⟨p, .here, rfl⟩
      | inside hm h =>
        obtain ⟨e, he, hvalue⟩ := exists_entry_of_member hm
        obtain ⟨q, hq, hmembers⟩ := ih e he (hvalue ▸ h)
        exact ⟨q, .entry he hq, hmembers⟩
    | vector items ih =>
      rw [valueElement, itemElements_eq, List.map_map] at h
      cases h with
      | inside hm h =>
        obtain ⟨i, hi, rfl⟩ := List.mem_map.mp hm
        obtain ⟨q, hq, hmembers⟩ := ih i hi h
        exact ⟨q, .item hi hq, hmembers⟩
    | null => rw [valueElement] at h; cases h
    | value v => rw [valueElement] at h; cases h
    | byteVector bytes => rw [valueElement] at h; cases h
    | other => rw [valueElement] at h; cases h
  · rintro ⟨q, hq, rfl⟩
    induction hq with
    | here => rw [valueElement]; exact .here
    | @entry p e he _ ih =>
      rw [valueElement, ascending_fieldElements]
      exact .inside (List.mem_map_of_mem
        (List.mem_map_of_mem (mem_ascendingEntries.mpr he))) ih
    | @item items i hi _ ih =>
      rw [valueElement, itemElements_eq]
      exact .inside (List.mem_map_of_mem (List.mem_map_of_mem hi)) ih

/-- The keys of every property set inside a value that has an element are accepted. -/
theorem Encodes.accepted {v : Inspectable} (hv : Encodes text v) {q : PropertySet}
    (hq : Holds q v) : ∀ key ∈ q.keys, ∃ number, keyNumber (text.toString key) = some number := by
  induction hq with
  | here =>
    cases hv with
    | propertySet keys values =>
      intro key hkey
      obtain ⟨e, he, rfl⟩ := List.mem_map.mp hkey
      exact Option.isSome_iff_exists.mp (keys e he)
  | entry he _ ih =>
    cases hv with
    | propertySet keys values => exact ih (values _ he)
  | item hi _ ih =>
    cases hv with
    | vector h => exact ih (h _ hi)

end Structures

/-! ## Keys as tags -/

section Keys

variable {text : TextConversion}

/-- **The keys of a property set are the tags of a structure**: they are decimal numbers,
there is one member for each of them, and the tags ascend strictly. -/
structure KeysAsTags (text : TextConversion) (q : PropertySet)
    (members : List (Tlv.Tag × Tlv.Element)) : Prop where
  decimal : ∀ key ∈ q.keys, IsDecimal (text.toString key)
  perKey : (members.map Prod.fst).Perm
    (q.keys.map fun key => .context (UInt8.ofNat (digitsValue (text.toString key))))
  ascending : (members.map Prod.fst).Pairwise fun tag tag' => tag.number < tag'.number

/-- **The keys of a property set are plain**, and no two of them are the same up to leading
zeros. -/
structure PlainKeys (text : TextConversion) (q : PropertySet) : Prop where
  plain : ∀ key ∈ q.keys, IsPlain (text.toString key)
  distinct : (q.keys.map fun key => significant (text.toString key)).Nodup

/-- The tag of a decimal key. -/
def decimalTag (text : TextConversion) (key : HString) : Tlv.Tag :=
  .context (UInt8.ofNat (digitsValue (text.toString key)))

/-- Two decimal keys have one tag exactly where they are the same up to leading zeros. -/
theorem decimalTag_eq_iff {key key' : HString} (h : IsDecimal (text.toString key))
    (h' : IsDecimal (text.toString key')) : decimalTag text key = decimalTag text key' ↔
      significant (text.toString key) = significant (text.toString key') := by
  rw [← digitsValue_eq_iff h.digits h'.digits, decimalTag, decimalTag, Tlv.Tag.context.injEq]
  constructor
  · intro hnumber
    have hvalue := congrArg UInt8.toNat hnumber
    rwa [UInt8.toNat_ofNat_of_lt' (Nat.lt_succ_of_le h.small),
      UInt8.toNat_ofNat_of_lt' (Nat.lt_succ_of_le h'.small)] at hvalue
  · exact congrArg UInt8.ofNat

/-- Tags that ascend strictly are distinct. -/
theorem KeysAsTags.plainKeys {q : PropertySet} {members : List (Tlv.Tag × Tlv.Element)}
    (h : KeysAsTags text q members) : PlainKeys text q := by
  refine ⟨fun key hkey => (h.decimal key hkey).plain, ?_⟩
  have hnodup : (q.keys.map (decimalTag text)).Nodup := by
    refine h.perKey.nodup_iff.mp (h.ascending.imp fun hlt heq => ?_)
    rw [heq] at hlt
    exact absurd hlt (UInt8.lt_irrefl _)
  have hkeys : q.keys.Nodup := List.Nodup.of_map _ hnodup
  refine (List.nodup_map_iff_inj_on hkeys).mpr fun key hkey key' hkey' hsame => ?_
  exact (List.nodup_map_iff_inj_on hkeys).mp hnodup key hkey key' hkey'
    ((decimalTag_eq_iff (h.decimal key hkey) (h.decimal key' hkey')).mpr hsame)

/-- The tags of the structure of a property set, before they are told apart. -/
theorem structureMembers_tags (text : TextConversion) (q : PropertySet) :
    ((structureMembers text q).map Prod.fst).Perm
      (q.map fun e => .context (entryNumber text e)) ∧
    ((structureMembers text q).map Prod.fst).Pairwise fun tag tag' => tag.number ≤ tag'.number := by
  rw [structureMembers, Tlv.ascendingMembers, List.pairwise_map]
  refine ⟨?_, List.pairwise_insertionSort _ _⟩
  refine ((List.perm_insertionSort _ _).map Prod.fst).trans (List.Perm.of_eq ?_)
  rw [fieldElements_eq, List.map_map, List.map_map]
  rfl

/-- **Plain keys that are told apart are the tags of the structure.** -/
theorem PlainKeys.keysAsTags {q : PropertySet} (h : PlainKeys text q)
    (haccepted : ∀ key ∈ q.keys, ∃ number, keyNumber (text.toString key) = some number) :
    KeysAsTags text q (structureMembers text q) := by
  have hdecimal : ∀ key ∈ q.keys, IsDecimal (text.toString key) := fun key hkey => by
    obtain ⟨number, hnumber⟩ := haccepted key hkey
    exact ((h.plain key hkey).decimal hnumber).1
  obtain ⟨hperm, hsorted⟩ := structureMembers_tags text q
  have htags : (q.map fun e => Tlv.Tag.context (entryNumber text e))
      = q.keys.map (decimalTag text) := by
    rw [PropertySet.keys, List.map_map]
    refine List.map_congr_left fun e he => ?_
    have hkey : e.1 ∈ q.keys := List.mem_map_of_mem he
    obtain ⟨number, hnumber⟩ := haccepted e.1 hkey
    rw [Function.comp_apply, decimalTag, ← ((h.plain e.1 hkey).decimal hnumber).2, entryNumber,
      fieldNumber, hnumber, Option.getD_some]
  rw [htags] at hperm
  refine ⟨hdecimal, hperm, ?_⟩
  have hkeys : q.keys.Nodup := List.Nodup.of_map _ h.distinct
  have hnodup : (q.keys.map (decimalTag text)).Nodup := by
    refine (List.nodup_map_iff_inj_on hkeys).mpr fun key hkey key' hkey' htag => ?_
    exact (List.nodup_map_iff_inj_on hkeys).mp h.distinct key hkey key' hkey'
      ((decimalTag_eq_iff (hdecimal key hkey) (hdecimal key' hkey')).mp htag)
  -- the tags do not descend, and no two of them are the same
  refine (hsorted.and (hperm.nodup_iff.mpr hnodup)).imp_of_mem fun hmem hmem' hpair => ?_
  obtain ⟨key, -, rfl⟩ := List.mem_map.mp (hperm.mem_iff.mp hmem)
  obtain ⟨key', -, rfl⟩ := List.mem_map.mp (hperm.mem_iff.mp hmem')
  exact UInt8.lt_of_le_of_ne hpair.1 fun hnumber => hpair.2 (congrArg Tlv.Tag.context hnumber)

end Keys

/-! ## What the encoder writes -/

section Written

variable {W : Type} {writer : Tlv.Writer W ChipError} {text : TextConversion}
  {tokens : W → List Tlv.Token} {capacity : W → ℕ} {size : Tlv.Token → ℕ}

/-- **Some tokens are an element whose structures have the keys of a value for tags**: every
structure is that of a property set inside the value, and every such set has one. -/
def WritesKeysAsTags (text : TextConversion) (v : Inspectable) (tag : Tlv.Tag)
    (written : List Tlv.Token) : Prop :=
  ∃ e, written = Tlv.Element.tokens tag e ∧
    (∀ members, IsStructure members e → ∃ q, Holds q v ∧ KeysAsTags text q members) ∧
    ∀ q, Holds q v → ∃ members, IsStructure members e ∧ KeysAsTags text q members

/-- **The structures that are written for a value have its keys for tags** exactly where the
keys of every property set inside it are plain, and are told apart by more than leading
zeros. -/
theorem encodeInspectable_keys_iff (hwriter : writer.Faithful size capacity tokens)
    {v : Inspectable} {tag : Tlv.Tag} {w w' : W}
    (h : encodeInspectable writer text v tag w = .ok w') :
    ∃ written, tokens w' = tokens w ++ written ∧
      (WritesKeysAsTags text v tag written ↔ ∀ q, Holds q v → PlainKeys text q) := by
  obtain ⟨hencodes, htokens, -⟩ := encodeInspectable_written hwriter v h
  refine ⟨_, htokens, ?_, fun hplain => ⟨valueElement text v, rfl, fun members hmembers => ?_,
    fun q hq => ?_⟩⟩
  · rintro ⟨e, -, -, hstructures⟩ q hq
    obtain ⟨members, -, hkeys⟩ := hstructures q hq
    exact hkeys.plainKeys
  · obtain ⟨q, hq, rfl⟩ := isStructure_valueElement.mp hmembers
    exact ⟨q, hq, (hplain q hq).keysAsTags (hencodes.accepted hq)⟩
  · exact ⟨structureMembers text q, isStructure_valueElement.mpr ⟨q, hq, rfl⟩,
      (hplain q hq).keysAsTags (hencodes.accepted hq)⟩

/-- **The structures that `EncodePropertySet` writes have the keys for tags** exactly where
the keys of the property set, and of every one inside it, are plain and are told apart by
more than leading zeros. -/
theorem encodePropertySet_keys_iff (hwriter : writer.Faithful size capacity tokens)
    {p : PropertySet} {tag : Tlv.Tag} {w w' : W}
    (h : encodePropertySet writer text p tag w = .ok w') :
    ∃ written, tokens w' = tokens w ++ written ∧
      (WritesKeysAsTags text (.propertySet p) tag written ↔
        ∀ q, Holds q (.propertySet p) → PlainKeys text q) :=
  encodeInspectable_keys_iff hwriter h

end Written

/-- A structure in a structure. -/
def nestedKeys : PropertySet :=
  [(fieldKey 2, .null), (fieldKey 1, .propertySet [(fieldKey 2, .null)])]

/-- It is written with its keys for tags. -/
theorem nestedKeys_written :
    ∃ w' : Tlv.TokenBuffer, encodePropertySet (Tlv.tokenWriter ChipError.bufferTooSmall) .standard
        nestedKeys .anonymous ⟨64, []⟩ = .ok w' ∧
      WritesKeysAsTags .standard (.propertySet nestedKeys) .anonymous w'.tokens := by
  refine ⟨_, rfl, ?_⟩
  obtain ⟨written, htokens, hiff⟩ := @encodePropertySet_keys_iff _ _ .standard _ _ _
    (Tlv.tokenWriter_faithful ChipError.bufferTooSmall) nestedKeys .anonymous ⟨64, []⟩ _ rfl
  rw [htokens]
  refine hiff.mpr fun q hq => ?_
  have hplain : q = nestedKeys ∨ q = [(fieldKey 2, .null)] := by
    cases hq with
    | here => exact Or.inl rfl
    | entry he h =>
      simp only [nestedKeys, List.mem_cons, List.not_mem_nil, or_false] at he
      rcases he with rfl | rfl
      · cases h
      · cases h with
        | here => exact Or.inr rfl
        | entry he h =>
          rw [List.mem_singleton.mp he] at h
          cases h
  rcases hplain with rfl | rfl
  · exact ⟨by decide +kernel, by decide +kernel⟩
  · exact ⟨by decide +kernel, by decide +kernel⟩

/-- Two keys for one tag. -/
def collidingKeys : PropertySet := [(utf16 ['1'], .null), (utf16 ['0', '1'], .null)]

/-- **Two keys are accepted that stand for one tag**, and are written as two members
of it. -/
theorem collidingKeys_written :
    ∃ w' : Tlv.TokenBuffer, encodePropertySet (Tlv.tokenWriter ChipError.bufferTooSmall) .standard
        collidingKeys .anonymous ⟨64, []⟩ = .ok w' ∧
      w'.tokens = [.start .anonymous .struct, .scalar (.context 1) .null, .scalar (.context 1) .null,
        .finish] ∧
      ¬ WritesKeysAsTags .standard (.propertySet collidingKeys) .anonymous w'.tokens := by
  refine ⟨_, rfl, rfl, ?_⟩
  rintro ⟨e, -, -, hstructures⟩
  obtain ⟨members, -, hkeys⟩ := hstructures collidingKeys .here
  exact absurd hkeys.plainKeys.distinct (by decide +kernel)
