import MatterController.PropertySetElements
import MatterController.TlvTokens

/-!
# Property sets survive TLV

Encoding what was decoded gives the element back, up to the order of its members
and the precision of its floating-point numbers; decoding what was encoded gives
the property set back, up to the width of its numbers. By `PropertySetElements`
these are statements on trees: that `valueElement` undoes `elementValue`
(`valueElement_elementValue`), and `elementValue` undoes `valueElement`
(`elementValue_valueElement`).

What makes the trees fit is that the decimal key of a context tag is read back as
its number, so that distinct tags have distinct keys and no key of a structure is
taken for the `value` of a wrapped root.
-/

/-! ## Keys -/

/-- **The decimal digits of a context tag are its number.** -/
theorem keyNumber_digits : ∀ n < 256,
    keyNumber (utf8 (Nat.toDigits 10 n)) = some (UInt8.ofNat n) := by
  decide +kernel

section Keys

variable {text : TextConversion}

/-- **The number of a key is the number it was made of.** -/
theorem fieldNumber_fieldKey (htext : text.Lawful) (n : UInt8) :
    fieldNumber text (fieldKey n.toNat) = some n := by
  rw [fieldNumber, fieldKey, htext.toString_utf16, keyNumber_digits n.toNat n.toNat_lt,
    UInt8.ofNat_toNat]

/-- Distinct numbers have distinct keys. -/
theorem fieldKey_inj {n m : UInt8} (h : fieldKey n.toNat = fieldKey m.toNat) : n = m := by
  have hn := fieldNumber_fieldKey TextConversion.standard_lawful n
  rw [h, fieldNumber_fieldKey TextConversion.standard_lawful m] at hn
  exact (Option.some.inj hn).symm

/-- The number of an entry with a decimal key. -/
theorem entryNumber_of_key (htext : text.Lawful) {e : HString × Inspectable} {n : UInt8}
    (h : e.1 = fieldKey n.toNat) : entryNumber text e = n := by
  rw [entryNumber, h, fieldNumber_fieldKey htext, Option.getD_some]

end Keys

/-! ## The value of a structure -/

section Value

variable (text : TextConversion) (promote : UInt32 → UInt64)

/-- The entry of a member. -/
def memberEntry (m : Tlv.Tag × Tlv.Element) : HString × Inspectable :=
  (fieldKey m.1.number.toNat, elementValue text promote m.2)

/-- **Members with distinct tags** become entries of their own, after those that are
there. -/
theorem structValue_eq {members : List (Tlv.Tag × Tlv.Element)}
    (tags : ∀ m ∈ members, ∃ n, m.1 = .context n) (distinct : (members.map Prod.fst).Nodup)
    {p : PropertySet} (apart : ∀ m ∈ members, fieldKey m.1.number.toNat ∉ p.keys) :
    structValue text promote members p = p ++ members.map (memberEntry text promote) := by
  induction members generalizing p with
  | nil => rw [structValue, List.map_nil, List.append_nil]
  | cons m members ih =>
    obtain ⟨tag, e⟩ := m
    have hkey : fieldKey tag.number.toNat ∉ p.keys := apart (tag, e) List.mem_cons_self
    rw [List.map_cons, List.nodup_cons] at distinct
    rw [structValue, ih (fun m hm => tags m (List.mem_cons_of_mem _ hm)) distinct.2,
      PropertySet.insert_of_not_mem hkey, List.map_cons, memberEntry, List.append_assoc]
    · rfl
    · intro m hm hmem
      rw [PropertySet.keys_insert, if_neg (by simpa [PropertySet.hasKey] using hkey)] at hmem
      rcases List.mem_append.mp hmem with hmem | hmem
      · exact apart m (List.mem_cons_of_mem _ hm) hmem
      · obtain ⟨n, hn⟩ := tags m (List.mem_cons_of_mem _ hm)
        obtain ⟨k, hk⟩ := tags (tag, e) List.mem_cons_self
        have hnumber := fieldKey_inj (List.mem_singleton.mp hmem)
        refine distinct.1 (List.mem_map.mpr ⟨m, hm, ?_⟩)
        dsimp only at hk
        rw [hn, hk, Tlv.Tag.number, Tlv.Tag.number] at hnumber
        rw [hn, hk, hnumber]

/-- The value of a structure with distinct tags. -/
theorem elementValue_struct {members : List (Tlv.Tag × Tlv.Element)}
    (tags : ∀ m ∈ members, ∃ n, m.1 = .context n) (distinct : (members.map Prod.fst).Nodup) :
    elementValue text promote (.container .struct members)
      = .propertySet (members.map (memberEntry text promote)) := by
  rw [elementValue, structValue_eq text promote tags distinct
    (fun _ _ h => absurd h List.not_mem_nil), List.nil_append]

end Value

/-! ## From elements to property sets and back -/

/-- **The elements the projection can carry**: no lists; structures of context tags,
each once; arrays of members without tags, as the format has them; and strings that
are text. -/
inductive Bridgeable : Tlv.Element → Prop
  | scalar {s : Tlv.Scalar} (text : ∀ bytes, s = .utf8String bytes → ∃ t, bytes = utf8 t) :
      Bridgeable (.scalar s)
  | struct {members : List (Tlv.Tag × Tlv.Element)} (tags : ∀ m ∈ members, ∃ n, m.1 = .context n)
      (distinct : (members.map Prod.fst).Nodup) (values : ∀ m ∈ members, Bridgeable m.2) :
      Bridgeable (.container .struct members)
  | array {members : List (Tlv.Tag × Tlv.Element)} (tags : ∀ m ∈ members, m.1 = .anonymous)
      (values : ∀ m ∈ members, Bridgeable m.2) : Bridgeable (.container .array members)

theorem Bridgeable.decodes {e : Tlv.Element} (h : Bridgeable e) : Decodes e := by
  induction h with
  | scalar => exact .scalar _
  | struct tags _ _ ih => exact .struct tags ih
  | array _ _ ih => exact .items (by decide) ih

section Ascending

variable (promote : UInt32 → UInt64)

mutual

/-- **An element with its structures in ascending order** of their tags, to any depth,
and with its numbers of single precision promoted. -/
def ascending : Tlv.Element → Tlv.Element
  | .scalar (.single bits) => .scalar (.double (promote bits))
  | .scalar s => .scalar s
  | .container .struct members =>
    .container .struct (Tlv.ascendingMembers (ascendingEach members))
  | .container k members => .container k (ascendingEach members)

/-- The members of a container, each ascending. -/
def ascendingEach : List (Tlv.Tag × Tlv.Element) → List (Tlv.Tag × Tlv.Element)
  | [] => []
  | (tag, e) :: members => (tag, ascending e) :: ascendingEach members

end

theorem ascendingEach_eq (members : List (Tlv.Tag × Tlv.Element)) :
    ascendingEach promote members = members.map fun m => (m.1, ascending promote m.2) := by
  induction members with
  | nil => rfl
  | cons m members ih => rw [ascendingEach, ih, List.map_cons]

end Ascending

section Bridge

variable {text : TextConversion} {promote : UInt32 → UInt64}

/-- The value of a scalar has an element. -/
theorem encodes_scalarValue (s : Tlv.Scalar) : Encodes text (scalarValue text promote s) := by
  cases s with
  | null => exact .null
  | byteString bytes => exact .byteVector bytes
  | _ => exact .value rfl

/-- **What is decoded can be encoded.** -/
theorem Bridgeable.encodes (htext : text.Lawful) {e : Tlv.Element} (h : Bridgeable e) :
    Encodes text (elementValue text promote e) := by
  induction h with
  | scalar =>
    rw [elementValue]
    exact encodes_scalarValue _
  | @struct members tags distinct _ ih =>
    rw [elementValue_struct text promote tags distinct]
    refine .propertySet (fun e he => ?_) fun e he => ?_
    · obtain ⟨m, -, rfl⟩ := List.mem_map.mp he
      rw [memberEntry, fieldNumber_fieldKey htext]
      rfl
    · obtain ⟨m, hm, rfl⟩ := List.mem_map.mp he
      exact ih m hm
  | array _ _ ih =>
    rw [elementValue_items text promote (by decide), itemsValue_eq]
    refine .vector fun i hi => ?_
    obtain ⟨m, hm, rfl⟩ := List.mem_map.mp hi
    exact ih m hm

/-- The keys of the value of an element are decimal. -/
theorem Bridgeable.keys {e : Tlv.Element} (h : Bridgeable e) (p : PropertySet)
    (hp : elementValue text promote e = .propertySet p) :
    ∀ e ∈ p, ∃ n : UInt8, e.1 = fieldKey n.toNat := by
  cases h with
  | @scalar s hs =>
    rw [elementValue] at hp
    cases s <;> cases hp
  | @struct members tags distinct values =>
    rw [elementValue_struct text promote tags distinct] at hp
    cases hp
    intro e he
    obtain ⟨m, -, rfl⟩ := List.mem_map.mp he
    exact ⟨m.1.number, rfl⟩
  | @array members tags values =>
    rw [elementValue_items text promote (by decide)] at hp
    cases hp

/-- **The element of the value of an element** is that element in ascending order. -/
theorem valueElement_elementValue (htext : text.Lawful) {e : Tlv.Element} (h : Bridgeable e) :
    valueElement text (elementValue text promote e) = ascending promote e := by
  induction h with
  | @scalar s hs =>
    rw [elementValue]
    cases s with
    | utf8String bytes =>
      obtain ⟨t, rfl⟩ := hs bytes rfl
      rw [scalarValue, valueElement, PropertyValue.toScalar, htext.toHstring_utf8,
        htext.toString_utf16]
      rfl
    | _ => rfl
  | @struct members tags distinct _ ih =>
    rw [elementValue_struct text promote tags distinct, valueElement, ascending,
      fieldElements_eq, ascendingEach_eq, List.map_map, List.map_map]
    refine congrArg _ (congrArg _ (List.map_congr_left fun m hm => ?_))
    obtain ⟨n, hn⟩ := tags m hm
    have hnumber : entryNumber text (memberEntry text promote m) = n :=
      entryNumber_of_key htext (by rw [memberEntry, hn, Tlv.Tag.number])
    refine Prod.ext ?_ (ih m hm)
    show Tlv.Tag.context (entryNumber text (memberEntry text promote m)) = m.1
    rw [hnumber, hn]
  | @array members tags _ ih =>
    rw [elementValue_items text promote (by decide), itemsValue_eq, valueElement,
      itemElements_eq, List.map_map, List.map_map]
    have hascending : ascending promote (.container .array members)
        = .container .array (ascendingEach promote members) := by
      rw [ascending]
      simp
    rw [hascending, ascendingEach_eq]
    refine congrArg _ (List.map_congr_left fun m hm => ?_)
    exact Prod.ext (tags m hm).symm (ih m hm)

end Bridge

/-! ## From property sets to elements and back -/

/-- A boxed value in the widest type of its kind. -/
def PropertyValue.widened : PropertyValue → PropertyValue
  | .int16 i => .int64 i.toInt64
  | .int32 i => .int64 i.toInt64
  | .uint8 n => .uint64 n.toUInt64
  | .uint16 n => .uint64 n.toUInt64
  | .uint32 n => .uint64 n.toUInt64
  | v => v

/-- **The values an application can send and get back**: null, Booleans, integers,
text, bytes, vectors of such values, and property sets of such values whose keys are
the decimal numbers of context tags. -/
inductive Representable : Inspectable → Prop
  | null : Representable .null
  | boolean (b : Bool) : Representable (.value (.boolean b))
  | int16 (i : Int16) : Representable (.value (.int16 i))
  | int32 (i : Int32) : Representable (.value (.int32 i))
  | int64 (i : Int64) : Representable (.value (.int64 i))
  | uint8 (n : UInt8) : Representable (.value (.uint8 n))
  | uint16 (n : UInt16) : Representable (.value (.uint16 n))
  | uint32 (n : UInt32) : Representable (.value (.uint32 n))
  | uint64 (n : UInt64) : Representable (.value (.uint64 n))
  | string (t : List Char) : Representable (.value (.string (utf16 t)))
  | uint8Array (bytes : List UInt8) : Representable (.value (.uint8Array bytes))
  | byteVector (bytes : List UInt8) : Representable (.byteVector bytes)
  | vector {items : List Inspectable} (values : ∀ i ∈ items, Representable i) :
      Representable (.vector items)
  | propertySet {p : PropertySet} (nodup : p.keys.Nodup)
      (keys : ∀ e ∈ p, ∃ n : UInt8, e.1 = fieldKey n.toNat)
      (values : ∀ e ∈ p, Representable e.2) : Representable (.propertySet p)

/-- The keys of a property set an application can send are decimal. -/
theorem Representable.keys {v : Inspectable} (h : Representable v) (p : PropertySet)
    (hp : v = .propertySet p) : ∀ e ∈ p, ∃ n : UInt8, e.1 = fieldKey n.toNat := by
  subst hp
  cases h with
  | propertySet _ keys _ => exact keys

section Widened

variable (text : TextConversion)

mutual

/-- **A value with its numbers in the widest type of their kind**, its arrays of bytes
as vectors, and the entries of its property sets in ascending order. -/
def widened : Inspectable → Inspectable
  | .value (.uint8Array bytes) => .byteVector bytes
  | .value v => .value v.widened
  | .vector items => .vector (widenedItems items)
  | .propertySet entries => .propertySet (ascendingEntries text (widenedEntries entries))
  | v => v

/-- The items of a vector, each widened. -/
def widenedItems : List Inspectable → List Inspectable
  | [] => []
  | item :: items => widened item :: widenedItems items

/-- The entries of a property set, each widened. -/
def widenedEntries : List (HString × Inspectable) → List (HString × Inspectable)
  | [] => []
  | (key, value) :: entries => (key, widened value) :: widenedEntries entries

end

theorem widenedItems_eq (items : List Inspectable) :
    widenedItems text items = items.map (widened text) := by
  induction items with
  | nil => rfl
  | cons item items ih => rw [widenedItems, ih, List.map_cons]

theorem widenedEntries_eq (entries : List (HString × Inspectable)) :
    widenedEntries text entries = entries.map fun e => (e.1, widened text e.2) := by
  induction entries with
  | nil => rfl
  | cons e entries ih => rw [widenedEntries, ih, List.map_cons]

/-- Widening the entries keeps their order. -/
theorem ascending_widenedEntries (entries : List (HString × Inspectable)) :
    ascendingEntries text (widenedEntries text entries)
      = (ascendingEntries text entries).map fun e => (e.1, widened text e.2) := by
  rw [widenedEntries_eq]
  exact (List.map_insertionSort (fun e e' => entryNumber text e ≤ entryNumber text e')
    (fun e e' => entryNumber text e ≤ entryNumber text e')
    (fun e => (e.1, widened text e.2)) entries fun _ _ _ _ => Iff.rfl).symm

end Widened

section Bridge

variable {text : TextConversion} {promote : UInt32 → UInt64}

/-- The member of an entry, as an element. -/
abbrev entryElement (text : TextConversion) (e : HString × Inspectable) :
    Tlv.Tag × Tlv.Element :=
  memberElement text (entryMember text e)

/-- **Distinct decimal keys are distinct tags.** -/
theorem nodup_entryTags (htext : text.Lawful) {p : PropertySet} (nodup : p.keys.Nodup)
    (keys : ∀ e ∈ p, ∃ n : UInt8, e.1 = fieldKey n.toNat) :
    ((p.map (entryElement text)).map Prod.fst).Nodup := by
  rw [List.map_map]
  refine (List.Nodup.of_map (fun tag : Tlv.Tag => fieldKey tag.number.toNat) ?_)
  rw [List.map_map]
  have hmap : p.map ((fun tag : Tlv.Tag => fieldKey tag.number.toNat) ∘
      (Prod.fst ∘ entryElement text)) = p.keys := by
    refine List.map_congr_left fun e he => ?_
    obtain ⟨n, hn⟩ := keys e he
    show fieldKey (entryNumber text e).toNat = e.1
    rw [entryNumber_of_key htext hn, hn]
  rw [hmap]
  exact nodup

/-- **The value of the element of a value** is that value widened. -/
theorem elementValue_valueElement (htext : text.Lawful) {v : Inspectable}
    (h : Representable v) :
    Decodes (valueElement text v) ∧
      elementValue text promote (valueElement text v) = widened text v := by
  induction h with
  | string t =>
    refine ⟨.scalar _, ?_⟩
    show Inspectable.value (.string (text.toHstring (text.toString (utf16 t))))
      = .value (.string (utf16 t))
    rw [htext.toString_utf16, htext.toHstring_utf8]
  | @vector items _ ih =>
    rw [valueElement, itemElements_eq, List.map_map]
    refine ⟨.items (by decide) fun m hm => ?_, ?_⟩
    · obtain ⟨i, hi, rfl⟩ := List.mem_map.mp hm
      exact (ih i hi).1
    · rw [elementValue_items text promote (by decide), itemsValue_eq, widened, widenedItems_eq,
        List.map_map]
      exact congrArg _ (List.map_congr_left fun i hi => (ih i hi).2)
  | @propertySet p nodup keys _ ih =>
    have hperm : (ascendingEntries text p).Perm p := List.perm_insertionSort _ p
    have hmem : ∀ e ∈ ascendingEntries text p, e ∈ p := fun e he => hperm.mem_iff.mp he
    have htags : ∀ m ∈ (ascendingEntries text p).map (entryElement text),
        ∃ n, m.1 = .context n := fun m hm => by
      obtain ⟨e, -, rfl⟩ := List.mem_map.mp hm
      exact ⟨_, rfl⟩
    have hdistinct : (((ascendingEntries text p).map (entryElement text)).map Prod.fst).Nodup :=
      nodup_entryTags htext ((hperm.map Prod.fst).nodup_iff.mpr nodup)
        fun e he => keys e (hmem e he)
    rw [valueElement, ascending_fieldElements, List.map_map]
    refine ⟨.struct htags fun m hm => ?_, ?_⟩
    · obtain ⟨e, he, rfl⟩ := List.mem_map.mp hm
      exact (ih e (hmem e he)).1
    · have helement := elementValue_struct text promote htags hdistinct
      rw [List.map_map] at helement
      refine helement.trans ?_
      rw [widened, ascending_widenedEntries]
      refine congrArg _ (List.map_congr_left fun e he => ?_)
      obtain ⟨n, hn⟩ := keys e (hmem e he)
      refine Prod.ext ?_ (ih e (hmem e he)).2
      show fieldKey (entryNumber text e).toNat = e.1
      rw [entryNumber_of_key htext hn, hn]
  | _ => exact ⟨.scalar _, rfl⟩

end Bridge

/-! ## Roots -/

section Root

variable {R W β : Type} {sdk : Tlv.Sdk R W β ChipError} {text : TextConversion}
  {I : Tlv.Interpretation R W}

/-- What the encoder does for a value at the root. -/
def encodeRootValue (sdk : Tlv.Sdk R W β ChipError) (text : TextConversion) (v : Inspectable) :
    Except ChipError β := do
  let w ← encodeInspectable sdk.writer text v .anonymous (sdk.initWriter genericTlvBufferSize)
  let w ← sdk.writer.finalize w
  .ok (sdk.encoded w)

/-- **A wrapped root** is encoded as the value it wraps. -/
theorem encode_wrapped (v : Inspectable) :
    encodePropertySetRoot sdk text (some [(valueKey, v)]) = encodeRootValue sdk text v := by
  have hfind : PropertySet.find [(valueKey, v)] valueKey = some v := by
    simp [PropertySet.find]
  rw [encodePropertySetRoot, hfind]
  rfl

/-- **A structure** is encoded as a property set. -/
theorem encode_struct {p : PropertySet} (keys : ∀ e ∈ p, ∃ n : UInt8, e.1 = fieldKey n.toNat) :
    encodePropertySetRoot sdk text (some p) = encodeRootValue sdk text (.propertySet p) := by
  rw [encodePropertySetRoot, PropertySet.find_valueKey keys]
  rfl

/-- **The root of a value** is encoded as the value. -/
theorem encode_decodedRoot {v : Inspectable}
    (keys : ∀ p, v = .propertySet p → ∀ e ∈ p, ∃ n : UInt8, e.1 = fieldKey n.toNat) :
    encodePropertySetRoot sdk text (some (decodedRoot v)) = encodeRootValue sdk text v := by
  cases v with
  | propertySet p => exact encode_struct (keys p rfl)
  | _ => exact encode_wrapped _

/-- **A value that has an element is encoded**, where the buffer has the room. -/
theorem encodeRootValue_ok (hsdk : sdk.Faithful .endOfTlv I) {v : Inspectable}
    (hv : Encodes text v)
    (hfits : Tlv.bytes I.size ((valueElement text v).tokens .anonymous) ≤ genericTlvBufferSize) :
    ∃ b, encodeRootValue sdk text v = .ok b := by
  have hroom : Tlv.room I.size (I.tokens (sdk.initWriter genericTlvBufferSize)
      ++ (valueElement text v).tokens .anonymous)
      ≤ I.capacity (sdk.initWriter genericTlvBufferSize) := by
    rw [Tlv.room_append_tokens, hsdk.tokens_init, hsdk.capacity_init, Tlv.room_nil, Nat.zero_add]
    exact hfits
  obtain ⟨w, hw⟩ := encodeInspectable_ok hsdk.writer hv (by rw [hsdk.tokens_init]; rfl) hroom
  obtain ⟨-, htokens, -⟩ := encodeInspectable_written hsdk.writer v hw
  obtain ⟨w', hw'⟩ := hsdk.writer.finalize_ok (w := w) (by
    rw [htokens, Tlv.openContainers_append_tokens, hsdk.tokens_init, Tlv.openContainers_nil])
  exact ⟨sdk.encoded w', Except.bind_ok_iff.mpr ⟨w, hw, Except.bind_ok_iff.mpr ⟨w', hw', rfl⟩⟩⟩

/-- **What was encoded is the element of the value**, in front of the reader. -/
theorem encodeRootValue_read (hsdk : sdk.Faithful .endOfTlv I) {v : Inspectable} {b : β}
    (h : encodeRootValue sdk text v = .ok b) :
    I.At (sdk.initReader b) { rest := [(.anonymous, valueElement text v)] } := by
  obtain ⟨w, hw, h⟩ := Except.bind_ok_iff.mp h
  obtain ⟨w', hw', h⟩ := Except.bind_ok_iff.mp h
  obtain ⟨-, htokens, -⟩ := encodeInspectable_written hsdk.writer v hw
  obtain rfl := Except.ok.inj h
  refine hsdk.read ?_
  rw [hsdk.writer.finalize hw', htokens, hsdk.tokens_init, List.nil_append]

/-- **Decoding an element that decodes** gives its root. -/
theorem decodePropertySetRoot_eq (hsdk : sdk.Faithful .endOfTlv I) {e : Tlv.Element}
    (he : Decodes e) {r : R} {c : Tlv.Cursor} {tag : Tlv.Tag} (hat : I.At r c)
    (hcurrent : c.current = some (tag, e)) {fuel : ℕ} (hfuel : elementCost e ≤ fuel) :
    decodePropertySetRoot sdk.reader text fuel r
      = .ok (decodedRoot (elementValue text I.promote e)) := by
  have hread : IsRead sdk.reader text I.promote I.At e := decodeTlvValue_eq hsdk.reader he
  obtain ⟨r', current, hvalue, -⟩ := hread hat hcurrent hfuel
  rw [decodePropertySetRoot, hvalue]
  rfl

/-- **Every element the projection can carry crosses it.** It is decoded, and what it
decodes to is encoded, if the buffer has the room, as the same element in ascending
order. -/
theorem decodePropertySetRoot_encodes (hsdk : sdk.Faithful .endOfTlv I) (htext : text.Lawful)
    {t : Tlv.Element} (ht : Bridgeable t) {r : R} {c : Tlv.Cursor} {tag : Tlv.Tag}
    (hat : I.At r c) (hcurrent : c.current = some (tag, t)) :
    ∃ root, (∃ n, ∀ fuel ≥ n, decodePropertySetRoot sdk.reader text fuel r = .ok root) ∧
      (Tlv.bytes I.size ((ascending I.promote t).tokens .anonymous) ≤ genericTlvBufferSize →
        ∃ b, encodePropertySetRoot sdk text (some root) = .ok b ∧
          I.At (sdk.initReader b) { rest := [(.anonymous, ascending I.promote t)] }) := by
  refine ⟨decodedRoot (elementValue text I.promote t),
    ⟨elementCost t, fun fuel hfuel =>
      decodePropertySetRoot_eq hsdk ht.decodes hat hcurrent hfuel⟩, fun hfits => ?_⟩
  have hroot : encodePropertySetRoot sdk text (some (decodedRoot (elementValue text I.promote t)))
      = encodeRootValue sdk text (elementValue text I.promote t) :=
    encode_decodedRoot ht.keys
  rw [← valueElement_elementValue htext ht] at hfits ⊢
  obtain ⟨b, hb⟩ := encodeRootValue_ok hsdk (ht.encodes htext) hfits
  exact ⟨b, hroot.trans hb, encodeRootValue_read hsdk hb⟩

/-- The reader and the writer of tokens, with the errors of the native stack. -/
abbrev tokenTlv : Tlv.Sdk Tlv.Cursor Tlv.TokenBuffer (List Tlv.Token) ChipError :=
  Tlv.tokenSdk .endOfTlv .invalidTlvTag UInt32.toUInt64

theorem tokenTlv_faithful :
    tokenTlv.Faithful .endOfTlv (Tlv.tokenInterpretation UInt32.toUInt64) :=
  Tlv.tokenSdk_faithful ChipError.endOfTlv ChipError.invalidTlvTag UInt32.toUInt64

/-- A structure that holds another in an array, a null, and a text, out of order. -/
def nestedRequest : Tlv.Element :=
  .container .struct
    [(.context 7, .container .array
      [(.anonymous, .container .struct [(.context 1, .scalar (.signed (-2)))]),
        (.anonymous, .scalar .null)]),
      (.context 0, .scalar (.utf8String (utf8 ['o', 'k']))),
      (.context 2, .container .struct [])]

theorem nestedRequest_bridgeable : Bridgeable nestedRequest := by
  refine .struct (by simp) (by decide) ?_
  simp only [List.forall_mem_cons, List.not_mem_nil, false_imp_iff, implies_true, and_true]
  refine ⟨.array (by simp) ?_, .scalar ?_, .struct (by simp) List.nodup_nil (by simp)⟩
  · simp only [List.forall_mem_cons, List.not_mem_nil, false_imp_iff, implies_true, and_true]
    refine ⟨.struct (by simp) (by decide) ?_, .scalar (by simp)⟩
    simp only [List.forall_mem_cons, List.not_mem_nil, false_imp_iff, implies_true, and_true]
    exact .scalar (by simp)
  · rintro bytes h
    cases h
    exact ⟨_, rfl⟩

/-- The request crosses the projection of tokens. -/
theorem nestedRequest_encodes :
    ∃ root, (∃ n, ∀ fuel ≥ n, decodePropertySetRoot tokenTlv.reader .standard fuel
        { current := some (.context 1, nestedRequest) } = .ok root) ∧
      ∃ b, encodePropertySetRoot tokenTlv .standard (some root) = .ok b ∧
        Tlv.parse b = [(.anonymous, ascending UInt32.toUInt64 nestedRequest)] := by
  obtain ⟨root, hdecode, hencode⟩ := decodePropertySetRoot_encodes tokenTlv_faithful
    TextConversion.standard_lawful nestedRequest_bridgeable
    (r := { current := some (.context 1, nestedRequest) }) rfl rfl
  obtain ⟨b, hb, hread⟩ := hencode (by decide)
  exact ⟨root, hdecode, b, hb, congrArg Tlv.Cursor.rest hread⟩

/-- **Every value an application can send comes back**, wherever it was encoded: with
its numbers widened, and a property set unwrapped. -/
theorem encodePropertySetRoot_decodes (hsdk : sdk.Faithful .endOfTlv I) (htext : text.Lawful)
    {v : Inspectable} (hv : Representable v) {root : PropertySet}
    (hroot : root = decodedRoot v ∨ root = [(valueKey, v)]) {b : β}
    (h : encodePropertySetRoot sdk text (some root) = .ok b) :
    ∃ r, sdk.reader.next (sdk.initReader b) = (none, r) ∧
      ∃ n, ∀ fuel ≥ n, decodePropertySetRoot sdk.reader text fuel r
        = .ok (decodedRoot (widened text v)) := by
  have hvalue : encodeRootValue sdk text v = .ok b := by
    rcases hroot with rfl | rfl
    · exact (encode_decodedRoot hv.keys).symm.trans h
    · exact (encode_wrapped v).symm.trans h
  obtain ⟨hdecodes, hwidened⟩ := elementValue_valueElement htext hv
  obtain ⟨r, hnext, hat⟩ := hsdk.reader.next_cons (encodeRootValue_read hsdk hvalue) rfl
  refine ⟨r, hnext, elementCost (valueElement text v), fun fuel hfuel => ?_⟩
  rw [decodePropertySetRoot_eq hsdk hdecodes hat rfl hfuel, hwidened]

/-- A wrapped vector of a number and a property set comes back widened. -/
theorem wrapped_decodes :
    ∃ b, encodePropertySetRoot tokenTlv .standard
        (some [(valueKey, .vector [.value (.uint16 7), .propertySet [(fieldKey 3, .null)]])])
        = .ok b ∧
      ∃ r, tokenTlv.reader.next (tokenTlv.initReader b) = (none, r) ∧
        ∃ n, ∀ fuel ≥ n, decodePropertySetRoot tokenTlv.reader .standard fuel r
          = .ok [(valueKey, .vector [.value (.uint64 7), .propertySet [(fieldKey 3, .null)]])] := by
  have hv : Representable (.vector [.value (.uint16 7), .propertySet [(fieldKey 3, .null)]]) := by
    refine .vector ?_
    simp only [List.forall_mem_cons, List.not_mem_nil, false_imp_iff, implies_true, and_true]
    refine ⟨.uint16 7, .propertySet (List.nodup_singleton _) ?_ ?_⟩
    · simp only [List.forall_mem_cons, List.not_mem_nil, false_imp_iff, implies_true, and_true]
      exact ⟨3, rfl⟩
    · simp only [List.forall_mem_cons, List.not_mem_nil, false_imp_iff, implies_true, and_true]
      exact .null
  exact ⟨_, rfl, encodePropertySetRoot_decodes tokenTlv_faithful
    TextConversion.standard_lawful hv (Or.inr rfl) rfl⟩

end Root
