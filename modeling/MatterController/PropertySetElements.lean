import MatterController.PropertySetTlv
import MatterController.Results

/-!
# The elements of property sets

Encoding and decoding pass between two kinds of trees, the dynamic values of an
application and the elements of TLV. `elementValue` is the value of an element
and `valueElement` the element of a value, and the calls of the decoder and the
encoder compute these (`decodeTlvValue_eq`, `encodeInspectable_written`,
`encodeInspectable_ok`), for every faithful reader and writer. What is left of a
round trip is then about trees alone.

The decoder is shown to return for every fuel from the cost of the element on.
The encoder is shown to write the tokens of the element whenever it returns, and
to return whenever the value has an element and the buffer the room for it.
-/

/-! ## The value of an element -/

section Value

variable (text : TextConversion) (promote : UInt32 → UInt64)

/-- The value of a scalar. -/
def scalarValue : Tlv.Scalar → Inspectable
  | .null => .null
  | .boolean b => .value (.boolean b)
  | .signed i => .value (.int64 i)
  | .unsigned n => .value (.uint64 n)
  | .single bits => .value (.double (promote bits))
  | .double bits => .value (.double bits)
  | .utf8String bytes => .value (.string (text.toHstring bytes))
  | .byteString bytes => .byteVector bytes

mutual

/-- **The value of an element**, where its structures have context tags only. -/
def elementValue : Tlv.Element → Inspectable
  | .scalar s => scalarValue text promote s
  | .container .struct members => .propertySet (structValue members [])
  | .container _ members => .vector (itemsValue members)

/-- The members of a structure, inserted one after the other. -/
def structValue : List (Tlv.Tag × Tlv.Element) → PropertySet → PropertySet
  | [], p => p
  | (tag, e) :: members, p =>
    structValue members (p.insert (fieldKey tag.number.toNat) (elementValue e))

/-- The members of an array. -/
def itemsValue : List (Tlv.Tag × Tlv.Element) → List Inspectable
  | [] => []
  | (_, e) :: members => elementValue e :: itemsValue members

end

/-- The items of an array are the values of its members. -/
theorem itemsValue_eq (members : List (Tlv.Tag × Tlv.Element)) :
    itemsValue text promote members = members.map fun m => elementValue text promote m.2 := by
  induction members with
  | nil => rfl
  | cons m members ih => rw [itemsValue, ih, List.map_cons]

/-- Arrays and lists are vectors alike. -/
theorem elementValue_items {k : Tlv.Container} (hk : k ≠ .struct)
    (members : List (Tlv.Tag × Tlv.Element)) :
    elementValue text promote (.container k members)
      = .vector (itemsValue text promote members) := by
  cases k with
  | struct => exact absurd rfl hk
  | array => rw [elementValue]; simp
  | list => rw [elementValue]; simp

end Value

mutual

/-- The fuel an element takes to decode. -/
def elementCost : Tlv.Element → ℕ
  | .scalar _ => 1
  | .container _ members => 1 + membersCost members

/-- The fuel the members of a container take. -/
def membersCost : List (Tlv.Tag × Tlv.Element) → ℕ
  | [] => 1
  | (_, e) :: members => 1 + elementCost e + membersCost members

end

/-- **The elements that decode**: their structures have context tags only. -/
inductive Decodes : Tlv.Element → Prop
  | scalar (s : Tlv.Scalar) : Decodes (.scalar s)
  | struct {members : List (Tlv.Tag × Tlv.Element)} (tags : ∀ m ∈ members, ∃ n, m.1 = .context n)
      (values : ∀ m ∈ members, Decodes m.2) : Decodes (.container .struct members)
  | items {k : Tlv.Container} {members : List (Tlv.Tag × Tlv.Element)} (hk : k ≠ .struct)
      (values : ∀ m ∈ members, Decodes m.2) : Decodes (.container k members)

/-! ## The decoder -/

section Decoder

variable {R : Type} {reader : Tlv.Reader R ChipError} {text : TextConversion}
  {promote : UInt32 → UInt64} {At : R → Tlv.Cursor → Prop}

/-- **An element is read**: with fuel enough, the decoder returns its value, and the
reader stays where it is among the elements around. -/
def IsRead (reader : Tlv.Reader R ChipError) (text : TextConversion) (promote : UInt32 → UInt64)
    (At : R → Tlv.Cursor → Prop) (e : Tlv.Element) : Prop :=
  ∀ {r c tag fuel}, At r c → c.current = some (tag, e) → elementCost e ≤ fuel →
    ∃ r' current, decodeTlvValue reader text fuel r = .ok (elementValue text promote e, r') ∧
      At r' { c with current := current }

/-- **The loop over a structure** inserts the values of its members, to the end. -/
theorem decodeMembers_eq (hreader : reader.Faithful .endOfTlv promote At)
    {members : List (Tlv.Tag × Tlv.Element)} (tags : ∀ m ∈ members, ∃ n, m.1 = .context n)
    (values : ∀ m ∈ members, IsRead reader text promote At m.2) {r : R} {c : Tlv.Cursor}
    (hat : At r c) (hrest : c.rest = members) {fuel : ℕ} (hfuel : membersCost members ≤ fuel)
    (p : PropertySet) :
    ∃ r', decodeMembers reader text fuel r p = .ok (structValue text promote members p, r') ∧
      At r' { c with current := none, rest := [] } := by
  induction members generalizing r c fuel p with
  | nil =>
    obtain ⟨r', hnext, hat'⟩ := hreader.next_nil hat hrest
    cases fuel with
    | zero => exact absurd hfuel (by simp [membersCost])
    | succ fuel =>
      refine ⟨r', ?_, by rw [← hrest]; exact hat'⟩
      rw [decodeMembers, hnext]
      exact if_pos rfl
  | cons m members ih =>
    obtain ⟨tag, e⟩ := m
    obtain ⟨n, rfl⟩ := tags (tag, e) List.mem_cons_self
    obtain ⟨r₁, hnext, hat₁⟩ := hreader.next_cons hat hrest
    rw [membersCost] at hfuel
    cases fuel with
    | zero => omega
    | succ fuel =>
      obtain ⟨r₂, current, hvalue, hat₂⟩ :=
        values (.context n, e) List.mem_cons_self hat₁ rfl (show elementCost e ≤ fuel by omega)
      obtain ⟨r', hloop, hat'⟩ := ih (fun m hm => tags m (List.mem_cons_of_mem _ hm))
        (fun m hm => values m (List.mem_cons_of_mem _ hm)) hat₂ rfl
        (show membersCost members ≤ fuel by omega)
        (p.insert (fieldKey n.toNat) (elementValue text promote e))
      refine ⟨r', ?_, hat'⟩
      rw [decodeMembers, hnext]
      dsimp only
      rw [hreader.getTag hat₁ rfl]
      dsimp only
      rw [hvalue]
      exact hloop

/-- **The loop over an array** appends the values of its members, to the end. -/
theorem decodeItems_eq (hreader : reader.Faithful .endOfTlv promote At)
    {members : List (Tlv.Tag × Tlv.Element)}
    (values : ∀ m ∈ members, IsRead reader text promote At m.2) {r : R} {c : Tlv.Cursor}
    (hat : At r c) (hrest : c.rest = members) {fuel : ℕ} (hfuel : membersCost members ≤ fuel)
    (items : List Inspectable) :
    ∃ r', decodeItems reader text fuel r items
        = .ok (items ++ itemsValue text promote members, r') ∧
      At r' { c with current := none, rest := [] } := by
  induction members generalizing r c fuel items with
  | nil =>
    obtain ⟨r', hnext, hat'⟩ := hreader.next_nil hat hrest
    cases fuel with
    | zero => exact absurd hfuel (by simp [membersCost])
    | succ fuel =>
      refine ⟨r', ?_, by rw [← hrest]; exact hat'⟩
      rw [decodeItems, hnext, itemsValue, List.append_nil]
      exact if_pos rfl
  | cons m members ih =>
    obtain ⟨tag, e⟩ := m
    obtain ⟨r₁, hnext, hat₁⟩ := hreader.next_cons hat hrest
    rw [membersCost] at hfuel
    cases fuel with
    | zero => omega
    | succ fuel =>
      obtain ⟨r₂, current, hvalue, hat₂⟩ :=
        values (tag, e) List.mem_cons_self hat₁ rfl (show elementCost e ≤ fuel by omega)
      obtain ⟨r', hloop, hat'⟩ := ih (fun m hm => values m (List.mem_cons_of_mem _ hm)) hat₂ rfl
        (show membersCost members ≤ fuel by omega) (items ++ [elementValue text promote e])
      refine ⟨r', ?_, hat'⟩
      rw [decodeItems, hnext]
      dsimp only
      rw [hvalue, itemsValue, List.append_cons]
      exact hloop

/-- **A scalar is read** by the getter of its type. -/
theorem decodeTlvValue_scalar (hreader : reader.Faithful .endOfTlv promote At) (s : Tlv.Scalar) :
    IsRead reader text promote At (.scalar s) := by
  intro r c tag fuel hat hcurrent hfuel
  cases fuel with
  | zero => exact absurd hfuel (by simp [elementCost])
  | succ fuel =>
    refine ⟨r, c.current, ?_, hat⟩
    rw [decodeTlvValue, hreader.getType hat hcurrent]
    cases s with
    | null => rfl
    | boolean b =>
      dsimp only [Tlv.Element.type, Tlv.Scalar.type]
      rw [hreader.getBoolean hat hcurrent]
      rfl
    | signed i =>
      dsimp only [Tlv.Element.type, Tlv.Scalar.type]
      rw [hreader.getSigned hat hcurrent]
      rfl
    | unsigned n =>
      dsimp only [Tlv.Element.type, Tlv.Scalar.type]
      rw [hreader.getUnsigned hat hcurrent]
      rfl
    | single bits =>
      dsimp only [Tlv.Element.type, Tlv.Scalar.type]
      rw [hreader.getSingle hat hcurrent]
      rfl
    | double bits =>
      dsimp only [Tlv.Element.type, Tlv.Scalar.type]
      rw [hreader.getDouble hat hcurrent]
      rfl
    | utf8String bytes =>
      dsimp only [Tlv.Element.type, Tlv.Scalar.type]
      rw [hreader.getString hat hcurrent]
      rfl
    | byteString bytes =>
      dsimp only [Tlv.Element.type, Tlv.Scalar.type]
      rw [hreader.getBytes hat hcurrent]
      rfl

/-- **The decoder reads every element that decodes**, in every context. -/
theorem decodeTlvValue_eq (hreader : reader.Faithful .endOfTlv promote At) {e : Tlv.Element}
    (he : Decodes e) : IsRead reader text promote At e := by
  induction he with
  | scalar s => exact decodeTlvValue_scalar hreader s
  | @struct members tags values ih =>
    intro r c tag fuel hat hcurrent hfuel
    rw [elementCost] at hfuel
    cases fuel with
    | zero => omega
    | succ fuel =>
      obtain ⟨r₁, henter, hat₁⟩ := hreader.enterContainer hat hcurrent
      have hcost : membersCost members ≤ fuel := by omega
      obtain ⟨r₂, hloop, hat₂⟩ := decodeMembers_eq hreader tags ih hat₁ rfl hcost []
      obtain ⟨r₃, hexit, hat₃⟩ := hreader.exitContainer hat₂ rfl
      refine ⟨r₃, none, ?_, hat₃⟩
      rw [decodeTlvValue, hreader.getType hat hcurrent]
      dsimp only [Tlv.Element.type]
      rw [henter]
      show (decodeMembers reader text fuel r₁ [] >>= _) = _
      rw [hloop]
      show (checked (reader.exitContainer c.within r₂) >>= _) = _
      rw [hexit]
      rfl
  | @items k members hk values ih =>
    intro r c tag fuel hat hcurrent hfuel
    rw [elementCost] at hfuel
    cases fuel with
    | zero => omega
    | succ fuel =>
      obtain ⟨r₁, henter, hat₁⟩ := hreader.enterContainer hat hcurrent
      have hcost : membersCost members ≤ fuel := by omega
      obtain ⟨r₂, hloop, hat₂⟩ := decodeItems_eq hreader ih hat₁ rfl hcost []
      obtain ⟨r₃, hexit, hat₃⟩ := hreader.exitContainer hat₂ rfl
      refine ⟨r₃, none, ?_, hat₃⟩
      rw [elementValue_items text promote hk]
      cases k with
      | struct => exact absurd rfl hk
      | _ =>
        rw [decodeTlvValue, hreader.getType hat hcurrent]
        dsimp only [Tlv.Element.type]
        rw [henter]
        show (decodeItems reader text fuel r₁ [] >>= _) = _
        rw [hloop]
        show (checked (reader.exitContainer c.within r₂) >>= _) = _
        rw [hexit]
        rfl

end Decoder

/-! ## The element of a value -/

section Element

variable (text : TextConversion)

/-- The number of an entry, by its key. -/
def entryNumber (e : HString × Inspectable) : UInt8 := (fieldNumber text e.1).getD 0

mutual

/-- **The element of a value**, where it has one (`Encodes`). -/
def valueElement : Inspectable → Tlv.Element
  | .null => .scalar .null
  | .value value => .scalar ((value.toScalar text).getD .null)
  | .byteVector bytes => .scalar (.byteString bytes)
  | .vector items => .container .array (itemElements items)
  | .propertySet entries => .container .struct (Tlv.ascendingMembers (fieldElements entries))
  | .other => .scalar .null

/-- The members of an array. -/
def itemElements : List Inspectable → List (Tlv.Tag × Tlv.Element)
  | [] => []
  | item :: items => (.anonymous, valueElement item) :: itemElements items

/-- The members of a structure, in the order of the entries. -/
def fieldElements : List (HString × Inspectable) → List (Tlv.Tag × Tlv.Element)
  | [] => []
  | e :: entries =>
    (.context (entryNumber text e), valueElement e.2) :: fieldElements entries

end

/-- The member of an entry. -/
def entryMember (e : HString × Inspectable) : Tlv.Tag × Inspectable :=
  (.context (entryNumber text e), e.2)

/-- A member to be written, as an element. -/
def memberElement (m : Tlv.Tag × Inspectable) : Tlv.Tag × Tlv.Element :=
  (m.1, valueElement text m.2)

theorem itemElements_eq (items : List Inspectable) :
    itemElements text items
      = (items.map (Prod.mk Tlv.Tag.anonymous)).map (memberElement text) := by
  induction items with
  | nil => rfl
  | cons item items ih => rw [itemElements, ih, List.map_cons, List.map_cons, memberElement]

theorem fieldElements_eq (entries : List (HString × Inspectable)) :
    fieldElements text entries = (entries.map (entryMember text)).map (memberElement text) := by
  induction entries with
  | nil => rfl
  | cons e entries ih =>
    rw [fieldElements, ih, List.map_cons, List.map_cons, memberElement, entryMember]

/-- Some entries in ascending order of their numbers. -/
def ascendingEntries (entries : List (HString × Inspectable)) : List (HString × Inspectable) :=
  entries.insertionSort fun e e' => entryNumber text e ≤ entryNumber text e'

/-- The members of a structure are those of its entries in ascending order. -/
theorem ascending_fieldElements (entries : List (HString × Inspectable)) :
    Tlv.ascendingMembers (fieldElements text entries)
      = ((ascendingEntries text entries).map (entryMember text)).map (memberElement text) := by
  rw [fieldElements_eq, List.map_map, List.map_map]
  exact (List.map_insertionSort (fun e e' => entryNumber text e ≤ entryNumber text e')
    (fun m m' : Tlv.Tag × Tlv.Element => m.1.number ≤ m'.1.number)
    (memberElement text ∘ entryMember text) entries fun _ _ _ _ => Iff.rfl).symm

/-- **The values that have an element**: of a boxed type that has a scalar, and with
numbers for keys. -/
inductive Encodes : Inspectable → Prop
  | null : Encodes .null
  | value {v : PropertyValue} (h : (v.toScalar text).isSome) : Encodes (.value v)
  | byteVector (bytes : List UInt8) : Encodes (.byteVector bytes)
  | vector {items : List Inspectable} (h : ∀ i ∈ items, Encodes i) : Encodes (.vector items)
  | propertySet {p : PropertySet} (keys : ∀ e ∈ p, (fieldNumber text e.1).isSome)
      (values : ∀ e ∈ p, Encodes e.2) : Encodes (.propertySet p)

end Element

/-! ## The encoder -/

section Encoder

variable {W : Type} (writer : Tlv.Writer W ChipError) (text : TextConversion)

/-- Writes members one after the other. -/
def encodeMembers : List (Tlv.Tag × Inspectable) → W → Except ChipError W
  | [], w => .ok w
  | (tag, value) :: members, w => do
    let w ← encodeInspectable writer text value tag w
    encodeMembers members w

/-- The items of a vector are its members. -/
theorem encodeItems_eq (items : List Inspectable) (w : W) :
    encodeItems writer text items w
      = encodeMembers writer text (items.map (Prod.mk Tlv.Tag.anonymous)) w := by
  induction items generalizing w with
  | nil => rw [encodeItems]; rfl
  | cons item items ih =>
    rw [encodeItems, List.map_cons, encodeMembers]
    exact congrArg _ (funext ih)

/-- What is to be written for an entry. -/
def entryField (e : HString × Inspectable) : UInt8 × (Tlv.Tag → W → Except ChipError W) :=
  (entryNumber text e, encodeInspectable writer text e.2)

/-- **The keys are read before anything is written**: all of them are numbers, or there
are no fields. -/
theorem encodeFields_eq (entries : List (HString × Inspectable)) :
    encodeFields writer text entries
      = if ∀ e ∈ entries, (fieldNumber text e.1).isSome then
          .ok (entries.map (entryField writer text))
        else .error .invalidArgument := by
  induction entries with
  | nil =>
    rw [encodeFields]
    exact (if_pos fun _ he => absurd he List.not_mem_nil).symm
  | cons e entries ih =>
    obtain ⟨key, value⟩ := e
    rw [encodeFields]
    cases hkey : fieldNumber text key with
    | none =>
      refine (if_neg fun h => ?_).symm
      simpa [hkey] using h (key, value) List.mem_cons_self
    | some number =>
      dsimp only
      rw [ih]
      by_cases h : ∀ e ∈ entries, (fieldNumber text e.1).isSome
      · rw [if_pos h, if_pos]
        · simp [entryField, entryNumber, hkey, bind, Except.bind]
        · intro e he
          rcases List.mem_cons.mp he with rfl | he
          · rw [hkey]; rfl
          · exact h e he
      · rw [if_neg h, if_neg fun h' => h fun e he => h' e (List.mem_cons_of_mem _ he)]
        rfl

/-- The fields are written in the order of their numbers. -/
theorem writeFields_eq (entries : List (HString × Inspectable)) (w : W) :
    writeFields (entries.map (entryField writer text)) w
      = encodeMembers writer text (entries.map (entryMember text)) w := by
  induction entries generalizing w with
  | nil => rfl
  | cons e entries ih =>
    rw [List.map_cons, List.map_cons, entryField, writeFields, entryMember, encodeMembers]
    exact congrArg _ (funext ih)

/-- Sorting the fields sorts the entries. -/
theorem sort_entryField (entries : List (HString × Inspectable)) :
    (entries.map (entryField writer text)).insertionSort fieldOrder
      = (ascendingEntries text entries).map (entryField writer text) :=
  (List.map_insertionSort (fun e e' => entryNumber text e ≤ entryNumber text e') fieldOrder
    (entryField writer text) entries fun _ _ _ _ => Iff.rfl).symm

variable {writer text} {tokens : W → List Tlv.Token} {capacity : W → ℕ} {size : Tlv.Token → ℕ}

/-- **A value is written**: where the encoder returns, the value has an element and
its tokens have been written. -/
def IsWritten (writer : Tlv.Writer W ChipError) (text : TextConversion)
    (tokens : W → List Tlv.Token) (capacity : W → ℕ) (v : Inspectable) : Prop :=
  ∀ {tag w w'}, encodeInspectable writer text v tag w = .ok w' →
    Encodes text v ∧ tokens w' = tokens w ++ (valueElement text v).tokens tag ∧
      capacity w' = capacity w

/-- Members that are written one after the other. -/
theorem encodeMembers_written {members : List (Tlv.Tag × Inspectable)}
    (values : ∀ m ∈ members, IsWritten writer text tokens capacity m.2) {w w' : W}
    (h : encodeMembers writer text members w = .ok w') :
    (∀ m ∈ members, Encodes text m.2) ∧
      tokens w' = tokens w ++ Tlv.membersTokens (members.map (memberElement text)) ∧
      capacity w' = capacity w := by
  induction members generalizing w with
  | nil =>
    cases h
    exact ⟨fun _ hm => absurd hm List.not_mem_nil, (List.append_nil _).symm, rfl⟩
  | cons m members ih =>
    obtain ⟨tag, v⟩ := m
    obtain ⟨w₁, hvalue, hloop⟩ := Except.bind_ok_iff.mp h
    obtain ⟨hv, htokens, hcapacity⟩ := values (tag, v) List.mem_cons_self hvalue
    obtain ⟨hvs, htokens', hcapacity'⟩ :=
      ih (fun m hm => values m (List.mem_cons_of_mem _ hm)) hloop
    refine ⟨fun m hm => ?_, ?_, hcapacity'.trans hcapacity⟩
    · rcases List.mem_cons.mp hm with rfl | hm
      · exact hv
      · exact hvs m hm
    · rw [htokens', htokens, List.map_cons, memberElement, Tlv.membersTokens, List.append_assoc]

/-- A scalar that is written. -/
theorem put_written (hwriter : writer.Faithful size capacity tokens) {tag : Tlv.Tag}
    {s : Tlv.Scalar} {w w' : W} (h : writer.put tag s w = .ok w') :
    tokens w' = tokens w ++ (Tlv.Element.scalar s).tokens tag ∧ capacity w' = capacity w := by
  rw [Tlv.Element.tokens]
  exact hwriter.put h

/-- A container that is written around its members. -/
theorem container_written (hwriter : writer.Faithful size capacity tokens) {tag : Tlv.Tag}
    {k : Tlv.Container} {members : List (Tlv.Tag × Inspectable)}
    (values : ∀ m ∈ members, IsWritten writer text tokens capacity m.2)
    {w w₁ w₂ w' : W} {within : Option Tlv.Container}
    (hstart : writer.startContainer tag k w = .ok (within, w₁))
    (hmembers : encodeMembers writer text members w₁ = .ok w₂)
    (hend : writer.endContainer within w₂ = .ok w') :
    (∀ m ∈ members, Encodes text m.2) ∧
      tokens w' = tokens w
        ++ (Tlv.Element.container k (members.map (memberElement text))).tokens tag ∧
      capacity w' = capacity w := by
  obtain ⟨-, htokens₁, hcapacity₁⟩ := hwriter.start hstart
  obtain ⟨hvalues, htokens₂, hcapacity₂⟩ := encodeMembers_written values hmembers
  obtain ⟨htokens', hcapacity'⟩ := hwriter.finish hend
  refine ⟨hvalues, ?_, by rw [hcapacity', hcapacity₂, hcapacity₁]⟩
  rw [htokens', htokens₂, htokens₁, Tlv.Element.tokens]
  simp only [List.append_assoc, List.cons_append, List.nil_append]

/-- The entries of a property set are those in ascending order. -/
theorem mem_ascendingEntries {entries : List (HString × Inspectable)}
    {e : HString × Inspectable} : e ∈ ascendingEntries text entries ↔ e ∈ entries :=
  List.mem_insertionSort _

/-- **What the encoder writes is the element of the value.** -/
theorem encodeInspectable_written (hwriter : writer.Faithful size capacity tokens)
    (v : Inspectable) : IsWritten writer text tokens capacity v := by
  induction v using Inspectable.induct with
  | null =>
    intro tag w w' h
    rw [encodeInspectable] at h
    exact ⟨.null, by rw [valueElement]; exact put_written hwriter h⟩
  | value v =>
    intro tag w w' h
    rw [encodeInspectable] at h
    rw [valueElement]
    cases hs : v.toScalar text with
    | none =>
      rw [hs] at h
      cases h
    | some s =>
      rw [hs] at h
      exact ⟨.value (by rw [hs]; rfl), put_written hwriter h⟩
  | byteVector bytes =>
    intro tag w w' h
    rw [encodeInspectable] at h
    exact ⟨.byteVector bytes, by rw [valueElement]; exact put_written hwriter h⟩
  | vector items ih =>
    intro tag w w' h
    rw [encodeInspectable] at h
    obtain ⟨⟨within, w₁⟩, hstart, h⟩ := Except.bind_ok_iff.mp h
    obtain ⟨w₂, hitems, hend⟩ := Except.bind_ok_iff.mp h
    rw [encodeItems_eq] at hitems
    obtain ⟨hvalues, htokens⟩ := container_written hwriter (fun m hm => by
      obtain ⟨i, hi, rfl⟩ := List.mem_map.mp hm
      exact ih i hi) hstart hitems hend
    refine ⟨.vector fun i hi => hvalues (.anonymous, i) (List.mem_map_of_mem hi), ?_⟩
    rw [valueElement, itemElements_eq]
    exact htokens
  | propertySet entries ih =>
    intro tag w w' h
    rw [encodeInspectable] at h
    obtain ⟨⟨within, w₁⟩, hstart, h⟩ := Except.bind_ok_iff.mp h
    obtain ⟨fields, hfields, h⟩ := Except.bind_ok_iff.mp h
    obtain ⟨w₂, hwrite, hend⟩ := Except.bind_ok_iff.mp h
    rw [encodeFields_eq] at hfields
    by_cases hkeys : ∀ e ∈ entries, (fieldNumber text e.1).isSome
    · rw [if_pos hkeys] at hfields
      obtain rfl := Except.ok.inj hfields
      rw [sort_entryField, writeFields_eq] at hwrite
      obtain ⟨hvalues, htokens⟩ := container_written hwriter (fun m hm => by
        obtain ⟨e, he, rfl⟩ := List.mem_map.mp hm
        exact ih e (mem_ascendingEntries.mp he)) hstart hwrite hend
      refine ⟨.propertySet hkeys fun e he =>
        hvalues (entryMember text e) (List.mem_map_of_mem (mem_ascendingEntries.mpr he)), ?_⟩
      rw [valueElement, ascending_fieldElements]
      exact htokens
    · rw [if_neg hkeys] at hfields
      cases hfields
  | other =>
    intro tag w w' h
    rw [encodeInspectable] at h
    cases h

/-- **A value can be written**: where the container admits its tag and the buffer has
the room for its tokens, the encoder returns. -/
def IsWritable (writer : Tlv.Writer W ChipError) (text : TextConversion)
    (tokens : W → List Tlv.Token) (capacity : W → ℕ) (size : Tlv.Token → ℕ)
    (v : Inspectable) : Prop :=
  ∀ {tag : Tlv.Tag} {w}, tag.allowedIn (Tlv.openContainers (tokens w)).head? = true →
    Tlv.room size (tokens w ++ (valueElement text v).tokens tag) ≤ capacity w →
    ∃ w', encodeInspectable writer text v tag w = .ok w'

/-- Members can be written one after the other, in the room of their tokens. -/
theorem encodeMembers_ok (hwriter : writer.Faithful size capacity tokens)
    {members : List (Tlv.Tag × Inspectable)} {k : Option Tlv.Container}
    (tags : ∀ m ∈ members, m.1.allowedIn k = true)
    (values : ∀ m ∈ members, IsWritable writer text tokens capacity size m.2) {w : W}
    (hk : (Tlv.openContainers (tokens w)).head? = k)
    (hroom : Tlv.room size (tokens w)
      + Tlv.bytes size (Tlv.membersTokens (members.map (memberElement text))) ≤ capacity w) :
    ∃ w', encodeMembers writer text members w = .ok w' := by
  induction members generalizing w with
  | nil => exact ⟨w, rfl⟩
  | cons m members ih =>
    obtain ⟨tag, v⟩ := m
    rw [List.map_cons, memberElement, Tlv.bytes_members_cons] at hroom
    dsimp only at hroom
    have hv : Tlv.room size (tokens w ++ (valueElement text v).tokens tag) ≤ capacity w := by
      rw [Tlv.room_append_tokens]
      omega
    obtain ⟨w₁, hvalue⟩ := values (tag, v) List.mem_cons_self
      (by rw [hk]; exact tags (tag, v) List.mem_cons_self) hv
    obtain ⟨-, htokens, hcapacity⟩ := encodeInspectable_written hwriter v hvalue
    obtain ⟨w', hloop⟩ := ih (fun m hm => tags m (List.mem_cons_of_mem _ hm))
      (fun m hm => values m (List.mem_cons_of_mem _ hm)) (w := w₁)
      (by rw [htokens, Tlv.openContainers_append_tokens, hk])
      (by rw [htokens, Tlv.room_append_tokens, hcapacity]; omega)
    exact ⟨w', Except.bind_ok_iff.mpr ⟨w₁, hvalue, hloop⟩⟩

/-- **A container can be written** around members it admits. -/
theorem container_ok (hwriter : writer.Faithful size capacity tokens) {tag : Tlv.Tag}
    {k : Tlv.Container} {members : List (Tlv.Tag × Inspectable)}
    (tags : ∀ m ∈ members, m.1.allowedIn (some k) = true)
    (values : ∀ m ∈ members, IsWritable writer text tokens capacity size m.2) {w : W}
    (htag : tag.allowedIn (Tlv.openContainers (tokens w)).head? = true)
    (hroom : Tlv.room size (tokens w
      ++ (Tlv.Element.container k (members.map (memberElement text))).tokens tag) ≤ capacity w) :
    ∃ within w₁ w₂ w', writer.startContainer tag k w = .ok (within, w₁) ∧
      encodeMembers writer text members w₁ = .ok w₂ ∧
      writer.endContainer within w₂ = .ok w' := by
  rw [Tlv.room_append_tokens, Tlv.bytes_container] at hroom
  obtain ⟨⟨within, w₁⟩, hstart⟩ := hwriter.start_ok (k := k) htag
    (by rw [Tlv.room_concat_start]; omega)
  obtain ⟨rfl, htokens₁, hcapacity₁⟩ := hwriter.start hstart
  have hopen₁ : Tlv.openContainers (tokens w₁) = k :: Tlv.openContainers (tokens w) := by
    rw [htokens₁, Tlv.openContainers_concat_start]
  obtain ⟨w₂, hmembers⟩ := encodeMembers_ok hwriter tags values (w := w₁)
    (by rw [hopen₁, List.head?_cons])
    (by rw [htokens₁, Tlv.room_concat_start, hcapacity₁]; omega)
  obtain ⟨-, htokens₂, hcapacity₂⟩ := encodeMembers_written
    (fun m _ => encodeInspectable_written hwriter m.2) hmembers
  have hopen₂ : Tlv.openContainers (tokens w₂) = k :: Tlv.openContainers (tokens w) := by
    rw [htokens₂, Tlv.openContainers_append_members
      (fun m _ ts tag => Tlv.openContainers_append_tokens m.2 ts tag), hopen₁]
  obtain ⟨w', hend⟩ := hwriter.finish_ok hopen₂ (by
    rw [Tlv.room_concat_finish size hopen₂, Tlv.room, hopen₂, htokens₂, Tlv.bytes_append,
      hcapacity₂, hcapacity₁]
    rw [← hopen₁, Nat.add_right_comm, ← Tlv.room, htokens₁, Tlv.room_concat_start]
    omega)
  exact ⟨_, w₁, w₂, w', hstart, hmembers, hend⟩

/-- **The encoder writes every value that has an element**, where there is room. -/
theorem encodeInspectable_ok (hwriter : writer.Faithful size capacity tokens)
    {v : Inspectable} (hv : Encodes text v) :
    IsWritable writer text tokens capacity size v := by
  induction hv with
  | null =>
    intro tag w htag hroom
    rw [valueElement, Tlv.Element.tokens] at hroom
    rw [encodeInspectable]
    exact hwriter.put_ok htag hroom
  | @value v hs =>
    intro tag w htag hroom
    obtain ⟨s, hs⟩ := Option.isSome_iff_exists.mp hs
    rw [valueElement, hs, Option.getD_some, Tlv.Element.tokens] at hroom
    rw [encodeInspectable, hs]
    exact hwriter.put_ok htag hroom
  | byteVector bytes =>
    intro tag w htag hroom
    rw [valueElement, Tlv.Element.tokens] at hroom
    rw [encodeInspectable]
    exact hwriter.put_ok htag hroom
  | @vector items hitems ih =>
    intro tag w htag hroom
    rw [valueElement, itemElements_eq] at hroom
    obtain ⟨within, w₁, w₂, w', hstart, hmembers, hend⟩ := container_ok hwriter
      (fun m hm => by
        obtain ⟨i, -, rfl⟩ := List.mem_map.mp hm
        rfl)
      (fun m hm => by
        obtain ⟨i, hi, rfl⟩ := List.mem_map.mp hm
        exact ih i hi) htag hroom
    rw [encodeInspectable]
    exact ⟨w', Except.bind_ok_iff.mpr ⟨_, hstart,
      Except.bind_ok_iff.mpr ⟨w₂, (encodeItems_eq writer text items w₁).trans hmembers, hend⟩⟩⟩
  | @propertySet p hkeys hvalues ih =>
    intro tag w htag hroom
    rw [valueElement, ascending_fieldElements] at hroom
    obtain ⟨within, w₁, w₂, w', hstart, hmembers, hend⟩ := container_ok hwriter
      (fun m hm => by
        obtain ⟨e, -, rfl⟩ := List.mem_map.mp hm
        rfl)
      (fun m hm => by
        obtain ⟨e, he, rfl⟩ := List.mem_map.mp hm
        exact ih e (mem_ascendingEntries.mp he)) htag hroom
    have hfields : encodeFields writer text p = .ok (p.map (entryField writer text)) := by
      rw [encodeFields_eq, if_pos hkeys]
    have hwrite : writeFields ((p.map (entryField writer text)).insertionSort fieldOrder) w₁
        = .ok w₂ := by
      rw [sort_entryField, writeFields_eq]
      exact hmembers
    rw [encodeInspectable]
    exact ⟨w', Except.bind_ok_iff.mpr ⟨_, hstart, Except.bind_ok_iff.mpr ⟨_, hfields,
      Except.bind_ok_iff.mpr ⟨w₂, hwrite, hend⟩⟩⟩⟩

end Encoder
