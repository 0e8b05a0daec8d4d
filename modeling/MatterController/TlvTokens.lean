import MatterController.Tlv

/-!
# A reader and a writer of tokens

A pair of a reader and a writer that is faithful (`tokenSdk_faithful`), so that
what is proved of every faithful pair is proved of something. Its buffer is the
list of the tokens itself: the writer accepts a token that the container admits
and the capacity leaves room for, and the reader is its own cursor, over the
elements the tokens make up.
-/

namespace Tlv

/-! ## Elements of tokens -/

/-- What is read of some tokens: the members of the container that is open, and for each
container around it what it was started with and the members before it. -/
abbrev Parsed := List (Tag × Element) × List (Tag × Container × List (Tag × Element))

/-- Takes one token. An end where nothing is open is dropped. -/
def parseToken : Parsed → Token → Parsed
  | (members, outer), .scalar tag s => (members ++ [(tag, .scalar s)], outer)
  | (members, outer), .start tag k => ([], (tag, k, members) :: outer)
  | (members, (tag, k, before) :: outer), .finish =>
    (before ++ [(tag, .container k members)], outer)
  | (members, []), .finish => (members, [])

/-- The elements that some tokens make up. -/
def parse (ts : List Token) : List (Tag × Element) := (ts.foldl parseToken ([], [])).1

/-- The tokens of members parse as the members, where those of each of them do. -/
theorem foldl_parseToken_members {members : List (Tag × Element)}
    (h : ∀ m ∈ members, ∀ tag before outer, (m.2.tokens tag).foldl parseToken (before, outer)
      = (before ++ [(tag, m.2)], outer))
    (before : List (Tag × Element)) (outer : List (Tag × Container × List (Tag × Element))) :
    (membersTokens members).foldl parseToken (before, outer) = (before ++ members, outer) := by
  induction members generalizing before with
  | nil => rw [membersTokens, List.append_nil]; rfl
  | cons m members ih =>
    obtain ⟨tag, e⟩ := m
    rw [membersTokens, List.foldl_append, h (tag, e) List.mem_cons_self,
      ih fun m hm => h m (List.mem_cons_of_mem _ hm), List.append_assoc, List.singleton_append]

/-- **The tokens of an element parse as the element.** -/
theorem foldl_parseToken (e : Element) (tag : Tag) (before : List (Tag × Element))
    (outer : List (Tag × Container × List (Tag × Element))) :
    (e.tokens tag).foldl parseToken (before, outer) = (before ++ [(tag, e)], outer) := by
  induction e using Element.induct generalizing tag before outer with
  | scalar s => rfl
  | container k members ih =>
    rw [Element.tokens, List.foldl_cons, List.foldl_append, parseToken,
      foldl_parseToken_members ih, List.nil_append]
    rfl

theorem parse_tokens (e : Element) (tag : Tag) : parse (e.tokens tag) = [(tag, e)] := by
  rw [parse, foldl_parseToken, List.nil_append]

/-! ## The bytes of a token -/

/-- The bytes of an unsigned number, of one, two, four or eight. -/
def unsignedSize (n : UInt64) : ℕ :=
  if n < 0x100 then 1 else if n < 0x10000 then 2 else if n < 0x100000000 then 4 else 8

/-- The bytes of a signed number. -/
def signedSize (i : Int64) : ℕ :=
  if -0x80 ≤ i ∧ i < 0x80 then 1
  else if -0x8000 ≤ i ∧ i < 0x8000 then 2
  else if -0x80000000 ≤ i ∧ i < 0x80000000 then 4
  else 8

/-- The bytes of some bytes, with those of their length. -/
def stringSize (length : ℕ) : ℕ := unsignedSize (UInt64.ofNat length) + length

/-- The bytes of a tag, without its control byte. -/
def Tag.size : Tag → ℕ
  | .anonymous => 0
  | .context _ => 1
  | .qualified _ => 8

/-- The bytes of a scalar. -/
def Scalar.size : Scalar → ℕ
  | .null => 0
  | .boolean _ => 0
  | .signed i => signedSize i
  | .unsigned n => unsignedSize n
  | .single _ => 4
  | .double _ => 8
  | .utf8String bytes => stringSize bytes.length
  | .byteString bytes => stringSize bytes.length

/-- The bytes of a token: its control byte, its tag and its value. -/
def Token.size : Token → ℕ
  | .scalar tag s => 1 + tag.size + s.size
  | .start tag _ => 1 + tag.size
  | .finish => 1

/-! ## The reader and the writer -/

section TokenSdk

variable {ε : Type} (endOfTlv refused : ε) (promote : UInt32 → UInt64)

/-- The element a cursor stands on, without its tag. -/
def Cursor.element (c : Cursor) : Option Element := c.current.map Prod.snd

/-- **A reader that is its cursor.** -/
def cursorReader : Reader Cursor ε where
  getType c := (c.element.map Element.type).getD .notSpecified
  getTag c := (c.current.map Prod.fst).getD .anonymous
  getBoolean c := match c.element with
    | some (.scalar (.boolean b)) => .ok b
    | _ => .error refused
  getSigned c := match c.element with
    | some (.scalar (.signed i)) => .ok i
    | _ => .error refused
  getUnsigned c := match c.element with
    | some (.scalar (.unsigned n)) => .ok n
    | _ => .error refused
  getDouble c := match c.element with
    | some (.scalar (.single bits)) => .ok (promote bits)
    | some (.scalar (.double bits)) => .ok bits
    | _ => .error refused
  getString c := match c.element with
    | some (.scalar (.utf8String bytes)) => .ok bytes
    | _ => .error refused
  getBytes c := match c.element with
    | some (.scalar (.byteString bytes)) => .ok bytes
    | _ => .error refused
  enterContainer c := match c.element with
    | some (.container k members) =>
      .ok (c.within, ⟨some k, none, members, (c.within, c.rest) :: c.outer⟩)
    | _ => .error refused
  exitContainer within c := match c.outer with
    | (_, rest) :: outer => .ok ⟨within, none, rest, outer⟩
    | [] => .error refused
  next c := match c.rest with
    | m :: rest => (none, { c with current := some m, rest := rest })
    | [] => (some endOfTlv, { c with current := none })

/-- A cursor that stands on a member stands on its element. -/
theorem Cursor.element_of_current {c : Cursor} {tag : Tag} {e : Element}
    (h : c.current = some (tag, e)) : c.element = some e := by
  rw [element, h, Option.map_some]

theorem cursorReader_faithful :
    (cursorReader endOfTlv refused promote).Faithful endOfTlv promote Eq where
  getType {r c tag e} hat h := by
    subst hat
    dsimp only [cursorReader]
    rw [Cursor.element_of_current h, Option.map_some, Option.getD_some]
  getTag {r c tag e} hat h := by
    subst hat
    dsimp only [cursorReader]
    rw [h, Option.map_some, Option.getD_some]
  getBoolean {r c tag b} hat h := by
    subst hat
    dsimp only [cursorReader]
    rw [Cursor.element_of_current h]
  getSigned {r c tag i} hat h := by
    subst hat
    dsimp only [cursorReader]
    rw [Cursor.element_of_current h]
  getUnsigned {r c tag n} hat h := by
    subst hat
    dsimp only [cursorReader]
    rw [Cursor.element_of_current h]
  getSingle {r c tag bits} hat h := by
    subst hat
    dsimp only [cursorReader]
    rw [Cursor.element_of_current h]
  getDouble {r c tag bits} hat h := by
    subst hat
    dsimp only [cursorReader]
    rw [Cursor.element_of_current h]
  getString {r c tag bytes} hat h := by
    subst hat
    dsimp only [cursorReader]
    rw [Cursor.element_of_current h]
  getBytes {r c tag bytes} hat h := by
    subst hat
    dsimp only [cursorReader]
    rw [Cursor.element_of_current h]
  enterContainer {r c tag k members} hat h := by
    subst hat
    refine ⟨_, ?_, rfl⟩
    dsimp only [cursorReader]
    rw [Cursor.element_of_current h]
  exitContainer {r c within rest outer} hat h := by
    subst hat
    refine ⟨_, ?_, rfl⟩
    dsimp only [cursorReader]
    rw [h]
  next_cons {r c m rest} hat h := by
    subst hat
    refine ⟨_, ?_, rfl⟩
    dsimp only [cursorReader]
    rw [h]
  next_nil {r c} hat h := by
    subst hat
    refine ⟨_, ?_, rfl⟩
    dsimp only [cursorReader]
    rw [h]

/-- **A buffer of tokens.** -/
structure TokenBuffer where
  capacity : ℕ
  tokens : List Token := []

/-- Appends a token, where it is admitted and there is room. -/
def TokenBuffer.append (admitted : Bool) (t : Token) (w : TokenBuffer) : Except ε TokenBuffer :=
  if admitted ∧ room Token.size (w.tokens ++ [t]) ≤ w.capacity then
    .ok { w with tokens := w.tokens ++ [t] }
  else .error refused

/-- The container a buffer stands in. -/
def TokenBuffer.within (w : TokenBuffer) : Option Container := (openContainers w.tokens).head?

/-- **A writer that appends tokens.** -/
def tokenWriter : Writer TokenBuffer ε where
  put tag s w := w.append refused (tag.allowedIn w.within) (.scalar tag s)
  startContainer tag k w :=
    (w.append refused (tag.allowedIn w.within) (.start tag k)).map fun w' => (w.within, w')
  endContainer within w := w.append refused
    (w.within.isSome && decide ((openContainers w.tokens).tail.head? = within)) .finish
  finalize w := if w.within = none then .ok w else .error refused

/-- An append that returns has appended. -/
theorem TokenBuffer.append_ok {admitted : Bool} {t : Token} {w w' : TokenBuffer}
    (h : w.append refused admitted t = .ok w') :
    w'.tokens = w.tokens ++ [t] ∧ w'.capacity = w.capacity := by
  unfold append at h
  split at h
  · cases h
    exact ⟨rfl, rfl⟩
  · cases h

/-- An append that is admitted and has room returns. -/
theorem TokenBuffer.append_of_room {admitted : Bool} {t : Token} {w : TokenBuffer}
    (h : admitted = true) (hroom : room Token.size (w.tokens ++ [t]) ≤ w.capacity) :
    w.append refused admitted t = .ok { w with tokens := w.tokens ++ [t] } :=
  if_pos ⟨h, hroom⟩

theorem tokenWriter_faithful :
    (tokenWriter refused).Faithful Token.size TokenBuffer.capacity TokenBuffer.tokens where
  put h := TokenBuffer.append_ok refused h
  put_ok htag hroom := ⟨_, TokenBuffer.append_of_room refused htag hroom⟩
  start {tag k w w' within} h := by
    have h : (w.append refused (tag.allowedIn w.within) (.start tag k)).map
        (fun w' => (w.within, w')) = .ok (within, w') := h
    cases happend : w.append refused (tag.allowedIn w.within) (.start tag k) with
    | error e =>
      rw [happend] at h
      cases h
    | ok w'' =>
      rw [happend] at h
      cases h
      exact ⟨rfl, TokenBuffer.append_ok refused happend⟩
  start_ok {tag k w} htag hroom :=
    ⟨_, congrArg (Except.map _) (TokenBuffer.append_of_room refused htag hroom)⟩
  finish h := TokenBuffer.append_ok refused h
  finish_ok {w k ks} hopen hroom := by
    refine ⟨_, TokenBuffer.append_of_room refused ?_ hroom⟩
    rw [TokenBuffer.within, hopen]
    simp
  finalize {w w'} h := by
    unfold tokenWriter at h
    dsimp only at h
    split at h
    · cases h
      rfl
    · cases h
  finalize_ok {w} hopen := ⟨w, if_pos (by rw [TokenBuffer.within, hopen, List.head?_nil])⟩

/-- **The reader and the writer of tokens.** -/
def tokenSdk : Sdk Cursor TokenBuffer (List Token) ε where
  reader := cursorReader endOfTlv refused promote
  writer := tokenWriter refused
  initWriter n := { capacity := n }
  encoded := TokenBuffer.tokens
  initReader ts := { rest := parse ts }

/-- How its states are to be understood: as they are. -/
def tokenInterpretation : Interpretation Cursor TokenBuffer where
  At := Eq
  tokens := TokenBuffer.tokens
  capacity := TokenBuffer.capacity
  size := Token.size
  promote := promote

/-- **The reader and the writer of tokens are faithful.** -/
theorem tokenSdk_faithful :
    (tokenSdk endOfTlv refused promote).Faithful endOfTlv (tokenInterpretation promote) where
  reader := cursorReader_faithful endOfTlv refused promote
  writer := tokenWriter_faithful refused
  tokens_init _ := rfl
  capacity_init _ := rfl
  read {w tag e} h := by
    show ({ rest := parse w.tokens } : Cursor) = { rest := [(tag, e)] }
    rw [show w.tokens = e.tokens tag from h, parse_tokens]

end TokenSdk

end Tlv
