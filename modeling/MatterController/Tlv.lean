import Mathlib.Algebra.GroupWithZero.Nat
import Mathlib.Data.List.Sort
import Mathlib.Tactic.Common

/-!
# Tag–length–value elements

An element is a scalar or a container of tagged elements. A reader moves over
elements, a writer appends them to a buffer, and both are objects with a state
that a program drives call by call. This module says what such a pair is for
(`Sdk`) and what it means for it to be faithful (`Sdk.Faithful`), so that a
program that reads and writes through it can be verified without its code.

The account of a reader is a `Cursor`: the element it stands on, the elements
that follow in the same container, and what follows in each container around it.
That of a writer is the list of `Token`s it has written. Every call moves these
as its name says. A writer may refuse a call – a full buffer – and is only asked
to accept what the container admits and the buffer has room for, where room
includes the closing of the containers that are open.
-/

namespace Tlv

/-- **A tag**: none, one of a structure's fields, or a qualified one. -/
inductive Tag
  | anonymous
  | context (number : UInt8)
  | qualified (number : UInt32)
  deriving DecidableEq, Repr

/-- The kinds of containers. -/
inductive Container
  | struct
  | array
  | list
  deriving DecidableEq, Repr

/-- **A scalar.** Strings are bytes, and floating-point numbers are their bits. -/
inductive Scalar
  | null
  | boolean (value : Bool)
  | signed (value : Int64)
  | unsigned (value : UInt64)
  | single (bits : UInt32)
  | double (bits : UInt64)
  | utf8String (bytes : List UInt8)
  | byteString (bytes : List UInt8)
  deriving DecidableEq, Repr

/-- **An element**, without its tag. -/
inductive Element
  | scalar (s : Scalar)
  | container (k : Container) (members : List (Tag × Element))

/-- What a reader tells of the kind of the element it stands on. -/
inductive ElementType
  | null
  | boolean
  | signedInteger
  | unsignedInteger
  | floatingPointNumber
  | utf8String
  | byteString
  | container (k : Container)
  | notSpecified
  deriving DecidableEq, Repr

def Scalar.type : Scalar → ElementType
  | .null => .null
  | .boolean _ => .boolean
  | .signed _ => .signedInteger
  | .unsigned _ => .unsignedInteger
  | .single _ => .floatingPointNumber
  | .double _ => .floatingPointNumber
  | .utf8String _ => .utf8String
  | .byteString _ => .byteString

def Element.type : Element → ElementType
  | .scalar s => s.type
  | .container k _ => .container k

/-- Whether a container admits a tag; outside of all containers, a context tag has
no meaning. -/
def Tag.allowedIn : Option Container → Tag → Bool
  | none, .context _ => false
  | none, _ => true
  | some .struct, tag => tag != .anonymous
  | some .array, tag => tag == .anonymous
  | some .list, _ => true

/-- **Induction over elements**: a container may use its members. -/
theorem Element.induct {P : Element → Prop} (scalar : ∀ s, P (.scalar s))
    (container : ∀ k members, (∀ m ∈ members, P m.2) → P (.container k members))
    (e : Element) : P e :=
  @Element.rec P (fun members => ∀ m ∈ members, P m.2) (fun m => P m.2) scalar container
    (fun _ hm => absurd hm List.not_mem_nil)
    (fun _ _ head tail m hm => by
      rcases List.mem_cons.mp hm with rfl | hm
      · exact head
      · exact tail m hm)
    (fun _ _ ih => ih) e

/-! ## The order of members -/

/-- The number of a context tag. -/
def Tag.number : Tag → UInt8
  | .context n => n
  | _ => 0

/-- Some members in ascending order of their numbers. -/
def ascendingMembers (members : List (Tag × Element)) : List (Tag × Element) :=
  members.insertionSort fun m m' => m.1.number ≤ m'.1.number

/-! ## Tokens -/

/-- What a writer writes at a time. -/
inductive Token
  | scalar (tag : Tag) (s : Scalar)
  | start (tag : Tag) (k : Container)
  | finish
  deriving DecidableEq, Repr

mutual

/-- **The tokens of an element.** -/
def Element.tokens (tag : Tag) : Element → List Token
  | .scalar s => [.scalar tag s]
  | .container k members => .start tag k :: (membersTokens members ++ [.finish])

/-- The tokens of the members of a container. -/
def membersTokens : List (Tag × Element) → List Token
  | [] => []
  | (tag, e) :: members => e.tokens tag ++ membersTokens members

end

/-- The containers that are open after some tokens, the innermost first. -/
def openContainers (ts : List Token) : List Container :=
  ts.foldl (fun
    | ks, .scalar _ _ => ks
    | ks, .start _ k => k :: ks
    | ks, .finish => ks.tail) []

@[simp] theorem openContainers_nil : openContainers [] = [] := rfl

@[simp] theorem openContainers_concat_scalar (ts : List Token) (tag : Tag) (s : Scalar) :
    openContainers (ts ++ [.scalar tag s]) = openContainers ts := by
  rw [openContainers, List.foldl_append]
  rfl

@[simp] theorem openContainers_concat_start (ts : List Token) (tag : Tag) (k : Container) :
    openContainers (ts ++ [.start tag k]) = k :: openContainers ts := by
  rw [openContainers, List.foldl_append]
  rfl

@[simp] theorem openContainers_concat_finish (ts : List Token) :
    openContainers (ts ++ [.finish]) = (openContainers ts).tail := by
  rw [openContainers, List.foldl_append]
  rfl

/-- The members of a container leave what is open open, where each of them does. -/
theorem openContainers_append_members {members : List (Tag × Element)}
    (h : ∀ m ∈ members, ∀ ts tag, openContainers (ts ++ m.2.tokens tag) = openContainers ts)
    (ts : List Token) : openContainers (ts ++ membersTokens members) = openContainers ts := by
  induction members generalizing ts with
  | nil => rw [membersTokens, List.append_nil]
  | cons m members ih =>
    obtain ⟨tag, e⟩ := m
    rw [membersTokens, ← List.append_assoc, ih fun m hm => h m (List.mem_cons_of_mem _ hm)]
    exact h (tag, e) List.mem_cons_self ts tag

/-- **An element closes what it opens.** -/
@[simp] theorem openContainers_append_tokens (e : Element) (ts : List Token) (tag : Tag) :
    openContainers (ts ++ e.tokens tag) = openContainers ts := by
  induction e using Element.induct generalizing ts tag with
  | scalar s => exact openContainers_concat_scalar ts tag s
  | container k members ih =>
    have hsplit : ts ++ Element.tokens tag (.container k members)
        = ts ++ [.start tag k] ++ membersTokens members ++ [.finish] := by
      simp [Element.tokens]
    rw [hsplit, openContainers_concat_finish, openContainers_append_members ih,
      openContainers_concat_start, List.tail_cons]

/-- The bytes some tokens take. -/
def bytes (size : Token → ℕ) (ts : List Token) : ℕ := (ts.map size).sum

/-- The bytes some tokens take, with those that close what they leave open. -/
def room (size : Token → ℕ) (ts : List Token) : ℕ :=
  bytes size ts + (openContainers ts).length * size .finish

section Room

variable (size : Token → ℕ)

@[simp] theorem room_nil : room size [] = 0 := by simp [room, bytes]

theorem bytes_append (ts us : List Token) :
    bytes size (ts ++ us) = bytes size ts + bytes size us := by
  rw [bytes, List.map_append, List.sum_append]
  rfl

theorem bytes_members_cons (tag : Tag) (e : Element) (members : List (Tag × Element)) :
    bytes size (membersTokens ((tag, e) :: members))
      = bytes size (e.tokens tag) + bytes size (membersTokens members) := by
  rw [membersTokens, bytes_append]

theorem bytes_container (tag : Tag) (k : Container) (members : List (Tag × Element)) :
    bytes size (Element.tokens tag (.container k members))
      = size (.start tag k) + bytes size (membersTokens members) + size .finish := by
  simp [Element.tokens, bytes, Nat.add_assoc]

/-- An element needs the room of its tokens. -/
theorem room_append_tokens (ts : List Token) (tag : Tag) (e : Element) :
    room size (ts ++ e.tokens tag) = room size ts + bytes size (e.tokens tag) := by
  rw [room, room, openContainers_append_tokens, bytes_append]
  omega

/-- Starting a container also takes the room of its end. -/
theorem room_concat_start (ts : List Token) (tag : Tag) (k : Container) :
    room size (ts ++ [.start tag k])
      = room size ts + size (.start tag k) + size .finish := by
  rw [room, room, openContainers_concat_start, bytes_append, List.length_cons, Nat.succ_mul]
  simp only [bytes, List.map_cons, List.map_nil, List.sum_cons, List.sum_nil]
  omega

/-- Ending a container takes no more room. -/
theorem room_concat_finish {ts : List Token} {k : Container} {ks : List Container}
    (h : openContainers ts = k :: ks) : room size (ts ++ [.finish]) = room size ts := by
  rw [room, room, openContainers_concat_finish, h, bytes_append, List.length_cons,
    List.tail_cons, Nat.succ_mul]
  simp only [bytes, List.map_cons, List.map_nil, List.sum_cons, List.sum_nil]
  omega

end Room

/-! ## Readers -/

/-- **A reader**, with the states `R` and the errors `ε`. Entering a container
returns the kind of the one around it, which leaving it takes back. -/
structure Reader (R ε : Type) where
  getType : R → ElementType
  getTag : R → Tag
  getBoolean : R → Except ε Bool
  getSigned : R → Except ε Int64
  getUnsigned : R → Except ε UInt64
  getDouble : R → Except ε UInt64
  getString : R → Except ε (List UInt8)
  getBytes : R → Except ε (List UInt8)
  enterContainer : R → Except ε (Option Container × R)
  exitContainer : Option Container → R → Except ε R
  /-- Moves to the next element; the state it leaves is there in both cases. -/
  next : R → Option ε × R

/-- **Where a reader stands**: the kind of container around it, the element it
stands on, the elements that follow there, and what follows further out. -/
structure Cursor where
  within : Option Container := none
  current : Option (Tag × Element) := none
  rest : List (Tag × Element) := []
  outer : List (Option Container × List (Tag × Element)) := []

/-- **A faithful reader** stands somewhere (`At`), tells what is there, and moves as
its calls say. Reading a number of single precision as a double promotes it. -/
structure Reader.Faithful {R ε : Type} (reader : Reader R ε) (endOfTlv : ε)
    (promote : UInt32 → UInt64) (At : R → Cursor → Prop) : Prop where
  getType : ∀ {r c tag e}, At r c → c.current = some (tag, e) → reader.getType r = e.type
  getTag : ∀ {r c tag e}, At r c → c.current = some (tag, e) → reader.getTag r = tag
  getBoolean : ∀ {r c tag b}, At r c → c.current = some (tag, .scalar (.boolean b)) →
    reader.getBoolean r = .ok b
  getSigned : ∀ {r c tag i}, At r c → c.current = some (tag, .scalar (.signed i)) →
    reader.getSigned r = .ok i
  getUnsigned : ∀ {r c tag n}, At r c → c.current = some (tag, .scalar (.unsigned n)) →
    reader.getUnsigned r = .ok n
  getSingle : ∀ {r c tag bits}, At r c → c.current = some (tag, .scalar (.single bits)) →
    reader.getDouble r = .ok (promote bits)
  getDouble : ∀ {r c tag bits}, At r c → c.current = some (tag, .scalar (.double bits)) →
    reader.getDouble r = .ok bits
  getString : ∀ {r c tag bytes}, At r c → c.current = some (tag, .scalar (.utf8String bytes)) →
    reader.getString r = .ok bytes
  getBytes : ∀ {r c tag bytes}, At r c → c.current = some (tag, .scalar (.byteString bytes)) →
    reader.getBytes r = .ok bytes
  enterContainer : ∀ {r c tag k members}, At r c →
    c.current = some (tag, .container k members) →
    ∃ r', reader.enterContainer r = .ok (c.within, r') ∧
      At r' ⟨some k, none, members, (c.within, c.rest) :: c.outer⟩
  exitContainer : ∀ {r c within rest outer}, At r c → c.outer = (within, rest) :: outer →
    ∃ r', reader.exitContainer within r = .ok r' ∧ At r' ⟨within, none, rest, outer⟩
  next_cons : ∀ {r c m rest}, At r c → c.rest = m :: rest →
    ∃ r', reader.next r = (none, r') ∧ At r' { c with current := some m, rest := rest }
  next_nil : ∀ {r c}, At r c → c.rest = [] →
    ∃ r', reader.next r = (some endOfTlv, r') ∧ At r' { c with current := none }

/-! ## Writers -/

/-- **A writer**, with the states `W` and the errors `ε`. -/
structure Writer (W ε : Type) where
  put : Tag → Scalar → W → Except ε W
  startContainer : Tag → Container → W → Except ε (Option Container × W)
  endContainer : Option Container → W → Except ε W
  finalize : W → Except ε W

/-- **A faithful writer**: a call that returns has written its token, and one that
the container and the buffer admit returns. -/
structure Writer.Faithful {W ε : Type} (writer : Writer W ε) (size : Token → ℕ)
    (capacity : W → ℕ) (tokens : W → List Token) : Prop where
  put : ∀ {tag s w w'}, writer.put tag s w = .ok w' →
    tokens w' = tokens w ++ [.scalar tag s] ∧ capacity w' = capacity w
  put_ok : ∀ {tag s w}, tag.allowedIn (openContainers (tokens w)).head? = true →
    room size (tokens w ++ [.scalar tag s]) ≤ capacity w → ∃ w', writer.put tag s w = .ok w'
  start : ∀ {tag k w w' within}, writer.startContainer tag k w = .ok (within, w') →
    within = (openContainers (tokens w)).head? ∧
      tokens w' = tokens w ++ [.start tag k] ∧ capacity w' = capacity w
  start_ok : ∀ {tag k w}, tag.allowedIn (openContainers (tokens w)).head? = true →
    room size (tokens w ++ [.start tag k]) ≤ capacity w →
    ∃ r, writer.startContainer tag k w = .ok r
  finish : ∀ {within w w'}, writer.endContainer within w = .ok w' →
    tokens w' = tokens w ++ [.finish] ∧ capacity w' = capacity w
  finish_ok : ∀ {w k ks}, openContainers (tokens w) = k :: ks →
    room size (tokens w ++ [.finish]) ≤ capacity w →
    ∃ w', writer.endContainer ks.head? w = .ok w'
  finalize : ∀ {w w'}, writer.finalize w = .ok w' → tokens w' = tokens w
  finalize_ok : ∀ {w}, openContainers (tokens w) = [] → ∃ w', writer.finalize w = .ok w'

/-! ## Readers and writers of one format -/

/-- **A reader and a writer**, with the encodings `β` that one leaves and the other
reads. -/
structure Sdk (R W β ε : Type) where
  reader : Reader R ε
  writer : Writer W ε
  /-- A writer over a buffer of so many bytes. -/
  initWriter : ℕ → W
  /-- What a writer has written. -/
  encoded : W → β
  /-- A reader in front of the first element. -/
  initReader : β → R

/-- How the states of a reader and a writer are to be understood. -/
structure Interpretation (R W : Type) where
  At : R → Cursor → Prop
  tokens : W → List Token
  capacity : W → ℕ
  size : Token → ℕ
  promote : UInt32 → UInt64

/-- **What was written is read.** -/
structure Sdk.Faithful {R W β ε : Type} (sdk : Sdk R W β ε) (endOfTlv : ε)
    (I : Interpretation R W) : Prop where
  reader : sdk.reader.Faithful endOfTlv I.promote I.At
  writer : sdk.writer.Faithful I.size I.capacity I.tokens
  tokens_init : ∀ n, I.tokens (sdk.initWriter n) = []
  capacity_init : ∀ n, I.capacity (sdk.initWriter n) = n
  read : ∀ {w tag e}, I.tokens w = e.tokens tag →
    I.At (sdk.initReader (sdk.encoded w)) { rest := [(tag, e)] }

end Tlv
