import NodeTelemetry.Proofs.Json.Layout
import NodeTelemetry.Steps

/-!
# Documents as they are written

A tree is a value of a document with everything that its text decides: the blanks
between tokens, the escapes in texts, the digits of numbers, the order of members.
Every text that is well formed is that of a tree, and no limit is set to depth, to
the size of numbers or to the pairing of surrogates, which the grammar does not
know.

What a text between quotes stands for is said here (`Literal.text?`), and how the
readers of texts and numbers take their parts off the front of what is left.
-/

namespace NodeTelemetry.Json

/-! ## Blanks -/

instance (w : List UInt8) : Decidable (Blanks w) := decidable_of_iff (w.all isSpace = true) List.all_eq_true

structure Gap where
  bytes : List UInt8
  blank : Blanks bytes

def Gap.none : Gap := ⟨[], blanks_nil⟩

/-- Blanks at the end are all that is there. -/
theorem skipSpace_gap (g : Gap) : skipSpace g.bytes = [] := by
  have passed : (g.bytes ++ []).dropWhile isSpace = [] := List.dropWhile_append_of_pos g.blank
  simpa [skipSpace] using passed

/-! ## Texts -/

/-- A digit in base 16; `capital` is of no account below ten. -/
structure HexDigit where
  value : Fin 16
  capital : Bool

def HexDigit.byte (d : HexDigit) : UInt8 :=
  if d.value < 10 then UInt8.ofNat (48 + d.value) else UInt8.ofNat ((if d.capital then 55 else 87) + d.value)

/-- A unit of sixteen bits, by its four digits. -/
structure CodeUnit where
  a : HexDigit
  b : HexDigit
  c : HexDigit
  d : HexDigit

namespace CodeUnit

def value (u : CodeUnit) : Nat := ((u.a.value.val * 16 + u.b.value) * 16 + u.c.value) * 16 + u.d.value

/-- The first half of a character outside the first 65536. -/
def isLeading (u : CodeUnit) : Bool := 0xD800 ≤ u.value && u.value ≤ 0xDBFF

/-- The second half of such a character. -/
def isTrailing (u : CodeUnit) : Bool := 0xDC00 ≤ u.value && u.value ≤ 0xDFFF

/-- The character of two halves. -/
def pair (u v : CodeUnit) : Char := Char.ofNat (0x10000 + (u.value - 0xD800) * 0x400 + (v.value - 0xDC00))

end CodeUnit

/-- The letters behind a backslash that stand for one character. -/
inductive Escape where
  | quote | backslash | slash | backspace | formFeed | lineFeed | carriageReturn | tab

namespace Escape

def letter : Escape → UInt8
  | quote => 34
  | backslash => 92
  | slash => 47
  | backspace => 98
  | formFeed => 102
  | lineFeed => 110
  | carriageReturn => 114
  | tab => 116

def char : Escape → Char
  | quote => '"'
  | backslash => '\\'
  | slash => '/'
  | backspace => '\x08'
  | formFeed => '\x0c'
  | lineFeed => '\n'
  | carriageReturn => '\r'
  | tab => '\t'

end Escape

/-- What may stand between quotes: a character for itself, or an escape. -/
inductive Piece where
  | plain (c : Char) (bare : 32 ≤ c.toNat ∧ c ≠ '"' ∧ c ≠ '\\')
  | escape (e : Escape)
  | unit (u : CodeUnit)

def Piece.bytes : Piece → List UInt8
  | plain c _ => String.utf8EncodeChar c
  | escape e => [92, e.letter]
  | unit u => [92, 117, u.a.byte, u.b.byte, u.c.byte, u.d.byte]

structure Literal where
  pieces : List Piece

namespace Literal

/-- The characters that pieces stand for. A half of a character stands for something only next to the other
    half, in the right order. -/
def chars? : List Piece → Option (List Char)
  | [] => some []
  | .plain c _ :: rest => (chars? rest).map (c :: ·)
  | .escape e :: rest => (chars? rest).map (e.char :: ·)
  | .unit u :: .unit v :: rest =>
    if u.isLeading then (if v.isTrailing then (chars? rest).map (u.pair v :: ·) else none)
    else if u.isTrailing then none
    else (chars? (.unit v :: rest)).map (Char.ofNat u.value :: ·)
  | .unit u :: rest =>
    if u.isLeading || u.isTrailing then none else (chars? rest).map (Char.ofNat u.value :: ·)

def text? (l : Literal) : Option String := (chars? l.pieces).map String.ofList

/-- A text that is written without escapes. -/
def plain (s : String) (bare : s.toList.all (fun c => 32 ≤ c.toNat ∧ c ≠ '"' ∧ c ≠ '\\') = true) : Literal :=
  ⟨s.toList.attach.map fun c => .plain c.1 (of_decide_eq_true (List.all_eq_true.mp bare c.1 c.2))⟩

theorem text?_plain (s : String) (bare : s.toList.all (fun c => 32 ≤ c.toNat ∧ c ≠ '"' ∧ c ≠ '\\') = true) :
    (plain s bare).text? = some s := by
  have chars : ∀ cs : List { c // c ∈ s.toList },
      chars? (cs.map fun c => Piece.plain c.1 (of_decide_eq_true (List.all_eq_true.mp bare c.1 c.2))) =
        some (cs.map Subtype.val) := by
    intro cs
    induction cs with
    | nil => rfl
    | cons c cs ih => simp [chars?, ih]
  simp [text?, plain, chars]

def bytes (l : Literal) : List UInt8 := 34 :: (l.pieces.flatMap Piece.bytes ++ [34])

end Literal

/-! ## Numbers -/

/-- One digit or more. -/
structure Digits where
  bytes : List UInt8
  filled : bytes ≠ []
  decimal : ∀ b ∈ bytes, isDigit b = true

def Digits.value (ds : Digits) : Nat := ds.bytes.foldl (fun n b => n * 10 + digitValue b) 0

inductive Sign where
  | none | plus | minus

def Sign.bytes : Sign → List UInt8
  | none => []
  | plus => [43]
  | minus => [45]

structure Exponent where
  capital : Bool
  sign : Sign
  digits : Digits

def Exponent.bytes (e : Exponent) : List UInt8 := (if e.capital then 69 else 101) :: (e.sign.bytes ++ e.digits.bytes)

structure Numeral where
  negative : Bool
  whole : Digits
  /-- No zero stands in front of other digits. -/
  plain : whole.bytes.head? = some 48 → whole.bytes = [48]
  fraction : Option Digits
  exponent : Option Exponent

namespace Numeral

def fractionBytes (n : Numeral) : List UInt8 := (n.fraction.map fun ds => 46 :: ds.bytes).getD []

def exponentBytes (n : Numeral) : List UInt8 := (n.exponent.map Exponent.bytes).getD []

def bytes (n : Numeral) : List UInt8 :=
  (if n.negative then [45] else []) ++ (n.whole.bytes ++ (n.fractionBytes ++ n.exponentBytes))

end Numeral

/-! ## Values -/

mutual

inductive Tree where
  | null
  | flag (b : Bool)
  | number (n : Numeral)
  | text (l : Literal)
  | list (items : Items)
  | object (members : Members)

/-- The items of a list from one on. The blanks before a comma count only where a comma stands, which is
    before all items but the first. -/
inductive Items where
  | nil (inside : Gap)
  | cons (comma before : Gap) (value : Tree) (rest : Items)

/-- The members of an object from one on. -/
inductive Members where
  | nil (inside : Gap)
  | cons (comma before : Gap) (key : Literal) (colon space : Gap) (value : Tree) (rest : Members)

end

/-- What stands before an item or a member. -/
def between (first : Bool) (comma before : Gap) : List UInt8 :=
  if first then before.bytes else comma.bytes ++ 44 :: before.bytes

mutual

def Tree.bytes : Tree → List UInt8
  | .null => [110, 117, 108, 108]
  | .flag true => [116, 114, 117, 101]
  | .flag false => [102, 97, 108, 115, 101]
  | .number n => n.bytes
  | .text l => l.bytes
  | .list items => 91 :: items.bytes true ++ [93]
  | .object members => 123 :: members.bytes true ++ [125]

def Items.bytes : Bool → Items → List UInt8
  | _, .nil inside => inside.bytes
  | first, .cons comma before value rest => between first comma before ++ (value.bytes ++ rest.bytes false)

def Members.bytes : Bool → Members → List UInt8
  | _, .nil inside => inside.bytes
  | first, .cons comma before key colon space value rest =>
    between first comma before ++
      (key.bytes ++ (colon.bytes ++ 58 :: (space.bytes ++ (value.bytes ++ rest.bytes false))))

end

def Items.toList : Items → List Tree
  | .nil _ => []
  | .cons _ _ value rest => value :: rest.toList

def Members.toList : Members → List (Literal × Tree)
  | .nil _ => []
  | .cons _ _ key _ _ value rest => (key, value) :: rest.toList

/-- Members with the same blanks at all places. -/
def Members.spaced (g : Gap) : List (Literal × Tree) → Members
  | [] => .nil g
  | (key, value) :: rest => .cons g g key g g value (spaced g rest)

theorem Members.toList_spaced (g : Gap) (ms : List (Literal × Tree)) : (spaced g ms).toList = ms := by
  induction ms with
  | nil => rfl
  | cons m ms ih => simp [spaced, toList, ih]

/-! ## Where a token ends -/

/-- What follows digits and is none. -/
def NoDigit (rest : List UInt8) : Prop := ∀ b ∈ rest.head?, isDigit b = false

/-- What follows a number and does not go on with it. -/
def Apart (rest : List UInt8) : Prop := ∀ b ∈ rest.head?, isDigit b = false ∧ b ≠ 46 ∧ isExponentMark b = false

theorem Apart.noDigit {rest : List UInt8} (apart : Apart rest) : NoDigit rest := fun b first => (apart b first).1

theorem noDigit_cons {b : UInt8} (other : isDigit b = false) (rest : List UInt8) : NoDigit (b :: rest) := by
  rintro _ ⟨⟩
  exact other

section

variable (ds : Digits) {rest : List UInt8} (stop : NoDigit rest)

include stop

theorem takeWhile_digits : (ds.bytes ++ rest).takeWhile isDigit = ds.bytes := (Text.span_append ds.decimal stop).1

theorem dropWhile_digits : (ds.bytes ++ rest).dropWhile isDigit = rest := (Text.span_append ds.decimal stop).2

end

namespace Numeral

variable (n : Numeral) {rest : List UInt8} (apart : Apart rest)

/-- The bytes of a number behind its sign. -/
def unsignedBytes : List UInt8 := n.whole.bytes ++ (n.fractionBytes ++ n.exponentBytes)

include apart

/-- Neither a digit nor a point comes where the exponent may. -/
theorem head_exponentBytes : ∀ b ∈ (n.exponentBytes ++ rest).head?, isDigit b = false ∧ b ≠ 46 := by
  unfold exponentBytes
  cases n.exponent with
  | none => exact fun b first => ⟨(apart b first).1, (apart b first).2.1⟩
  | some e =>
    rintro b ⟨⟩
    cases e.capital <;> decide

theorem noDigit_exponentBytes : NoDigit (n.exponentBytes ++ rest) := fun b first =>
  (n.head_exponentBytes apart b first).1

theorem noDigit_fractionBytes : NoDigit (n.fractionBytes ++ (n.exponentBytes ++ rest)) := by
  unfold fractionBytes
  cases n.fraction with
  | none => exact n.noDigit_exponentBytes apart
  | some ds => exact noDigit_cons rfl _

end Numeral

/-- What may follow a value: a blank, a comma or a closing bracket. -/
theorem apart_cons {b : UInt8} (mark : isSpace b = true ∨ b = 44 ∨ b = 93 ∨ b = 125) (rest : List UInt8) :
    Apart (b :: rest) := by
  rintro _ ⟨⟩
  simp only [isSpace, decide_eq_true_eq] at mark
  rcases mark with (rfl | rfl | rfl | rfl) | rfl | rfl | rfl <;> decide

theorem apart_gap (g : Gap) {b : UInt8} (mark : b = 44 ∨ b = 93 ∨ b = 125) (rest : List UInt8) :
    Apart (g.bytes ++ b :: rest) := by
  obtain ⟨bytes, blank⟩ := g
  cases bytes with
  | nil => exact apart_cons (.inr mark) rest
  | cons c bytes => exact apart_cons (.inl (blank c List.mem_cons_self)) _

theorem apart_items (items : Items) (rest : List UInt8) : Apart (items.bytes false ++ 93 :: rest) := by
  cases items with
  | nil inside => exact apart_gap inside (by decide) rest
  | cons comma before value items =>
    simp only [Items.bytes, between, Bool.false_eq_true, if_false, List.append_assoc, List.cons_append]
    exact apart_gap comma (by decide) _

theorem apart_members (members : Members) (rest : List UInt8) : Apart (members.bytes false ++ 125 :: rest) := by
  cases members with
  | nil inside => exact apart_gap inside (by decide) rest
  | cons comma before key colon space value members =>
    simp only [Members.bytes, between, Bool.false_eq_true, if_false, List.append_assoc, List.cons_append]
    exact apart_gap comma (by decide) _

/-! ## How a value begins -/

theorem Digits.first (ds : Digits) : ∃ d more, ds.bytes = d :: more ∧ isDigit d = true := by
  obtain ⟨d, more, bytes⟩ := List.exists_cons_of_ne_nil ds.filled
  exact ⟨d, more, bytes, ds.decimal d (by simp [bytes])⟩

theorem ne_of_isDigit {b c : UInt8} (digit : isDigit b = true) (other : isDigit c = false) : b ≠ c := by
  rintro rfl
  exact absurd digit (by simp [other])

theorem Numeral.bytes_eq (n : Numeral) : n.bytes = (if n.negative then [45] else []) ++ n.unsignedBytes := rfl

/-- The bytes of an unsigned number and what follows begin with a digit. -/
theorem Numeral.exists_unsignedBytes (n : Numeral) (rest : List UInt8) :
    ∃ d more, n.unsignedBytes ++ rest = d :: more ∧ isDigit d = true := by
  obtain ⟨d, more, own, digit⟩ := n.whole.first
  exact ⟨d, _, by rw [unsignedBytes, own]; rfl, digit⟩

theorem Literal.bytes_append (l : Literal) (rest : List UInt8) :
    l.bytes ++ rest = 34 :: (l.pieces.flatMap Piece.bytes ++ 34 :: rest) := by
  simp [Literal.bytes]

/-- What the first byte of a value tells. -/
structure Tree.Opens (t : Tree) (b : UInt8) : Prop where
  ink : isSpace b = false
  inner : b ≠ 93
  null : b = 110 → t = .null
  text : b = 34 → ∃ l, t = .text l
  list : b = 91 → ∃ items, t = .list items

theorem Tree.exists_bytes (t : Tree) : ∃ b more, t.bytes = b :: more ∧ t.Opens b := by
  cases t with
  | null => exact ⟨_, _, rfl, by decide, by decide, fun _ => rfl, nofun, nofun⟩
  | flag b => cases b <;> exact ⟨_, _, rfl, by decide, by decide, nofun, nofun, nofun⟩
  | number n =>
    obtain ⟨d, more, own, digit⟩ := n.exists_unsignedBytes []
    rw [List.append_nil] at own
    cases negative : n.negative with
    | true =>
      exact ⟨45, _, by simp [Tree.bytes, Numeral.bytes_eq, negative]; rfl, by decide, by decide, nofun, nofun, nofun⟩
    | false =>
      have other {c : UInt8} (noDigit : isDigit c = false) : d ≠ c := ne_of_isDigit digit noDigit
      refine ⟨d, more, by simp [Tree.bytes, Numeral.bytes_eq, negative, own], ?_, other rfl,
        fun null => (other rfl null).elim,
        fun quote => (other rfl quote).elim, fun bracket => (other rfl bracket).elim⟩
      simp [isSpace, other (c := 32) rfl, other (c := 9) rfl, other (c := 10) rfl, other (c := 13) rfl]
  | text l => exact ⟨_, _, rfl, by decide, by decide, nofun, fun _ => ⟨l, rfl⟩, nofun⟩
  | list items => exact ⟨91, _, by rw [Tree.bytes]; rfl, by decide, by decide, nofun, nofun, fun _ => ⟨items, rfl⟩⟩
  | object members => exact ⟨123, _, by rw [Tree.bytes]; rfl, by decide, by decide, nofun, nofun, nofun⟩

/-- A list has no more items than bytes. -/
theorem Items.length_le : ∀ (items : Items) (first : Bool), items.toList.length ≤ (items.bytes first).length
  | .nil _, _ => Nat.zero_le _
  | .cons comma before value rest, first => by
    obtain ⟨b, more, own, -⟩ := value.exists_bytes
    have := rest.length_le false
    simp only [Items.toList, Items.bytes, own, List.length_append, List.length_cons]
    omega

/-- An object has no more members than bytes. -/
theorem Members.length_le : ∀ (members : Members) (first : Bool), members.toList.length ≤ (members.bytes first).length
  | .nil _, _ => Nat.zero_le _
  | .cons comma before key colon space value rest, first => by
    have := rest.length_le false
    simp only [Members.toList, Members.bytes, List.length_append, List.length_cons]
    omega

theorem skipSpace_tree (g : Gap) (t : Tree) (rest : List UInt8) :
    skipSpace (g.bytes ++ (t.bytes ++ rest)) = t.bytes ++ rest := by
  obtain ⟨b, more, bytes, opens⟩ := t.exists_bytes
  rw [bytes, List.cons_append, skipSpace_blanks g.blank opens.ink]

end NodeTelemetry.Json
