import NodeTelemetry.Number.Reader
import NodeTelemetry.Text.Hex
import NodeTelemetry.Toml.Quoted

/-!
# Values without parts

Texts, and everything that is written as one bare word: integers in four bases,
numbers, the two flags and moments. A word is read as a whole; one that fits no
form is refused.
-/

namespace NodeTelemetry.Toml

/-! ## Numbers -/

/-- Digits with single underscores between some of them; at least one digit. -/
def groupedDigits? (isDigit : Char → Bool) : List Char → Option (List Char)
  | [] => none
  | [c] => if isDigit c then some [c] else none
  | c :: '_' :: rest => if isDigit c then (groupedDigits? isDigit rest).map (c :: ·) else none
  | c :: rest => if isDigit c then (groupedDigits? isDigit rest).map (c :: ·) else none

/-- Grouped decimal digits without needless zeros in front. -/
def wholeDigits? (s : List Char) : Option (List Char) :=
  match groupedDigits? Text.isDecimal s with
  | some ['0'] => some ['0']
  | some ('0' :: _) => none
  | ds => ds

/-- The number of grouped digits in a base. -/
def naturalIn? (base : Nat) (s : List Char) : Option Nat :=
  let isDigit (c : Char) : Bool := (Text.hexValue? c).any (· < base)
  (groupedDigits? isDigit s).map (Text.valueIn base fun c => (Text.hexValue? c).getD 0)

/-- An integer of 64 bits; a base other than ten is marked and takes no sign. -/
def readInteger? : List Char → Option Int
  | '0' :: 'x' :: rest => (naturalIn? 16 rest).bind fun n => Text.asInt64? n
  | '0' :: 'o' :: rest => (naturalIn? 8 rest).bind fun n => Text.asInt64? n
  | '0' :: 'b' :: rest => (naturalIn? 2 rest).bind fun n => Text.asInt64? n
  | s =>
    let (negative, ds) := Text.unsigned s
    (wholeDigits? ds).bind fun ds =>
      Text.asInt64? (Text.signed negative (Text.valueIn 10 Text.decimalValue ds))

/-- A character of grouped decimal digits. -/
def isGrouped (c : Char) : Bool := Text.isDecimal c || c = '_'

/-- Grouped digits behind a point, if there is a point, and what follows. -/
def readFraction (s : List Char) : Option (Option (List Char) × List Char) :=
  match s with
  | '.' :: rest =>
    (groupedDigits? Text.isDecimal (rest.takeWhile isGrouped)).map fun ds => (some ds, rest.dropWhile isGrouped)
  | s => some (none, s)

/-- An exponent that ends the word, if there is one. -/
def readExponent (s : List Char) : Option (Option Int) :=
  match s with
  | [] => some none
  | mark :: rest =>
    if mark = 'e' ∨ mark = 'E' then
      let (negative, ds) := Text.unsigned rest
      (groupedDigits? Text.isDecimal ds).map fun ds =>
        some (Text.signed negative (Text.valueIn 10 Text.decimalValue ds))
    else none

/-- A number with a fraction or an exponent, or a word for infinity or no number. A number that is too
    large is refused; far below zero it becomes infinite. -/
def readNumber? (s : List Char) : Option Binary64 := do
  let (negative, body) := Text.unsigned s
  if body = ['i', 'n', 'f'] then return .infinite negative
  if body = ['n', 'a', 'n'] then return .nan
  let whole ← wholeDigits? (body.takeWhile isGrouped)
  let (fraction, rest) ← readFraction (body.dropWhile isGrouped)
  let exponent ← readExponent rest
  if fraction.isNone && exponent.isNone then none
  else
    let x := Binary64.ofParts negative whole (fraction.getD []) (exponent.getD 0)
    if x = .infinite false then none else some x

/-! ## Words -/

/-- A character of a bare word: a letter or a digit of ASCII, a sign, an underscore, a point or a colon. -/
def isWordChar (c : Char) : Bool := c.isAlphanum || "+-_.:".toList.contains c

def ofWord? (s : List Char) : Option Value :=
  if s = ['t', 'r', 'u', 'e'] then some (.flag true)
  else if s = ['f', 'a', 'l', 's', 'e'] then some (.flag false)
  else match Moment.read? s with
    | some m => some (.moment m)
    | none =>
      match readNumber? s with
      | some x => some (.number x)
      | none => (readInteger? s).map .integer

/-- Whether a time goes on behind the space that follows a date. -/
def continuesDate (word rest : List Char) : Bool :=
  match readDate? word, rest with
  | some (_, []), ' ' :: c :: _ => Text.isDecimal c
  | _, _ => false

/-- A bare word; a date and a time with a space between them are one word. -/
def readWord : Reader Value := fun s =>
  let word := s.takeWhile isWordChar
  let rest := s.dropWhile isWordChar
  if continuesDate word rest then
    let behind := rest.drop 1
    (ofWord? (word ++ 'T' :: behind.takeWhile isWordChar)).map fun v => (v, behind.dropWhile isWordChar)
  else (ofWord? word).map fun v => (v, rest)

def readScalar : Reader Value
  | c :: rest =>
    if c = '"' ∨ c = '\'' then (readText (c :: rest)).map fun r => (.text r.1, r.2)
    else readWord (c :: rest)
  | [] => none

end NodeTelemetry.Toml
