import NodeTelemetry.Text.Hex
import NodeTelemetry.Toml.Basic

/-!
# Texts in quotes

Four forms: between double quotes, with escapes, or between single quotes, as
they are; on one line or, between triple quotes, on several. The readers here
start behind the opening quotes and end behind the closing ones.
-/

namespace NodeTelemetry.Toml

/-- The character whose number is written in base 16. -/
def charOfHex? (ds : List Char) : Option Char := do
  let values ← ds.mapM Text.hexValue?
  let n := values.foldl (fun n v => n * 16 + v) 0
  if n.isValidChar then some (Char.ofNat n) else none

/-- The character that a letter behind a backslash stands for. -/
def charOfEscape? : Char → Option Char
  | 'b' => some '\x08'
  | 't' => some '\t'
  | 'n' => some '\n'
  | 'f' => some '\x0c'
  | 'r' => some '\r'
  | '"' => some '"'
  | '\\' => some '\\'
  | _ => none

/-- A character in front of a text that was read. -/
def push (c : Char) (r : Option (List Char × List Char)) : Option (List Char × List Char) :=
  r.map fun r => (c :: r.1, r.2)

/-- A character in front of a text that was read, if there is one. -/
def push? (c : Option Char) (r : Option (List Char × List Char)) : Option (List Char × List Char) :=
  c.bind fun c => push c r

/-- The rest of a text between double quotes on one line. -/
def readBasic : List Char → Option (List Char × List Char)
  | [] => none
  | '"' :: rest => some ([], rest)
  | '\\' :: 'u' :: a :: b :: c :: d :: rest => push? (charOfHex? [a, b, c, d]) (readBasic rest)
  | '\\' :: 'U' :: a :: b :: c :: d :: e :: f :: g :: h :: rest =>
    push? (charOfHex? [a, b, c, d, e, f, g, h]) (readBasic rest)
  | '\\' :: c :: rest => push? (charOfEscape? c) (readBasic rest)
  | c :: rest => if isPlain c then push c (readBasic rest) else none

/-- The rest of a text between single quotes on one line. -/
def readLiteral : List Char → Option (List Char × List Char)
  | [] => none
  | '\'' :: rest => some ([], rest)
  | c :: rest => if isPlain c then push c (readLiteral rest) else none

/-- The end of a text between triple quotes, behind three of them: up to two more belong to the text. -/
def closing (quote : Char) : List Char → List Char × List Char
  | a :: b :: rest =>
    if a = quote then (if b = quote then ([quote, quote], rest) else ([quote], b :: rest)) else ([], a :: b :: rest)
  | [a] => if a = quote then ([quote], []) else ([], [a])
  | [] => ([], [])

/-- Where a reader of several lines stands: in the text, behind a backslash that must meet the end
    of its line, or in the blank space that follows such an end and does not count. -/
inductive Fold where
  | none
  | opened
  | folding
  deriving DecidableEq, Repr

/-- The rest of a text between triple double quotes. A backslash at the end of a line takes away
    that end and all blank space behind it. -/
def readLongBasic : Fold → List Char → Option (List Char × List Char)
  | _, [] => none
  | fold, '\n' :: rest =>
    if fold = .none then push '\n' (readLongBasic .none rest) else readLongBasic .folding rest
  | fold, '\r' :: '\n' :: rest =>
    if fold = .none then push '\n' (readLongBasic .none rest) else readLongBasic .folding rest
  | .opened, c :: rest => if Text.isSpace c then readLongBasic .opened rest else none
  | _, '"' :: '"' :: '"' :: rest => some (closing '"' rest)
  | _, '\\' :: 'u' :: a :: b :: c :: d :: rest =>
    push? (charOfHex? [a, b, c, d]) (readLongBasic .none rest)
  | _, '\\' :: 'U' :: a :: b :: c :: d :: e :: f :: g :: h :: rest =>
    push? (charOfHex? [a, b, c, d, e, f, g, h]) (readLongBasic .none rest)
  | _, '\\' :: '\n' :: rest => readLongBasic .folding rest
  | _, '\\' :: '\r' :: '\n' :: rest => readLongBasic .folding rest
  | _, '\\' :: c :: rest =>
    if Text.isSpace c then readLongBasic .opened rest else push? (charOfEscape? c) (readLongBasic .none rest)
  | fold, c :: rest =>
    if fold = .folding ∧ Text.isSpace c then readLongBasic .folding rest
    else if isPlain c then push c (readLongBasic .none rest) else none

/-- The rest of a text between triple single quotes. -/
def readLongLiteral : List Char → Option (List Char × List Char)
  | [] => none
  | '\n' :: rest => push '\n' (readLongLiteral rest)
  | '\r' :: '\n' :: rest => push '\n' (readLongLiteral rest)
  | '\'' :: '\'' :: '\'' :: rest => some (closing '\'' rest)
  | c :: rest => if isPlain c then push c (readLongLiteral rest) else none

/-- The text behind a line end at the start, which does not count in texts of several lines. -/
def dropFirstLineEnd : List Char → List Char
  | '\n' :: rest => rest
  | '\r' :: '\n' :: rest => rest
  | s => s

/-- A text in quotes of one line. -/
def readShortText : Reader String
  | '"' :: rest => (readBasic rest).map fun r => (String.ofList r.1, r.2)
  | '\'' :: rest => (readLiteral rest).map fun r => (String.ofList r.1, r.2)
  | _ => none

def readText : Reader String
  | '"' :: '"' :: '"' :: rest =>
    (readLongBasic .none (dropFirstLineEnd rest)).map fun r => (String.ofList r.1, r.2)
  | '\'' :: '\'' :: '\'' :: rest =>
    (readLongLiteral (dropFirstLineEnd rest)).map fun r => (String.ofList r.1, r.2)
  | s => readShortText s

end NodeTelemetry.Toml
