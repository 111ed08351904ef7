import NodeTelemetry.Toml.Scalar
import NodeTelemetry.Toml.Table

/-!
# The statements of a document

A document is a list of statements, each on lines of its own: a key with a
value, or the header of a section. Lists may spread over lines and hold
comments; tables between braces may not.
-/

namespace NodeTelemetry.Toml

/-- How deep values may lie in one another, and how many parts a dotted key may have. -/
def maxDepth : Nat := 79

/-! ## Space between things -/

/-- The text behind spaces, line ends and comments; none when a comment holds a control character. -/
def dropGap (inComment : Bool) : List Char → Option (List Char)
  | [] => some []
  | '\n' :: rest => dropGap false rest
  | '\r' :: '\n' :: rest => dropGap false rest
  | c :: rest =>
    if inComment then (if isPlain c then dropGap true rest else none)
    else if Text.isSpace c then dropGap false rest
    else if c = '#' then dropGap true rest
    else some (c :: rest)

/-- The text behind the end of a line; none when something other than a comment comes first. -/
def dropLineEnd (s : List Char) : Option (List Char) :=
  let stop : List Char → Option (List Char)
    | [] => some []
    | '\n' :: rest => some rest
    | '\r' :: '\n' :: rest => some rest
    | _ => none
  match dropSpaces s with
  | '#' :: rest => stop (rest.dropWhile isPlain)
  | s => stop s

/-! ## Keys -/

/-- A character of a key without quotes. -/
def isKeyChar (c : Char) : Bool := c.isAlphanum || c = '_' || c = '-'

/-- One part of a key. -/
def readKeyPart (s : List Char) : Option (String × List Char) :=
  match s with
  | '"' :: _ => readShortText s
  | '\'' :: _ => readShortText s
  | _ =>
    let word := s.takeWhile isKeyChar
    if word.isEmpty then none else some (String.ofList word, s.dropWhile isKeyChar)

/-- A key of up to a number of parts with points between them, and the spaces around it. -/
def readKey : Nat → Reader (List String)
  | 0, _ => none
  | parts + 1, s => do
    let (k, s) ← readKeyPart (dropSpaces s)
    match dropSpaces s with
    | '.' :: rest => do
      let (ks, s) ← readKey parts rest
      return (k :: ks, s)
    | s => some ([k], s)

/-! ## Values -/

/-- A key, the sign behind it and its value. -/
def readPair (value : Reader Value) : Reader Pair := fun s => do
  let (path, s) ← readKey maxDepth s
  let s ← expect? '=' s
  let (v, s) ← value (dropSpaces s)
  return (⟨path, v⟩, s)

/-- The rest of a list; a comma may stand behind the last value. `fuel` bounds the values. -/
def readItems (value : Reader Value) : Nat → Reader (List Value)
  | 0, _ => none
  | fuel + 1, s => do
    match ← dropGap false s with
    | ']' :: rest => some ([], rest)
    | s => do
      let (v, s) ← value s
      match ← dropGap false s with
      | ',' :: rest => do
        let (vs, s) ← readItems value fuel rest
        return (v :: vs, s)
      | ']' :: rest => some ([v], rest)
      | _ => none

/-- The rest of a table between braces that is not empty. `fuel` bounds the pairs. -/
def readPairs (value : Reader Value) : Nat → Reader (List Pair)
  | 0, _ => none
  | fuel + 1, s => do
    let (p, s) ← readPair value s
    match dropSpaces s with
    | ',' :: rest => do
      let (ps, s) ← readPairs value fuel rest
      return (p :: ps, s)
    | '\x7d' :: rest => some ([p], rest)
    | _ => none

/-- A value in which others lie up to a depth. Every part takes at least one character, so the length
    of the text bounds the parts. -/
def readValue : Nat → Reader Value
  | 0, s => readScalar s
  | depth + 1, s =>
    match s with
    | '[' :: rest => (readItems (readValue depth) s.length rest).map fun r => (.list r.1, r.2)
    | '\x7b' :: rest =>
      match dropSpaces rest with
      | '\x7d' :: rest => some (.table [], rest)
      | rest => do
        let (ps, rest) ← readPairs (readValue depth) s.length rest
        let v ← ofPairs? ps
        return (v, rest)
    | _ => readScalar s

/-! ## Statements -/

inductive Statement where
  | pair (p : Pair)
  /-- A header; doubled brackets add one more table to those of its name. -/
  | header (isElement : Bool) (path : List String)

/-- A key with its value or a header. -/
def readStatement (s : List Char) : Option (Statement × List Char) :=
  match s with
  | '[' :: '[' :: rest => do
    let (path, s) ← readKey maxDepth rest
    let s ← expect? ']' s
    let s ← expect? ']' s
    return (.header true path, s)
  | '[' :: rest => do
    let (path, s) ← readKey maxDepth rest
    let s ← expect? ']' s
    return (.header false path, s)
  | s => (readPair (readValue maxDepth) s).map fun r => (.pair r.1, r.2)

/-- The statements of a text. `fuel` bounds their number. -/
def readStatements : Nat → List Char → Option (List Statement)
  | 0, _ => none
  | fuel + 1, s => do
    match ← dropGap false s with
    | [] => some []
    | s => do
      let (x, s) ← readStatement s
      let s ← dropLineEnd s
      let xs ← readStatements fuel s
      return x :: xs

end NodeTelemetry.Toml
