import NodeTelemetry.Config.Setting
import NodeTelemetry.Text.Numeral

/-!
# Paths of keys

A path leads from the top of a configuration to one setting: names with points
between them, and indexes in brackets, as in `server.pro_features[0]`.
-/

namespace NodeTelemetry

inductive KeyStep where
  | name (k : String)
  | index (i : Int)
  deriving DecidableEq, Repr

namespace KeyStep

/-- A character of a name: a letter or a digit of ASCII, a space, an underscore or a hyphen. -/
def isNameChar (c : Char) : Bool := c.isAlphanum || c = ' ' || c = '_' || c = '-'

/-- A name at the front of a text and what follows it. -/
def readName? (s : List Char) : Option (String × List Char) :=
  let word := s.takeWhile isNameChar
  if word.isEmpty then none else some (String.ofList word, s.dropWhile isNameChar)

/-- An index with the spaces around it and the bracket behind it, and what follows. -/
def readIndex? (s : List Char) : Option (Int × List Char) :=
  let s := s.dropWhile Text.isSpace
  let (negative, s) := match s with
    | '-' :: rest => (true, rest)
    | s => (false, s)
  match Text.natural? (s.takeWhile Text.isDecimal), (s.dropWhile Text.isDecimal).dropWhile Text.isSpace with
  | some n, ']' :: rest => (Text.asInt64? (Text.signed negative n)).map fun i => (i, rest)
  | _, _ => none

/-- The steps behind the first name. Every step takes a character, so the length of the text bounds
    their number. -/
def readSteps? : Nat → List Char → Option (List KeyStep)
  | _, [] => some []
  | fuel + 1, '.' :: rest => do
    let (k, rest) ← readName? rest
    let steps ← readSteps? fuel rest
    return name k :: steps
  | fuel + 1, '[' :: rest => do
    let (i, rest) ← readIndex? rest
    let steps ← readSteps? fuel rest
    return index i :: steps
  | _, _ => none

/-- Reads a path; it starts with a name. -/
def readPath? (s : String) : Option (List KeyStep) := do
  let (k, rest) ← readName? s.toList
  let steps ← readSteps? rest.length rest
  return name k :: steps

/-- The path of a key; a key that is no path is one name. -/
def pathOf (key : String) : List KeyStep := (readPath? key).getD [name key]

end KeyStep

/-- The setting with something laid over what stands at the end of a path. Names are looked up without
    regard to case, and an index replaces what it finds. What is missing on the way is made, and what has
    parts of another kind gives way. -/
def Setting.setAt (v : Setting) : List KeyStep → Setting → Setting
  | [], _ => v
  | [.name k], s =>
    let k := Text.lowerCase k
    s.withField k (v.laidOver (s.field? k))
  | [.index i], s => s.withItem i v
  | .name k :: path, s =>
    let k := Text.lowerCase k
    s.withField k (setAt v path ((s.field? k).getD unset))
  | .index i :: path, s => s.withItem i (setAt v path (s.items[place s.items.length i]?.getD unset))

/-- The names of a path count without regard to case. -/
theorem Setting.setAt_name_congr {k l : String} (h : Text.lowerCase k = Text.lowerCase l) (v : Setting)
    (path : List KeyStep) (s : Setting) : setAt v (.name k :: path) s = setAt v (.name l :: path) s := by
  cases path with
  | nil => simp [setAt, h]
  | cons step path => simp [setAt, h]

/-- A configuration with the settings of one more source laid over it, key by key. -/
def Setting.addLayer (s : Setting) (layer : List (String × Setting)) : Setting :=
  layer.foldl (fun s entry => setAt entry.2 (KeyStep.pathOf entry.1) s) s

end NodeTelemetry
