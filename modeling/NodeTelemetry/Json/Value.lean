import NodeTelemetry.Json.Scan

/-!
# Values of a document

A value that is asked for is read as a whole, with a limit on how many brackets
may be open at once. The steps from one item of a list to the next and from one
key of an object to the next are shared with the readers of records.
-/

namespace NodeTelemetry.Json

inductive Value where
  | null
  | flag (b : Bool)
  | number (n : Number)
  | text (s : String)
  | list (items : List Value)
  | object (members : List (String × Value))
  deriving Repr

/-- How many brackets may be open at once. -/
def maxDepth : Nat := 127

/-- Moves to the next item of a list; says whether there is one. -/
def nextItem (first : Bool) (s : List UInt8) : Except Fault (Bool × List UInt8) :=
  match skipSpace s with
  | [] => .error .endInList
  | b :: rest =>
    if b = 93 then .ok (false, rest)
    else if first then .ok (true, b :: rest)
    else if b = 44 then
      match skipSpace rest with
      | [] => .error .endInValue
      | c :: rest => if c = 93 then .error .trailingComma else .ok (true, c :: rest)
    else .error .expectedListEnd

/-- Moves to the next member of an object and reads its key, if there is one. -/
def nextKey (first : Bool) (s : List UInt8) : Except Fault (Option String × List UInt8) :=
  match skipSpace s with
  | [] => .error .endInObject
  | b :: rest =>
    if b = 125 then .ok (none, rest)
    else if first then
      if b = 34 then do
        let (key, rest) ← readText rest
        return (some key, rest)
      else .error .keyNotString
    else if b = 44 then
      match skipSpace rest with
      | [] => .error .endInValue
      | c :: rest =>
        if c = 34 then do
          let (key, rest) ← readText rest
          return (some key, rest)
        else if c = 125 then .error .trailingComma
        else .error .keyNotString
    else .error .expectedObjectEnd

/-- Reads the colon between a key and its value. -/
def readColon (s : List UInt8) : Except Fault (List UInt8) :=
  match skipSpace s with
  | [] => .error .endInObject
  | b :: rest => if b = 58 then .ok rest else .error .expectedColon

mutual

/-- Reads a value; `room` is how many brackets may still be opened. -/
def readValueWith : Nat → Nat → List UInt8 → Except Fault (Value × List UInt8)
  | 0, _, _ => .error .endInValue
  | fuel + 1, room, s =>
    match skipSpace s with
    | [] => .error .endInValue
    | b :: rest =>
      if b = 34 then do
        let (text, rest) ← readText rest
        return (.text text, rest)
      else if b = 45 then do
        let (n, rest) ← readNumber true rest
        return (.number n, rest)
      else if isDigit b then do
        let (n, rest) ← readNumber false (b :: rest)
        return (.number n, rest)
      else if b = 110 then do return (.null, ← readWord wordNull rest)
      else if b = 116 then do return (.flag true, ← readWord wordTrue rest)
      else if b = 102 then do return (.flag false, ← readWord wordFalse rest)
      else if b = 91 then
        match room with
        | 0 => .error .tooDeep
        | room + 1 => do
          let (items, rest) ← readItems fuel room true [] rest
          return (.list items, rest)
      else if b = 123 then
        match room with
        | 0 => .error .tooDeep
        | room + 1 => do
          let (members, rest) ← readMembers fuel room true [] rest
          return (.object members, rest)
      else .error .expectedValue

/-- Reads the items of a list up to its closing bracket; `before` are those read, the last one first. -/
def readItems : Nat → Nat → Bool → List Value → List UInt8 → Except Fault (List Value × List UInt8)
  | 0, _, _, _, _ => .error .endInList
  | fuel + 1, room, first, before, s => do
    let (more, rest) ← nextItem first s
    if more then
      let (item, rest) ← readValueWith fuel room rest
      readItems fuel room false (item :: before) rest
    else return (before.reverse, rest)

/-- Reads the members of an object up to its closing bracket; `before` are those read, the last one
    first. -/
def readMembers : Nat → Nat → Bool → List (String × Value) → List UInt8 →
    Except Fault (List (String × Value) × List UInt8)
  | 0, _, _, _, _ => .error .endInObject
  | fuel + 1, room, first, before, s => do
    match ← nextKey first s with
    | (none, rest) => return (before.reverse, rest)
    | (some key, rest) =>
      let (value, rest) ← readValueWith fuel room (← readColon rest)
      readMembers fuel room false ((key, value) :: before) rest

end

/-- Reads a value inside `open` brackets. Every step takes a byte or closes a bracket. -/
def readValue (opened : Nat) (s : List UInt8) : Except Fault (Value × List UInt8) :=
  readValueWith (2 * s.length + 2) (maxDepth - opened) s

/-- The fault of a value of another kind than the wanted one, at its first byte. The value is read as
    far as its kind needs, and a fault inside it wins. -/
def wrongTypeAt (wanted : String) (b : UInt8) (rest : List UInt8) : Fault :=
  let kind : Except Fault Found :=
    if b = 110 then do
      let _ ← readWord wordNull rest
      return .null
    else if b = 116 then do
      let _ ← readWord wordTrue rest
      return .flag true
    else if b = 102 then do
      let _ ← readWord wordFalse rest
      return .flag false
    else if b = 45 then do return .number (← readNumber true rest).1
    else if isDigit b then do return .number (← readNumber false (b :: rest)).1
    else if b = 34 then do return .text (← readText rest).1
    else if b = 91 then .ok .sequence
    else if b = 123 then .ok .map
    else .error .expectedValue
  match kind with
  | .ok found => .wrongType found wanted
  | .error fault => fault

/-- Reads a text where one is wanted. -/
def readString (wanted : String) (s : List UInt8) : Except Fault (String × List UInt8) :=
  match skipSpace s with
  | [] => .error .endInValue
  | b :: rest => if b = 34 then readText rest else .error (wrongTypeAt wanted b rest)

def readOptionalString (wanted : String) (s : List UInt8) : Except Fault (Option String × List UInt8) :=
  match skipSpace s with
  | 110 :: rest => do return (none, ← readWord wordNull rest)
  | s => do
    let (text, rest) ← readString wanted s
    return (some text, rest)

/-- Reads the texts of a list up to its closing bracket; `before` are those read, the last one first. -/
def readStringItems : List UInt8 → Bool → List String → List UInt8 → Except Fault (List String × List UInt8)
  | [], _, _, _ => .error .endInList
  | _ :: fuel, first, before, s => do
    let (more, rest) ← nextItem first s
    if more then
      let (item, rest) ← readString "a string" rest
      readStringItems fuel false (item :: before) rest
    else return (before.reverse, rest)

/-- Reads a list of texts. Every step takes a byte. -/
def readStrings (s : List UInt8) : Except Fault (List String × List UInt8) :=
  match skipSpace s with
  | [] => .error .endInValue
  | b :: rest =>
    if b = 91 then readStringItems s true [] rest
    else .error (wrongTypeAt "a sequence" b rest)

/-- Reads a word that is written as a number or as a text. -/
def readStoredWord (opened : Nat) (s : List UInt8) : Except Fault (UInt64 × List UInt8) := do
  let (value, rest) ← readValue opened s
  match value with
  | .text text =>
    match Text.readWord text.toList with
    | .ok n => return (n, rest)
    | .error fault => throw (.notWord fault)
  | .number (.natural n) => return (UInt64.ofNat n, rest)
  | _ => throw .neitherTextNorRaw

/-- Reads a flag that is written as such or as a text. -/
def readStoredFlag (opened : Nat) (s : List UInt8) : Except Fault (Bool × List UInt8) := do
  let (value, rest) ← readValue opened s
  match value with
  | .text "true" => return (true, rest)
  | .text "false" => return (false, rest)
  | .text _ => throw .notFlag
  | .flag b => return (b, rest)
  | _ => throw .neitherTextNorRaw

/-- Refuses anything but blanks after a value. -/
def finish (s : List UInt8) : Except Fault Unit :=
  if (skipSpace s).isEmpty then .ok () else .error .trailingCharacters

/-! ## Fixed words -/

/-- Reads the only key of an object. -/
def readOnlyKey (s : List UInt8) : Except Fault (String × List UInt8) :=
  match skipSpace s with
  | [] => .error .endInObject
  | b :: rest =>
    if b = 34 then readText rest
    else if b = 125 then .error .expectedValue
    else .error .keyNotString

/-- Reads one of some fixed words, as a text or as the only key of an object whose value is `null`. -/
def readChoice {α : Type} (all : List α) (word : α → String) (s : List UInt8) : Except Fault α := do
  let choose (name : String) : Except Fault α :=
    match all.find? (word · = name) with
    | some a => .ok a
    | none => .error (.unknownVariant name (all.map word))
  match skipSpace s with
  | [] => throw .endInValue
  | b :: rest =>
    if b = 34 then
      let (name, rest) ← readText rest
      let a ← choose name
      finish rest
      return a
    else if b = 123 then
      let (name, rest) ← readOnlyKey rest
      let a ← choose name
      match skipSpace (← readColon rest) with
      | [] => throw .endInValue
      | c :: rest =>
        if c ≠ 110 then throw (wrongTypeAt "unit" c rest)
        match skipSpace (← readWord wordNull rest) with
        | [] => throw .endInObject
        | d :: rest =>
          if d ≠ 125 then throw .expectedValue
          finish rest
          return a
    else throw .expectedValue

end NodeTelemetry.Json
