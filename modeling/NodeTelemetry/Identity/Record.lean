import NodeTelemetry.Identity.ObjectId
import NodeTelemetry.Notice
import NodeTelemetry.Text.Utf8

/-!
# Identity records

A record is one binary document: its length in four bytes, its fields, and a
zero byte at the very end. A field is a type byte, a name that ends in a zero
byte, and a value whose type says where it ends. Reading goes through every
field, also the nested ones, and any field that is not well formed spoils the
record. A nested document with a field `$oid` is the object id that the field
gives; what follows that field in the document is not looked at. Of the fields
of the record only the instance id matters.

Of the extended notation for documents only `$oid` is interpreted. Its other keys,
such as `$numberInt` and `$date`, are left out: a nested document with one of them
is read field by field, also where a decoder would refuse what the key stands for.
-/

namespace NodeTelemetry.Record

/-- What a field holds, as far as it can be an instance id. -/
inductive Field where
  | id (o : ObjectId)
  | text (s : String)
  | bytes (bs : List UInt8)
  | other
  deriving DecidableEq, Repr

/-- What the fields of a document amount to. -/
inductive Content where
  | fields (fs : List (String × Field))
  | id (o : ObjectId)
  deriving DecidableEq, Repr

def idKey : String := "db_instance_id"

/-- The field by which a document stands for an object id. -/
def oidKey : String := "$oid"

/-- Reads four bytes, least significant first, as a number of 32 bits that is not negative. -/
def readLength : List UInt8 → Option (Nat × List UInt8)
  | a :: b :: c :: d :: rest =>
    let n := a.toNat + 256 * (b.toNat + 256 * (c.toNat + 256 * d.toNat))
    if n < 2147483648 then some (n, rest) else none
  | _ => none

def take (n : Nat) (s : List UInt8) : Option (List UInt8 × List UInt8) :=
  let (taken, rest) := s.splitAt n
  if taken.length = n then some (taken, rest) else none

def skip (n : Nat) (s : List UInt8) : Option (List UInt8) := (take n s).map Prod.snd

/-- Reads a text that ends at the first zero byte. -/
def readName (s : List UInt8) : Option (String × List UInt8) :=
  match s.dropWhile (· ≠ 0) with
  | [] => none
  | _ :: rest => do return (← Text.ofBytes? (s.takeWhile (· ≠ 0)), rest)

/-- Reads a text with its length in front, which counts the zero byte behind it. -/
def readText (s : List UInt8) : Option (String × List UInt8) := do
  let (n, s) ← readLength s
  if n = 0 then none
  let (body, rest) ← take n s
  if body.getLast? ≠ some 0 then none
  return (← Text.ofBytes? body.dropLast, rest)

/-- Reads bytes with their length and a kind in front. The old kind 2 repeats the length; bytes of the
    general kind 0 may stand for an object id. -/
def readBlob (s : List UInt8) : Option (Field × List UInt8) := do
  let (n, s) ← readLength s
  match s with
  | [] => none
  | kind :: s =>
    let (body, rest) ← take n s
    if kind = 0 then return (.bytes body, rest)
    else if kind = 2 then
      let (inner, _) ← readLength body
      if inner + 4 = n then return (.other, rest) else none
    else return (.other, rest)

/-- Takes a document: what lies behind its length, up to and with the zero byte at its end. -/
def takeDocument (s : List UInt8) : Option (List UInt8 × List UInt8) := do
  let (n, _) ← readLength s
  if n < 5 then none
  let (whole, rest) ← take n s
  if whole.getLast? ≠ some 0 then none
  return (whole.drop 4, rest)

/-- The object id that a field gives for the document it stands in. -/
def Field.objectId? : Field → Option ObjectId
  | text s => ObjectId.ofText? s
  | bytes bs => ObjectId.ofBytes? bs
  | _ => none

/-- What a nested document or list with some content is. -/
def Content.field : Content → Field
  | fields _ => .other
  | id o => .id o

mutual

/-- Reads fields up to the last byte, or up to the field that makes the document an object id; the
    items of a list have names, too, but none that means anything. `before` are the fields read so far,
    the last one first. -/
def readContent : Nat → Bool → List (String × Field) → List UInt8 → Option Content
  | _, _, _, [] => none
  | _, _, before, [_] => some (.fields before.reverse)
  | 0, _, _, _ => none
  | fuel + 1, isList, before, type :: s => do
    let (name, s) ← readName s
    let (field, rest) ← readField fuel type s
    if !isList && name = oidKey then return .id (← field.objectId?)
    readContent fuel isList ((name, field) :: before) rest

/-- Reads the value of a field of a type. -/
def readField : Nat → UInt8 → List UInt8 → Option (Field × List UInt8)
  | 0, _, _ => none
  | fuel + 1, type, s =>
    match type with
    | 1 => do return (.other, ← skip 8 s)
    | 2 => do
      let (text, rest) ← readText s
      return (.text text, rest)
    | 3 => do
      let (inside, rest) ← takeDocument s
      return ((← readContent fuel false [] inside).field, rest)
    | 4 => do
      let (inside, rest) ← takeDocument s
      return ((← readContent fuel true [] inside).field, rest)
    | 5 => readBlob s
    | 6 => some (.other, s)
    | 7 => do
      let (bytes, rest) ← take 12 s
      return (.id (← ObjectId.ofBytes? bytes), rest)
    | 8 =>
      match s with
      | b :: rest => if b ≤ 1 then some (.other, rest) else none
      | [] => none
    | 9 => do return (.other, ← skip 8 s)
    | 10 => some (.other, s)
    | 11 => do
      let (_, s) ← readName s
      let (_, rest) ← readName s
      return (.other, rest)
    | 12 => do
      let (_, s) ← readText s
      return (.other, ← skip 12 s)
    | 13 => do return (.other, (← readText s).2)
    | 14 => do return (.other, (← readText s).2)
    | 15 => do
      let (n, code) ← readLength s
      let (_, scope) ← readText code
      let (inside, rest) ← takeDocument scope
      let (codeLength, _) ← readLength code
      let (scopeLength, _) ← readLength scope
      if n ≠ 8 + codeLength + scopeLength then none
      match ← readContent fuel false [] inside with
      | .id _ => none
      | .fields _ => return (.other, rest)
    | 16 => do return (.other, ← skip 4 s)
    | 17 => do return (.other, ← skip 8 s)
    | 18 => do return (.other, ← skip 8 s)
    | 19 => do return (.other, ← skip 16 s)
    | 127 => some (.other, s)
    | 255 => some (.other, s)
    | _ => none

end

/-- Reads the fields of a record; what follows its end does not count. A record that stands for an
    object id itself is none. -/
def readRecord (s : List UInt8) : Option (List (String × Field)) := do
  let (inside, _) ← takeDocument s
  match ← readContent (2 * inside.length) false [] inside with
  | .fields fs => return fs
  | .id _ => none

/-- The instance id in the bytes of a record. Of several fields of that name the last counts. -/
def instanceId (s : List UInt8) : Except RecordFault ObjectId :=
  match readRecord s with
  | none => .error .malformed
  | some fields =>
    match fields.reverse.lookup idKey with
    | none => .error .missingId
    | some (.id o) => .ok o
    | some (.text s) =>
      match ObjectId.ofText? s with
      | some o => .ok o
      | none => .error .notAnId
    | some _ => .error .notAnId

/-- The bytes of a record that holds an instance id and nothing else. -/
def ofId (o : ObjectId) : List UInt8 :=
  [33, 0, 0, 0, 7] ++ Text.toBytes idKey ++ [0] ++ o.bytes ++ [0]

end NodeTelemetry.Record
