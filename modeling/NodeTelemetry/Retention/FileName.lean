import NodeTelemetry.Disk.Path
import NodeTelemetry.Text.Numeral

/-!
# Names of snapshot files

A finished file is named by its time and the id of its instance, `<time>-<id>.json`;
a file that is being written has `.tmp-` in front. Reading a name takes the time
up to the first dash, so an id may hold dashes itself.
-/

namespace NodeTelemetry.Retention

/-- What a file name says: a time in milliseconds and an instance. -/
structure FileName where
  time : UInt64
  instanceId : String
  deriving DecidableEq, Repr

/-- The mark of a file that is being written. -/
def tempMark : List Char := ".tmp-".toList

/-- The end of a snapshot file's name. -/
def extension : List Char := ".json".toList

namespace FileName

def chars (n : FileName) : List Char :=
  Text.digits n.time.toNat ++ '-' :: n.instanceId.toList ++ extension

def text (n : FileName) : String := String.ofList n.chars

/-- The name of the file while it is being written. -/
def tempText (n : FileName) : String := String.ofList (tempMark ++ n.chars)

/-- The characters without those at their end, if they end so. -/
def withoutEnd? (tail s : List Char) : Option (List Char) :=
  if tail.isSuffixOf s then some (s.take (s.length - tail.length)) else none

/-- Reads the characters of a finished file's name. -/
def ofChars? (s : List Char) : Option FileName :=
  if tempMark.isPrefixOf s then none
  else do
    let stem ← withoutEnd? extension s
    let digits := stem.takeWhile (· ≠ '-')
    match stem.dropWhile (· ≠ '-') with
    | [] => none
    | [_] => none
    | _ :: id =>
      if digits.isEmpty || !digits.all Text.isDecimal then none
      else
        match Text.readDigits 0 digits with
        | .ok time => some ⟨UInt64.ofNat time, String.ofList id⟩
        | .error _ => none

/-- Reads the name of a directory entry; none unless it is the name of a finished file. -/
def ofName? (n : Name) : Option FileName := do ofChars? (← n.text?).toList

end FileName

end NodeTelemetry.Retention
