import NodeTelemetry.Config.Setting

/-!
# What can be wrong with a configuration

A setting has the wrong type or shape, a word is unknown, a file is missing or
is no document, or the settings are refused as a whole.
-/

namespace NodeTelemetry

/-- What a setting holds, as far as messages tell. -/
inductive Found where
  | nothing
  | scalar (s : Scalar)
  | sequence
  | map
  deriving DecidableEq, Repr

/-- Why a configuration is not loaded or not accepted. -/
inductive ConfigError where
  | refused (text : String)
  /-- Something other than parts is found where parts are wanted. -/
  | wrongShape (found : Found) (wanted : String)
  /-- A word is none of those that name a value of a kind. -/
  | unknownWord (kind word : String)
  /-- A value of a kind is not given by a word. -/
  | noWord (kind : String)
  /-- A number does not fit a setting. -/
  | tooLarge (n : UInt64)
  /-- A setting has another type than the wanted one. -/
  | wrongType (found : Found) (wanted key : String) (origin : Option String)
  | missingFile (path : String)
  | unknownFormat (path : String)
  /-- A file is no text. -/
  | notText
  /-- A file is no document of its format. -/
  | malformedFile
  deriving DecidableEq, Repr

def Setting.found : Setting → Found
  | unset => .nothing
  | scalar s _ => .scalar s
  | list .. => .sequence
  | table .. => .map

def Scalar.describe : Scalar → String
  | flag b => "boolean \x60" ++ (if b then "true" else "false") ++ "\x60"
  | integer n => "integer \x60" ++ toString n ++ "\x60"
  | number x => "floating point \x60" ++ pointedNumber.text x ++ "\x60"
  | text s => "string " ++ Text.quoted s

def Found.describe : Found → String
  | nothing => "unit value"
  | scalar s => s.describe
  | sequence => "sequence"
  | map => "map"

/-- What was found under a key; the width of an integer is told there. -/
def Found.describeAtKey : Found → String
  | scalar (.integer n) => "64-bit " ++ (Scalar.integer n).describe
  | f => f.describe

/-- The text of an error, if it has one. -/
def ConfigError.message? : ConfigError → Option String
  | refused text => some text
  | wrongShape found wanted => some ("invalid type: " ++ found.describe ++ ", expected " ++ wanted)
  | unknownWord kind word => some ("enum " ++ kind ++ " does not have variant constructor " ++ word)
  | noWord kind =>
    some ("value of enum " ++ kind ++ " should be represented by either string or table with exactly one key")
  | tooLarge n => some ("value " ++ n.toNat.repr ++ " is greater than the max 9223372036854775807")
  | wrongType found wanted key origin =>
    some ("invalid type: " ++ found.describeAtKey ++ ", expected " ++ wanted ++ " for key \x60" ++ key ++ "\x60" ++
      (match origin with
        | some o => " in " ++ o
        | none => ""))
  | missingFile path => some ("configuration file \"" ++ path ++ "\" not found")
  | unknownFormat path => some ("configuration file \"" ++ path ++ "\" is not of a registered file format")
  | notText => some "stream did not contain valid UTF-8"
  | malformedFile => none

end NodeTelemetry
