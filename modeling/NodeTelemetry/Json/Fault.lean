import NodeTelemetry.Number.Shortest
import NodeTelemetry.Text.Numeral
import NodeTelemetry.Text.Quoted

/-!
# What can be wrong with a document

The faults that reading a JSON document can find, sorted into three categories:
the text is no JSON, the text ends too early, or the data are not the ones that
are wanted.
-/

namespace NodeTelemetry.Json

/-- A number of a document: a word, a negative integer of 64 bits, or, when it is written with a
    point or an exponent or is too large, the number near it. -/
inductive Number where
  | natural (n : Nat)
  | negative (n : Nat)
  | float (x : Binary64)
  deriving DecidableEq, Repr

/-- What was found where something else was wanted. -/
inductive Found where
  | null
  | flag (b : Bool)
  | number (n : Number)
  | text (s : String)
  | sequence
  | map
  deriving DecidableEq, Repr

inductive Fault where
  | endInValue
  | endInString
  | endInList
  | endInObject
  | expectedValue
  | expectedIdent
  | expectedColon
  | expectedListEnd
  | expectedObjectEnd
  | keyNotString
  | trailingComma
  | trailingCharacters
  | invalidNumber
  | numberOutOfRange
  | invalidEscape
  | controlCharacter
  | invalidCodePoint
  | loneSurrogate
  | endOfHexEscape
  | tooDeep
  | wrongType (found : Found) (wanted : String)
  | unknownVariant (name : String) (known : List String)
  | duplicateField (name : String)
  | missingField (name : String)
  | wrongLength (got : Nat) (wanted : String)
  | neitherTextNorRaw
  | notWord (fault : WordFault)
  | notFlag
  deriving DecidableEq, Repr

inductive Category where
  | syntactic
  | data
  | eof
  deriving DecidableEq, Repr

/-- What was found, as a message names it. -/
def Found.describe : Found → String
  | .null => "null"
  | .flag b => "boolean \x60" ++ (if b then "true" else "false") ++ "\x60"
  | .number (.natural n) => "integer \x60" ++ n.repr ++ "\x60"
  | .number (.negative n) => "integer \x60-" ++ n.repr ++ "\x60"
  | .number (.float x) => "floating point \x60" ++ documentNumber.text x ++ "\x60"
  | .text s => "string " ++ Text.quoted s
  | .sequence => "sequence"
  | .map => "map"

/-- A word between backquotes. -/
def ticked (s : String) : String := "\x60" ++ s ++ "\x60"

/-- What is allowed where an unknown name was found. -/
def oneOf : List String → String
  | [a, b] => "expected " ++ ticked a ++ " or " ++ ticked b
  | names => "expected one of " ++ ", ".intercalate (names.map ticked)

/-- The text of a reason why something is no word. -/
def wordMessage : WordFault → String
  | .empty => "cannot parse integer from empty string"
  | .notDigit => "invalid digit found in string"
  | .tooLarge => "number too large to fit in target type"

namespace Fault

def message : Fault → String
  | endInValue => "EOF while parsing a value"
  | endInString => "EOF while parsing a string"
  | endInList => "EOF while parsing a list"
  | endInObject => "EOF while parsing an object"
  | expectedValue => "expected value"
  | expectedIdent => "expected ident"
  | expectedColon => "expected \x60:\x60"
  | expectedListEnd => "expected \x60,\x60 or \x60]\x60"
  | expectedObjectEnd => "expected \x60,\x60 or \x60\x7d\x60"
  | keyNotString => "key must be a string"
  | trailingComma => "trailing comma"
  | trailingCharacters => "trailing characters"
  | invalidNumber => "invalid number"
  | numberOutOfRange => "number out of range"
  | invalidEscape => "invalid escape"
  | controlCharacter => "control character (\\u0000-\\u001F) found while parsing a string"
  | invalidCodePoint => "invalid unicode code point"
  | loneSurrogate => "lone leading surrogate in hex escape"
  | endOfHexEscape => "unexpected end of hex escape"
  | tooDeep => "recursion limit exceeded"
  | wrongType found wanted => "invalid type: " ++ found.describe ++ ", expected " ++ wanted
  | unknownVariant name known => "unknown variant " ++ ticked name ++ ", " ++ oneOf known
  | duplicateField name => "duplicate field " ++ ticked name
  | missingField name => "missing field " ++ ticked name
  | wrongLength got wanted => "invalid length " ++ got.repr ++ ", expected " ++ wanted
  | neitherTextNorRaw => "data did not match any variant of untagged enum StringOr"
  | notWord fault => wordMessage fault
  | notFlag => "provided string was not \x60true\x60 or \x60false\x60"

def category : Fault → Category
  | endInValue | endInString | endInList | endInObject => .eof
  | wrongType .. | unknownVariant .. | duplicateField .. | missingField .. | wrongLength ..
  | neitherTextNorRaw | notWord .. | notFlag => .data
  | _ => .syntactic

end Fault

end NodeTelemetry.Json
