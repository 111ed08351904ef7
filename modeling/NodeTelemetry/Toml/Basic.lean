import NodeTelemetry.Number.Binary64
import NodeTelemetry.Text.Blank
import NodeTelemetry.Toml.Moment

/-!
# The values of a TOML document

Numbers keep the kind in which they are written, and tables keep their keys in
the order in which they appear.
-/

namespace NodeTelemetry.Toml

inductive Value where
  | text (s : String)
  | integer (n : Int)
  | number (x : Binary64)
  | flag (b : Bool)
  | moment (m : Moment)
  | list (items : List Value)
  | table (entries : List (String × Value))
  deriving Repr, Inhabited

/-- A reader takes a value from the front of a text, or refuses the text. -/
abbrev Reader (α : Type) := List Char → Option (α × List Char)

/-- The text behind spaces and tabs. -/
def dropSpaces (s : List Char) : List Char := s.dropWhile Text.isSpace

/-- A character that may stand on a line: a tab or anything but a control character of ASCII. -/
def isPlain (c : Char) : Bool := c = '\t' || (0x20 ≤ c.toNat && c.toNat ≠ 0x7F)

end NodeTelemetry.Toml
