import NodeTelemetry.Config.Setting
import NodeTelemetry.Number.Reader

/-!
# Settings from environment variables

A variable `TELEMETRY__SERVER__DB_PATH` is about the key `server.db_path`.
Names are compared without regard to case, and empty variables count as unset.
A value is a flag, an integer or a number if it reads as one, and a text
otherwise.
-/

namespace NodeTelemetry.Environment

/-- What the name of a variable starts with, in lower case, when it is about a setting. -/
def beginning : List Char := "telemetry__".toList

/-- Two underscores stand for the point between two names. -/
def withPoints : List Char → List Char
  | '_' :: '_' :: rest => '.' :: withPoints rest
  | c :: rest => c :: withPoints rest
  | [] => []

/-- The key that a variable is about, if it is about one. -/
def key? (name : String) : Option String :=
  (beginning.isPrefixOf? (Text.lowerCase name).toList).map fun rest => String.ofList (withPoints rest)

/-- What a value means. -/
def value (text : String) : Scalar :=
  match Text.lowerCase text with
  | "true" => .flag true
  | "false" => .flag false
  | _ =>
    match Text.readInt64? text.toList with
    | some n => .integer n
    | none =>
      match Binary64.read? text.toList with
      | some x => .number x
      | none => .text text

def entry? (v : String × String) : Option (String × Setting) :=
  if v.2.isEmpty then none
  else (key? v.1).map fun k => (k, .scalar (value v.2) (some "the environment"))

def layer (environment : List (String × String)) : List (String × Setting) := environment.filterMap entry?

end NodeTelemetry.Environment
