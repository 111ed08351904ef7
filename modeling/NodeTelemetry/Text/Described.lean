/-!
# Descriptions

The form in which records and lists stand in descriptions for people.
-/

namespace NodeTelemetry.Text

def bracketed (items : List String) : String := "[" ++ ", ".intercalate items ++ "]"

/-- A record with its name and its fields. -/
def described (name : String) (fields : List (String × String)) : String :=
  name ++ " \x7b " ++ ", ".intercalate (fields.map fun f => f.1 ++ ": " ++ f.2) ++ " \x7d"

end NodeTelemetry.Text
