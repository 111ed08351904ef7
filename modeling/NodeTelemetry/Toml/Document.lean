import NodeTelemetry.Toml.Statement

/-!
# Documents

A document is a table. The pairs before the first header belong to the table
itself, those behind a header to the table that the header names. A table may
stand for a moment, which then takes its place.
-/

namespace NodeTelemetry.Toml

/-- The pairs before the first header, and the sections behind it. -/
def sections : List Statement → List Pair × List Section
  | [] => ([], [])
  | .pair p :: rest => (p :: (sections rest).1, (sections rest).2)
  | .header isElement path :: rest => ([], ⟨isElement, path, (sections rest).1⟩ :: (sections rest).2)

/-- The table that some statements describe, unless two of them are at odds. -/
def assemble (xs : List Statement) : Option (List (String × Value)) := do
  let top ← Entries.insertAll (sections xs).1 []
  let all ← (sections xs).2.foldlM (fun es s => Entries.addSection s es) top
  return finished all

/-! ## Moments in tables -/

/-- The key whose value spells the moment that its table stands for. -/
def momentKey : String := "$__toml_private_datetime"

mutual

/-- The value that a value stands for. A table whose first key is the key of moments is the moment that
    the text under this key spells, whatever else it holds. -/
def Value.resolve : Value → Option Value
  | .list items => (resolveAll items).map .list
  | .table entries => resolveTable entries
  | v => some v

/-- The value that a table with these keys stands for. -/
def resolveTable : List (String × Value) → Option Value
  | [] => some (.table [])
  | (k, v) :: rest =>
    if k = momentKey then
      match v with
      | .text s => (Moment.read? s.toList).map .moment
      | _ => none
    else do
      let v ← v.resolve
      let rest ← resolveEntries rest
      return .table ((k, v) :: rest)

def resolveEntries : List (String × Value) → Option (List (String × Value))
  | [] => some []
  | (k, v) :: rest => do return (k, ← v.resolve) :: (← resolveEntries rest)

def resolveAll : List Value → Option (List Value)
  | [] => some []
  | v :: rest => do return (← v.resolve) :: (← resolveAll rest)

end

/-! ## Reading -/

/-- A text without a mark of its byte order. -/
def dropMark : List Char → List Char
  | '\ufeff' :: rest => rest
  | s => s

/-- Reads a document; one that stands for a moment has no keys and is refused. -/
def read (s : List Char) : Option (List (String × Value)) := do
  let entries ← assemble (← readStatements (s.length + 1) (dropMark s))
  match ← resolveTable entries with
  | .table entries => return entries
  | _ => none

end NodeTelemetry.Toml
