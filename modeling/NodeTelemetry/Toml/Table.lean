import NodeTelemetry.Keyed
import NodeTelemetry.Toml.Basic

/-!
# Growing tables

While a document is read, a table remembers how it came to be, because that
decides who may still add to it: a table with a header of its own is complete
when its section ends, a table that only stands on the way to another one may
get its header later, and a table made by a dotted key takes dotted keys only.
-/

namespace NodeTelemetry.Toml

/-- A part of a document that may still grow. -/
inductive Node where
  /-- A value that stands by itself and takes no more keys. -/
  | value (v : Value)
  /-- A table: whether it has no header of its own, and whether a dotted key made it. -/
  | table (implicit dotted : Bool) (entries : List (String × Node))
  /-- Tables with a common header; the last one is open. -/
  | tables (elements : List (List (String × Node)))
  deriving Inhabited

abbrev Entries := List (String × Node)

/-- Changes the table at the end of a path. Tables that are missing on the way are made; a path that is
    dotted must not enter a table with a header. The change is told whether the table is dotted. -/
def Entries.changeAt (viaDots : Bool) (change : Bool → Entries → Option Entries) :
    List String → Bool → Entries → Option Entries
  | [], dotted, entries => change dotted entries
  | k :: path, _, entries =>
    match entries.lookup k with
    | none => do
      let inner ← changeAt viaDots change path viaDots []
      return Keyed.put k (.table true viaDots inner) entries
    | some (.value _) => none
    | some (.table implicit dotted inner) =>
      if viaDots && !implicit then none
      else do
        let inner ← changeAt viaDots change path dotted inner
        return Keyed.put k (.table implicit dotted inner) entries
    | some (.tables elements) =>
      match elements.getLast? with
      | none => none
      | some last => do
        let last ← changeAt viaDots change path false last
        return Keyed.put k (.tables (elements.dropLast ++ [last])) entries

/-- A key with its path, and the value that it gets. -/
structure Pair where
  path : List String
  value : Value

/-- Gives a key its value; it must be new, and stand in a dotted table exactly when it is dotted. -/
def Entries.insert (p : Pair) (entries : Entries) : Option Entries :=
  match p.path.getLast? with
  | none => none
  | some k =>
    let parents := p.path.dropLast
    changeAt true
      (fun dotted es => if dotted = parents.isEmpty ∨ (es.lookup k).isSome then none else some (Keyed.put k (.value p.value) es))
      parents false entries

/-- Gives several keys their values. -/
def Entries.insertAll (ps : List Pair) (entries : Entries) : Option Entries :=
  ps.foldlM (fun es p => insert p es) entries

/-- A section of a document: its header, and the pairs below it. -/
structure Section where
  /-- Whether the header adds one more table to those of its name. -/
  isElement : Bool
  path : List String
  pairs : List Pair

/-- Adds a section. Its table must be new or only have stood on the way to another one; tables of a
    common name must all have been added as such. -/
def Entries.addSection (s : Section) (entries : Entries) : Option Entries :=
  match s.path.getLast? with
  | none => none
  | some k =>
    let change (_ : Bool) (es : Entries) : Option Entries :=
      match s.isElement, es.lookup k with
      | false, none => (insertAll s.pairs []).map fun inner => Keyed.put k (.table false false inner) es
      | false, some (.table true false inner) =>
        (insertAll s.pairs inner).map fun inner => es.filter (·.1 ≠ k) ++ [(k, .table false false inner)]
      | true, none => (insertAll s.pairs []).map fun inner => Keyed.put k (.tables [inner]) es
      | true, some (.tables elements) =>
        (insertAll s.pairs []).map fun inner => Keyed.put k (.tables (elements ++ [inner])) es
      | _, _ => none
    changeAt false change s.path.dropLast false entries

mutual

def Node.toValue : Node → Value
  | .value v => v
  | .table _ _ entries => .table (finished entries)
  | .tables elements => .list (finishedAll elements)

/-- The finished values of the keys of a table. -/
def finished : List (String × Node) → List (String × Value)
  | [] => []
  | (k, n) :: rest => (k, n.toValue) :: finished rest

def finishedAll : List (List (String × Node)) → List Value
  | [] => []
  | es :: rest => .table (finished es) :: finishedAll rest

end

/-- The table of some pairs between braces. -/
def ofPairs? (ps : List Pair) : Option Value := (Entries.insertAll ps []).map fun es => .table (finished es)

end NodeTelemetry.Toml
