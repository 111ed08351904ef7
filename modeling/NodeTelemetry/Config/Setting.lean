import NodeTelemetry.Keyed
import NodeTelemetry.Number.Shortest
import NodeTelemetry.Text.LowerCase
import NodeTelemetry.Text.Quoted
import NodeTelemetry.Toml.Basic

/-!
# Settings

What the sources of a configuration say, before anybody asks for values of a
certain type. Laying one setting over another merges tables key by key and
replaces everything else.
-/

namespace NodeTelemetry

inductive Scalar where
  | flag (b : Bool)
  | integer (n : Int)
  | number (x : Binary64)
  | text (s : String)
  deriving DecidableEq, Repr, Inhabited

/-- A value with its origin, if it comes from a file or from the environment. Tables that several
    sources may share have no origin. -/
inductive Setting where
  | unset
  | scalar (s : Scalar) (origin : Option String)
  | list (items : List Setting) (origin : Option String)
  | table (entries : List (String × Setting)) (origin : Option String)
  deriving Repr, Inhabited

namespace Setting

def origin : Setting → Option String
  | unset => none
  | scalar _ o => o
  | list _ o => o
  | table _ o => o

/-! ## Parts -/

def empty : Setting := table [] none

/-- The setting of a key, if this is a table that has the key. -/
def field? (s : Setting) (k : String) : Option Setting :=
  match s with
  | table entries _ => entries.lookup k
  | _ => none

/-- The setting with a key set; anything but a table gives way to a new one. -/
def withField (s : Setting) (k : String) (v : Setting) : Setting :=
  match s with
  | table entries o => table (Keyed.put k v entries) o
  | _ => table [(k, v)] none

/-- The items of a list, none of anything else. -/
def items : Setting → List Setting
  | list xs _ => xs
  | _ => []

/-- The place that an index means in a list of some length; negative ones count from the end. -/
def place (length : Nat) (index : Int) : Nat :=
  if 0 ≤ index then index.toNat else length - index.natAbs

/-- The setting with an item set. A list that is too short is filled up, and anything but a list
    gives way to a new one. -/
def withItem (s : Setting) (index : Int) (v : Setting) : Setting :=
  let i := place s.items.length index
  let filled := s.items ++ List.replicate (i + 1 - s.items.length) unset
  list (filled.set i v) (match s with
    | list _ o => o
    | _ => none)

theorem field?_withField_self (s : Setting) (k : String) (v : Setting) :
    (s.withField k v).field? k = some v := by
  cases s <;> simp [withField, field?, Keyed.lookup_put_self]

theorem field?_withField_of_ne {k l : String} (h : l ≠ k) (entries : List (String × Setting))
    (o : Option String) (v : Setting) :
    ((table entries o).withField k v).field? l = (table entries o).field? l := by
  simp [withField, field?, Keyed.lookup_put_of_ne h]

/-! ## Layers -/

mutual

/-- What becomes of a setting over which another one is laid. A table is merged with what it meets,
    and nothing else is; keys are merged without regard to case. -/
def laidOver : Setting → Option Setting → Setting
  | table entries _, below => allLaidOver entries (below.getD empty)
  | s, _ => s

/-- What becomes of a setting over which the keys of a table are laid. -/
def allLaidOver : List (String × Setting) → Setting → Setting
  | [], below => below
  | (k, v) :: rest, below =>
    let k := Text.lowerCase k
    allLaidOver rest (below.withField k (laidOver v (below.field? k)))

end

/-! ## Values of a file -/

mutual

/-- The setting of a value in a file. Moments count as texts. -/
def ofToml (origin : String) : Toml.Value → Setting
  | .text s => scalar (.text s) origin
  | .integer n => scalar (.integer n) origin
  | .number x => scalar (.number x) origin
  | .flag b => scalar (.flag b) origin
  | .moment m => scalar (.text m.text) origin
  | .list xs => list (ofTomlList origin xs) origin
  | .table entries => table (ofTomlEntries origin entries) origin

def ofTomlList (origin : String) : List Toml.Value → List Setting
  | [] => []
  | v :: rest => ofToml origin v :: ofTomlList origin rest

/-- The settings of the keys of a table. -/
def ofTomlEntries (origin : String) : List (String × Toml.Value) → List (String × Setting)
  | [] => []
  | (k, v) :: rest => (k, ofToml origin v) :: ofTomlEntries origin rest

end

end Setting

end NodeTelemetry
