import NodeTelemetry.Text.Utf8
import Std.Data.ExtTreeMap

/-!
# Names and paths

A name is what stands between two slashes: any bytes but the slash. A path is
kept as it is written, piece by piece, so that joining and showing it changes
nothing that was written: `t//u` has the pieces `t`, the empty name and `u`.
-/

namespace NodeTelemetry

/-- The name of a directory entry. -/
structure Name where
  bytes : List UInt8
  deriving DecidableEq, Repr, Inhabited

namespace Name

def ofText (s : String) : Name := ⟨Text.toBytes s⟩

/-- The text that spells a name, if its bytes are a text. -/
def text? (n : Name) : Option String := Text.ofBytes? n.bytes

@[simp] theorem text?_ofText (s : String) : (ofText s).text? = some s := Text.ofBytes?_toBytes s

/-- A name has the text `s` exactly when `s` spells it. -/
theorem text?_eq_some_iff {n : Name} {s : String} : n.text? = some s ↔ n = ofText s := by
  cases n
  simp [text?, ofText, Text.ofBytes?_eq_some_iff]

/-- The name without bytes, which stands at the end of a path that ends in a slash. -/
def empty : Name := ⟨[]⟩

/-- The name by which a directory calls itself. -/
def here : Name := ⟨[46]⟩

/-- The name by which a directory calls the one that holds it. -/
def up : Name := ⟨[46, 46]⟩

/-- The most bytes that a file system accepts in a name. -/
def maxLength : Nat := 255

/-- Names are ordered by their bytes. -/
instance : Ord Name := ⟨compareOn bytes⟩

instance : Std.TransOrd Name := inferInstanceAs (Std.TransCmp (compareOn bytes))

instance : Std.LawfulEqOrd Name where
  eq_of_compare {a b} h := by
    cases a
    cases b
    exact congrArg Name.mk (Std.LawfulEqOrd.eq_of_compare h)

end Name

/-- A path as it is written: the pieces between its slashes. -/
structure Path where
  pieces : List Name
  deriving DecidableEq, Repr, Inhabited

namespace Path

/-- Cuts bytes at every slash. `piece` is what was read since the last one, backwards. -/
def cut (piece : List UInt8) : List UInt8 → List Name
  | [] => [⟨piece.reverse⟩]
  | b :: rest => if b = 47 then ⟨piece.reverse⟩ :: cut [] rest else cut (b :: piece) rest

def ofBytes (bs : List UInt8) : Path := ⟨cut [] bs⟩

def ofText (s : String) : Path := ofBytes (Text.toBytes s)

/-- The bytes of a path: its pieces with a slash between any two. -/
def bytes (p : Path) : List UInt8 := List.intercalate [47] (p.pieces.map Name.bytes)

/-- A path as it is shown. -/
def text (p : Path) : String := Text.lenient p.bytes

def isEmpty (p : Path) : Bool := p.pieces.isEmpty || p.pieces = [.empty]

/-- The number of bytes of a path, one for every slash. -/
def length (p : Path) : Nat :=
  match p.pieces with
  | [] => 0
  | n :: rest => rest.foldl (fun k m => k + 1 + m.bytes.length) n.bytes.length

/-- The most bytes that a system accepts in a path. -/
def maxLength : Nat := 4095

/-- A path that starts with a slash. -/
def isAbsolute (p : Path) : Bool :=
  match p.pieces with
  | first :: _ :: _ => first = .empty
  | _ => false

/-- One path below another, with one slash between them. -/
def join (p q : Path) : Path :=
  if p.pieces.getLast? = some .empty then ⟨p.pieces.dropLast ++ q.pieces⟩ else ⟨p.pieces ++ q.pieces⟩

/-- A name below a path. -/
def child (p : Path) (n : Name) : Path := p.join ⟨[n]⟩

/-- Pieces that do not move: the empty one and the one that means the directory itself. -/
def isStill (n : Name) : Bool := n = .empty ∨ n = .here

/-- Whether the end of a path leads to the directory that it has come to, as in `t/`, `t/.` and `t/u/..`. -/
def endsInside (p : Path) : Bool := p.pieces.getLast?.all fun n => isStill n || n = .up

/-- Pieces without those at their end that do not move. -/
def withoutStill (pieces : List Name) : List Name := (pieces.reverse.dropWhile isStill).reverse

/-- The piece that a path starts from, if it names one: the top or the working directory. -/
def start (p : Path) : List Name :=
  if p.isAbsolute ∨ p.pieces.head? = some .here then p.pieces.take 1 else []

/-- The path with these pieces behind the ones it starts from; the top alone is written as a slash. -/
def ofStart (start pieces : List Name) : Path :=
  if start = [.empty] ∧ pieces = [] then ⟨[.empty, .empty]⟩ else ⟨start ++ pieces⟩

/-- A path without the empty pieces at its end. -/
def withoutTrailingSlash (p : Path) : Path :=
  let start := p.start
  ofStart start ((p.pieces.drop start.length).reverse.dropWhile (· = Name.empty)).reverse

/-- The path of the directory that holds the one a path leads to. Nothing holds the top, and what holds
    the working directory has no path. -/
def parent? (p : Path) : Option Path :=
  let start := p.start
  match withoutStill (p.pieces.drop start.length) with
  | [] => if start = [.here] then some ⟨[]⟩ else none
  | n :: rest => some (ofStart start (withoutStill (n :: rest).dropLast))

theorem length_bytes (p : Path) : p.bytes.length = p.length := by
  obtain ⟨pieces⟩ := p
  have joined (rest : List Name) : ∀ (n : Name) (k : Nat), k + (bytes ⟨n :: rest⟩).length =
      rest.foldl (fun k m => k + 1 + m.bytes.length) (k + n.bytes.length) := by
    induction rest with
    | nil => simp [bytes, List.intercalate]
    | cons m rest ih =>
      intro n k
      rw [List.foldl_cons, ← ih m (k + n.bytes.length + 1)]
      simp only [bytes, List.intercalate, List.map_cons, List.intersperse_cons_cons, List.flatten_cons,
        List.length_append, List.length_singleton]
      omega
  cases pieces with
  | nil => rfl
  | cons n rest => simpa [length] using joined rest n 0

theorem cut_of_not_mem {bs : List UInt8} (h : (47 : UInt8) ∉ bs) (piece : List UInt8) :
    cut piece bs = [⟨piece.reverse ++ bs⟩] := by
  induction bs generalizing piece with
  | nil => simp [cut]
  | cons b rest ih =>
    simp only [List.mem_cons, not_or] at h
    rw [cut, if_neg (fun e => h.1 e.symm), ih h.2]
    simp

/-- Bytes without a slash are a path of one piece. -/
theorem ofBytes_of_not_mem {bs : List UInt8} (h : (47 : UInt8) ∉ bs) : ofBytes bs = ⟨[⟨bs⟩]⟩ := by
  simp [ofBytes, cut_of_not_mem h]

end Path

end NodeTelemetry
