import NodeTelemetry.Disk.Procedure

/-!
# Looking at a directory and preparing one

The listing that a person sees, and the changes that a person makes: a file with
its directories, a directory, the removal of either.
-/

namespace NodeTelemetry

/-- What a person sees under a path. -/
inductive Listing where
  | absent
  | file
  /-- The names in order, those of directories with a slash. -/
  | directory (names : List String)
  deriving DecidableEq, Repr

namespace Disk

def insertName (n : String) : List String → List String
  | [] => [n]
  | m :: rest => if n ≤ m then n :: m :: rest else m :: insertName n rest

def sortNames (names : List String) : List String := names.foldr insertName []

def listing (d : Disk) (p : Path) : Listing :=
  match d.stat p with
  | .error _ => .absent
  | .ok (.file _) => .file
  | .ok .directory =>
    match d.readDirectory p with
    | .error _ => .absent
    | .ok names =>
      .directory (sortNames (names.map fun n =>
        Text.lenient n.bytes ++ (if d.isDirectory (p.child n) then "/" else "")))

/-- The disk with a directory and those above it; unchanged as far as that cannot be done. -/
def withDirectory (d : Disk) (p : Path) : Disk := ((Procedure.makeDirectories p).run d).2

/-- The disk with a file and the directories above it; unchanged as far as that cannot be done. -/
def withFile (d : Disk) (p : Path) (bytes : List UInt8) : Disk :=
  let d := match p.parent? with
    | some above => d.withDirectory above
    | none => d
  ((Procedure.writeFile p bytes).run d).2

/-- The disk without what a path leads to. -/
def without (d : Disk) (p : Path) : Disk :=
  match d.removeTree p with
  | .ok after => after
  | .error _ => d

end Disk

end NodeTelemetry
