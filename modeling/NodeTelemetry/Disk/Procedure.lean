import NodeTelemetry.Disk.Change

/-!
# Procedures on a disk

What a program does to a disk, action by action: each action either happens as
a whole or fails and changes nothing, and what comes next may depend on how it
went. Running a procedure and stopping in the middle of it are both read off
the same actions.
-/

namespace NodeTelemetry

inductive Action where
  | makeDirectory (p : Path)
  | create (p : Path)
  | append (p : Path) (bytes : List UInt8)
  | sync (p : Path)
  | rename (source target : Path)
  | remove (p : Path)
  deriving DecidableEq, Repr

/-- The disk after an action, or why it fails. -/
def Disk.act (d : Disk) : Action → Except DiskError Disk
  | .makeDirectory p => d.makeDirectory p
  | .create p => d.create p
  | .append p bytes => d.append p bytes
  | .sync _ => .ok d
  | .rename source target => d.rename source target
  | .remove p => d.remove p

/-- A procedure that ends with an `α`. -/
inductive Procedure (α : Type) where
  | done (result : α)
  /-- Looks at the disk and goes on. -/
  | look (next : Disk → Procedure α)
  /-- Acts, and goes on knowing whether it succeeded. -/
  | act (action : Action) (next : Except DiskError Unit → Procedure α)

namespace Procedure

/-- What a procedure ends with, and the disk it leaves. -/
def run {α : Type} : Procedure α → Disk → α × Disk
  | done a, d => (a, d)
  | look next, d => run (next d) d
  | act x next, d =>
    match d.act x with
    | .ok after => run (next (.ok ())) after
    | .error e => run (next (.error e)) d

def andThen {α β : Type} : Procedure α → (α → Procedure β) → Procedure β
  | done a, f => f a
  | look next, f => look fun d => andThen (next d) f
  | act x next, f => act x fun r => andThen (next r) f

instance : Monad Procedure where
  pure := done
  bind := andThen

/-- Looks at a property of the disk. -/
def observe {α : Type} (f : Disk → α) : Procedure α := look fun d => done (f d)

def perform (x : Action) : Procedure (Except DiskError Unit) := act x done

@[simp] theorem run_pure {α : Type} (a : α) (d : Disk) : (pure a : Procedure α).run d = (a, d) := rfl

@[simp] theorem run_observe {α : Type} (f : Disk → α) (d : Disk) : (observe f).run d = (f d, d) := rfl

/-- Running one procedure after another is running the second on what the first leaves. -/
@[simp] theorem run_bind {α β : Type} (p : Procedure α) (f : α → Procedure β) (d : Disk) :
    (p >>= f).run d = (f (p.run d).1).run (p.run d).2 := by
  show (p.andThen f).run d = _
  induction p generalizing d with
  | done a => rfl
  | look next ih => exact ih d d
  | act x next ih =>
    simp only [andThen, run]
    cases d.act x with
    | ok after => exact ih (.ok ()) after
    | error e => exact ih (.error e) d

/-- Makes a directory and, up to `depth` levels above it, the missing ones that hold it. -/
def makeDirectoriesUpTo : Nat → Path → Procedure (Except DiskError Unit)
  | 0, _ => return .error .notFound
  | depth + 1, p => do
    if p.isEmpty then return .ok ()
    match ← perform (.makeDirectory p) with
    | .ok () => return .ok ()
    | .error .notFound =>
      match p.parent? with
      | none => return .error .notFound
      | some above =>
        match ← makeDirectoriesUpTo depth above with
        | .error e => return .error e
        | .ok () =>
          match ← perform (.makeDirectory p) with
          | .ok () => return .ok ()
          | .error e => return if ← observe (·.isDirectory p) then .ok () else .error e
    | .error e => return if ← observe (·.isDirectory p) then .ok () else .error e

/-- Makes the directory of a path and those above it; nothing to do when they exist. A path has
    fewer directories above it than pieces, so no missing one is out of reach. -/
def makeDirectories (p : Path) : Procedure (Except DiskError Unit) :=
  makeDirectoriesUpTo (p.pieces.length + 1) p

/-- Makes or empties a file, writes its bytes and flushes it. -/
def writeFile (p : Path) (bytes : List UInt8) : Procedure (Except DiskError Unit) := do
  match ← perform (.create p) with
  | .error e => return .error e
  | .ok () =>
    match ← perform (.append p bytes) with
    | .error e => return .error e
    | .ok () => perform (.sync p)

end Procedure

end NodeTelemetry
