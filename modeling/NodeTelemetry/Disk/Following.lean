import NodeTelemetry.Disk.Basic
import NodeTelemetry.Steps

/-!
# Following paths

Paths are followed as they are written, from the working directory or, when they
start with a slash, from the top. Whatever a path passes through must be a
directory. Looking at a disk is looking at what a path leads to.
-/

namespace NodeTelemetry

namespace Disk

/-- Passes through a location. That takes a directory; where none stands, the outermost place on the way
    at which the path breaks decides why. -/
def passThrough (d : Disk) : Location → Except DiskError Unit
  | [] => .ok ()
  | n :: above =>
    match d.get? (n :: above) with
    | some .directory => .ok ()
    | some (.file _) => .error .notDirectory
    | none => do
      d.passThrough above
      throw (if Name.maxLength < n.bytes.length then .nameTooLong else .notFound)

/-- Only a directory can be passed through. -/
theorem passThrough_eq_ok_iff {d : Disk} {loc : Location} :
    d.passThrough loc = .ok () ↔ d.get? loc = some .directory := by
  cases loc with
  | nil => simp [passThrough, get?, lookup]
  | cons n above =>
    rw [passThrough]
    split <;> rename_i h
    · simp [h]
    · simp [h]
    · cases d.passThrough above <;> simp [h, bind, Except.bind, throw, throwThe, MonadExceptOf.throw]

/-- Follows one piece of a path. Going up takes a directory to leave; going down is checked where the
    way down ends, since only a directory holds anything. -/
def enter (d : Disk) (loc : Location) (piece : Name) : Except DiskError Location :=
  if Path.isStill piece then .ok loc
  else if piece = .up then do
    d.passThrough loc
    return if loc = .top then loc else loc.tail
  else .ok (piece :: loc)

/-- Refuses a path that no system call takes. -/
def accept (p : Path) : Except DiskError Unit :=
  if p.pieces.any (·.bytes.contains 0) then .error .nulByte
  else if p.isEmpty then .error .notFound
  else if Path.maxLength < p.length then .error .nameTooLong
  else .ok ()

/-- Follows the pieces of a path, from the top or from the working directory. -/
def walk (d : Disk) (p : Path) : Except DiskError Location :=
  if p.isAbsolute then p.pieces.tail.foldlM d.enter .top else p.pieces.foldlM d.enter []

/-- The location that a path leads to. Whatever the path passes through must be a directory; the
    location itself may be free. -/
def locate (d : Disk) (p : Path) : Except DiskError Location := do
  accept p
  let loc ← d.walk p
  if p.endsInside then d.passThrough loc
  else
    d.passThrough loc.tail
    if loc.head?.any (Name.maxLength < ·.bytes.length) then throw .nameTooLong
  return loc

/-- What the end of a path takes: a directory where it ends inside one, else a name of a fitting length
    in a directory. -/
def Arrives (d : Disk) (p : Path) (loc : Location) : Prop :=
  if p.endsInside then d.get? loc = some .directory
  else d.get? loc.tail = some .directory ∧ ∀ n ∈ loc.head?, n.bytes.length ≤ Name.maxLength

/-- Exactly when a path can be followed to its end. -/
theorem locate_eq_ok_iff {d : Disk} {p : Path} {loc : Location} :
    d.locate p = .ok loc ↔ accept p = .ok () ∧ d.walk p = .ok loc ∧ d.Arrives p loc := by
  unfold locate Arrives
  rw [Except.bind_eq_ok_iff]
  constructor
  · rintro ⟨_, accepted, rest⟩
    obtain ⟨found, followed, rest⟩ := Except.bind_eq_ok_iff.mp rest
    split at rest
    · next inside =>
      obtain ⟨_, passed, last⟩ := Except.bind_eq_ok_iff.mp rest
      cases last
      exact ⟨accepted, followed, by simpa [inside] using passThrough_eq_ok_iff.mp passed⟩
    · next outside =>
      obtain ⟨_, passed, rest⟩ := Except.bind_eq_ok_iff.mp rest
      split at rest
      · cases rest
      · next short =>
        cases rest
        refine ⟨accepted, followed, ?_⟩
        simp only [outside, Bool.false_eq_true, if_false]
        refine ⟨passThrough_eq_ok_iff.mp passed, ?_⟩
        intro n member
        have := member
        simp_all
  · rintro ⟨accepted, followed, arrives⟩
    refine ⟨(), accepted, Except.bind_eq_ok_iff.mpr ⟨loc, followed, ?_⟩⟩
    split at arrives
    · next inside =>
      rw [if_pos inside]
      exact Except.bind_eq_ok_iff.mpr ⟨(), passThrough_eq_ok_iff.mpr arrives, rfl⟩
    · next outside =>
      rw [if_neg outside]
      refine Except.bind_eq_ok_iff.mpr ⟨(), passThrough_eq_ok_iff.mpr arrives.1, ?_⟩
      have short : loc.head?.any (Name.maxLength < ·.bytes.length) = false := by
        cases ends : loc.head? with
        | none => rfl
        | some n => simpa using arrives.2 n ends
      simp [short, pure, Except.pure]

/-- Where a path ends, an entry may be put, unless a directory stands there. -/
theorem placed_of_locate {d : Disk} {p : Path} {loc : Location} (found : d.locate p = .ok loc)
    (stands : d.get? loc ≠ some .directory) : Placed d.entries loc := by
  obtain ⟨_, _, arrives⟩ := locate_eq_ok_iff.mp found
  unfold Arrives at arrives
  split at arrives
  · exact absurd arrives stands
  · refine ⟨?_, arrives.1, arrives.2⟩
    refine not_or.mp fun root => stands ?_
    rw [get?, lookup, if_pos root]

/-! ## Looking -/

def stat (d : Disk) (p : Path) : Except DiskError Entry := do
  let loc ← d.locate p
  match d.get? loc with
  | some e => .ok e
  | none => .error .notFound

def has (d : Disk) (p : Path) : Bool :=
  match d.stat p with
  | .ok _ => true
  | .error _ => false

def isFile (d : Disk) (p : Path) : Bool :=
  match d.stat p with
  | .ok (.file _) => true
  | _ => false

def isDirectory (d : Disk) (p : Path) : Bool :=
  match d.stat p with
  | .ok .directory => true
  | _ => false

/-- The bytes of the file that a path leads to. -/
def read (d : Disk) (p : Path) : Except DiskError (List UInt8) := do
  match ← d.stat p with
  | .file bytes => .ok bytes
  | .directory => .error .isDirectory

/-- The names in the directory that a path leads to. -/
def readDirectory (d : Disk) (p : Path) : Except DiskError (List Name) := do
  let loc ← d.locate p
  match d.get? loc with
  | none => .error .notFound
  | some (.file _) => .error .notDirectory
  | some .directory => .ok (d.children loc)

end Disk

end NodeTelemetry
