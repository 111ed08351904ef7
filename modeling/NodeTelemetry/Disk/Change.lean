import NodeTelemetry.Disk.Following

/-!
# Changing a disk

Entries are put only into directories, and only files are replaced or removed
one by one. A change either happens as a whole or fails.
-/

namespace NodeTelemetry

namespace Disk

/-- Makes one directory where nothing stands. -/
def makeDirectory (d : Disk) (p : Path) : Except DiskError Disk := do
  accept p
  match found : d.locate p.withoutTrailingSlash with
  | .error e => .error e
  | .ok loc =>
    match stands : d.get? loc with
    | some _ => .error .exists
    | none => .ok (d.put loc .directory (placed_of_locate found (by simp [stands])) (fun _ => rfl))

/-- Makes an empty file, or empties the one that is there. -/
def create (d : Disk) (p : Path) : Except DiskError Disk :=
  match found : d.locate p with
  | .error e => .error e
  | .ok loc =>
    if stands : d.get? loc = some .directory then .error .isDirectory
    else .ok (d.put loc (.file []) (placed_of_locate found stands) (fun there => absurd there stands))

/-- Adds bytes to the end of a file. -/
def append (d : Disk) (p : Path) (more : List UInt8) : Except DiskError Disk :=
  match found : d.locate p with
  | .error e => .error e
  | .ok loc =>
    match stands : d.get? loc with
    | none => .error .notFound
    | some .directory => .error .isDirectory
    | some (.file bytes) =>
      .ok (d.put loc (.file (bytes ++ more)) (placed_of_locate found (by simp [stands])) (by simp [stands]))

def remove (d : Disk) (p : Path) : Except DiskError Disk := do
  let loc ← d.locate p
  match stands : d.get? loc with
  | none => .error .notFound
  | some .directory => .error .isDirectory
  | some (.file _) => .ok (d.erase loc (by simp [stands]))

/-- Gives a file another path, in place of the file that may stand there. -/
def rename (d : Disk) (source target : Path) : Except DiskError Disk := do
  let oldLoc ← d.locate source
  match found : d.locate target with
  | .error e => .error e
  | .ok newLoc =>
    match stands : d.get? oldLoc with
    | none => .error .notFound
    | some .directory => .error .isDirectory
    | some (.file bytes) =>
      if there : d.get? newLoc = some .directory then .error .isDirectory
      else
        have moved : d.get? oldLoc ≠ some .directory := by simp [stands]
        .ok ((d.erase oldLoc moved).put newLoc (.file bytes)
          ((placed_of_locate found there).mono fun held => (get?_erase_directory moved).mpr held)
          (fun stays => absurd ((get?_erase_directory moved).mp stays) there))

/-- Removes what a path leads to, with everything below it. -/
def removeTree (d : Disk) (p : Path) : Except DiskError Disk := do
  let loc ← d.locate p
  match d.get? loc with
  | none => .error .notFound
  | some _ => .ok (d.eraseTree loc)

end Disk

end NodeTelemetry
