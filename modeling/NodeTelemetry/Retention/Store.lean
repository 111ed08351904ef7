import NodeTelemetry.Disk.Procedure
import NodeTelemetry.Json.Fault
import NodeTelemetry.Retention.FileName
import NodeTelemetry.Snapshot.Printer

/-!
# The retention store

One directory holds the snapshot files of all instances on a host. A snapshot is
written beside its final name and moved there once it is complete; files are
listed by what their names say, pruned by age, and purged when an instance is to
be forgotten. The newest file of an instance is never pruned.
-/

namespace NodeTelemetry

inductive StorageError where
  | io
  | atPath (p : Path) (cause : DiskError)
  | nameExhausted (dir : Path)
  | document (fault : Json.Fault)
  deriving DecidableEq, Repr

/-- A store: the directory that holds its files. -/
structure Store where
  dir : Path
  deriving DecidableEq, Repr

structure SnapshotFile where
  path : Path
  instanceId : String
  time : UInt64
  deriving DecidableEq, Repr

/-- What a pass over files to be removed did: how many it removed and which it could not remove. -/
structure Removal where
  removed : Nat
  failed : List (Path × DiskError)
  deriving DecidableEq, Repr

/-- The outcome of a pass: the number of removed files, or the first failure. -/
def Removal.result (r : Removal) : Except StorageError Nat :=
  match r.failed with
  | [] => .ok r.removed
  | (p, e) :: _ => .error (.atPath p e)

namespace Store

open Retention

/-- How many names are tried for one snapshot. -/
def nameAttempts : Nat := 1000

def finalPath (s : Store) (n : FileName) : Path := s.dir.join (Path.ofText n.text)

/-- The path of a file that is being written. -/
def tempPath (s : Store) (n : FileName) : Path := s.dir.join (Path.ofText n.tempText)

/-- Makes the directory of the store, if that can be done now. -/
def prepare (s : Store) : Procedure (Except DiskError Unit) := .makeDirectories s.dir

/-- Writes a file beside its final name and moves it there. When that fails, what was written is
    removed again. -/
def place (s : Store) (n : FileName) (body : List UInt8) : Procedure (Except StorageError Path) := do
  match ← Procedure.writeFile (s.tempPath n) body with
  | .error e =>
    let _ ← Procedure.perform (.remove (s.tempPath n))
    return .error (.atPath (s.tempPath n) e)
  | .ok () =>
    match ← Procedure.perform (.rename (s.tempPath n) (s.finalPath n)) with
    | .error e =>
      let _ ← Procedure.perform (.remove (s.tempPath n))
      return .error (.atPath (s.finalPath n) e)
    | .ok () => return .ok (s.finalPath n)

/-- The name that is tried after `tried` names of a snapshot were taken. -/
def nameAfter (snapshot : Snapshot) (tried : Nat) : FileName :=
  ⟨Word.addCapped snapshot.capturedAt tried, snapshot.instanceId⟩

/-- Places a snapshot under the first of `attempts` names that is free. -/
def placeFrom (s : Store) (snapshot : Snapshot) (tried : Nat) : Nat → Procedure (Except StorageError Path)
  | 0 => return .error (.nameExhausted s.dir)
  | attempts + 1 => do
    if ← Procedure.observe (·.has (s.finalPath (nameAfter snapshot tried))) then
      placeFrom s snapshot (tried + 1) attempts
    else place s (nameAfter snapshot tried) snapshot.render

/-- Writes a snapshot as a new file and gives its path. The time in the name is the capture time or,
    where that name is taken, the next later one that is free. -/
def write (s : Store) (snapshot : Snapshot) : Procedure (Except StorageError Path) := do
  match ← s.prepare with
  | .error e => return .error (.atPath s.dir e)
  | .ok () => placeFrom s snapshot 0 nameAttempts

/-- The snapshot file that a name in the store's directory stands for. -/
def fileOfName? (s : Store) (d : Disk) (n : Name) : Option SnapshotFile :=
  (FileName.ofName? n).bind fun named =>
    let path := s.dir.child n
    if d.isFile path then some ⟨path, named.instanceId, named.time⟩ else none

/-- The order of a listing: by time, then by id. -/
def listedBefore (a b : SnapshotFile) : Bool :=
  a.time < b.time || (a.time = b.time && a.instanceId ≤ b.instanceId)

/-- Puts a file into a listing, in front of the files that do not come before it. -/
def insertFile (f : SnapshotFile) : List SnapshotFile → List SnapshotFile
  | [] => [f]
  | g :: rest => if listedBefore f g then f :: g :: rest else g :: insertFile f rest

/-- Files in the order of a listing. Files of one time and id keep the order in which they stand. -/
def sortFiles (files : List SnapshotFile) : List SnapshotFile := files.foldr insertFile []

/-- The finished files of all instances, oldest first. A directory that is missing holds none. -/
def listAll (s : Store) (d : Disk) : Except StorageError (List SnapshotFile) :=
  match d.readDirectory s.dir with
  | .error .notFound => .ok []
  | .error e => .error (.atPath s.dir e)
  | .ok names => .ok (sortFiles (names.filterMap (s.fileOfName? d)))

/-- The finished files of one instance, oldest first. -/
def list (s : Store) (instanceId : String) (d : Disk) : Except StorageError (List SnapshotFile) := do
  return (← s.listAll d).filter (·.instanceId = instanceId)

/-- Removes files one after another. A file that is gone already is passed over. -/
def removeFiles : List SnapshotFile → Procedure Removal
  | [] => return ⟨0, []⟩
  | f :: rest => do
    match ← Procedure.perform (.remove f.path) with
    | .ok () => do
      let r ← removeFiles rest
      return { r with removed := r.removed + 1 }
    | .error .notFound => removeFiles rest
    | .error e => do
      let r ← removeFiles rest
      return { r with failed := (f.path, e) :: r.failed }

/-- The time before which files have expired. -/
def cutoff (now : UInt64) (keep : Span) : UInt64 := Word.subFloored now (Word.cap keep.millis)

/-- The files of a listing that have expired. The last one never does. -/
def expired (now : UInt64) (keep : Span) (files : List SnapshotFile) : List SnapshotFile :=
  files.dropLast.filter (·.time < cutoff now keep)

def prune (s : Store) (instanceId : String) (now : UInt64) (keep : Span) :
    Procedure (Except StorageError Removal) := do
  match ← Procedure.observe (s.list instanceId) with
  | .error e => return .error e
  | .ok files => return .ok (← removeFiles (expired now keep files))

def purge (s : Store) (instanceId : String) : Procedure (Except StorageError Removal) := do
  match ← Procedure.observe (s.list instanceId) with
  | .error e => return .error e
  | .ok files => return .ok (← removeFiles files)

end Store

end NodeTelemetry
