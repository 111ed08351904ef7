import NodeTelemetry.Disk.Procedure
import NodeTelemetry.Error
import NodeTelemetry.Identity.Record
import NodeTelemetry.Snapshot.Basic

/-!
# The identity of an instance

The record in the data directory holds the instance id. It is made on the first
start and replaced when it is of no use. A new record is written beside its
place and moved there, so that no reader finds half of one. The internal id is
new on every start and is kept nowhere.
-/

namespace NodeTelemetry

/-- How the instance id of a start came about. -/
inductive Origin where
  | loaded
  | created
  | regenerated
  deriving DecidableEq, Repr

/-- What stands where the record should be. -/
inductive RecordState where
  | absent
  | valid (o : ObjectId)
  | unusable (fault : RecordFault)
  deriving DecidableEq, Repr

namespace Identity

def recordName : Name := Name.ofText "psmdb_telemetry.data"

/-- The name of a record that is being written. -/
def tempName : Name := Name.ofText "psmdb_telemetry.data.tmp"

/-- The path of the record in a data directory. -/
def recordPath (dbPath : Path) : Path := dbPath.child recordName

/-- The path of a record that is being written. -/
def tempPath (dbPath : Path) : Path := dbPath.child tempName

/-- The state of the record in a data directory. -/
def recordState (dbPath : Path) (d : Disk) : RecordState :=
  match d.read (recordPath dbPath) with
  | .error .notFound => .absent
  | .error _ => .unusable .malformed
  | .ok bytes =>
    match Record.instanceId bytes with
    | .ok o => .valid o
    | .error fault => .unusable fault

/-- Makes the directories above a path, if it has any. -/
def makeParents (p : Path) : Procedure (Except DiskError Unit) :=
  match p.parent? with
  | none => return .ok ()
  | some above => .makeDirectories above

/-- Puts a record with an id in place. -/
def persist (dbPath : Path) (o : ObjectId) : Procedure (Except DiskError Unit) := do
  match ← makeParents (recordPath dbPath) with
  | .error e => return .error e
  | .ok () =>
    match ← Procedure.writeFile (tempPath dbPath) (Record.ofId o) with
    | .error e => return .error e
    | .ok () => Procedure.perform (.rename (tempPath dbPath) (recordPath dbPath))

/-- The outcome of a start: an identity and where it comes from, or the failure to put a new record
    in place. -/
abbrev Loaded := Except IdentityError (Identity × Origin)

/-- Puts a new id in place of what stood there. -/
def renew (dbPath : Path) (fresh internal : ObjectId) (origin : Origin) : Procedure Loaded := do
  match ← persist dbPath fresh with
  | .error _ => return .error (.persist (recordPath dbPath))
  | .ok () => return .ok (⟨fresh.text, internal.text⟩, origin)

/-- Loads the identity from its record, or makes a new record with a fresh id. -/
def load (dbPath : Path) (fresh internal : ObjectId) : Procedure Loaded := do
  match ← Procedure.observe (recordState dbPath) with
  | .valid o => return .ok (⟨o.text, internal.text⟩, .loaded)
  | .absent => renew dbPath fresh internal .created
  | .unusable _ => renew dbPath fresh internal .regenerated

/-- What a start reports about a record that it found. -/
def notices : RecordState → List Notice
  | .unusable fault => [.recordUnreadable fault]
  | _ => []

end Identity

end NodeTelemetry
