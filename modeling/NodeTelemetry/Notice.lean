import NodeTelemetry.Retention.Store

/-!
# Notices

The collector does its best and never stops because of a failure; it says what
went wrong in notices, as warnings or as errors.
-/

namespace NodeTelemetry

/-- Why an identity record is of no use. -/
inductive RecordFault where
  /-- The record cannot be read, or its bytes are no record. -/
  | malformed
  | missingId
  /-- What stands in place of the instance id is none. -/
  | notAnId
  deriving DecidableEq, Repr

def RecordFault.text : RecordFault → String
  | .malformed => "malformed"
  | .missingId => "missing db_instance_id"
  | .notAnId => "db_instance_id is not an ObjectId"

/-- What the collector reports. -/
inductive Notice where
  | directoryUnavailable
  | keepBelowScrape
  | recordUnreadable (fault : RecordFault)
  | identityNotPersisted
  | writeFailed
  | deleteFailed (p : Path)
  | pruneFailed
  | purgeFailed
  deriving DecidableEq, Repr

namespace Notice

/-- Failures that cost something count as errors, the others as warnings. -/
def isError : Notice → Bool
  | identityNotPersisted | writeFailed => true
  | _ => false

def message : Notice → String
  | directoryUnavailable => "telemetry directory not available yet"
  | keepBelowScrape =>
    "history keep interval is shorter than scrape interval, only the newest snapshot will be retained"
  | recordUnreadable fault =>
    "telemetry identity record unreadable, generating a new instance id: " ++ fault.text
  | identityNotPersisted => "failed to persist telemetry identity, using an in-memory identity for this run"
  | writeFailed => "failed to write telemetry snapshot, skipping cycle"
  | deleteFailed _ => "failed to delete snapshot"
  | pruneFailed => "failed to prune telemetry snapshots"
  | purgeFailed => "telemetry disabled, failed to remove retained snapshots"

/-- A notice with its level. -/
def line (n : Notice) : String := (if n.isError then "ERROR " else "WARN ") ++ n.message

end Notice

/-- What a pass over files to be removed reports. -/
def Removal.notices (r : Removal) : List Notice := r.failed.map fun f => .deleteFailed f.1

end NodeTelemetry
