import NodeTelemetry.Notice
import NodeTelemetry.Schedule.State
import NodeTelemetry.Snapshot.Basic
import NodeTelemetry.Text.Described
import NodeTelemetry.Time.CaptureClock

/-!
# The scheduler

Between two waits the scheduler makes passes. A pass looks at the parameters in
force, forgets the instance's files when sampling was switched off, and runs a
cycle if a sample is due. A cycle takes one snapshot, writes it and prunes;
whatever fails in it is reported and counted, and the cadence stays.
-/

namespace NodeTelemetry

structure Stats where
  samplesWritten : Nat := 0
  writeFailures : Nat := 0
  pruneFailures : Nat := 0
  filesPruned : Nat := 0
  filesPurged : Nat := 0
  deriving DecidableEq, Repr, Inhabited

structure Scheduler where
  store : Store
  builder : SnapshotBuilder
  clock : CaptureClock
  state : SchedulerState
  stats : Stats := {}
  deriving DecidableEq, Repr

namespace Scheduler

/-- A scheduler at its start. The first grace period counts from `startedAt`. -/
def new (c : Control) (store : Store) (builder : SnapshotBuilder) (clock : CaptureClock) (startedAt : Instant) :
    Scheduler :=
  { store, builder, clock, state := SchedulerState.initial c startedAt }

/-- The id of the instance whose files the scheduler keeps. -/
def instanceId (s : Scheduler) : String := s.builder.identity.instanceId

/-- The counters after a purge, and what it reports. -/
def countPurge (stats : Stats) : Except StorageError Removal → Stats × List Notice
  | .error _ => (stats, [.purgeFailed])
  | .ok r =>
    match r.result with
    | .ok n => ({ stats with filesPurged := stats.filesPurged + n }, r.notices)
    | .error _ => (stats, r.notices ++ [.purgeFailed])

/-- The counters after a prune, and what it reports. -/
def countPrune (stats : Stats) : Except StorageError Removal → Stats × List Notice
  | .error _ => ({ stats with pruneFailures := stats.pruneFailures + 1 }, [.pruneFailed])
  | .ok r =>
    match r.result with
    | .ok n => ({ stats with filesPruned := stats.filesPruned + n }, r.notices)
    | .error _ => ({ stats with pruneFailures := stats.pruneFailures + 1 }, r.notices ++ [.pruneFailed])

/-- Looks at the enabled flag. Switching off forgets every retained file of the instance. -/
def reconcile (s : Scheduler) (c : Control) (now : Instant) : Procedure (Scheduler × List Notice) :=
  match s.state.onControl c now with
  | (state, .deactivated) => do
    let (stats, notices) := countPurge s.stats (← s.store.purge s.instanceId)
    return ({ s with state, stats }, notices)
  | (state, _) => return ({ s with state }, [])

/-- The snapshot of an instant. -/
def sample (s : Scheduler) (report : Option RoleState) (now : Instant) : Snapshot :=
  s.builder.snapshot (classifyReport report) (s.clock.nowMs now) now

/-- Takes one sample, writes it and prunes. Gives what became of the file. -/
def cycle (s : Scheduler) (c : Control) (report : Option RoleState) (now : Instant) :
    Procedure (Scheduler × Except StorageError Path × List Notice) := do
  let snapshot := s.sample report now
  let state := s.state.afterSample now
  match ← s.store.write snapshot with
  | .error e =>
    let stats := { s.stats with writeFailures := s.stats.writeFailures + 1 }
    return ({ s with state, stats }, .error e, [.writeFailed])
  | .ok path =>
    let written := { s.stats with samplesWritten := s.stats.samplesWritten + 1 }
    let (stats, notices) := countPrune written (← s.store.prune s.instanceId snapshot.capturedAt c.keep)
    return ({ s with state, stats }, .ok path, notices)

inductive PassEnd where
  | idle
  /-- A cycle ran, and its file was written or could not be. -/
  | sampled (written : Except StorageError Path)
  /-- A cycle was due and the source of the role broke. -/
  | failed

/-- One pass: looks at the flag, and runs a cycle if a sample is due. -/
def pass (s : Scheduler) (c : Control) (source : RoleSource) (now : Instant) :
    Procedure (Scheduler × PassEnd × List Notice) := do
  let (s, looked) ← s.reconcile c now
  if s.state.isDue c now then
    if source.isBroken then return (s, .failed, looked)
    let (s, written, cycled) ← s.cycle c source.current now
    return (s, .sampled written, looked ++ cycled)
  else return (s, .idle, looked)

/-! ## Description -/

def describeStats (s : Stats) : String :=
  Text.described "SchedulerStats"
    [("samples_written", s.samplesWritten.repr), ("write_failures", s.writeFailures.repr),
     ("prune_failures", s.pruneFailures.repr), ("files_pruned", s.filesPruned.repr),
     ("files_purged", s.filesPurged.repr)]

/-- The description of a scheduler. One that is active has none, since instants have no text. -/
def describe? (s : Scheduler) : Option String :=
  match s.state with
  | .disabled => some (Text.described "Scheduler" [("state", "Disabled"), ("stats", describeStats s.stats)])
  | _ => none

end Scheduler

end NodeTelemetry
