import NodeTelemetry.Config.Basic
import NodeTelemetry.Control.Surface
import NodeTelemetry.Identity.Load
import NodeTelemetry.Schedule.Loop

/-!
# The collector of a node

A collector joins an identity, a control surface, a store and a scheduler. It is
built from a configuration; trouble with the disk never keeps it from being
built, only a scrape interval of zero does. From then on things happen to it:
time passes, parameters change, roles are published, the shutdown is signalled.
-/

namespace NodeTelemetry

/-- Ids that were never used before: the one of this run, the one for a new record, and two for a
    node whose record cannot be written. -/
structure FreshIds where
  internal : ObjectId
  record : ObjectId
  spareInstance : ObjectId
  spareInternal : ObjectId
  deriving DecidableEq, Repr

structure Collector where
  identity : Identity
  surface : Surface
  source : RoleSource
  loop : Loop
  deriving DecidableEq, Repr

namespace Collector

def store (c : Collector) : Store := c.loop.scheduler.store

def stats (c : Collector) : Stats := c.loop.scheduler.stats

/-- The identity of a node, kept in memory only when its record cannot be written. -/
def identify (dbPath : Path) (ids : FreshIds) : Procedure (Identity × List Notice) := do
  let found ← Procedure.observe (Identity.recordState dbPath)
  match ← Identity.load dbPath ids.record ids.internal with
  | .ok (identity, _) => return (identity, Identity.notices found)
  | .error _ =>
    return (⟨ids.spareInstance.text, ids.spareInternal.text⟩, Identity.notices found ++ [.identityNotPersisted])

/-- Builds a collector. Without a source the role is the one that the configuration declares. -/
def build (config : NodeConfig) (source : Option RoleSource) (startedAt : Instant) (clock : CaptureClock)
    (ids : FreshIds) : Procedure (Except Error Collector × List Notice) := do
  let (identity, identified) ← identify (Path.ofText config.server.dbPath) ids
  match Surface.new config.telemetry.control with
  | .error fault => return (.error (.ofControlFault fault), identified)
  | .ok surface =>
    let store : Store := ⟨Path.ofText config.telemetry.telemetryDir⟩
    let prepared ← store.prepare
    let trouble : List Notice := match prepared with
      | .ok () => []
      | .error _ => [.directoryUnavailable]
    let builder : SnapshotBuilder := ⟨identity, config.server.buildInfo, startedAt⟩
    let scheduler := Scheduler.new surface.current store builder clock startedAt
    let source := source.getD (.fixed (config.cluster.roleState config.server.processKind))
    return (.ok ⟨identity, surface, source, Loop.new scheduler surface.current⟩, identified ++ trouble)

/-- Lets the loop run until it waits or ends. The wake-up for changed parameters is used up. -/
def react (c : Collector) (signalled : Bool) (now : Instant) : Procedure (Collector × List Notice) := do
  let loop := if c.surface.notified && !signalled then c.loop.wake else c.loop
  let (loop, notices) ← loop.settle c.surface.current c.source signalled now
  return ({ c with loop, surface := { c.surface with notified := false } }, notices)

/-- Lets a collector whose deadline has come react. -/
def expire (c : Collector) (now : Instant) : Procedure (Collector × List Notice) :=
  { c with loop := c.loop.wake }.react false now

def update (c : Collector) (change : ControlChange) : Collector × Except ControlFault Control :=
  let (surface, result) := c.surface.update change.apply
  ({ c with surface }, result.control)

/-- Replaces what a shared source holds. -/
def publish (c : Collector) (state : RoleState) : Collector := { c with source := c.source.publish state }

/-- Makes the role of a shared source unknown. -/
def clearRole (c : Collector) : Collector := { c with source := c.source.clear }

/-- Signals the shutdown and waits for the end: the counters, or nothing from a loop that failed. -/
def stop (c : Collector) (now : Instant) : Procedure (Option Stats × List Notice) := do
  let (c, notices) ← { c with loop := c.loop.signal }.react true now
  match c.loop.phase with
  | .failed => return (none, notices)
  | _ => return (some c.stats, notices)

/-- The description of a collector that is switched off. -/
def describe? (c : Collector) : Option String :=
  c.loop.scheduler.describe?.map fun scheduler =>
    Text.described "Collector"
      [("identity", Text.described "InstanceIdentity"
          [("instance_id", Text.quoted c.identity.instanceId), ("internal_id", Text.quoted c.identity.internalId)]),
       ("store", Text.described "RetentionStore"
          [("paths", Text.described "SnapshotPathManager" [("base_dir", Text.quoted c.store.dir.text)])]),
       ("scheduler", scheduler)]

end Collector

end NodeTelemetry
