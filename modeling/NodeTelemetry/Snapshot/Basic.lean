import NodeTelemetry.Role.Classification
import NodeTelemetry.Time.Span

/-!
# Snapshots

A snapshot is what one sample records about a node: who it is, what it runs, how
long it has been running, its role and the capture time.
-/

namespace NodeTelemetry

structure Snapshot where
  instanceId : String
  internalId : String
  /-- The kind of process, with a mark when the build has extra features. -/
  source : String
  storageEngine : String
  proFeatures : List String
  pillarVersion : String
  /-- Whole seconds since the process started. -/
  uptime : UInt64
  replicationState : Option String
  replicationId : Option String
  shardServer : Bool
  configServer : Bool
  /-- Milliseconds since the epoch. -/
  capturedAt : UInt64
  deriving DecidableEq, Repr

/-- What is known about the server's build; fixed while the process runs. -/
structure BuildInfo where
  processKind : ProcessKind
  storageEngine : String
  pillarVersion : String
  proFeatures : List String
  deriving DecidableEq, Repr

def BuildInfo.isPro (b : BuildInfo) : Bool := !b.proFeatures.isEmpty

/-- Who a node is: a lasting id, and one for this run of the process. -/
structure Identity where
  instanceId : String
  internalId : String
  deriving DecidableEq, Repr

/-- What stays the same in all snapshots of one process. -/
structure SnapshotBuilder where
  identity : Identity
  build : BuildInfo
  startedAt : Instant
  deriving DecidableEq, Repr

namespace SnapshotBuilder

/-- The source of a document: the kind of process and `-pro` for a build with extra features. -/
def source (b : SnapshotBuilder) (router : Bool) : String :=
  (if router then ProcessKind.mongos else ProcessKind.mongod).word ++ (if b.build.isPro then "-pro" else "")

/-- The snapshot of a node with a classification at an instant. A router, whether classified or built
    as one, shows no role; only a member shows its state and replication id. -/
def snapshot (b : SnapshotBuilder) (c : Classification) (capturedAt : UInt64) (now : Instant) : Snapshot :=
  let router := c.isRouter || b.build.processKind = .mongos
  let member := !router && c.role.isMember
  { instanceId := b.identity.instanceId
    internalId := b.identity.internalId
    source := b.source router
    storageEngine := b.build.storageEngine
    proFeatures := b.build.proFeatures
    pillarVersion := b.build.pillarVersion
    uptime := Word.cap (now.since b.startedAt).secs
    replicationState := if member then c.role.memberState?.map MemberState.word else none
    replicationId := if member then c.replicationId else none
    shardServer := !router && c.shardServer
    configServer := !router && c.configServer
    capturedAt }

end SnapshotBuilder

end NodeTelemetry
