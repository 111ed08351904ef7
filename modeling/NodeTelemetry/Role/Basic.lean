/-!
# What a node reports about its place in a cluster

The layer that owns replication and sharding reports a plain state: which
process runs, the replica set it belongs to, and its sharding role. The fixed
words below are the ones that reports, documents and configuration use.
-/

namespace NodeTelemetry

/-- Which server process hosts the collector: a storage node or a query router. -/
inductive ProcessKind where
  | mongod
  | mongos
  deriving DecidableEq, Repr, Inhabited

inductive MemberState where
  | startup
  | primary
  | secondary
  | recovering
  | startup2
  | unknown
  | arbiter
  | down
  | rollback
  | removed
  deriving DecidableEq, Repr

/-- The sharding role that a storage node was started with. -/
inductive ClusterRole where
  | none
  | shardServer
  | configServer
  deriving DecidableEq, Repr, Inhabited

namespace ProcessKind

def all : List ProcessKind := [mongod, mongos]

def word : ProcessKind → String
  | mongod => "mongod"
  | mongos => "mongos"

/-- The name of a kind of process in descriptions of a configuration. -/
def label : ProcessKind → String
  | mongod => "Mongod"
  | mongos => "Mongos"

end ProcessKind

namespace MemberState

def all : List MemberState :=
  [startup, primary, secondary, recovering, startup2, unknown, arbiter, down, rollback, removed]

def word : MemberState → String
  | startup => "STARTUP"
  | primary => "PRIMARY"
  | secondary => "SECONDARY"
  | recovering => "RECOVERING"
  | startup2 => "STARTUP2"
  | unknown => "UNKNOWN"
  | arbiter => "ARBITER"
  | down => "DOWN"
  | rollback => "ROLLBACK"
  | removed => "REMOVED"

end MemberState

namespace ClusterRole

def all : List ClusterRole := [none, shardServer, configServer]

def word : ClusterRole → String
  | none => "none"
  | shardServer => "shardsvr"
  | configServer => "configsvr"

/-- The name of a sharding role in descriptions. -/
def label : ClusterRole → String
  | none => "None"
  | shardServer => "ShardServer"
  | configServer => "ConfigServer"

end ClusterRole

/-- Membership in a replica set. The replication id is shared by all members of the set. -/
structure ReplicaSetState where
  memberState : MemberState
  replicationId : String
  deriving DecidableEq, Repr

/-- The report of the clustering layer at one moment. -/
structure RoleState where
  processKind : ProcessKind
  replicaSet : Option ReplicaSetState
  clusterRole : ClusterRole
  deriving DecidableEq, Repr

namespace RoleState

def standalone : RoleState := ⟨.mongod, none, .none⟩

def router : RoleState := ⟨.mongos, none, .none⟩

/-- A member of a replica set. -/
def member (state : MemberState) (replicationId : String) : RoleState :=
  ⟨.mongod, some ⟨state, replicationId⟩, .none⟩

def withClusterRole (s : RoleState) (role : ClusterRole) : RoleState := { s with clusterRole := role }

end RoleState

/-- Who is asked for the report: a state fixed at the start, a cell in which the clustering layer
    publishes (empty while the role is unknown), or a source that breaks when asked. -/
inductive RoleSource where
  | fixed (state : RoleState)
  | shared (current : Option RoleState)
  | broken
  deriving DecidableEq, Repr

namespace RoleSource

/-- What the source answers now. -/
def current : RoleSource → Option RoleState
  | fixed state => some state
  | shared current => current
  | broken => none

/-- Whether asking the source ends the asker. -/
def isBroken : RoleSource → Bool
  | broken => true
  | _ => false

/-- Publishing replaces what a shared source holds and leaves the others alone. -/
def publish (state : RoleState) : RoleSource → RoleSource
  | shared _ => shared (some state)
  | source => source

/-- Clearing makes the role of a shared source unknown. -/
def clear : RoleSource → RoleSource
  | shared _ => shared none
  | source => source

end RoleSource

end NodeTelemetry
