import NodeTelemetry.Role.Basic
import NodeTelemetry.Text.Blank

/-!
# Classification of a node

A report is mapped to the role that documents show. A router has no other
property; a member without a replication id counts as unknown; a node whose
role is not known is shown as a standalone one.
-/

namespace NodeTelemetry

/-- The role of a node when a sample is taken. -/
inductive NodeRole where
  | standalone
  | primary
  | secondary
  | arbiter
  /-- A member in any other state, such as starting up or recovering. -/
  | other (state : MemberState)
  | router
  /-- A member that reports no replication id. -/
  | unknown
  deriving DecidableEq, Repr

namespace NodeRole

/-- The roles of replica set members. -/
def isMember : NodeRole → Bool
  | primary | secondary | arbiter | other _ => true
  | standalone | router | unknown => false

/-- The member state that a document shows. -/
def memberState? : NodeRole → Option MemberState
  | primary => some .primary
  | secondary => some .secondary
  | arbiter => some .arbiter
  | other state => some state
  | standalone | router | unknown => none

/-- The role of a member in a state. -/
def ofMemberState : MemberState → NodeRole
  | .primary => primary
  | .secondary => secondary
  | .arbiter => arbiter
  | state => other state

/-- Roles and member states correspond one to one on members. -/
@[simp] theorem memberState?_ofMemberState (s : MemberState) : (ofMemberState s).memberState? = some s := by
  cases s <;> rfl

@[simp] theorem isMember_ofMemberState (s : MemberState) : (ofMemberState s).isMember = true := by
  cases s <;> rfl

end NodeRole

/-- What the classifier says about a node. -/
structure Classification where
  role : NodeRole
  replicationId : Option String
  shardServer : Bool
  configServer : Bool
  deriving DecidableEq, Repr

namespace Classification

/-- The classification of a node whose role is not known. -/
def standalone : Classification := ⟨.standalone, none, false, false⟩

def isRouter (c : Classification) : Bool := c.role = .router

end Classification

/-- The role and the replication id of a storage node. -/
def classifyMember : Option ReplicaSetState → NodeRole × Option String
  | none => (.standalone, none)
  | some rs =>
    if Text.isBlank rs.replicationId then (.unknown, none)
    else (.ofMemberState rs.memberState, some rs.replicationId)

def classify (s : RoleState) : Classification :=
  match s.processKind with
  | .mongos => ⟨.router, none, false, false⟩
  | .mongod =>
    { role := (classifyMember s.replicaSet).1
      replicationId := (classifyMember s.replicaSet).2
      shardServer := s.clusterRole = .shardServer
      configServer := s.clusterRole = .configServer }

/-- The classification of whatever is reported, a standalone node's when nothing is. -/
def classifyReport : Option RoleState → Classification
  | some state => classify state
  | none => .standalone

end NodeTelemetry
