import NodeTelemetry.Json.Skip
import NodeTelemetry.Json.Value
import NodeTelemetry.Snapshot.Basic

/-!
# Reading a snapshot

A document is read in one pass: members in any order, unknown ones passed over,
known ones at most once. What may be left out has a default. The document may
also be a list of all twelve values in order.
-/

namespace NodeTelemetry.Snapshot

open Json

inductive Key where
  | instanceId
  | internalId
  | source
  | storageEngine
  | proFeatures
  | pillarVersion
  | uptime
  | replicationState
  | replicationId
  | shardServer
  | configServer
  | capturedAt
  deriving DecidableEq, Repr

namespace Key

def all : List Key :=
  [instanceId, internalId, source, storageEngine, proFeatures, pillarVersion, uptime, replicationState,
   replicationId, shardServer, configServer, capturedAt]

def name : Key → String
  | instanceId => "db_instance_id"
  | internalId => "db_internal_id"
  | source => "source"
  | storageEngine => "storage_engine"
  | proFeatures => "pro_features"
  | pillarVersion => "pillar_version"
  | uptime => "uptime"
  | replicationState => "replication_state"
  | replicationId => "db_replication_id"
  | shardServer => "shard_svr"
  | configServer => "config_svr"
  | capturedAt => "collected_at"

def ofName? (s : String) : Option Key := all.find? (name · = s)

/-- Members that may be left out. -/
def hasDefault : Key → Bool
  | proFeatures | replicationState | replicationId | shardServer | configServer => true
  | _ => false

end Key

structure Draft where
  instanceId : Option String := none
  internalId : Option String := none
  source : Option String := none
  storageEngine : Option String := none
  proFeatures : Option (List String) := none
  pillarVersion : Option String := none
  uptime : Option UInt64 := none
  replicationState : Option (Option String) := none
  replicationId : Option (Option String) := none
  shardServer : Option Bool := none
  configServer : Option Bool := none
  capturedAt : Option UInt64 := none
  deriving DecidableEq, Repr, Inhabited

namespace Draft

def has (d : Draft) : Key → Bool
  | .instanceId => d.instanceId.isSome
  | .internalId => d.internalId.isSome
  | .source => d.source.isSome
  | .storageEngine => d.storageEngine.isSome
  | .proFeatures => d.proFeatures.isSome
  | .pillarVersion => d.pillarVersion.isSome
  | .uptime => d.uptime.isSome
  | .replicationState => d.replicationState.isSome
  | .replicationId => d.replicationId.isSome
  | .shardServer => d.shardServer.isSome
  | .configServer => d.configServer.isSome
  | .capturedAt => d.capturedAt.isSome

def read (d : Draft) (key : Key) (s : List UInt8) : Except Fault (Draft × List UInt8) :=
  match key with
  | .instanceId => do
    let (v, rest) ← readString "a string" s
    return ({ d with instanceId := some v }, rest)
  | .internalId => do
    let (v, rest) ← readString "a string" s
    return ({ d with internalId := some v }, rest)
  | .source => do
    let (v, rest) ← readString "a string" s
    return ({ d with source := some v }, rest)
  | .storageEngine => do
    let (v, rest) ← readString "a string" s
    return ({ d with storageEngine := some v }, rest)
  | .proFeatures => do
    let (v, rest) ← readStrings s
    return ({ d with proFeatures := some v }, rest)
  | .pillarVersion => do
    let (v, rest) ← readString "a string" s
    return ({ d with pillarVersion := some v }, rest)
  | .uptime => do
    let (v, rest) ← readStoredWord 1 s
    return ({ d with uptime := some v }, rest)
  | .replicationState => do
    let (v, rest) ← readOptionalString "a string" s
    return ({ d with replicationState := some v }, rest)
  | .replicationId => do
    let (v, rest) ← readOptionalString "a string" s
    return ({ d with replicationId := some v }, rest)
  | .shardServer => do
    let (v, rest) ← readStoredFlag 1 s
    return ({ d with shardServer := some v }, rest)
  | .configServer => do
    let (v, rest) ← readStoredFlag 1 s
    return ({ d with configServer := some v }, rest)
  | .capturedAt => do
    let (v, rest) ← readStoredWord 1 s
    return ({ d with capturedAt := some v }, rest)

/-- A member that must have been read. -/
def need {α : Type} (key : Key) (v : Option α) : Except Fault α :=
  match v with
  | some v => .ok v
  | none => .error (.missingField key.name)

/-- The snapshot of the members that were read, with defaults for those that may be left out. -/
def finish (d : Draft) : Except Fault Snapshot := do
  let instanceId ← need .instanceId d.instanceId
  let internalId ← need .internalId d.internalId
  let source ← need .source d.source
  let storageEngine ← need .storageEngine d.storageEngine
  let pillarVersion ← need .pillarVersion d.pillarVersion
  let uptime ← need .uptime d.uptime
  let capturedAt ← need .capturedAt d.capturedAt
  return { instanceId, internalId, source, storageEngine
           proFeatures := d.proFeatures.getD []
           pillarVersion, uptime
           replicationState := d.replicationState.getD none
           replicationId := d.replicationId.getD none
           shardServer := d.shardServer.getD false
           configServer := d.configServer.getD false
           capturedAt }

end Draft

/-- Reads the members of an object up to its closing bracket. -/
def readMembers : Nat → Bool → Draft → List UInt8 → Except Fault (Draft × List UInt8)
  | 0, _, _, _ => .error .endInObject
  | fuel + 1, first, d, s => do
    match ← nextKey first s with
    | (none, rest) => return (d, rest)
    | (some name, rest) =>
      match Key.ofName? name with
      | none => readMembers fuel false d (← skip (← readColon rest))
      | some key =>
        if d.has key then throw (.duplicateField key.name)
        let (d, rest) ← d.read key (← readColon rest)
        readMembers fuel false d rest

/-- Reads the values of a list for the given members. A list that ends too early is too short by the
    members from the first one without a default on; `position` counts the values read. -/
def readPositions : Bool → Nat → Draft → List Key → List UInt8 → Except Fault (Draft × List UInt8)
  | _, _, d, [], s => .ok (d, s)
  | first, position, d, key :: keys, s => do
    let (more, rest) ← nextItem first s
    if more then
      let (d, rest) ← d.read key rest
      readPositions false (position + 1) d keys rest
    else
      let defaults := (key :: keys).takeWhile Key.hasDefault
      throw (.wrongLength (position + defaults.length) "struct Snapshot with 12 elements")

/-- Reads the closing bracket of a list that must have no further item. -/
def closeList (s : List UInt8) : Except Fault (List UInt8) :=
  match skipSpace s with
  | [] => .error .endInList
  | b :: rest =>
    if b = 93 then .ok rest
    else if b = 44 ∧ (skipSpace rest).head? = some 93 then .error .trailingComma
    else .error .trailingCharacters

def parse (s : List UInt8) : Except Fault Snapshot := do
  match skipSpace s with
  | [] => throw .endInValue
  | b :: rest =>
    if b = 123 then
      let (d, rest) ← readMembers (s.length + 1) true {} rest
      let snapshot ← d.finish
      Json.finish rest
      return snapshot
    else if b = 91 then
      let (d, rest) ← readPositions true 0 {} Key.all rest
      let snapshot ← d.finish
      Json.finish (← closeList rest)
      return snapshot
    else throw (wrongTypeAt "struct Snapshot" b rest)

end NodeTelemetry.Snapshot
