import NodeTelemetry.Snapshot.Basic
import NodeTelemetry.Text.Hex
import NodeTelemetry.Text.Numeral
import NodeTelemetry.Text.Utf8

/-!
# Writing a snapshot

A snapshot is written as a JSON object with one member a line. Every scalar is
a string. A member of the role is left out when it does not apply, so a flag
that is written is always true.
-/

namespace NodeTelemetry.Snapshot

/-- The bytes of a byte inside a string. -/
def escapeByte (b : UInt8) : List UInt8 :=
  if b = 34 then [92, 34]
  else if b = 92 then [92, 92]
  else if b = 8 then [92, 98]
  else if b = 12 then [92, 102]
  else if b = 10 then [92, 110]
  else if b = 13 then [92, 114]
  else if b = 9 then [92, 116]
  else if b < 32 then
    [92, 117, 48, 48, (Text.hexDigit (b.toNat / 16)).toUInt8, (Text.hexDigit (b.toNat % 16)).toUInt8]
  else [b]

def stringBytes (s : String) : List UInt8 := 34 :: (Text.toBytes s).flatMap escapeByte ++ [34]

/-- What the value of a member can be. -/
inductive Field where
  | text (s : String)
  | texts (items : List String)
  deriving DecidableEq, Repr

/-- The members that a snapshot has, in the order in which they are written. -/
def members (s : Snapshot) : List (String × Field) :=
  [("db_instance_id", .text s.instanceId),
   ("db_internal_id", .text s.internalId),
   ("source", .text s.source),
   ("storage_engine", .text s.storageEngine),
   ("pro_features", .texts s.proFeatures),
   ("pillar_version", .text s.pillarVersion),
   ("uptime", .text s.uptime.toNat.repr)]
  ++ (s.replicationState.toList.map fun v => ("replication_state", .text v))
  ++ (s.replicationId.toList.map fun v => ("db_replication_id", .text v))
  ++ (if s.shardServer then [("shard_svr", .text "true")] else [])
  ++ (if s.configServer then [("config_svr", .text "true")] else [])
  ++ [("collected_at", .text s.capturedAt.toNat.repr)]

/-- A line end and the blanks before what is `depth` levels deep. -/
def newLine (depth : Nat) : List UInt8 := 10 :: List.replicate (2 * depth) 32

/-- Items one a line, with commas between them. -/
def lines (depth : Nat) (items : List (List UInt8)) : List UInt8 :=
  List.intercalate [44] (items.map (newLine depth ++ ·))

def Field.bytes : Field → List UInt8
  | text s => stringBytes s
  | texts [] => [91, 93]
  | texts items => 91 :: lines 2 (items.map stringBytes) ++ newLine 1 ++ [93]

/-- A member: its key, a colon, a blank and its value. -/
def memberBytes (m : String × Field) : List UInt8 := stringBytes m.1 ++ [58, 32] ++ m.2.bytes

def render (s : Snapshot) : List UInt8 :=
  123 :: lines 1 (s.members.map memberBytes) ++ newLine 0 ++ [125]

end NodeTelemetry.Snapshot
