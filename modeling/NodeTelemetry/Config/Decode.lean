import NodeTelemetry.Config.Basic

/-!
# Reading settings as values of a type

Flags, words and texts are read leniently: each takes what can be understood
as one, such as `yes`, `1` or `1.0` for a flag. The parts of a configuration
are read by name from tables and by position from lists, and a part that is not
there has its default.
-/

namespace NodeTelemetry

/-- A reader of a setting; it is told the path under which the setting was found. -/
abbrev Decoder (α : Type) := String → Setting → Except ConfigError α

namespace Decoder

/-- The error of a setting of the wrong type. -/
def mistyped {α : Type} (wanted key : String) (s : Setting) : Except ConfigError α :=
  .error (.wrongType s.found wanted key s.origin)

/-! ## Single values -/

/-- The flag that a word in lower case means. -/
def flagOfWord? : String → Option Bool
  | "true" | "on" | "yes" => some true
  | "false" | "off" | "no" => some false
  | _ => none

/-- The flag that a text in lower case means. -/
def flagOfText? : String → Option Bool
  | "1" => some true
  | "0" => some false
  | s => flagOfWord? s

/-- A flag; numbers other than zero mean yes. -/
def flag : Decoder Bool := fun key s =>
  match s with
  | .scalar (.flag b) _ => .ok b
  | .scalar (.integer n) _ => .ok (n ≠ 0)
  | .scalar (.number x) _ => .ok (!x.isZero)
  | .scalar (.text t) o =>
    match flagOfText? (Text.lowerCase t) with
    | some b => .ok b
    | none => .error (.wrongType (.scalar (.text (Text.lowerCase t))) "a boolean" key o)
  | s => mistyped "a boolean" key s

/-- A flag as a word: one for yes. -/
def wordOfFlag (b : Bool) : UInt64 := if b then 1 else 0

/-- A word; numbers are rounded, and flags and the texts for them are one or zero. -/
def word : Decoder UInt64 := fun key s =>
  match s with
  | .scalar (.flag b) _ => .ok (wordOfFlag b)
  | .scalar (.integer n) o =>
    if 0 ≤ n then .ok (UInt64.ofNat n.toNat)
    else .error (.wrongType (.scalar (.integer n)) "an unsigned 64 bit or less integer" key o)
  | .scalar (.number x) _ => .ok x.toWord
  | .scalar (.text t) o =>
    match flagOfWord? (Text.lowerCase t), Text.readWord t.toList with
    | some b, _ => .ok (wordOfFlag b)
    | none, .ok n => .ok n
    | none, .error _ => .error (.wrongType (.scalar (.text t)) "an integer" key o)
  | s => mistyped "an integer" key s

def written : Scalar → String
  | .flag b => if b then "true" else "false"
  | .integer n => toString n
  | .number x => plainNumber.text x
  | .text t => t

/-- A text; other values are written out. -/
def text : Decoder String := fun key s =>
  match s with
  | .scalar v _ => .ok (written v)
  | s => mistyped "a string" key s

/-- One of some values, by its word without regard to case. -/
def pick {α : Type} (kind : String) (all : List α) (wordOf : α → String) (name : String) : Except ConfigError α :=
  match all.find? fun a => Text.lowerCase (wordOf a) = Text.lowerCase name with
  | some a => .ok a
  | none => .error (.unknownWord kind name)

/-- One of some values, given by its word or by a table whose only key is the word. -/
def choice {α : Type} (kind : String) (all : List α) (wordOf : α → String) : Decoder α := fun _ s =>
  match s with
  | .scalar (.text t) _ => pick kind all wordOf t
  | .table [(k, _)] _ => pick kind all wordOf k
  | _ => .error (.noWord kind)

def optional {α : Type} (d : Decoder α) : Decoder (Option α) := fun key s =>
  match s with
  | .unset => .ok none
  | s => (d key s).map some

/-! ## Lists and tables -/

/-- The path of an item of a list. -/
def itemKey (key : String) (i : Nat) : String := key ++ "[" ++ i.repr ++ "]"

/-- The items of a list from the item `i` on. -/
def itemsFrom {α : Type} (d : Decoder α) (key : String) (i : Nat) : List Setting → Except ConfigError (List α)
  | [] => .ok []
  | s :: rest => do
    let a ← d (itemKey key i) s
    let more ← itemsFrom d key (i + 1) rest
    return a :: more

def listOf {α : Type} (d : Decoder α) : Decoder (List α) := fun key s =>
  match s with
  | .list xs _ => itemsFrom d key 0 xs
  | s => .error (.wrongShape s.found "a sequence")

/-- A part, which has a name and a position; its default when it is not there. -/
def part {α : Type} (key : String) (s : Setting) (name : String) (position : Nat) (d : Decoder α) (default : α) :
    Except ConfigError α :=
  match s with
  | .table entries _ => ((entries.lookup name).map (d (key ++ "." ++ name))).getD (.ok default)
  | .list xs _ => (xs[position]?.map (d (itemKey key position))).getD (.ok default)
  | _ => .ok default

/-- A setting that has parts, whose kind messages call `kind`. -/
def record {α : Type} (kind : String) (d : Decoder α) : Decoder α := fun key s =>
  match s with
  | .table .. => d key s
  | .list .. => d key s
  | s => .error (.wrongShape s.found ("struct " ++ kind))

/-! ## The parts of a configuration -/

def server : Decoder ServerConfig := record "ServerConfig" fun key s => do
  let d : ServerConfig := {}
  let dbPath ← part key s "db_path" 0 text d.dbPath
  let logDir ← part key s "log_dir" 1 text d.logDir
  let processKind ← part key s "process_kind" 2 (choice "ProcessKind" ProcessKind.all ProcessKind.word) d.processKind
  let storageEngine ← part key s "storage_engine" 3 text d.storageEngine
  let pillarVersion ← part key s "pillar_version" 4 text d.pillarVersion
  let proFeatures ← part key s "pro_features" 5 (listOf text) d.proFeatures
  return { dbPath, logDir, processKind, storageEngine, pillarVersion, proFeatures }

def cluster : Decoder ClusterConfig := record "ClusterConfig" fun key s => do
  let state := choice "MemberState" MemberState.all MemberState.word
  let replicaSetState ← part key s "replica_set_state" 0 (optional state) none
  let replicationId ← part key s "replication_id" 1 (optional text) none
  let clusterRole ← part key s "cluster_role" 2 (choice "ClusterRole" ClusterRole.all ClusterRole.word) .none
  return { replicaSetState, replicationId, clusterRole }

def telemetry : Decoder TelemetryConfig := record "TelemetryConfig" fun key s => do
  let d : TelemetryConfig := {}
  let enabled ← part key s "enabled" 0 flag d.enabled
  let gracePeriod ← part key s "grace_period_in_sec" 1 word d.gracePeriod
  let scrapeInterval ← part key s "scrape_interval_in_sec" 2 word d.scrapeInterval
  let historyKeepInterval ← part key s "history_keep_interval_in_sec" 3 word d.historyKeepInterval
  let telemetryDir ← part key s "telemetry_dir" 4 text d.telemetryDir
  return { enabled, gracePeriod, scrapeInterval, historyKeepInterval, telemetryDir }

/-- A section of the top table; its defaults when it is not there. -/
def sectionOf {α : Type} (top : Setting) (name : String) (d : Decoder α) (default : α) : Except ConfigError α :=
  ((top.field? name).map (d name)).getD (.ok default)

end Decoder

/-- The configuration that some settings describe. -/
def NodeConfig.ofSettings (top : Setting) : Except ConfigError NodeConfig := do
  let server ← Decoder.sectionOf top "server" Decoder.server {}
  let cluster ← Decoder.sectionOf top "cluster" Decoder.cluster {}
  let telemetry ← Decoder.sectionOf top "telemetry" Decoder.telemetry {}
  return { server, cluster, telemetry }

end NodeTelemetry
