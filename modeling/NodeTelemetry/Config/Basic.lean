import NodeTelemetry.Control.Basic
import NodeTelemetry.Error
import NodeTelemetry.Notice
import NodeTelemetry.Role.Basic
import NodeTelemetry.Snapshot.Basic
import NodeTelemetry.Text.Described

/-!
# Configuration of a node

The settings of the host server, the place of the node in a cluster, and the
cadence of sampling. Validation refuses settings that cannot work; what it
accepts is what a collector is built from. The paths among the settings are texts,
so only paths that are valid UTF-8 are covered.
-/

namespace NodeTelemetry

structure ServerConfig where
  /-- The data directory; the identity record lives there. -/
  dbPath : String := "/data/db"
  logDir : String := "./logs"
  processKind : ProcessKind := .mongod
  storageEngine : String := "wiredTiger"
  pillarVersion : String := "0.1.0"
  proFeatures : List String := []
  deriving DecidableEq, Repr, Inhabited

/-- The place of a node in a cluster, for nodes that nobody reports on while they run. -/
structure ClusterConfig where
  replicaSetState : Option MemberState := none
  replicationId : Option String := none
  clusterRole : ClusterRole := .none
  deriving DecidableEq, Repr, Inhabited

/-- The cadence of sampling; intervals are in seconds. -/
structure TelemetryConfig where
  enabled : Bool := true
  gracePeriod : UInt64 := 20
  scrapeInterval : UInt64 := 86400
  historyKeepInterval : UInt64 := 604800
  /-- The directory that the instances of a host share. -/
  telemetryDir : String := "/usr/local/percona/telemetry/psmdb"
  deriving DecidableEq, Repr, Inhabited

structure NodeConfig where
  server : ServerConfig := {}
  cluster : ClusterConfig := {}
  telemetry : TelemetryConfig := {}
  deriving DecidableEq, Repr, Inhabited

/-- What a snapshot says about the build. -/
def ServerConfig.buildInfo (c : ServerConfig) : BuildInfo :=
  ⟨c.processKind, c.storageEngine, c.pillarVersion, c.proFeatures⟩

/-- The control parameters that a collector starts with. -/
def TelemetryConfig.control (c : TelemetryConfig) : Control :=
  ⟨c.enabled, Span.ofSecs c.gracePeriod, Span.ofSecs c.scrapeInterval, Span.ofSecs c.historyKeepInterval⟩

/-- Whether a role is declared that only a storage node can have. -/
def ClusterConfig.declaresStorageRole (c : ClusterConfig) : Bool :=
  c.replicaSetState.isSome || c.clusterRole ≠ .none

/-- The report for a node of a fixed place. A member needs a state and a replication id. -/
def ClusterConfig.roleState (c : ClusterConfig) (kind : ProcessKind) : RoleState :=
  { processKind := kind
    replicaSet :=
      match c.replicaSetState, c.replicationId with
      | some state, some id => some ⟨state, id⟩
      | _, _ => none
    clusterRole := c.clusterRole }

/-! ## Validation -/

def refuse {α : Type} (text : String) : Except ConfigError α := .error (.refused text)

/-- The file by which a directory is tried out. -/
def probeName : Name := Name.ofText ".permission_test"

/-- Makes sure that a directory exists and takes files. -/
def validateDirectory (p : Path) (name : String) : Procedure (Except ConfigError Unit) := do
  if p.isEmpty then return refuse (name ++ " path cannot be empty")
  let made ← if ← Procedure.observe (·.has p) then pure (.ok ()) else Procedure.makeDirectories p
  match made with
  | .error e => return refuse ("Failed to create " ++ name ++ " directory at " ++ p.text ++ ": " ++ e.text)
  | .ok () =>
    match ← Procedure.writeFile (p.child probeName) (Text.toBytes "test") with
    | .error e => return refuse ("No write permission in " ++ name ++ " directory " ++ p.text ++ ": " ++ e.text)
    | .ok () =>
      let _ ← Procedure.perform (.remove (p.child probeName))
      return .ok ()

/-- The texts of a server's settings must say something. -/
def ServerConfig.validateTexts (c : ServerConfig) : Except ConfigError Unit :=
  if c.dbPath.isEmpty then refuse "db_path cannot be empty"
  else if Text.isBlank c.storageEngine then refuse "storage_engine cannot be empty"
  else if Text.isBlank c.pillarVersion then refuse "pillar_version cannot be empty"
  else if c.proFeatures.any Text.isBlank then refuse "pro_features cannot contain empty names"
  else .ok ()

/-- A member must have a replication id that says something. -/
def ClusterConfig.validate (c : ClusterConfig) : Except ConfigError Unit :=
  if c.replicaSetState.isSome && (c.replicationId.map Text.isBlank).getD true then
    refuse "replication_id is required when replica_set_state is set"
  else .ok ()

/-- Sampling needs an interval and a directory. -/
def TelemetryConfig.validate (c : TelemetryConfig) : Except ConfigError Unit :=
  if c.scrapeInterval = 0 then refuse "scrape_interval_in_sec must be greater than 0"
  else if c.telemetryDir.isEmpty then refuse "telemetry_dir path cannot be empty"
  else .ok ()

/-- What validation reports about a cadence that it accepts. -/
def TelemetryConfig.notices (c : TelemetryConfig) : List Notice :=
  if c.historyKeepInterval < c.scrapeInterval then [.keepBelowScrape] else []

/-- A router has no role of a storage node. -/
def NodeConfig.validateRole (c : NodeConfig) : Except ConfigError Unit :=
  if c.server.processKind = .mongos && c.cluster.declaresStorageRole then
    refuse "a mongos process cannot declare replica set or shard roles"
  else .ok ()

/-- The checks that follow those of the server, and what they report. -/
def NodeConfig.validateRest (c : NodeConfig) : Except ConfigError Unit × List Notice :=
  match c.cluster.validate, c.telemetry.validate with
  | .error e, _ => (.error e, [])
  | .ok (), .error e => (.error e, [])
  | .ok (), .ok () => (c.validateRole, c.telemetry.notices)

/-- Accepts or refuses a configuration; the directory for logs is made on the way. -/
def NodeConfig.validate (c : NodeConfig) : Procedure (Except ConfigError Unit × List Notice) := do
  match c.server.validateTexts with
  | .error e => return (.error e, [])
  | .ok () =>
    match ← validateDirectory (Path.ofText c.server.logDir) "log_dir" with
    | .error e => return (.error e, [])
    | .ok () => return c.validateRest

/-! ## Description -/

def ServerConfig.describe (c : ServerConfig) : String :=
  Text.described "ServerConfig"
    [("db_path", Text.quoted c.dbPath), ("log_dir", Text.quoted c.logDir), ("process_kind", c.processKind.label),
     ("storage_engine", Text.quoted c.storageEngine), ("pillar_version", Text.quoted c.pillarVersion),
     ("pro_features", Text.bracketed (c.proFeatures.map Text.quoted))]

def TelemetryConfig.describe (c : TelemetryConfig) : String :=
  Text.described "TelemetryConfig"
    [("enabled", if c.enabled then "true" else "false"),
     ("grace_period_in_sec", c.gracePeriod.toNat.repr),
     ("scrape_interval_in_sec", c.scrapeInterval.toNat.repr),
     ("history_keep_interval_in_sec", c.historyKeepInterval.toNat.repr),
     ("telemetry_dir", Text.quoted c.telemetryDir)]

/-- A configuration for people; it leaves the cluster out. -/
def NodeConfig.describe (c : NodeConfig) : String :=
  Text.described "TelemetryNodeConfig" [("server", c.server.describe), ("telemetry", c.telemetry.describe)]

end NodeTelemetry
