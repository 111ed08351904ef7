import NodeTelemetry.Config.Decode
import NodeTelemetry.Config.Environment
import NodeTelemetry.Config.KeyPath
import NodeTelemetry.Toml.Document

/-!
# Loading a configuration

A configuration is put together from three layers: the one it starts from, a
file, and the environment. Each layer is laid over the ones before it, key by
key.
-/

namespace NodeTelemetry

/-! ## A configuration as settings -/

namespace Setting

def ofText (s : String) : Setting := scalar (.text s) none

/-- A word as a setting; integers have a sign, so half of the words do not fit. -/
def ofWord (n : UInt64) : Except ConfigError Setting :=
  if n.toNat < 9223372036854775808 then .ok (scalar (.integer n.toNat) none) else .error (.tooLarge n)

def ofText? : Option String → Setting
  | some s => ofText s
  | none => unset

def ofServer (c : ServerConfig) : Setting :=
  table
    ([("db_path", ofText c.dbPath), ("log_dir", ofText c.logDir), ("process_kind", ofText c.processKind.word),
      ("storage_engine", ofText c.storageEngine), ("pillar_version", ofText c.pillarVersion)] ++
      (if c.proFeatures.isEmpty then [] else [("pro_features", list (c.proFeatures.map ofText) none)]))
    none

def ofCluster (c : ClusterConfig) : Setting :=
  table
    [("replica_set_state", ofText? (c.replicaSetState.map MemberState.word)),
     ("replication_id", ofText? c.replicationId), ("cluster_role", ofText c.clusterRole.word)]
    none

def ofTelemetry (c : TelemetryConfig) : Except ConfigError Setting := do
  let grace ← ofWord c.gracePeriod
  let scrape ← ofWord c.scrapeInterval
  let keep ← ofWord c.historyKeepInterval
  return table
    [("enabled", scalar (.flag c.enabled) none), ("grace_period_in_sec", grace), ("scrape_interval_in_sec", scrape),
     ("history_keep_interval_in_sec", keep), ("telemetry_dir", ofText c.telemetryDir)]
    none

/-- The settings that describe a configuration; a list without items is left out. -/
def ofConfig (c : NodeConfig) : Except ConfigError Setting := do
  let telemetry ← ofTelemetry c.telemetry
  return table [("server", ofServer c.server), ("cluster", ofCluster c.cluster), ("telemetry", telemetry)] none

end Setting

/-! ## Files -/

namespace ConfigFile

/-- The ending of the names of files. -/
def suffix : List UInt8 := Text.toBytes ".toml"

/-- Whether a file has the ending of the one known format, and a name in front of it. -/
def isKnown (p : Path) : Bool :=
  match p.pieces.getLast? with
  | some n => suffix.isSuffixOf n.bytes && suffix.length < n.bytes.length
  | none => false

/-- The path with the ending added to its last name, if it ends in a name. -/
def withSuffix? (p : Path) : Option Path :=
  match p.pieces.reverse.dropWhile Path.isStill with
  | [] => none
  | n :: above => if n = .up then none else some ⟨(Name.mk (n.bytes ++ suffix) :: above).reverse⟩

/-- The whole path of a file, from the top on. -/
def fullPath (workingDirectory p : Path) : Path := if p.isAbsolute then p else workingDirectory.join p

/-- Whether a path leads to a file, whose whole path must be one that the system takes. -/
def isFile (workingDirectory p : Path) (d : Disk) : Bool :=
  (Disk.accept (fullPath workingDirectory p)).isOk && d.isFile p

/-- The file that a name means: the file of that name, or else the one with the ending added. -/
def find (workingDirectory : Path) (name : String) (d : Disk) : Except ConfigError Path :=
  let p := Path.ofText name
  if isFile workingDirectory p d then
    if isKnown p then .ok p else .error (.unknownFormat (fullPath workingDirectory p).text)
  else
    match withSuffix? p with
    | some q => if isFile workingDirectory q d then .ok q else .error (.missingFile name)
    | none => .error (.missingFile name)

/-- How messages call a file: its path without the pieces that do not move. -/
def origin (p : Path) : String :=
  if p.isAbsolute then p.text else (Path.mk (p.pieces.filter fun n => !Path.isStill n)).text

def layer (workingDirectory : Path) (name : String) (d : Disk) : Except ConfigError (List (String × Setting)) := do
  let p ← find workingDirectory name d
  match d.read p with
  | .error _ => .error (.missingFile name)
  | .ok bytes =>
    match Text.ofBytes? bytes with
    | none => .error .notText
    | some text =>
      match Toml.read text.toList with
      | some entries => .ok (Setting.ofTomlEntries (origin p) entries)
      | none => .error .malformedFile

end ConfigFile

/-! ## Layers -/

/-- What surrounds a process that loads its configuration. -/
structure Surroundings where
  environment : List (String × String)
  workingDirectory : Path

namespace NodeConfig

/-- The settings of a configuration, those of a file if there is one, and those of the environment. -/
def settings (c : NodeConfig) (file : Option String) (s : Surroundings) (d : Disk) : Except ConfigError Setting := do
  let base ← Setting.ofConfig c
  let layer ← match file with
    | some name => ConfigFile.layer s.workingDirectory name d
    | none => .ok []
  return (base.addLayer layer).addLayer (Environment.layer s.environment)

/-- Loads a configuration: the defaults, the file that the environment names, and the environment. -/
def load (s : Surroundings) (d : Disk) : Except ConfigError NodeConfig := do
  let top ← settings {} (s.environment.lookup "CONFIG_PATH") s d
  ofSettings top

/-- A configuration with a file and the environment laid over it. -/
def overriddenBy (c : NodeConfig) (file : String) (s : Surroundings) (d : Disk) : Except ConfigError NodeConfig := do
  let top ← c.settings (some file) s d
  ofSettings top

end NodeConfig

end NodeTelemetry
