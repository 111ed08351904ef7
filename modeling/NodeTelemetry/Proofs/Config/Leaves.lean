import Mathlib.Data.List.Forall2
import NodeTelemetry.Config.Load
import NodeTelemetry.Steps

/-!
# The leaves of a configuration

A configuration is three sections of values, which are its leaves. Each leaf has
a name, a type and a default, and each type has its settings: what they mean is
said here without the readers (`Leaf.Means`), and the readers find it. A setting
of the sections is then read leaf by leaf (`ofSettings_of_reads`).
-/

namespace NodeTelemetry

inductive Section where
  | server
  | cluster
  | telemetry
  deriving DecidableEq, Repr

def Section.name : Section → String
  | server => "server"
  | cluster => "cluster"
  | telemetry => "telemetry"

theorem Section.eq_of_name {h i : Section} (same : h.name = i.name) : h = i := by
  cases h <;> cases i <;> first | rfl | exact absurd same (by decide)

inductive Leaf where
  | dbPath
  | logDir
  | processKind
  | storageEngine
  | pillarVersion
  | proFeatures
  | replicaSetState
  | replicationId
  | clusterRole
  | enabled
  | gracePeriod
  | scrapeInterval
  | historyKeepInterval
  | telemetryDir
  deriving DecidableEq, Repr

namespace Leaf

def home : Leaf → Section
  | dbPath | logDir | processKind | storageEngine | pillarVersion | proFeatures => .server
  | replicaSetState | replicationId | clusterRole => .cluster
  | enabled | gracePeriod | scrapeInterval | historyKeepInterval | telemetryDir => .telemetry

/-- The name of a leaf in its section. -/
def name : Leaf → String
  | dbPath => "db_path"
  | logDir => "log_dir"
  | processKind => "process_kind"
  | storageEngine => "storage_engine"
  | pillarVersion => "pillar_version"
  | proFeatures => "pro_features"
  | replicaSetState => "replica_set_state"
  | replicationId => "replication_id"
  | clusterRole => "cluster_role"
  | enabled => "enabled"
  | gracePeriod => "grace_period_in_sec"
  | scrapeInterval => "scrape_interval_in_sec"
  | historyKeepInterval => "history_keep_interval_in_sec"
  | telemetryDir => "telemetry_dir"

/-- The key of a leaf from the top on. -/
def key (l : Leaf) : String := l.home.name ++ "." ++ l.name

abbrev Value : Leaf → Type
  | dbPath | logDir | storageEngine | pillarVersion | telemetryDir => String
  | processKind => ProcessKind
  | proFeatures => List String
  | replicaSetState => Option MemberState
  | replicationId => Option String
  | clusterRole => ClusterRole
  | enabled => Bool
  | gracePeriod | scrapeInterval | historyKeepInterval => UInt64

/-- Leaves that hold a single value. -/
def isScalar (l : Leaf) : Bool := l ≠ proFeatures

/-- No two leaves have the same name, wherever they are. -/
theorem eq_of_name {l m : Leaf} (same : l.name = m.name) : l = m := by
  cases l <;> cases m <;> first | rfl | exact absurd same (by decide)

end Leaf

namespace NodeConfig

/-- The value of a leaf. -/
def leaf (c : NodeConfig) : (l : Leaf) → l.Value
  | .dbPath => c.server.dbPath
  | .logDir => c.server.logDir
  | .processKind => c.server.processKind
  | .storageEngine => c.server.storageEngine
  | .pillarVersion => c.server.pillarVersion
  | .proFeatures => c.server.proFeatures
  | .replicaSetState => c.cluster.replicaSetState
  | .replicationId => c.cluster.replicationId
  | .clusterRole => c.cluster.clusterRole
  | .enabled => c.telemetry.enabled
  | .gracePeriod => c.telemetry.gracePeriod
  | .scrapeInterval => c.telemetry.scrapeInterval
  | .historyKeepInterval => c.telemetry.historyKeepInterval
  | .telemetryDir => c.telemetry.telemetryDir

/-- The configuration with given leaves. -/
def ofLeaves (v : (l : Leaf) → l.Value) : NodeConfig where
  server := ⟨v .dbPath, v .logDir, v .processKind, v .storageEngine, v .pillarVersion, v .proFeatures⟩
  cluster := ⟨v .replicaSetState, v .replicationId, v .clusterRole⟩
  telemetry := ⟨v .enabled, v .gracePeriod, v .scrapeInterval, v .historyKeepInterval, v .telemetryDir⟩

theorem leaf_ofLeaves (v : (l : Leaf) → l.Value) (l : Leaf) : (ofLeaves v).leaf l = v l := by
  cases l <;> rfl

theorem ofLeaves_leaf (c : NodeConfig) : ofLeaves c.leaf = c := rfl

/-- A configuration is its leaves. -/
theorem eq_of_leaf {c c' : NodeConfig} (same : ∀ l, c.leaf l = c'.leaf l) : c = c' := by
  rw [← ofLeaves_leaf c, ← ofLeaves_leaf c', funext same]

end NodeConfig

/-! ## What settings mean -/

/-- A text is meant by every single value: one that is no text is written out. -/
def MeansText (s : Setting) (t : String) : Prop := ∃ x o, s = .scalar x o ∧ t = Decoder.written x

def MeansTexts (s : Setting) (ts : List String) : Prop := ∃ xs o, s = .list xs o ∧ List.Forall₂ MeansText xs ts

/-- One of some values is meant by its word, in any case. -/
def MeansChoice {α : Type} (word : α → String) (s : Setting) (a : α) : Prop :=
  ∃ t o, s = .scalar (.text t) o ∧ Text.lowerCase t = Text.lowerCase (word a)

inductive MeansFlag : Setting → Bool → Prop
  | flag (b : Bool) (o : Option String) : MeansFlag (.scalar (.flag b) o) b
  | integer (n : Int) (o : Option String) : MeansFlag (.scalar (.integer n) o) (n ≠ 0)
  | number (x : Binary64) (o : Option String) : MeansFlag (.scalar (.number x) o) (!x.isZero)
  | text {t : String} {b : Bool} (o : Option String) (spelled : Decoder.flagOfText? (Text.lowerCase t) = some b) :
      MeansFlag (.scalar (.text t) o) b

/-- A word is meant by a number that is not negative, by a text of digits, or by a flag, which counts as one or
    zero. -/
inductive MeansWord : Setting → UInt64 → Prop
  | integer (w : UInt64) (o : Option String) : MeansWord (.scalar (.integer w.toNat) o) w
  | number (x : Binary64) (o : Option String) : MeansWord (.scalar (.number x) o) x.toWord
  | flag (b : Bool) (o : Option String) : MeansWord (.scalar (.flag b) o) (Decoder.wordOfFlag b)
  | digits {t : String} {w : UInt64} (o : Option String) (other : Decoder.flagOfWord? (Text.lowerCase t) = none)
      (read : Text.readWord t.toList = .ok w) : MeansWord (.scalar (.text t) o) w
  | flagText {t : String} {b : Bool} (o : Option String) (spelled : Decoder.flagOfWord? (Text.lowerCase t) = some b) :
      MeansWord (.scalar (.text t) o) (Decoder.wordOfFlag b)

namespace Leaf

/-- The value that a setting means for a leaf. A setting that means none is not one for the leaf. -/
def Means : (l : Leaf) → Setting → l.Value → Prop
  | dbPath | logDir | storageEngine | pillarVersion | telemetryDir => MeansText
  | processKind => MeansChoice ProcessKind.word
  | proFeatures => MeansTexts
  | replicaSetState => fun s v => ∃ m, MeansChoice MemberState.word s m ∧ v = some m
  | replicationId => fun s v => ∃ t, MeansText s t ∧ v = some t
  | clusterRole => MeansChoice ClusterRole.word
  | enabled => MeansFlag
  | gracePeriod | scrapeInterval | historyKeepInterval => MeansWord

/-! ## The readers of leaves -/

def decoder : (l : Leaf) → Decoder l.Value
  | dbPath | logDir | storageEngine | pillarVersion | telemetryDir => Decoder.text
  | processKind => Decoder.choice "ProcessKind" ProcessKind.all ProcessKind.word
  | proFeatures => Decoder.listOf Decoder.text
  | replicaSetState => Decoder.optional (Decoder.choice "MemberState" MemberState.all MemberState.word)
  | replicationId => Decoder.optional Decoder.text
  | clusterRole => Decoder.choice "ClusterRole" ClusterRole.all ClusterRole.word
  | enabled => Decoder.flag
  | gracePeriod | scrapeInterval | historyKeepInterval => Decoder.word

end Leaf

theorem text_of_means {s : Setting} {t : String} (means : MeansText s t) (key : String) : Decoder.text key s = .ok t := by
  obtain ⟨x, o, rfl, rfl⟩ := means
  rfl

theorem itemsFrom_of_means {xs : List Setting} {ts : List String} (means : List.Forall₂ MeansText xs ts) (key : String) :
    ∀ i, Decoder.itemsFrom Decoder.text key i xs = .ok ts := by
  induction means with
  | nil => exact fun _ => rfl
  | cons first _ ih =>
    intro i
    simp [Decoder.itemsFrom, text_of_means first, ih, bind, Except.bind, pure, Except.pure]

theorem flag_of_means {s : Setting} {b : Bool} (means : MeansFlag s b) (key : String) : Decoder.flag key s = .ok b := by
  cases means with
  | text o spelled => simp [Decoder.flag, spelled]
  | _ => rfl

theorem word_of_means {s : Setting} {w : UInt64} (means : MeansWord s w) (key : String) : Decoder.word key s = .ok w := by
  cases means with
  | integer w o => simp [Decoder.word]
  | digits o other read => simp [Decoder.word, other, read]
  | flagText o spelled => simp [Decoder.word, spelled]
  | _ => rfl

/-- The words of the values of a kind are told apart in any case. -/
theorem choice_of_means {α : Type} {kind : String} {all : List α} {word : α → String} (among : ∀ a, a ∈ all)
    (apart : ∀ a ∈ all, ∀ b ∈ all, Text.lowerCase (word a) = Text.lowerCase (word b) → a = b) {s : Setting} {a : α}
    (means : MeansChoice word s a) (key : String) : Decoder.choice kind all word key s = .ok a := by
  obtain ⟨t, o, rfl, same⟩ := means
  have some : (all.find? fun b => Text.lowerCase (word b) = Text.lowerCase t).isSome = true := by
    rw [List.find?_isSome]
    exact ⟨a, among a, by simpa using same.symm⟩
  obtain ⟨b, found⟩ := Option.isSome_iff_exists.mp some
  have here := List.find?_some found
  rw [decide_eq_true_eq] at here
  obtain rfl : b = a := apart b (among b) a (among a) (here.trans same)
  simp [Decoder.choice, Decoder.pick, found]

namespace Leaf

/-- What a leaf is read as: as its default where it is not set, and else as what its setting is read as. -/
def Reads (l : Leaf) (s : Option Setting) (v : l.Value) : Prop :=
  match s with
  | none => v = ({} : NodeConfig).leaf l
  | some s => ∀ key, l.decoder key s = .ok v

theorem reads_of_means {l : Leaf} {s : Setting} {v : l.Value} (means : l.Means s v) : l.Reads (some s) v := by
  intro key
  have optional {α : Type} {d : Decoder α} {a : α} {x : Scalar} {o : Option String}
      (read : d key (.scalar x o) = .ok a) : Decoder.optional d key (.scalar x o) = .ok (some a) := by
    simp [Decoder.optional, read, Except.map]
  cases l
  case dbPath | logDir | storageEngine | pillarVersion | telemetryDir => exact text_of_means means key
  case processKind => exact choice_of_means (fun a => by cases a <;> decide) (by decide +kernel) means key
  case proFeatures =>
    obtain ⟨xs, o, rfl, means⟩ := means
    exact itemsFrom_of_means means key 0
  case replicaSetState =>
    obtain ⟨m, means, rfl⟩ := means
    have read : Decoder.choice "MemberState" MemberState.all MemberState.word key s = .ok m :=
      choice_of_means (fun a => by cases a <;> decide) (by decide +kernel) means key
    obtain ⟨t, o, rfl, -⟩ := means
    exact optional read
  case replicationId =>
    obtain ⟨t, means, rfl⟩ := means
    have read := text_of_means means key
    obtain ⟨x, o, rfl, -⟩ := means
    exact optional read
  case clusterRole => exact choice_of_means (fun a => by cases a <;> decide) (by decide +kernel) means key
  case enabled => exact flag_of_means means key
  case gracePeriod | scrapeInterval | historyKeepInterval => exact word_of_means means key

theorem Reads.unique {l : Leaf} {s : Option Setting} {v w : l.Value} (first : l.Reads s v) (other : l.Reads s w) :
    v = w := by
  cases s with
  | none => exact first.trans other.symm
  | some s => exact Except.ok.inj ((first "").symm.trans (other ""))

/-- A setting means one value. -/
theorem means_unique {l : Leaf} {s : Setting} {v w : l.Value} (first : l.Means s v) (other : l.Means s w) : v = w :=
  (reads_of_means first).unique (reads_of_means other)

end Leaf

/-! ## Reading a configuration -/

/-- The setting of a leaf. -/
def Setting.leaf? (top : Setting) (l : Leaf) : Option Setting := (top.field? l.home.name).bind (·.field? l.name)

/-- Settings whose sections are tables. -/
def Setting.Sectioned (top : Setting) : Prop := ∀ h : Section, ∃ entries o, top.field? h.name = some (.table entries o)

/-- A part of a table is read as the leaf that it is. -/
theorem part_of_reads {l : Leaf} {top : Setting} {entries : List (String × Setting)} {o : Option String} {v : l.Value}
    (home : top.field? l.home.name = some (.table entries o)) (reads : l.Reads (top.leaf? l) v) (key : String)
    (position : Nat) :
    Decoder.part key (.table entries o) l.name position l.decoder (({} : NodeConfig).leaf l) = .ok v := by
  rw [Setting.leaf?, home, Option.bind_some] at reads
  simp only [Setting.field?] at reads
  simp only [Decoder.part]
  cases found : entries.lookup l.name with
  | none =>
    rw [found] at reads
    exact congrArg Except.ok reads.symm
  | some s =>
    rw [found] at reads
    exact reads _

/-- Settings whose leaves are read as those of a configuration are read as the configuration. -/
theorem ofSettings_of_reads {top : Setting} {c : NodeConfig} (sectioned : top.Sectioned)
    (reads : ∀ l : Leaf, l.Reads (top.leaf? l) (c.leaf l)) : NodeConfig.ofSettings top = .ok c := by
  obtain ⟨es, o, server⟩ := sectioned .server
  obtain ⟨es', o', cluster⟩ := sectioned .cluster
  obtain ⟨es'', o'', telemetry⟩ := sectioned .telemetry
  have serverRead : Decoder.server "server" (.table es o) = .ok c.server := by
    have read {l : Leaf} (home : l.home = .server) :=
      part_of_reads (l := l) (by rw [home]; exact server) (reads l) "server"
    simp only [Decoder.server, Decoder.record, Except.bind_eq_ok_iff]
    exact ⟨_, read (l := .dbPath) rfl 0, _, read (l := .logDir) rfl 1, _, read (l := .processKind) rfl 2, _,
      read (l := .storageEngine) rfl 3, _, read (l := .pillarVersion) rfl 4, _, read (l := .proFeatures) rfl 5, rfl⟩
  have clusterRead : Decoder.cluster "cluster" (.table es' o') = .ok c.cluster := by
    have read {l : Leaf} (home : l.home = .cluster) :=
      part_of_reads (l := l) (by rw [home]; exact cluster) (reads l) "cluster"
    simp only [Decoder.cluster, Decoder.record, Except.bind_eq_ok_iff]
    exact ⟨_, read (l := .replicaSetState) rfl 0, _, read (l := .replicationId) rfl 1, _, read (l := .clusterRole) rfl 2,
      rfl⟩
  have telemetryRead : Decoder.telemetry "telemetry" (.table es'' o'') = .ok c.telemetry := by
    have read {l : Leaf} (home : l.home = .telemetry) :=
      part_of_reads (l := l) (by rw [home]; exact telemetry) (reads l) "telemetry"
    simp only [Decoder.telemetry, Decoder.record, Except.bind_eq_ok_iff]
    exact ⟨_, read (l := .enabled) rfl 0, _, read (l := .gracePeriod) rfl 1, _, read (l := .scrapeInterval) rfl 2, _,
      read (l := .historyKeepInterval) rfl 3, _, read (l := .telemetryDir) rfl 4, rfl⟩
  have home {α : Type} (name : String) {d : Decoder α} {s : Setting} {a : α} {default : α}
      (found : top.field? name = some s) (read : d name s = .ok a) : Decoder.sectionOf top name d default = .ok a := by
    simp [Decoder.sectionOf, found, read]
  simp only [NodeConfig.ofSettings, Except.bind_eq_ok_iff]
  exact ⟨_, home "server" server serverRead, _, home "cluster" cluster clusterRead, _,
    home "telemetry" telemetry telemetryRead, rfl⟩

end NodeTelemetry
