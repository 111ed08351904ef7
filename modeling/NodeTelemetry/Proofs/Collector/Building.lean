import NodeTelemetry.Collector.Basic
import NodeTelemetry.Proofs.Disk.Change

/-!
# Building a collector

A configuration that validation accepts is one that a collector can be built from,
whatever the disk is like by then, and what the collector shows of itself is what
the configuration declares (`Collector.build_of_validated`). The validation of a
cluster and the classification of a node test the replication id in the same way,
so that no node which was accepted is shown as unknown.
-/

namespace NodeTelemetry

/-! ## Ids -/

/-- A text of 24 lower-case digits in base 16. -/
def ObjectId.Spells (s : String) : Prop := s.length = 24 ∧ ∀ c ∈ s.toList, '0' ≤ c ∧ c ≤ '9' ∨ 'a' ≤ c ∧ c ≤ 'f'

theorem Text.hexDigit_lower {d : Nat} (small : d < 16) :
    '0' ≤ hexDigit d ∧ hexDigit d ≤ '9' ∨ 'a' ≤ hexDigit d ∧ hexDigit d ≤ 'f' := by
  have all : ∀ e : Fin 16, '0' ≤ hexDigit e.val ∧ hexDigit e.val ≤ '9' ∨ 'a' ≤ hexDigit e.val ∧ hexDigit e.val ≤ 'f' := by
    decide
  exact all ⟨d, small⟩

theorem Text.length_hexOfByte_flatMap (bs : List UInt8) : (bs.flatMap hexOfByte).length = 2 * bs.length := by
  induction bs with
  | nil => rfl
  | cons b rest ih =>
    rw [List.flatMap_cons, List.length_append, ih]
    simp only [hexOfByte, List.length_cons, List.length_nil]
    omega

theorem ObjectId.spells_text (o : ObjectId) : ObjectId.Spells o.text := by
  constructor
  · rw [text, Text.hex, String.length_ofList, Text.length_hexOfByte_flatMap, o.length_eq]
  · intro c member
    rw [text, Text.hex, String.toList_ofList] at member
    obtain ⟨b, _, digit⟩ := List.mem_flatMap.mp member
    have high : b.toNat / 16 < 16 := by
      have := b.toNat_lt
      omega
    have low : b.toNat % 16 < 16 := Nat.mod_lt _ (by decide)
    rw [Text.hexOfByte, List.mem_cons, List.mem_singleton] at digit
    rcases digit with rfl | rfl
    · exact Text.hexDigit_lower high
    · exact Text.hexDigit_lower low

/-- Both ids of an identity are object ids. -/
def Identity.Spelled (i : Identity) : Prop := ObjectId.Spells i.instanceId ∧ ObjectId.Spells i.internalId

theorem Identity.spelled_texts (o o' : ObjectId) : Identity.Spelled ⟨o.text, o'.text⟩ := ⟨o.spells_text, o'.spells_text⟩

namespace Identity

/-- An identity that was loaded or made is one of two object ids, however its record came about. -/
theorem spelled_of_ends_load {dbPath : Path} {fresh internal : ObjectId} {identity : Identity} {origin : Origin}
    (ends : (load dbPath fresh internal).Ends (.ok (identity, origin))) : identity.Spelled := by
  have renewed {origin' : Origin} (ends : (renew dbPath fresh internal origin').Ends (.ok (identity, origin))) :
      identity.Spelled := by
    obtain ⟨r, _, last⟩ := Procedure.ends_bind ends
    cases r with
    | error e => cases Procedure.ends_done last
    | ok u =>
      cases Procedure.ends_done last
      exact spelled_texts fresh internal
  obtain ⟨found, _, later⟩ := Procedure.ends_bind ends
  cases found with
  | absent => exact renewed later
  | valid o =>
    cases Procedure.ends_done later
    exact spelled_texts o internal
  | unusable fault => exact renewed later

end Identity

/-! ## Configurations -/

/-- What a node needs to be sampled and to be shown in its role. -/
structure NodeConfig.Consistent (c : NodeConfig) : Prop where
  scrapes : c.telemetry.scrapeInterval ≠ 0
  named : ∀ state, c.cluster.replicaSetState = some state →
    ∃ id, c.cluster.replicationId = some id ∧ Text.isBlank id = false
  alone : c.server.processKind = .mongos → c.cluster.replicaSetState = none

theorem NodeConfig.validateRest_of_ends {c : NodeConfig} {reported : List Notice}
    (accepted : c.validate.Ends (.ok (), reported)) : c.validateRest = (.ok (), reported) := by
  unfold validate at accepted
  cases texts : c.server.validateTexts with
  | error e =>
    rw [texts] at accepted
    cases Procedure.ends_done accepted
  | ok u =>
    rw [texts] at accepted
    obtain ⟨directory, _, last⟩ := Procedure.ends_bind accepted
    cases directory with
    | error e => cases Procedure.ends_done last
    | ok u => exact (Procedure.ends_done last).symm

/-- Validation accepts consistent configurations only, whatever it sees of the disk. -/
theorem NodeConfig.consistent_of_ends {c : NodeConfig} {reported : List Notice}
    (accepted : c.validate.Ends (.ok (), reported)) : c.Consistent := by
  have rest := validateRest_of_ends accepted
  unfold validateRest at rest
  split at rest
  · cases rest
  · cases rest
  · next cluster telemetry =>
    obtain ⟨role, -⟩ := Prod.mk.inj rest
    refine ⟨fun zero => ?_, fun state declared => ?_, fun router => ?_⟩
    · rw [TelemetryConfig.validate, if_pos zero] at telemetry
      cases telemetry
    · unfold ClusterConfig.validate at cluster
      split at cluster
      · cases cluster
      · next named =>
        cases id : c.cluster.replicationId with
        | none => simp [declared, id] at named
        | some id' => exact ⟨id', rfl, by simpa [declared, id] using named⟩
    · unfold validateRole at role
      split at role
      · cases role
      · next plain =>
        cases declared : c.cluster.replicaSetState with
        | none => rfl
        | some state => simp [router, ClusterConfig.declaresStorageRole, declared] at plain

/-- An interval of whole seconds is too short when it has none. -/
theorem TelemetryConfig.valid_control_iff (c : TelemetryConfig) : c.control.Valid ↔ c.scrapeInterval ≠ 0 := by
  have one : minScrape.nanos = 1000000000 := rfl
  have nanos : c.control.scrape.nanos = c.scrapeInterval.toNat * 1000000000 := rfl
  have zero : c.scrapeInterval = 0 ↔ c.scrapeInterval.toNat = 0 := UInt64.toNat_inj.symm
  rw [Control.Valid, one, nanos, ne_eq, zero]
  omega

theorem Surface.new_eq (c : Control) :
    Surface.new c = if c.Valid then .ok ⟨c, 0, false⟩ else .error (.scrapeTooShort c.scrape) := by
  by_cases valid : c.Valid
  · rw [if_pos valid, Surface.new, c.validate_eq_ok_iff.mpr valid]
    rfl
  · rw [if_neg valid, Surface.new, Control.validate, if_pos (Nat.not_le.mp valid)]
    rfl

/-- How a node is shown that reports nothing but its configuration. -/
structure NodeConfig.Shows (c : NodeConfig) (shown : Classification) : Prop where
  router : shown.role = .router ↔ c.server.processKind = .mongos
  member : ∀ state, c.cluster.replicaSetState = some state →
    shown.role = .ofMemberState state ∧ shown.role.isMember = true ∧
      shown.replicationId = c.cluster.replicationId ∧ shown.replicationId ≠ none
  standalone : c.server.processKind ≠ .mongos → c.cluster.replicaSetState = none →
    shown.role = .standalone ∧ shown.replicationId = none
  known : shown.role ≠ .unknown

theorem NodeConfig.Consistent.shows {c : NodeConfig} (consistent : c.Consistent) :
    c.Shows (classify (c.cluster.roleState c.server.processKind)) := by
  cases kind : c.server.processKind with
  | mongos =>
    have none := consistent.alone kind
    have shown : classify (c.cluster.roleState .mongos) = ⟨.router, .none, false, false⟩ := rfl
    rw [shown]
    refine ⟨by simp [kind], fun state declared => ?_, fun other => absurd kind other, by simp⟩
    cases none.symm.trans declared
  | mongod =>
    cases declared : c.cluster.replicaSetState with
    | none =>
      refine ⟨?_, ?_, ?_, ?_⟩ <;> simp [classify, ClusterConfig.roleState, classifyMember, declared, kind]
    | some state =>
      obtain ⟨id, named, filled⟩ := consistent.named state declared
      have member : classifyMember (c.cluster.roleState .mongod).replicaSet = (.ofMemberState state, some id) := by
        simp [ClusterConfig.roleState, declared, named, classifyMember, filled]
      have role : (classify (c.cluster.roleState .mongod)).role = .ofMemberState state := congrArg Prod.fst member
      have id' : (classify (c.cluster.roleState .mongod)).replicationId = some id := congrArg Prod.snd member
      refine ⟨?_, ?_, fun _ none => ?_, ?_⟩
      · rw [role]
        cases state <;> simp [NodeRole.ofMemberState, kind]
      · intro state' same
        cases declared.symm.trans same
        rw [role, id', named]
        exact ⟨rfl, NodeRole.isMember_ofMemberState state, rfl, by simp⟩
      · cases declared.symm.trans none
      · rw [role]
        cases state <;> simp [NodeRole.ofMemberState]

namespace Collector

/-- A node always gets an identity. -/
theorem spelled_of_ends_identify {dbPath : Path} {ids : FreshIds} {identity : Identity} {notices : List Notice}
    (ends : (identify dbPath ids).Ends (identity, notices)) : identity.Spelled := by
  obtain ⟨found, _, later⟩ := Procedure.ends_bind ends
  obtain ⟨loaded, loading, last⟩ := Procedure.ends_bind later
  cases loaded with
  | error e =>
    cases Procedure.ends_done last
    exact Identity.spelled_texts ids.spareInstance ids.spareInternal
  | ok result =>
    cases Procedure.ends_done last
    exact Identity.spelled_of_ends_load loading

/-- The ways in which building goes, whatever stands on the disk. -/
theorem build_cases {config : NodeConfig} {source : Option RoleSource} {startedAt : Instant} {clock : CaptureClock}
    {ids : FreshIds} {result : Except Error Collector} {notices : List Notice}
    (ends : (build config source startedAt clock ids).Ends (result, notices)) :
    (config.telemetry.scrapeInterval = 0 ∧ result = .error (.ofControlFault (.scrapeTooShort ⟨0⟩))) ∨
    (config.telemetry.scrapeInterval ≠ 0 ∧ ∃ identity loop, identity.Spelled ∧
      result = .ok ⟨identity, ⟨config.telemetry.control, 0, false⟩,
        source.getD (.fixed (config.cluster.roleState config.server.processKind)), loop⟩) := by
  have opens := Surface.new_eq config.telemetry.control
  have valid := TelemetryConfig.valid_control_iff config.telemetry
  unfold build at ends
  -- the surface stands for itself: comparing its intervals would count out their nanoseconds
  generalize Surface.new config.telemetry.control = made at ends opens
  obtain ⟨⟨identity, noted⟩, identifying, later⟩ := Procedure.ends_bind ends
  cases made with
  | error fault =>
    have failed := congrArg Prod.fst (Procedure.ends_done later)
    split at opens
    · cases opens
    · next invalid =>
      have zero := Classical.byContradiction fun some => invalid (valid.mpr some)
      have none : config.telemetry.control.scrape = ⟨0⟩ := by simp [TelemetryConfig.control, zero, Span.ofSecs]
      rw [none] at opens
      cases opens
      exact .inl ⟨zero, failed⟩
  | ok surface =>
    obtain ⟨prepared, _, last⟩ := Procedure.ends_bind later
    have built := congrArg Prod.fst (Procedure.ends_done last)
    split at opens
    · next holds =>
      cases opens
      exact .inr ⟨valid.mp holds, identity, _, spelled_of_ends_identify identifying, built⟩
    · cases opens

/-- From a configuration that was accepted a collector is built, whatever the disk is like and whatever
    fails on it. Its ids are object ids, the parameters in force are those of the configuration, and the role
    that is shown without a source of another kind is the one that the configuration declares. Of all
    configurations, only those with a scrape interval of zero are ones that none is built from. -/
theorem build_of_validated {config : NodeConfig} {reported : List Notice}
    (accepted : config.validate.Ends (.ok (), reported)) (source : Option RoleSource) (startedAt : Instant)
    (clock : CaptureClock) (ids : FreshIds) :
    (∀ d, ∃ c, ((build config source startedAt clock ids).run d).1.1 = .ok c) ∧
    (∀ result notices, (build config source startedAt clock ids).Ends (result, notices) →
      ∃ c, result = .ok c ∧ ObjectId.Spells c.identity.instanceId ∧ ObjectId.Spells c.identity.internalId ∧
        c.surface.current = config.telemetry.control ∧
        (source = none → config.Shows (classifyReport c.source.current))) ∧
    (∀ (any : NodeConfig) (d : Disk),
      (∃ e, ((build any source startedAt clock ids).run d).1.1 = .error e) ↔ any.telemetry.scrapeInterval = 0) := by
  have consistent := NodeConfig.consistent_of_ends accepted
  refine ⟨?_, ?_, ?_⟩
  · intro d
    rcases build_cases (Procedure.ends_run (build config source startedAt clock ids) d) with
      ⟨zero, _⟩ | ⟨_, identity, loop, _, built⟩
    · exact absurd zero consistent.scrapes
    · exact ⟨_, built⟩
  · intro result notices ends
    rcases build_cases ends with ⟨zero, _⟩ | ⟨_, identity, loop, spelled, rfl⟩
    · exact absurd zero consistent.scrapes
    · refine ⟨_, rfl, spelled.1, spelled.2, rfl, ?_⟩
      rintro rfl
      exact consistent.shows
  · intro any d
    rcases build_cases (Procedure.ends_run (build any source startedAt clock ids) d) with
      ⟨zero, failed⟩ | ⟨some, _, _, _, built⟩
    · exact iff_of_true ⟨_, failed⟩ zero
    · refine iff_of_false ?_ some
      rintro ⟨e, failed⟩
      cases built.symm.trans failed

/-- Files stand where the directories of the record and of the snapshots should be. -/
theorem build_of_validated_blocked :
    let config : NodeConfig :=
      { server := { dbPath := "db", logDir := "log" }
        cluster := { replicaSetState := some .primary, replicationId := some "rs0" }
        telemetry := { telemetryDir := "t" } }
    let blocked := (do
      let _ ← Procedure.perform (.create (Path.ofText "db"))
      Procedure.perform (.create (Path.ofText "t")) : Procedure _).run .empty |>.2
    let id (b : UInt8) : ObjectId := ⟨List.replicate 12 b, List.length_replicate⟩
    let building := build config none ⟨0⟩ ⟨0, ⟨0⟩⟩ ⟨id 1, id 2, id 3, id 4⟩
    ∃ c, (building.run blocked).1.1 = .ok c ∧ c.identity.instanceId = "030303030303030303030303" ∧
      c.surface.current = config.telemetry.control ∧ (classifyReport c.source.current).role = .primary ∧
      (classifyReport c.source.current).replicationId = some "rs0" := by
  intro config blocked id building
  have checked : (config.validate.run .empty).1.1.isOk = true := by decide +kernel
  have accepted := Procedure.ends_run config.validate .empty
  generalize (config.validate.run .empty).1 = verdict at checked accepted
  rcases verdict with ⟨_ | _, reported⟩
  · cases checked
  · obtain ⟨-, works, -⟩ := build_of_validated accepted none ⟨0⟩ ⟨0, ⟨0⟩⟩ ⟨id 1, id 2, id 3, id 4⟩
    have spare : ((building.run blocked).1.1.map (·.identity.instanceId)).toOption = some "030303030303030303030303" := by
      decide +kernel
    have ends : building.Ends _ := Procedure.ends_run building blocked
    generalize (building.run blocked).1 = outcome at spare ends
    obtain ⟨result, notices⟩ := outcome
    obtain ⟨c, rfl, -, -, control, shows⟩ := works result notices ends
    have member := (shows rfl).member .primary rfl
    exact ⟨c, rfl, Option.some.inj spare, control, member.1, member.2.2.1⟩

end Collector

end NodeTelemetry
