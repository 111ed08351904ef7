import Mathlib.Data.List.Nodup
import NodeTelemetry.Proofs.Snapshot.RoundTrip

/-!
# The labels of a role

Whatever is reported about a node, its document carries the labels of a member of
a replica set, of a shard server or of a config server exactly when it is one and
no router is involved. The document is the text that is written, so this goes
through the classification of the report, the choice of what a snapshot shows and
the members that are written (`labelled`).
-/

namespace NodeTelemetry.Snapshot

open Json

/-! ## Documents as values -/

/-- What the value of a member is read as. -/
def Field.value : Field → Value
  | text s => .text s
  | texts items => .list (items.map .text)

/-- The members of a snapshot as they are read by a reader that does not know them. -/
def values (s : Snapshot) : List (String × Value) := s.members.map fun m => (m.1, m.2.value)

/-- A value in which nothing but texts stands. -/
inductive Textual : Value → Prop
  | text (s : String) : Textual (.text s)
  | list {items : List Value} (all : ∀ v ∈ items, Textual v) : Textual (.list items)
  | object {members : List (String × Value)} (all : ∀ m ∈ members, Textual m.2) : Textual (.object members)

theorem Field.textual (f : Field) : Textual f.value := by
  cases f with
  | text s => exact .text s
  | texts items =>
    refine .list fun v member => ?_
    obtain ⟨s, -, rfl⟩ := List.mem_map.mp member
    exact .text s

/-- Texts one a line are the items of a list. -/
theorem readItems_laid (depth room : Nat) {w : List UInt8} (blank : Blanks w) (rest : List UInt8) (items : List String) :
    ∀ (fuel : Nat) (first : Bool) (before : List Value), items.length < fuel →
      readItems fuel room first before (laid depth first (items.map stringBytes) ++ (w ++ 93 :: rest))
        = .ok (before.reverse ++ items.map .text, rest) := by
  induction items with
  | nil =>
    intro fuel first before enough
    obtain ⟨fuel, rfl⟩ := Nat.exists_eq_add_one_of_ne_zero (Nat.ne_zero_of_lt enough)
    simp [laid, readItems, nextItem_end blank, bind, Except.bind, pure, Except.pure]
  | cons item items ih =>
    intro fuel first before enough
    obtain ⟨fuel, rfl⟩ : ∃ more, fuel = more + 1 + 1 := ⟨fuel - 2, by simp only [List.length_cons] at enough; omega⟩
    have text := readValueWith_stringBytes blanks_nil fuel room item
      (laid depth false (items.map stringBytes) ++ (w ++ 93 :: rest))
    rw [List.nil_append] at text
    simp only [List.map_cons, laid, List.append_assoc]
    rw [readItems, nextItem_stringBytes (blanks_newLine depth)]
    simp only [bind, Except.bind, if_true, text]
    rw [ih (fuel + 1) false (.text item :: before) (by simpa using enough)]
    simp

/-- The value of a member is read as such where a bracket may still be opened. -/
theorem readValueWith_field {w : List UInt8} (blank : Blanks w) (f : Field) (fuel room : Nat) (rest : List UInt8)
    (enough : f.bytes.length ≤ fuel) :
    readValueWith (fuel + 1) (room + 1) (w ++ (f.bytes ++ rest)) = .ok (f.value, rest) := by
  cases f with
  | text s => exact readValueWith_stringBytes blank fuel _ s rest
  | texts items =>
    obtain ⟨w', blank', written⟩ := exists_textsBytes items
    have fits : items.length < fuel := by
      have := length_le_laid 2 (items.map stringBytes) true
      simp only [written, List.length_map, List.length_append, List.length_cons] at this enough
      omega
    have read := readItems_laid 2 room blank' rest items fuel true [] fits
    rw [readValueWith, written]
    simp only [List.cons_append, List.append_assoc, List.nil_append]
    rw [skipSpace_blanks blank (by rfl)]
    have bracket : isDigit 91 = false := rfl
    simp [bracket, read, Field.value, bind, Except.bind, pure, Except.pure]

theorem readMembers_values (depth room : Nat) {w : List UInt8} (blank : Blanks w) (rest : List UInt8)
    (ms : List (String × Field)) :
    ∀ (fuel : Nat) (first : Bool) (before : List (String × Value)),
      (laid depth first (ms.map memberBytes)).length < fuel →
      Json.readMembers fuel (room + 1) first before (laid depth first (ms.map memberBytes) ++ (w ++ 125 :: rest))
        = .ok (before.reverse ++ ms.map fun m => (m.1, m.2.value), rest) := by
  induction ms with
  | nil =>
    intro fuel first before enough
    obtain ⟨fuel, rfl⟩ := Nat.exists_eq_add_one_of_ne_zero (Nat.ne_zero_of_lt enough)
    simp [laid, Json.readMembers, nextKey_end blank, bind, Except.bind, pure, Except.pure]
  | cons m ms ih =>
    intro fuel first before enough
    simp only [List.map_cons, laid, memberBytes, List.length_append, List.length_cons] at enough
    obtain ⟨fuel, rfl⟩ : ∃ more, fuel = more + 1 + 1 := ⟨fuel - 2, by omega⟩
    have space : Blanks [32] := by simp [Blanks, isSpace]
    have value := readValueWith_field space m.2 fuel room (laid depth false (ms.map memberBytes) ++ (w ++ 125 :: rest))
      (by omega)
    rw [List.singleton_append] at value
    simp only [List.map_cons, laid, memberBytes, List.append_assoc]
    rw [Json.readMembers, nextKey_stringBytes (blanks_newLine depth)]
    simp only [bind, Except.bind, List.cons_append, List.nil_append, readColon_cons, value]
    rw [ih (fuel + 1) false _ (by omega)]
    simp

/-- The document of a snapshot is an object with its members. -/
theorem readValue_render (s : Snapshot) : readValue 0 s.render = .ok (.object s.values, []) := by
  have enough : (laid 1 true (s.members.map memberBytes)).length < 2 * s.render.length + 1 := by
    rw [render, lines_eq_laid]
    simp only [List.length_append, List.length_cons]
    omega
  have read := readMembers_values 1 125 (blanks_newLine 0) [] s.members _ true [] enough
  have bytes : s.render = 123 :: (laid 1 true (s.members.map memberBytes) ++ (newLine 0 ++ [125])) := by
    rw [render, lines_eq_laid]
    simp
  rw [readValue, readValueWith]
  -- the fuel counts the bytes of the document that is taken apart next
  generalize 2 * s.render.length + 1 = fuel at read ⊢
  rw [bytes, skipSpace_cons _ (by rfl)]
  have brace : isDigit 123 = false := rfl
  simp only [maxDepth]
  simp [brace, read, values, bind, Except.bind, pure, Except.pure]

/-- What is read under a key is what is written under it. -/
theorem mem_values_iff {s : Snapshot} {key : Key} {v : Value} :
    (key.name, v) ∈ s.values ↔ ∃ f, s.field? key = some f ∧ v = f.value := by
  simp only [values, members_eq, List.map_map, List.mem_map, Function.comp_apply]
  constructor
  · rintro ⟨⟨other, f⟩, member, same⟩
    obtain ⟨names, rfl⟩ := Prod.mk.inj same
    have here : other = key := Option.some.inj (by rw [← Key.ofName?_name, names, Key.ofName?_name])
    exact ⟨f, here ▸ field?_of_mem_fields member, rfl⟩
  · rintro ⟨f, written, rfl⟩
    refine ⟨(key, f), List.mem_filterMap.mpr ⟨key, ?_, by simp [written]⟩, rfl⟩
    cases key <;> decide

/-- No key is there twice. -/
theorem nodup_values (s : Snapshot) : (s.values.map Prod.fst).Nodup := by
  have names : s.values.map Prod.fst = (s.fields.map Prod.fst).map Key.name := by
    simp [values, members_eq, Function.comp_def]
  rw [names]
  refine List.Nodup.map (fun key other same => Option.some.inj ?_) s.nodup_fields
  rw [← Key.ofName?_name, same, Key.ofName?_name]

theorem textual_values (s : Snapshot) : Textual (.object s.values) := by
  refine .object fun m member => ?_
  obtain ⟨m, -, rfl⟩ := List.mem_map.mp member
  exact m.2.textual

/-! ## What a report shows -/

/-- A router is involved: the reported process or the build is one. -/
def Routed (report : Option RoleState) (b : SnapshotBuilder) : Prop :=
  (∃ r, report = some r ∧ r.processKind = .mongos) ∨ b.build.processKind = .mongos

/-- The report shows a replica set: no router is involved and the set has an id that is not blank. -/
def Shows (report : Option RoleState) (b : SnapshotBuilder) (set : ReplicaSetState) : Prop :=
  ¬ Routed report b ∧ (∃ r, report = some r ∧ r.replicaSet = some set) ∧ Text.isBlank set.replicationId = false

/-- The report shows a sharding role: no router is involved. -/
def Serves (report : Option RoleState) (b : SnapshotBuilder) (role : ClusterRole) : Prop :=
  ¬ Routed report b ∧ ∃ r, report = some r ∧ r.clusterRole = role

theorem storage_of_notRouted {r : RoleState} {b : SnapshotBuilder} (unrouted : ¬ Routed (some r) b) :
    r.processKind = .mongod := by
  cases kind : r.processKind with
  | mongod => rfl
  | mongos => exact absurd (.inl ⟨r, rfl, kind⟩) unrouted

theorem Shows.unique {report : Option RoleState} {b : SnapshotBuilder} {set other : ReplicaSetState}
    (shows : Shows report b set) (same : Shows report b other) : set = other := by
  obtain ⟨-, ⟨r, rfl, own⟩, -⟩ := shows
  obtain ⟨-, ⟨_, ⟨⟩, own'⟩, -⟩ := same
  exact Option.some.inj (own.symm.trans own')

/-! ## The classification of a report -/

theorem classify_of_named {r : RoleState} {set : ReplicaSetState} (storage : r.processKind = .mongod)
    (own : r.replicaSet = some set) (named : Text.isBlank set.replicationId = false) :
    (classify r).role = .ofMemberState set.memberState ∧ (classify r).replicationId = some set.replicationId := by
  simp [classify, storage, own, classifyMember, named]

/-- Only a storage node in a set with an id is classified as a member. -/
theorem exists_of_isMember {report : Option RoleState} (member : (classifyReport report).role.isMember = true) :
    ∃ r set, report = some r ∧ r.processKind = .mongod ∧ r.replicaSet = some set ∧
      Text.isBlank set.replicationId = false := by
  cases report with
  | none => cases member
  | some r =>
    obtain ⟨kind, set, role⟩ := r
    cases kind with
    | mongos => cases member
    | mongod =>
      cases set with
      | none => cases member
      | some set =>
        refine ⟨_, set, rfl, rfl, rfl, ?_⟩
        cases blank : Text.isBlank set.replicationId with
        | false => rfl
        | true => simp [classifyReport, classify, classifyMember, blank, NodeRole.isMember] at member

section

variable (report : Option RoleState) (b : SnapshotBuilder) (capturedAt : UInt64) (now : Instant)

theorem routed_iff :
    Routed report b ↔ (classifyReport report).isRouter = true ∨ b.build.processKind = .mongos := by
  refine or_congr_left ?_
  cases report with
  | none => simp [classifyReport, Classification.standalone, Classification.isRouter]
  | some r =>
    obtain ⟨kind, set, role⟩ := r
    cases kind with
    | mongos => simp [classifyReport, classify, Classification.isRouter]
    | mongod =>
      have storage : (classifyMember set).1 ≠ .router := by
        cases set with
        | none => simp [classifyMember]
        | some set =>
          obtain ⟨state, id⟩ := set
          simp only [classifyMember]
          split
          · simp
          · cases state <;> simp [NodeRole.ofMemberState]
      simp [classifyReport, classify, Classification.isRouter, storage]

theorem notRouted_iff :
    ¬ Routed report b ↔ (!((classifyReport report).isRouter || decide (b.build.processKind = .mongos))) = true := by
  simp [routed_iff]

theorem isMember_iff :
    ((!((classifyReport report).isRouter || decide (b.build.processKind = .mongos))) &&
      (classifyReport report).role.isMember) = true ↔ ∃ set, Shows report b set := by
  rw [Bool.and_eq_true, ← notRouted_iff]
  constructor
  · rintro ⟨unrouted, member⟩
    obtain ⟨r, set, reported, -, own, named⟩ := exists_of_isMember member
    exact ⟨set, unrouted, ⟨r, reported, own⟩, named⟩
  · rintro ⟨set, unrouted, ⟨r, rfl, own⟩, named⟩
    exact ⟨unrouted, by simp [classifyReport, (classify_of_named (storage_of_notRouted unrouted) own named).1]⟩

/-- A snapshot shows the state and the id of the replica set that the report shows, and of no other. -/
theorem exists_shown : ∃ shown : Option ReplicaSetState, (∀ set, shown = some set ↔ Shows report b set) ∧
    (b.snapshot (classifyReport report) capturedAt now).replicationState = shown.map (·.memberState.word) ∧
    (b.snapshot (classifyReport report) capturedAt now).replicationId = shown.map (·.replicationId) := by
  simp only [SnapshotBuilder.snapshot]
  by_cases member : ∃ set, Shows report b set
  · have shown := (isMember_iff report b).mpr member
    obtain ⟨set, shows⟩ := member
    refine ⟨some set, fun other => ⟨?_, fun other => congrArg some (shows.unique other)⟩, ?_⟩
    · rintro ⟨⟩
      exact shows
    · obtain ⟨unrouted, ⟨r, rfl, own⟩, named⟩ := shows
      obtain ⟨role, id⟩ := classify_of_named (storage_of_notRouted unrouted) own named
      rw [if_pos shown, if_pos shown]
      simp [classifyReport, role, id]
  · have hidden := (isMember_iff report b).not.mpr member
    refine ⟨none, fun set => ⟨nofun, fun shows => absurd ⟨set, shows⟩ member⟩, ?_⟩
    rw [if_neg hidden, if_neg hidden]
    exact ⟨rfl, rfl⟩

/-- A snapshot marks the sharding role that the report shows. -/
theorem shardServer_iff :
    (b.snapshot (classifyReport report) capturedAt now).shardServer = true ↔ Serves report b .shardServer := by
  rw [SnapshotBuilder.snapshot, Bool.and_eq_true, ← notRouted_iff]
  refine and_congr_right fun unrouted => ?_
  cases report with
  | none => simp [classifyReport, Classification.standalone]
  | some r =>
    simp [classifyReport, classify, storage_of_notRouted unrouted]

theorem configServer_iff :
    (b.snapshot (classifyReport report) capturedAt now).configServer = true ↔ Serves report b .configServer := by
  rw [SnapshotBuilder.snapshot, Bool.and_eq_true, ← notRouted_iff]
  refine and_congr_right fun unrouted => ?_
  cases report with
  | none => simp [classifyReport, Classification.standalone]
  | some r => simp [classifyReport, classify, storage_of_notRouted unrouted]

/-- The source tells a router and a build with extra features. -/
theorem source_spec :
    ("mongos".toList <+: (b.snapshot (classifyReport report) capturedAt now).source.toList ↔ Routed report b) ∧
      ("-pro".toList <:+ (b.snapshot (classifyReport report) capturedAt now).source.toList ↔ b.build.proFeatures ≠ []) := by
  have routed : Routed report b ↔
      ((classifyReport report).isRouter || decide (b.build.processKind = .mongos)) = true := by
    simp [routed_iff]
  have pro : b.build.proFeatures ≠ [] ↔ b.build.isPro = true := by simp [BuildInfo.isPro]
  have each : ∀ router pro : Bool,
      ("mongos".toList <+: ((if router then ProcessKind.mongos else .mongod).word ++ if pro then "-pro" else "").toList ↔
        router = true) ∧
      ("-pro".toList <:+ ((if router then ProcessKind.mongos else .mongod).word ++ if pro then "-pro" else "").toList ↔
        pro = true) := by
    decide +kernel
  rw [routed, pro]
  exact each _ _

end

/-- What the members of a document say about the role of a node. -/
structure Labelled (report : Option RoleState) (b : SnapshotBuilder) (members : List (String × Value)) : Prop where
  once : (members.map Prod.fst).Nodup
  state : ∀ v, ("replication_state", v) ∈ members ↔ ∃ set, Shows report b set ∧ v = .text set.memberState.word
  id : ∀ v, ("db_replication_id", v) ∈ members ↔ ∃ set, Shows report b set ∧ v = .text set.replicationId
  shardServer : ∀ v, ("shard_svr", v) ∈ members ↔ Serves report b .shardServer ∧ v = .text "true"
  configServer : ∀ v, ("config_svr", v) ∈ members ↔ Serves report b .configServer ∧ v = .text "true"
  /-- A node is not both. -/
  apart : ∀ v w, ("shard_svr", v) ∈ members → ("config_svr", w) ∉ members
  source : ∃ s, ("source", .text s) ∈ members ∧ ("mongos".toList <+: s.toList ↔ Routed report b) ∧
    ("-pro".toList <:+ s.toList ↔ b.build.proFeatures ≠ [])
  textual : Textual (.object members)

/-- The document of a node is an object whose members say about its role what was reported. -/
theorem labelled (report : Option RoleState) (b : SnapshotBuilder) (capturedAt : UInt64) (now : Instant) :
    ∃ members, readValue 0 (b.snapshot (classifyReport report) capturedAt now).render = .ok (.object members, []) ∧
      Labelled report b members := by
  refine ⟨_, readValue_render _, ?_⟩
  obtain ⟨shown, shows, state, id⟩ := exists_shown report b capturedAt now
  have shard := shardServer_iff report b capturedAt now
  have config := configServer_iff report b capturedAt now
  have source := source_spec report b capturedAt now
  generalize b.snapshot (classifyReport report) capturedAt now = s at *
  have marked (key : Key) {set : Bool} {shown : Prop} (isSet : set = true ↔ shown)
      (written : s.field? key = if set then some (.text "true") else none) (v : Value) :
      (key.name, v) ∈ s.values ↔ shown ∧ v = .text "true" := by
    rw [mem_values_iff, written, ← isSet]
    cases set <;> simp [Field.value]
  have told (key : Key) {text : ReplicaSetState → String}
      (written : s.field? key = (shown.map text).map .text) (v : Value) :
      (key.name, v) ∈ s.values ↔ ∃ set, Shows report b set ∧ v = .text (text set) := by
    simp [mem_values_iff, written, Field.value, shows]
  have shardServer := marked .shardServer shard rfl
  have configServer := marked .configServer config rfl
  have named : (Key.source.name, Value.text s.source) ∈ s.values := mem_values_iff.mpr ⟨_, rfl, rfl⟩
  refine ⟨s.nodup_values, told .replicationState (congrArg (Option.map Field.text) state),
    told .replicationId (congrArg (Option.map Field.text) id), shardServer, configServer, ?_,
    ⟨s.source, named, source⟩, s.textual_values⟩
  intro v w isShard isConfig
  obtain ⟨-, r, reported, role⟩ := ((shardServer v).mp isShard).1
  obtain ⟨-, r', reported', role'⟩ := ((configServer w).mp isConfig).1
  obtain rfl : r = r' := Option.some.inj (reported.symm.trans reported')
  cases role.symm.trans role'

end NodeTelemetry.Snapshot
