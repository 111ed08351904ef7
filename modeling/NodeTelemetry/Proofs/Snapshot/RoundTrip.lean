import NodeTelemetry.Proofs.Json.Layout
import NodeTelemetry.Snapshot.Reader

/-!
# A snapshot reads back

The reader of a document takes the members one at a time. What one member does is
said once for all keys (`Draft.read_field`): its value is put into the draft and
nothing else changes. A document that is written is read to its end in that way,
and the draft that is left stands for the snapshot that was written.
-/

namespace NodeTelemetry.Snapshot

open Json

/-! ## The members of a snapshot by their keys -/

/-- How a member of a snapshot is written, if it is. -/
def field? (s : Snapshot) : Key → Option Field
  | .instanceId => some (.text s.instanceId)
  | .internalId => some (.text s.internalId)
  | .source => some (.text s.source)
  | .storageEngine => some (.text s.storageEngine)
  | .proFeatures => some (.texts s.proFeatures)
  | .pillarVersion => some (.text s.pillarVersion)
  | .uptime => some (.text s.uptime.toNat.repr)
  | .replicationState => s.replicationState.map .text
  | .replicationId => s.replicationId.map .text
  | .shardServer => if s.shardServer then some (.text "true") else none
  | .configServer => if s.configServer then some (.text "true") else none
  | .capturedAt => some (.text s.capturedAt.toNat.repr)

/-- The members that a snapshot is written with, in order. -/
def fields (s : Snapshot) : List (Key × Field) := Key.all.filterMap fun key => (s.field? key).map (key, ·)

theorem members_eq (s : Snapshot) : s.members = s.fields.map fun m => (m.1.name, m.2) := by
  obtain ⟨_, _, _, _, _, _, _, state, id, shard, config, _⟩ := s
  cases state <;> cases id <;> cases shard <;> cases config <;> rfl

theorem field?_of_mem_fields {s : Snapshot} {m : Key × Field} (member : m ∈ s.fields) : s.field? m.1 = some m.2 := by
  obtain ⟨key, -, written⟩ := List.mem_filterMap.mp member
  obtain ⟨value, found, rfl⟩ := Option.map_eq_some_iff.mp written
  exact found

/-- No key is written twice. -/
theorem nodup_fields (s : Snapshot) : (s.fields.map Prod.fst).Nodup := by
  have keys : s.fields.map Prod.fst = Key.all.filter fun key => (s.field? key).isSome := by
    rw [fields, List.map_filterMap, ← List.filterMap_eq_filter]
    congr 1
    funext key
    cases found : s.field? key <;> simp [Option.guard, found]
  rw [keys]
  exact List.Pairwise.filter _ (by decide)

theorem Key.ofName?_name (key : Key) : ofName? key.name = some key := by
  cases key <;> decide

/-! ## Values -/

/-- A list of texts is written as its items between brackets, with blanks before the closing one. -/
theorem exists_textsBytes (items : List String) :
    ∃ w, Blanks w ∧ (Field.texts items).bytes = 91 :: (laid 2 true (items.map stringBytes) ++ (w ++ [93])) := by
  cases items with
  | nil => exact ⟨[], blanks_nil, rfl⟩
  | cons item items => exact ⟨newLine 1, blanks_newLine 1, by simp [Field.bytes, lines_eq_laid]⟩

theorem readStrings_texts {w : List UInt8} (blank : Blanks w) (items : List String) (rest : List UInt8) :
    readStrings (w ++ ((Field.texts items).bytes ++ rest)) = .ok (items, rest) := by
  obtain ⟨w', blank', written⟩ := exists_textsBytes items
  have enough : items.length < (w ++ 91 :: (laid 2 true (items.map stringBytes) ++ (w' ++ 93 :: rest))).length := by
    have := length_le_laid 2 (items.map stringBytes) true
    simp only [List.length_map, List.length_append, List.length_cons] at this ⊢
    omega
  have read := readStringItems_laid 2 blank' rest items _ true [] enough
  rw [written, readStrings]
  simp only [List.cons_append, List.append_assoc, List.nil_append]
  rw [skipSpace_blanks blank (by rfl)]
  simpa using read

/-! ## Members -/

namespace Draft

/-- A draft with one member of a snapshot put in. -/
def put (s : Snapshot) (d : Draft) : Key → Draft
  | .instanceId => { d with instanceId := some s.instanceId }
  | .internalId => { d with internalId := some s.internalId }
  | .source => { d with source := some s.source }
  | .storageEngine => { d with storageEngine := some s.storageEngine }
  | .proFeatures => { d with proFeatures := some s.proFeatures }
  | .pillarVersion => { d with pillarVersion := some s.pillarVersion }
  | .uptime => { d with uptime := some s.uptime }
  | .replicationState => { d with replicationState := some s.replicationState }
  | .replicationId => { d with replicationId := some s.replicationId }
  | .shardServer => { d with shardServer := some s.shardServer }
  | .configServer => { d with configServer := some s.configServer }
  | .capturedAt => { d with capturedAt := some s.capturedAt }

/-- Putting a member in leaves the others as they were. -/
theorem has_put_of_ne (s : Snapshot) (d : Draft) {key other : Key} (ne : other ≠ key) :
    (d.put s key).has other = d.has other := by
  cases key <;> cases other <;> first | rfl | exact absurd rfl ne

/-- The value of a member as it is written is read into the draft, whatever blanks stand before it. -/
theorem read_field {s : Snapshot} {key : Key} {value : Field} (written : s.field? key = some value) (d : Draft)
    {w : List UInt8} (blank : Blanks w) (rest : List UInt8) :
    d.read key (w ++ (value.bytes ++ rest)) = .ok (d.put s key, rest) := by
  cases key <;> simp only [field?, Option.some.injEq, Option.map_eq_some_iff, Option.ite_none_right_eq_some] at written
  case proFeatures =>
    subst written
    simp [read, put, readStrings_texts blank, bind, Except.bind, pure, Except.pure]
  case uptime | capturedAt =>
    subst written
    simp only [read, put, Field.bytes, readStoredWord_repr blank, bind, Except.bind, pure, Except.pure]
  case replicationState | replicationId =>
    obtain ⟨text, shown, rfl⟩ := written
    simp only [read, put, Field.bytes, readOptionalString_stringBytes blank, shown, bind, Except.bind, pure, Except.pure]
  case shardServer | configServer =>
    obtain ⟨set, rfl⟩ := written
    simp only [read, put, Field.bytes, readStoredFlag_true blank, set, bind, Except.bind, pure, Except.pure]
  all_goals
    subst written
    simp only [read, put, Field.bytes, readString_stringBytes blank, bind, Except.bind, pure, Except.pure]

end Draft

/-- Reading an object goes from one member that is written to the next: the value is put into the draft
    and reading goes on behind it. -/
theorem readMembers_member {s : Snapshot} {key : Key} {value : Field} (written : s.field? key = some value) {d : Draft}
    (fresh : d.has key = false) (depth fuel : Nat) (first : Bool) (rest : List UInt8) :
    readMembers (fuel + 1) first d (separator first ++ (newLine depth ++ (memberBytes (key.name, value) ++ rest)))
      = readMembers fuel false (d.put s key) rest := by
  have space : Blanks [32] := by simp [Blanks, isSpace]
  have read := Draft.read_field written d space rest
  rw [List.singleton_append] at read
  simp only [memberBytes, List.append_assoc, readMembers, nextKey_stringBytes (blanks_newLine depth), bind, Except.bind,
    Key.ofName?_name, fresh, List.cons_append, List.nil_append, readColon_cons, read]
  simp

/-- Reading an object whose members are written one a line puts all of them into the draft. -/
theorem readMembers_laid (s : Snapshot) (depth : Nat) {w : List UInt8} (blank : Blanks w) (rest : List UInt8)
    (ms : List (Key × Field)) :
    ∀ (fuel : Nat) (first : Bool) (d : Draft), ms.length < fuel → (∀ m ∈ ms, s.field? m.1 = some m.2) →
      (ms.map Prod.fst).Nodup → (∀ m ∈ ms, d.has m.1 = false) →
      readMembers fuel first d (laid depth first (ms.map fun m => memberBytes (m.1.name, m.2)) ++ (w ++ 125 :: rest))
        = .ok ((ms.map Prod.fst).foldl (Draft.put s) d, rest) := by
  induction ms with
  | nil =>
    intro fuel first d enough _ _ _
    obtain ⟨fuel, rfl⟩ := Nat.exists_eq_add_one_of_ne_zero (Nat.ne_zero_of_lt enough)
    simp [laid, readMembers, nextKey_end blank, bind, Except.bind, pure, Except.pure]
  | cons m ms ih =>
    intro fuel first d enough written nodup fresh
    obtain ⟨fuel, rfl⟩ := Nat.exists_eq_add_one_of_ne_zero (Nat.ne_zero_of_lt enough)
    obtain ⟨here, later⟩ := List.forall_mem_cons.mp written
    obtain ⟨alone, nodup⟩ := List.nodup_cons.mp nodup
    obtain ⟨absent, others⟩ := List.forall_mem_cons.mp fresh
    -- no key is written twice, so those of the rest are still absent
    have still : ∀ n ∈ ms, (d.put s m.1).has n.1 = false := by
      intro n member
      have ne : n.1 ≠ m.1 := fun same => alone (same ▸ List.mem_map_of_mem member)
      rw [Draft.has_put_of_ne s d ne, others n member]
    simp only [List.map_cons, laid, List.append_assoc, List.foldl_cons]
    rw [readMembers_member here absent]
    exact ih fuel false _ (by simpa using enough) later nodup still

/-! ## Documents -/

/-- What the members of a snapshot leave in an empty draft stands for the snapshot: a member that is not
    written is one that its default restores. -/
theorem finish_fields (s : Snapshot) : ((s.fields.map Prod.fst).foldl (Draft.put s) {}).finish = .ok s := by
  obtain ⟨_, _, _, _, _, _, _, state, id, shard, config, _⟩ := s
  cases state <;> cases id <;> cases shard <;> cases config <;> rfl

theorem render_eq (s : Snapshot) :
    s.render = 123 :: (laid 1 true (s.fields.map fun m => memberBytes (m.1.name, m.2)) ++ (newLine 0 ++ [125])) := by
  rw [render, members_eq, List.map_map, lines_eq_laid]
  simp only [List.cons_append, List.append_assoc]
  rfl

/-- Every snapshot reads back from its document as it was. -/
theorem parse_render (s : Snapshot) : parse s.render = .ok s := by
  have enough : s.fields.length < s.render.length + 1 := by
    have := length_le_laid 1 (s.fields.map fun m => memberBytes (m.1.name, m.2)) true
    simp only [render_eq, List.length_map, List.length_append, List.length_cons] at this ⊢
    omega
  have read : readMembers (s.render.length + 1) true {}
      (laid 1 true (s.fields.map fun m => memberBytes (m.1.name, m.2)) ++ (newLine 0 ++ [125])) =
      .ok ((s.fields.map Prod.fst).foldl (Draft.put s) {}, []) :=
    readMembers_laid s 1 (blanks_newLine 0) [] s.fields _ true {} enough (fun m => field?_of_mem_fields) s.nodup_fields
      (fun m _ => by cases m.1 <;> rfl)
  have opening : skipSpace s.render = s.render := by
    rw [render_eq]
    exact skipSpace_cons _ (by rfl)
  rw [parse, opening]
  -- the fuel counts the bytes of the document that is taken apart next
  generalize fuel : s.render.length + 1 = n at read ⊢
  rw [render_eq]
  simp only [if_true, read, bind, Except.bind, finish_fields]
  rfl

end NodeTelemetry.Snapshot
