import NodeTelemetry.Identity.Load
import NodeTelemetry.Proofs.Disk.Stopping
import NodeTelemetry.Proofs.Identity.Record
import NodeTelemetry.Proofs.Retention.Effects

/-!
# Identities last

A start that ends with an identity leaves a record behind which gives the same
instance id on every later start. The identity is loaded where a record was there
that could be read, created where nothing was there, and regenerated in all other
cases. Until the new record is moved to its place nothing but the file in which it
is written has changed (`Identity.stops_persist`), so a start that fails or stops
leaves the old record as it was. The exception are paths that go up from
directories that are missing: the directories that are made change where such a
path leads.
-/

namespace NodeTelemetry.Identity

open Disk

theorem descends_recordName : recordName.Descends := by
  refine ⟨by decide +kernel, by decide +kernel⟩

theorem descends_tempName : tempName.Descends := by
  refine ⟨by decide +kernel, by decide +kernel⟩

theorem location_recordPath (dbPath : Path) : (recordPath dbPath).location = recordName :: dbPath.location :=
  Path.location_child dbPath descends_recordName

theorem location_tempPath (dbPath : Path) : (tempPath dbPath).location = tempName :: dbPath.location :=
  Path.location_child dbPath descends_tempName

/-! ## The old record -/

/-- A later disk on which the record is still what it was, and so is every file but the one in which a new
    record is written. -/
structure Untouched (dbPath : Path) (d d' : Disk) : Prop where
  files : ∀ l, l ≠ (tempPath dbPath).location → d'.file? l = d.file? l
  /-- What the path of the record leads to, if anything, with everything below it. -/
  record : d.Followable dbPath →
    (∀ e, d'.stat (recordPath dbPath) = .ok e ↔ d.stat (recordPath dbPath) = .ok e) ∧
    ∀ l, (recordPath dbPath).location <:+ l → d'.get? l = d.get? l

theorem Untouched.refl (dbPath : Path) (d : Disk) : Untouched dbPath d d :=
  ⟨fun _ _ => rfl, fun _ => ⟨fun _ => Iff.rfl, fun _ _ => rfl⟩⟩

/-- Nothing stands at the place of the record but in the directory of the record. -/
theorem directory_of_record {dbPath : Path} {d : Disk} (stands : d.get? (recordName :: dbPath.location) ≠ none) :
    d.get? dbPath.location = some .directory := by
  refine (d.placed_of_get? stands ⟨by simp, fun top => ?_⟩).held
  exact absurd (List.cons.inj top).1 (by decide +kernel)

/-- Directories on the way to the record and the file of a new record are not in the way of the old one. -/
theorem untouched_of {dbPath : Path} {d d' : Disk} (keeps : KeepsDirectories d d')
    (made : d.Followable dbPath → ∀ l, d'.get? l = some .directory → d.get? l = some .directory ∨ l <:+ dbPath.location)
    (files : ∀ l, l ≠ (tempPath dbPath).location → d'.file? l = d.file? l) : Untouched dbPath d d' := by
  refine ⟨files, fun followed => ?_⟩
  have same (l : Location) (below : (recordPath dbPath).location <:+ l) : d'.get? l = d.get? l := by
    rw [location_recordPath] at below
    refine get?_eq_of ⟨fun directory => ?_, keeps l⟩ (files l ?_)
    · refine (made followed l directory).resolve_right fun above => ?_
      exact absurd (below.trans above).length_le (by simp)
    · rintro rfl
      rw [location_tempPath] at below
      rcases List.suffix_cons_iff.mp below with equal | shorter
      · exact absurd (List.cons.inj equal).1 (by decide +kernel)
      · exact absurd shorter.length_le (by simp)
  refine ⟨fun e => ?_, same⟩
  have here := same _ (List.suffix_refl _)
  rw [location_recordPath] at here
  rw [recordPath, stat_child_eq_ok_iff descends_recordName, stat_child_eq_ok_iff descends_recordName, here]
  constructor
  · rintro ⟨takes, -, stands⟩
    exact ⟨takes, ⟨followed, directory_of_record (by simp [stands])⟩, stands⟩
  · rintro ⟨takes, inside, stands⟩
    exact ⟨takes, inside.mono keeps, stands⟩

theorem recordState_eq_valid_iff {dbPath : Path} {d : Disk} {o : ObjectId} :
    recordState dbPath d = .valid o ↔ ∃ bytes, d.read (recordPath dbPath) = .ok bytes ∧ Record.instanceId bytes = .ok o := by
  unfold recordState
  cases read : d.read (recordPath dbPath) with
  | error e => cases e <;> simp
  | ok bytes => cases given : Record.instanceId bytes <;> simp [given]

theorem recordState_eq_absent_iff {dbPath : Path} {d : Disk} :
    recordState dbPath d = .absent ↔ d.read (recordPath dbPath) = .error .notFound := by
  unfold recordState
  cases read : d.read (recordPath dbPath) with
  | error e => cases e <;> simp
  | ok bytes => cases given : Record.instanceId bytes <;> simp [given]

theorem Untouched.valid_iff {dbPath : Path} {d d' : Disk} (untouched : Untouched dbPath d d')
    (followed : d.Followable dbPath) {o : ObjectId} :
    recordState dbPath d' = .valid o ↔ recordState dbPath d = .valid o := by
  have read (d : Disk) (bytes : List UInt8) :
      d.read (recordPath dbPath) = .ok bytes ↔ d.stat (recordPath dbPath) = .ok (.file bytes) := by
    rw [recordPath, read_child_eq_ok_iff descends_recordName, stat_child_eq_ok_iff descends_recordName,
      file?_eq_some_iff]
  simp only [recordState_eq_valid_iff, read, (untouched.record followed).1]

/-! ## Putting a new record in place -/

theorem makeParents_grows (p : Path) (d : Disk) : Grows d ((makeParents p).run d).2 := by
  unfold makeParents
  split
  · exact Grows.refl d
  · exact Procedure.makeDirectories_grows _ d

theorem grows_of_stops_makeParents {p : Path} {d d' : Disk} (stopped : (makeParents p).Stops d d') :
    Grows d d' ∧ Grows d' ((makeParents p).run d).2 := by
  unfold makeParents at stopped ⊢
  split at stopped
  · cases Procedure.stops_done stopped
    exact ⟨Grows.refl d, Grows.refl d⟩
  · exact Procedure.grows_of_stops_makeDirectories stopped

theorem directory_of_makeParents {dbPath : Path} {d : Disk} (followed : d.Followable dbPath) {l : Location}
    (there : ((makeParents (recordPath dbPath)).run d).2.get? l = some .directory) :
    d.get? l = some .directory ∨ l <:+ dbPath.location := by
  unfold makeParents at there
  split at there
  · exact .inl there
  · next above parent =>
    have reached : d.Followable (recordPath dbPath) := by
      rw [Followable, location_recordPath, recordPath, walk_child d dbPath descends_recordName, followed]
      rfl
    rcases held_of_parent parent reached with empty | ⟨followed', held⟩
    · rw [Procedure.makeDirectories_of_isDirectory (.inl empty)] at there
      exact .inl there
    · rcases Procedure.directory_of_makeDirectories followed' there with old | holds
      · exact .inl old
      · rw [location_recordPath, List.tail_cons] at held
        exact held l holds

theorem acts_writeFile (dbPath : Path) (o : ObjectId) :
    (Procedure.writeFile (tempPath dbPath) (Record.ofId o)).Acts
      (Action.Touches (· = (tempPath dbPath).location)) := by
  refine (Procedure.Only.writeFile ?_ ?_ ?_).acts
  · exact ⟨fun _ => by simp, by simp [Action.paths]⟩
  · exact ⟨fun _ => by simp, by simp [Action.paths]⟩
  · exact ⟨fun _ => by simp, by simp [Action.paths]⟩

/-- Wherever a start stops while it puts a new record in place, the old one is untouched, unless the new
    one is in place already. -/
theorem stops_persist {dbPath : Path} {o : ObjectId} {d d' : Disk} (stopped : (persist dbPath o).Stops d d') :
    Untouched dbPath d d' ∨ ((persist dbPath o).run d).1 = .ok () ∧ d' = ((persist dbPath o).run d).2 := by
  rcases Procedure.stops_bind stopped with making | later
  · -- some of the directories are there
    obtain ⟨before, after⟩ := grows_of_stops_makeParents making
    refine .inl (untouched_of before.directories (fun followed l directory => ?_) fun l _ => before.files l)
    exact directory_of_makeParents followed (after.directories l directory)
  have grown := makeParents_grows (recordPath dbPath) d
  have made {l : Location} (followed : d.Followable dbPath) := directory_of_makeParents (l := l) followed
  rcases parents : (makeParents (recordPath dbPath)).run d with ⟨r, between⟩
  rw [parents] at later grown made
  -- all directories are there, and the file of the new record in whatever state
  have written {d' : Disk} (same : SameElsewhere (· = (tempPath dbPath).location) between d') : Untouched dbPath d d' := by
    refine untouched_of (grown.directories.trans same.directories.keeps) (fun followed l directory => ?_) ?_
    · exact made followed ((same.directories l).mpr directory)
    · exact fun l other => (same.files l other).trans (grown.files l)
  cases r with
  | error e =>
    cases Procedure.stops_done later
    exact .inl (written (SameElsewhere.refl _ _))
  | ok u =>
    rcases Procedure.stops_bind later with writing | last
    · exact .inl (written (Procedure.stops_elsewhere (acts_writeFile dbPath o) writing))
    have whole := written (Procedure.run_elsewhere (acts_writeFile dbPath o) between)
    rcases wrote : (Procedure.writeFile (tempPath dbPath) (Record.ofId o)).run between with ⟨r, full⟩
    rw [wrote] at last whole
    cases r with
    | error e =>
      cases Procedure.stops_done last
      exact .inl whole
    | ok u =>
      cases last with
      | here => exact .inl whole
      | failed failed later =>
        cases Procedure.stops_done later
        exact .inl whole
      | acted moved later =>
        cases Procedure.stops_done later
        refine .inr ?_
        simp [persist, parents, wrote, Procedure.run_perform, moved]

/-- A new record that is in place gives the new id. It cannot be put in place where something other than a
    missing directory is in the way. -/
theorem persist_of_ok {dbPath : Path} {o : ObjectId} {d after : Disk} (placed : (persist dbPath o).run d = (.ok (), after)) :
    recordState dbPath after = .valid o ∧ ∀ e, d.locate (recordPath dbPath) = .error e → e = .notFound := by
  have grown := makeParents_grows (recordPath dbPath) d
  rcases parents : (makeParents (recordPath dbPath)).run d with ⟨r, between⟩
  rw [parents] at grown
  rw [persist, Procedure.run_bind, parents] at placed
  cases r with
  | error e => cases placed
  | ok u =>
    simp only [Procedure.run_bind] at placed
    rcases Procedure.writeFile_cases (tempPath dbPath) (Record.ofId o) between with ⟨e, _, went⟩ | ⟨_, _, _, went⟩ |
      ⟨loc, full, found, _, went, change⟩ <;> rw [went] at placed
    · cases placed
    · cases placed
    simp only [Procedure.run_perform, Disk.act] at placed
    have again : full.locate (tempPath dbPath) = .ok loc := (locate_congr change.directories).mp found
    rcases rename_cases full (tempPath dbPath) (recordPath dbPath) with ⟨e, _, went⟩ | ⟨_, e, _, _, went⟩ |
      ⟨old, new, foundOld, foundNew, ⟨_, went⟩ | ⟨_, went⟩ | ⟨bytes, there, ⟨_, went⟩ | ⟨mid, last, _, went, out, into⟩⟩⟩ <;>
      rw [went] at placed <;> cases placed
    cases again.symm.trans foundOld
    cases (file?_eq_some_iff.mp change.here).symm.trans there
    obtain ⟨takes, inside, rfl⟩ := (locate_child_eq_ok_iff descends_recordName).mp foundNew
    refine ⟨recordState_eq_valid_iff.mpr ⟨Record.ofId o, ?_, Record.instanceId_ofId o⟩, fun e blocked => ?_⟩
    · have kept := inside.congr (out.directories.trans into.directories)
      exact (read_child_eq_ok_iff descends_recordName).mpr ⟨takes, kept, into.here⟩
    · by_contra other
      have still := locate_error_mono grown other blocked
      cases ((locate_congr change.directories).mpr foundNew).symm.trans still

/-! ## Starts -/

/-- Starts one after another, each with ids of its own. -/
def loads (dbPath : Path) : List (ObjectId × ObjectId) → Procedure (List Loaded)
  | [] => return []
  | (fresh, internal) :: rest => do
    let first ← load dbPath fresh internal
    return first :: (← loads dbPath rest)

section

variable {dbPath : Path} {fresh internal : ObjectId} {d : Disk}

theorem run_load_of_valid {o : ObjectId} (valid : recordState dbPath d = .valid o) :
    (load dbPath fresh internal).run d = (.ok (⟨o.text, internal.text⟩, .loaded), d) := by
  rw [load, Procedure.run_bind, Procedure.run_observe, valid]
  rfl

theorem run_load_of_absent (absent : recordState dbPath d = .absent) :
    (load dbPath fresh internal).run d = (renew dbPath fresh internal .created).run d := by
  rw [load, Procedure.run_bind, Procedure.run_observe, absent]

theorem run_load_of_unusable {fault : RecordFault} (unusable : recordState dbPath d = .unusable fault) :
    (load dbPath fresh internal).run d = (renew dbPath fresh internal .regenerated).run d := by
  rw [load, Procedure.run_bind, Procedure.run_observe, unusable]

theorem loads_of_valid {o : ObjectId} (valid : recordState dbPath d = .valid o) (ids : List (ObjectId × ObjectId)) :
    (loads dbPath ids).run d = (ids.map fun i => .ok (⟨o.text, i.2.text⟩, .loaded), d) := by
  induction ids with
  | nil => rfl
  | cons i rest ih => simp [loads, run_load_of_valid valid, ih]

theorem run_renew (origin : Origin) :
    (renew dbPath fresh internal origin).run d =
      match (persist dbPath fresh).run d with
      | (.ok (), after) => (.ok (⟨fresh.text, internal.text⟩, origin), after)
      | (.error _, after) => (.error (.persist (recordPath dbPath)), after) := by
  rw [renew, Procedure.run_bind]
  rcases (persist dbPath fresh).run d with ⟨e | u, after⟩ <;> rfl

/-- A start stops before it does anything, or while it puts a new record in place. -/
theorem stops_load {d' : Disk} (stopped : (load dbPath fresh internal).Stops d d') :
    d' = d ∨ (∀ o, recordState dbPath d ≠ .valid o) ∧ (persist dbPath fresh).Stops d d' := by
  have renewing (origin : Origin) (stopped : (renew dbPath fresh internal origin).Stops d d') :
      (persist dbPath fresh).Stops d d' := by
    rcases Procedure.stops_bind stopped with putting | last
    · exact putting
    · rcases put : (persist dbPath fresh).run d with ⟨r, after⟩
      rw [put] at last
      have same : d' = after := by cases r <;> exact Procedure.stops_done last
      have whole := (persist dbPath fresh).stops_run d
      rwa [put, ← same] at whole
  rcases Procedure.stops_bind stopped with looking | later
  · exact .inl (Procedure.stops_observe looking)
  · rw [Procedure.run_observe] at later
    cases state : recordState dbPath d with
    | valid o =>
      rw [state] at later
      exact .inl (Procedure.stops_done later)
    | absent =>
      rw [state] at later
      exact .inr ⟨by simp, renewing _ later⟩
    | unusable fault =>
      rw [state] at later
      exact .inr ⟨by simp, renewing _ later⟩

/-! ## Where an identity comes from -/

theorem has_of_valid {o : ObjectId} (valid : recordState dbPath d = .valid o) : d.has (recordPath dbPath) = true := by
  obtain ⟨bytes, read, _⟩ := recordState_eq_valid_iff.mp valid
  obtain ⟨e, stands, _⟩ := Except.bind_eq_ok_iff.mp read
  simp [has, stands]

theorem has_of_absent (absent : recordState dbPath d = .absent) : d.has (recordPath dbPath) = false := by
  rcases Except.bind_eq_error_iff.mp (recordState_eq_absent_iff.mp absent) with missing | ⟨e, _, refused⟩
  · simp [has, missing]
  · cases e <;> cases refused

/-- Where nothing is found although nothing is in the way, the record is missing. -/
theorem absent_of_not_has (missing : d.has (recordPath dbPath) = false)
    (free : ∀ e, d.locate (recordPath dbPath) = .error e → e = .notFound) : recordState dbPath d = .absent := by
  refine recordState_eq_absent_iff.mpr (Except.bind_eq_error_iff.mpr (.inl ?_))
  cases stands : d.stat (recordPath dbPath) with
  | ok e => simp [has, stands] at missing
  | error e =>
    rcases Except.bind_eq_error_iff.mp stands with lost | ⟨loc, _, nothing⟩
    · rw [free e lost]
    · split at nothing <;> cases nothing
      rfl

/-- A start that ends with an identity leaves its record behind. The identity was in the old record, or it is
    new because there was none or because the old one was of no use. -/
theorem load_of_ok {identity : Identity} {origin : Origin} {after : Disk}
    (ran : (load dbPath fresh internal).run d = (.ok (identity, origin), after)) :
    ∃ o, identity = ⟨o.text, internal.text⟩ ∧ recordState dbPath after = .valid o ∧
      (origin = .loaded ∧ recordState dbPath d = .valid o ∨
       origin = .created ∧ d.has (recordPath dbPath) = false ∧ o = fresh ∨
       origin = .regenerated ∧ d.has (recordPath dbPath) = true ∧ (∀ o, recordState dbPath d ≠ .valid o) ∧ o = fresh) := by
  have renewed {made : Origin} (ran : (renew dbPath fresh internal made).run d = (.ok (identity, origin), after)) :
      (persist dbPath fresh).run d = (.ok (), after) ∧ identity = ⟨fresh.text, internal.text⟩ ∧ origin = made := by
    rw [run_renew] at ran
    split at ran
    · next put =>
      cases ran
      exact ⟨put, rfl, rfl⟩
    · cases ran
  cases state : recordState dbPath d with
  | valid o =>
    rw [run_load_of_valid state] at ran
    cases ran
    exact ⟨o, rfl, state, .inl ⟨rfl, rfl⟩⟩
  | absent =>
    rw [run_load_of_absent state] at ran
    obtain ⟨put, rfl, rfl⟩ := renewed ran
    exact ⟨fresh, rfl, (persist_of_ok put).1, .inr (.inl ⟨rfl, has_of_absent state, rfl⟩)⟩
  | unusable fault =>
    rw [run_load_of_unusable state] at ran
    obtain ⟨put, rfl, rfl⟩ := renewed ran
    refine ⟨fresh, rfl, (persist_of_ok put).1, .inr (.inr ⟨rfl, ?_, by simp, rfl⟩)⟩
    -- what could not be read and was not there would still be in the way of the new record
    by_contra missing
    have absent := absent_of_not_has (by simpa using missing) (persist_of_ok put).2
    cases state.symm.trans absent

/-- A start that ends without an identity leaves the old record as it was. -/
theorem untouched_of_error {e : IdentityError} {after : Disk}
    (failed : (load dbPath fresh internal).run d = (.error e, after)) : Untouched dbPath d after := by
  have renewed {made : Origin} (failed : (renew dbPath fresh internal made).run d = (.error e, after)) :
      Untouched dbPath d after := by
    rw [run_renew] at failed
    split at failed
    · cases failed
    · next put =>
      cases failed
      have stopped := (persist dbPath fresh).stops_run d
      rcases stops_persist stopped with untouched | ⟨done, _⟩
      · rwa [put] at untouched
      · rw [put] at done
        cases done
  cases state : recordState dbPath d with
  | valid o =>
    rw [run_load_of_valid state] at failed
    cases failed
  | absent =>
    rw [run_load_of_absent state] at failed
    exact renewed failed
  | unusable fault =>
    rw [run_load_of_unusable state] at failed
    exact renewed failed

/-- A start that stops leaves the old record as it was, or the new one as a whole. -/
theorem untouched_or_valid_of_stops {stopped : Disk} (stops : (load dbPath fresh internal).Stops d stopped) :
    Untouched dbPath d stopped ∨
      stopped = ((load dbPath fresh internal).run d).2 ∧ recordState dbPath stopped = .valid fresh := by
  rcases stops_load stops with rfl | ⟨useless, putting⟩
  · exact .inl (Untouched.refl dbPath stopped)
  · rcases stops_persist putting with untouched | ⟨done, rfl⟩
    · exact .inl untouched
    · rcases put : (persist dbPath fresh).run d with ⟨r, after⟩
      rw [put] at done
      cases done
      refine .inr ⟨?_, (persist_of_ok put).1⟩
      have renewed (origin : Origin) : ((renew dbPath fresh internal origin).run d).2 = after := by
        rw [run_renew, put]
      cases state : recordState dbPath d with
      | valid o => exact absurd state (useless o)
      | absent => rw [run_load_of_absent state, renewed]
      | unusable fault => rw [run_load_of_unusable state, renewed]

end

/-- Identities are durable. After a start that ends with an identity every later start, however often, gives the
    same instance id and changes nothing. A start that fails leaves the record as it was, and so does one that
    stops anywhere before the new record is in place as a whole, as long as the path goes up from no directory
    that is missing. -/
theorem load_durable (dbPath : Path) (fresh internal : ObjectId) (d : Disk) :
    let loaded := (load dbPath fresh internal).run d
    (∀ identity origin, loaded.1 = .ok (identity, origin) →
      (∀ ids, (loads dbPath ids).run loaded.2 =
        (ids.map fun i => .ok (⟨identity.instanceId, i.2.text⟩, .loaded), loaded.2)) ∧
      (origin = .loaded ↔ ∃ bytes o, d.read (recordPath dbPath) = .ok bytes ∧ Record.instanceId bytes = .ok o) ∧
      (origin = .created ↔ d.has (recordPath dbPath) = false) ∧
      (origin = .regenerated ↔ d.has (recordPath dbPath) = true ∧
        ¬ ∃ bytes o, d.read (recordPath dbPath) = .ok bytes ∧ Record.instanceId bytes = .ok o)) ∧
    (∀ e, loaded.1 = .error e → Untouched dbPath d loaded.2) ∧
    (∀ stopped, (load dbPath fresh internal).Stops d stopped →
      (Untouched dbPath d stopped ∧
        (d.Followable dbPath → ∀ o, recordState dbPath stopped = .valid o ↔ recordState dbPath d = .valid o)) ∨
      (stopped = loaded.2 ∧ ∀ ids, (loads dbPath ids).run stopped =
        (ids.map fun i => .ok (⟨fresh.text, i.2.text⟩, .loaded), stopped))) := by
  intro loaded
  have readable : (∃ bytes o, d.read (recordPath dbPath) = .ok bytes ∧ Record.instanceId bytes = .ok o) ↔
      ∃ o, recordState dbPath d = .valid o := by
    simp only [recordState_eq_valid_iff]
    exact exists_comm
  refine ⟨fun identity origin ended => ?_, fun e failed => ?_, fun stopped stops => ?_⟩
  · obtain ⟨o, rfl, valid, ways⟩ := load_of_ok (Prod.ext ended rfl)
    refine ⟨fun ids => loads_of_valid valid ids, ?_⟩
    rw [readable]
    rcases ways with ⟨rfl, old⟩ | ⟨rfl, missing, _⟩ | ⟨rfl, stands, useless, _⟩
    · simp [has_of_valid old, old]
    · have none (o : ObjectId) : recordState dbPath d ≠ .valid o := by
        intro old
        simp [has_of_valid old] at missing
      simp [missing, none]
    · simp [stands, useless]
  · exact untouched_of_error (Prod.ext failed rfl)
  · rcases untouched_or_valid_of_stops stops with untouched | ⟨whole, valid⟩
    · exact .inl ⟨untouched, fun followed o => untouched.valid_iff followed⟩
    · exact .inr ⟨whole, loads_of_valid valid⟩

/-- A path that goes up from a missing directory of the name of the record: the directory is made, and then it
    stands where the record should be, so that the start fails with something at the path of the record where
    there was nothing before. -/
theorem record_of_failed :
    let dbPath := Path.ofText "psmdb_telemetry.data/.."
    let fresh : ObjectId := ⟨List.replicate 12 7, rfl⟩
    let loaded := (load dbPath fresh fresh).run .empty
    loaded.1 = .error (.persist (recordPath dbPath)) ∧
      Disk.empty.stat (recordPath dbPath) = .error .notFound ∧ loaded.2.stat (recordPath dbPath) = .ok .directory := by
  decide +kernel

end NodeTelemetry.Identity
