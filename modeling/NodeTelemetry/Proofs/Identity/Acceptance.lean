import NodeTelemetry.Proofs.Collector.Building
import NodeTelemetry.Proofs.Identity.Durability

/-!
# Which records are accepted

A start ends with the instance id of a record that gives one. All other records, and
those that break off, are reported and replaced by a new one
(`Identity.Regenerates`). So what a start ends with is an object id in any case, and
nothing from a record gets into the names of files but that.
-/

namespace NodeTelemetry

namespace Identity

open Disk

section

variable {dbPath : Path} {d : Disk} {bytes : List UInt8} (fresh : ObjectId)
  (stands : d.read (recordPath dbPath) = .ok bytes)

include stands

/-- The directory of a record that stands there is not made. -/
theorem run_makeParents_of_read : (makeParents (recordPath dbPath)).run d = (.ok (), d) := by
  obtain ⟨takes, inside, _⟩ := (read_child_eq_ok_iff descends_recordName).mp stands
  unfold makeParents
  split
  · rfl
  · next above parent =>
    have followed : d.walk (recordPath dbPath) = .ok (recordPath dbPath).location := by
      rw [location_recordPath, recordPath, walk_child d dbPath descends_recordName, inside.followed]
      rfl
    refine Procedure.makeDirectories_of_isDirectory (isDirectory_parent parent takes.1 followed fun _ _ => ?_)
    rw [location_recordPath]
    exact inside.directory

/-- Where a record stands, a new one is put in its place if the file in which it is written can be made. -/
theorem run_persist_of_created {made : Disk} (created : d.create (tempPath dbPath) = .ok made) :
    ∃ after, (persist dbPath fresh).run d = (.ok (), after) := by
  obtain ⟨takes, inside, old⟩ := (read_child_eq_ok_iff descends_recordName).mp stands
  rw [persist, Procedure.run_bind, run_makeParents_of_read stands]
  simp only [Procedure.run_bind]
  rcases create_cases d (tempPath dbPath) with ⟨_, _, went⟩ | ⟨_, _, _, went⟩ | ⟨loc, _, found, free, _, _⟩
  · cases went.symm.trans created
  · cases went.symm.trans created
  rcases Procedure.writeFile_cases (tempPath dbPath) (Record.ofId fresh) d with ⟨_, lost, _⟩ | ⟨_, found', there, _⟩ |
    ⟨_, full, found', _, went, change⟩
  · cases lost.symm.trans found
  · cases found'.symm.trans found
    exact absurd there free
  cases found'.symm.trans found
  rw [went]
  simp only [Procedure.run_perform, Disk.act]
  -- the new record stands beside the old one, and nothing is in the way of moving it
  have source := (locate_congr change.directories).mp found
  have target : full.locate (recordPath dbPath) = .ok (recordName :: dbPath.location) :=
    (locate_child_eq_ok_iff descends_recordName).mpr ⟨takes, inside.congr change.directories, rfl⟩
  have file := file?_eq_some_iff.mp change.here
  have replaceable : full.get? (recordName :: dbPath.location) ≠ some .directory := by
    intro directory
    cases ((change.directories _).mpr directory).symm.trans (file?_eq_some_iff.mp old)
  rcases rename_cases full (tempPath dbPath) (recordPath dbPath) with ⟨_, lost, _⟩ | ⟨_, _, _, lost, _⟩ |
    ⟨_, _, found, found', ⟨missing, _⟩ | ⟨directory, _⟩ | ⟨_, _, ⟨directory, _⟩ | ⟨_, after, _, went, _⟩⟩⟩
  · cases source.symm.trans lost
  · cases target.symm.trans lost
  · cases source.symm.trans found
    cases file.symm.trans missing
  · cases source.symm.trans found
    cases file.symm.trans directory
  · cases target.symm.trans found'
    exact absurd directory replaceable
  · exact ⟨after, by rw [went]⟩

theorem run_persist_of_refused {e : DiskError} (refused : d.create (tempPath dbPath) = .error e) :
    (persist dbPath fresh).run d = (.error e, d) := by
  rw [persist, Procedure.run_bind, run_makeParents_of_read stands]
  simp only [Procedure.run_bind, Procedure.writeFile, Procedure.run_perform, Disk.act, refused]
  rfl

end

/-- A start reports the record that it finds and puts a new one in its place, which is what later starts load. If
    the file of the new record cannot be made, it fails and changes nothing. -/
structure Regenerates (dbPath : Path) (fresh internal : ObjectId) (d : Disk) : Prop where
  reported : ∃ fault, notices (recordState dbPath d) = [.recordUnreadable fault]
  replaced : ∀ made, d.create (tempPath dbPath) = .ok made → ∃ after,
    (load dbPath fresh internal).run d = (.ok (⟨fresh.text, internal.text⟩, .regenerated), after) ∧
    ∀ fresh' internal', (load dbPath fresh' internal').run after = (.ok (⟨fresh.text, internal'.text⟩, .loaded), after)
  refused : ∀ e, d.create (tempPath dbPath) = .error e →
    (load dbPath fresh internal).run d = (.error (.persist (recordPath dbPath)), d)

theorem regenerates_of_error {dbPath : Path} (fresh internal : ObjectId) {d : Disk} {bytes : List UInt8}
    {fault : RecordFault} (stands : d.read (recordPath dbPath) = .ok bytes)
    (useless : Record.instanceId bytes = .error fault) : Regenerates dbPath fresh internal d := by
  have state : recordState dbPath d = .unusable fault := by
    simp only [recordState, stands, useless]
  refine ⟨⟨fault, by rw [state]; rfl⟩, fun made created => ?_, fun e refused => ?_⟩
  · obtain ⟨after, put⟩ := run_persist_of_created fresh stands created
    refine ⟨after, ?_, fun fresh' internal' => run_load_of_valid (persist_of_ok put).1⟩
    rw [run_load_of_unusable state, run_renew, put]
  · rw [run_load_of_unusable state, run_renew, run_persist_of_refused fresh stands refused]

/-- A start accepts no record but a whole one that gives an instance id, whatever else is in the record and behind
    it, and then it ends with that id and changes nothing. It reports and replaces each record that breaks off, that
    cannot be read, or in which the last field of that name is missing or stands for no object id. However the record
    came about, a start ends with 24 lower-case digits, if it ends with an id at all. -/
theorem load_accepts_exactly (dbPath : Path) (fresh internal : ObjectId) (d : Disk) :
    (∀ identity origin after, (load dbPath fresh internal).run d = (.ok (identity, origin), after) →
      ObjectId.Spells identity.instanceId) ∧
    (∀ (D : Record.Document) more, d.read (recordPath dbPath) = .ok (D.bytes ++ more) →
      (∀ o, D.Gives o → notices (recordState dbPath d) = [] ∧
        (load dbPath fresh internal).run d = (.ok (⟨o.text, internal.text⟩, .loaded), d)) ∧
      ((∀ o, ¬ D.Gives o) → Regenerates dbPath fresh internal d)) ∧
    (∀ (D : Record.Document) cut, d.read (recordPath dbPath) = .ok cut → cut <+: D.bytes → cut ≠ D.bytes →
      Regenerates dbPath fresh internal d) := by
  refine ⟨fun identity origin after ran => ?_, fun D more stands => ⟨fun o gives => ?_, fun none => ?_⟩, ?_⟩
  · have ends := Procedure.ends_run (load dbPath fresh internal) d
    rw [ran] at ends
    exact (spelled_of_ends_load ends).1
  · have valid : recordState dbPath d = .valid o :=
      recordState_eq_valid_iff.mpr ⟨_, stands, (D.instanceId_eq_ok_iff more).mpr gives⟩
    exact ⟨by rw [valid]; rfl, run_load_of_valid valid⟩
  · cases given : Record.instanceId (D.bytes ++ more) with
    | error fault => exact regenerates_of_error fresh internal stands given
    | ok o => exact absurd ((D.instanceId_eq_ok_iff more).mp given) (none o)
  · intro D cut stands front part
    have broken : Record.instanceId cut = .error .malformed := by
      rw [Record.instanceId, D.readRecord_of_prefix front part]
    exact regenerates_of_error fresh internal stands broken

/-- The id is in upper case, and a list before it has an item of a name that makes no document of it. Without its
    last byte the same record is replaced. -/
theorem load_accepts_upper_case :
    let dbPath := Path.ofText "db"
    let fresh : ObjectId := ⟨List.replicate 12 7, rfl⟩
    let D : Record.Document :=
      ⟨.cons ⟨"a", by decide +kernel⟩ (.list (.cons ⟨"$oid", by decide +kernel⟩ (.flag true) .nil))
        (.cons ⟨"db_instance_id", by decide +kernel⟩ (.text "65F1C0DE65F1C0DE65F1C0DE") .nil), by decide +kernel⟩
    let holding (bytes : List UInt8) : Disk := ((do
      let _ ← Procedure.makeDirectories dbPath
      Procedure.writeFile (recordPath dbPath) bytes).run .empty).2
    ((load dbPath fresh fresh).run (holding D.bytes)).1 =
      .ok (⟨"65f1c0de65f1c0de65f1c0de", fresh.text⟩, .loaded) ∧
    ((load dbPath fresh fresh).run (holding D.bytes.dropLast)).1 = .ok (⟨fresh.text, fresh.text⟩, .regenerated) := by
  intro dbPath fresh D holding
  let o : ObjectId := ⟨[101, 241, 192, 222, 101, 241, 192, 222, 101, 241, 192, 222], rfl⟩
  have text : o.text = "65f1c0de65f1c0de65f1c0de" := by decide +kernel
  constructor
  · have stands : (holding D.bytes).read (recordPath dbPath) = .ok (D.bytes ++ []) := by decide +kernel
    have ordinary : D.fields.Ordinary false :=
      ⟨fun _ => by decide, ⟨nofun, trivial, trivial⟩, fun _ => by decide, trivial, trivial⟩
    have gives : D.Gives o := ⟨Record.Document.decodable_of_ordinary ordinary, _, rfl, .text (by decide +kernel)⟩
    obtain ⟨-, accepts, -⟩ := load_accepts_exactly dbPath fresh fresh (holding D.bytes)
    rw [((accepts D [] stands).1 o gives).2, text]
  · have stands : (holding D.bytes.dropLast).read (recordPath dbPath) = .ok D.bytes.dropLast := by decide +kernel
    obtain ⟨-, -, rejects⟩ := load_accepts_exactly dbPath fresh fresh (holding D.bytes.dropLast)
    have replaces := rejects D _ stands (List.dropLast_prefix _) (by decide +kernel)
    have free : ((holding D.bytes.dropLast).create (tempPath dbPath)).toBool = true := by decide +kernel
    cases created : (holding D.bytes.dropLast).create (tempPath dbPath) with
    | error e =>
      rw [created] at free
      cases free
    | ok made =>
      obtain ⟨after, ran, -⟩ := replaces.replaced made created
      rw [ran]

/-- A directory stands where the new record would be written. A record without an instance id is not replaced
    then, and the start fails. -/
theorem load_of_blocked :
    let dbPath := Path.ofText "db"
    let fresh : ObjectId := ⟨List.replicate 12 7, rfl⟩
    let D : Record.Document := ⟨.nil, by decide⟩
    let blocked : Disk := ((do
      let _ ← Procedure.makeDirectories (tempPath dbPath)
      Procedure.writeFile (recordPath dbPath) D.bytes).run .empty).2
    blocked.read (recordPath dbPath) = .ok D.bytes ∧ D.fields.get? Record.idKey = none ∧
      ((load dbPath fresh fresh).run blocked).1 = .error (.persist (recordPath dbPath)) := by
  decide +kernel

end Identity

end NodeTelemetry
