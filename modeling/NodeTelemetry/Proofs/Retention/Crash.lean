import NodeTelemetry.Proofs.Disk.Stopping
import NodeTelemetry.Proofs.Retention.Effects
import NodeTelemetry.Proofs.Retention.Isolation

/-!
# Writes that stop in the middle

Wherever a process stops while it writes a snapshot, all files but unfinished ones
are as they were before or as they are after the whole write (`Store.write_atomic`).
An unfinished file that is left over shows in no listing and stands in no later
write's way.

The listing can change earlier than the files, in one way only: a path that goes
up from a missing directory leads to the files of its directory as soon as the
missing one is made (`Store.listAll_of_stopped`).
-/

namespace NodeTelemetry

theorem Disk.leadsInto_of_isEmpty {p : Path} (empty : p.isEmpty = true) (d : Disk) : d.LeadsInto p := by
  obtain ⟨pieces⟩ := p
  have short : pieces = [] ∨ pieces = [.empty] := by simpa [Path.isEmpty] using empty
  have directory : d.get? [] = some .directory := by simp [Disk.get?, lookup]
  rcases short with rfl | rfl <;> exact ⟨rfl, directory⟩

/-- Writing a file goes the same way where its path leads to the same place among the same directories,
    whatever file stands there. -/
theorem Procedure.writeFile_parallel {d d' : Disk} {p : Path} (located : d.locate p = d'.locate p)
    (same : Disk.SameDirectories d d') (bytes : List UInt8) :
    (∃ e, (writeFile p bytes).run d = (.error e, d) ∧ (writeFile p bytes).run d' = (.error e, d')) ∨
    (∃ loc made made', d.locate p = .ok loc ∧ (writeFile p bytes).run d = (.ok (), made) ∧
      (writeFile p bytes).run d' = (.ok (), made') ∧ Disk.Replaced d made loc (some bytes) ∧
      Disk.Replaced d' made' loc (some bytes)) := by
  rcases writeFile_cases p bytes d with ⟨e, lost, went⟩ | ⟨loc, found, there, went⟩ | ⟨loc, made, found, free, went, change⟩ <;>
  rcases writeFile_cases p bytes d' with ⟨e', lost', went'⟩ | ⟨loc', found', there', went'⟩ |
    ⟨loc', made', found', free', went', change'⟩
  · cases lost.symm.trans (located.trans lost')
    exact .inl ⟨e, went, went'⟩
  · cases lost.symm.trans (located.trans found')
  · cases lost.symm.trans (located.trans found')
  · cases found.symm.trans (located.trans lost')
  · exact .inl ⟨.isDirectory, went, went'⟩
  · cases found.symm.trans (located.trans found')
    exact absurd ((same loc).mp there) free'
  · cases found.symm.trans (located.trans lost')
  · cases found.symm.trans (located.trans found')
    exact absurd ((same loc).mpr there') free
  · cases found.symm.trans (located.trans found')
    exact .inr ⟨loc, made, made', found, went, went', change, change'⟩

namespace Store

open Retention

/-! ## Unfinished files -/

/-- Where files stand while they are being written. -/
def Unfinished (s : Store) (l : Location) : Prop := ∃ n : FileName, l = Name.ofText n.tempText :: s.dir.location

/-- Disks that differ in unfinished files only. -/
structure SameButUnfinished (s : Store) (d d' : Disk) : Prop where
  directories : Disk.SameDirectories d d'
  files : ∀ l, ¬ s.Unfinished l → d'.file? l = d.file? l

theorem SameButUnfinished.refl (s : Store) (d : Disk) : s.SameButUnfinished d d :=
  ⟨Disk.SameDirectories.refl d, fun _ _ => rfl⟩

theorem SameButUnfinished.symm {s : Store} {d d' : Disk} (same : s.SameButUnfinished d d') : s.SameButUnfinished d' d :=
  ⟨same.directories.symm, fun l finished => (same.files l finished).symm⟩

theorem SameButUnfinished.trans {s : Store} (d d' d'' : Disk) (first : s.SameButUnfinished d d')
    (second : s.SameButUnfinished d' d'') : s.SameButUnfinished d d'' :=
  ⟨first.directories.trans second.directories,
    fun l finished => (second.files l finished).trans (first.files l finished)⟩

/-- A name that reads as a finished file is none of an unfinished one. -/
theorem not_unfinished {s : Store} {n : Name} {m : FileName} (read : FileName.ofName? n = some m) :
    ¬ s.Unfinished (n :: s.dir.location) := by
  rintro ⟨k, same⟩
  rw [(List.cons.inj same).1, FileName.ofName?_tempText] at read
  cases read

/-- Unfinished files show in no listing. -/
theorem listAll_sameButUnfinished {s : Store} {d d' : Disk} (inside : d.LeadsInto s.dir)
    (same : s.SameButUnfinished d d') : s.listAll d' = s.listAll d :=
  listAll_congr (inside.congr same.directories) inside fun _ _ read => same.files _ (not_unfinished read)

/-- Actions on one unfinished file. -/
structure OnUnfinished (s : Store) (n : FileName) (x : Action) : Prop where
  onFiles : x.OnFiles
  paths : ∀ p ∈ x.paths, p = s.tempPath n

theorem OnUnfinished.touches {s : Store} {n : FileName} (plain : '/' ∉ n.instanceId.toList) {x : Action}
    (on : s.OnUnfinished n x) : x.Touches s.Unfinished := by
  refine ⟨on.onFiles, fun p member => ⟨n, ?_⟩⟩
  rw [on.paths p member, s.tempPath_eq_child plain, Path.location_child _ (FileName.descends_tempText n)]

section

variable {s : Store} {n : FileName} (plain : '/' ∉ n.instanceId.toList) {α : Type} {p : Procedure α}
  (acts : p.Acts (s.OnUnfinished n))

include plain acts

theorem run_unfinished (d : Disk) : s.SameButUnfinished d (p.run d).2 := by
  have same := Procedure.run_elsewhere (acts.mono fun _ => OnUnfinished.touches plain) d
  exact ⟨same.directories, same.files⟩

theorem stops_unfinished {d d' : Disk} (stopped : p.Stops d d') : s.SameButUnfinished d d' := by
  have same := Procedure.stops_elsewhere (acts.mono fun _ => OnUnfinished.touches plain) stopped
  exact ⟨same.directories, same.files⟩

end

theorem acts_writeFile (s : Store) (n : FileName) (body : List UInt8) :
    (Procedure.writeFile (s.tempPath n) body).Acts (s.OnUnfinished n) := by
  refine (Procedure.Only.writeFile ?_ ?_ ?_).acts
  · exact ⟨fun _ => by simp, by simp [Action.paths]⟩
  · exact ⟨fun _ => by simp, by simp [Action.paths]⟩
  · exact ⟨fun _ => by simp, by simp [Action.paths]⟩

theorem acts_discard (s : Store) (n : FileName) {α : Type} (result : α) :
    (do let _ ← Procedure.perform (.remove (s.tempPath n)); return result : Procedure α).Acts (s.OnUnfinished n) :=
  .act ⟨fun _ => by simp, by simp [Action.paths]⟩ fun _ => .done _

/-! ## Where a write stops -/

/-- A file that is being placed is unfinished until it is there as a whole. -/
theorem stops_place {s : Store} {n : FileName} (plain : '/' ∉ n.instanceId.toList) {body : List UInt8} {d d' : Disk}
    (stopped : (s.place n body).Stops d d') : s.SameButUnfinished d d' ∨ d' = ((s.place n body).run d).2 := by
  have discarded {made : Disk} (p : Path) (e : DiskError) (begun : s.SameButUnfinished d made)
      (later : (do
        let _ ← Procedure.perform (.remove (s.tempPath n))
        return .error (.atPath p e) : Procedure (Except StorageError Path)).Stops made d') : s.SameButUnfinished d d' :=
    begun.trans _ _ _ (stops_unfinished plain (s.acts_discard n _) later)
  rcases Procedure.stops_bind stopped with writing | later
  · exact .inl (stops_unfinished plain (s.acts_writeFile n body) writing)
  · have begun := run_unfinished plain (s.acts_writeFile n body) d
    rcases went : (Procedure.writeFile (s.tempPath n) body).run d with ⟨r, made⟩
    rw [went] at later begun
    cases r with
    | error e => exact .inl (discarded _ _ begun later)
    | ok u =>
      cases later with
      | here => exact .inl begun
      | failed failed later => exact .inl (discarded _ _ begun later)
      | acted acted later =>
        cases Procedure.stops_done later
        refine .inr ?_
        rw [place, Procedure.run_bind, went]
        simp only [Procedure.run_bind, Procedure.run_perform, acted]
        rfl

theorem stops_placeFrom {s : Store} {snapshot : Snapshot} (plain : '/' ∉ snapshot.instanceId.toList) (tried attempts : Nat)
    {d d' : Disk} (stopped : (s.placeFrom snapshot tried attempts).Stops d d') :
    s.SameButUnfinished d d' ∨ d' = ((s.placeFrom snapshot tried attempts).run d).2 := by
  induction attempts generalizing tried with
  | zero => exact .inr (Procedure.stops_done stopped)
  | succ attempts ih =>
    rcases Procedure.stops_bind stopped with seen | later
    · cases seen with
      | here => exact .inl (.refl s d)
      | look later =>
        cases Procedure.stops_done later
        exact .inl (.refl s d)
    · rw [placeFrom, Procedure.run_bind]
      rw [Procedure.run_observe] at later ⊢
      cases taken : d.has (s.finalPath (nameAfter snapshot tried)) with
      | true =>
        simp only [taken, if_true] at later ⊢
        exact ih (tried + 1) later
      | false =>
        simp only [taken, Bool.false_eq_true, if_false] at later ⊢
        exact stops_place plain later

theorem leadsInto_of_prepare {s : Store} {d between : Disk} (prepared : s.prepare.run d = (.ok (), between)) :
    between.LeadsInto s.dir := by
  rcases Procedure.isDirectory_of_makeDirectories prepared with empty | directory
  · exact Disk.leadsInto_of_isEmpty empty between
  · exact (Disk.isDirectory_iff.mp directory).2

/-- A write stops while directories are made, while a file is unfinished, or at its end. -/
theorem stops_write {s : Store} {snapshot : Snapshot} (plain : '/' ∉ snapshot.instanceId.toList) {d d' : Disk}
    (stopped : (s.write snapshot).Stops d d') :
    let prepared := s.prepare.run d
    (Disk.Grows d d' ∧ Disk.Grows d' prepared.2) ∨ (prepared.1 = .ok () ∧ s.SameButUnfinished prepared.2 d') ∨
      d' = ((s.write snapshot).run d).2 := by
  intro prepared
  rcases Procedure.stops_bind stopped with making | later
  · exact .inl (Procedure.grows_of_stops_makeDirectories making)
  · refine .inr ?_
    rw [write, Procedure.run_bind]
    rcases went : s.prepare.run d with ⟨r, between⟩
    simp only [prepared, went] at later ⊢
    cases r with
    | error e => exact .inr (Procedure.stops_done later)
    | ok u => exact (stops_placeFrom plain 0 nameAttempts later).imp (fun same => ⟨rfl, same⟩) id

/-! ## What a listing shows in between -/

theorem listAll_of_error {s : Store} {d : Disk} {e : DiskError} (read : d.readDirectory s.dir = .error e) :
    s.listAll d = if e = .notFound then .ok [] else .error (.atPath s.dir e) := by
  rw [listAll, read]
  cases e <;> rfl

/-- While directories are being made, a listing is the one before or the one afterwards. -/
theorem listAll_between {s : Store} {d between after : Disk} (before : Disk.Grows d between)
    (later : Disk.Grows between after) : s.listAll between = s.listAll d ∨ s.listAll between = s.listAll after := by
  cases read : between.readDirectory s.dir with
  | ok names =>
    have inside := (Disk.isDirectory_iff.mp (Disk.readDirectory_eq_ok_iff.mp read).1).2
    exact .inr (listAll_congr inside (inside.mono later.directories) fun _ _ _ => (later.files _).symm)
  | error e =>
    by_cases missing : e = .notFound
    · refine .inl ?_
      subst missing
      cases read' : d.readDirectory s.dir with
      | ok names =>
        have directory := Disk.isDirectory_mono before.directories (Disk.readDirectory_eq_ok_iff.mp read').1
        cases read.symm.trans (Disk.readDirectory_eq_ok_iff.mpr ⟨directory, rfl⟩)
      | error e' =>
        by_cases missing' : e' = .notFound
        · rw [listAll_of_error read, listAll_of_error read', missing']
        · cases read.symm.trans (Disk.readDirectory_error_mono before missing' read')
          contradiction
    · refine .inr ?_
      rw [listAll_of_error read, listAll_of_error (Disk.readDirectory_error_mono later missing read)]

/-- If a directory stands where the path of the store leads, the path can be followed to it. It cannot where
    the path goes up from a directory that is missing. -/
def Reachable (s : Store) (d : Disk) : Prop := d.get? s.dir.location = some .directory → d.LeadsInto s.dir

/-- A directory that has just been made holds no file. -/
theorem listAll_of_grows {s : Store} {d after : Disk} (reachable : s.Reachable d) (grows : Disk.Grows d after)
    (inside : after.LeadsInto s.dir) : s.listAll after = s.listAll d := by
  by_cases there : d.LeadsInto s.dir
  · exact listAll_congr inside there fun _ _ _ => grows.files _
  have new : d.get? s.dir.location ≠ some .directory := fun directory => there (reachable directory)
  cases read : d.readDirectory s.dir with
  | ok names => exact absurd (Disk.isDirectory_iff.mp (Disk.readDirectory_eq_ok_iff.mp read).1).2 there
  | error e =>
    cases accepted : Disk.accept s.dir with
    | error e' =>
      have refused (d : Disk) : d.readDirectory s.dir = .error e' := by
        rw [Disk.readDirectory, Disk.locate, accepted]
        rfl
      rw [listAll_of_error (refused after), listAll_of_error (refused d)]
    | ok u =>
      have directory := Disk.isDirectory_iff.mpr ⟨accepted, inside⟩
      have missing : e = .notFound := by
        by_cases missing : e = .notFound
        · exact missing
        · cases (Disk.readDirectory_eq_ok_iff.mpr ⟨directory, rfl⟩).symm.trans
            (Disk.readDirectory_error_mono grows missing read)
      have bare : (after.children s.dir.location).filterMap (s.fileOfName? after) = [] := by
        refine List.filterMap_eq_nil_iff.mpr fun n _ => Option.eq_none_iff_forall_ne_some.mpr fun f found => ?_
        have stored := ((fileOfName?_eq_some_iff inside).mp found).1
        have stands : d.file? (n :: s.dir.location) ≠ none := grows.files _ ▸ stored.stands
        exact new (Disk.placed_of_file? stands).held
      rw [listAll_of_isDirectory directory, bare, listAll_of_error read, missing]
      rfl

/-! ## Later writes -/

/-- Disks on which the directory of a store is there and that differ in unfinished files only. -/
def Alike (s : Store) (d d' : Disk) : Prop := d.LeadsInto s.dir ∧ s.SameButUnfinished d d'

/-- Unfinished files that are changed on both do not part the disks. -/
theorem Alike.step {s : Store} {d d' after after' : Disk} (alike : s.Alike d d') (here : s.SameButUnfinished d after)
    (there : s.SameButUnfinished d' after') : s.Alike after after' :=
  ⟨alike.1.congr here.directories, here.symm.trans _ _ _ (alike.2.trans _ _ _ there)⟩

/-- What is left of a file that could not be placed is removed on both. -/
theorem indifferent_discard {s : Store} {n : FileName} (plain : '/' ∉ n.instanceId.toList) {α : Type} (result : α) :
    (do let _ ← Procedure.perform (.remove (s.tempPath n)); return result : Procedure α).Indifferent s.Alike := by
  intro d d' alike
  refine ⟨by simp, alike.step ?_ ?_⟩
  · exact run_unfinished plain (s.acts_discard n result) d
  · exact run_unfinished plain (s.acts_discard n result) d'

/-- A file is placed in the same way whatever unfinished files are left over. -/
theorem indifferent_place {s : Store} {n : FileName} (nameable : Nameable n.instanceId) (body : List UInt8) :
    (s.place n body).Indifferent s.Alike := by
  intro d d' alike
  have located {d d' : Disk} (alike : s.Alike d d') {m : Name} (down : m.Descends) :
      d.locate (s.dir.child m) = d'.locate (s.dir.child m) := by
    rw [alike.1.locate_child down, (alike.1.congr alike.2.directories).locate_child down]
  have temp := s.tempPath_eq_child nameable.2
  have final := s.finalPath_eq_child nameable.2
  simp only [place, Procedure.run_bind]
  rcases Procedure.writeFile_parallel (temp ▸ located alike (FileName.descends_tempText n)) alike.2.directories body with
    ⟨e, went, went'⟩ | ⟨loc, made, made', found, went, went', change, change'⟩
  · rw [went, went']
    exact indifferent_discard nameable.2 _ d d' alike
  · -- both have the whole file under its unfinished name now
    have begun : s.Alike made made' := by
      have first := run_unfinished nameable.2 (s.acts_writeFile n body) d
      have second := run_unfinished nameable.2 (s.acts_writeFile n body) d'
      rw [went] at first
      rw [went'] at second
      exact alike.step first second
    have source : Disk.AgreeAt made made' (s.tempPath n) := by
      refine ⟨temp ▸ located begun (FileName.descends_tempText n), fun l there => ?_⟩
      cases ((Disk.locate_congr change.directories).mp found).symm.trans there
      exact Disk.get?_congr begun.2.directories (change.here.trans change'.here.symm)
    have target : Disk.AgreeAt made made' (s.finalPath n) := by
      refine ⟨final ▸ located begun (FileName.descends_text n), fun l there => ?_⟩
      rw [final] at there
      obtain ⟨_, _, rfl⟩ := (Disk.locate_child_eq_ok_iff (FileName.descends_text n)).mp there
      have finished := begun.2.files _ (not_unfinished (FileName.ofName?_text nameable.1))
      exact Disk.get?_congr begun.2.directories finished.symm
    have moves : Disk.Parallel made made' (made.act (.rename (s.tempPath n) (s.finalPath n)))
        (made'.act (.rename (s.tempPath n) (s.finalPath n))) :=
      Disk.rename_parallel begun.2.directories source target
    rw [went, went']
    simp only [Procedure.run_bind]
    rcases Procedure.run_perform_of_parallel moves with
      ⟨e, went, went'⟩ | ⟨after, after', acted, went, went', directories, files⟩ <;> rw [went, went']
    · exact indifferent_discard nameable.2 _ made made' begun
    · have kept := Disk.sameDirectories_act (fun _ => by simp) acted
      exact ⟨rfl, begun.1.congr kept, directories, fun l finished => (files l (begun.2.files l finished).symm).symm⟩

/-- A snapshot is written in the same way whatever unfinished files are left over. -/
theorem indifferent_write_of_alike {s : Store} {snapshot : Snapshot} (nameable : Nameable snapshot.instanceId) :
    (s.write snapshot).Indifferent s.Alike := by
  refine indifferent_write_of_place (fun d d' alike => ⟨alike.1, alike.1.congr alike.2.directories⟩) ?_ ?_ nameable
  · intro d d' alike n mine
    have read := FileName.ofName?_text (n := n) (mine ▸ nameable.1)
    exact Disk.get?_congr alike.2.directories (alike.2.files _ (not_unfinished read)).symm
  · intro n mine
    exact indifferent_place (mine ▸ nameable) snapshot.render

/-! ## Any stop -/

theorem run_write_of_error {s : Store} {snapshot : Snapshot} {d between : Disk} {e : DiskError}
    (failed : s.prepare.run d = (.error e, between)) : ((s.write snapshot).run d).2 = between := by
  rw [write, Procedure.run_bind, failed]
  rfl

theorem leadsInto_of_write {s : Store} {snapshot : Snapshot} (nameable : Nameable snapshot.instanceId) {d between : Disk}
    (prepared : s.prepare.run d = (.ok (), between)) : ((s.write snapshot).run d).2.LeadsInto s.dir := by
  rw [write, Procedure.run_bind, prepared]
  exact (leadsInto_of_prepare prepared).congr (s.confined_placeFrom nameable 0 nameAttempts between).directories

/-- Without a directory no file is left over. -/
theorem file?_of_stops_outside {s : Store} {snapshot : Snapshot} (nameable : Nameable snapshot.instanceId) {d d' : Disk}
    (stopped : (s.write snapshot).Stops d d') (outside : ¬ d'.LeadsInto s.dir) (l : Location) :
    d'.file? l = d.file? l := by
  have grown : Disk.Grows d (s.prepare.run d).2 := Procedure.makeDirectories_grows s.dir d
  rcases prepared : s.prepare.run d with ⟨r, between⟩
  have ways := stops_write nameable.2 stopped
  rw [prepared] at ways grown
  rcases ways with ⟨before, _⟩ | ⟨made, same⟩ | rfl
  · exact before.files l
  · cases made
    exact absurd ((leadsInto_of_prepare prepared).congr same.directories) outside
  · cases r with
    | error e =>
      rw [run_write_of_error prepared]
      exact grown.files l
    | ok u => exact absurd (leadsInto_of_write nameable prepared) outside

/-- The files but unfinished ones, and with them the listing, are those before the write or those after it. -/
theorem finished_of_stops {s : Store} {snapshot : Snapshot} (nameable : Nameable snapshot.instanceId) {d d' : Disk}
    (stopped : (s.write snapshot).Stops d d') :
    ((∀ l, ¬ s.Unfinished l → d'.file? l = d.file? l) ∧ (s.Reachable d → s.listAll d' = s.listAll d)) ∨
    ((∀ l, ¬ s.Unfinished l → d'.file? l = ((s.write snapshot).run d).2.file? l) ∧
      s.listAll d' = s.listAll ((s.write snapshot).run d).2) := by
  have grown : Disk.Grows d (s.prepare.run d).2 := Procedure.makeDirectories_grows s.dir d
  rcases prepared : s.prepare.run d with ⟨r, between⟩
  have ways := stops_write nameable.2 stopped
  rw [prepared] at ways grown
  rcases ways with ⟨before, later⟩ | ⟨made, same⟩ | rfl
  · rcases listAll_between before later with listed | listed
    · exact .inl ⟨fun l _ => before.files l, fun _ => listed⟩
    · cases r with
      | error e =>
        rw [run_write_of_error prepared]
        exact .inr ⟨fun l _ => (later.files l).symm, listed⟩
      | ok u =>
        refine .inl ⟨fun l _ => before.files l, fun reachable => ?_⟩
        exact listed.trans (listAll_of_grows reachable grown (leadsInto_of_prepare prepared))
  · cases made
    have inside := leadsInto_of_prepare prepared
    refine .inl ⟨fun l finished => (same.files l finished).trans (grown.files l), fun reachable => ?_⟩
    exact (listAll_sameButUnfinished inside same).trans (listAll_of_grows reachable grown inside)
  · exact .inr ⟨fun _ _ => rfl, rfl⟩

/-- Wherever a process stops while it writes a snapshot, all files but unfinished ones are as before or as after
    the whole write, and so is the listing, if the path of the store could be followed to its directory in case
    there was one. Every later write goes as if the unfinished files that are left over had never been there. As
    long as the path leads into no directory, nothing is left over. -/
theorem write_atomic (s : Store) {snapshot : Snapshot} (nameable : Nameable snapshot.instanceId) {d d' : Disk}
    (stopped : (s.write snapshot).Stops d d') :
    let done := ((s.write snapshot).run d).2
    (((∀ l, ¬ s.Unfinished l → d'.file? l = d.file? l) ∧ (s.Reachable d → s.listAll d' = s.listAll d)) ∨
      ((∀ l, ¬ s.Unfinished l → d'.file? l = done.file? l) ∧ s.listAll d' = s.listAll done)) ∧
    (d'.LeadsInto s.dir → ∀ without, s.SameButUnfinished d' without → ∀ next : Snapshot, Nameable next.instanceId →
      let here := (s.write next).run d'
      let there := (s.write next).run without
      here.1 = there.1 ∧ (∀ l, ¬ s.Unfinished l → there.2.file? l = here.2.file? l) ∧
        s.listAll there.2 = s.listAll here.2) ∧
    (¬ d'.LeadsInto s.dir → ∀ l, d'.file? l = d.file? l) := by
  intro done
  refine ⟨finished_of_stops nameable stopped, ?_, file?_of_stops_outside nameable stopped⟩
  intro inside without same next nameable' here there
  obtain ⟨answer, inside', same'⟩ := indifferent_write_of_alike nameable' d' without ⟨inside, same⟩
  exact ⟨answer, same'.files, listAll_sameButUnfinished inside' same'⟩

/-- A snapshot of the instance `me`. -/
def sample (time : UInt64) : Snapshot :=
  { instanceId := "me", internalId := "", source := "mongod", storageEngine := "", proFeatures := [], pillarVersion := "",
    uptime := 0, replicationState := none, replicationId := none, shardServer := false, configServer := false,
    capturedAt := time }

/-- A process that stops after seven bytes leaves them in an unfinished file, and the next write takes the
    same name whether that file is removed first or not. -/
theorem write_atomic_torn :
    let s : Store := ⟨⟨[.here]⟩⟩
    let torn := (s.write (sample 5)).stopAfter 2 7 .empty
    let tidy := ((Procedure.perform (.remove (s.tempPath ⟨5, "me"⟩))).run torn).2
    torn.file? [Name.ofText ".tmp-5-me.json"] = some ((sample 5).render.take 7) ∧
      (∀ l, ¬ s.Unfinished l → torn.file? l = Disk.empty.file? l) ∧
      ((s.write (sample 5)).run torn).1 = ((s.write (sample 5)).run tidy).1 := by
  intro s torn tidy
  obtain ⟨finished, later, -⟩ :=
    s.write_atomic (by decide) (Procedure.stops_stopAfter (s.write (sample 5)) 2 7 .empty)
  refine ⟨by decide +kernel, ?_, ?_⟩
  · rcases finished with ⟨before, -⟩ | ⟨-, listed⟩
    · exact before
    · have other : s.listAll torn ≠ s.listAll ((s.write (sample 5)).run .empty).2 := by decide +kernel
      exact absurd listed other
  · have inside : torn.LeadsInto s.dir := (Disk.isDirectory_iff.mp (by decide +kernel)).2
    have removed : (Procedure.perform (.remove (s.tempPath ⟨5, "me"⟩))).Acts (s.OnUnfinished ⟨5, "me"⟩) :=
      .perform ⟨fun _ => by simp, by simp [Action.paths]⟩
    exact (later inside tidy (run_unfinished (by decide) removed torn) (sample 5) (by decide)).1

/-- A path that goes up from a missing directory shows the files of its directory once the missing one is made,
    before the snapshot is there: a listing that is neither the one before the write nor the one after it. -/
theorem listAll_of_stopped :
    let s : Store := ⟨Path.ofText "a/../t"⟩
    let before := (((⟨Path.ofText "t"⟩ : Store).write (sample 5)).run .empty).2
    let stopped := (s.write (sample 9)).stopAfter 3 0 before
    let done := ((s.write (sample 9)).run before).2
    Nameable (sample 9).instanceId ∧ (s.write (sample 9)).Stops before stopped ∧
      s.listAll stopped = .ok [⟨Path.ofText "a/../t/5-me.json", "me", 5⟩] ∧
      ¬ (s.listAll stopped = s.listAll before ∨ s.listAll stopped = s.listAll done) := by
  intro s before stopped done
  have earlier : s.listAll stopped ≠ s.listAll before := by decide +kernel
  have later : s.listAll stopped ≠ s.listAll done := by decide +kernel
  exact ⟨by decide, Procedure.stops_stopAfter _ 3 0 before, by decide +kernel, not_or.mpr ⟨earlier, later⟩⟩

end Store

end NodeTelemetry
