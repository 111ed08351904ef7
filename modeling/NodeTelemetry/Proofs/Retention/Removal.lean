import NodeTelemetry.Proofs.Retention.Effects

/-!
# What removing reports

Pruning and purging report how many files they have removed. Of what a listing
shows nothing is missing and nothing is shown twice, so the number is that of the
files that went (`Store.struck_removeFiles`). Where nothing can be listed, nothing
is removed and nothing reported (`Store.struck_purge`, `Store.struck_prune`).
-/

namespace NodeTelemetry

namespace Store

open Retention

variable {s : Store} {id : String} {d d' : Disk}

/-- Whether a finished file of an instance stands in the directory under a path, also where the path cannot
    be followed. -/
def Stands (s : Store) (id : String) (d : Disk) (p : Path) : Prop := ∃ n time, s.Stored d id n time ∧ p = s.dir.child n

/-- From one disk to another, exactly the chosen files of an instance are removed. -/
structure Struck (s : Store) (id : String) (d d' : Disk) (chosen : List Path) : Prop where
  distinct : chosen.Nodup
  stood : ∀ p ∈ chosen, s.Stands id d p
  left : ∀ p, s.Stands id d' p ↔ s.Stands id d p ∧ p ∉ chosen

theorem Struck.nil (s : Store) (id : String) (d : Disk) : s.Struck id d d [] := ⟨List.nodup_nil, by simp, by simp⟩

theorem stands_child_iff {n : Name} {time : UInt64} (read : FileName.ofName? n = some ⟨time, id⟩) (takes : s.dir.Takes n) :
    s.Stands id d (s.dir.child n) ↔ d.file? (n :: s.dir.location) ≠ none := by
  constructor
  · rintro ⟨m, time, stored, same⟩
    cases Path.child_injective same
    exact stored.stands
  · intro stands
    exact ⟨n, time, ⟨read, takes, stands⟩, rfl⟩

/-- Whether a path stands is a matter of its own name only. -/
theorem stands_congr {p : Path} (same : ∀ n time, FileName.ofName? n = some ⟨time, id⟩ → p = s.dir.child n →
    d'.file? (n :: s.dir.location) = d.file? (n :: s.dir.location)) : s.Stands id d' p ↔ s.Stands id d p := by
  constructor
  · rintro ⟨n, time, stored, rfl⟩
    exact ⟨n, time, stored.congr (same n time stored.read rfl), rfl⟩
  · rintro ⟨n, time, stored, rfl⟩
    exact ⟨n, time, stored.congr (same n time stored.read rfl).symm, rfl⟩

/-- A file that a listing shows can be removed. -/
theorem run_remove_of_stored (inside : d.LeadsInto s.dir) {n : Name} {time : UInt64} (stored : s.Stored d id n time) :
    ∃ after, (Procedure.perform (.remove (s.dir.child n))).run d = (.ok (), after) ∧
      Disk.Replaced d after (n :: s.dir.location) none := by
  have found : d.locate (s.dir.child n) = .ok (n :: s.dir.location) :=
    (Disk.locate_child_eq_ok_iff (FileName.descends_of_ofName? stored.read)).mpr ⟨stored.takes, inside, rfl⟩
  obtain ⟨bytes, stands⟩ := Option.ne_none_iff_exists'.mp stored.stands
  have there := Disk.file?_eq_some_iff.mp stands
  rw [Procedure.run_perform, Disk.act]
  rcases Disk.remove_cases d (s.dir.child n) with ⟨e, failed, _⟩ | ⟨loc, found', none, _⟩ | ⟨loc, found', directory, _⟩ |
    ⟨loc, bytes', after, found', _, went, change⟩
  · cases found.symm.trans failed
  · cases found.symm.trans found'
    cases there.symm.trans none
  · cases found.symm.trans found'
    cases there.symm.trans directory
  · cases found.symm.trans found'
    exact ⟨after, by rw [went], change⟩

/-- Different files that stand in the directory are all removed and counted. -/
theorem struck_removeFiles {chosen : List SnapshotFile} (inside : d.LeadsInto s.dir)
    (distinct : (chosen.map (·.path)).Nodup) (stood : ∀ f ∈ chosen, s.Stands id d f.path) :
    s.Struck id d ((removeFiles chosen).run d).2 (chosen.map (·.path)) ∧
      ((removeFiles chosen).run d).1 = ⟨chosen.length, []⟩ := by
  induction chosen generalizing d with
  | nil => exact ⟨Struck.nil s id d, rfl⟩
  | cons f rest ih =>
    obtain ⟨n, time, stored, path⟩ := stood f List.mem_cons_self
    obtain ⟨after, went, change⟩ := run_remove_of_stored inside stored
    obtain ⟨others, distinct⟩ := List.nodup_cons.mp distinct
    have first (p : Path) : s.Stands id after p ↔ s.Stands id d p ∧ p ≠ f.path := by
      by_cases same : p = f.path
      · rw [same, path, stands_child_iff stored.read stored.takes, change.here]
        simp
      · have others : s.Stands id after p ↔ s.Stands id d p := by
          refine stands_congr fun m time' _ named => change.of_ne fun again => same ?_
          rw [named, path, (List.cons.inj again).1]
        simp [others, same]
    obtain ⟨struck, counted⟩ := ih (inside.congr change.directories) distinct fun g among =>
      (first _).mpr ⟨stood g (List.mem_cons_of_mem _ among), fun same => others (List.mem_map.mpr ⟨g, among, same⟩)⟩
    have unfolded : (removeFiles (f :: rest)).run d =
        (⟨rest.length + 1, []⟩, ((removeFiles rest).run after).2) := by
      rw [removeFiles, Procedure.run_bind, path, went]
      simp only [Procedure.run_bind, counted]
      rfl
    rw [unfolded]
    refine ⟨⟨List.nodup_cons.mpr ⟨others, distinct⟩, ?_, fun p => ?_⟩, rfl⟩
    · simpa using stood
    · rw [struck.left, first, List.map_cons, List.mem_cons, not_or, and_assoc]

/-- Removing some of the files that a listing shows, in any order. -/
theorem struck_of_list {files chosen : List SnapshotFile} (listed : s.list id d = .ok files)
    (part : chosen.Subperm files) :
    s.Struck id d ((removeFiles chosen).run d).2 (chosen.map (·.path)) ∧
      ((removeFiles chosen).run d).1 = ⟨chosen.length, []⟩ := by
  cases directory : d.isDirectory s.dir with
  | false =>
    rw [list_of_not_isDirectory directory listed] at part
    cases List.subperm_nil.mp part
    exact ⟨Struck.nil s id d, rfl⟩
  | true =>
    have inside := (Disk.isDirectory_iff.mp directory).2
    have distinct : (chosen.map (·.path)).Nodup := by
      obtain ⟨same, perm, sublist⟩ := part
      exact (perm.map _).nodup_iff.mp ((nodup_list listed).sublist (sublist.map _))
    refine struck_removeFiles inside distinct fun f among => ?_
    obtain ⟨_, n, stored, same⟩ := (mem_list_iff listed).mp (part.subset among)
    exact ⟨n, f.time, stored, congrArg (·.path) same⟩

/-- What purging does while the directory can be listed. -/
theorem run_purge {files : List SnapshotFile} (listed : s.list id d = .ok files) :
    (s.purge id).run d = (.ok ⟨files.length, []⟩, ((removeFiles files).run d).2) := by
  rw [purge, Procedure.run_bind, Procedure.run_observe, listed]
  simp only [Procedure.run_bind, (struck_of_list listed (List.Subperm.refl files)).2]
  rfl

/-- Nothing is purged that cannot be listed. -/
theorem run_purge_of_error {e : StorageError} (unlisted : s.list id d = .error e) :
    (s.purge id).run d = (.error e, d) := by
  rw [purge, Procedure.run_bind, Procedure.run_observe, unlisted]
  rfl

theorem expired_sublist (now : UInt64) (keep : Span) (files : List SnapshotFile) :
    (expired now keep files).Sublist files :=
  List.filter_sublist.trans (List.dropLast_sublist files)

/-- What pruning does while the directory can be listed. -/
theorem run_prune {files : List SnapshotFile} (listed : s.list id d = .ok files) (now : UInt64) (keep : Span) :
    (s.prune id now keep).run d =
      (.ok ⟨(expired now keep files).length, []⟩, ((removeFiles (expired now keep files)).run d).2) := by
  rw [prune, Procedure.run_bind, Procedure.run_observe, listed]
  simp only [Procedure.run_bind, (struck_of_list listed (expired_sublist now keep files).subperm).2]
  rfl

theorem run_prune_of_error {e : StorageError} (unlisted : s.list id d = .error e) (now : UInt64) (keep : Span) :
    (s.prune id now keep).run d = (.error e, d) := by
  rw [prune, Procedure.run_bind, Procedure.run_observe, unlisted]
  rfl

/-- A purge reports what it has removed, and so does pruning. -/
theorem struck_purge (s : Store) (id : String) (d : Disk) :
    ∃ chosen, s.Struck id d ((s.purge id).run d).2 chosen ∧
      (((s.purge id).run d).1 = .ok ⟨chosen.length, []⟩ ∨ chosen = [] ∧ ∃ e, ((s.purge id).run d).1 = .error e) := by
  cases listed : s.list id d with
  | error e =>
    rw [run_purge_of_error listed]
    exact ⟨[], Struck.nil s id d, .inr ⟨rfl, e, rfl⟩⟩
  | ok files =>
    rw [run_purge listed]
    refine ⟨files.map (·.path), (struck_of_list listed (List.Subperm.refl files)).1, .inl ?_⟩
    rw [List.length_map]

theorem struck_prune (s : Store) (id : String) (now : UInt64) (keep : Span) (d : Disk) :
    ∃ chosen, s.Struck id d ((s.prune id now keep).run d).2 chosen ∧
      (((s.prune id now keep).run d).1 = .ok ⟨chosen.length, []⟩ ∨
        chosen = [] ∧ ∃ e, ((s.prune id now keep).run d).1 = .error e) := by
  cases listed : s.list id d with
  | error e =>
    rw [run_prune_of_error listed]
    exact ⟨[], Struck.nil s id d, .inr ⟨rfl, e, rfl⟩⟩
  | ok files =>
    rw [run_prune listed]
    refine ⟨(expired now keep files).map (·.path), (struck_of_list listed (expired_sublist now keep files).subperm).1, .inl ?_⟩
    rw [List.length_map]

/-- A write that succeeded adds the file that it names, and no file stood there before. -/
theorem stands_write {snapshot : Snapshot} (nameable : Nameable snapshot.instanceId) {path : Path}
    (wrote : ((s.write snapshot).run d).1 = .ok path) :
    ¬ s.Stands snapshot.instanceId d path ∧
      ∀ p, s.Stands snapshot.instanceId ((s.write snapshot).run d).2 p ↔ p = path ∨ s.Stands snapshot.instanceId d p := by
  obtain ⟨between, n, grows, _, tried, rfl, vacant, written⟩ := written_of_ok nameable wrote
  have mine : n.instanceId = snapshot.instanceId := instanceId_of_mem_candidates tried
  have read : FileName.ofName? (Name.ofText n.text) = some ⟨n.time, snapshot.instanceId⟩ := by
    rw [← mine]
    exact FileName.ofName?_text (mine ▸ nameable.1)
  rw [s.finalPath_eq_child (mine ▸ nameable.2)]
  have absent : ¬ s.Stands snapshot.instanceId d (s.dir.child (Name.ofText n.text)) := by
    rw [grows.files] at vacant
    rw [stands_child_iff read written.takes, vacant]
    simp
  refine ⟨absent, fun p => ?_⟩
  by_cases new : p = s.dir.child (Name.ofText n.text)
  · rw [new, stands_child_iff read written.takes, written.placed]
    simp
  · rw [or_iff_right new]
    refine stands_congr fun m time read' named => ?_
    have other : m ≠ Name.ofText n.text := fun same => new (by rw [named, same])
    have notTemp : m ≠ Name.ofText n.tempText := by
      rintro rfl
      rw [FileName.ofName?_tempText] at read'
      cases read'
    rw [written.others m other notTemp, grows.files]

end Store

end NodeTelemetry
