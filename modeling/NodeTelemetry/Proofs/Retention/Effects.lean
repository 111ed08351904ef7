import NodeTelemetry.Proofs.Disk.Directories
import NodeTelemetry.Proofs.Retention.Listing

/-!
# What the operations do to the files

A snapshot is placed under the first of its names that is free, and no other
finished file changes (`Store.write_of_ok`, `Store.write_of_error`). Pruning and
purging remove what the listing shows as chosen, and nothing else
(`Store.prune_cleared`, `Store.purge_cleared`).
-/

namespace NodeTelemetry

namespace Disk

theorem Replaced.trans {d d' d'' : Disk} {loc : Location} {first second : Option (List UInt8)}
    (change : Replaced d d' loc first) (change' : Replaced d' d'' loc second) : Replaced d d'' loc second := by
  refine ⟨?_, change.directories.trans change'.directories⟩
  intro l
  by_cases same : l = loc
  · rw [if_pos same, same, change'.here]
  · rw [if_neg same, change'.of_ne same, change.of_ne same]

/-- The one difference between two disks is that at certain locations no file stands any more. -/
structure Cleared (d d' : Disk) (gone : Location → Prop) : Prop where
  directories : SameDirectories d d'
  removed : ∀ l, gone l → d'.file? l = none
  kept : ∀ l, ¬ gone l → d'.file? l = d.file? l

theorem Cleared.refl (d : Disk) : Cleared d d fun _ => False :=
  ⟨SameDirectories.refl d, fun _ none => none.elim, fun _ _ => rfl⟩

theorem Cleared.trans {d d' d'' : Disk} {first second : Location → Prop} (cleared : Cleared d d' first)
    (cleared' : Cleared d' d'' second) : Cleared d d'' fun l => first l ∨ second l where
  directories := cleared.directories.trans cleared'.directories
  removed := by
    intro l gone
    by_cases again : second l
    · exact cleared'.removed l again
    · rw [cleared'.kept l again]
      exact cleared.removed l (gone.resolve_right again)
  kept := by
    intro l kept
    obtain ⟨first, second⟩ := not_or.mp kept
    rw [cleared'.kept l second, cleared.kept l first]

theorem Cleared.congr {d d' : Disk} {gone gone' : Location → Prop} (cleared : Cleared d d' gone)
    (same : ∀ l, gone l ↔ gone' l) : Cleared d d' gone' := by
  have : gone = gone' := funext fun l => propext (same l)
  rwa [← this]

theorem Cleared.survived {d d' : Disk} {gone : Location → Prop} (cleared : Cleared d d' gone) {l : Location}
    (stands : d'.file? l ≠ none) : ¬ gone l ∧ d.file? l ≠ none := by
  have stays : ¬ gone l := fun gone => stands (cleared.removed l gone)
  exact ⟨stays, cleared.kept l stays ▸ stands⟩

theorem file?_eq_none {d : Disk} {l : Location} (stands : ∀ bytes, d.get? l ≠ some (.file bytes)) : d.file? l = none := by
  unfold file?
  split
  · next bytes there => exact absurd there (stands bytes)
  · rfl

/-- After an attempt to remove a file there is none where the path leads to. -/
theorem cleared_perform_remove (d : Disk) (p : Path) :
    Cleared d ((Procedure.perform (.remove p)).run d).2 fun l => d.locate p = .ok l := by
  have unchanged (none : ∀ l, d.locate p = .ok l → d.file? l = none) : Cleared d d fun l => d.locate p = .ok l :=
    ⟨SameDirectories.refl d, none, fun _ _ => rfl⟩
  rw [Procedure.run_perform, act]
  rcases remove_cases d p with ⟨e, found, went⟩ | ⟨loc, found, there, went⟩ | ⟨loc, found, there, went⟩ |
    ⟨loc, bytes, after, found, there, went, change⟩ <;> rw [went]
  · exact unchanged fun l found' => by cases found.symm.trans found'
  · exact unchanged fun l found' => by cases found.symm.trans found'; exact file?_eq_none (by simp [there])
  · exact unchanged fun l found' => by cases found.symm.trans found'; exact file?_eq_none (by simp [there])
  · refine ⟨change.directories, ?_, ?_⟩
    · intro l found'
      cases found.symm.trans found'
      exact change.here
    · intro l other
      exact change.of_ne fun same => other (same ▸ found)

end Disk

namespace Procedure

open Disk

/-- The ways in which writing a file goes: it fails at the start, or the file is there as a whole. -/
theorem writeFile_cases (p : Path) (bytes : List UInt8) (d : Disk) :
    (∃ e, d.locate p = .error e ∧ (writeFile p bytes).run d = (.error e, d)) ∨
    (∃ loc, d.locate p = .ok loc ∧ d.get? loc = some .directory ∧ (writeFile p bytes).run d = (.error .isDirectory, d)) ∨
    (∃ loc after, d.locate p = .ok loc ∧ d.get? loc ≠ some .directory ∧ (writeFile p bytes).run d = (.ok (), after) ∧
      Replaced d after loc (some bytes)) := by
  rw [writeFile, run_bind, run_perform, Disk.act]
  rcases create_cases d p with ⟨e, failed, went⟩ | ⟨loc, found, there, went⟩ | ⟨loc, made, found, free, went, change⟩ <;>
    rw [went]
  · exact .inl ⟨e, failed, rfl⟩
  · exact .inr (.inl ⟨loc, found, there, rfl⟩)
  · refine .inr (.inr ⟨loc, ?_⟩)
    have again : made.locate p = .ok loc := (locate_congr change.directories).mp found
    have stands : made.get? loc = some (.file []) := file?_eq_some_iff.mp change.here
    simp only [run_bind, run_perform, Disk.act]
    rcases append_cases made p bytes with ⟨e, failed, _⟩ | ⟨loc', found', there, _⟩ | ⟨loc', found', there, _⟩ |
      ⟨loc', old, after, found', there, went', change'⟩
    · cases again.symm.trans failed
    · cases again.symm.trans found'
      cases stands.symm.trans there
    · cases again.symm.trans found'
      cases stands.symm.trans there
    · cases again.symm.trans found'
      cases stands.symm.trans there
      rw [went']
      exact ⟨after, found, free, rfl, change.trans change'⟩

end Procedure

namespace Store

open Retention

/-! ## Removing -/

/-- Of all files, those that are to be removed are gone afterwards. -/
theorem removeFiles_cleared (files : List SnapshotFile) (d : Disk) :
    Disk.Cleared d ((removeFiles files).run d).2 fun l => ∃ f ∈ files, d.locate f.path = .ok l := by
  induction files generalizing d with
  | nil => exact (Disk.Cleared.refl d).congr (by simp)
  | cons f rest ih =>
    have first := Disk.cleared_perform_remove d f.path
    have unfolded : ((removeFiles (f :: rest)).run d).2 =
        ((removeFiles rest).run ((Procedure.perform (.remove f.path)).run d).2).2 := by
      rw [removeFiles, Procedure.run_bind]
      split
      · rw [Procedure.run_bind]
        rfl
      · rfl
      · rw [Procedure.run_bind]
        rfl
    rw [unfolded]
    refine (first.trans (ih _)).congr ?_
    intro l
    simp only [List.exists_mem_cons_iff, ← Disk.locate_congr first.directories]

/-- Removing a choice of what a listing shows. -/
theorem cleared_of_list {s : Store} {d : Disk} {id : String} {files : List SnapshotFile}
    (directory : d.isDirectory s.dir = true) (listed : s.list id d = .ok files) (chosen : SnapshotFile → Bool) :
    Disk.Cleared d ((removeFiles (files.filter chosen)).run d).2 fun l =>
      ∃ n time, l = n :: s.dir.location ∧ s.Stored d id n time ∧ chosen (s.entry n ⟨time, id⟩) = true := by
  refine (removeFiles_cleared _ d).congr ?_
  have inside := (Disk.isDirectory_iff.mp directory).2
  intro l
  simp only [List.mem_filter, mem_list_iff listed]
  constructor
  · rintro ⟨f, ⟨⟨_, n, stored, same⟩, choice⟩, found⟩
    rw [same] at found choice
    obtain ⟨_, _, rfl⟩ := (Disk.locate_child_eq_ok_iff (FileName.descends_of_ofName? stored.read)).mp found
    exact ⟨n, f.time, rfl, stored, choice⟩
  · rintro ⟨n, time, rfl, stored, choice⟩
    refine ⟨s.entry n ⟨time, id⟩, ⟨⟨directory, n, stored, rfl⟩, choice⟩, ?_⟩
    exact (Disk.locate_child_eq_ok_iff (FileName.descends_of_ofName? stored.read)).mpr ⟨stored.takes, inside, rfl⟩

theorem toNat_cutoff (now : UInt64) (keep : Span) :
    (cutoff now keep).toNat = now.toNat - min keep.millis 18446744073709551615 := by
  rw [cutoff, Word.toNat_subFloored, Word.toNat_cap]

/-- Where the listing has a file that has not expired, all that have expired are chosen: the exception for
    the newest one saves none. -/
theorem expired_eq_filter {now : UInt64} {keep : Span} {files : List SnapshotFile}
    (sorted : files.Pairwise fun a b => a.time.toNat ≤ b.time.toNat)
    (recent : ∃ f ∈ files, (cutoff now keep).toNat ≤ f.time.toNat) :
    expired now keep files = files.filter (·.time < cutoff now keep) := by
  obtain ⟨f, member, fresh⟩ := recent
  have filled : files ≠ [] := List.ne_nil_of_mem member
  rw [← List.dropLast_concat_getLast filled] at sorted member
  have newest : (cutoff now keep).toNat ≤ (files.getLast filled).time.toNat := by
    rcases List.mem_append.mp member with member | member
    · exact Nat.le_trans fresh ((List.pairwise_append.mp sorted).2.2 f member _ List.mem_cons_self)
    · rwa [List.mem_singleton.mp member] at fresh
  have last : [files.getLast filled].filter (·.time < cutoff now keep) = [] := by
    simp [UInt64.lt_iff_toNat_lt, Nat.not_lt.mpr newest]
  calc expired now keep files
      = files.dropLast.filter (·.time < cutoff now keep) ++ [files.getLast filled].filter (·.time < cutoff now keep) := by
        rw [last, List.append_nil, expired]
    _ = (files.dropLast ++ [files.getLast filled]).filter (·.time < cutoff now keep) := (List.filter_append ..).symm
    _ = files.filter (·.time < cutoff now keep) := by rw [List.dropLast_concat_getLast]

theorem prune_directories (s : Store) (id : String) (now : UInt64) (keep : Span) (d : Disk) :
    Disk.SameDirectories d ((s.prune id now keep).run d).2 := by
  rw [prune, Procedure.run_bind, Procedure.run_observe]
  split
  · exact Disk.SameDirectories.refl d
  · rw [Procedure.run_bind]
    exact (removeFiles_cleared _ d).directories

/-- Pruning while a file has not expired removes exactly those that have. -/
theorem prune_cleared {s : Store} {d : Disk} (id : String) (directory : d.isDirectory s.dir = true) {now : UInt64}
    {keep : Span} (recent : ∃ n time, s.Stored d id n time ∧ (cutoff now keep).toNat ≤ time.toNat) :
    Disk.Cleared d ((s.prune id now keep).run d).2 fun l =>
      ∃ n time, l = n :: s.dir.location ∧ s.Stored d id n time ∧ time.toNat < (cutoff now keep).toNat := by
  have listed := list_of_isDirectory id directory
  generalize sortFiles _ = files at listed
  have some : ∃ f ∈ files, (cutoff now keep).toNat ≤ f.time.toNat := by
    obtain ⟨n, time, stored, fresh⟩ := recent
    exact ⟨s.entry n ⟨time, id⟩, (mem_list_iff listed).mpr ⟨directory, n, stored, rfl⟩, fresh⟩
  rw [prune, Procedure.run_bind, Procedure.run_observe, listed]
  simp only [Procedure.run_bind]
  rw [expired_eq_filter (sorted_list listed) some]
  refine (cleared_of_list directory listed _).congr ?_
  intro l
  simp [entry, UInt64.lt_iff_toNat_lt]

/-- Purging removes exactly the finished files of the instance. -/
theorem purge_cleared {s : Store} {d : Disk} (id : String) (directory : d.isDirectory s.dir = true) :
    Disk.Cleared d ((s.purge id).run d).2 fun l => ∃ n time, l = n :: s.dir.location ∧ s.Stored d id n time := by
  have listed := list_of_isDirectory id directory
  generalize sortFiles _ = files at listed
  have all : files = files.filter fun _ => true := by simp
  rw [purge, Procedure.run_bind, Procedure.run_observe, listed]
  simp only [Procedure.run_bind]
  rw [all]
  refine (cleared_of_list directory listed _).congr ?_
  simp

/-- Nothing is purged where there is no directory. -/
theorem purge_of_not_isDirectory {s : Store} {d : Disk} (id : String) (none : d.isDirectory s.dir = false) :
    ((s.purge id).run d).2 = d := by
  rw [purge, Procedure.run_bind, Procedure.run_observe]
  split
  · rfl
  · next files listed =>
    rw [list_of_not_isDirectory none listed]
    rfl

/-! ## Writing -/

/-- What a write that succeeded has done under the name that it took. -/
structure Written (s : Store) (d d' : Disk) (n : FileName) (body : List UInt8) : Prop where
  inside : d.LeadsInto s.dir
  takes : s.dir.Takes (Name.ofText n.text)
  directories : Disk.SameDirectories d d'
  placed : d'.file? (Name.ofText n.text :: s.dir.location) = some body
  others : ∀ m, m ≠ Name.ofText n.text → m ≠ Name.ofText n.tempText →
    d'.file? (m :: s.dir.location) = d.file? (m :: s.dir.location)

/-- Where no entry is seen under a name, no file stands there. -/
theorem Written.vacant {s : Store} {d d' : Disk} {n : FileName} {body : List UInt8} (written : s.Written d d' n body)
    (plain : '/' ∉ n.instanceId.toList) (free : d.has (s.finalPath n) = false) :
    d.file? (Name.ofText n.text :: s.dir.location) = none := by
  refine Disk.file?_eq_none fun bytes stands => ?_
  rw [s.finalPath_eq_child plain,
    (Disk.has_child_iff (FileName.descends_text n)).mpr ⟨written.takes, written.inside, by simp [stands]⟩] at free
  cases free

/-- Under a name of its own, a file that is being written is not in the way of others. -/
theorem locate_tempPath_ne (s : Store) {n : FileName} (plain : '/' ∉ n.instanceId.toList) {d : Disk} {m : Name}
    (other : m ≠ Name.ofText n.tempText) : d.locate (s.tempPath n) ≠ .ok (m :: s.dir.location) := by
  intro found
  rw [s.tempPath_eq_child plain] at found
  obtain ⟨_, _, same⟩ := (Disk.locate_child_eq_ok_iff (FileName.descends_tempText n)).mp found
  exact other (List.cons.inj same).1

/-- Placing a file that could not be written or moved ends with the removal of what was written. -/
theorem files_of_failed (s : Store) {n : FileName} (plain : '/' ∉ n.instanceId.toList) (p : Path) (e : DiskError)
    {d made : Disk} (unmoved : ∀ m, m ≠ Name.ofText n.tempText →
      made.file? (m :: s.dir.location) = d.file? (m :: s.dir.location)) :
    let failed := (do
      let _ ← Procedure.perform (.remove (s.tempPath n))
      return .error (.atPath p e) : Procedure (Except StorageError Path)).run made
    (∃ p e, failed.1 = .error (.atPath p e)) ∧ ∀ m, m ≠ Name.ofText n.tempText →
      failed.2.file? (m :: s.dir.location) = d.file? (m :: s.dir.location) := by
  simp only [Procedure.run_bind]
  refine ⟨⟨p, e, rfl⟩, fun m other => ?_⟩
  have kept := (Disk.cleared_perform_remove made (s.tempPath n)).kept _ (s.locate_tempPath_ne plain other)
  exact kept.trans (unmoved m other)

/-- The ways in which placing a file goes: it fails and leaves all finished files alone, or the file is
    there as a whole. -/
theorem place_cases (s : Store) {n : FileName} (nameable : Nameable n.instanceId) (body : List UInt8) (d : Disk) :
    ((∃ p e, ((s.place n body).run d).1 = .error (.atPath p e)) ∧
      ∀ m, m ≠ Name.ofText n.tempText →
        ((s.place n body).run d).2.file? (m :: s.dir.location) = d.file? (m :: s.dir.location)) ∨
    (((s.place n body).run d).1 = .ok (s.finalPath n) ∧ s.Written d ((s.place n body).run d).2 n body) := by
  have down := FileName.descends_tempText n
  have downFinal := FileName.descends_text n
  have temp := s.tempPath_eq_child nameable.2
  have final := s.finalPath_eq_child nameable.2
  rw [place, Procedure.run_bind]
  rcases Procedure.writeFile_cases (s.tempPath n) body d with ⟨e, _, went⟩ | ⟨_, _, _, went⟩ |
    ⟨loc, made, found, _, went, change⟩
  · rw [went]
    exact .inl (s.files_of_failed nameable.2 (s.tempPath n) e fun _ _ => rfl)
  · rw [went]
    exact .inl (s.files_of_failed nameable.2 (s.tempPath n) .isDirectory fun _ _ => rfl)
  · rw [went]
    simp only [Procedure.run_bind, Procedure.run_perform, Disk.act]
    have unmoved (m : Name) (other : m ≠ Name.ofText n.tempText) :
        made.file? (m :: s.dir.location) = d.file? (m :: s.dir.location) :=
      change.of_ne fun same => s.locate_tempPath_ne nameable.2 other (same ▸ found)
    have failed (e : DiskError) := s.files_of_failed nameable.2 (s.finalPath n) e unmoved
    -- the file is written as a whole, only the move can still fail
    have again : made.locate (s.tempPath n) = .ok loc := (Disk.locate_congr change.directories).mp found
    have stands : made.get? loc = some (.file body) := Disk.file?_eq_some_iff.mp change.here
    rcases Disk.rename_cases made (s.tempPath n) (s.finalPath n) with ⟨e, _, went⟩ | ⟨_, e, _, _, went⟩ |
      ⟨old, new, foundOld, foundNew, ⟨_, went⟩ | ⟨_, went⟩ | ⟨bytes, there, ⟨_, went⟩ | ⟨between, after, _, went, out, into⟩⟩⟩
    · rw [went]
      exact .inl (failed e)
    · rw [went]
      exact .inl (failed e)
    · rw [went]
      exact .inl (failed _)
    · rw [went]
      exact .inl (failed _)
    · rw [went]
      exact .inl (failed _)
    · refine .inr ?_
      cases again.symm.trans foundOld
      cases stands.symm.trans there
      rw [final] at foundNew
      rw [temp] at again
      obtain ⟨_, _, rfl⟩ := (Disk.locate_child_eq_ok_iff down).mp again
      obtain ⟨takes, inside, rfl⟩ := (Disk.locate_child_eq_ok_iff downFinal).mp foundNew
      rw [went]
      refine ⟨rfl, inside.congr change.directories.symm, takes,
        change.directories.trans (out.directories.trans into.directories), into.here, ?_⟩
      intro m notFinal notTemp
      have other {k : Name} (different : m ≠ k) : m :: s.dir.location ≠ k :: s.dir.location :=
        fun same => different (List.cons.inj same).1
      show after.file? _ = _
      rw [into.of_ne (other notFinal), out.of_ne (other notTemp), change.of_ne (other notTemp)]

/-- The names that are tried for a snapshot, in order. -/
def candidates (snapshot : Snapshot) : List FileName := (List.range nameAttempts).map (nameAfter snapshot)

theorem run_placeFrom (s : Store) (snapshot : Snapshot) (tried attempts : Nat) (d : Disk) :
    (s.placeFrom snapshot tried attempts).run d =
      match ((List.range' tried attempts).map (nameAfter snapshot)).find? fun n => !d.has (s.finalPath n) with
      | none => (.error (.nameExhausted s.dir), d)
      | some n => (s.place n snapshot.render).run d := by
  induction attempts generalizing tried with
  | zero => rfl
  | succ attempts ih =>
    rw [placeFrom, Procedure.run_bind, Procedure.run_observe, List.range'_succ, List.map_cons, List.find?_cons]
    cases d.has (s.finalPath (nameAfter snapshot tried)) with
    | true => exact ih (tried + 1)
    | false => rfl

/-- A snapshot is placed under the first of its names that is free, once the directory is there. -/
theorem run_write {s : Store} (snapshot : Snapshot) {d between : Disk} (prepared : s.prepare.run d = (.ok (), between)) :
    (s.write snapshot).run d =
      match (candidates snapshot).find? fun n => !between.has (s.finalPath n) with
      | none => (.error (.nameExhausted s.dir), between)
      | some n => (s.place n snapshot.render).run between := by
  rw [write, Procedure.run_bind, prepared, candidates, List.range_eq_range']
  exact s.run_placeFrom snapshot 0 nameAttempts between

theorem nameAfter_of_mem_candidates {snapshot : Snapshot} {n : FileName} (member : n ∈ candidates snapshot) :
    ∃ tried, tried < 1000 ∧ n = nameAfter snapshot tried := by
  obtain ⟨tried, among, rfl⟩ := List.mem_map.mp member
  exact ⟨tried, List.mem_range.mp among, rfl⟩

theorem instanceId_of_mem_candidates {snapshot : Snapshot} {n : FileName} (member : n ∈ candidates snapshot) :
    n.instanceId = snapshot.instanceId := by
  obtain ⟨_, _, rfl⟩ := nameAfter_of_mem_candidates member
  rfl

/-- A name of a snapshot says its capture time or one that is up to 999 milliseconds later. -/
theorem time_of_mem_candidates {snapshot : Snapshot} {n : FileName} (member : n ∈ candidates snapshot) :
    snapshot.capturedAt.toNat ≤ n.time.toNat ∧ n.time.toNat ≤ snapshot.capturedAt.toNat + 999 := by
  obtain ⟨tried, small, rfl⟩ := nameAfter_of_mem_candidates member
  have := snapshot.capturedAt.toNat_lt
  simp only [nameAfter, Word.toNat_addCapped]
  omega

/-- What a write that succeeded has done. The path of a store that is empty leads into no directory. -/
theorem written_of_ok {s : Store} {snapshot : Snapshot} (nameable : Nameable snapshot.instanceId) {d : Disk} {path : Path}
    (wrote : ((s.write snapshot).run d).1 = .ok path) :
    ∃ between n, Disk.Grows d between ∧ (s.dir.isEmpty = true ∨ between.isDirectory s.dir = true) ∧
      n ∈ candidates snapshot ∧ path = s.finalPath n ∧
      between.file? (Name.ofText n.text :: s.dir.location) = none ∧
      s.Written between ((s.write snapshot).run d).2 n snapshot.render := by
  rcases prepared : s.prepare.run d with ⟨made, between⟩
  cases made with
  | error e =>
    rw [write, Procedure.run_bind, prepared] at wrote
    cases wrote
  | ok u =>
    have grows : Disk.Grows d between := by
      have := Procedure.makeDirectories_grows s.dir d
      rwa [← prepare, prepared] at this
    rw [run_write snapshot prepared] at wrote ⊢
    cases first : (candidates snapshot).find? fun n => !between.has (s.finalPath n) with
    | none =>
      rw [first] at wrote
      cases wrote
    | some n =>
      rw [first] at wrote
      have member := List.mem_of_find?_eq_some first
      have mine : Nameable n.instanceId := instanceId_of_mem_candidates member ▸ nameable
      refine ⟨between, n, grows, Procedure.isDirectory_of_makeDirectories prepared, member, ?_⟩
      rcases place_cases s mine snapshot.render between with ⟨⟨p, e, failed⟩, _⟩ | ⟨done, written⟩
      · cases failed.symm.trans wrote
      · refine ⟨Except.ok.inj (wrote.symm.trans done), ?_, written⟩
        exact written.vacant mine.2 (by simpa using List.find?_some first)

theorem write_of_ok {s : Store} (named : s.dir.isEmpty = false) {snapshot : Snapshot}
    (nameable : Nameable snapshot.instanceId) {d : Disk} {path : Path}
    (wrote : ((s.write snapshot).run d).1 = .ok path) :
    ∃ between n, Disk.Grows d between ∧ between.isDirectory s.dir = true ∧ n ∈ candidates snapshot ∧
      path = s.finalPath n ∧ between.file? (Name.ofText n.text :: s.dir.location) = none ∧
      s.Written between ((s.write snapshot).run d).2 n snapshot.render := by
  obtain ⟨between, n, grows, directory, placed⟩ := written_of_ok nameable wrote
  exact ⟨between, n, grows, directory.resolve_left (by simp [named]), placed⟩

/-- A write that failed leaves all finished files alone. -/
theorem write_of_error {s : Store} {snapshot : Snapshot} (nameable : Nameable snapshot.instanceId) {d : Disk}
    {e : StorageError} (failed : ((s.write snapshot).run d).1 = .error e) {n : Name} {m : FileName}
    (read : FileName.ofName? n = some m) :
    ((s.write snapshot).run d).2.file? (n :: s.dir.location) = d.file? (n :: s.dir.location) := by
  have grown := (Procedure.makeDirectories_grows s.dir d).files (n :: s.dir.location)
  rcases prepared : s.prepare.run d with ⟨made, between⟩
  rw [← prepare, prepared] at grown
  cases made with
  | error e =>
    rw [write, Procedure.run_bind, prepared]
    exact grown
  | ok u =>
    rw [run_write snapshot prepared] at failed ⊢
    cases first : (candidates snapshot).find? fun n => !between.has (s.finalPath n) with
    | none => exact grown
    | some k =>
      rw [first] at failed
      have mine : Nameable k.instanceId :=
        instanceId_of_mem_candidates (List.mem_of_find?_eq_some first) ▸ nameable
      rcases place_cases s mine snapshot.render between with ⟨_, kept⟩ | ⟨done, _⟩
      · refine (kept n ?_).trans grown
        rintro rfl
        rw [FileName.ofName?_tempText] at read
        cases read
      · cases done.symm.trans failed

end Store

end NodeTelemetry
