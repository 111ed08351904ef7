import Mathlib.Order.Bounds.Basic
import NodeTelemetry.Proofs.Disk.Faults
import NodeTelemetry.Proofs.Retention.Crash

/-!
# A write from beginning to end

A snapshot is written under the first of its names that no entry has, or under
none (`Store.write_exact`). Which one that is can be told from the disk before the
write, as long as the path of the store goes up from existing directories only:
otherwise making the missing ones can uncover names that are taken
(`Store.write_of_uncovered`). A write that fails removes what it has written, also
where a device fails actions other than removals.
-/

namespace NodeTelemetry

namespace Store

open Retention

variable {s : Store} {d d' : Disk}

/-! ## Making the directory -/

section

variable {between : Disk} {made : Except DiskError Unit} (followed : d.Followable s.dir)
  (prepared : s.prepare.run d = (made, between))

include followed prepared

/-- Nothing is made but the directory of the store and those that hold it. -/
theorem get?_of_prepare (l : Location) :
    between.get? l = d.get? l ∨ l <:+ s.dir.location ∧ between.get? l = some .directory := by
  have grown := Procedure.makeDirectories_grows s.dir d
  have old {l : Location} := Procedure.directory_of_makeDirectories (l := l) followed
  rw [← prepare, prepared] at grown old
  by_cases new : between.get? l = some .directory ∧ d.get? l ≠ some .directory
  · exact .inr ⟨(old new.1).resolve_left new.2, new.1⟩
  · refine .inl (Disk.get?_eq_of ⟨fun there => ?_, grown.directories l⟩ (grown.files l))
    exact Classical.byContradiction fun missing => new ⟨there, missing⟩

/-- Nothing is made in the directory of the store. -/
theorem get?_child_of_prepare (n : Name) : between.get? (n :: s.dir.location) = d.get? (n :: s.dir.location) := by
  rcases get?_of_prepare followed prepared (n :: s.dir.location) with same | ⟨above, _⟩
  · exact same
  · have := above.length_le
    rw [List.length_cons] at this
    omega

end

/-- Names that are taken once the directory is there were taken before. -/
theorem has_of_prepare {between : Disk} (followed : d.Followable s.dir) (prepared : s.prepare.run d = (.ok (), between))
    {n : FileName} (nameable : Nameable n.instanceId) : between.has (s.finalPath n) = d.has (s.finalPath n) := by
  have grown := Procedure.makeDirectories_grows s.dir d
  rw [← prepare, prepared] at grown
  have down := FileName.descends_text n
  rw [s.finalPath_eq_child nameable.2, Bool.eq_iff_iff, Disk.has_child_iff down, Disk.has_child_iff down,
    get?_child_of_prepare followed prepared]
  constructor
  · rintro ⟨takes, _, stands⟩
    have free := FileName.ne_top_of_ofName? (FileName.ofName?_text (n := n) nameable.1) s.dir.location
    exact ⟨takes, ⟨followed, (d.placed_of_get? stands ⟨by simp, free⟩).held⟩, stands⟩
  · rintro ⟨takes, inside, stands⟩
    exact ⟨takes, inside.mono grown.directories, stands⟩

/-! ## Placing a file -/

/-- What a write that succeeded has done to all locations. -/
structure Added (s : Store) (n : FileName) (body : List UInt8) (d d' : Disk) : Prop where
  inside : d.LeadsInto s.dir
  takes : s.dir.Takes (Name.ofText n.text)
  directories : Disk.SameDirectories d d'
  free : d.get? (Name.ofText n.tempText :: s.dir.location) ≠ some .directory
  files : ∀ l, d'.file? l =
    if l = Name.ofText n.text :: s.dir.location then some body
    else if l = Name.ofText n.tempText :: s.dir.location then none else d.file? l

theorem added_of_place {n : FileName} (nameable : Nameable n.instanceId) {body : List UInt8} {path : Path}
    (placed : ((s.place n body).run d).1 = .ok path) :
    path = s.finalPath n ∧ s.Added n body d ((s.place n body).run d).2 := by
  have temp := s.tempPath_eq_child nameable.2
  have final := s.finalPath_eq_child nameable.2
  rw [place, Procedure.run_bind] at placed ⊢
  rcases Procedure.writeFile_cases (s.tempPath n) body d with ⟨e, _, went⟩ | ⟨_, _, _, went⟩ |
    ⟨loc, made, found, free, went, change⟩ <;>
  simp only [went, Procedure.run_bind, Procedure.run_pure, reduceCtorEq] at placed ⊢
  have again := (Disk.locate_congr change.directories).mp found
  rw [temp] at again
  obtain ⟨_, inside, rfl⟩ := (Disk.locate_child_eq_ok_iff (FileName.descends_tempText n)).mp again
  simp only [Procedure.run_perform, Disk.act] at placed ⊢
  -- the file is written as a whole, and a move that failed would be known
  rcases Disk.rename_cases made (s.tempPath n) (s.finalPath n) with ⟨_, _, went⟩ | ⟨_, _, _, _, went⟩ |
    ⟨old, new, foundOld, foundNew, ⟨_, went⟩ | ⟨_, went⟩ | ⟨bytes, there, ⟨_, went⟩ | ⟨moved, after, _, went, out, into⟩⟩⟩ <;>
  simp only [went, Procedure.run_bind, Procedure.run_pure, reduceCtorEq, Except.ok.injEq] at placed ⊢
  rw [temp] at foundOld
  cases again.symm.trans foundOld
  rw [final] at foundNew
  obtain ⟨takes, _, rfl⟩ := (Disk.locate_child_eq_ok_iff (FileName.descends_text n)).mp foundNew
  have written : bytes = body := by
    have stands := Disk.file?_eq_some_iff.mp change.here
    cases there.symm.trans stands
    rfl
  refine ⟨placed.symm, inside.congr change.directories.symm, takes,
    change.directories.trans (out.directories.trans into.directories), free, fun l => ?_⟩
  rw [into.files, out.files, change.files, written]
  split
  · rfl
  · split <;> rfl

theorem Added.of_ne {n : FileName} {body : List UInt8} (added : s.Added n body d d') {l : Location}
    (final : l ≠ Name.ofText n.text :: s.dir.location) (temp : l ≠ Name.ofText n.tempText :: s.dir.location) :
    d'.get? l = d.get? l := by
  refine Disk.get?_congr added.directories.symm ?_
  rw [added.files, if_neg final, if_neg temp]

theorem Added.stands {n : FileName} {body : List UInt8} (added : s.Added n body d d') :
    d'.file? (Name.ofText n.text :: s.dir.location) = some body := by
  rw [added.files, if_pos rfl]

/-- No file is left under the name of the unfinished one. -/
theorem Added.discarded {n : FileName} (nameable : Nameable n.instanceId) {body : List UInt8}
    (added : s.Added n body d d') : d'.get? (Name.ofText n.tempText :: s.dir.location) = none := by
  have other : Name.ofText n.tempText ≠ Name.ofText n.text := by
    intro same
    have read := FileName.ofName?_tempText n
    rw [same, FileName.ofName?_text nameable.1] at read
    cases read
  have gone := added.files (Name.ofText n.tempText :: s.dir.location)
  rw [if_neg (fun same => other (List.cons.inj same).1), if_pos rfl] at gone
  cases stands : d'.get? (Name.ofText n.tempText :: s.dir.location) with
  | none => rfl
  | some e =>
    cases e with
    | file bytes => cases gone.symm.trans (Disk.file?_eq_some_iff.mpr stands)
    | directory => exact absurd ((added.directories _).mpr stands) added.free

/-- All other finished files stay. -/
theorem Added.finished {n : FileName} {body : List UInt8} (added : s.Added n body d d') {m : Name} {k : FileName}
    (finished : FileName.ofName? m = some k) (other : m ≠ Name.ofText n.text) :
    d'.file? (m :: s.dir.location) = d.file? (m :: s.dir.location) := by
  have notTemp : m ≠ Name.ofText n.tempText := by
    rintro rfl
    cases finished.symm.trans (FileName.ofName?_tempText n)
  rw [added.files, if_neg (fun same => other (List.cons.inj same).1), if_neg (fun same => notTemp (List.cons.inj same).1)]

/-- A listing gains the entry of a file that was added under a name which no file had. -/
theorem list_of_added {n : FileName} (nameable : Nameable n.instanceId) {body : List UInt8}
    (directory : d.isDirectory s.dir = true) (vacant : d.file? (Name.ofText n.text :: s.dir.location) = none)
    (added : s.Added n body d d') :
    ∃ front back, s.list n.instanceId d = .ok (front ++ back) ∧
      s.list n.instanceId d' = .ok (front ++ s.entry (Name.ofText n.text) n :: back) := by
  have directory' := Disk.isDirectory_mono added.directories.keeps directory
  have inside' := (Disk.isDirectory_iff.mp directory').2
  have read : FileName.ofName? (Name.ofText n.text) = some n := FileName.ofName?_text nameable.1
  have listed := list_of_isDirectory n.instanceId directory'
  generalize sortFiles _ = files at listed
  have new : s.entry (Name.ofText n.text) n ∈ files := by
    refine (mem_list_iff listed).mpr ⟨directory', Name.ofText n.text, ⟨read, added.takes, ?_⟩, rfl⟩
    simp [added.stands]
  obtain ⟨front, back, rfl⟩ := List.append_of_mem new
  have fewer : ∀ m k, FileName.ofName? m = some k → d.file? (m :: s.dir.location) ≠ none →
      d'.file? (m :: s.dir.location) ≠ none := by
    intro m k finished stands
    by_cases same : m = Name.ofText n.text
    · rw [same, vacant] at stands
      exact absurd rfl stands
    · rwa [added.finished finished same]
  have distinct := nodup_list listed
  rw [List.map_append, List.map_cons] at distinct
  have others : ∀ f ∈ front ++ back, d.isFile f.path = true := by
    intro f member
    have among : f ∈ front ++ s.entry (Name.ofText n.text) n :: back := by
      rcases List.mem_append.mp member with member | member
      · exact List.mem_append_left _ member
      · exact List.mem_append_right _ (List.mem_cons_of_mem _ member)
    obtain ⟨_, m, stored, same⟩ := (mem_list_iff listed).mp among
    have path : f.path = s.dir.child m := congrArg (·.path) same
    have other : m ≠ Name.ofText n.text := by
      rintro rfl
      have twice := (List.nodup_middle.mp distinct)
      rw [List.nodup_cons, ← List.map_append] at twice
      exact twice.1 (List.mem_map.mpr ⟨f, member, path⟩)
    have stands : d.file? (m :: s.dir.location) ≠ none := added.finished stored.read other ▸ stored.stands
    rw [path]
    exact (Disk.isFile_child_iff (FileName.descends_of_ofName? stored.read)).mpr ⟨stored.takes, added.inside, stands⟩
  have gone : d.isFile (s.entry (Name.ofText n.text) n).path = false := by
    refine Bool.eq_false_iff.mpr fun file => ?_
    exact ((Disk.isFile_child_iff (FileName.descends_text n)).mp file).2.2 vacant
  refine ⟨front, back, ?_, listed⟩
  rw [list_of_fewer directory' directory fewer listed, List.filter_append, List.filter_cons_of_neg (by simp [gone]),
    ← List.filter_append, List.filter_eq_self.mpr others]

/-! ## Writes that fail -/

/-- What is left of a file that was being written is removed, and nothing else is. -/
def Discarded (s : Store) (n : FileName) (d d' : Disk) : Prop :=
  ∀ l, d'.file? l = d.file? l ∨ l = Name.ofText n.tempText :: s.dir.location ∧ d'.file? l = none

/-- Disks that differ at most in the file that a path leads to. -/
structure SameButAt (p : Path) (d d' : Disk) : Prop where
  directories : Disk.SameDirectories d d'
  files : ∀ l, d.locate p ≠ .ok l → d'.file? l = d.file? l

section

variable {fallible : Action → Prop}

theorem sameButAt_of_goes_writeFile {n : FileName} {body : List UInt8} {r : Except DiskError Unit}
    (goes : (Procedure.writeFile (s.tempPath n) body).Goes fallible d r d') : SameButAt (s.tempPath n) d d' := by
  refine Procedure.keeps_of_goes (fun d => ⟨Disk.SameDirectories.refl d, fun _ _ => rfl⟩) ?_ ?_ ?_ (s.acts_writeFile n body) goes
  · rintro a b c ⟨same, files⟩ ⟨same', files'⟩
    refine ⟨same.trans same', fun l other => ?_⟩
    rw [files' l (fun found => other ((Disk.locate_congr same).mpr found)), files l other]
  · rintro x a b ⟨onFiles, paths⟩ acted
    refine ⟨Disk.sameDirectories_act onFiles acted, fun l other => ?_⟩
    exact Disk.file?_act acted fun p member => paths p member ▸ other
  · rintro p first rest ⟨-, paths⟩
    exact ⟨fun _ => by simp, paths⟩

variable (reliable : ∀ p, ¬ fallible (.remove p))

include reliable

/-- A removal that does not fail of itself goes as on any disk. -/
theorem discarded_of_goes_remove {n : FileName} (plain : '/' ∉ n.instanceId.toList) {made : Disk}
    (begun : SameButAt (s.tempPath n) d made) {r : Except DiskError Unit}
    (goes : (Procedure.perform (.remove (s.tempPath n))).Goes fallible made r d') : s.Discarded n d d' := by
  have removed : d' = ((Procedure.perform (.remove (s.tempPath n))).run made).2 := by
    rw [Procedure.run_perform]
    cases Procedure.goes_perform goes with
    | acted acted => rw [acted]
    | failed failed => rw [failed]
    | fault may _ => exact absurd may (reliable _)
  have cleared := Disk.cleared_perform_remove made (s.tempPath n)
  rw [removed]
  intro l
  by_cases here : made.locate (s.tempPath n) = .ok l
  · refine .inr ⟨?_, cleared.removed l here⟩
    rw [s.tempPath_eq_child plain] at here
    exact ((Disk.locate_child_eq_ok_iff (FileName.descends_tempText n)).mp here).2.2
  · refine .inl ?_
    rw [cleared.kept l here]
    exact begun.files l fun found => here ((Disk.locate_congr begun.directories).mp found)

/-- Whatever fails while a file is placed, it is discarded and all others stay as they are. -/
theorem discarded_of_goes_place {n : FileName} (plain : '/' ∉ n.instanceId.toList) {body : List UInt8} {e : StorageError}
    (failed : (s.place n body).Goes fallible d (.error e) d') : s.Discarded n d d' := by
  obtain ⟨r, made, writing, later⟩ := Procedure.goes_bind failed
  have begun := sameButAt_of_goes_writeFile writing
  cases r with
  | error e =>
    obtain ⟨_, after, removing, last⟩ := Procedure.goes_bind later
    obtain ⟨-, rfl⟩ := Procedure.goes_done last
    exact discarded_of_goes_remove reliable plain begun removing
  | ok u =>
    obtain ⟨r, moved, moving, later⟩ := Procedure.goes_bind later
    cases Procedure.goes_perform moving with
    | acted acted =>
      cases (Procedure.goes_done later).1
    | failed _ =>
      obtain ⟨_, after, removing, last⟩ := Procedure.goes_bind later
      obtain ⟨-, rfl⟩ := Procedure.goes_done last
      exact discarded_of_goes_remove reliable plain begun removing
    | fault _ _ =>
      obtain ⟨_, after, removing, last⟩ := Procedure.goes_bind later
      obtain ⟨-, rfl⟩ := Procedure.goes_done last
      exact discarded_of_goes_remove reliable plain begun removing

theorem discarded_of_goes_placeFrom {snapshot : Snapshot} (plain : '/' ∉ snapshot.instanceId.toList) {tried attempts : Nat}
    {e : StorageError} (failed : (s.placeFrom snapshot tried attempts).Goes fallible d (.error e) d') :
    (∀ l, d'.file? l = d.file? l) ∨ ∃ i < tried + attempts, s.Discarded (nameAfter snapshot i) d d' := by
  induction attempts generalizing tried with
  | zero =>
    obtain ⟨-, rfl⟩ := Procedure.goes_done failed
    exact .inl fun _ => rfl
  | succ attempts ih =>
    obtain ⟨taken, seen, looking, later⟩ := Procedure.goes_bind failed
    obtain ⟨-, rfl⟩ := Procedure.goes_observe looking
    cases taken with
    | true =>
      rcases ih later with same | ⟨i, small, discarded⟩
      · exact .inl same
      · exact .inr ⟨i, by omega, discarded⟩
    | false => exact .inr ⟨tried, by omega, discarded_of_goes_place reliable plain later⟩

/-- However a write fails, no file has changed, and at most one that was unfinished has gone. -/
theorem discarded_of_goes_write {snapshot : Snapshot} (plain : '/' ∉ snapshot.instanceId.toList) {e : StorageError}
    (failed : (s.write snapshot).Goes fallible d (.error e) d') (l : Location) :
    d'.file? l = d.file? l ∨ (∃ i < nameAttempts, l = Name.ofText (nameAfter snapshot i).tempText :: s.dir.location) ∧
      d'.file? l = none := by
  obtain ⟨r, between, making, later⟩ := Procedure.goes_bind failed
  have grown := (Procedure.grows_of_goes_makeDirectories making).files
  cases r with
  | error e =>
    obtain ⟨-, rfl⟩ := Procedure.goes_done later
    exact .inl (grown l)
  | ok u =>
    rcases discarded_of_goes_placeFrom reliable plain later with same | ⟨i, small, discarded⟩
    · exact .inl ((same l).trans (grown l))
    · rcases discarded l with same | ⟨here, gone⟩
      · exact .inl (same.trans (grown l))
      · exact .inr ⟨⟨i, by omega, here⟩, gone⟩

end

/-! ## The whole write -/

/-- What becomes of a disk when a snapshot is written under a name. -/
structure Gained (s : Store) (n : FileName) (body : List UInt8) (d d' : Disk) : Prop where
  bytes : d'.read (s.finalPath n) = .ok body
  listed : s.dir.isEmpty = false → ∃ front back, s.list n.instanceId d = .ok (front ++ back) ∧
    s.list n.instanceId d' = .ok (front ++ ⟨s.finalPath n, n.instanceId, n.time⟩ :: back)
  discarded : d'.has (s.tempPath n) = false
  others : ∀ l, l ≠ Name.ofText n.text :: s.dir.location → l ≠ Name.ofText n.tempText :: s.dir.location →
    d'.get? l = d.get? l ∨ l <:+ s.dir.location ∧ d'.get? l = some .directory

theorem gained_of_added {between : Disk} (followed : d.Followable s.dir) (prepared : s.prepare.run d = (.ok (), between))
    {n : FileName} (nameable : Nameable n.instanceId) (free : between.has (s.finalPath n) = false) {body : List UInt8}
    (added : s.Added n body between d') : s.Gained n body d d' := by
  have final := s.finalPath_eq_child nameable.2
  have temp := s.tempPath_eq_child nameable.2
  have inside' := added.inside.congr added.directories
  have vacant : between.file? (Name.ofText n.text :: s.dir.location) = none := by
    refine Disk.file?_eq_none fun bytes stands => ?_
    rw [final, (Disk.has_child_iff (FileName.descends_text n)).mpr ⟨added.takes, added.inside, by simp [stands]⟩] at free
    cases free
  refine ⟨?_, ?_, ?_, ?_⟩
  · rw [final]
    exact (Disk.read_child_eq_ok_iff (FileName.descends_text n)).mpr ⟨added.takes, inside', added.stands⟩
  · intro named
    have directory : between.isDirectory s.dir = true := by
      refine (Procedure.isDirectory_of_makeDirectories prepared).resolve_left ?_
      rw [named]
      exact Bool.false_ne_true
    obtain ⟨front, back, before, after⟩ := list_of_added nameable directory vacant added
    have grown := Procedure.makeDirectories_grows s.dir d
    rw [← prepare, prepared] at grown
    have unchanged : s.listAll between = s.listAll d :=
      listAll_of_grows (fun directory => ⟨followed, directory⟩) grown added.inside
    refine ⟨front, back, ?_, final ▸ after⟩
    rw [← before, list, list, unchanged]
  · refine Bool.eq_false_iff.mpr fun stands => ?_
    rw [temp] at stands
    exact ((Disk.has_child_iff (FileName.descends_tempText n)).mp stands).2.2 (added.discarded nameable)
  · intro l notFinal notTemp
    rw [added.of_ne notFinal notTemp]
    exact get?_of_prepare followed prepared l

/-- The first name of a snapshot that is free, by the number of those before it. -/
theorem find?_candidates {snapshot : Snapshot} {i : Nat}
    (first : IsLeast {i | i < nameAttempts ∧ d.has (s.finalPath (nameAfter snapshot i)) = false} i) :
    (candidates snapshot).find? (fun n => !d.has (s.finalPath n)) = some (nameAfter snapshot i) := by
  obtain ⟨⟨small, free⟩, least⟩ := first
  rw [candidates, List.find?_map, Option.map_eq_some_iff]
  refine ⟨i, List.find?_range_eq_some.mpr ⟨by simp [free], List.mem_range.mpr small, fun j earlier => ?_⟩, rfl⟩
  cases taken : d.has (s.finalPath (nameAfter snapshot j)) with
  | true => simp [taken]
  | false =>
    have := least ⟨Nat.lt_trans earlier small, taken⟩
    omega

/-- Where all names of a snapshot are taken, nothing is written. -/
theorem run_write_of_taken {snapshot : Snapshot} (nameable : Nameable snapshot.instanceId)
    (taken : ∀ i < nameAttempts, d.has (s.finalPath (nameAfter snapshot i)) = true) :
    (s.write snapshot).run d = (.error (.nameExhausted s.dir), d) := by
  have one := taken 0 (by decide)
  rw [s.finalPath_eq_child (n := nameAfter snapshot 0) nameable.2, Disk.has_child_iff (FileName.descends_text _)] at one
  obtain ⟨takes, inside, _⟩ := one
  have prepared : s.prepare.run d = (.ok (), d) := by
    rw [prepare, Procedure.makeDirectories_of_leadsInto inside]
    cases filled : s.dir.isEmpty with
    | true => rfl
    | false => rw [if_neg Bool.false_ne_true, Path.accept_of_takes takes filled]
  rw [run_write snapshot prepared]
  have none : (candidates snapshot).find? (fun n => !d.has (s.finalPath n)) = none := by
    refine List.find?_eq_none.mpr fun n member => ?_
    obtain ⟨i, small, rfl⟩ := nameAfter_of_mem_candidates member
    simp [taken i small]
  rw [none]

/-- A write takes the first name of its snapshot that no entry has, if the path of the store goes up from existing
    directories only. It fails at a path, or it leaves the snapshot there, adds it to the listing of its instance
    and changes nothing else but an unfinished file of that name. Where all names are taken it says so. However
    it fails, it changes no file and leaves none unfinished that was not there before. -/
theorem write_exact (s : Store) {snapshot : Snapshot} (nameable : Nameable snapshot.instanceId) (d : Disk) :
    let wrote := (s.write snapshot).run d
    let free := {i | i < nameAttempts ∧ d.has (s.finalPath (nameAfter snapshot i)) = false}
    (d.Followable s.dir → ∀ i, IsLeast free i →
      (∃ p e, wrote.1 = .error (.atPath p e)) ∨
      wrote.1 = .ok (s.finalPath (nameAfter snapshot i)) ∧ s.Gained (nameAfter snapshot i) snapshot.render d wrote.2) ∧
    (free = ∅ → wrote = (.error (.nameExhausted s.dir), d)) ∧
    (∀ fallible : Action → Prop, (∀ p, ¬ fallible (.remove p)) → ∀ e d',
      (s.write snapshot).Goes fallible d (.error e) d' → ∀ l,
        d'.file? l = d.file? l ∨
        (∃ i < nameAttempts, l = Name.ofText (nameAfter snapshot i).tempText :: s.dir.location) ∧ d'.file? l = none) := by
  intro wrote free
  refine ⟨?_, ?_, ?_⟩
  · intro followed i first
    rcases prepared : s.prepare.run d with ⟨made, between⟩
    cases made with
    | error e =>
      refine .inl ⟨s.dir, e, ?_⟩
      simp only [wrote, write, Procedure.run_bind, prepared, Procedure.run_pure]
    | ok u =>
      have same (j : Nat) := has_of_prepare (n := nameAfter snapshot j) followed prepared nameable
      have went : wrote = (s.place (nameAfter snapshot i) snapshot.render).run between := by
        have still : IsLeast {i | i < nameAttempts ∧ between.has (s.finalPath (nameAfter snapshot i)) = false} i := by
          simpa only [same] using first
        have found := find?_candidates still
        have run := run_write snapshot prepared
        rwa [found] at run
      rcases s.place_cases (n := nameAfter snapshot i) nameable snapshot.render between with
        ⟨⟨p, e, failed⟩, _⟩ | ⟨done, _⟩
      · exact .inl ⟨p, e, went ▸ failed⟩
      · obtain ⟨-, added⟩ := added_of_place nameable done
        rw [← went] at done added
        have vacant := (same i).trans first.1.2
        exact .inr ⟨done, gained_of_added followed prepared nameable vacant added⟩
  · intro none
    refine run_write_of_taken nameable fun i small => ?_
    cases taken : d.has (s.finalPath (nameAfter snapshot i)) with
    | true => rfl
    | false => exact absurd (show i ∈ free from ⟨small, taken⟩) (by simp [none])
  · intro fallible reliable e d' failed l
    exact discarded_of_goes_write reliable nameable.2 failed l

/-- A directory has the first name, and an unfinished file is left over under the second one. -/
theorem write_exact_after_taken :
    let s : Store := ⟨⟨[.here]⟩⟩
    let d := (do
      let _ ← Procedure.perform (.makeDirectory (Path.ofText "5-me.json"))
      Procedure.perform (.create (Path.ofText ".tmp-6-me.json")) : Procedure _).run .empty |>.2
    let wrote := (s.write (sample 5)).run d
    d.has (s.tempPath ⟨6, "me"⟩) = true ∧ wrote.1 = .ok (s.finalPath ⟨6, "me"⟩) ∧
      wrote.2.read (s.finalPath ⟨6, "me"⟩) = .ok (sample 5).render ∧ wrote.2.has (s.tempPath ⟨6, "me"⟩) = false := by
  intro s d wrote
  have followed : d.Followable s.dir := (Disk.isDirectory_iff.mp (by decide +kernel)).2.followed
  have first : IsLeast {i | i < nameAttempts ∧ d.has (s.finalPath (nameAfter (sample 5) i)) = false} 1 := by
    refine ⟨⟨by decide, by decide +kernel⟩, ?_⟩
    rintro (_ | i) ⟨_, free⟩
    · have taken : d.has (s.finalPath (nameAfter (sample 5) 0)) = true := by decide +kernel
      cases taken.symm.trans free
    · omega
  have done : wrote.1 = .ok (s.finalPath ⟨6, "me"⟩) := by decide +kernel
  have nameable : Nameable (sample 5).instanceId := by decide
  obtain ⟨exact, -, -⟩ := s.write_exact nameable d
  rcases exact followed 1 first with ⟨p, e, failed⟩ | ⟨_, gained⟩
  · cases failed.symm.trans done
  · exact ⟨by decide +kernel, done, gained.bytes, gained.discarded⟩

/-- Where a path goes up from a missing directory, the first name that is free before the write need not be
    free once that directory is made. The empty path is written to like the working directory, but nothing is
    listed for it. -/
theorem write_of_uncovered :
    (let s : Store := ⟨Path.ofText "a/../t"⟩
     let d := (((⟨Path.ofText "t"⟩ : Store).write (sample 5)).run .empty).2
     let wrote := (s.write (sample 5)).run d
     IsLeast {i | i < nameAttempts ∧ d.has (s.finalPath (nameAfter (sample 5) i)) = false} 0 ∧
       wrote.1 = .ok (s.finalPath (nameAfter (sample 5) 1)) ∧
       ¬ ((∃ p e, wrote.1 = .error (.atPath p e)) ∨ wrote.1 = .ok (s.finalPath (nameAfter (sample 5) 0)))) ∧
    (let s : Store := ⟨Path.ofText ""⟩
     let wrote := (s.write (sample 5)).run .empty
     wrote.1 = .ok (s.finalPath (nameAfter (sample 5) 0)) ∧
       ¬ ∃ front back, s.list "me" .empty = .ok (front ++ back) ∧
         s.list "me" wrote.2 = .ok (front ++ ⟨s.finalPath ⟨5, "me"⟩, "me", 5⟩ :: back)) := by
  constructor
  · intro s d wrote
    have done : wrote.1 = .ok (s.finalPath (nameAfter (sample 5) 1)) := by decide +kernel
    refine ⟨⟨⟨by decide, by decide +kernel⟩, fun _ _ => Nat.zero_le _⟩, done, ?_⟩
    rw [done]
    rintro (⟨p, e, failed⟩ | other)
    · cases failed
    · have different : s.finalPath (nameAfter (sample 5) 1) ≠ s.finalPath (nameAfter (sample 5) 0) := by decide +kernel
      exact different (Except.ok.inj other)
  · intro s wrote
    refine ⟨by decide +kernel, ?_⟩
    rintro ⟨front, back, -, after⟩
    have listed : s.list "me" wrote.2 = .ok [] := by decide +kernel
    rw [listed] at after
    have empty := Except.ok.inj after
    simp at empty

end Store

end NodeTelemetry
