import Mathlib.Data.List.Find
import Mathlib.Data.Set.Insert
import NodeTelemetry.Proofs.Retention.Effects

/-!
# The window of an instance

What an instance has in a directory is a set of files, each with the time in its
name, its path and its bytes. Purging empties the set, writing adds one file to
it, and pruning takes out those that are too old (`Store.window_purge`,
`Store.window_write`, `Store.window_prune`).
-/

namespace NodeTelemetry

/-- A finished file: the time in its name, its path and its bytes. -/
structure Kept where
  time : UInt64
  path : Path
  bytes : List UInt8

namespace Store

open Retention

/-- The finished files of an instance. -/
def window (s : Store) (id : String) (d : Disk) : Set Kept :=
  {k | ∃ n, FileName.ofName? n = some ⟨k.time, id⟩ ∧ k.path = s.dir.child n ∧ d.read k.path = .ok k.bytes}

theorem mem_window_iff {s : Store} {id : String} {d : Disk} (inside : d.LeadsInto s.dir) {k : Kept} :
    k ∈ s.window id d ↔
      ∃ n, s.Stored d id n k.time ∧ k.path = s.dir.child n ∧ d.file? (n :: s.dir.location) = some k.bytes := by
  constructor
  · rintro ⟨n, read, same, bytes⟩
    rw [same] at bytes
    obtain ⟨takes, _, stands⟩ := (Disk.read_child_eq_ok_iff (FileName.descends_of_ofName? read)).mp bytes
    exact ⟨n, ⟨read, takes, by simp [stands]⟩, same, stands⟩
  · rintro ⟨n, ⟨read, takes, _⟩, same, stands⟩
    refine ⟨n, read, same, ?_⟩
    rw [same]
    exact (Disk.read_child_eq_ok_iff (FileName.descends_of_ofName? read)).mpr ⟨takes, inside, stands⟩

theorem window_congr {s : Store} {id : String} {d d' : Disk} (inside : d.LeadsInto s.dir) (inside' : d'.LeadsInto s.dir)
    (files : ∀ n, d'.file? (n :: s.dir.location) = d.file? (n :: s.dir.location)) : s.window id d' = s.window id d := by
  ext k
  rw [mem_window_iff inside, mem_window_iff inside']
  constructor
  · rintro ⟨n, ⟨read, takes, stands⟩, same, bytes⟩
    rw [files] at stands bytes
    exact ⟨n, ⟨read, takes, stands⟩, same, bytes⟩
  · rintro ⟨n, ⟨read, takes, stands⟩, same, bytes⟩
    rw [← files] at stands bytes
    exact ⟨n, ⟨read, takes, stands⟩, same, bytes⟩

/-- No files are read from a directory that has none. -/
theorem window_of_bare {s : Store} (id : String) {d : Disk} (bare : ∀ n, d.file? (n :: s.dir.location) = none) :
    s.window id d = ∅ := by
  rw [Set.eq_empty_iff_forall_notMem]
  rintro k ⟨n, read, same, bytes⟩
  rw [same] at bytes
  obtain ⟨_, _, stands⟩ := (Disk.read_child_eq_ok_iff (FileName.descends_of_ofName? read)).mp bytes
  cases (bare n).symm.trans stands

/-- The window after files were removed. -/
theorem window_cleared {s : Store} {id : String} {d d' : Disk} (inside : d.LeadsInto s.dir) {gone : Location → Prop}
    (cleared : Disk.Cleared d d' gone) :
    s.window id d' = {k ∈ s.window id d | ∀ n, s.Stored d id n k.time → k.path = s.dir.child n →
      ¬ gone (n :: s.dir.location)} := by
  ext k
  rw [Set.mem_ofPred_eq, mem_window_iff (inside.congr cleared.directories), mem_window_iff inside]
  constructor
  · rintro ⟨n, ⟨read, takes, stands⟩, same, bytes⟩
    have stays : ¬ gone (n :: s.dir.location) := fun gone => stands (cleared.removed _ gone)
    rw [cleared.kept _ stays] at stands bytes
    refine ⟨⟨n, ⟨read, takes, stands⟩, same, bytes⟩, ?_⟩
    intro m _ same'
    cases Path.child_injective (same.symm.trans same')
    exact stays
  · rintro ⟨⟨n, stored, same, bytes⟩, stays⟩
    have kept := cleared.kept _ (stays n stored same)
    exact ⟨n, ⟨stored.read, stored.takes, kept ▸ stored.stands⟩, same, kept.trans bytes⟩

/-- Purging empties the window. -/
theorem window_purge {s : Store} {id : String} {d : Disk} (directory : d.isDirectory s.dir = true) :
    s.window id ((s.purge id).run d).2 = ∅ := by
  have inside := (Disk.isDirectory_iff.mp directory).2
  rw [window_cleared inside (purge_cleared id directory), Set.eq_empty_iff_forall_notMem]
  rintro k ⟨member, stays⟩
  obtain ⟨n, stored, same, _⟩ := (mem_window_iff inside).mp member
  exact stays n stored same ⟨n, k.time, rfl, stored⟩

/-- Pruning takes out exactly the files that have expired, while one has not. -/
theorem window_prune {s : Store} {id : String} {d : Disk} (directory : d.isDirectory s.dir = true) {now : UInt64}
    {keep : Span} (recent : ∃ k ∈ s.window id d, (cutoff now keep).toNat ≤ k.time.toNat) :
    s.window id ((s.prune id now keep).run d).2 = {k ∈ s.window id d | (cutoff now keep).toNat ≤ k.time.toNat} := by
  have inside := (Disk.isDirectory_iff.mp directory).2
  have some : ∃ n time, s.Stored d id n time ∧ (cutoff now keep).toNat ≤ time.toNat := by
    obtain ⟨k, member, fresh⟩ := recent
    obtain ⟨n, stored, _⟩ := (mem_window_iff inside).mp member
    exact ⟨n, k.time, stored, fresh⟩
  rw [window_cleared inside (prune_cleared id directory some)]
  ext k
  rw [Set.mem_ofPred_eq, Set.mem_ofPred_eq]
  refine and_congr_right fun member => ?_
  obtain ⟨n, stored, same, _⟩ := (mem_window_iff inside).mp member
  constructor
  · intro stays
    refine Nat.le_of_not_lt fun expired => ?_
    exact stays n stored same ⟨n, k.time, rfl, stored, expired⟩
  · rintro fresh m shown _ ⟨m', time, same', stored', expired⟩
    cases (List.cons.inj same').1
    have times := shown.read.symm.trans stored'.read
    simp only [Option.some.injEq, FileName.mk.injEq, and_true] at times
    rw [times] at fresh
    omega

/-- Writing adds a file to the window. -/
theorem window_written {s : Store} {d d' : Disk} {n : FileName} (nameable : Nameable n.instanceId) {body : List UInt8}
    (free : d.file? (Name.ofText n.text :: s.dir.location) = none) (written : s.Written d d' n body) :
    s.window n.instanceId d' = insert ⟨n.time, s.finalPath n, body⟩ (s.window n.instanceId d) := by
  have read : FileName.ofName? (Name.ofText n.text) = some ⟨n.time, n.instanceId⟩ := FileName.ofName?_text nameable.1
  have notTemp {m : Name} {k : FileName} (read : FileName.ofName? m = some k) : m ≠ Name.ofText n.tempText := by
    rintro rfl
    rw [FileName.ofName?_tempText] at read
    cases read
  ext k
  rw [Set.mem_insert_iff, mem_window_iff written.inside, mem_window_iff (written.inside.congr written.directories)]
  constructor
  · rintro ⟨m, stored, same, bytes⟩
    by_cases new : m = Name.ofText n.text
    · subst new
      left
      have times := stored.read.symm.trans read
      simp only [Option.some.injEq, FileName.mk.injEq, and_true] at times
      cases written.placed.symm.trans bytes
      cases k
      simp only at times same
      rw [times, same, s.finalPath_eq_child nameable.2]
    · have kept := written.others m new (notTemp stored.read)
      exact .inr ⟨m, ⟨stored.read, stored.takes, kept ▸ stored.stands⟩, same, kept.symm.trans bytes⟩
  · rintro (rfl | ⟨m, stored, same, bytes⟩)
    · exact ⟨Name.ofText n.text, ⟨read, written.takes, by simp [written.placed]⟩,
        s.finalPath_eq_child nameable.2, written.placed⟩
    · have old : m ≠ Name.ofText n.text := by
        rintro rfl
        exact stored.stands free
      have kept := written.others m old (notTemp stored.read)
      exact ⟨m, ⟨stored.read, stored.takes, kept.symm ▸ stored.stands⟩, same, kept.trans bytes⟩

/-! ## Writing where a name is free -/

/-- Whether a name is taken, by a file of the instance or by a directory that is in the way. -/
def Taken (s : Store) (blocked : Set Path) (files : Set Kept) (n : FileName) : Prop :=
  s.finalPath n ∈ blocked ∨ ∃ k ∈ files, k.path = s.finalPath n

open Classical in
/-- The first name of a snapshot that is free. -/
noncomputable def firstFree? (s : Store) (blocked : Set Path) (files : Set Kept) (snapshot : Snapshot) : Option FileName :=
  (candidates snapshot).find? fun n => ¬ s.Taken blocked files n

/-- A directory that can be listed, or that has nothing in it yet. -/
def Listable (s : Store) (d : Disk) : Prop :=
  d.isDirectory s.dir = true ∨ ∀ n, d.get? (n :: s.dir.location) = none

/-- The directories that take names of an instance, as soon as the directory of the store is there. -/
def Blocks (s : Store) (id : String) (d : Disk) (blocked : Set Path) : Prop :=
  d.isDirectory s.dir = true →
    ∀ n : FileName, n.instanceId = id → (s.finalPath n ∈ blocked ↔ d.isDirectory (s.finalPath n) = true)

theorem Listable.congr {s : Store} {d d' : Disk} (listable : s.Listable d)
    (directory : d.isDirectory s.dir = true → d'.isDirectory s.dir = true)
    (entries : ∀ n, d'.get? (n :: s.dir.location) = d.get? (n :: s.dir.location)) : s.Listable d' := by
  rcases listable with there | bare
  · exact .inl (directory there)
  · exact .inr fun n => (entries n).trans (bare n)

theorem window_of_entries {s : Store} (id : String) {d d' : Disk} (listable : s.Listable d)
    (directory : d.isDirectory s.dir = true → d'.isDirectory s.dir = true)
    (entries : ∀ n, d'.get? (n :: s.dir.location) = d.get? (n :: s.dir.location)) : s.window id d' = s.window id d := by
  have files (n : Name) : d'.file? (n :: s.dir.location) = d.file? (n :: s.dir.location) := by
    unfold Disk.file?
    rw [entries n]
  rcases listable with there | bare
  · exact window_congr (Disk.isDirectory_iff.mp there).2 (Disk.isDirectory_iff.mp (directory there)).2 files
  · have none (n : Name) : d.file? (n :: s.dir.location) = none := Disk.file?_eq_none (by simp [bare n])
    rw [window_of_bare id none, window_of_bare id fun n => (files n).trans (none n)]

/-- Purging empties the window, also of a directory that is not there yet. -/
theorem Listable.purge {s : Store} (id : String) {d : Disk} (listable : s.Listable d) :
    let purged := ((s.purge id).run d).2
    s.Listable purged ∧ Disk.SameDirectories d purged ∧ s.window id purged = ∅ := by
  intro purged
  cases there : d.isDirectory s.dir with
  | true =>
    have same := (purge_cleared id there).directories
    exact ⟨.inl (Disk.isDirectory_mono same.keeps there), same, window_purge there⟩
  | false =>
    have unchanged : purged = d := purge_of_not_isDirectory id there
    have bare := listable.resolve_left (by simp [there])
    rw [unchanged]
    refine ⟨listable, Disk.SameDirectories.refl d, window_of_bare id fun n => ?_⟩
    exact Disk.file?_eq_none (by simp [bare n])

theorem Blocks.congr {s : Store} {id : String} (nameable : Nameable id) {d d' : Disk} {blocked : Set Path}
    (directory : d.isDirectory s.dir = true → d'.isDirectory s.dir = true)
    (same : d.isDirectory s.dir = true → ∀ n,
      d.get? (n :: s.dir.location) = some .directory ↔ d'.get? (n :: s.dir.location) = some .directory)
    (blocks : s.Blocks id d' blocked) : s.Blocks id d blocked := by
  intro there n mine
  have inside := (Disk.isDirectory_iff.mp there).2
  have inside' := (Disk.isDirectory_iff.mp (directory there)).2
  rw [blocks (directory there) n mine, s.finalPath_eq_child (mine ▸ nameable.2),
    Disk.isDirectory_child_iff (FileName.descends_text n), Disk.isDirectory_child_iff (FileName.descends_text n),
    same there]
  simp [inside, inside']

/-- A name is taken on a disk when a file of the instance or a directory takes it. -/
theorem has_finalPath_iff {s : Store} {d : Disk} (inside : d.LeadsInto s.dir) {n : FileName}
    (nameable : Nameable n.instanceId) {blocked : Set Path}
    (agree : s.finalPath n ∈ blocked ↔ d.isDirectory (s.finalPath n) = true) :
    d.has (s.finalPath n) = true ↔ s.Taken blocked (s.window n.instanceId d) n := by
  have down := FileName.descends_text n
  unfold Taken
  rw [agree, s.finalPath_eq_child nameable.2, Disk.has_child_iff down, Disk.isDirectory_child_iff down]
  constructor
  · rintro ⟨takes, _, stands⟩
    cases there : d.get? (Name.ofText n.text :: s.dir.location) with
    | none => exact absurd there stands
    | some e =>
      cases e with
      | directory => exact .inl ⟨takes, inside, rfl⟩
      | file bytes =>
        have file := Disk.file?_eq_some_iff.mpr there
        exact .inr ⟨⟨n.time, _, bytes⟩, (mem_window_iff inside).mpr
          ⟨_, ⟨FileName.ofName?_text nameable.1, takes, by simp [file]⟩, rfl, file⟩, rfl⟩
  · rintro (⟨takes, _, there⟩ | ⟨k, member, same⟩)
    · exact ⟨takes, inside, by simp [there]⟩
    · obtain ⟨m, stored, path, bytes⟩ := (mem_window_iff inside).mp member
      cases Path.child_injective (same.symm.trans path)
      exact ⟨stored.takes, inside, by simp [Disk.file?_eq_some_iff.mp bytes]⟩

theorem mem_of_firstFree? {s : Store} {blocked : Set Path} {files : Set Kept} {snapshot : Snapshot} {n : FileName}
    (first : s.firstFree? blocked files snapshot = some n) : n ∈ candidates snapshot := by
  unfold firstFree? at first
  exact List.mem_of_find?_eq_some first

theorem firstFree?_eq {s : Store} {d : Disk} (directory : d.isDirectory s.dir = true) {snapshot : Snapshot}
    (nameable : Nameable snapshot.instanceId) {blocked : Set Path} (blocks : s.Blocks snapshot.instanceId d blocked) :
    s.firstFree? blocked (s.window snapshot.instanceId d) snapshot =
      (candidates snapshot).find? fun n => !d.has (s.finalPath n) := by
  classical
  refine List.find?_congr fun n member => ?_
  have mine := instanceId_of_mem_candidates member
  have taken := has_finalPath_iff (Disk.isDirectory_iff.mp directory).2 (mine ▸ nameable) (blocks directory n mine)
  rw [mine] at taken
  have same : (!d.has (s.finalPath n)) = decide ¬ d.has (s.finalPath n) = true := by simp
  rw [same]
  exact decide_eq_decide.mpr (not_congr taken.symm)

/-- What becomes of the directory when the path of the store is made. -/
theorem prepare_of_ok {s : Store} (named : s.dir.isEmpty = false) {d between : Disk} (listable : s.Listable d)
    (prepared : s.prepare.run d = (.ok (), between)) :
    between.isDirectory s.dir = true ∧ (d.isDirectory s.dir = true → between = d) ∧
      ∀ id, s.window id between = s.window id d := by
  have there : d.isDirectory s.dir = true → between = d := by
    intro directory
    have stays : s.prepare.run d = (.ok (), d) := Procedure.makeDirectories_of_isDirectory (.inr directory)
    exact (Prod.mk.inj (stays.symm.trans prepared)).2.symm
  refine ⟨?_, there, ?_⟩
  · rcases Procedure.isDirectory_of_makeDirectories prepared with empty | directory
    · rw [named] at empty
      cases empty
    · exact directory
  · intro id
    rcases listable with directory | bare
    · rw [there directory]
    · have none (n : Name) : d.file? (n :: s.dir.location) = none := Disk.file?_eq_none (by simp [bare n])
      have grown := Procedure.makeDirectories_grows s.dir d
      rw [← prepare, prepared] at grown
      rw [window_of_bare id none, window_of_bare id fun n => (grown.files _).trans (none n)]

/-- Writing adds the snapshot under the first name that is free, when the disk does not fail. -/
theorem window_write {s : Store} (named : s.dir.isEmpty = false) {snapshot : Snapshot}
    (nameable : Nameable snapshot.instanceId) {d : Disk} (listable : s.Listable d)
    (unfailing : ∀ p e, ((s.write snapshot).run d).1 ≠ .error (.atPath p e)) :
    let wrote := (s.write snapshot).run d
    let files := s.window snapshot.instanceId d
    wrote.2.isDirectory s.dir = true ∧ (d.isDirectory s.dir = true → Disk.SameDirectories d wrote.2) ∧
    ∀ blocked, s.Blocks snapshot.instanceId wrote.2 blocked →
      (s.firstFree? blocked files snapshot = none ∧ wrote.1 = .error (.nameExhausted s.dir) ∧
        s.window snapshot.instanceId wrote.2 = files) ∨
      (∃ n, s.firstFree? blocked files snapshot = some n ∧ wrote.1 = .ok (s.finalPath n) ∧
        s.window snapshot.instanceId wrote.2 = insert ⟨n.time, s.finalPath n, snapshot.render⟩ files) := by
  intro wrote files
  rcases prepared : s.prepare.run d with ⟨made, between⟩
  cases made with
  | error e =>
    refine absurd ?_ (unfailing s.dir e)
    rw [write, Procedure.run_bind, prepared]
    rfl
  | ok u =>
    obtain ⟨directory, there, same⟩ := prepare_of_ok named listable prepared
    have went : wrote = _ := run_write snapshot prepared
    have free (blocked : Set Path) (blocks : s.Blocks snapshot.instanceId between blocked) :
        s.firstFree? blocked files snapshot = (candidates snapshot).find? fun n => !between.has (s.finalPath n) := by
      rw [← firstFree?_eq directory nameable blocks, same]
    cases first : (candidates snapshot).find? fun n => !between.has (s.finalPath n) with
    | none =>
      rw [first] at went
      rw [went]
      refine ⟨directory, fun before => there before ▸ Disk.SameDirectories.refl d, fun blocked blocks => ?_⟩
      exact .inl ⟨(free blocked blocks).trans first, rfl, same _⟩
    | some n =>
      rw [first] at went
      replace went : wrote = (s.place n snapshot.render).run between := went
      have mine : n.instanceId = snapshot.instanceId := instanceId_of_mem_candidates (List.mem_of_find?_eq_some first)
      have nameable' : Nameable n.instanceId := mine ▸ nameable
      rcases place_cases s nameable' snapshot.render between with ⟨⟨p, e, failed⟩, _⟩ | ⟨done, written⟩
      · exact absurd ((congrArg Prod.fst went).trans failed) (unfailing p e)
      · have written : s.Written between wrote.2 n snapshot.render := went ▸ written
        have done : wrote.1 = .ok (s.finalPath n) := went ▸ done
        clear_value wrote
        refine ⟨Disk.isDirectory_mono written.directories.keeps directory, ?_, ?_⟩
        · intro before
          rw [← there before]
          exact written.directories
        · intro blocked blocks
          have blocks' : s.Blocks snapshot.instanceId between blocked := by
            refine blocks.congr nameable ?_ ?_
            · intro _
              exact Disk.isDirectory_mono written.directories.keeps directory
            · intro _ m
              exact written.directories (m :: s.dir.location)
          have vacant := written.vacant nameable'.2 (by simpa using List.find?_some first)
          have added := window_written nameable' vacant written
          rw [mine, same] at added
          exact .inr ⟨n, (free blocked blocks').trans first, done, added⟩

end Store

end NodeTelemetry
