import Mathlib.Data.List.Sort
import NodeTelemetry.Proofs.Retention.Names

/-!
# What a listing shows

A listing of an instance shows its finished files and nothing else, the oldest
first (`Store.mem_list_iff`, `Store.sorted_list`). What belongs to other instances
has no influence on it (`Store.list_congr`).
-/

namespace NodeTelemetry

/-- Of two directories the same names are chosen in the same order. -/
theorem Disk.filter_children_congr {d d' : Disk} {loc : Location} {P P' : Name → Bool}
    (same : ∀ n, n ∈ d.children loc ∧ P n = true ↔ n ∈ d'.children loc ∧ P' n = true) :
    (d.children loc).filter P = (d'.children loc).filter P' := by
  have irreflexive : Std.Irrefl fun n m : Name => compare (n :: loc) (m :: loc) = .lt :=
    ⟨fun n before => by simp [Std.ReflCmp.compare_self] at before⟩
  have antisymmetric : Std.Antisymm fun n m : Name => compare (n :: loc) (m :: loc) = .lt :=
    ⟨fun n m before after => absurd after (Std.OrientedCmp.not_lt_of_lt before)⟩
  refine List.Pairwise.eq_of_mem_iff ((d.ordered_children loc).filter P) ((d'.ordered_children loc).filter P') ?_
  intro n
  rw [List.mem_filter, List.mem_filter]
  exact same n

/-- A directory that holds fewer entries lists fewer names, in the same order. -/
theorem Disk.children_sublist {d d' : Disk} {loc : Location} (fewer : ∀ n ∈ d'.children loc, n ∈ d.children loc) :
    (d'.children loc).Sublist (d.children loc) := by
  have left : (d'.children loc).filter (fun _ => true) = (d.children loc).filter (· ∈ d'.children loc) :=
    Disk.filter_children_congr fun n => by
      rw [decide_eq_true_eq]
      exact ⟨fun there => ⟨fewer n there.1, there.1⟩, fun there => ⟨there.2, rfl⟩⟩
  rw [List.filter_true] at left
  rw [left]
  exact List.filter_sublist

/-- Of two directories the same is made of the names that something is made of. -/
theorem Disk.filterMap_children_congr {α : Type} {d d' : Disk} {loc : Location} {made : Name → Option α}
    (same : ∀ n, made n ≠ none → (n ∈ d.children loc ↔ n ∈ d'.children loc)) :
    (d.children loc).filterMap made = (d'.children loc).filterMap made := by
  have chosen (names : List Name) : names.filterMap made = (names.filter fun n => (made n).isSome).filterMap made := by
    rw [List.filterMap_filter]
    congr 1
    funext n
    cases made n <;> rfl
  have names : (d.children loc).filter (fun n => (made n).isSome) =
      (d'.children loc).filter (fun n => (made n).isSome) := by
    refine Disk.filter_children_congr fun n => and_congr_left fun some => ?_
    exact same n (Option.isSome_iff_ne_none.mp some)
  rw [chosen, names, ← chosen]

namespace Store

open Retention

/-! ## The order -/

theorem listedBefore_iff {a b : SnapshotFile} :
    listedBefore a b = true ↔ a.time < b.time ∨ a.time = b.time ∧ a.instanceId ≤ b.instanceId := by
  simp [listedBefore]

theorem time_le_of_listedBefore {a b : SnapshotFile} (before : listedBefore a b = true) :
    a.time.toNat ≤ b.time.toNat := by
  rcases listedBefore_iff.mp before with less | ⟨same, _⟩
  · exact Nat.le_of_lt less
  · rw [same]

theorem listedBefore_trans {a b c : SnapshotFile} (first : listedBefore a b = true) (second : listedBefore b c = true) :
    listedBefore a c = true := by
  rw [listedBefore_iff] at first second ⊢
  rcases first with first | ⟨first, ids⟩ <;> rcases second with second | ⟨second, ids'⟩
  · exact .inl (UInt64.lt_trans first second)
  · exact .inl (second ▸ first)
  · exact .inl (first ▸ second)
  · exact .inr ⟨first.trans second, Std.le_trans ids ids'⟩

theorem listedBefore_total (a b : SnapshotFile) : listedBefore a b = true ∨ listedBefore b a = true := by
  rw [listedBefore_iff, listedBefore_iff]
  by_cases same : a.time = b.time
  · rcases Std.le_total (a := a.instanceId) (b := b.instanceId) with ids | ids
    · exact .inl (.inr ⟨same, ids⟩)
    · exact .inr (.inr ⟨same.symm, ids⟩)
  · rcases UInt64.lt_or_lt_of_ne same with earlier | later
    · exact .inl (.inl earlier)
    · exact .inr (.inl later)

instance : IsTrans SnapshotFile (fun a b => listedBefore a b = true) := ⟨fun _ _ _ => listedBefore_trans⟩

instance : Std.Total (fun a b => listedBefore a b = true) := ⟨listedBefore_total⟩

theorem insertFile_eq (f : SnapshotFile) (files : List SnapshotFile) :
    insertFile f files = files.orderedInsert (fun a b => listedBefore a b = true) f := by
  induction files with
  | nil => rfl
  | cons g rest ih => rw [insertFile, List.orderedInsert_cons, ih]

theorem sortFiles_eq (files : List SnapshotFile) :
    sortFiles files = files.insertionSort (fun a b => listedBefore a b = true) := by
  induction files with
  | nil => rfl
  | cons f rest ih =>
    rw [List.insertionSort_cons, ← ih, ← insertFile_eq]
    rfl

theorem perm_sortFiles (files : List SnapshotFile) : (sortFiles files).Perm files := by
  rw [sortFiles_eq]
  exact List.perm_insertionSort _ files

theorem mem_sortFiles {f : SnapshotFile} {files : List SnapshotFile} : f ∈ sortFiles files ↔ f ∈ files := by
  rw [sortFiles_eq, List.mem_insertionSort]

theorem sorted_sortFiles (files : List SnapshotFile) :
    (sortFiles files).Pairwise fun a b => listedBefore a b = true := by
  rw [sortFiles_eq]
  exact List.pairwise_insertionSort _ files

theorem insertFile_of_first {f : SnapshotFile} {files : List SnapshotFile}
    (first : ∀ g ∈ files, listedBefore f g = true) : insertFile f files = f :: files := by
  cases files with
  | nil => rfl
  | cons g rest => rw [insertFile, if_pos (first g List.mem_cons_self)]

theorem filter_insertFile (P : SnapshotFile → Bool) (f : SnapshotFile) {files : List SnapshotFile}
    (sorted : files.Pairwise fun a b => listedBefore a b = true) :
    (insertFile f files).filter P = if P f then insertFile f (files.filter P) else files.filter P := by
  induction files with
  | nil => cases kept : P f <;> simp [insertFile, kept]
  | cons g rest ih =>
    obtain ⟨after, sorted⟩ := List.pairwise_cons.mp sorted
    rw [insertFile]
    by_cases before : listedBefore f g = true
    · -- whatever is kept of the rest comes after `f` as well
      have first : ∀ h ∈ (g :: rest).filter P, listedBefore f h = true := by
        intro h member
        rcases List.mem_cons.mp (List.mem_of_mem_filter member) with rfl | member
        · exact before
        · exact listedBefore_trans before (after h member)
      rw [if_pos before, List.filter_cons, insertFile_of_first first]
    · rw [if_neg before, List.filter_cons, List.filter_cons, ih sorted]
      cases P g with
      | false => rfl
      | true =>
        cases P f with
        | false => rfl
        | true => simp only [if_true, insertFile, if_neg before]

/-- Leaving out files before sorting is leaving them out afterwards. -/
theorem filter_sortFiles (P : SnapshotFile → Bool) (files : List SnapshotFile) :
    (sortFiles files).filter P = sortFiles (files.filter P) := by
  induction files with
  | nil => rfl
  | cons f rest ih =>
    have unfolded : sortFiles (f :: rest) = insertFile f (sortFiles rest) := rfl
    rw [unfolded, filter_insertFile P f (sorted_sortFiles rest), ih, List.filter_cons]
    split <;> rfl

/-! ## Listings -/

/-- A finished file of an instance in the directory of a store. -/
structure Stored (s : Store) (d : Disk) (id : String) (n : Name) (time : UInt64) : Prop where
  read : FileName.ofName? n = some ⟨time, id⟩
  takes : s.dir.Takes n
  stands : d.file? (n :: s.dir.location) ≠ none

theorem Stored.congr {s : Store} {d d' : Disk} {id : String} {n : Name} {time : UInt64}
    (same : d.file? (n :: s.dir.location) = d'.file? (n :: s.dir.location)) (stored : s.Stored d id n time) :
    s.Stored d' id n time := ⟨stored.read, stored.takes, same ▸ stored.stands⟩

/-- What a listing says about a file with a name. -/
def entry (s : Store) (n : Name) (m : FileName) : SnapshotFile := ⟨s.dir.child n, m.instanceId, m.time⟩

theorem fileOfName?_eq_some_iff {s : Store} {d : Disk} (inside : d.LeadsInto s.dir) {n : Name} {f : SnapshotFile} :
    s.fileOfName? d n = some f ↔ s.Stored d f.instanceId n f.time ∧ f = s.entry n ⟨f.time, f.instanceId⟩ := by
  unfold fileOfName?
  rw [Option.bind_eq_some_iff]
  constructor
  · rintro ⟨m, read, shown⟩
    have down := FileName.descends_of_ofName? read
    simp only at shown
    split at shown
    · next file =>
      cases shown
      obtain ⟨takes, _, stands⟩ := (Disk.isFile_child_iff down).mp file
      exact ⟨⟨read, takes, stands⟩, rfl⟩
    · cases shown
  · rintro ⟨⟨read, takes, stands⟩, same⟩
    refine ⟨_, read, ?_⟩
    rw [if_pos ((Disk.isFile_child_iff (FileName.descends_of_ofName? read)).mpr ⟨takes, inside, stands⟩), same]
    rfl

/-- Where the path of a store leads into no directory, the store is empty or cannot be listed. -/
theorem list_of_not_isDirectory {s : Store} {d : Disk} {id : String} {files : List SnapshotFile}
    (none : d.isDirectory s.dir = false) (listed : s.list id d = .ok files) : files = [] := by
  unfold list at listed
  obtain ⟨all, read, kept⟩ := Except.bind_eq_ok_iff.mp listed
  unfold listAll at read
  split at read
  · cases read
    cases kept
    rfl
  · cases read
  · next names found =>
    rw [(Disk.readDirectory_eq_ok_iff.mp found).1] at none
    cases none

theorem list_of_isDirectory {s : Store} {d : Disk} (id : String) (directory : d.isDirectory s.dir = true) :
    s.list id d = .ok (sortFiles (((d.children s.dir.location).filterMap (s.fileOfName? d)).filter
      (·.instanceId = id))) := by
  unfold list listAll
  rw [Disk.readDirectory_eq_ok_iff.mpr ⟨directory, rfl⟩]
  exact congrArg Except.ok (filter_sortFiles _ _)

/-- A listing shows exactly the finished files of its instance. -/
theorem mem_list_iff {s : Store} {d : Disk} {id : String} {files : List SnapshotFile}
    (listed : s.list id d = .ok files) {f : SnapshotFile} :
    f ∈ files ↔ d.isDirectory s.dir = true ∧ ∃ n, s.Stored d id n f.time ∧ f = s.entry n ⟨f.time, id⟩ := by
  cases directory : d.isDirectory s.dir with
  | false => simp [list_of_not_isDirectory directory listed]
  | true =>
    rw [list_of_isDirectory id directory] at listed
    cases listed
    have inside := (Disk.isDirectory_iff.mp directory).2
    rw [mem_sortFiles, List.mem_filter, List.mem_filterMap]
    simp only [fileOfName?_eq_some_iff inside, decide_eq_true_eq, true_and]
    constructor
    · rintro ⟨⟨n, _, stored, same⟩, rfl⟩
      exact ⟨n, stored, same⟩
    · rintro ⟨n, stored, same⟩
      have mine : f.instanceId = id := by rw [same]; rfl
      rw [mine]
      exact ⟨⟨n, Disk.mem_children_of_file? stored.stands, stored, same⟩, rfl⟩

/-- A listing is ordered by time. -/
theorem sorted_list {s : Store} {d : Disk} {id : String} {files : List SnapshotFile} (listed : s.list id d = .ok files) :
    files.Pairwise fun a b => a.time.toNat ≤ b.time.toNat := by
  cases directory : d.isDirectory s.dir with
  | false =>
    rw [list_of_not_isDirectory directory listed]
    exact List.Pairwise.nil
  | true =>
    rw [list_of_isDirectory id directory] at listed
    cases listed
    exact (sorted_sortFiles _).imp time_le_of_listedBefore

/-- Different names stand for files with different paths. -/
theorem nodup_paths {s : Store} {d : Disk} (inside : d.LeadsInto s.dir) {names : List Name} (distinct : names.Nodup) :
    ((names.filterMap (s.fileOfName? d)).map (·.path)).Nodup := by
  refine List.pairwise_map.mpr (List.Pairwise.filterMap _ ?_ distinct)
  intro n m different f shown g shown' same
  have path : f.path = s.dir.child n := congrArg (·.path) ((fileOfName?_eq_some_iff inside).mp shown).2
  have path' : g.path = s.dir.child m := congrArg (·.path) ((fileOfName?_eq_some_iff inside).mp shown').2
  exact different (Path.child_injective (path.symm.trans (same.trans path')))

/-- A listing shows no path twice. -/
theorem nodup_list {s : Store} {d : Disk} {id : String} {files : List SnapshotFile} (listed : s.list id d = .ok files) :
    (files.map (·.path)).Nodup := by
  cases directory : d.isDirectory s.dir with
  | false =>
    rw [list_of_not_isDirectory directory listed]
    exact List.nodup_nil
  | true =>
    rw [list_of_isDirectory id directory] at listed
    cases listed
    have inside := (Disk.isDirectory_iff.mp directory).2
    refine ((perm_sortFiles _).map _).nodup_iff.mpr ?_
    exact (nodup_paths inside (Disk.nodup_children d _)).sublist (List.Sublist.map _ List.filter_sublist)

section

variable {s : Store} {d d' : Disk} (inside : d.LeadsInto s.dir) (inside' : d'.LeadsInto s.dir)
  (fewer : ∀ n m, FileName.ofName? n = some m → d'.file? (n :: s.dir.location) ≠ none → d.file? (n :: s.dir.location) ≠ none)

include inside fewer

/-- Where finished files have gone, a name that stood for a file may stand for none. -/
theorem fileOfName?_of_fewer (n : Name) :
    s.fileOfName? d' n = (s.fileOfName? d n).filter fun f => d'.isFile f.path := by
  unfold fileOfName?
  cases read : FileName.ofName? n with
  | none => rfl
  | some m =>
    have down := FileName.descends_of_ofName? read
    cases stays : d'.isFile (s.dir.child n) with
    | true =>
      obtain ⟨takes, _, stands⟩ := (Disk.isFile_child_iff down).mp stays
      have old := (Disk.isFile_child_iff down).mpr ⟨takes, inside, fewer n m read stands⟩
      simp [Option.filter, stays, old]
    | false => cases old : d.isFile (s.dir.child n) <;> simp [Option.filter, stays, old]

theorem filterMap_fileOfName?_of_fewer (names : List Name) :
    names.filterMap (s.fileOfName? d') = (names.filterMap (s.fileOfName? d)).filter fun f => d'.isFile f.path := by
  rw [List.filter_filterMap]
  exact congrArg (List.filterMap · names) (funext (fileOfName?_of_fewer inside fewer))

include inside'

theorem mem_children_of_fewer {n : Name} (some : s.fileOfName? d' n ≠ none) :
    n ∈ d'.children s.dir.location ∧ n ∈ d.children s.dir.location := by
  obtain ⟨f, found'⟩ := Option.ne_none_iff_exists'.mp some
  have found := (Option.filter_eq_some_iff.mp ((fileOfName?_of_fewer inside fewer n).symm.trans found')).1
  have stands' := ((fileOfName?_eq_some_iff inside').mp found').1.stands
  have stands := ((fileOfName?_eq_some_iff inside).mp found).1.stands
  exact ⟨Disk.mem_children_of_file? stands', Disk.mem_children_of_file? stands⟩

end

/-- Where finished files have gone, a listing shows what is left of the earlier one. -/
theorem list_of_fewer {s : Store} {d d' : Disk} (directory : d.isDirectory s.dir = true)
    (directory' : d'.isDirectory s.dir = true)
    (fewer : ∀ n m, FileName.ofName? n = some m → d'.file? (n :: s.dir.location) ≠ none → d.file? (n :: s.dir.location) ≠ none)
    {id : String} {files : List SnapshotFile} (listed : s.list id d = .ok files) :
    s.list id d' = .ok (files.filter fun f => d'.isFile f.path) := by
  have inside := (Disk.isDirectory_iff.mp directory).2
  have inside' := (Disk.isDirectory_iff.mp directory').2
  have names : (d'.children s.dir.location).filterMap (s.fileOfName? d') =
      (d.children s.dir.location).filterMap (s.fileOfName? d') := by
    refine Disk.filterMap_children_congr fun n some => ?_
    obtain ⟨stands', stands⟩ := mem_children_of_fewer inside inside' fewer some
    exact iff_of_true stands' stands
  rw [list_of_isDirectory id directory] at listed
  cases listed
  rw [list_of_isDirectory id directory', names, filterMap_fileOfName?_of_fewer inside fewer, filter_sortFiles,
    List.filter_filter, List.filter_filter]
  simp only [Bool.and_comm]

/-! ## What a listing depends on -/

/-- Whether a name is shown in the listings of an instance. -/
def shows (s : Store) (d : Disk) (id : String) (n : Name) : Bool := (s.fileOfName? d n).any (·.instanceId = id)

theorem shows_iff {s : Store} {d : Disk} (inside : d.LeadsInto s.dir) {id : String} {n : Name} :
    s.shows d id n = true ↔ ∃ time, s.Stored d id n time := by
  unfold shows
  simp only [Option.any_eq_true, fileOfName?_eq_some_iff inside, decide_eq_true_eq]
  constructor
  · rintro ⟨f, ⟨stored, _⟩, rfl⟩
    exact ⟨f.time, stored⟩
  · rintro ⟨time, stored⟩
    exact ⟨s.entry n ⟨time, id⟩, ⟨stored, rfl⟩, rfl⟩

/-- What is listed of an instance is a matter of the names that are shown. -/
theorem filter_filterMap_fileOfName? (s : Store) (d : Disk) (id : String) (names : List Name) :
    (names.filterMap (s.fileOfName? d)).filter (·.instanceId = id) =
      (names.filter (s.shows d id)).filterMap fun n => (FileName.ofName? n).map (s.entry n) := by
  induction names with
  | nil => rfl
  | cons n rest ih =>
    cases shown : s.fileOfName? d n with
    | none =>
      have hidden : s.shows d id n = false := by simp [shows, shown]
      rw [List.filterMap_cons_none shown, List.filter_cons, hidden, ih]
      rfl
    | some f =>
      have entry : (FileName.ofName? n).map (s.entry n) = some f := by
        unfold fileOfName? at shown
        obtain ⟨m, read, file⟩ := Option.bind_eq_some_iff.mp shown
        simp only at file
        split at file
        · cases file
          rw [read]
          rfl
        · cases file
      have mine : s.shows d id n = decide (f.instanceId = id) := by simp [shows, shown]
      rw [List.filterMap_cons_some shown, List.filter_cons, List.filter_cons, mine, ih]
      split
      · rw [List.filterMap_cons, entry]
      · rfl

/-- Disks that hold the same finished files of an instance have the same listing of it, whatever they hold
    of others. -/
theorem list_congr {s : Store} {d d' : Disk} (inside : d.LeadsInto s.dir) (inside' : d'.LeadsInto s.dir) {id : String}
    (same : ∀ n, (∃ m, FileName.ofName? n = some m ∧ m.instanceId = id) →
      d.file? (n :: s.dir.location) = d'.file? (n :: s.dir.location)) :
    s.list id d = s.list id d' := by
  cases accepted : Disk.accept s.dir with
  | error e =>
    unfold list listAll
    rw [inside.readDirectory, inside'.readDirectory, accepted]
    cases e <;> rfl
  | ok u =>
    have names : (d.children s.dir.location).filter (s.shows d id) =
        (d'.children s.dir.location).filter (s.shows d' id) := by
      refine Disk.filter_children_congr fun n => ?_
      rw [shows_iff inside, shows_iff inside']
      constructor
      · rintro ⟨_, time, found⟩
        have found' := found.congr (same n ⟨_, found.read, rfl⟩)
        exact ⟨Disk.mem_children_of_file? found'.stands, time, found'⟩
      · rintro ⟨_, time, found'⟩
        have found := found'.congr (same n ⟨_, found'.read, rfl⟩).symm
        exact ⟨Disk.mem_children_of_file? found.stands, time, found⟩
    rw [list_of_isDirectory id (Disk.isDirectory_iff.mpr ⟨accepted, inside⟩),
      list_of_isDirectory id (Disk.isDirectory_iff.mpr ⟨accepted, inside'⟩),
      filter_filterMap_fileOfName?, filter_filterMap_fileOfName?, names]

theorem listAll_of_isDirectory {s : Store} {d : Disk} (directory : d.isDirectory s.dir = true) :
    s.listAll d = .ok (sortFiles ((d.children s.dir.location).filterMap (s.fileOfName? d))) := by
  rw [listAll, Disk.readDirectory_eq_ok_iff.mpr ⟨directory, rfl⟩]

/-- Disks that hold the same finished files have the same listing of all instances. -/
theorem listAll_congr {s : Store} {d d' : Disk} (inside : d.LeadsInto s.dir) (inside' : d'.LeadsInto s.dir)
    (same : ∀ n m, FileName.ofName? n = some m → d.file? (n :: s.dir.location) = d'.file? (n :: s.dir.location)) :
    s.listAll d = s.listAll d' := by
  cases accepted : Disk.accept s.dir with
  | error e =>
    rw [listAll, listAll, inside.readDirectory, inside'.readDirectory, accepted]
    cases e <;> rfl
  | ok u =>
    have shown : s.fileOfName? d = s.fileOfName? d' := by
      refine funext fun n => Option.ext fun f => ?_
      rw [fileOfName?_eq_some_iff inside, fileOfName?_eq_some_iff inside']
      constructor
      · rintro ⟨stored, entry⟩
        exact ⟨stored.congr (same n _ stored.read), entry⟩
      · rintro ⟨stored, entry⟩
        exact ⟨stored.congr (same n _ stored.read).symm, entry⟩
    have names : (d.children s.dir.location).filterMap (s.fileOfName? d') =
        (d'.children s.dir.location).filterMap (s.fileOfName? d') := by
      refine Disk.filterMap_children_congr fun n some => ?_
      obtain ⟨f, found⟩ := Option.ne_none_iff_exists'.mp some
      have stored' := ((fileOfName?_eq_some_iff inside').mp found).1
      have stored := ((fileOfName?_eq_some_iff inside).mp (shown ▸ found)).1
      exact ⟨fun _ => Disk.mem_children_of_file? stored'.stands, fun _ => Disk.mem_children_of_file? stored.stands⟩
    rw [listAll_of_isDirectory (Disk.isDirectory_iff.mpr ⟨accepted, inside⟩),
      listAll_of_isDirectory (Disk.isDirectory_iff.mpr ⟨accepted, inside'⟩), shown, names]

end Store

end NodeTelemetry
