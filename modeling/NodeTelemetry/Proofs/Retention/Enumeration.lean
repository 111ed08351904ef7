import NodeTelemetry.Proofs.Retention.Listing
import NodeTelemetry.Proofs.Text.Order

/-!
# Listings in whatever order a directory is read

A system may give the names in a directory in any order. Whichever it is, a listing
shows every finished file that can be looked at once and nothing else, by time and
by the bytes of the id (`Store.listing_exact`). The order in which the names came
decides only which of the files of one time and id stands first. Once files have
gone, and the names that are left come in the order of before (`Disk.Follows`), a
listing shows what is left of the earlier one (`Store.listFrom_of_fewer`).

A file that stands in the directory, but to which no path of a length that the
system takes leads from there, is passed over (`Store.listing_of_long_path`).
-/

namespace NodeTelemetry

/-- What a system may answer when it is asked for the names in a directory: the names that stand there,
    each once and in any order. -/
def Disk.Enumerates (d : Disk) (p : Path) (answer : Except DiskError (List Name)) : Prop :=
  match d.readDirectory p with
  | .error e => answer = .error e
  | .ok names => ∃ found, answer = .ok found ∧ found.Perm names

/-- A later answer gives what is left of a directory in the order of an earlier one. -/
inductive Disk.Follows : Except DiskError (List Name) → Except DiskError (List Name) → Prop where
  | error (e : DiskError) : Follows (.error e) (.error e)
  | names {before left : List Name} (part : left.Sublist before) : Follows (.ok before) (.ok left)

theorem Disk.Follows.refl (answer : Except DiskError (List Name)) : Disk.Follows answer answer := by
  cases answer with
  | error e => exact .error e
  | ok names => exact .names (List.Sublist.refl names)

namespace Store

open Retention

variable {s : Store} {d d' : Disk}

/-- The listing of all instances, made from an answer of the system. -/
def listAllFrom (s : Store) (d : Disk) : Except DiskError (List Name) → Except StorageError (List SnapshotFile)
  | .error .notFound => .ok []
  | .error e => .error (.atPath s.dir e)
  | .ok names => .ok (sortFiles (names.filterMap (s.fileOfName? d)))

/-- The listing of one instance, made from an answer of the system. -/
def listFrom (s : Store) (instanceId : String) (d : Disk) (answer : Except DiskError (List Name)) :
    Except StorageError (List SnapshotFile) := do
  return (← s.listAllFrom d answer).filter (·.instanceId = instanceId)

theorem listAll_eq (s : Store) (d : Disk) : s.listAll d = s.listAllFrom d (d.readDirectory s.dir) := by
  unfold listAll listAllFrom
  cases d.readDirectory s.dir with
  | ok names => rfl
  | error e => cases e <;> rfl

theorem list_eq (s : Store) (id : String) (d : Disk) : s.list id d = s.listFrom id d (d.readDirectory s.dir) := by
  rw [list, listFrom, listAll_eq]

/-! ## What a listing is -/

/-- What one of two files comes before the other by: its time, then the bytes of its id. -/
def Precedes (a b : SnapshotFile) : Prop :=
  a.time < b.time ∨ a.time = b.time ∧ Text.toBytes a.instanceId ≤ Text.toBytes b.instanceId

theorem precedes_iff {a b : SnapshotFile} : Precedes a b ↔ listedBefore a b = true := by
  rw [listedBefore_iff, Precedes, Text.toBytes_le_iff]

/-- Files are listed: all finished files to which the system takes the path, each once and in order. -/
structure Lists (s : Store) (d : Disk) (files : List SnapshotFile) : Prop where
  complete : ∀ f, f ∈ files ↔ ∃ n, s.Stored d f.instanceId n f.time ∧ f.path = s.dir.child n
  once : (files.map (·.path)).Nodup
  ordered : files.Pairwise Precedes

/-- Names that are those of the directory, in any order, give a listing of it. -/
theorem lists_of_perm (inside : d.LeadsInto s.dir) {names : List Name} (all : names.Perm (d.children s.dir.location)) :
    s.Lists d (sortFiles (names.filterMap (s.fileOfName? d))) := by
  refine ⟨?_, ?_, ?_⟩
  · intro f
    rw [mem_sortFiles, List.mem_filterMap]
    constructor
    · rintro ⟨n, _, shown⟩
      obtain ⟨stored, same⟩ := (fileOfName?_eq_some_iff inside).mp shown
      exact ⟨n, stored, congrArg (·.path) same⟩
    · rintro ⟨n, stored, path⟩
      refine ⟨n, all.mem_iff.mpr (Disk.mem_children_of_file? stored.stands), ?_⟩
      refine (fileOfName?_eq_some_iff inside).mpr ⟨stored, ?_⟩
      rw [entry, ← path]
  · exact ((perm_sortFiles _).map _).nodup_iff.mpr (nodup_paths inside (all.nodup_iff.mpr (Disk.nodup_children d _)))
  · exact (sorted_sortFiles _).imp precedes_iff.mpr

/-! ## What the order of the names decides -/

/-- Listings of the same files have the same times and ids in the same order. -/
theorem keys_eq_of_perm {files files' : List SnapshotFile} (same : files.Perm files')
    (ordered : files.Pairwise Precedes) (ordered' : files'.Pairwise Precedes) :
    files.map (fun f => (f.time, f.instanceId)) = files'.map (fun f => (f.time, f.instanceId)) := by
  let le (a b : UInt64 × String) : Prop := a.1 < b.1 ∨ a.1 = b.1 ∧ Text.toBytes a.2 ≤ Text.toBytes b.2
  have sorted : (files.map fun f => (f.time, f.instanceId)).Pairwise le := List.pairwise_map.mpr ordered
  have sorted' : (files'.map fun f => (f.time, f.instanceId)).Pairwise le := List.pairwise_map.mpr ordered'
  refine List.Perm.eq_of_pairwise ?_ sorted sorted' (same.map _)
  rintro ⟨time, id⟩ ⟨time', id'⟩ _ _ before after
  rcases before with less | ⟨rfl, ids⟩
  · rcases after with less' | ⟨rfl, _⟩
    · exact absurd less' (UInt64.lt_asymm less)
    · exact absurd less (UInt64.lt_irrefl _)
  · rcases after with less' | ⟨_, ids'⟩
    · exact absurd less' (UInt64.lt_irrefl _)
    · rw [Text.toBytes_le_iff] at ids ids'
      exact congrArg (Prod.mk time) (String.le_antisymm ids ids')

theorem times_eq_of_perm {files files' : List SnapshotFile} (same : files.Perm files')
    (ordered : files.Pairwise Precedes) (ordered' : files'.Pairwise Precedes) :
    files.map (·.time) = files'.map (·.time) := by
  have keys := congrArg (List.map Prod.fst) (keys_eq_of_perm same ordered ordered')
  rwa [List.map_map, List.map_map] at keys

/-- Whatever order the names of a directory come in, the listing shows the same. -/
theorem perm_of_lists {files files' : List SnapshotFile} (listed : s.Lists d files) (listed' : s.Lists d files') :
    files.Perm files' := by
  refine (List.perm_ext_iff_of_nodup listed.once.of_map listed'.once.of_map).mpr fun f => ?_
  rw [listed.complete, listed'.complete]

/-! ## Answers of a system -/

theorem enumerates_readDirectory (d : Disk) (p : Path) : d.Enumerates p (d.readDirectory p) := by
  unfold Disk.Enumerates
  cases d.readDirectory p with
  | error e => rfl
  | ok names => exact ⟨names, rfl, List.Perm.refl _⟩

variable {answer : Except DiskError (List Name)}

theorem enumerates_ok_iff {d : Disk} {p : Path} {names : List Name} :
    d.Enumerates p (.ok names) ↔ d.isDirectory p = true ∧ names.Perm (d.children p.location) := by
  unfold Disk.Enumerates
  constructor
  · intro answered
    cases read : d.readDirectory p with
    | error e =>
      rw [read] at answered
      cases answered
    | ok all =>
      rw [read] at answered
      obtain ⟨_, same, perm⟩ := answered
      cases same
      obtain ⟨directory, rfl⟩ := Disk.readDirectory_eq_ok_iff.mp read
      exact ⟨directory, perm⟩
  · rintro ⟨directory, perm⟩
    rw [Disk.readDirectory_eq_ok_iff.mpr ⟨directory, rfl⟩]
    exact ⟨names, rfl, perm⟩

theorem listAllFrom_of_directory (answered : d.Enumerates s.dir answer) (directory : d.stat s.dir = .ok .directory) :
    ∃ files, s.listAllFrom d answer = .ok files ∧ s.Lists d files := by
  have leads : d.isDirectory s.dir = true := by simp [Disk.isDirectory, directory]
  unfold Disk.Enumerates at answered
  rw [Disk.readDirectory_eq_ok_iff.mpr ⟨leads, rfl⟩] at answered
  obtain ⟨names, rfl, all⟩ := answered
  exact ⟨_, rfl, lists_of_perm (Disk.isDirectory_iff.mp leads).2 all⟩

/-- What cannot be looked at cannot be read, for the same reason. -/
theorem readDirectory_of_stat {p : Path} {e : DiskError} (failed : d.stat p = .error e) :
    d.readDirectory p = .error e := by
  unfold Disk.stat at failed
  unfold Disk.readDirectory
  cases found : d.locate p with
  | error e' =>
    rw [found] at failed
    cases failed
    rfl
  | ok loc =>
    rw [found] at failed
    simp only [bind, Except.bind] at failed ⊢
    cases stands : d.get? loc with
    | none =>
      simp only [stands] at failed ⊢
      cases failed
      rfl
    | some entry =>
      simp only [stands] at failed
      cases failed

theorem readDirectory_of_file {p : Path} {bytes : List UInt8} (file : d.stat p = .ok (.file bytes)) :
    d.readDirectory p = .error .notDirectory := by
  obtain ⟨loc, found, stands⟩ := Except.bind_eq_ok_iff.mp file
  unfold Disk.readDirectory
  rw [found]
  split at stands
  · next entry there =>
    cases stands
    simp [bind, Except.bind, there]
  · cases stands

theorem listAllFrom_of_missing (answered : d.Enumerates s.dir answer) (missing : d.stat s.dir = .error .notFound) :
    s.listAllFrom d answer = .ok [] := by
  unfold Disk.Enumerates at answered
  rw [readDirectory_of_stat missing] at answered
  rw [answered]
  rfl

theorem listAllFrom_of_other (answered : d.Enumerates s.dir answer) (other : d.stat s.dir ≠ .ok .directory)
    (present : d.stat s.dir ≠ .error .notFound) : ∃ e, s.listAllFrom d answer = .error (.atPath s.dir e) := by
  unfold Disk.Enumerates at answered
  cases looked : d.stat s.dir with
  | error e =>
    rw [readDirectory_of_stat looked] at answered
    rw [answered]
    rw [looked] at present
    refine ⟨e, ?_⟩
    cases e with
    | notFound => exact absurd rfl present
    | _ => rfl
  | ok entry =>
    cases entry with
    | directory => exact absurd looked other
    | file bytes =>
      rw [readDirectory_of_file looked] at answered
      rw [answered]
      exact ⟨.notDirectory, rfl⟩

/-! ## Listings of one instance -/

section

variable {id : String} {files : List SnapshotFile}

theorem listFrom_ok (s : Store) (id : String) (d : Disk) (names : List Name) :
    s.listFrom id d (.ok names) =
      .ok ((sortFiles (names.filterMap (s.fileOfName? d))).filter (·.instanceId = id)) := rfl

/-- A listing is ordered, whatever order the names came in. -/
theorem ordered_listFrom {answer : Except DiskError (List Name)} (listed : s.listFrom id d answer = .ok files) :
    files.Pairwise Precedes := by
  cases answer with
  | ok names =>
    cases listed
    exact ((sorted_sortFiles _).filter _).imp precedes_iff.mpr
  | error e =>
    cases e <;> cases listed
    exact List.Pairwise.nil

/-- Whatever order the names came in, the same files of an instance are listed. -/
theorem exists_listFrom {answer answer' : Except DiskError (List Name)} (answered : d.Enumerates s.dir answer)
    (answered' : d.Enumerates s.dir answer') (listed : s.listFrom id d answer = .ok files) :
    ∃ files', s.listFrom id d answer' = .ok files' ∧ files'.Perm files := by
  unfold Disk.Enumerates at answered answered'
  cases read : d.readDirectory s.dir with
  | error e =>
    rw [read] at answered answered'
    rw [answered', ← answered]
    exact ⟨files, listed, List.Perm.refl _⟩
  | ok names =>
    rw [read] at answered answered'
    obtain ⟨found, rfl, all⟩ := answered
    obtain ⟨found', rfl, all'⟩ := answered'
    cases listed
    have same := (all'.trans all.symm).filterMap (s.fileOfName? d)
    exact ⟨_, rfl, (((perm_sortFiles _).trans same).trans (perm_sortFiles _).symm).filter _⟩

/-- What is made of fewer names is the same if nothing is made of the others. -/
theorem filterMap_of_sublist {α β : Type} {made : α → Option β} {left before : List α} (part : left.Sublist before)
    (distinct : before.Nodup) (others : ∀ a ∈ before, a ∉ left → made a = none) :
    left.filterMap made = before.filterMap made := by
  induction part with
  | slnil => rfl
  | cons a part ih =>
    obtain ⟨alone, distinct⟩ := List.nodup_cons.mp distinct
    rw [List.filterMap_cons_none (others a List.mem_cons_self fun among => alone (part.subset among))]
    exact ih distinct fun b among => others b (List.mem_cons_of_mem _ among)
  | cons_cons a part ih =>
    obtain ⟨alone, distinct⟩ := List.nodup_cons.mp distinct
    have rest := ih distinct fun b among absent => others b (List.mem_cons_of_mem _ among) fun member => by
      rcases List.mem_cons.mp member with rfl | member
      · exact alone among
      · exact absent member
    rw [List.filterMap_cons, List.filterMap_cons, rest]

/-- Where finished files have gone and the names that are left come in the order of before, a listing shows what
    is left of the earlier one. -/
theorem listFrom_of_fewer (inside : d.LeadsInto s.dir) (inside' : d'.LeadsInto s.dir)
    (fewer : ∀ n m, FileName.ofName? n = some m → d'.file? (n :: s.dir.location) ≠ none → d.file? (n :: s.dir.location) ≠ none)
    {before left : List Name} (part : left.Sublist before) (all : before.Perm (d.children s.dir.location))
    (all' : left.Perm (d'.children s.dir.location)) (listed : s.listFrom id d (.ok before) = .ok files) :
    s.listFrom id d' (.ok left) = .ok (files.filter fun f => d'.isFile f.path) := by
  have names : left.filterMap (s.fileOfName? d') = before.filterMap (s.fileOfName? d') := by
    refine filterMap_of_sublist part (all.nodup_iff.mpr (Disk.nodup_children d _)) fun n _ absent => ?_
    by_contra some
    exact absent (all'.mem_iff.mpr (mem_children_of_fewer inside inside' fewer some).1)
  cases listed
  rw [listFrom_ok, names, filterMap_fileOfName?_of_fewer inside fewer, filter_sortFiles, filter_sortFiles,
    filter_sortFiles, List.filter_filter, List.filter_filter]
  simp only [Bool.and_comm]

end

/-- For every disk and every order of enumeration. A listing shows exactly the finished files, ordered by
    time and by the bytes of the id; a missing directory is an empty one and every other path that leads to
    no directory is an error. The listing of an instance is what the listing of all shows of it, and two
    orders of enumeration give listings that differ in the order of files of one time and id at most. -/
theorem listing_exact (answered : d.Enumerates s.dir answer) :
    ((d.stat s.dir = .ok .directory → ∃ files, s.listAllFrom d answer = .ok files ∧ s.Lists d files) ∧
      (d.stat s.dir = .error .notFound → s.listAllFrom d answer = .ok []) ∧
      (d.stat s.dir ≠ .ok .directory → d.stat s.dir ≠ .error .notFound →
        ∃ e, s.listAllFrom d answer = .error (.atPath s.dir e))) ∧
    (∀ id, s.listFrom id d answer = (s.listAllFrom d answer).map (·.filter (·.instanceId = id))) ∧
    (∀ answer', d.Enumerates s.dir answer' → ∀ files files', s.listAllFrom d answer = .ok files →
      s.listAllFrom d answer' = .ok files' → files.Perm files' ∧
        files.map (fun f => (f.time, f.instanceId)) = files'.map (fun f => (f.time, f.instanceId))) ∧
    d.Enumerates s.dir (d.readDirectory s.dir) ∧ s.listAll d = s.listAllFrom d (d.readDirectory s.dir) ∧
      ∀ id, s.list id d = s.listFrom id d (d.readDirectory s.dir) := by
  refine ⟨⟨listAllFrom_of_directory answered, listAllFrom_of_missing answered, listAllFrom_of_other answered⟩, ?_, ?_,
    enumerates_readDirectory d s.dir, listAll_eq s d, fun id => list_eq s id d⟩
  · intro id
    unfold listFrom
    cases s.listAllFrom d answer <;> rfl
  · intro answer' answered' files files' listed listed'
    by_cases directory : d.stat s.dir = .ok .directory
    · obtain ⟨_, same, shown⟩ := listAllFrom_of_directory answered directory
      obtain ⟨_, same', shown'⟩ := listAllFrom_of_directory answered' directory
      cases same.symm.trans listed
      cases same'.symm.trans listed'
      have perm := perm_of_lists shown shown'
      exact ⟨perm, keys_eq_of_perm perm shown.ordered shown'.ordered⟩
    by_cases missing : d.stat s.dir = .error .notFound
    · cases (listAllFrom_of_missing answered missing).symm.trans listed
      cases (listAllFrom_of_missing answered' missing).symm.trans listed'
      exact ⟨List.Perm.refl _, rfl⟩
    · obtain ⟨e, failed⟩ := listAllFrom_of_other answered directory missing
      cases failed.symm.trans listed

/-- Two files of one time and id are listed in the order in which their names came, whatever came first. -/
theorem listing_of_reversed_names :
    let s : Store := ⟨⟨[.here]⟩⟩
    let make (name : String) : Procedure (Except DiskError Unit) := .perform (.create (Path.ofText name))
    let d := (do let _ ← make "05-a.json"; let _ ← make "5-a.json"; let _ ← make ".tmp-6-a.json"; make "7-A.json" :
      Procedure _).run .empty |>.2
    let answer := .ok (["7-A.json", "5-a.json", "05-a.json", ".tmp-6-a.json"].map Name.ofText)
    d.Enumerates s.dir answer ∧ d.stat s.dir = .ok .directory ∧
      (∃ files, s.listAllFrom d answer = .ok files ∧ s.Lists d files ∧
        files.map (·.path.text) = ["./5-a.json", "./05-a.json", "./7-A.json"]) ∧
      ∃ files, s.listAll d = .ok files ∧ files.map (·.path.text) = ["./05-a.json", "./5-a.json", "./7-A.json"] := by
  intro s make d answer
  have read : d.readDirectory s.dir =
      .ok ([".tmp-6-a.json", "05-a.json", "5-a.json", "7-A.json"].map Name.ofText) := by decide +kernel
  have answered : d.Enumerates s.dir answer := by
    unfold Disk.Enumerates
    rw [read]
    exact ⟨_, rfl, by decide +kernel⟩
  have directory : d.stat s.dir = .ok .directory := by decide +kernel
  obtain ⟨⟨shown, -, -⟩, -, -, -, -, -⟩ := listing_exact answered
  obtain ⟨files, listed, lists⟩ := shown directory
  have known : s.listAllFrom d answer = .ok [⟨Path.ofText "./5-a.json", "a", 5⟩, ⟨Path.ofText "./05-a.json", "a", 5⟩,
    ⟨Path.ofText "./7-A.json", "A", 7⟩] := by decide +kernel
  have known' : s.listAll d = .ok [⟨Path.ofText "./05-a.json", "a", 5⟩, ⟨Path.ofText "./5-a.json", "a", 5⟩,
    ⟨Path.ofText "./7-A.json", "A", 7⟩] := by decide +kernel
  cases listed.symm.trans known
  exact ⟨answered, directory, ⟨_, known, lists, by decide +kernel⟩, ⟨_, known', by decide +kernel⟩⟩

/-- A file whose path is longer than the system accepts stands in the directory, and is not listed. -/
theorem listing_of_long_path :
    let s : Store := ⟨⟨List.replicate 2048 .here⟩⟩
    let d := ((Procedure.perform (.create (Path.ofText "5-me.json"))).run .empty).2
    let n := Name.ofText "5-me.json"
    d.Enumerates s.dir (.ok [n]) ∧ d.stat s.dir = .ok .directory ∧ FileName.ofName? n = some ⟨5, "me"⟩ ∧
      d.file? (n :: s.dir.location) ≠ none ∧ s.listAllFrom d (.ok [n]) = .ok [] ∧ s.listAll d = .ok [] := by
  intro s d n
  have read : d.readDirectory s.dir = .ok [n] := by decide +kernel
  refine ⟨?_, ?_, ?_, ?_, ?_, ?_⟩
  · unfold Disk.Enumerates
    rw [read]
    exact ⟨[n], rfl, List.Perm.refl _⟩
  · decide +kernel
  · decide +kernel
  · decide +kernel
  · decide +kernel
  · decide +kernel

end Store

end NodeTelemetry
