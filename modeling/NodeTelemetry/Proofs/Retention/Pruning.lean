import NodeTelemetry.Proofs.Disk.Stopping
import NodeTelemetry.Proofs.Retention.Enumeration
import NodeTelemetry.Proofs.Retention.Removal

/-!
# What pruning leaves

Of the files that a listing shows, pruning leaves those that have not expired and
the last one, and nothing else on the disk changes (`Store.pruned_pruneFrom`). So
it makes no difference how often files are pruned, or with which cutoff first: what
is left is what the latest cutoff leaves (`Store.prune_exact`).

A system may give the names in a directory in any order, and in another one each
time. The order decides which file stands last among those of the latest time, and
so which of them is left when all have expired: the times that are left do not
depend on it. Where each answer gives what is left in the order of the one before,
the files do not depend on it either.
-/

namespace NodeTelemetry

/-- Which files are gone decides what the disk is like. -/
theorem Disk.Cleared.unique {d d' d'' : Disk} {gone : Location → Prop} (cleared : Disk.Cleared d d' gone)
    (cleared' : Disk.Cleared d d'' gone) : d' = d'' := by
  refine Disk.eq_of_same (cleared.directories.symm.trans cleared'.directories) fun l => ?_
  by_cases went : gone l
  · rw [cleared.removed l went, cleared'.removed l went]
  · rw [cleared.kept l went, cleared'.kept l went]

/-- Where files have gone, no name has come. -/
theorem Disk.Cleared.mem_children {d d' : Disk} {gone : Location → Prop} (cleared : Disk.Cleared d d' gone)
    {loc : Location} {n : Name} (there : n ∈ d'.children loc) : n ∈ d.children loc := by
  rw [Disk.mem_children_iff, Std.ExtTreeMap.mem_iff_isSome_getElem?, Disk.getElem?_entries] at there ⊢
  split at there
  · cases there
  · next free =>
    rw [if_neg free]
    by_cases went : gone (n :: loc)
    · obtain ⟨entry, stands⟩ := Option.isSome_iff_exists.mp there
      cases entry with
      | directory =>
        rw [(cleared.directories _).mpr stands]
        rfl
      | file bytes =>
        rw [← Disk.file?_eq_some_iff, cleared.removed _ went] at stands
        cases stands
    · rwa [Disk.get?_congr cleared.directories (cleared.kept _ went).symm]

namespace Store

open Retention

variable {s : Store} {id : String} {d : Disk} {files : List SnapshotFile}

/-- Pruning, where the system gives the names in the directory as `answer`. -/
def pruneFrom (s : Store) (instanceId : String) (now : UInt64) (keep : Span) (answer : Except DiskError (List Name)) :
    Procedure (Except StorageError Removal) := do
  match ← Procedure.observe (s.listFrom instanceId · answer) with
  | .error e => return .error e
  | .ok files => return .ok (← removeFiles (expired now keep files))

theorem run_pruneFrom_of_error {answer : Except DiskError (List Name)} {e : StorageError}
    (unlisted : s.listFrom id d answer = .error e) (now : UInt64) (keep : Span) :
    (s.pruneFrom id now keep answer).run d = (.error e, d) := by
  rw [pruneFrom, Procedure.run_bind, Procedure.run_observe, unlisted]
  rfl

/-! ## The choice -/

/-- The files of a listing that pruning with a cutoff leaves. -/
def spared (cutoff : UInt64) (files : List SnapshotFile) : List SnapshotFile :=
  files.dropLast.filter (cutoff ≤ ·.time) ++ files.getLast?.toList

theorem mem_expired_iff {now : UInt64} {keep : Span} {f : SnapshotFile} :
    f ∈ expired now keep files ↔ f ∈ files.dropLast ∧ f.time < cutoff now keep := by
  simp [expired]

theorem dropLast_spared (c : UInt64) (files : List SnapshotFile) :
    (spared c files).dropLast = files.dropLast.filter (c ≤ ·.time) := by
  cases last : files.getLast? with
  | none => simp [spared, List.getLast?_eq_none_iff.mp last]
  | some f => simp [spared, last]

theorem getLast?_spared (c : UInt64) (files : List SnapshotFile) : (spared c files).getLast? = files.getLast? := by
  cases last : files.getLast? with
  | none => simp [spared, List.getLast?_eq_none_iff.mp last]
  | some f => simp [spared, last]

theorem spared_sublist (c : UInt64) (files : List SnapshotFile) : (spared c files).Sublist files := by
  cases last : files.getLast? with
  | none => simp [spared, List.getLast?_eq_none_iff.mp last]
  | some f =>
    rw [spared, last]
    conv => rhs; rw [← List.dropLast_append_getLast? f last]
    exact List.filter_sublist.append (List.Sublist.refl _)

theorem mem_spared_iff {c : UInt64} {f : SnapshotFile} :
    f ∈ spared c files ↔ f ∈ files ∧ (c ≤ f.time ∨ files.getLast? = some f) := by
  cases last : files.getLast? with
  | none => simp [spared, List.getLast?_eq_none_iff.mp last]
  | some g =>
    have parts : f ∈ files ↔ f ∈ files.dropLast ∨ f = g := by
      conv => lhs; rw [← List.dropLast_append_getLast? g last]
      simp
    simp only [spared, last, parts, List.mem_append, List.mem_filter, decide_eq_true_eq, Option.toList_some,
      List.mem_singleton, Option.some.injEq]
    grind

/-- The expired files of a listing are those that are not spared. -/
theorem filter_notMem_expired (distinct : files.Nodup) (now : UInt64) (keep : Span) :
    files.filter (· ∉ expired now keep files) = spared (cutoff now keep) files := by
  cases last : files.getLast? with
  | none => simp [spared, List.getLast?_eq_none_iff.mp last]
  | some g =>
    have parts := List.dropLast_append_getLast? g last
    have alone : g ∉ files.dropLast := by
      rw [← parts] at distinct
      exact fun member => (List.disjoint_of_nodup_append distinct) member List.mem_cons_self
    have early :
        files.dropLast.filter (· ∉ expired now keep files) = files.dropLast.filter (cutoff now keep ≤ ·.time) := by
      refine List.filter_congr fun f member => ?_
      simp [mem_expired_iff, member]
    have late : [g].filter (· ∉ expired now keep files) = [g] := by
      simp [mem_expired_iff, alone]
    calc files.filter (· ∉ expired now keep files)
        = (files.dropLast ++ [g]).filter (· ∉ expired now keep files) := by rw [parts]
      _ = files.dropLast.filter (· ∉ expired now keep files) ++ [g].filter (· ∉ expired now keep files) :=
        List.filter_append ..
      _ = spared (cutoff now keep) files := by rw [early, late, spared, last]; rfl

theorem length_expired (now : UInt64) (keep : Span) (files : List SnapshotFile) :
    (expired now keep files).length = files.length - (spared (cutoff now keep) files).length := by
  cases last : files.getLast? with
  | none => simp [spared, expired, List.getLast?_eq_none_iff.mp last]
  | some g =>
    have whole : files.length = files.dropLast.length + 1 := by
      conv => lhs; rw [← List.dropLast_append_getLast? g last]
      simp
    have parted := List.length_eq_length_filter_add (l := files.dropLast) (·.time < cutoff now keep)
    simp only [← decide_not, UInt64.not_lt] at parted
    simp only [expired, spared, last, List.length_append, Option.toList_some, List.length_singleton]
    omega

/-- Sparing files with one cutoff and then with another is sparing them with the later one. -/
theorem spared_spared {c c' c'' : UInt64} (later : c''.toNat = max c.toNat c'.toNat) (files : List SnapshotFile) :
    spared c' (spared c files) = spared c'' files := by
  rw [spared, dropLast_spared, getLast?_spared, List.filter_filter, spared]
  have both (f : SnapshotFile) : (decide (c' ≤ f.time) && decide (c ≤ f.time)) = decide (c'' ≤ f.time) := by
    rw [← Bool.decide_and, decide_eq_decide, UInt64.le_iff_toNat_le, UInt64.le_iff_toNat_le, UInt64.le_iff_toNat_le,
      later]
    omega
  simp only [both]

theorem times_spared (c : UInt64) (files : List SnapshotFile) :
    (spared c files).map (·.time) =
      (files.map (·.time)).dropLast.filter (c ≤ ·) ++ (files.map (·.time)).getLast?.toList := by
  rw [spared, List.map_append, ← List.map_dropLast, List.filter_map, List.getLast?_map]
  cases files.getLast? <;> rfl

/-- Nothing has expired among files that a later cutoff has spared. -/
theorem expired_spared {now : UInt64} {keep : Span} {c : UInt64} (sooner : cutoff now keep ≤ c)
    {left : List SnapshotFile} (times : left.map (·.time) = (spared c files).map (·.time)) :
    expired now keep left = [] := by
  refine List.eq_nil_iff_forall_not_mem.mpr fun f member => ?_
  obtain ⟨member, late⟩ := mem_expired_iff.mp member
  have among : f.time ∈ (spared c files).dropLast.map (·.time) := by
    rw [List.map_dropLast, ← times, ← List.map_dropLast]
    exact List.mem_map_of_mem member
  rw [dropLast_spared] at among
  obtain ⟨g, fresh, same⟩ := List.mem_map.mp among
  have fresh := decide_eq_true_eq.mp (List.mem_filter.mp fresh).2
  exact UInt64.not_lt.mpr (UInt64.le_trans sooner (same ▸ fresh)) late

/-! ## What is left on the disk -/

/-- Which of the files that a listing shows are still files after some of them were removed. -/
theorem isFile_removeFiles (directory : d.isDirectory s.dir = true) (listed : s.list id d = .ok files)
    {chosen : List SnapshotFile} (part : chosen.Subperm files) {f : SnapshotFile} (member : f ∈ files) :
    ((removeFiles chosen).run d).2.isFile f.path = decide (f ∉ chosen) := by
  have cleared := removeFiles_cleared chosen d
  have directory' := Disk.isDirectory_mono cleared.directories.keeps directory
  obtain ⟨_, n, stored, same⟩ := (mem_list_iff listed).mp member
  have path : f.path = s.dir.child n := congrArg (·.path) same
  have inside' := (Disk.isDirectory_iff.mp directory').2
  have stays :
      ((removeFiles chosen).run d).2.isFile f.path = true ↔ s.Stands id ((removeFiles chosen).run d).2 f.path := by
    have down := FileName.descends_of_ofName? stored.read
    rw [path, stands_child_iff stored.read stored.takes, Disk.isFile_child_iff down]
    simp [stored.takes, inside']
  have chose : f.path ∈ chosen.map (·.path) ↔ f ∈ chosen := by
    refine ⟨fun among => ?_, fun among => List.mem_map_of_mem among⟩
    obtain ⟨g, among, again⟩ := List.mem_map.mp among
    rwa [← List.inj_on_of_nodup_map (nodup_list listed) (part.subset among) member again]
  have stood : s.Stands id d f.path := ⟨n, f.time, stored, path⟩
  rw [Bool.eq_iff_iff, stays, (struck_of_list listed part).1.left, chose]
  simp [stood]

/-- After some of the files that a listing shows were removed, it shows the others. -/
theorem list_removeFiles {chosen : List SnapshotFile} (listed : s.list id d = .ok files) (part : chosen.Subperm files) :
    s.list id ((removeFiles chosen).run d).2 = .ok (files.filter (· ∉ chosen)) := by
  cases directory : d.isDirectory s.dir with
  | false =>
    cases list_of_not_isDirectory directory listed
    cases List.subperm_nil.mp part
    exact listed
  | true =>
    have cleared := removeFiles_cleared chosen d
    have directory' := Disk.isDirectory_mono cleared.directories.keeps directory
    rw [list_of_fewer directory directory' (fun _ _ _ stands => (cleared.survived stands).2) listed]
    exact congrArg Except.ok (List.filter_congr fun f member => isFile_removeFiles directory listed part member)

/-- The names that are left in a directory keep their order when files are removed. -/
theorem follows_removeFiles {chosen : List SnapshotFile} (listed : s.list id d = .ok files)
    (part : chosen.Subperm files) :
    Disk.Follows (d.readDirectory s.dir) (((removeFiles chosen).run d).2.readDirectory s.dir) := by
  cases directory : d.isDirectory s.dir with
  | false =>
    cases list_of_not_isDirectory directory listed
    cases List.subperm_nil.mp part
    exact Disk.Follows.refl _
  | true =>
    have cleared := removeFiles_cleared chosen d
    have directory' := Disk.isDirectory_mono cleared.directories.keeps directory
    rw [Disk.readDirectory_eq_ok_iff.mpr ⟨directory, rfl⟩, Disk.readDirectory_eq_ok_iff.mpr ⟨directory', rfl⟩]
    exact .names (Disk.children_sublist fun _ there => cleared.mem_children there)

/-- What pruning with a cutoff has made of a disk, where `files` were listed from an answer of the system and
    `kept` are left. -/
structure Pruned (s : Store) (id : String) (cutoff : UInt64) (answer : Except DiskError (List Name)) (d d' : Disk)
    (files kept : List SnapshotFile) : Prop where
  /-- They are listed in whatever order the names come, and as they were if the names keep their order. -/
  listed : ∀ answer', d'.Enumerates s.dir answer' → ∃ left, s.listFrom id d' answer' = .ok left ∧ left.Perm kept ∧
    (Disk.Follows answer answer' → left = kept)
  part : kept.Sublist files
  stays : ∀ f ∈ files, f ∈ kept ↔ cutoff ≤ f.time ∨ files.getLast? = some f
  last : kept.getLast? = files.getLast?
  latest : ∀ f ∈ files, ∀ g, files.getLast? = some g → f.time ≤ g.time
  bytes : ∀ f ∈ kept, d'.read f.path = d.read f.path
  others : ∀ l, (∀ f ∈ files, f ∉ kept → d.locate f.path ≠ .ok l) → d'.get? l = d.get? l

/-- Two disks show files of the same times, whatever orders the names come in. -/
def SameTimes (s : Store) (id : String) (d d' : Disk) : Prop :=
  ∀ answer answer', d.Enumerates s.dir answer → d'.Enumerates s.dir answer' →
    ∃ files files', s.listFrom id d answer = .ok files ∧ s.listFrom id d' answer' = .ok files' ∧
      files.map (·.time) = files'.map (·.time)

theorem latest_of_ordered (ordered : files.Pairwise Precedes) :
    ∀ f ∈ files, ∀ g, files.getLast? = some g → f.time ≤ g.time := by
  intro f member g last
  rw [← List.dropLast_append_getLast? g last] at ordered member
  rcases List.mem_append.mp member with earlier | same
  · have before := precedes_iff.mp ((List.pairwise_append.mp ordered).2.2 f earlier g List.mem_cons_self)
    exact UInt64.le_iff_toNat_le.mpr (time_le_of_listedBefore before)
  · rw [List.mem_singleton.mp same]
    exact UInt64.le_refl _

section

variable {answer answer' answer'' : Except DiskError (List Name)} (answered : d.Enumerates s.dir answer)
  (listed : s.listFrom id d answer = .ok files)

include answered listed

/-- What is listed from an answer is what the listing in order shows, in another order. -/
theorem exists_list : ∃ shown, s.list id d = .ok shown ∧ files.Perm shown := by
  obtain ⟨shown, found, same⟩ := exists_listFrom answered (enumerates_readDirectory d s.dir) listed
  exact ⟨shown, (list_eq s id d).trans found, same.symm⟩

/-- What pruning does while the directory can be listed. -/
theorem run_pruneFrom (now : UInt64) (keep : Span) :
    (s.pruneFrom id now keep answer).run d =
      (.ok ⟨(expired now keep files).length, []⟩, ((removeFiles (expired now keep files)).run d).2) := by
  obtain ⟨shown, listed', same⟩ := exists_list answered listed
  have part := (expired_sublist now keep files).subperm.trans same.subperm
  rw [pruneFrom, Procedure.run_bind, Procedure.run_observe, listed]
  simp only [Procedure.run_bind, (struck_of_list listed' part).2]
  rfl

/-- After some of the files that were listed were removed, the others are listed, in the same order if the
    names come in the same order. -/
theorem listFrom_removeFiles {chosen : List SnapshotFile} (part : chosen.Subperm files)
    (answered' : ((removeFiles chosen).run d).2.Enumerates s.dir answer') :
    ∃ left, s.listFrom id ((removeFiles chosen).run d).2 answer' = .ok left ∧ left.Perm (files.filter (· ∉ chosen)) ∧
      (Disk.Follows answer answer' → left = files.filter (· ∉ chosen)) := by
  obtain ⟨shown, listed', same⟩ := exists_list answered listed
  have part' := part.trans same.subperm
  have after := list_removeFiles listed' part'
  rw [list_eq] at after
  obtain ⟨left, found, perm⟩ := exists_listFrom (enumerates_readDirectory _ s.dir) answered' after
  refine ⟨left, found, perm.trans (same.symm.filter _), fun follows => ?_⟩
  cases follows with
  | error e =>
    cases e with
    | notFound =>
      cases listed
      cases found
      rfl
    | _ => cases listed
  | names less =>
    obtain ⟨directory, all⟩ := enumerates_ok_iff.mp answered
    obtain ⟨directory', all'⟩ := enumerates_ok_iff.mp answered'
    have cleared := removeFiles_cleared chosen d
    have inOrder := listFrom_of_fewer (Disk.isDirectory_iff.mp directory).2 (Disk.isDirectory_iff.mp directory').2
      (fun _ _ _ stands => (cleared.survived stands).2) less all all' listed
    cases found.symm.trans inOrder
    exact List.filter_congr fun f member => isFile_removeFiles directory listed' part' (same.subset member)

theorem mem_listFrom_iff {f : SnapshotFile} :
    f ∈ files ↔ d.isDirectory s.dir = true ∧ ∃ n, s.Stored d id n f.time ∧ f = s.entry n ⟨f.time, id⟩ := by
  obtain ⟨shown, listed', same⟩ := exists_list answered listed
  rw [same.mem_iff, mem_list_iff listed']

theorem nodup_listFrom : (files.map (·.path)).Nodup := by
  obtain ⟨shown, listed', same⟩ := exists_list answered listed
  exact (same.map _).nodup_iff.mpr (nodup_list listed')

/-- The path of a file that a listing shows leads to where the file stands. -/
theorem located_of_listFrom {f : SnapshotFile} (member : f ∈ files) : ∃ l, d.locate f.path = .ok l := by
  obtain ⟨directory, n, stored, entry⟩ := (mem_listFrom_iff answered listed).mp member
  have path : f.path = s.dir.child n := congrArg (·.path) entry
  rw [path]
  have down := FileName.descends_of_ofName? stored.read
  exact ⟨_, (Disk.locate_child_eq_ok_iff down).mpr ⟨stored.takes, (Disk.isDirectory_iff.mp directory).2, rfl⟩⟩

/-- Different files of a listing stand at different locations. -/
theorem eq_of_located {f g : SnapshotFile} (member : f ∈ files) (member' : g ∈ files) {l : Location}
    (found : d.locate f.path = .ok l) (found' : d.locate g.path = .ok l) : g = f := by
  obtain ⟨_, n, stored, entry⟩ := (mem_listFrom_iff answered listed).mp member
  obtain ⟨_, m, stored', entry'⟩ := (mem_listFrom_iff answered listed).mp member'
  have path : f.path = s.dir.child n := congrArg (·.path) entry
  have path' : g.path = s.dir.child m := congrArg (·.path) entry'
  rw [path, Disk.locate_child_eq_ok_iff (FileName.descends_of_ofName? stored.read)] at found
  rw [path', Disk.locate_child_eq_ok_iff (FileName.descends_of_ofName? stored'.read)] at found'
  have names : m = n := (List.cons.inj (found'.2.2.symm.trans found.2.2)).1
  exact List.inj_on_of_nodup_map (nodup_listFrom answered listed) member' member (by rw [path, path', names])

/-- Pruning with a cutoff leaves the files that the cutoff spares. -/
theorem pruned_pruneFrom (now : UInt64) (keep : Span) :
    s.Pruned id (cutoff now keep) answer d ((s.pruneFrom id now keep answer).run d).2 files
      (spared (cutoff now keep) files) := by
  have part := expired_sublist now keep files
  have distinct : files.Nodup := (nodup_listFrom answered listed).of_map _
  have left := filter_notMem_expired distinct now keep
  have mem_left {f : SnapshotFile} : f ∈ spared (cutoff now keep) files ↔ f ∈ files ∧ f ∉ expired now keep files := by
    rw [← left, List.mem_filter, decide_eq_true_eq]
  have cleared := removeFiles_cleared (expired now keep files) d
  rw [run_pruneFrom answered listed]
  refine ⟨?_, spared_sublist _ files, ?_, getLast?_spared _ files, latest_of_ordered (ordered_listFrom listed), ?_, ?_⟩
  · intro answer' answered'
    rw [← left]
    exact listFrom_removeFiles answered listed part.subperm answered'
  · intro f member
    rw [mem_spared_iff]
    exact and_iff_right member
  · intro f among
    obtain ⟨member, stays⟩ := mem_left.mp among
    obtain ⟨l, found⟩ := located_of_listFrom answered listed member
    have found' := (Disk.locate_congr cleared.directories).mp found
    have same : ((removeFiles (expired now keep files)).run d).2.get? l = d.get? l := by
      refine Disk.get?_congr cleared.directories.symm (cleared.kept l ?_)
      rintro ⟨g, expired, found'⟩
      exact stays (eq_of_located answered listed member (part.subset expired) found found' ▸ expired)
    simp only [Disk.read, Disk.stat, found, found', bind, Except.bind, same]
  · intro l others
    refine Disk.get?_congr cleared.directories.symm (cleared.kept l ?_)
    rintro ⟨f, among, found⟩
    exact others f (part.subset among) (fun stays => (mem_left.mp stays).2 among) found

/-- Whatever order the names come in, a pruned disk shows the times that the cutoff spares. -/
theorem times_pruneFrom (now : UInt64) (keep : Span)
    (answered' : ((s.pruneFrom id now keep answer).run d).2.Enumerates s.dir answer') :
    ∃ left, s.listFrom id ((s.pruneFrom id now keep answer).run d).2 answer' = .ok left ∧
      left.map (·.time) = (spared (cutoff now keep) files).map (·.time) := by
  obtain ⟨left, listed', perm, -⟩ := (pruned_pruneFrom answered listed now keep).listed answer' answered'
  have ordered := (ordered_listFrom listed).sublist (spared_sublist (cutoff now keep) files)
  exact ⟨left, listed', times_eq_of_perm perm (ordered_listFrom listed') ordered⟩

/-- Pruning again with a cutoff that is not later finds nothing to remove. -/
theorem pruneFrom_again {now now' : UInt64} {keep keep' : Span} (sooner : cutoff now' keep' ≤ cutoff now keep)
    (answered' : ((s.pruneFrom id now keep answer).run d).2.Enumerates s.dir answer') :
    (s.pruneFrom id now' keep' answer').run ((s.pruneFrom id now keep answer).run d).2 =
      (.ok ⟨0, []⟩, ((s.pruneFrom id now keep answer).run d).2) := by
  obtain ⟨left, listed', times⟩ := times_pruneFrom answered listed now keep answered'
  rw [run_pruneFrom answered' listed', expired_spared sooner times]
  rfl

/-- Pruning with one cutoff and then with another leaves the times that pruning with the later one does. -/
theorem sameTimes_pruneFrom {now now' now'' : UInt64} {keep keep' keep'' : Span}
    (later : (cutoff now'' keep'').toNat = max (cutoff now keep).toNat (cutoff now' keep').toNat)
    (answered' : ((s.pruneFrom id now keep answer).run d).2.Enumerates s.dir answer')
    (answered'' : d.Enumerates s.dir answer'') :
    s.SameTimes id ((s.pruneFrom id now' keep' answer').run ((s.pruneFrom id now keep answer).run d).2).2
      ((s.pruneFrom id now'' keep'' answer'').run d).2 := by
  intro shown shown' seen seen'
  obtain ⟨between, listed', first⟩ := times_pruneFrom answered listed now keep answered'
  obtain ⟨others, listed'', same⟩ := exists_listFrom answered answered'' listed
  obtain ⟨left, found, second⟩ := times_pruneFrom answered' listed' now' keep' seen
  obtain ⟨left', found', once⟩ := times_pruneFrom answered'' listed'' now'' keep'' seen'
  refine ⟨left, left', found, found', ?_⟩
  calc left.map (·.time)
      = (spared (cutoff now' keep') between).map (·.time) := second
    _ = (spared (cutoff now' keep') (spared (cutoff now keep) files)).map (·.time) := by
      rw [times_spared, first, ← times_spared]
    _ = (spared (cutoff now'' keep'') files).map (·.time) := by rw [spared_spared later]
    _ = (spared (cutoff now'' keep'') others).map (·.time) := by
      rw [times_spared, times_spared, times_eq_of_perm same (ordered_listFrom listed'') (ordered_listFrom listed)]
    _ = left'.map (·.time) := once.symm

/-- Where the names keep their order, pruning with two cutoffs leaves the disk as pruning with the later one. -/
theorem pruneFrom_pruneFrom {now now' now'' : UInt64} {keep keep' keep'' : Span}
    (later : (cutoff now'' keep'').toNat = max (cutoff now keep).toNat (cutoff now' keep').toNat)
    (answered' : ((s.pruneFrom id now keep answer).run d).2.Enumerates s.dir answer')
    (follows : Disk.Follows answer answer') :
    ((s.pruneFrom id now' keep' answer').run ((s.pruneFrom id now keep answer).run d).2).2 =
      ((s.pruneFrom id now'' keep'' answer).run d).2 := by
  obtain ⟨left, listed', -, inOrder⟩ := (pruned_pruneFrom answered listed now keep).listed answer' answered'
  cases inOrder follows
  rw [run_pruneFrom answered' listed', run_pruneFrom answered listed, run_pruneFrom answered listed]
  have first := removeFiles_cleared (expired now keep files) d
  have second := removeFiles_cleared (expired now' keep' (spared (cutoff now keep) files))
    ((removeFiles (expired now keep files)).run d).2
  refine ((first.trans second).congr fun l => ?_).unique (removeFiles_cleared (expired now'' keep'' files) d)
  -- a file expires at the later cutoff when it does at the first, or at the second after the first spared it
  have either (f : SnapshotFile) : f ∈ expired now'' keep'' files ↔
      f ∈ expired now keep files ∨ f ∈ expired now' keep' (spared (cutoff now keep) files) := by
    rw [mem_expired_iff, mem_expired_iff, mem_expired_iff, dropLast_spared, List.mem_filter, decide_eq_true_eq,
      UInt64.lt_iff_toNat_lt, UInt64.lt_iff_toNat_lt, UInt64.lt_iff_toNat_lt, UInt64.le_iff_toNat_le, later]
    constructor
    · rintro ⟨member, early⟩
      by_cases sooner : f.time.toNat < (cutoff now keep).toNat
      · exact .inl ⟨member, sooner⟩
      · exact .inr ⟨⟨member, by omega⟩, by omega⟩
    · rintro (⟨member, early⟩ | ⟨⟨member, _⟩, early⟩) <;> exact ⟨member, by omega⟩
  simp only [either, ← Disk.locate_congr first.directories, or_and_right, exists_or]

/-- Pruning leaves the names that are left in their order. -/
theorem follows_pruneFrom (now : UInt64) (keep : Span) :
    Disk.Follows (d.readDirectory s.dir) (((s.pruneFrom id now keep answer).run d).2.readDirectory s.dir) := by
  obtain ⟨shown, listed', same⟩ := exists_list answered listed
  rw [run_pruneFrom answered listed]
  exact follows_removeFiles listed' ((expired_sublist now keep files).subperm.trans same.subperm)

end

/-- Pruning goes by the names in order. -/
theorem run_prune_eq (s : Store) (id : String) (now : UInt64) (keep : Span) (d : Disk) :
    (s.prune id now keep).run d = (s.pruneFrom id now keep (d.readDirectory s.dir)).run d := by
  have same := list_eq s id d
  cases listed : s.listFrom id d (d.readDirectory s.dir) with
  | error e => rw [run_prune_of_error (same.trans listed), run_pruneFrom_of_error listed]
  | ok files => rw [run_prune (same.trans listed), run_pruneFrom (enumerates_readDirectory d s.dir) listed]

/-- For every order in which the names come. Pruning leaves the files that its cutoff spares and one of the
    latest, counts what it removed and changes nothing else; again with a cutoff that is not later it removes
    nothing. Two prunes leave the times that one with the later cutoff does, and the same disk if the names keep
    their order, as they do for `prune`. -/
theorem prune_exact {answer : Except DiskError (List Name)} (answered : d.Enumerates s.dir answer)
    (listed : s.listFrom id d answer = .ok files) :
    (∀ now keep,
      let pruned := (s.pruneFrom id now keep answer).run d
      (cutoff now keep).toNat = now.toNat - keep.millis ∧
      ∃ kept, s.Pruned id (cutoff now keep) answer d pruned.2 files kept ∧
        pruned.1 = .ok ⟨files.length - kept.length, []⟩) ∧
    (∀ now keep now' keep' answer', cutoff now' keep' ≤ cutoff now keep →
      let pruned := ((s.pruneFrom id now keep answer).run d).2
      pruned.Enumerates s.dir answer' → (s.pruneFrom id now' keep' answer').run pruned = (.ok ⟨0, []⟩, pruned)) ∧
    (∀ now keep now' keep' now'' keep'' answer' answer'',
      (cutoff now'' keep'').toNat = max (cutoff now keep).toNat (cutoff now' keep').toNat →
      let pruned := ((s.pruneFrom id now keep answer).run d).2
      let twice := ((s.pruneFrom id now' keep' answer').run pruned).2
      let once := ((s.pruneFrom id now'' keep'' answer'').run d).2
      pruned.Enumerates s.dir answer' → d.Enumerates s.dir answer'' →
        s.SameTimes id twice once ∧ (answer'' = answer → Disk.Follows answer answer' → twice = once)) ∧
    (∀ now keep d', (s.prune id now keep).run d' = (s.pruneFrom id now keep (d'.readDirectory s.dir)).run d') ∧
    ∀ now keep, Disk.Follows (d.readDirectory s.dir) (((s.prune id now keep).run d).2.readDirectory s.dir) := by
  refine ⟨?_, ?_, ?_, ?_, ?_⟩
  · intro now keep pruned
    refine ⟨?_, spared (cutoff now keep) files, pruned_pruneFrom answered listed now keep, ?_⟩
    · have := now.toNat_lt
      rw [toNat_cutoff]
      omega
    · show ((s.pruneFrom id now keep answer).run d).1 = _
      rw [run_pruneFrom answered listed, length_expired]
  · intro now keep now' keep' answer' sooner pruned answered'
    exact pruneFrom_again answered listed sooner answered'
  · intro now keep now' keep' now'' keep'' answer' answer'' later pruned twice once answered' answered''
    refine ⟨sameTimes_pruneFrom answered listed later answered' answered'', ?_⟩
    rintro rfl follows
    exact pruneFrom_pruneFrom answered listed later answered' follows
  · exact fun now keep d' => run_prune_eq s id now keep d'
  · intro now keep
    obtain ⟨shown, listed', -⟩ := exists_list answered listed
    rw [list_eq] at listed'
    rw [run_prune_eq]
    exact follows_pruneFrom (enumerates_readDirectory d s.dir) listed' now keep

/-- Two files of one time are the latest. Which of them pruning leaves is a matter of the order in which their
    names come; pruning again leaves that one. -/
theorem prune_exact_of_tie :
    let s : Store := ⟨⟨[.here]⟩⟩
    let make (name : String) : Procedure (Except DiskError Unit) := .perform (.create (Path.ofText name))
    let d := (do let _ ← make "3-me.json"; let _ ← make "7-me.json"; make "007-me.json" : Procedure _).run .empty |>.2
    let answer := .ok (["7-me.json", "3-me.json", "007-me.json"].map Name.ofText)
    let pruned := (s.pruneFrom "me" 9 ⟨0⟩ answer).run d
    d.Enumerates s.dir answer ∧ s.list "me" pruned.2 = .ok [⟨Path.ofText "./007-me.json", "me", 7⟩] ∧
      pruned.1 = .ok ⟨2, []⟩ ∧
      (∀ answer', pruned.2.Enumerates s.dir answer' →
        (s.pruneFrom "me" 9 ⟨0⟩ answer').run pruned.2 = (.ok ⟨0, []⟩, pruned.2)) ∧
      s.list "me" ((s.prune "me" 9 ⟨0⟩).run d).2 = .ok [⟨Path.ofText "./7-me.json", "me", 7⟩] := by
  intro s make d answer pruned
  have answered : d.Enumerates s.dir answer := enumerates_ok_iff.mpr ⟨by decide +kernel, by decide +kernel⟩
  have listed : s.listFrom "me" d answer = .ok [⟨Path.ofText "./3-me.json", "me", 3⟩,
    ⟨Path.ofText "./7-me.json", "me", 7⟩, ⟨Path.ofText "./007-me.json", "me", 7⟩] := by decide +kernel
  obtain ⟨leaves, again, -⟩ := prune_exact answered listed
  obtain ⟨-, kept, left, counted⟩ := leaves 9 ⟨0⟩
  have counted : pruned.1 = .ok ⟨3 - kept.length, []⟩ := counted
  have shown : s.list "me" pruned.2 = .ok [⟨Path.ofText "./007-me.json", "me", 7⟩] := by decide +kernel
  obtain ⟨found, same, perm, -⟩ := left.listed _ (enumerates_readDirectory pruned.2 s.dir)
  rw [← list_eq] at same
  cases same.symm.trans shown
  refine ⟨answered, shown, ?_, fun answer' answered' => again 9 ⟨0⟩ 9 ⟨0⟩ answer' (UInt64.le_refl _) answered', ?_⟩
  · rw [counted, ← perm.length_eq]
    rfl
  · decide +kernel

end Store

end NodeTelemetry
