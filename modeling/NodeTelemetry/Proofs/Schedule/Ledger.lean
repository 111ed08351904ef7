import NodeTelemetry.Proofs.Retention.Removal
import NodeTelemetry.Proofs.Retention.Window
import NodeTelemetry.Proofs.Schedule.Bound

/-!
# The counters as a ledger

Every file that an instance has had in a directory is entered once, when it is
found there at the start or written, and struck out once, when a turn removes it.
So at any time each of them still stands, was pruned or was purged, and the
counters say how many (`Booked.agrees`). What one turn does comes first: it writes
at most one file, and then removes what it counts (`World.exists_counts`).

The directory can be listed at the start, or nothing stands where it will be
(`Store.Listable`). That leaves out a path that goes up with `..` out of a missing
directory while files stand where it will lead: a write makes the missing one and
uncovers them, and they would be pruned and purged without having been entered.
-/

namespace NodeTelemetry

open Retention

/-- The files that an instance has had, each with the number of the turn that wrote it. Those that stood in the
    directory at the start have the number 0. -/
def filesEver (first : List SnapshotFile) : List Iteration → List (Nat × Path)
  | [] => first.map (0, ·.path)
  | i :: past => i.file?.toList.map (past.length + 1, ·) ++ filesEver first past

/-- What has become of the files of an instance. -/
structure Ledger where
  present : List (Nat × Path)
  pruned : List (Nat × Path)
  purged : List (Nat × Path)

open Classical in
/-- The ledger after a turn. A file that was written is entered. What the turn has removed is struck out, as
    purged if it ended an activation and as pruned if not. -/
noncomputable def Ledger.turn (l : Ledger) (s : Store) (id : String) (number : Nat) (i : Iteration) (left : Disk) :
    Ledger :=
  let entered := i.file?.toList.map (number, ·) ++ l.present
  let gone := entered.filter fun entry => ¬ s.Stands id left entry.2
  { present := entered.filter fun entry => s.Stands id left entry.2
    pruned := if i.transition = .deactivated then l.pruned else gone ++ l.pruned
    purged := if i.transition = .deactivated then gone ++ l.purged else l.purged }

/-- A turn enters a file and moves others, and loses none. -/
theorem Ledger.perm_turn (l : Ledger) (s : Store) (id : String) (number : Nat) (i : Iteration) (left : Disk) :
    ((l.turn s id number i left).present ++ (l.turn s id number i left).pruned ++ (l.turn s id number i left).purged).Perm
      (i.file?.toList.map (number, ·) ++ (l.present ++ l.pruned ++ l.purged)) := by
  classical
  rw [← List.append_assoc, ← List.append_assoc]
  simp only [turn, decide_not]
  generalize i.file?.toList.map (number, ·) ++ l.present = entered
  have parted := List.filter_append_perm (fun entry : Nat × Path => decide (s.Stands id left entry.2)) entered
  generalize entered.filter (fun entry => decide (s.Stands id left entry.2)) = present at parted ⊢
  generalize entered.filter (fun entry => !decide (s.Stands id left entry.2)) = gone at parted ⊢
  have whole : (present ++ gone ++ (l.pruned ++ l.purged)).Perm (entered ++ l.pruned ++ l.purged) := by
    rw [List.append_assoc entered]
    exact parted.append_right _
  split
  · refine List.Perm.trans ?_ whole
    rw [List.append_assoc, List.append_assoc]
    exact (List.perm_append_comm_assoc l.pruned gone l.purged).append_left present
  · simpa only [List.append_assoc] using whole

/-- The runs from a world in which certain files stand, with the ledger of its instance. -/
inductive Booked (touches : Disk → Disk → Prop) (start : World) (first : List SnapshotFile) :
    Ledger → List Iteration → World → Prop where
  | start : Booked touches start first ⟨first.map (0, ·.path), [], []⟩ [] start
  | happen {l : Ledger} {past : List Iteration} {w : World} (booked : Booked touches start first l past w) (e : Event) :
    Booked touches start first l past (w.after e)
  | others {l : Ledger} {past : List Iteration} {w : World} (booked : Booked touches start first l past w) {d : Disk}
    (touched : touches w.disk d) : Booked touches start first l past { w with disk := d }
  | turn {l : Ledger} {past : List Iteration} {w : World} (booked : Booked touches start first l past w)
    (running : w.loop.phase = .running) (signalled : Bool) :
    Booked touches start first
      (l.turn start.store start.instanceId (past.length + 1) w.iteration (w.turn signalled).disk)
      (w.iteration :: past) (w.turn signalled)

theorem Run.exists_booked {touches : Disk → Disk → Prop} {start w : World} {past : List Iteration}
    (run : Run touches start past w) (first : List SnapshotFile) : ∃ l, Booked touches start first l past w := by
  induction run with
  | start => exact ⟨_, .start⟩
  | happen _ e ih => exact ih.imp fun _ booked => booked.happen e
  | others _ touched ih => exact ih.imp fun _ booked => booked.others touched
  | turn _ running signalled ih =>
    obtain ⟨l, booked⟩ := ih
    exact ⟨_, booked.turn running signalled⟩

/-! ## Every file has an entry of its own -/

theorem number_le_of_mem_filesEver {first : List SnapshotFile} {past : List Iteration} {entry : Nat × Path}
    (member : entry ∈ filesEver first past) : entry.1 ≤ past.length := by
  induction past with
  | nil =>
    obtain ⟨_, _, rfl⟩ := List.mem_map.mp member
    exact Nat.le_refl 0
  | cons i past ih =>
    rw [List.length_cons]
    rcases List.mem_append.mp member with new | old
    · obtain ⟨_, _, rfl⟩ := List.mem_map.mp new
      exact Nat.le_refl _
    · have := ih old
      omega

theorem nodup_filesEver {first : List SnapshotFile} (distinct : (first.map (·.path)).Nodup) (past : List Iteration) :
    (filesEver first past).Nodup := by
  induction past with
  | nil =>
    have paths : (first.map fun f => ((0, f.path) : Nat × Path)) = (first.map (·.path)).map (0, ·) := by
      rw [List.map_map]
      rfl
    rw [filesEver, paths]
    exact distinct.map fun _ _ same => (Prod.mk.inj same).2
  | cons i past ih =>
    have single : (i.file?.toList.map fun path => ((past.length + 1, path) : Nat × Path)).Nodup := by
      cases i.file? <;> simp
    refine single.append ih fun entry new old => ?_
    obtain ⟨_, _, rfl⟩ := List.mem_map.mp new
    have := number_le_of_mem_filesEver old
    simp only at this
    omega

/-! ## The files that are present -/

/-- The entries of the files that stand in the directory, one for each. -/
structure Store.Shows (s : Store) (id : String) (d : Disk) (entries : List (Nat × Path)) : Prop where
  distinct : (entries.map (·.2)).Nodup
  standing : ∀ p, p ∈ entries.map (·.2) ↔ s.Stands id d p

section Shows

variable {s : Store} {id : String} {d d' : Disk} {entries : List (Nat × Path)}

theorem Store.Shows.congr (shows : s.Shows id d entries) (same : ∀ p, s.Stands id d' p ↔ s.Stands id d p) :
    s.Shows id d' entries := ⟨shows.distinct, fun p => (shows.standing p).trans (same p).symm⟩

theorem Store.Shows.enter (shows : s.Shows id d entries) {path : Path} (vacant : ¬ s.Stands id d path)
    (added : ∀ p, s.Stands id d' p ↔ p = path ∨ s.Stands id d p) (number : Nat) :
    s.Shows id d' ((number, path) :: entries) := by
  refine ⟨List.nodup_cons.mpr ⟨fun member => vacant ((shows.standing path).mp member), shows.distinct⟩, fun p => ?_⟩
  rw [List.map_cons, List.mem_cons, shows.standing, added]

open Classical in
/-- As many entries are struck out as files are removed. -/
theorem Store.Shows.strike (shows : s.Shows id d entries) {chosen : List Path} (struck : s.Struck id d d' chosen) :
    s.Shows id d' (entries.filter fun entry => s.Stands id d' entry.2) ∧
      (entries.filter fun entry => ¬ s.Stands id d' entry.2).length = chosen.length := by
  have part (P : Nat × Path → Bool) : ((entries.filter P).map (·.2)).Nodup :=
    shows.distinct.sublist (List.filter_sublist.map _)
  refine ⟨⟨part _, fun p => ?_⟩, ?_⟩
  · constructor
    · intro member
      obtain ⟨entry, chosen, rfl⟩ := List.mem_map.mp member
      simpa using (List.mem_filter.mp chosen).2
    · intro stands
      obtain ⟨entry, member, rfl⟩ := List.mem_map.mp ((shows.standing p).mpr ((struck.left p).mp stands).1)
      exact List.mem_map.mpr ⟨entry, List.mem_filter.mpr ⟨member, by simpa using stands⟩, rfl⟩
  · have gone : ((entries.filter fun entry => ¬ s.Stands id d' entry.2).map (·.2)).Perm chosen := by
      refine (List.perm_ext_iff_of_nodup (part _) struck.distinct).mpr fun p => ?_
      constructor
      · intro member
        obtain ⟨entry, kept, rfl⟩ := List.mem_map.mp member
        obtain ⟨member, gone⟩ := List.mem_filter.mp kept
        have stood := (shows.standing entry.2).mp (List.mem_map_of_mem member)
        by_contra stays
        simp [(struck.left entry.2).mpr ⟨stood, stays⟩] at gone
      · intro member
        obtain ⟨entry, among, rfl⟩ := List.mem_map.mp ((shows.standing p).mpr (struck.stood p member))
        have gone : ¬ s.Stands id d' entry.2 := fun stands => ((struck.left entry.2).mp stands).2 member
        exact List.mem_map.mpr ⟨entry, List.mem_filter.mpr ⟨among, by simpa using gone⟩, rfl⟩
    rw [← gone.length_eq, List.length_map]

/-- What can be listed is what stands. -/
theorem Store.mem_list_iff_stands (listable : s.Listable d) {files : List SnapshotFile}
    (listed : s.list id d = .ok files) (p : Path) : p ∈ files.map (·.path) ↔ s.Stands id d p := by
  constructor
  · intro member
    obtain ⟨f, among, rfl⟩ := List.mem_map.mp member
    obtain ⟨_, n, stored, same⟩ := (Store.mem_list_iff listed).mp among
    exact ⟨n, f.time, stored, congrArg (·.path) same⟩
  · rintro ⟨n, time, stored, rfl⟩
    have directory : d.isDirectory s.dir = true := by
      refine listable.resolve_right fun bare => ?_
      exact stored.stands (Disk.file?_eq_none (by simp [bare n]))
    exact List.mem_map.mpr ⟨s.entry n ⟨time, id⟩, (Store.mem_list_iff listed).mpr ⟨directory, n, stored, rfl⟩, rfl⟩

end Shows

/-! ## One turn -/

namespace Scheduler

theorem countPurge_of_reported (stats : Stats) {r : Except StorageError Removal} {n : Nat}
    (reported : r = .ok ⟨n, []⟩ ∨ n = 0 ∧ ∃ e, r = .error e) :
    (countPurge stats r).1 = { stats with filesPurged := stats.filesPurged + n } := by
  rcases reported with rfl | ⟨rfl, e, rfl⟩ <;> rfl

theorem countPrune_of_reported (stats : Stats) {r : Except StorageError Removal} {n : Nat}
    (reported : r = .ok ⟨n, []⟩ ∨ n = 0 ∧ ∃ e, r = .error e) :
    (countPrune stats r).1.samplesWritten = stats.samplesWritten ∧
      (countPrune stats r).1.filesPruned = stats.filesPruned + n ∧
      (countPrune stats r).1.filesPurged = stats.filesPurged := by
  rcases reported with rfl | ⟨rfl, e, rfl⟩ <;> exact ⟨rfl, rfl, rfl⟩

end Scheduler

namespace World

/-- What a turn does to the files of its instance, and how it counts that: it writes at most one file, and then
    it removes some. -/
structure Counts (w : World) (signalled : Bool) (between : Disk) (chosen : List Path) : Prop where
  unwritten : w.iteration.file? = none → ∀ p, w.store.Stands w.instanceId between p ↔ w.store.Stands w.instanceId w.disk p
  written : ∀ path, w.iteration.file? = some path → ¬ w.store.Stands w.instanceId w.disk path ∧
    ∀ p, w.store.Stands w.instanceId between p ↔ p = path ∨ w.store.Stands w.instanceId w.disk p
  struck : w.store.Struck w.instanceId between (w.turn signalled).disk chosen
  samples : (w.turn signalled).loop.scheduler.stats.samplesWritten =
    w.loop.scheduler.stats.samplesWritten + w.iteration.file?.toList.length
  pruned : (w.turn signalled).loop.scheduler.stats.filesPruned =
    w.loop.scheduler.stats.filesPruned + if w.iteration.transition = .deactivated then 0 else chosen.length
  purged : (w.turn signalled).loop.scheduler.stats.filesPurged =
    w.loop.scheduler.stats.filesPurged + if w.iteration.transition = .deactivated then chosen.length else 0

theorem exists_counts_of_cycle {w : World} (nameable : Nameable w.instanceId) {signalled : Bool} {s : Scheduler}
    (on : w.iteration.transition ≠ .deactivated) (alike : Scheduler.Alike w.loop.scheduler s)
    (same : s.stats = w.loop.scheduler.stats)
    (ran : w.iteration.ending = .sampled ((s.cycle w.surface.current w.source.current w.now).run w.disk).1.2.1)
    (disk : (w.turn signalled).disk = ((s.cycle w.surface.current w.source.current w.now).run w.disk).2)
    (stats : (w.turn signalled).loop.scheduler.stats =
      ((s.cycle w.surface.current w.source.current w.now).run w.disk).1.1.stats) :
    ∃ between chosen, w.Counts signalled between chosen := by
  have store : s.store = w.store := alike.store
  have mine : s.instanceId = w.instanceId := alike.instanceId
  have nameable' : Nameable (s.sample w.source.current w.now).instanceId := by rwa [← mine] at nameable
  rw [Scheduler.cycle_written] at ran
  rw [Scheduler.cycle_disk] at disk
  rw [Scheduler.cycle_stats] at stats
  generalize went : (s.store.write (s.sample w.source.current w.now)).run w.disk = wrote at ran disk stats
  obtain ⟨outcome, between⟩ := wrote
  cases outcome with
  | error e =>
    have nothing : w.iteration.file? = none := by rw [Iteration.file?, ran]
    have unmoved (p : Path) : w.store.Stands w.instanceId between p ↔ w.store.Stands w.instanceId w.disk p := by
      refine Store.stands_congr fun n time read _ => ?_
      have kept := Store.write_of_error nameable' (congrArg Prod.fst went) read
      rwa [went, store] at kept
    refine ⟨between, [], fun _ => unmoved, ?_, disk ▸ Store.Struck.nil .., ?_, ?_, ?_⟩
    · simp [nothing]
    · simp [stats, same, nothing]
    · simp [stats, same]
    · simp [stats, same]
  | ok path =>
    have wrote : w.iteration.file? = some path := Iteration.file?_eq_some_iff.mpr ran
    have added := Store.stands_write nameable' (congrArg Prod.fst went)
    obtain ⟨chosen, struck, reported⟩ :=
      s.store.struck_prune s.instanceId (s.clock.nowMs w.now) w.surface.current.keep between
    obtain ⟨samples, pruned, purged⟩ := Scheduler.countPrune_of_reported
      { s.stats with samplesWritten := s.stats.samplesWritten + 1 } (reported.imp_right (.imp_left (congrArg List.length)))
    rw [same] at samples pruned purged
    refine ⟨between, chosen, ?_, ?_, ?_, ?_, ?_, ?_⟩
    · simp [wrote]
    · intro path' wrote'
      cases wrote.symm.trans wrote'
      rw [went, store] at added
      rw [← mine]
      exact added
    · rwa [disk, ← mine, ← store]
    · rw [stats, same, wrote]
      exact samples
    · rw [stats, same, if_neg on]
      exact pruned
    · rw [stats, same, if_neg on]
      exact purged

theorem exists_counts {w : World} (running : w.loop.phase = .running) (nameable : Nameable w.instanceId)
    (signalled : Bool) : ∃ between chosen, w.Counts signalled between chosen := by
  rcases turn_cases running signalled with
    ⟨off, idle, disk, stats⟩ | ⟨on, skipped, disk, stats⟩ | ⟨on, s, alike, same, ran, disk, stats⟩
  · have nothing : w.iteration.file? = none := by rw [Iteration.file?, idle]
    obtain ⟨chosen, struck, reported⟩ := w.store.struck_purge w.instanceId w.disk
    rw [Scheduler.countPurge_of_reported _ (reported.imp_right (.imp_left (congrArg List.length)))] at stats
    refine ⟨w.disk, chosen, fun _ _ => Iff.rfl, ?_, disk ▸ struck, ?_, ?_, ?_⟩
    · simp [nothing]
    · simp [stats, nothing]
    · simp [stats, off]
    · simp [stats, off]
  · have nothing : w.iteration.file? = none :=
      Option.eq_none_iff_forall_ne_some.mpr fun _ wrote => skipped _ (Iteration.file?_eq_some_iff.mp wrote)
    refine ⟨w.disk, [], fun _ _ => Iff.rfl, ?_, disk ▸ Store.Struck.nil .., ?_, ?_, ?_⟩
    · simp [nothing]
    · simp [stats, nothing]
    · simp [stats]
    · simp [stats]
  · exact exists_counts_of_cycle nameable on alike same ran disk stats

/-- A turn counts its cycle, unless that fails with the source of the role, which ends the loop. -/
theorem counted_turn {w : World} (running : w.loop.phase = .running) (signalled : Bool) :
    (w.turn signalled).loop.scheduler.stats.counted + (if (w.turn signalled).loop.phase = .failed then 1 else 0) =
      w.loop.scheduler.stats.counted + if w.iteration.cycled then 1 else 0 := by
  rw [turn_phase running, turn_scheduler running, iteration, Iteration.cycled]
  rcases Scheduler.ends_pass (Procedure.ends_run (w.loop.scheduler.pass w.surface.current w.source w.now) w.disk) with
    ⟨_, idle, _, same⟩ | ⟨_, _, failed, _, same⟩ | ⟨_, _, ⟨written, sampled⟩, _, same⟩
  · cases signalled <;> simp [idle, same, Loop.phaseAfter]
  · simp [failed, same, Loop.phaseAfter]
  · cases signalled <;> simp [sampled, same, Loop.phaseAfter]

theorem failed_after_iff {w : World} (e : Event) : (w.after e).loop.phase = .failed ↔ w.loop.phase = .failed := by
  refine ⟨fun failed => ?_, after_failed⟩
  rcases w.phase_after e with same | running | ⟨_, stopped⟩
  · exact same.symm.trans failed
  · cases running.symm.trans failed
  · cases stopped.symm.trans failed

end World

/-! ## Whole runs -/

theorem Run.counted {touches : Disk → Disk → Prop} {start w : World} {past : List Iteration}
    (unused : start.loop.scheduler.stats = {}) (running : start.loop.phase ≠ .failed)
    (run : Run touches start past w) :
    w.loop.scheduler.stats.counted + (if w.loop.phase = .failed then 1 else 0) = past.countP (·.cycled) := by
  induction run with
  | start => simp [unused, running, Stats.counted]
  | happen _ e ih => simpa only [World.after_scheduler, World.failed_after_iff] using ih
  | others _ _ ih => exact ih
  | @turn past w _ running signalled ih =>
    rw [if_neg (by simp [running])] at ih
    rw [World.counted_turn running signalled, List.countP_cons]
    omega

/-- The ledger agrees with the directory, with the files that there have been and with the counters. -/
structure Ledger.Agrees (start : World) (first : List SnapshotFile) (l : Ledger) (past : List Iteration) (w : World) :
    Prop where
  shows : start.store.Shows start.instanceId w.disk l.present
  entered : (l.present ++ l.pruned ++ l.purged).Perm (filesEver first past)
  written : (filesEver first past).length = first.length + w.loop.scheduler.stats.samplesWritten
  pruned : w.loop.scheduler.stats.filesPruned = l.pruned.length
  purged : w.loop.scheduler.stats.filesPurged = l.purged.length

theorem Ledger.Agrees.turn {start w : World} {first : List SnapshotFile} {l : Ledger} {past : List Iteration}
    (agrees : l.Agrees start first past w) (alike : Scheduler.Alike start.loop.scheduler w.loop.scheduler)
    (nameable : Nameable start.instanceId) (running : w.loop.phase = .running) (signalled : Bool) :
    (l.turn start.store start.instanceId (past.length + 1) w.iteration (w.turn signalled).disk).Agrees start first
      (w.iteration :: past) (w.turn signalled) := by
  have store : w.store = start.store := alike.store
  have mine : w.instanceId = start.instanceId := alike.instanceId
  obtain ⟨between, chosen, counts⟩ := World.exists_counts running (mine ▸ nameable) signalled
  obtain ⟨unwritten, written, struck, samples, pruned, purged⟩ := counts
  rw [store, mine] at unwritten written struck
  have entered : start.store.Shows start.instanceId between
      (w.iteration.file?.toList.map ((past.length + 1, ·)) ++ l.present) := by
    cases wrote : w.iteration.file? with
    | none => exact agrees.shows.congr (unwritten wrote)
    | some path =>
      obtain ⟨vacant, added⟩ := written path wrote
      exact agrees.shows.enter vacant added _
  obtain ⟨shows, gone⟩ := entered.strike struck
  have ever : (filesEver first (w.iteration :: past)).length =
      first.length + (w.turn signalled).loop.scheduler.stats.samplesWritten := by
    rw [filesEver, List.length_append, List.length_map, agrees.written, samples]
    omega
  refine ⟨shows, l.perm_turn .. |>.trans (agrees.entered.append_left _), ever, ?_, ?_⟩
  · rw [pruned, agrees.pruned, Ledger.turn]
    split
    · rfl
    · rw [List.length_append, gone, Nat.add_comm]
  · rw [purged, agrees.purged, Ledger.turn]
    split
    · rw [List.length_append, gone, Nat.add_comm]
    · rfl

theorem Booked.run {touches : Disk → Disk → Prop} {start w : World} {first : List SnapshotFile} {l : Ledger}
    {past : List Iteration} (booked : Booked touches start first l past w) : Run touches start past w := by
  induction booked with
  | start => exact .start
  | happen _ e ih => exact ih.happen e
  | others _ touched ih => exact ih.others touched
  | turn _ running signalled ih => exact ih.turn running signalled

theorem Booked.agrees {start w : World} {first : List SnapshotFile} {l : Ledger} {past : List Iteration}
    (unused : start.loop.scheduler.stats = {}) (nameable : Nameable start.instanceId)
    (listable : start.store.Listable start.disk) (listed : start.store.list start.instanceId start.disk = .ok first)
    (booked : Booked (start.store.Spares start.instanceId) start first l past w) : l.Agrees start first past w := by
  induction booked with
  | start =>
    have paths : (first.map fun f => ((0, f.path) : Nat × Path)).map (·.2) = first.map (·.path) := by
      rw [List.map_map]
      rfl
    refine ⟨⟨paths ▸ Store.nodup_list listed, fun p => ?_⟩, ?_, ?_, ?_, ?_⟩
    · rw [paths]
      exact Store.mem_list_iff_stands listable listed p
    · simp [filesEver]
    · simp [filesEver, unused]
    · simp [unused]
    · simp [unused]
  | @happen l past w _ e ih =>
    obtain ⟨shows, entered, written, pruned, purged⟩ := ih
    rw [← World.after_scheduler w e] at written pruned purged
    rw [← World.after_disk w e] at shows
    exact ⟨shows, entered, written, pruned, purged⟩
  | others _ touched ih =>
    refine ⟨ih.shows.congr fun p => ?_, ih.entered, ih.written, ih.pruned, ih.purged⟩
    exact Store.stands_congr fun n time read _ => touched n (.finished read rfl)
  | turn booked running signalled ih => exact ih.turn booked.run.recorded.alike nameable running signalled

/-- The counters account for every file, as long as nobody else touches those of the instance: each that has ever
    stood in the directory still does, was pruned or was purged, by just one turn, and the counters say how many.
    Every cycle is counted, but for one that fails with the source of the role. `listable` leaves out a path that
    goes up with `..` out of a missing directory while files stand where it will lead. -/
theorem Run.accounted {start w : World} {past : List Iteration} {startedAt : Instant} (fresh : start.Fresh startedAt)
    (nameable : Nameable start.instanceId) (listable : start.store.Listable start.disk) {first : List SnapshotFile}
    (listed : start.store.list start.instanceId start.disk = .ok first)
    (run : Run (start.store.Spares start.instanceId) start past w) :
    let stats := w.loop.scheduler.stats
    stats.samplesWritten + stats.writeFailures + (if w.loop.phase = .failed then 1 else 0) = past.countP (·.cycled) ∧
    ∃ l, Booked (start.store.Spares start.instanceId) start first l past w ∧
      (l.present ++ l.pruned ++ l.purged).Perm (filesEver first past) ∧ (filesEver first past).Nodup ∧
      stats.filesPruned = l.pruned.length ∧ stats.filesPurged = l.purged.length ∧
      ∀ files, start.store.Listable w.disk → start.store.list start.instanceId w.disk = .ok files →
        (l.present.map (·.2)).Perm (files.map (·.path)) ∧
        files.length + stats.filesPruned + stats.filesPurged = first.length + stats.samplesWritten := by
  intro stats
  have unused : start.loop.scheduler.stats = {} := by rw [fresh.built]; rfl
  have running : start.loop.phase = .running := by rw [fresh.built]; rfl
  obtain ⟨l, booked⟩ := run.exists_booked first
  obtain ⟨shows, entered, written, pruned, purged⟩ := booked.agrees unused nameable listable listed
  refine ⟨run.counted unused (by simp [running]), l, booked, entered, nodup_filesEver (Store.nodup_list listed) past,
    pruned, purged, fun files listable' listed' => ?_⟩
  have present : (l.present.map (·.2)).Perm (files.map (·.path)) := by
    refine (List.perm_ext_iff_of_nodup shows.distinct (Store.nodup_list listed')).mpr fun p => ?_
    rw [shows.standing, Store.mem_list_iff_stands listable' listed']
  refine ⟨present, ?_⟩
  have size := present.length_eq
  have sum := entered.length_eq
  simp only [List.length_map, List.length_append] at size sum
  show files.length + w.loop.scheduler.stats.filesPruned + w.loop.scheduler.stats.filesPurged =
    first.length + w.loop.scheduler.stats.samplesWritten
  omega

/-- Two files are written. One is pruned by the second cycle, the other one purged when sampling is switched off. -/
theorem Run.accounted_after_disable :
    let start := World.alone ⟨true, ⟨0⟩, ⟨1000000000⟩, ⟨0⟩⟩
    let idle := (start.turn false).turn false
    let second := ((idle.after (.elapse ⟨1000000000⟩)).after .expire).turn false
    let off := (second.after (.update fun c => { c with enabled := false })).turn false
    off.loop.scheduler.stats = ⟨2, 0, 0, 1, 1⟩ ∧ start.store.list start.instanceId off.disk = .ok [] := by
  intro start idle second off
  have stats : off.loop.scheduler.stats = ⟨2, 0, 0, 1, 1⟩ := by decide +kernel
  have fresh : start.Fresh ⟨0⟩ := ⟨by decide, rfl⟩
  have run : Run (start.store.Spares start.instanceId) start _ off :=
    ((((Run.start.turn rfl false).turn (by decide +kernel) false).happen _ |>.happen _).turn
      (by decide +kernel) false |>.happen _).turn (by decide +kernel) false
  have none : start.store.list start.instanceId start.disk = .ok [] := rfl
  have directory : off.disk.isDirectory start.store.dir = true := by decide +kernel
  obtain ⟨files, listed⟩ : ∃ files, start.store.list start.instanceId off.disk = .ok files :=
    ⟨_, Store.list_of_isDirectory start.instanceId directory⟩
  obtain ⟨_, l, _, _, _, _, _, length⟩ := run.accounted fresh (by decide) (.inl (by decide +kernel)) none
  have empty := (length files (.inl directory) listed).2
  rw [stats] at empty
  replace empty : files.length + 1 + 1 = 0 + 2 := empty
  have : files = [] := List.length_eq_zero_iff.mp (by omega)
  exact ⟨stats, by rw [listed, this]⟩

end NodeTelemetry
