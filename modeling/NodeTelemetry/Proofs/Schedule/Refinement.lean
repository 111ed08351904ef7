import NodeTelemetry.Proofs.Retention.Window
import NodeTelemetry.Proofs.Schedule.Run

/-!
# The files of a run

A turn of the loop does to the files of its instance what `Store.advance` says of
a set: an activation that ends empties it, a cycle adds one file under the first
name that is free and takes out what is too old, and no other turn changes it.
So after every run the directory holds the set that the turns of the run make of
the one at its start (`Run.window_eq`). No one but the run changes the directory,
so what is in the way there at the end has always been.

The path of the store is not the empty one, at which no directory can be read:
validation refuses it. The directory can be listed at the start, or nothing stands
where it will be (`Store.Listable`). That leaves out a path that goes up with `..`
out of a missing directory while files stand where it will lead: a write makes the
missing one and uncovers files that no listing has shown.
-/

namespace NodeTelemetry

open Retention

namespace Store

/-- What a turn makes of the files of its instance. -/
noncomputable def advance (s : Store) (blocked : Set Path) (i : Iteration) (files : Set Kept) : Set Kept :=
  match i.transition, i.ending with
  | .deactivated, _ => ∅
  | _, .sampled _ =>
    match s.firstFree? blocked files i.snapshot with
    | none => files
    | some n =>
      {k ∈ insert ⟨n.time, s.finalPath n, i.snapshot.render⟩ files |
        i.snapshot.capturedAt.toNat - min i.control.keep.millis 18446744073709551615 ≤ k.time.toNat}
  | _, _ => files

variable {s : Store} {blocked : Set Path} {i : Iteration} {files : Set Kept}

theorem advance_of_deactivated (off : i.transition = .deactivated) : s.advance blocked i files = ∅ := by
  simp [advance, off]

theorem advance_of_not_sampled (on : i.transition ≠ .deactivated) (skipped : ∀ written, i.ending ≠ .sampled written) :
    s.advance blocked i files = files := by
  unfold advance
  split <;> simp_all

theorem advance_of_none (on : i.transition ≠ .deactivated) {written : Except StorageError Path}
    (ran : i.ending = .sampled written) (full : s.firstFree? blocked files i.snapshot = none) :
    s.advance blocked i files = files := by
  unfold advance
  split <;> simp_all

theorem advance_of_some (on : i.transition ≠ .deactivated) {written : Except StorageError Path}
    (ran : i.ending = .sampled written) {n : FileName} (first : s.firstFree? blocked files i.snapshot = some n) :
    s.advance blocked i files = {k ∈ insert ⟨n.time, s.finalPath n, i.snapshot.render⟩ files |
      (cutoff i.snapshot.capturedAt i.control.keep).toNat ≤ k.time.toNat} := by
  unfold advance
  split <;> simp_all [toNat_cutoff]

/-- What others may do while only one collector touches the directory of its store. -/
structure Aside (s : Store) (d d' : Disk) : Prop where
  directory : d.isDirectory s.dir = true → d'.isDirectory s.dir = true
  entries : ∀ n, d'.get? (n :: s.dir.location) = d.get? (n :: s.dir.location)

end Store

namespace Scheduler

/-- What a cycle makes of the files of its instance, when the disk does not fail. -/
theorem window_cycle {s : Scheduler} {c : Control} {report : Option RoleState} {now : Instant} {d : Disk}
    (named : s.store.dir.isEmpty = false) (nameable : Nameable s.instanceId) (listable : s.store.Listable d)
    (unfailing : ∀ p e, ((s.cycle c report now).run d).1.2.1 ≠ .error (.atPath p e)) :
    let cycled := (s.cycle c report now).run d
    let snapshot := s.sample report now
    let files := s.store.window s.instanceId d
    cycled.2.isDirectory s.store.dir = true ∧ (d.isDirectory s.store.dir = true → Disk.SameDirectories d cycled.2) ∧
    ∀ blocked, s.store.Blocks s.instanceId cycled.2 blocked →
      (s.store.firstFree? blocked files snapshot = none ∧ cycled.1.2.1 = .error (.nameExhausted s.store.dir) ∧
        s.store.window s.instanceId cycled.2 = files) ∨
      (∃ n, s.store.firstFree? blocked files snapshot = some n ∧ cycled.1.2.1 = .ok (s.store.finalPath n) ∧
        (Store.cutoff snapshot.capturedAt c.keep).toNat ≤ n.time.toNat ∧
        s.store.window s.instanceId cycled.2 =
          {k ∈ insert ⟨n.time, s.store.finalPath n, snapshot.render⟩ files |
            (Store.cutoff snapshot.capturedAt c.keep).toNat ≤ k.time.toNat}) := by
  intro cycled snapshot files
  have result : cycled.1.2.1 = ((s.store.write snapshot).run d).1 := cycle_written s c report now d
  have disk : cycled.2 = _ := cycle_disk s c report now d
  obtain ⟨directory, there, effects⟩ :=
    Store.window_write named nameable listable (by rw [← result]; exact unfailing)
  generalize went : (s.store.write snapshot).run d = wrote at result directory there effects
  obtain ⟨outcome, after⟩ := wrote
  rw [went] at disk
  cases outcome with
  | error e =>
    replace disk : cycled.2 = after := disk
    rw [disk, result]
    refine ⟨directory, there, fun blocked blocks => ?_⟩
    rcases effects blocked blocks with unchanged | ⟨_, _, done, _⟩
    · exact .inl unchanged
    · cases done
  | ok path =>
    replace disk : cycled.2 = ((s.store.prune s.instanceId snapshot.capturedAt c.keep).run after).2 := disk
    have kept : Disk.SameDirectories after cycled.2 := by
      rw [disk]
      exact Store.prune_directories _ _ _ _ _
    have still : cycled.2.isDirectory s.store.dir = true := Disk.isDirectory_mono kept.keeps directory
    refine ⟨still, fun before => (there before).trans kept, fun blocked blocks => .inr ?_⟩
    rcases effects blocked (blocks.congr nameable (fun _ => still) fun _ _ => kept _) with
      ⟨_, failed, _⟩ | ⟨n, first, done, added⟩
    · cases failed
    · -- the new file has not expired, so pruning needs no exception for the newest one
      have new : (⟨n.time, s.store.finalPath n, snapshot.render⟩ : Kept) ∈ s.store.window s.instanceId after :=
        added ▸ Set.mem_insert ..
      have recent : (Store.cutoff snapshot.capturedAt c.keep).toNat ≤ n.time.toNat := by
        have := (Store.time_of_mem_candidates (Store.mem_of_firstFree? first)).1
        rw [Store.toNat_cutoff]
        omega
      refine ⟨n, first, result.trans done, recent, ?_⟩
      rw [disk, Store.window_prune directory ⟨_, new, recent⟩]
      exact added ▸ rfl

end Scheduler

/-- What a turn of the loop does to the files of an instance. -/
structure Store.Advances (s : Store) (id : String) (i : Iteration) (d d' : Disk) : Prop where
  listable : s.Listable d'
  directories : d.isDirectory s.dir = true → Disk.SameDirectories d d'
  window : ∀ blocked, s.Blocks id d' blocked → s.window id d' = s.advance blocked i (s.window id d)
  written : ∀ path, i.file? = some path → ∃ time, ⟨time, path, i.snapshot.render⟩ ∈ s.window id d'
  origin : ∀ k ∈ s.window id d', k ∈ s.window id d ∨ i.file? = some k.path ∧ k.bytes = i.snapshot.render

theorem Store.blocks_self (s : Store) (id : String) (d : Disk) : s.Blocks id d {p | d.isDirectory p = true} :=
  fun _ _ _ => Iff.rfl

namespace World

theorem advances_turn {w : World} (running : w.loop.phase = .running) (named : w.store.dir.isEmpty = false)
    (nameable : Nameable w.instanceId) (listable : w.store.Listable w.disk)
    (unfailing : ∀ p e, w.iteration.ending ≠ .sampled (.error (.atPath p e))) (signalled : Bool) :
    w.store.Advances w.instanceId w.iteration w.disk (w.turn signalled).disk := by
  rcases disk_cases running signalled with ⟨off, idle, disk⟩ | ⟨on, skipped, disk⟩ | ⟨on, s, alike, ran, disk⟩
  · obtain ⟨listable', same, empty⟩ := listable.purge w.instanceId
    rw [disk]
    exact {
      listable := listable'
      directories := fun _ => same
      window := fun _ _ => by rw [Store.advance_of_deactivated off, empty]
      written := fun _ wrote => by cases idle.symm.trans (Iteration.file?_eq_some_iff.mp wrote)
      origin := fun _ member => by rw [empty] at member; cases member }
  · rw [disk]
    exact {
      listable
      directories := fun _ => Disk.SameDirectories.refl _
      window := fun _ _ => by rw [Store.advance_of_not_sampled on skipped]
      written := fun _ wrote => absurd (Iteration.file?_eq_some_iff.mp wrote) (skipped _)
      origin := fun _ member => .inl member }
  · have store : s.store = w.store := alike.store
    have mine : s.instanceId = w.instanceId := alike.instanceId
    have sample : s.sample w.source.current w.now = w.iteration.snapshot := alike.sample _ _
    have calm (p : Path) (e : DiskError) :
        ((s.cycle w.surface.current w.source.current w.now).run w.disk).1.2.1 ≠ .error (.atPath p e) :=
      fun failed => unfailing p e (failed ▸ ran)
    have cycled := Scheduler.window_cycle (store ▸ named) (mine ▸ nameable) (store ▸ listable) calm
    simp only [store, mine, sample] at cycled
    obtain ⟨directory, there, effects⟩ := cycled
    rw [disk]
    have outcome := effects _ (Store.blocks_self _ _ _)
    refine ⟨.inl directory, there, ?_, ?_, ?_⟩
    · intro blocked blocks
      rcases effects blocked blocks with ⟨full, _, same⟩ | ⟨n, first, _, _, same⟩
      · rw [same, Store.advance_of_none on ran full]
      · rw [same, Store.advance_of_some on ran first]
        rfl
    · intro path done
      rw [Iteration.file?_eq_some_iff] at done
      rcases outcome with ⟨_, failed, _⟩ | ⟨n, _, wrote, recent, same⟩
      · cases failed.symm.trans (Scheduler.PassEnd.sampled.inj (ran.symm.trans done))
      · cases wrote.symm.trans (Scheduler.PassEnd.sampled.inj (ran.symm.trans done))
        rw [same]
        exact ⟨n.time, Set.mem_insert .., recent⟩
    · intro k member
      rcases outcome with ⟨_, _, same⟩ | ⟨n, _, wrote, _, same⟩
      · rw [same] at member
        exact .inl member
      · rw [same] at member
        rcases Set.mem_insert_iff.mp member.1 with rfl | old
        · exact .inr ⟨Iteration.file?_eq_some_iff.mpr (ran.trans (congrArg _ wrote)), rfl⟩
        · exact .inl old

end World

/-! ## Whole runs -/

/-- What the turns of a run have made of the files that were there at its start. -/
structure Refines (start : World) (past : List Iteration) (w : World) : Prop where
  alike : Scheduler.Alike start.loop.scheduler w.loop.scheduler
  listable : start.store.Listable w.disk
  window : ∀ blocked, start.store.Blocks start.instanceId w.disk blocked →
    start.store.window start.instanceId w.disk =
      past.foldr (start.store.advance blocked) (start.store.window start.instanceId start.disk)
  latest : ∀ i older path, past = i :: older → i.file? = some path →
    ∃ time, ⟨time, path, i.snapshot.render⟩ ∈ start.store.window start.instanceId w.disk
  origin : ∀ k ∈ start.store.window start.instanceId w.disk,
    k ∈ start.store.window start.instanceId start.disk ∨
      ∃ i ∈ past, i.file? = some k.path ∧ k.bytes = i.snapshot.render

theorem Refines.start {start : World} (listable : start.store.Listable start.disk) : Refines start [] start where
  alike := Scheduler.Alike.refl _
  listable := listable
  window := fun _ _ => rfl
  latest := by simp
  origin := fun _ member => .inl member

theorem Refines.others {start w : World} {past : List Iteration} (nameable : Nameable start.instanceId)
    (refines : Refines start past w) {d : Disk} (aside : start.store.Aside w.disk d) :
    Refines start past { w with disk := d } := by
  have same := Store.window_of_entries start.instanceId refines.listable aside.directory aside.entries
  refine ⟨refines.alike, refines.listable.congr aside.directory aside.entries, ?_, ?_, ?_⟩
  · intro blocked blocks
    rw [same]
    refine refines.window blocked (blocks.congr nameable aside.directory fun _ n => ?_)
    rw [aside.entries n]
  · rw [same]
    exact refines.latest
  · rw [same]
    exact refines.origin

theorem Refines.turn {start w : World} {past : List Iteration} (named : start.store.dir.isEmpty = false)
    (nameable : Nameable start.instanceId) (refines : Refines start past w) (running : w.loop.phase = .running)
    (unfailing : ∀ p e, w.iteration.ending ≠ .sampled (.error (.atPath p e))) (signalled : Bool) :
    Refines start (w.iteration :: past) (w.turn signalled) := by
  have store : w.store = start.store := refines.alike.store
  have mine : w.instanceId = start.instanceId := refines.alike.instanceId
  have advances := World.advances_turn running (store ▸ named) (mine ▸ nameable) (store ▸ refines.listable)
    unfailing signalled
  rw [store, mine] at advances
  refine ⟨refines.alike.trans (World.alike_turn running signalled), advances.listable, ?_, ?_, ?_⟩
  · intro blocked blocks
    -- what is in the way after the turn was in the way before it, as soon as there was a directory at all
    rw [advances.window blocked blocks, List.foldr_cons, refines.window blocked]
    refine blocks.congr nameable ?_ ?_
    · intro there
      exact Disk.isDirectory_mono (advances.directories there).keeps there
    · intro there n
      exact advances.directories there _
  · intro i older path same ran
    cases same
    exact advances.written path ran
  · intro k member
    rcases advances.origin k member with old | ⟨ran, bytes⟩
    · rcases refines.origin k old with first | ⟨i, among, wrote⟩
      · exact .inl first
      · exact .inr ⟨i, List.mem_cons_of_mem _ among, wrote⟩
    · exact .inr ⟨_, List.mem_cons_self, ran, bytes⟩

theorem Run.refines {start w : World} {past : List Iteration} (named : start.store.dir.isEmpty = false)
    (nameable : Nameable start.instanceId) (listable : start.store.Listable start.disk)
    (run : Run start.store.Aside start past w)
    (unfailing : ∀ i ∈ past, ∀ p e, i.ending ≠ .sampled (.error (.atPath p e))) : Refines start past w := by
  induction run with
  | start => exact Refines.start listable
  | @happen past w _ e ih =>
    have refines := ih unfailing
    have same := World.after_disk w e
    refine ⟨?_, same ▸ refines.listable, same ▸ refines.window, same ▸ refines.latest, same ▸ refines.origin⟩
    rw [World.after_scheduler]
    exact refines.alike
  | others _ aside ih => exact (ih unfailing).others nameable aside
  | turn _ running signalled ih =>
    have refines := ih fun i among => unfailing i (List.mem_cons_of_mem _ among)
    exact refines.turn named nameable running (unfailing _ List.mem_cons_self) signalled

/-- After every run the directory holds the files that the turns of the run make of those at its start. The file of
    the last turn is among them, and each file that the run wrote is the text of its snapshot. `named` leaves out
    the empty path, which validation refuses, and `listable` a path that goes up with `..` out of a missing
    directory while files stand where it will lead. -/
theorem Run.window_eq {start w : World} {past : List Iteration} (named : start.store.dir.isEmpty = false)
    (nameable : Nameable start.instanceId) (listable : start.store.Listable start.disk)
    (run : Run start.store.Aside start past w)
    (unfailing : ∀ i ∈ past, ∀ p e, i.ending ≠ .sampled (.error (.atPath p e))) :
    let files := start.store.window start.instanceId w.disk
    let first := start.store.window start.instanceId start.disk
    files = past.foldr (start.store.advance {p | w.disk.isDirectory p = true}) first ∧
    (∀ i older path, past = i :: older → i.file? = some path →
      ∃ time, ⟨time, path, i.snapshot.render⟩ ∈ files) ∧
    (∀ k ∈ files, k ∈ first ∨ ∃ i ∈ past, i.file? = some k.path ∧ k.bytes = i.snapshot.render) := by
  have refines := run.refines named nameable listable unfailing
  exact ⟨refines.window _ (Store.blocks_self _ _ _), refines.latest, refines.origin⟩

/-- Without a grace period the first turn writes a file, which outlives its own cycle although nothing is
    to be kept. -/
theorem Run.window_of_first_turn :
    let start := World.alone ⟨true, ⟨0⟩, ⟨1000000000⟩, ⟨0⟩⟩
    ∃ time, ⟨time, Path.ofText "./0-a.json", start.iteration.snapshot.render⟩ ∈
      start.store.window start.instanceId (start.turn false).disk := by
  intro start
  have wrote : start.iteration.file? = some (Path.ofText "./0-a.json") := by decide +kernel
  have run : Run start.store.Aside start [start.iteration] (start.turn false) := Run.start.turn rfl false
  refine (run.window_eq rfl (by decide) (.inl (by decide +kernel)) ?_).2.1 _ [] _ rfl wrote
  intro i among p e failed
  cases List.mem_singleton.mp among
  cases (Iteration.file?_eq_some_iff.mp wrote).symm.trans failed

end NodeTelemetry
