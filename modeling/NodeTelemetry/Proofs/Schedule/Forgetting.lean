import Mathlib.Logic.Relation
import NodeTelemetry.Proofs.Retention.Pruning
import NodeTelemetry.Proofs.Retention.Window
import NodeTelemetry.Proofs.Schedule.Bound

/-!
# What switching off forgets

The turn that finds sampling switched off purges the files of its instance, and
no other turn does: as long as the scheduler stays disabled, later turns leave
the disk alone (`World.rests_turn`). So one listing decides, at the moment of that
turn, whether the instance is forgotten (`Run.purged_once`). Where it fails
nothing is removed and nothing counted, neither then nor on a later wake-up. What
stands on the disk later is what others have made of what that turn left.
-/

namespace NodeTelemetry

namespace SchedulerState

/-- A look at a disabled state leaves it as it is, unless sampling was switched on. -/
theorem onControl_disabled {c : Control} {now : Instant} (off : (disabled.onControl c now).2 ≠ .activated) :
    disabled.onControl c now = (disabled, .unchanged) := by
  unfold onControl at off ⊢
  split at off <;> simp_all

end SchedulerState

/-! ## Purging -/

namespace Store

variable {s : Store} {id : String} {d : Disk}

/-- Where a listing would show every file that stands, a purge leaves none. -/
theorem not_stands_purge (listable : s.Listable d) (p : Path) : ¬ s.Stands id ((s.purge id).run d).2 p := by
  rintro ⟨n, time, stored, -⟩
  cases directory : d.isDirectory s.dir with
  | true =>
    obtain ⟨stays, stood⟩ := (purge_cleared id directory).survived stored.stands
    exact stays ⟨n, time, rfl, ⟨stored.read, stored.takes, stood⟩⟩
  | false =>
    have bare := listable.resolve_left (by simp [directory])
    rw [purge_of_not_isDirectory id directory] at stored
    exact stored.stands (Disk.file?_eq_none (by simp [bare n]))

end Store

/-! ## Turns -/

namespace World

/-- What the end of an activation makes of the files of the instance, and of the counters. -/
structure Forgets (w : World) (signalled : Bool) : Prop where
  listed : ∀ files, w.store.list w.instanceId w.disk = .ok files →
    w.store.list w.instanceId (w.turn signalled).disk = .ok [] ∧
      (w.turn signalled).loop.scheduler.stats = { w.loop.scheduler.stats with
        filesPurged := w.loop.scheduler.stats.filesPurged + files.length }
  unlisted : ∀ e, w.store.list w.instanceId w.disk = .error e →
    (w.turn signalled).disk = w.disk ∧ (w.turn signalled).loop.scheduler.stats = w.loop.scheduler.stats
  /-- Where a listing would show every file that stands. -/
  gone : w.store.Listable w.disk → ∀ p, ¬ w.store.Stands w.instanceId (w.turn signalled).disk p

theorem forgets_turn {w : World} (running : w.loop.phase = .running) (off : w.iteration.transition = .deactivated)
    (signalled : Bool) : w.Forgets signalled := by
  rcases turn_cases running signalled with ⟨_, _, disk, stats⟩ | ⟨on, _⟩ | ⟨on, _⟩
  · refine ⟨fun files listed => ?_, fun e unlisted => ?_, fun listable => ?_⟩
    · rw [Store.run_purge listed] at disk stats
      rw [disk, stats, Store.list_removeFiles listed (List.Subperm.refl files)]
      exact ⟨by simp, rfl⟩
    · rw [Store.run_purge_of_error unlisted] at disk stats
      exact ⟨disk, stats⟩
    · rw [disk]
      exact Store.not_stands_purge listable
  · exact absurd off on
  · exact absurd off on

/-- A turn of a disabled scheduler does nothing, unless sampling was switched on. -/
theorem rests_turn {w : World} (running : w.loop.phase = .running) (disabled : w.loop.scheduler.state = .disabled)
    (off : w.iteration.transition ≠ .activated) (signalled : Bool) :
    (w.turn signalled).loop.scheduler.state = .disabled ∧ w.iteration.transition = .unchanged ∧
      w.iteration.ending = .idle ∧ (w.turn signalled).disk = w.disk ∧
      (w.turn signalled).loop.scheduler.stats = w.loop.scheduler.stats := by
  have looked : w.loop.scheduler.state.onControl w.surface.current w.now = (.disabled, .unchanged) := by
    rw [disabled]
    refine SchedulerState.onControl_disabled fun on => off ?_
    rw [iteration, disabled]
    exact on
  have unchanged : w.iteration.transition = .unchanged := congrArg Prod.snd looked
  -- a disabled state is never due
  have notDue : w.iteration.cycled = false := by
    rw [cycled_iteration, looked]
    rfl
  have idle : w.iteration.ending = .idle := by
    unfold Iteration.cycled at notDue
    split at notDue <;> simp_all
  have stays : (w.turn signalled).loop.scheduler.state = .disabled := by
    rw [state_turn running, notDue, looked]
    rfl
  rcases turn_cases running signalled with ⟨ended, _⟩ | ⟨_, _, disk, stats⟩ | ⟨_, _, _, _, ran, _⟩
  · cases unchanged.symm.trans ended
  · exact ⟨stays, unchanged, idle, disk, stats⟩
  · cases idle.symm.trans ran

/-- The turn that ends an activation leaves the scheduler disabled. -/
theorem disabled_turn {w : World} (running : w.loop.phase = .running) (off : w.iteration.transition = .deactivated)
    (signalled : Bool) : (w.turn signalled).loop.scheduler.state = .disabled := by
  rw [state_turn running, SchedulerState.onControl_deactivated off]
  split <;> rfl

end World

/-! ## Whole runs -/

/-- Where something does not hold at first and holds in the end, one step has brought it about. -/
theorem exists_step_of_reflTransGen {α : Type} {r : α → α → Prop} {P : α → Prop} {a b : α}
    (steps : Relation.ReflTransGen r a b) (first : ¬ P a) (last : P b) :
    ∃ c c', Relation.ReflTransGen r a c ∧ r c c' ∧ Relation.ReflTransGen r c' b ∧ ¬ P c ∧ P c' := by
  induction steps with
  | refl => exact absurd last first
  | @tail c b steps step ih =>
    by_cases already : P c
    · obtain ⟨x, x', before, crossed, rest, out, inside⟩ := ih already
      exact ⟨x, x', before, crossed, rest.tail step, out, inside⟩
    · exact ⟨c, b, steps, step, .refl, already, last⟩

section Rests

variable {touches : Disk → Disk → Prop} {start w : World} {past : List Iteration}

/-- As long as sampling stays switched off, only others touch the disk. -/
theorem Run.rests (run : Run touches start past w) (disabled : start.loop.scheduler.state = .disabled)
    (off : ∀ i ∈ past, i.transition ≠ .activated) :
    w.loop.scheduler.state = .disabled ∧ (∀ i ∈ past, i.transition = .unchanged ∧ i.ending = .idle) ∧
      Relation.ReflTransGen touches start.disk w.disk ∧ w.loop.scheduler.stats = start.loop.scheduler.stats := by
  induction run with
  | start => exact ⟨disabled, by simp, .refl, rfl⟩
  | @happen past w _ e ih =>
    rw [World.after_scheduler, World.after_disk]
    exact ih off
  | others _ touched ih =>
    obtain ⟨state, idle, others, stats⟩ := ih off
    exact ⟨state, idle, others.tail touched, stats⟩
  | @turn past w _ running signalled ih =>
    obtain ⟨last, off⟩ := List.forall_mem_cons.mp off
    obtain ⟨state, idle, others, stats⟩ := ih off
    obtain ⟨state', unchanged, idle', disk, stats'⟩ := World.rests_turn running state last signalled
    exact ⟨state', List.forall_mem_cons.mpr ⟨⟨unchanged, idle'⟩, idle⟩, disk ▸ others, stats'.trans stats⟩

/-- Sampling that was switched off purges once, at the turn that finds it so: until it is switched on again, later
    turns are idle. If the directory could be listed then, the listing is empty afterwards, and if nothing was
    hidden from it, whatever file of the instance stands there at a later time was put there by others since. If
    it could not be listed, nothing is removed, and no later wake-up makes up for it. -/
theorem Run.purged_once {u : World} {signalled : Bool} (running : u.loop.phase = .running)
    (ended : u.iteration.transition = .deactivated) (run : Run touches (u.turn signalled) past w)
    (off : ∀ i ∈ past, i.transition ≠ .activated) :
    let left := u.turn signalled
    w.loop.scheduler.state = .disabled ∧ (∀ i ∈ past, i.transition = .unchanged ∧ i.ending = .idle) ∧
    Relation.ReflTransGen touches left.disk w.disk ∧ w.loop.scheduler.stats = left.loop.scheduler.stats ∧
    u.Forgets signalled ∧
    (u.store.Listable u.disk → ∀ p, u.store.Stands u.instanceId w.disk p →
      ∃ d d', Relation.ReflTransGen touches left.disk d ∧ touches d d' ∧ Relation.ReflTransGen touches d' w.disk ∧
        ¬ u.store.Stands u.instanceId d p ∧ u.store.Stands u.instanceId d' p) := by
  intro left
  obtain ⟨state, idle, others, stats⟩ := run.rests (World.disabled_turn running ended signalled) off
  have forgets := World.forgets_turn running ended signalled
  exact ⟨state, idle, others, stats, forgets, fun listable p stands =>
    exists_step_of_reflTransGen others (forgets.gone listable p) stands⟩

/-- A file is written, and purged when sampling is switched off. After a later wake-up the instance still has
    none. -/
theorem Run.purged_once_of_listable :
    let start := World.alone ⟨true, ⟨0⟩, ⟨1000000000⟩, ⟨0⟩⟩
    let active := (((start.turn false).turn false).after (.update fun c => { c with enabled := false })).after .notice
    let disabled := active.turn false
    let woken := ((disabled.after (.update fun c => { c with grace := ⟨1⟩ })).after .notice).turn false
    woken.loop.scheduler.stats.filesPurged = 1 ∧ start.store.list start.instanceId woken.disk = .ok [] := by
  intro start active disabled woken
  have running : active.loop.phase = .running := by decide +kernel
  have ended : active.iteration.transition = .deactivated := by decide +kernel
  have run : Run Eq disabled _ woken := ((Run.start.happen _).happen _).turn (by decide +kernel) false
  obtain ⟨-, -, others, stats, forgets, -⟩ := run.purged_once running ended (by
    simp only [List.forall_mem_cons, List.not_mem_nil, false_implies, implies_true, and_true]
    decide +kernel)
  have untouched : woken.disk = disabled.disk := by
    rw [Relation.reflTransGen_eq_self] at others
    exact others.symm
  have listed : active.store.list active.instanceId active.disk = .ok [⟨Path.ofText "./0-a.json", "a", 0⟩] := by
    decide +kernel
  obtain ⟨empty, counted⟩ := forgets.listed _ listed
  have before : active.loop.scheduler.stats.filesPurged = 0 := by decide +kernel
  have store : active.store = start.store := by decide +kernel
  have same : active.instanceId = start.instanceId := by decide +kernel
  refine ⟨?_, ?_⟩
  · rw [stats, counted, before]
    rfl
  · rw [untouched, ← store, ← same]
    exact empty

/-- A file stands in place of the directory while sampling is switched off, and the directory comes back later
    with what was in it. At the wake-up that follows it can be listed, and the file in it could be removed, but it
    stays. -/
theorem Run.retained_of_file_in_place :
    let start : World := { World.alone ⟨true, ⟨0⟩, ⟨1000000000⟩, ⟨0⟩⟩ with
      loop.scheduler.store := ⟨Path.ofText "t"⟩ }
    let active := (start.turn false).turn false
    let blocked : World := { active with disk := ((Procedure.writeFile (Path.ofText "t") []).run start.disk).2 }
    let off := (blocked.after (.update fun c => { c with enabled := false })).after .notice
    let disabled := off.turn false
    let restored : World := { disabled with disk := active.disk }
    let woken := (restored.after (.update fun c => { c with grace := ⟨1⟩ })).after .notice
    let last := woken.turn false
    let file : SnapshotFile := ⟨Path.ofText "t/0-a.json", "a", 0⟩
    start.Fresh ⟨0⟩ ∧ (∃ past, Run (fun _ _ => True) start (woken.iteration :: off.iteration :: past) last) ∧
      active.loop.scheduler.state.isActive = true ∧ off.iteration.transition = .deactivated ∧
      disabled.loop.scheduler.state = .disabled ∧ last.loop.scheduler.state = .disabled ∧
      start.store.list start.instanceId woken.disk = .ok [file] ∧
      ((Procedure.perform (.remove file.path)).run woken.disk).1 = .ok () ∧
      start.store.list start.instanceId last.disk = .ok [file] := by
  intro start active blocked off disabled restored woken last file
  have fresh : start.Fresh ⟨0⟩ := ⟨by decide, rfl⟩
  have sampled : Run (fun _ _ => True) start _ active := (Run.start.turn rfl false).turn (by decide +kernel) false
  have purged : Run (fun _ _ => True) start (off.iteration :: _) disabled :=
    (((sampled.others (d := blocked.disk) trivial).happen _).happen _).turn (by decide +kernel) false
  have run : Run (fun _ _ => True) start (woken.iteration :: off.iteration :: _) last :=
    (((purged.others (d := active.disk) trivial).happen _).happen _).turn (by decide +kernel) false
  exact ⟨fresh, ⟨_, run⟩, by decide +kernel, by decide +kernel, by decide +kernel, by decide +kernel,
    by decide +kernel, by decide +kernel, by decide +kernel⟩

end Rests

end NodeTelemetry
