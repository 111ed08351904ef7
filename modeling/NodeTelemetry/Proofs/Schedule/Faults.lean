import NodeTelemetry.Proofs.Disk.Faults
import NodeTelemetry.Proofs.Schedule.Run

/-!
# Runs on a device that fails

The runs of a loop where a device may fail actions of a certain kind
(`FaultyRun`), among them the runs on a device that fails nothing (`Run.faulty`).
What a run does on the disk is done by its cycles, and by the purges at the ends of
activations (`Scheduler.goes_pass`).
-/

namespace NodeTelemetry

/-- The world after a pass that has ended in a certain way. -/
def World.turned (w : World) (signalled : Bool) (s : Scheduler) (ending : Scheduler.PassEnd) (d : Disk) : World :=
  { w with loop := ⟨s, w.surface.current, Loop.phaseAfter s w.surface.current signalled ending⟩, disk := d }

/-- The runs from a world on a device that may fail actions of a certain kind, where others change the disk only
    in a certain way. -/
inductive FaultyRun (fallible : Action → Prop) (touches : Disk → Disk → Prop) (start : World) :
    List Iteration → World → Prop where
  | start : FaultyRun fallible touches start [] start
  | happen {past : List Iteration} {w : World} (run : FaultyRun fallible touches start past w) (e : Event) :
    FaultyRun fallible touches start past (w.after e)
  | others {past : List Iteration} {w : World} (run : FaultyRun fallible touches start past w) {d : Disk}
    (touched : touches w.disk d) : FaultyRun fallible touches start past { w with disk := d }
  | turn {past : List Iteration} {w : World} (run : FaultyRun fallible touches start past w)
    (running : w.loop.phase = .running) (signalled : Bool) {s : Scheduler} {ending : Scheduler.PassEnd}
    {notices : List Notice} {d : Disk}
    (passed : (w.loop.scheduler.pass w.surface.current w.source w.now).Goes fallible w.disk (s, ending, notices) d) :
    FaultyRun fallible touches start ({ w.iteration with ending } :: past) (w.turned signalled s ending d)

variable {fallible : Action → Prop} {touches : Disk → Disk → Prop} {start w : World} {past : List Iteration}

/-- A device may also fail nothing. -/
theorem Run.faulty (fallible : Action → Prop) (run : Run touches start past w) : FaultyRun fallible touches start past w := by
  induction run with
  | start => exact .start
  | happen _ e ih => exact ih.happen e
  | others _ touched ih => exact ih.others touched
  | @turn past w _ running signalled ih =>
    have same : w.turn signalled = w.turned signalled (w.turn signalled).loop.scheduler w.iteration.ending
        (w.turn signalled).disk := by
      unfold World.turned
      rw [World.turn_scheduler running]
      exact congrArg (fun l => { w with loop := l, disk := (w.turn signalled).disk }) (World.turn_of_running running signalled).1
    have passed : (w.loop.scheduler.pass w.surface.current w.source w.now).Goes fallible w.disk _ _ :=
      Procedure.goes_run _ w.disk
    rw [same, World.turn_scheduler running, World.turn_disk running]
    exact ih.turn running signalled passed

/-- A run goes on where another one has come to. -/
theorem FaultyRun.append {between : World} {later : List Iteration} (run : FaultyRun fallible touches start past between)
    (further : FaultyRun fallible touches between later w) : FaultyRun fallible touches start (later ++ past) w := by
  induction further with
  | start => exact run
  | happen _ e ih => exact ih.happen e
  | others _ touched ih => exact ih.others touched
  | turn _ running signalled passed ih => exact ih.turn running signalled passed

/-! ## Cycles on such a device -/

namespace Scheduler

variable {s : Scheduler} {c : Control} {now : Instant} {d d' : Disk}

/-- Where a cycle's actions go somehow: it writes, and prunes if the file could be written. -/
theorem goes_cycle {report : Option RoleState} {after : Scheduler} {written : Except StorageError Path}
    {notices : List Notice} (goes : (s.cycle c report now).Goes fallible d (after, written, notices) d') :
    ∃ between, (s.store.write (s.sample report now)).Goes fallible d written between ∧
      ((∃ e, written = .error e) ∧ d' = between ∨
        ∃ path removed, written = .ok path ∧
          (s.store.prune s.instanceId (s.sample report now).capturedAt c.keep).Goes fallible between removed d') := by
  obtain ⟨wrote, between, writing, later⟩ := Procedure.goes_bind goes
  refine ⟨between, ?_⟩
  cases wrote with
  | error e =>
    obtain ⟨ended, rfl⟩ := Procedure.goes_done later
    cases ended
    exact ⟨writing, .inl ⟨⟨e, rfl⟩, rfl⟩⟩
  | ok path =>
    obtain ⟨removed, pruned, pruning, last⟩ := Procedure.goes_bind later
    obtain ⟨ended, rfl⟩ := Procedure.goes_done last
    cases ended
    exact ⟨writing, .inr ⟨path, removed, rfl, pruning⟩⟩

/-- A pass that ends no activation runs a cycle, or leaves the disk alone. -/
theorem goes_pass {source : RoleSource} (on : (s.state.onControl c now).2 ≠ .deactivated) {after : Scheduler}
    {ending : PassEnd} {notices : List Notice} (goes : (s.pass c source now).Goes fallible d (after, ending, notices) d') :
    (∀ written, ending ≠ .sampled written) ∧ d' = d ∨
    ∃ looked written cycled, Alike s looked ∧ ending = .sampled written ∧
      (looked.cycle c source.current now).Goes fallible d (after, written, cycled) d' := by
  obtain ⟨⟨looked, noticed⟩, between, looking, later⟩ := Procedure.goes_bind goes
  have alike : Alike s looked := (ends_reconcile (Procedure.ends_of_goes looking)).1
  have still : between = d := by
    unfold reconcile at looking
    split at looking
    · next off => exact absurd (by rw [off]) on
    · exact (Procedure.goes_done looking).2
  subst still
  simp only at later
  split at later
  · split at later
    · obtain ⟨ended, rfl⟩ := Procedure.goes_done later
      cases ended
      exact .inl ⟨by simp, rfl⟩
    · obtain ⟨⟨ran, written, cycled⟩, finished, cycling, last⟩ := Procedure.goes_bind later
      obtain ⟨ended, rfl⟩ := Procedure.goes_done last
      cases ended
      exact .inr ⟨looked, written, cycled, alike, rfl, cycling⟩
  · obtain ⟨ended, rfl⟩ := Procedure.goes_done later
    cases ended
    exact .inl ⟨by simp, rfl⟩

end Scheduler

end NodeTelemetry
