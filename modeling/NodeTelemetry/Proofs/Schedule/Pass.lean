import NodeTelemetry.Proofs.Disk.Change
import NodeTelemetry.Schedule.Loop

/-!
# What a pass does

The state that a pass leaves, how it ends and what it makes of the disk. When a
cycle runs, the state that it leaves and that it is counted do not depend on
the disk, nor on how the actions on it go (`Scheduler.ends_pass`). Which counter
counts it does, and what becomes of the disk (`Scheduler.pass_cases`).
-/

namespace NodeTelemetry

/-- The cycles that were counted, with a file that was written or with a failure. -/
def Stats.counted (s : Stats) : Nat := s.samplesWritten + s.writeFailures

namespace Scheduler

/-- Schedulers that keep the files of one instance in one store by one clock. -/
structure Alike (s s' : Scheduler) : Prop where
  store : s'.store = s.store
  builder : s'.builder = s.builder
  clock : s'.clock = s.clock

theorem Alike.refl (s : Scheduler) : Alike s s := ⟨rfl, rfl, rfl⟩

theorem Alike.trans {s s' s'' : Scheduler} (first : Alike s s') (second : Alike s' s'') : Alike s s'' :=
  ⟨second.store.trans first.store, second.builder.trans first.builder, second.clock.trans first.clock⟩

theorem Alike.instanceId {s s' : Scheduler} (alike : Alike s s') : s'.instanceId = s.instanceId := by
  unfold Scheduler.instanceId
  rw [alike.builder]

theorem Alike.sample {s s' : Scheduler} (alike : Alike s s') (report : Option RoleState) (now : Instant) :
    s'.sample report now = s.sample report now := by
  unfold Scheduler.sample
  rw [alike.builder, alike.clock]

/-! ## Looking at the flag -/

theorem counted_countPurge (stats : Stats) (r : Except StorageError Removal) :
    (countPurge stats r).1.counted = stats.counted := by
  unfold countPurge
  split
  · rfl
  · split <;> rfl

/-- Whatever stands on the disk, the flag alone decides about the state. -/
theorem ends_reconcile {s : Scheduler} {c : Control} {now : Instant} {ended : Scheduler × List Notice}
    (ends : (s.reconcile c now).Ends ended) :
    Alike s ended.1 ∧ ended.1.state = (s.state.onControl c now).1 ∧ ended.1.stats.counted = s.stats.counted := by
  unfold reconcile at ends
  split at ends
  · next state looked =>
    obtain ⟨purged, _, last⟩ := Procedure.ends_bind ends
    cases Procedure.ends_done last
    exact ⟨⟨rfl, rfl, rfl⟩, by rw [looked], counted_countPurge s.stats purged⟩
  · next state transition _ looked =>
    cases Procedure.ends_done ends
    exact ⟨⟨rfl, rfl, rfl⟩, by rw [looked], rfl⟩

theorem reconcile_scheduler (s : Scheduler) (c : Control) (now : Instant) (d : Disk) :
    Alike s ((s.reconcile c now).run d).1.1 ∧
      ((s.reconcile c now).run d).1.1.state = (s.state.onControl c now).1 := by
  obtain ⟨alike, state, _⟩ := ends_reconcile (Procedure.ends_run (s.reconcile c now) d)
  exact ⟨alike, state⟩

/-- Only switching off touches the disk. -/
theorem reconcile_disk (s : Scheduler) (c : Control) (now : Instant) (d : Disk) :
    ((s.reconcile c now).run d).2 =
      if (s.state.onControl c now).2 = .deactivated then ((s.store.purge s.instanceId).run d).2 else d := by
  unfold reconcile
  split
  · next state looked =>
    rw [Procedure.run_bind, looked, if_pos rfl]
    rfl
  · next state transition other looked =>
    rw [looked, if_neg other]
    rfl

theorem reconcile_stats (s : Scheduler) (c : Control) (now : Instant) (d : Disk) :
    ((s.reconcile c now).run d).1.1.stats =
      if (s.state.onControl c now).2 = .deactivated then (countPurge s.stats ((s.store.purge s.instanceId).run d).1).1
      else s.stats := by
  unfold reconcile
  split
  · next state looked =>
    rw [Procedure.run_bind, looked, if_pos rfl]
    rfl
  · next state transition other looked =>
    rw [looked, if_neg other]
    rfl

/-! ## The cycle -/

theorem counted_countPrune (stats : Stats) (r : Except StorageError Removal) :
    (countPrune stats r).1.counted = stats.counted := by
  unfold countPrune
  split
  · rfl
  · split <;> rfl

/-- The ways in which a cycle ends, whatever stands on the disk: the file could not be written, or it was written
    and pruning came to something. -/
inductive Cycled (s : Scheduler) (c : Control) (report : Option RoleState) (now : Instant) :
    Scheduler × Except StorageError Path × List Notice → Prop where
  | unwritten {e : StorageError} (failed : (s.store.write (s.sample report now)).Ends (.error e)) :
    Cycled s c report now
      ({ s with
          state := s.state.afterSample now,
          stats := { s.stats with writeFailures := s.stats.writeFailures + 1 } }, .error e, [.writeFailed])
  | written {path : Path} {pruned : Except StorageError Removal} {stats : Stats} {notices : List Notice}
    (wrote : (s.store.write (s.sample report now)).Ends (.ok path))
    (followed : (s.store.prune s.instanceId (s.clock.nowMs now) c.keep).Ends pruned)
    (counted : countPrune { s.stats with samplesWritten := s.stats.samplesWritten + 1 } pruned = (stats, notices)) :
    Cycled s c report now ({ s with state := s.state.afterSample now, stats }, .ok path, notices)

theorem cycled_of_ends {s : Scheduler} {c : Control} {report : Option RoleState} {now : Instant}
    {ended : Scheduler × Except StorageError Path × List Notice} (ends : (s.cycle c report now).Ends ended) :
    Cycled s c report now ended := by
  unfold cycle at ends
  obtain ⟨wrote, written, rest⟩ := Procedure.ends_bind ends
  cases wrote with
  | error e =>
    cases Procedure.ends_done rest
    exact .unwritten written
  | ok path =>
    obtain ⟨pruned, followed, last⟩ := Procedure.ends_bind rest
    cases Procedure.ends_done last
    exact .written written followed rfl

/-- A cycle is counted once and leaves the state behind a sample. -/
theorem ends_cycle {s : Scheduler} {c : Control} {report : Option RoleState} {now : Instant}
    {ended : Scheduler × Except StorageError Path × List Notice} (ends : (s.cycle c report now).Ends ended) :
    Alike s ended.1 ∧ ended.1.state = s.state.afterSample now ∧ ended.1.stats.counted = s.stats.counted + 1 := by
  cases cycled_of_ends ends with
  | unwritten failed => exact ⟨⟨rfl, rfl, rfl⟩, rfl, rfl⟩
  | @written path pruned stats notices _ _ counted =>
    refine ⟨⟨rfl, rfl, rfl⟩, rfl, ?_⟩
    have same := counted_countPrune { s.stats with samplesWritten := s.stats.samplesWritten + 1 } pruned
    rw [counted] at same
    simp only [Stats.counted] at same ⊢
    omega

theorem cycle_scheduler (s : Scheduler) (c : Control) (report : Option RoleState) (now : Instant) (d : Disk) :
    Alike s ((s.cycle c report now).run d).1.1 ∧
      ((s.cycle c report now).run d).1.1.state = s.state.afterSample now := by
  obtain ⟨alike, state, _⟩ := ends_cycle (Procedure.ends_run (s.cycle c report now) d)
  exact ⟨alike, state⟩

theorem cycle_written (s : Scheduler) (c : Control) (report : Option RoleState) (now : Instant) (d : Disk) :
    ((s.cycle c report now).run d).1.2.1 = ((s.store.write (s.sample report now)).run d).1 := by
  unfold cycle
  rw [Procedure.run_bind]
  cases ((s.store.write (s.sample report now)).run d).1 with
  | error e => rfl
  | ok path =>
    simp only [Procedure.run_bind]
    rfl

/-- A cycle writes, and prunes if the file could be written. -/
theorem cycle_disk (s : Scheduler) (c : Control) (report : Option RoleState) (now : Instant) (d : Disk) :
    ((s.cycle c report now).run d).2 =
      match ((s.store.write (s.sample report now)).run d).1 with
      | .error _ => ((s.store.write (s.sample report now)).run d).2
      | .ok _ => ((s.store.prune s.instanceId (s.clock.nowMs now) c.keep).run
          ((s.store.write (s.sample report now)).run d).2).2 := by
  unfold cycle
  rw [Procedure.run_bind]
  cases ((s.store.write (s.sample report now)).run d).1 with
  | error e => rfl
  | ok path =>
    simp only [Procedure.run_bind]
    rfl

/-- It counts the write, and what came of pruning. -/
theorem cycle_stats (s : Scheduler) (c : Control) (report : Option RoleState) (now : Instant) (d : Disk) :
    ((s.cycle c report now).run d).1.1.stats =
      match ((s.store.write (s.sample report now)).run d).1 with
      | .error _ => { s.stats with writeFailures := s.stats.writeFailures + 1 }
      | .ok _ => (countPrune { s.stats with samplesWritten := s.stats.samplesWritten + 1 }
          ((s.store.prune s.instanceId (s.clock.nowMs now) c.keep).run
            ((s.store.write (s.sample report now)).run d).2).1).1 := by
  unfold cycle
  rw [Procedure.run_bind]
  cases ((s.store.write (s.sample report now)).run d).1 with
  | error e => rfl
  | ok path =>
    simp only [Procedure.run_bind]
    rfl

/-! ## The pass -/

/-- The three ways in which a pass ends, after it has looked at the flag. -/
theorem pass_cases (s : Scheduler) (c : Control) (source : RoleSource) (now : Instant) (d : Disk) :
    let looked := (s.reconcile c now).run d
    let passed := (s.pass c source now).run d
    (looked.1.1.state.isDue c now = false ∧ passed.1.1 = looked.1.1 ∧ passed.1.2.1 = .idle ∧ passed.2 = looked.2) ∨
    (looked.1.1.state.isDue c now = true ∧ source.isBroken = true ∧
      passed.1.1 = looked.1.1 ∧ passed.1.2.1 = .failed ∧ passed.2 = looked.2) ∨
    (looked.1.1.state.isDue c now = true ∧ source.isBroken = false ∧
      passed.1.1 = ((looked.1.1.cycle c source.current now).run looked.2).1.1 ∧
      passed.1.2.1 = .sampled ((looked.1.1.cycle c source.current now).run looked.2).1.2.1 ∧
      passed.2 = ((looked.1.1.cycle c source.current now).run looked.2).2) := by
  intro looked passed
  have split : passed = ((s.pass c source now).run d) := rfl
  unfold pass at split
  rw [Procedure.run_bind] at split
  cases due : looked.1.1.state.isDue c now with
  | false =>
    refine .inl ⟨rfl, ?_⟩
    rw [split]
    simp only [looked] at due
    simp [due, looked]
  | true =>
    cases broken : source.isBroken with
    | true =>
      refine .inr (.inl ⟨rfl, rfl, ?_⟩)
      rw [split]
      simp only [looked] at due
      simp [due, broken, looked]
    | false =>
      refine .inr (.inr ⟨rfl, rfl, ?_⟩)
      rw [split]
      simp only [looked] at due
      simp [due, broken, looked]

/-- Whatever stands on the disk, the time and the parameters decide whether a pass runs a cycle, and with which
    state it ends. -/
theorem ends_pass {s : Scheduler} {c : Control} {source : RoleSource} {now : Instant}
    {ended : Scheduler × PassEnd × List Notice} (ends : (s.pass c source now).Ends ended) :
    let looked := (s.state.onControl c now).1
    (looked.isDue c now = false ∧ ended.2.1 = .idle ∧
      ended.1.state = looked ∧ ended.1.stats.counted = s.stats.counted) ∨
    (looked.isDue c now = true ∧ source.isBroken = true ∧ ended.2.1 = .failed ∧
      ended.1.state = looked ∧ ended.1.stats.counted = s.stats.counted) ∨
    (looked.isDue c now = true ∧ source.isBroken = false ∧ (∃ written, ended.2.1 = .sampled written) ∧
      ended.1.state = looked.afterSample now ∧ ended.1.stats.counted = s.stats.counted + 1) := by
  intro looked
  unfold pass at ends
  obtain ⟨⟨between, notices⟩, reconciled, rest⟩ := Procedure.ends_bind ends
  obtain ⟨_, state, counted⟩ := ends_reconcile reconciled
  simp only at state counted rest
  rw [state] at rest
  cases due : looked.isDue c now with
  | false =>
    simp only [looked] at due
    simp only [due, Bool.false_eq_true, if_false] at rest
    cases Procedure.ends_done rest
    exact .inl ⟨rfl, rfl, state, counted⟩
  | true =>
    simp only [looked] at due
    simp only [due, if_true] at rest
    cases broken : source.isBroken with
    | true =>
      simp only [broken, if_true] at rest
      cases Procedure.ends_done rest
      exact .inr (.inl ⟨rfl, rfl, rfl, state, counted⟩)
    | false =>
      simp only [broken, Bool.false_eq_true, if_false] at rest
      obtain ⟨⟨after, written, cycled⟩, ran, last⟩ := Procedure.ends_bind rest
      obtain ⟨_, sampled, counted'⟩ := ends_cycle ran
      cases Procedure.ends_done last
      exact .inr (.inr ⟨rfl, rfl, ⟨written, rfl⟩, by rw [sampled, state], by rw [counted', counted]⟩)

/-- A pass keeps to its store, its instance and its clock. -/
theorem alike_of_ends_pass {s : Scheduler} {c : Control} {source : RoleSource} {now : Instant}
    {ended : Scheduler × PassEnd × List Notice} (ends : (s.pass c source now).Ends ended) : Alike s ended.1 := by
  unfold pass at ends
  obtain ⟨⟨between, notices⟩, reconciled, rest⟩ := Procedure.ends_bind ends
  have looked : Alike s between := (ends_reconcile reconciled).1
  simp only at rest
  split at rest
  · split at rest
    · cases Procedure.ends_done rest
      exact looked
    · obtain ⟨⟨after, written, cycled⟩, ran, last⟩ := Procedure.ends_bind rest
      cases Procedure.ends_done last
      exact looked.trans (ends_cycle ran).1
  · cases Procedure.ends_done rest
    exact looked

end Scheduler

end NodeTelemetry
