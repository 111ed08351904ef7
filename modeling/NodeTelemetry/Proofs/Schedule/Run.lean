import NodeTelemetry.Control.Surface
import NodeTelemetry.Proofs.Schedule.Pass

/-!
# Runs of a loop

A loop in its surroundings: the parameters, the source of the role, the clock and
the disk. Between two turns anything may happen, in any order: time passes,
parameters are updated, roles are published, a wait ends, others touch the disk.
A run keeps one record for each turn, the newest first.
-/

namespace NodeTelemetry

/-- Whether a loop is asleep. -/
def Loop.isWaiting (l : Loop) : Bool :=
  match l.phase with
  | .waiting _ => true
  | _ => false

namespace Loop

theorem scheduler_wake (l : Loop) : l.wake.scheduler = l.scheduler := by
  unfold wake
  split <;> rfl

theorem scheduler_signal (l : Loop) : l.signal.scheduler = l.scheduler := by
  unfold signal
  split <;> rfl

theorem phase_wake (l : Loop) : l.wake.phase = if l.isWaiting then .running else l.phase := by
  unfold wake isWaiting
  split <;> simp_all

theorem signal_of_isWaiting (l : Loop) (waiting : l.isWaiting = true) : l.signal = { l with phase := .stopped } := by
  unfold isWaiting at waiting
  split at waiting
  · next deadline waits => simp [signal, waits]
  · cases waiting

theorem phase_signal (l : Loop) : l.signal.phase = if l.isWaiting then .stopped else l.phase := by
  unfold signal isWaiting
  split <;> simp_all

end Loop

/-- A loop in its surroundings. -/
structure World where
  loop : Loop
  surface : Surface
  source : RoleSource
  now : Instant
  disk : Disk

/-- What may happen between two turns. -/
inductive Event where
  | elapse (span : Span)
  | update (f : Control → Control)
  | report (source : RoleSource)
  /-- A wait ends at its deadline. -/
  | expire
  /-- A wait ends since the parameters have changed; the wake-up is used up. -/
  | notice
  /-- A wait ends with the shutdown. -/
  | signal

/-- What is kept of one turn. -/
structure Iteration where
  now : Instant
  /-- The parameters that were loaded. -/
  control : Control
  transition : Transition
  /-- The snapshot of the cycle, if one ran. -/
  snapshot : Snapshot
  ending : Scheduler.PassEnd

/-- The file that a turn wrote. -/
def Iteration.file? (i : Iteration) : Option Path :=
  match i.ending with
  | .sampled (.ok path) => some path
  | _ => none

theorem Iteration.file?_eq_some_iff {i : Iteration} {path : Path} :
    i.file? = some path ↔ i.ending = .sampled (.ok path) := by
  unfold file?
  split <;> simp_all

namespace World

/-- The store that a world's scheduler keeps. -/
def store (w : World) : Store := w.loop.scheduler.store

/-- The instance whose files the scheduler keeps. -/
def instanceId (w : World) : String := w.loop.scheduler.instanceId

/-- A world in which a scheduler was just built, with the parameters in force. Its first grace period
    counts from `startedAt`. -/
structure Fresh (w : World) (startedAt : Instant) : Prop where
  valid : w.surface.current.Valid
  built : w.loop = Loop.new (Scheduler.new w.surface.current w.store w.loop.scheduler.builder w.loop.scheduler.clock
    startedAt) w.surface.current

/-- The world after something happened. Only a loop that is asleep can be woken. -/
def after (w : World) : Event → World
  | .elapse span => { w with now := ⟨w.now.nanos + span.nanos⟩ }
  | .update f => { w with surface := (w.surface.update f).1 }
  | .report source => { w with source }
  | .expire => if w.loop.deadline?.any (·.nanos ≤ w.now.nanos) then { w with loop := w.loop.wake } else w
  | .notice =>
    if w.loop.isWaiting && w.surface.notified then
      { w with loop := w.loop.wake, surface := { w.surface with notified := false } }
    else w
  | .signal => { w with loop := w.loop.signal }

/-- The record of the turn that a running loop makes now. -/
def iteration (w : World) : Iteration where
  now := w.now
  control := w.surface.current
  transition := (w.loop.scheduler.state.onControl w.surface.current w.now).2
  snapshot := w.loop.scheduler.sample w.source.current w.now
  ending := ((w.loop.scheduler.pass w.surface.current w.source w.now).run w.disk).1.2.1

/-- The world after a turn. -/
def turn (w : World) (signalled : Bool) : World :=
  let turned := (w.loop.turn w.surface.current w.source signalled w.now).run w.disk
  { w with loop := turned.1.1, disk := turned.2 }

end World

/-- One node whose files lie in the working directory of a disk that is otherwise empty. -/
def World.alone (c : Control) : World where
  loop := Loop.new (Scheduler.new c ⟨⟨[.here]⟩⟩ ⟨⟨"a", "r"⟩, ⟨.mongod, "wt", "7", []⟩, ⟨0⟩⟩ ⟨0, ⟨0⟩⟩ ⟨0⟩) c
  surface := ⟨c, 0, false⟩
  source := .fixed .standalone
  now := ⟨0⟩
  disk := .empty

/-- The runs from a world, where others change the disk only in a certain way. -/
inductive Run (touches : Disk → Disk → Prop) (start : World) : List Iteration → World → Prop where
  | start : Run touches start [] start
  | happen {past : List Iteration} {w : World} (run : Run touches start past w) (e : Event) :
    Run touches start past (w.after e)
  | others {past : List Iteration} {w : World} (run : Run touches start past w) {d : Disk} (touched : touches w.disk d) :
    Run touches start past { w with disk := d }
  | turn {past : List Iteration} {w : World} (run : Run touches start past w) (running : w.loop.phase = .running)
    (signalled : Bool) : Run touches start (w.iteration :: past) (w.turn signalled)

namespace World

/-! ## What happens between turns -/

/-- Whatever happens between turns leaves the scheduler and the disk alone. -/
theorem after_scheduler (w : World) (e : Event) : (w.after e).loop.scheduler = w.loop.scheduler := by
  cases e with
  | expire => simp only [after]; split <;> simp [Loop.scheduler_wake]
  | notice => simp only [after]; split <;> simp [Loop.scheduler_wake]
  | signal => exact w.loop.scheduler_signal
  | _ => rfl

theorem after_disk (w : World) (e : Event) : (w.after e).disk = w.disk := by
  cases e with
  | expire => simp only [after]; split <;> rfl
  | notice => simp only [after]; split <;> rfl
  | _ => rfl

/-- Between turns a loop is woken, or stopped by the shutdown, or left in its phase. -/
theorem phase_after (w : World) (e : Event) :
    (w.after e).loop.phase = w.loop.phase ∨ (w.after e).loop.phase = .running ∨
      e = .signal ∧ (w.after e).loop.phase = .stopped := by
  have woken : w.loop.wake.phase = w.loop.phase ∨ w.loop.wake.phase = .running := by
    rw [Loop.phase_wake]
    split
    · exact .inr rfl
    · exact .inl rfl
  cases e with
  | expire =>
    simp only [after]
    split
    · exact woken.imp_right .inl
    · exact .inl rfl
  | notice =>
    simp only [after]
    split
    · exact woken.imp_right .inl
    · exact .inl rfl
  | signal =>
    show w.loop.signal.phase = _ ∨ _
    rw [after, Loop.phase_signal]
    split
    · exact .inr (.inr ⟨rfl, rfl⟩)
    · exact .inl rfl
  | _ => exact .inl rfl

/-- Nothing that happens between turns brings a failed loop back. -/
theorem after_failed {w : World} {e : Event} (failed : w.loop.phase = .failed) : (w.after e).loop.phase = .failed := by
  have woken : w.loop.wake.phase = .failed := by simp [Loop.wake, failed]
  have signalled : w.loop.signal.phase = .failed := by simp [Loop.signal, failed]
  cases e with
  | expire => simp only [after]; split <;> simp [woken, failed]
  | notice => simp only [after]; split <;> simp [woken, failed]
  | signal => exact signalled
  | _ => exact failed

/-- Time does not run backwards. -/
theorem now_le_after (w : World) (e : Event) : w.now.nanos ≤ (w.after e).now.nanos := by
  cases e with
  | elapse span => exact Nat.le_add_right _ _
  | expire => simp only [after]; split <;> exact Nat.le_refl _
  | notice => simp only [after]; split <;> exact Nat.le_refl _
  | _ => exact Nat.le_refl _

end World

theorem Surface.valid_update {s : Surface} (valid : s.current.Valid) (f : Control → Control) :
    (s.update f).1.current.Valid := by
  simp only [Surface.update]
  split
  · exact valid
  · next accepted =>
    split
    · exact valid
    · exact (Control.validate_eq_ok_iff _).mp accepted

namespace World

/-- Only accepted parameters come into force. -/
theorem valid_after {w : World} (valid : w.surface.current.Valid) (e : Event) : (w.after e).surface.current.Valid := by
  cases e with
  | update f => exact Surface.valid_update valid f
  | expire => simp only [after]; split <;> exact valid
  | notice => simp only [after]; split <;> exact valid
  | _ => exact valid

/-! ## Turns -/

theorem turn_of_running {w : World} (running : w.loop.phase = .running) (signalled : Bool) :
    let passed := (w.loop.scheduler.pass w.surface.current w.source w.now).run w.disk
    (w.turn signalled).loop = ⟨passed.1.1, w.surface.current,
      Loop.phaseAfter passed.1.1 w.surface.current signalled passed.1.2.1⟩ ∧ (w.turn signalled).disk = passed.2 := by
  simp only [turn, Loop.turn, running, Procedure.run_bind]
  exact ⟨rfl, rfl⟩

theorem turn_scheduler {w : World} (running : w.loop.phase = .running) (signalled : Bool) :
    (w.turn signalled).loop.scheduler =
      ((w.loop.scheduler.pass w.surface.current w.source w.now).run w.disk).1.1 := by
  rw [(turn_of_running running signalled).1]

theorem turn_disk {w : World} (running : w.loop.phase = .running) (signalled : Bool) :
    (w.turn signalled).disk = ((w.loop.scheduler.pass w.surface.current w.source w.now).run w.disk).2 :=
  (turn_of_running running signalled).2

theorem alike_turn {w : World} (running : w.loop.phase = .running) (signalled : Bool) :
    Scheduler.Alike w.loop.scheduler (w.turn signalled).loop.scheduler := by
  rw [turn_scheduler running]
  exact Scheduler.alike_of_ends_pass (Procedure.ends_run _ w.disk)

theorem turn_phase {w : World} (running : w.loop.phase = .running) (signalled : Bool) :
    (w.turn signalled).loop.phase =
      Loop.phaseAfter (w.turn signalled).loop.scheduler w.surface.current signalled w.iteration.ending := by
  rw [(turn_of_running running signalled).1]
  rfl

end World

theorem SchedulerState.onControl_deactivated {s : SchedulerState} {c : Control} {now : Instant}
    (off : (s.onControl c now).2 = .deactivated) : (s.onControl c now).1 = .disabled := by
  unfold onControl at off ⊢
  split at off <;> simp_all

namespace World

/-- What a turn does: it purges where an activation ended, it runs a cycle, or it leaves the disk and the
    counters alone. -/
theorem turn_cases {w : World} (running : w.loop.phase = .running) (signalled : Bool) :
    let d := (w.turn signalled).disk
    let stats := (w.turn signalled).loop.scheduler.stats
    let i := w.iteration
    let purged := (w.store.purge w.instanceId).run w.disk
    (i.transition = .deactivated ∧ i.ending = .idle ∧ d = purged.2 ∧
      stats = (Scheduler.countPurge w.loop.scheduler.stats purged.1).1) ∨
    (i.transition ≠ .deactivated ∧ (∀ written, i.ending ≠ .sampled written) ∧ d = w.disk ∧
      stats = w.loop.scheduler.stats) ∨
    (i.transition ≠ .deactivated ∧ ∃ s : Scheduler, Scheduler.Alike w.loop.scheduler s ∧
      s.stats = w.loop.scheduler.stats ∧
      i.ending = .sampled ((s.cycle w.surface.current w.source.current w.now).run w.disk).1.2.1 ∧
      d = ((s.cycle w.surface.current w.source.current w.now).run w.disk).2 ∧
      stats = ((s.cycle w.surface.current w.source.current w.now).run w.disk).1.1.stats) := by
  intro d stats i purged
  have disk : d = _ := turn_disk running signalled
  have counted : stats = _ := congrArg Scheduler.stats (turn_scheduler running signalled)
  have looked := Scheduler.reconcile_disk w.loop.scheduler w.surface.current w.now w.disk
  have counts := Scheduler.reconcile_stats w.loop.scheduler w.surface.current w.now w.disk
  obtain ⟨alike, state⟩ := Scheduler.reconcile_scheduler w.loop.scheduler w.surface.current w.now w.disk
  have passed := Scheduler.pass_cases w.loop.scheduler w.surface.current w.source w.now w.disk
  by_cases off : (w.loop.scheduler.state.onControl w.surface.current w.now).2 = .deactivated
  · -- a state that was just disabled is not due
    refine .inl ⟨off, ?_⟩
    rw [if_pos off] at looked counts
    rw [SchedulerState.onControl_deactivated off] at state
    have notDue : (((w.loop.scheduler.reconcile w.surface.current w.now).run w.disk).1.1.state.isDue
        w.surface.current w.now) = false := by
      rw [state]
      rfl
    rcases passed with ⟨_, idle, ending, same⟩ | ⟨due, _⟩ | ⟨due, _⟩
    · rw [idle] at counted
      exact ⟨ending, disk.trans (same.trans looked), counted.trans counts⟩
    · cases notDue.symm.trans due
    · cases notDue.symm.trans due
  · rw [if_neg off] at looked counts
    refine .inr ?_
    rcases passed with ⟨_, idle, ending, same⟩ | ⟨_, _, idle, ending, same⟩ | ⟨_, _, cycled, ending, same⟩
    · rw [idle] at counted
      exact .inl ⟨off, fun _ ran => (by cases ending.symm.trans ran), disk.trans (same.trans looked), counted.trans counts⟩
    · rw [idle] at counted
      exact .inl ⟨off, fun _ ran => (by cases ending.symm.trans ran), disk.trans (same.trans looked), counted.trans counts⟩
    · rw [looked] at ending same cycled
      rw [cycled] at counted
      exact .inr ⟨off, _, alike, counts, ending, disk.trans same, counted⟩

/-- What a turn does to the disk. -/
theorem disk_cases {w : World} (running : w.loop.phase = .running) (signalled : Bool) :
    let d := (w.turn signalled).disk
    let i := w.iteration
    (i.transition = .deactivated ∧ i.ending = .idle ∧ d = ((w.store.purge w.instanceId).run w.disk).2) ∨
    (i.transition ≠ .deactivated ∧ (∀ written, i.ending ≠ .sampled written) ∧ d = w.disk) ∨
    (i.transition ≠ .deactivated ∧ ∃ s : Scheduler, Scheduler.Alike w.loop.scheduler s ∧
      i.ending = .sampled ((s.cycle w.surface.current w.source.current w.now).run w.disk).1.2.1 ∧
      d = ((s.cycle w.surface.current w.source.current w.now).run w.disk).2) := by
  intro d i
  rcases turn_cases running signalled with ⟨off, idle, disk, _⟩ | ⟨on, skipped, disk, _⟩ | ⟨on, s, alike, _, ran, disk, _⟩
  · exact .inl ⟨off, idle, disk⟩
  · exact .inr (.inl ⟨on, skipped, disk⟩)
  · exact .inr (.inr ⟨on, s, alike, ran, disk⟩)

end World

end NodeTelemetry
