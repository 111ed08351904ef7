import NodeTelemetry.Proofs.Schedule.Watched

/-!
# Shutting down

The shutdown can be signalled at any moment, also between two actions of a
cycle. A loop looks for the signal when a cycle has ended and while it waits, and
a wait that could end for several reasons ends for any of them. So one more
cycle may start behind the signal, but no second one (`Watched.starts_le_one`),
and what a loop returns are the counters as its last turn left them
(`Watched.exists_stop`).
-/

namespace NodeTelemetry

namespace Watched

variable {ι : Type} [DecidableEq ι] {f : ι → Control → Control}

/-- How many cycles start. -/
def starts (f : ι → Control → Control) (w : Watched ι) : List (Happening ι) → Nat
  | [] => 0
  | .step :: past => starts f w past + if (w.after f past).Starting then 1 else 0
  | _ :: past => starts f w past

/-! ## After the signal -/

theorem signal_step (w : Watched ι) : (w.step f).signal = w.signal := by
  have stepped := w.stepped_step (f := f)
  generalize w.step f = next at stepped ⊢
  cases stepped <;> rfl

theorem visible_happen {w : Watched ι} (visible : w.signal.visible = true) (h : Happening ι) :
    (w.happen f h).signal.visible = true := by
  cases h with
  | step => rwa [happen, signal_step]
  | event e =>
    cases e with
    | signal =>
      simp only [happen]
      split <;> exact visible
    | _ => exact visible
  | send => rfl
  | drop => simp [happen, ShutdownSignal.visible]
  | _ => exact visible

theorem visible_after {w : Watched ι} (visible : w.signal.visible = true) (hs : List (Happening ι)) :
    (w.after f hs).signal.visible = true := by
  induction hs with
  | nil => exact visible
  | cons h past ih => exact visible_happen ih h

/-- The shutdown is visible, and the loop has come so far that it starts no further cycle. -/
structure Spent (w : Watched ι) : Prop where
  visible : w.signal.visible = true
  far : w.work ≠ none ∨ w.node.stage = .finish ∨ w.loop.phase = .stopped ∨ w.loop.phase = .failed

omit [DecidableEq ι] in
theorem Spent.not_starting {w : Watched ι} (spent : w.Spent) : ¬ w.Starting := by
  rintro ⟨idle, running, stage⟩
  rcases spent.far with busy | finish | stopped | failed
  · exact busy idle
  · cases stage.symm.trans finish
  · cases running.symm.trans stopped
  · cases running.symm.trans failed

omit [DecidableEq ι] in
theorem Spent.awake {w : Watched ι} (spent : w.Spent) (sound : w.Sound) : w.loop.isWaiting = false := by
  rcases spent.far with busy | finish | stopped | failed
  · exact isWaiting_of_running (sound.busy busy).1
  · by_cases running : w.loop.phase = .running
    · exact isWaiting_of_running running
    · cases (sound.resting running).symm.trans finish
  · simp [Loop.isWaiting, stopped]
  · simp [Loop.isWaiting, failed]

theorem Spent.step {w : Watched ι} (spent : w.Spent) : (w.step f).Spent := by
  refine ⟨by rw [signal_step, spent.visible], ?_⟩
  have stepped := w.stepped_step (f := f)
  generalize w.step f = next at stepped ⊢
  cases stepped with
  | ended => exact .inr (.inl rfl)
  | went => exact .inl (by simp)
  | begun => exact .inl (by simp)
  | moved idle running =>
    rcases spent.far with busy | finish | stopped | failed
    · exact absurd idle busy
    · -- behind a cycle the loop looks for the signal, and there it is
      refine .inr (.inr (.inl ?_))
      simp [Node.move, Loop.advance, finish, running, spent.visible]
    · cases running.symm.trans stopped
    · cases running.symm.trans failed
  | rested => exact spent.far

theorem Spent.happen {w : Watched ι} (spent : w.Spent) (sound : w.Sound) (h : Happening ι) : (w.happen f h).Spent := by
  by_cases step : h = .step
  · rw [step]
    exact spent.step
  · obtain ⟨work, stage⟩ := work_happen (f := f) w step
    refine ⟨visible_happen spent.visible h, ?_⟩
    rw [work, stage, loop_happen (spent.awake sound) step]
    exact spent.far

/-- The one cycle that may start behind the signal. -/
theorem Starting.spent {w : Watched ι} (starting : w.Starting) (visible : w.signal.visible = true) : (w.step f).Spent := by
  refine ⟨by rw [signal_step, visible], ?_⟩
  cases broken : w.node.world.source.isBroken with
  | false =>
    rw [step_of_starting starting broken]
    exact .inl (by simp)
  | true =>
    rw [step_of_idle starting.1 (by simp [broken])]
    refine .inr (.inr (.inr ?_))
    simp [Node.move, Loop.advance, starting.2.2, starting.2.1, broken]

theorem starts_of_spent {w : Watched ι} (sound : w.Sound) (spent : w.Spent) (hs : List (Happening ι)) :
    w.starts f hs = 0 ∧ (w.after f hs).Spent := by
  induction hs with
  | nil => exact ⟨rfl, spent⟩
  | cons h past ih =>
    obtain ⟨none, spent⟩ := ih
    refine ⟨?_, spent.happen (sound.after past) h⟩
    cases h with
    | step => rw [starts, none, if_neg spent.not_starting]
    | _ => exact none

/-- At most one more cycle starts once the shutdown is visible. -/
theorem starts_le_one {w : Watched ι} (sound : w.Sound) (visible : w.signal.visible = true) (hs : List (Happening ι)) :
    w.starts f hs = 0 ∨ w.starts f hs = 1 ∧ (w.after f hs).Spent := by
  induction hs with
  | nil => exact .inl rfl
  | cons h past ih =>
    have sound := sound.after (f := f) past
    rcases ih with none | ⟨one, spent⟩
    · by_cases starts : h = .step ∧ (w.after f past).Starting
      · obtain ⟨rfl, starting⟩ := starts
        refine .inr ⟨?_, starting.spent (visible_after visible past)⟩
        rw [Watched.starts, none, if_pos starting]
      · refine .inl ?_
        cases h with
        | step => rw [Watched.starts, none, if_neg fun starting => starts ⟨rfl, starting⟩]
        | _ => exact none
    · refine .inr ⟨?_, spent.happen sound h⟩
      cases h with
      | step => rw [starts, one, if_neg spent.not_starting]
      | _ => exact one

/-! ## How a loop stops -/

/-- A loop that has stopped stays as it is. -/
theorem stopped_happen {w : Watched ι} (sound : w.Sound) (stopped : w.loop.phase = .stopped) (h : Happening ι) :
    (w.happen f h).loop = w.loop := by
  by_cases step : h = .step
  · have idle : w.work = none := by
      by_contra busy
      cases stopped.symm.trans (sound.busy busy).1
    subst step
    rw [happen, step_of_idle idle (by simp [Starting, stopped]), Node.move_loop_of_not_running f (by simp [stopped])]
  · exact loop_happen (by simp [Loop.isWaiting, stopped]) step

/-- A step stops a loop only behind a cycle. -/
theorem stop_of_step {w : Watched ι} (going : w.loop.phase ≠ .stopped) (stopped : (w.step f).loop.phase = .stopped) :
    w.signal.visible = true ∧ w.work = none ∧ w.node.stage = .finish ∧
      (w.step f).loop.scheduler = w.loop.scheduler := by
  have stepped := w.stepped_step (f := f)
  generalize w.step f = next at stepped stopped ⊢
  cases stepped with
  | moved idle running =>
    obtain ⟨signalled, same⟩ := Loop.stopped_of_advance running stopped
    obtain ⟨finish, visible⟩ : w.node.stage = .finish ∧ w.signal.visible = true := by simpa using signalled
    exact ⟨visible, idle, finish, same⟩
  | _ => exact absurd stopped going

/-- All else stops a loop only at the end of a wait. -/
theorem stop_of_happen {w : Watched ι} {h : Happening ι} (other : h ≠ .step) (going : w.loop.phase ≠ .stopped)
    (stopped : (w.happen f h).loop.phase = .stopped) :
    w.signal.visible = true ∧ w.loop.isWaiting = true ∧ (w.happen f h).loop.scheduler = w.loop.scheduler := by
  have waiting : w.loop.isWaiting = true := by
    by_contra awake
    rw [loop_happen (by simpa using awake) other] at stopped
    exact going stopped
  cases h with
  | step => exact absurd rfl other
  | event e =>
    cases e with
    | signal =>
      simp only [happen] at stopped ⊢
      split at stopped
      · next visible => exact ⟨visible, waiting, by rw [if_pos visible]; exact w.loop.scheduler_signal⟩
      · exact absurd stopped going
    | _ =>
      rcases w.node.world.phase_after _ with same | running | ⟨shutdown, _⟩
      · exact absurd (same.symm.trans stopped) going
      · cases running.symm.trans stopped
      · cases shutdown
  | _ => exact absurd stopped going

/-- Where a loop can stop: the shutdown is visible, and it is behind a cycle or waits. -/
structure Leaving (w : Watched ι) : Prop where
  going : w.loop.phase ≠ .stopped
  visible : w.signal.visible = true
  idle : w.work = none
  place : w.node.stage = .finish ∨ w.loop.isWaiting = true

theorem leaving_of_stop {w : Watched ι} (sound : w.Sound) (going : w.loop.phase ≠ .stopped) {h : Happening ι}
    (stopped : (w.happen f h).loop.phase = .stopped) :
    w.Leaving ∧ (w.happen f h).loop.scheduler = w.loop.scheduler := by
  by_cases step : h = .step
  · subst step
    obtain ⟨visible, idle, finish, same⟩ := stop_of_step going stopped
    exact ⟨⟨going, visible, idle, .inl finish⟩, same⟩
  · obtain ⟨visible, waiting, same⟩ := stop_of_happen step going stopped
    refine ⟨⟨going, visible, ?_, .inr waiting⟩, same⟩
    by_contra busy
    rw [isWaiting_of_running (sound.busy busy).1] at waiting
    cases waiting

/-- A loop that has stopped keeps what it had when it did. -/
theorem exists_stop {w : Watched ι} (sound : w.Sound) (going : w.loop.phase ≠ .stopped) {hs : List (Happening ι)}
    (stopped : (w.after f hs).loop.phase = .stopped) :
    ∃ later h earlier, hs = later ++ h :: earlier ∧ (w.after f earlier).Leaving ∧
      (w.after f hs).loop.scheduler = (w.after f earlier).loop.scheduler := by
  induction hs with
  | nil => exact absurd stopped going
  | cons h past ih =>
    have before := sound.after (f := f) past
    by_cases already : (w.after f past).loop.phase = .stopped
    · obtain ⟨later, last, earlier, rfl, leaving, same⟩ := ih already
      refine ⟨h :: later, last, earlier, rfl, leaving, ?_⟩
      rw [after, stopped_happen before already, same]
    · exact ⟨[], h, past, rfl, leaving_of_stop before already stopped⟩

/-- Behind a cycle the next step stops a loop that sees the shutdown. -/
theorem Driven.stops_behind {w : Watched ι} (sound : w.Sound) (visible : w.signal.visible = true)
    (finish : w.node.stage = .finish) {course : Nat → Happening ι} (driven : Driven course) :
    ∃ n, (w.after f (past course n)).loop.phase = .stopped := by
  have running : w.loop.phase = .running := by
    by_contra rests
    cases (sound.resting rests).symm.trans finish
  have idle : w.work = none := by
    by_contra busy
    cases (sound.busy busy).2.symm.trans finish
  obtain ⟨k, others, step⟩ := driven.exists_step w (f := f)
  obtain ⟨work, stage, loop⟩ := after_past_of_others (f := f) (w := w) others
  have loop := loop (isWaiting_of_running running)
  refine ⟨k + 1, ?_⟩
  rw [step, step_of_idle (work.trans idle) fun starting => by cases (starting.1.2.2.symm.trans stage).trans finish]
  simp [Node.move, Loop.advance, stage, finish, loop, running, visible_after visible]

theorem Driven.exists_stopped {w : Watched ι} (sound : w.Sound) (visible : w.signal.visible = true)
    (far : w.work ≠ none ∨ w.node.stage = .finish) {course : Nat → Happening ι} (driven : Driven course) :
    ∃ n, (w.after f (past course n)).loop.phase = .stopped := by
  rcases far with busy | finish
  · obtain ⟨cycle, under⟩ := Option.ne_none_iff_exists'.mp busy
    obtain ⟨k, _, _, _, finish, _⟩ := driven.exists_behind sound under (f := f)
    obtain ⟨n, stopped⟩ := (driven.later k).stops_behind (sound.after _) (visible_after visible _) finish (f := f)
    exact ⟨k + n, by rw [after_past_add, stopped]⟩
  · exact driven.stops_behind sound visible finish

/-! ## The shutdown is observed -/

/-- From the start of a loop, whatever has happened: behind the shutdown at most one more cycle starts, and none
    where a cycle was under way or has just ended; there the loop stops. A cycle that has started is carried out,
    in any course in which the loop goes on. The loop returns only since the shutdown was visible behind a cycle
    or during a wait, with the counters that it had there, and a wait can end so as soon as it is visible. -/
theorem shutdown_observed {start : Watched ι} (running : start.loop.phase = .running) (idle : start.work = none)
    (earlier later : List (Happening ι)) (course : Nat → Happening ι) :
    let w := start.after f earlier
    (w.signal.visible = true → w.starts f later ≤ 1) ∧
    (w.signal.visible = true → w.work ≠ none ∨ w.node.stage = .finish →
      w.starts f later = 0 ∧ (Driven course → ∃ n, (w.after f (past course n)).loop.phase = .stopped)) ∧
    (w.Starting → w.node.world.source.isBroken = false →
      let cycle := w.loop.scheduler.cycle w.loop.loaded w.node.world.source.current w.node.world.now
      let begun := w.step f
      ((begun.after f later).UnderWay cycle w.loop ∨
        ∃ since till, later = since ++ till ∧ (begun.after f till).Behind cycle w.loop) ∧
      (Driven course → ∃ n, (begun.after f (past course n)).Behind cycle w.loop) ∧
      ∀ ended, cycle.Ends ended →
        w.loop.scheduler.Cycled w.loop.loaded w.node.world.source.current w.node.world.now ended) ∧
    (w.loop.phase = .stopped → ∃ since h before, earlier = since ++ h :: before ∧ (start.after f before).Leaving ∧
      w.loop.scheduler = (start.after f before).loop.scheduler) ∧
    (w.loop.isWaiting = true → w.signal.visible = true →
      (w.happen f (.event .signal)).loop = { w.loop with phase := .stopped }) := by
  have outset : start.Sound := ⟨fun busy => absurd idle busy, fun rests => absurd running rests⟩
  intro w
  have sound : w.Sound := outset.after earlier
  refine ⟨fun visible => ?_, fun visible far => ⟨?_, fun driven => driven.exists_stopped sound visible far⟩,
    fun starting whole => ?_, exists_stop outset (by simp [running]), fun waiting visible => ?_⟩
  · rcases starts_le_one (f := f) sound visible later with none | ⟨one, _⟩
    · omega
    · omega
  · exact (starts_of_spent sound ⟨visible, far.imp_right .inl⟩ later).1
  · intro cycle begun
    have under : begun.work = some cycle := by rw [show begun = _ from step_of_starting starting whole]
    have same : begun.loop = w.loop := by rw [show begun = _ from step_of_starting starting whole]
    have carried := carried_out sound.step under (f := f) later
    have comes (driven : Driven course) := driven.exists_behind sound.step under (f := f)
    rw [same] at carried comes
    exact ⟨carried, comes, fun _ => Scheduler.cycled_of_ends⟩
  · rw [happen, if_pos visible]
    exact w.loop.signal_of_isWaiting waiting

/-- The shutdown is signalled right before the first cycle, and that is carried out and is the last. -/
theorem shutdown_observed_before_first_cycle :
    let f (_ : Unit) (c : Control) : Control := c
    let start : Watched Unit := ⟨⟨World.alone ⟨true, ⟨0⟩, ⟨1000000000⟩, ⟨0⟩⟩, .load, fun _ => .start⟩, ⟨false, false⟩, none⟩
    let w := start.after f [.send, .step, .step, .step]
    let later : List (Happening Unit) := List.replicate 20 .step
    w.starts f later = 1 ∧ (w.after f later).loop.phase = .stopped ∧
      (w.after f later).loop.scheduler.stats.samplesWritten = 1 := by
  intro f start w later
  have running : start.loop.phase = .running := rfl
  obtain ⟨atMost, _⟩ := shutdown_observed (f := f) running rfl [.send, .step, .step, .step] later fun _ => .step
  exact ⟨Nat.le_antisymm (atMost rfl) (by decide +kernel), by decide +kernel, by decide +kernel⟩

end Watched

end NodeTelemetry
