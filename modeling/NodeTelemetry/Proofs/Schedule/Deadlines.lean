import NodeTelemetry.Proofs.Schedule.Ledger
import NodeTelemetry.Proofs.Schedule.Wakeup

/-!
# Deadlines at one instant

A deadline that is reached stays reached, later and under shorter intervals, and
one that the clock cannot hold never is. A sample moves the deadline behind its
own instant, since no scrape interval is empty. So a loop that nobody disturbs
makes at most two turns at an instant and then waits for a later one
(`Loop.settle_rests`).
-/

namespace NodeTelemetry

/-- A shorter span leads to an earlier instant. -/
theorem Instant.add?_mono {i j : Instant} {s s' : Span} (shorter : s'.nanos ≤ s.nanos) (fits : i.add? s = some j) :
    ∃ j', i.add? s' = some j' ∧ j'.nanos ≤ j.nanos := by
  obtain ⟨held, same⟩ := add?_eq_some_iff.mp fits
  exact ⟨⟨i.nanos + s'.nanos⟩, add?_eq_some_iff.mpr ⟨by omega, rfl⟩, by simp only; omega⟩

/-- What lies beyond the clock is no instant. -/
theorem Instant.add?_of_limit_le {i : Instant} {s : Span} (beyond : limit ≤ i.nanos + s.nanos) : i.add? s = none := by
  unfold add?
  exact if_neg (by omega)

namespace SchedulerState

variable {s : SchedulerState} {c c' : Control} {now : Instant}

theorem isDue_iff : s.isDue c now = true ↔ ∃ due, s.deadline c = some due ∧ due.nanos ≤ now.nanos := by
  unfold isDue
  cases s.deadline c <;> simp

theorem not_isDue_iff : s.isDue c now = false ↔ ∀ due, s.deadline c = some due → now.nanos < due.nanos := by
  rw [← Bool.not_eq_true, isDue_iff]
  simp

/-- A shorter interval gives an earlier deadline. -/
theorem deadline_mono (grace : ∀ since, s = .awaitingGrace since → c'.grace.nanos ≤ c.grace.nanos)
    (scrape : ∀ last, s = .sampling last → c'.scrape.nanos ≤ c.scrape.nanos) {due : Instant}
    (held : s.deadline c = some due) : ∃ due', s.deadline c' = some due' ∧ due'.nanos ≤ due.nanos := by
  cases s with
  | disabled => cases held
  | awaitingGrace since => exact Instant.add?_mono (grace since rfl) held
  | sampling last => exact Instant.add?_mono (scrape last rfl) held

/-- What is due stays due. -/
theorem isDue_mono (grace : ∀ since, s = .awaitingGrace since → c'.grace.nanos ≤ c.grace.nanos)
    (scrape : ∀ last, s = .sampling last → c'.scrape.nanos ≤ c.scrape.nanos) {later : Instant}
    (passed : now.nanos ≤ later.nanos) (due : s.isDue c now = true) : s.isDue c' later = true := by
  obtain ⟨deadline, held, reached⟩ := isDue_iff.mp due
  obtain ⟨deadline', held', earlier⟩ := deadline_mono grace scrape held
  exact isDue_iff.mpr ⟨deadline', held', by omega⟩

/-- A deadline beyond the clock is none. -/
theorem deadline_of_limit_le (grace : ∀ since, s = .awaitingGrace since → Instant.limit ≤ since.nanos + c.grace.nanos)
    (scrape : ∀ last, s = .sampling last → Instant.limit ≤ last.nanos + c.scrape.nanos) : s.deadline c = none := by
  cases s with
  | disabled => rfl
  | awaitingGrace since => exact Instant.add?_of_limit_le (grace since rfl)
  | sampling last => exact Instant.add?_of_limit_le (scrape last rfl)

theorem isActive_of_isDue (due : s.isDue c now = true) : s.isActive = true := by
  cases s with
  | disabled => cases due
  | _ => rfl

/-- Right after a sample nothing is due, whatever parameters come into force. -/
theorem isDue_afterSample (s : SchedulerState) (now : Instant) (valid : c.Valid) :
    (s.afterSample now).isDue c now = false := by
  have interval : minScrape.nanos ≤ c.scrape.nanos := valid
  have positive : 0 < minScrape.nanos := by decide
  refine not_isDue_iff.mpr fun due held => ?_
  cases s with
  | disabled => cases held
  | _ =>
    obtain ⟨_, same⟩ := Instant.add?_eq_some_iff.mp held
    omega

/-- A look at the flag that sampling was found active by changes nothing. -/
theorem onControl_of_isActive (active : s.isActive = true) (on : c.enabled = true) (now : Instant) :
    (s.onControl c now).1 = s := by
  cases s with
  | disabled => cases active
  | _ => simp [onControl, on]

end SchedulerState

/-! ## Turns that nobody disturbs -/

namespace World

theorem turn_of_not_running {w : World} (ended : w.loop.phase ≠ .running) (signalled : Bool) :
    w.turn signalled = w := by
  unfold turn Loop.turn
  split
  · next running => exact absurd running ended
  · rfl

section

variable {w : World} (running : w.loop.phase = .running) (signalled : Bool)

include running

/-- A turn that runs a cycle leaves the state behind a sample, and nothing is due. -/
theorem isDue_turn_of_cycled (valid : w.surface.current.Valid) (ran : w.iteration.cycled = true)
    (whole : w.source.isBroken = false) :
    (w.turn signalled).loop.scheduler.state.isDue w.surface.current w.now = false := by
  have state := state_turn running signalled
  simp only [ran, whole, Bool.not_false, Bool.and_self, if_true] at state
  rw [state]
  exact SchedulerState.isDue_afterSample _ w.now valid

/-- A turn without a cycle finds nothing due and leaves it so. -/
theorem isDue_turn_of_idle (idle : w.iteration.cycled = false) :
    (w.turn signalled).loop.scheduler.state.isDue w.surface.current w.now = false := by
  have state := state_turn running signalled
  simp only [idle, Bool.false_and, Bool.false_eq_true, if_false] at state
  rw [state, ← cycled_iteration, idle]

theorem phase_turn_of_idle (idle : w.iteration.cycled = false) :
    (w.turn signalled).loop.phase =
      if signalled then .stopped
      else .waiting ((w.turn signalled).loop.scheduler.state.deadline w.surface.current) := by
  have state := state_turn running signalled
  simp only [idle, Bool.false_and, Bool.false_eq_true, if_false] at state
  rw [phase_turn running, state]
  simp [idle]

/-- A turn that runs a cycle is followed by one that runs none. -/
theorem cycled_turn (valid : w.surface.current.Valid) (ran : w.iteration.cycled = true)
    (whole : w.source.isBroken = false) : (w.turn signalled).iteration.cycled = false := by
  have state := state_turn running signalled
  have looked := isDue_turn_of_cycled running signalled valid ran whole
  rw [cycled_iteration] at ran
  have active := SchedulerState.isActive_of_isDue ran
  have on : w.surface.current.enabled = true := by
    rw [← SchedulerState.isActive_onControl w.loop.scheduler.state w.surface.current w.now, active]
  simp only [cycled_iteration, ran, whole, Bool.not_false, Bool.and_self, if_true] at state
  -- the look at the flag leaves the state behind the sample as it is
  have still : (w.turn signalled).loop.scheduler.state.isActive = true := by
    rw [state, SchedulerState.isActive_afterSample, active]
  rw [cycled_iteration]
  show ((w.turn signalled).loop.scheduler.state.onControl w.surface.current w.now).1.isDue _ _ = _
  rw [SchedulerState.onControl_of_isActive still on]
  exact looked

/-- After two turns a loop waits with nothing due, unless it has stopped or its source has broken. -/
theorem phase_turn_turn (valid : w.surface.current.Valid) :
    let settled := (w.turn signalled).turn signalled
    (settled.loop.phase = .failed ∧ w.source.isBroken = true) ∨
    (settled.loop.phase = (if signalled then .stopped
        else .waiting (settled.loop.scheduler.state.deadline w.surface.current)) ∧
      settled.loop.scheduler.state.isDue w.surface.current w.now = false) := by
  have first := phase_turn running signalled
  intro settled
  cases ran : w.iteration.cycled with
  | false =>
    have phase := phase_turn_of_idle running signalled ran
    have ended : (w.turn signalled).loop.phase ≠ .running := by
      rw [phase]
      cases signalled <;> simp
    rw [show settled = w.turn signalled from turn_of_not_running ended signalled]
    exact .inr ⟨phase, isDue_turn_of_idle running signalled ran⟩
  | true =>
    cases broken : w.source.isBroken with
    | true =>
      simp only [ran, broken, Bool.and_self, if_true] at first
      rw [show settled = w.turn signalled from turn_of_not_running (by simp [first]) signalled]
      exact .inl ⟨first, rfl⟩
    | false =>
      refine .inr ?_
      cases signalled with
      | true =>
        simp only [broken, Bool.and_false, Bool.false_eq_true, if_false, if_true] at first
        rw [show settled = w.turn true from turn_of_not_running (by simp [first]) true]
        exact ⟨first, isDue_turn_of_cycled running true valid ran broken⟩
      | false =>
        simp only [ran, broken, Bool.and_false, Bool.false_eq_true, if_false, if_true] at first
        have idle := cycled_turn running false valid ran broken
        exact ⟨phase_turn_of_idle first false idle, isDue_turn_of_idle first false idle⟩

/-- Two turns run at most one cycle. -/
theorem counted_turn_turn (valid : w.surface.current.Valid) :
    ((w.turn signalled).turn signalled).loop.scheduler.stats.counted ≤ w.loop.scheduler.stats.counted + 1 := by
  have first := counted_turn running signalled
  by_cases again : (w.turn signalled).loop.phase = .running
  · have second := counted_turn again signalled
    cases ran : w.iteration.cycled with
    | false =>
      rw [phase_turn_of_idle running signalled ran] at again
      cases signalled <;> simp at again
    | true =>
      have whole : w.source.isBroken = false := by
        rw [phase_turn running, ran] at again
        cases broken : w.source.isBroken with
        | true => simp [broken] at again
        | false => rfl
      rw [cycled_turn running signalled valid ran whole] at second
      simp only [ran, if_true, Bool.false_eq_true, if_false] at first second
      omega
  · rw [turn_of_not_running again]
    split at first <;> split at first <;> omega

end

end World

namespace Loop

section

variable (published : Control) (source : RoleSource) (signalled : Bool) (now : Instant)

theorem run_turns_succ (n : Nat) (l : Loop) (d : Disk) :
    let turned := (l.turn published source signalled now).run d
    let rest := (turns published source signalled now n turned.1.1).run turned.2
    (turns published source signalled now (n + 1) l).run d = ((rest.1.1, turned.1.2 ++ rest.1.2), rest.2) := by
  simp only [turns, Procedure.run_bind, Procedure.run_pure]

theorem run_turns_of_not_running {l : Loop} (ended : l.phase ≠ .running) (n : Nat) (d : Disk) :
    (turns published source signalled now n l).run d = ((l, []), d) := by
  have rests : (l.turn published source signalled now).run d = ((l, []), d) := by
    unfold turn
    split
    · next running => exact absurd running ended
    · rfl
  induction n with
  | zero => rfl
  | succ n ih =>
    rw [run_turns_succ, rests]
    simp only [ih, List.append_nil]

end

/-- A loop that nobody disturbs settles in two turns: it runs at most one cycle and waits with nothing due, unless
    it sees the shutdown or its source breaks. Further turns change nothing. -/
theorem settle_rests {l : Loop} (running : l.phase = .running) {c : Control} (valid : c.Valid) (source : RoleSource)
    (signalled : Bool) (now : Instant) (d : Disk) :
    let settled := (l.settle c source signalled now).run d
    ((settled.1.1.phase = .failed ∧ source.isBroken = true) ∨
      (settled.1.1.phase = (if signalled then .stopped else .waiting (settled.1.1.scheduler.state.deadline c)) ∧
        settled.1.1.scheduler.state.isDue c now = false)) ∧
    settled.1.1.scheduler.stats.counted ≤ l.scheduler.stats.counted + 1 ∧
    ∀ n, (turns c source signalled now (n + 2) l).run d = settled := by
  let w : World := ⟨l, ⟨c, 0, false⟩, source, now, d⟩
  intro settled
  have two : settled.1.1 = ((w.turn signalled).turn signalled).loop := by
    simp only [settled, settle, turns, Procedure.run_bind, Procedure.run_pure]
    rfl
  have phase := World.phase_turn_turn (w := w) running signalled valid
  refine ⟨?_, ?_, fun n => ?_⟩
  · rw [two]
    exact phase
  · rw [two]
    exact World.counted_turn_turn (w := w) running signalled valid
  · have ended : ((w.turn signalled).turn signalled).loop.phase ≠ .running := by
      rcases phase with ⟨failed, _⟩ | ⟨rests, _⟩
      · simp [failed]
      · rw [rests]
        cases signalled <;> simp
    have same (m : Nat) := run_turns_of_not_running c source signalled now ended m
      ((w.turn signalled).turn signalled).disk
    simp only [settled, settle, run_turns_succ]
    have rest := same n
    simp only [World.turn, w] at rest
    rw [rest]
    rfl

end Loop

end NodeTelemetry
