import NodeTelemetry.Proofs.Schedule.Faults

/-!
# The cadence

When a cycle may run is a matter of the parameters that earlier turns loaded and
of the cycles that they ran, of nothing else (`MaySample`). The loop's state says
the same in short (`stateAfter`), through every order of updates, wake-ups and
jumps of the clock (`Run.tracked`). So the loop runs a cycle exactly when it may
(`Run.cycled_iff_maySample`).
-/

namespace NodeTelemetry

/-- Whether a cycle ran. One that ends with a broken source has run too. -/
def Iteration.cycled (i : Iteration) : Bool :=
  match i.ending with
  | .idle => false
  | _ => true

/-- When the present activation began: at the first of the turns that found sampling enabled, or before
    the first turn of all. -/
def activeSince (since : Option Instant) : List Iteration → Option Instant
  | [] => since
  | i :: past => if i.control.enabled then some ((activeSince since past).getD i.now) else none

/-- The cycles of the present activation, the last first. -/
def cycles (past : List Iteration) : List Iteration :=
  (past.takeWhile (·.control.enabled)).filter (·.cycled)

/-- When the next cycle is due under enabled parameters: after the grace period of the activation, and then
    after the scrape interval since the last cycle. -/
def nextDue (since : Option Instant) (past : List Iteration) (c : Control) (now : Instant) : Option Instant :=
  match cycles past with
  | [] => ((activeSince since past).getD now).add? c.grace
  | last :: _ => last.now.add? c.scrape

/-- When a cycle may run. -/
def MaySample (since : Option Instant) (past : List Iteration) (c : Control) (now : Instant) : Prop :=
  c.enabled = true ∧ ∃ due, nextDue since past c now = some due ∧ due.nanos ≤ now.nanos

/-- Since when a loop that was just built is active. -/
def World.activeAtStart (w : World) (startedAt : Instant) : Option Instant :=
  if w.surface.current.enabled then some startedAt else none

/-- A cycle that keeps the scrape interval from an earlier one. -/
def Spaced (later earlier : Iteration) : Prop := earlier.now.nanos + later.control.scrape.nanos ≤ later.now.nanos

/-! ## The state, as the history tells it -/

/-- The state of a loop with a history. -/
def stateAfter (since : Option Instant) (past : List Iteration) : SchedulerState :=
  match activeSince since past with
  | none => .disabled
  | some a =>
    match cycles past with
    | [] => .awaitingGrace a
    | last :: _ => .sampling last.now

theorem cycles_cons (i : Iteration) (past : List Iteration) :
    cycles (i :: past) =
      if i.control.enabled then (if i.cycled then i :: cycles past else cycles past) else [] := by
  unfold cycles
  rw [List.takeWhile_cons]
  split
  · rw [List.filter_cons]
  · rfl

/-- Without an activation there are no cycles. -/
theorem cycles_eq_nil {since : Option Instant} {past : List Iteration} (inactive : activeSince since past = none) :
    cycles past = [] := by
  cases past with
  | nil => rfl
  | cons i past =>
    rw [cycles_cons]
    unfold activeSince at inactive
    split at inactive
    · cases inactive
    · next off => rw [if_neg off]

/-- The state that a look at the flag leaves. -/
theorem stateAfter_onControl (since : Option Instant) (past : List Iteration) (c : Control) (now : Instant) :
    ((stateAfter since past).onControl c now).1 =
      if c.enabled then
        match cycles past with
        | [] => .awaitingGrace ((activeSince since past).getD now)
        | last :: _ => .sampling last.now
      else .disabled := by
  unfold stateAfter
  cases active : activeSince since past with
  | none =>
    rw [cycles_eq_nil active]
    cases on : c.enabled <;> simp [SchedulerState.onControl, on]
  | some a =>
    cases cycles past with
    | nil => cases on : c.enabled <;> simp [SchedulerState.onControl, on]
    | cons last rest => cases on : c.enabled <;> simp [SchedulerState.onControl, on]

/-- A sample is due exactly when the history allows one. -/
theorem isDue_iff_maySample (since : Option Instant) (past : List Iteration) (c : Control) (now : Instant) :
    ((stateAfter since past).onControl c now).1.isDue c now = true ↔ MaySample since past c now := by
  rw [stateAfter_onControl]
  unfold MaySample nextDue SchedulerState.isDue
  cases on : c.enabled with
  | false => simp [SchedulerState.deadline]
  | true =>
    cases cycles past with
    | nil =>
      simp only [if_true, SchedulerState.deadline, true_and]
      cases ((activeSince since past).getD now).add? c.grace <;> simp
    | cons last rest =>
      simp only [if_true, SchedulerState.deadline, true_and]
      cases last.now.add? c.scrape <;> simp

/-- A wait that follows a look at the flag ends when the next cycle is due. -/
theorem deadline_onControl (since : Option Instant) (past : List Iteration) (c : Control) (now : Instant) :
    ((stateAfter since past).onControl c now).1.deadline c =
      if c.enabled then nextDue since past c now else none := by
  rw [stateAfter_onControl]
  unfold nextDue
  cases c.enabled with
  | false => rfl
  | true => cases cycles past <;> rfl

/-- The state after a turn, from the state before it. -/
theorem stateAfter_cons (since : Option Instant) (i : Iteration) (past : List Iteration) :
    stateAfter since (i :: past) =
      if i.cycled then ((stateAfter since past).onControl i.control i.now).1.afterSample i.now
      else ((stateAfter since past).onControl i.control i.now).1 := by
  rw [stateAfter_onControl]
  unfold stateAfter
  rw [cycles_cons, activeSince]
  cases i.control.enabled with
  | false => cases i.cycled <;> rfl
  | true =>
    cases i.cycled with
    | true => cases cycles past <;> rfl
    | false => cases cycles past <;> rfl

/-! ## One turn -/

/-- When a turn runs a cycle depends on the state, the parameters and the time only. -/
theorem World.cycled_iteration (w : World) :
    w.iteration.cycled = (w.loop.scheduler.state.onControl w.surface.current w.now).1.isDue w.surface.current w.now := by
  have looked := (Scheduler.reconcile_scheduler w.loop.scheduler w.surface.current w.now w.disk).2
  rcases Scheduler.pass_cases w.loop.scheduler w.surface.current w.source w.now w.disk with
    ⟨due, _, ending, _⟩ | ⟨due, _, _, ending, _⟩ | ⟨due, _, _, ending, _⟩ <;>
  · rw [looked] at due
    simp [iteration, Iteration.cycled, ending, due]

theorem World.state_turn {w : World} (running : w.loop.phase = .running) (signalled : Bool) :
    (w.turn signalled).loop.scheduler.state =
      if w.iteration.cycled && !w.source.isBroken then
        (w.loop.scheduler.state.onControl w.surface.current w.now).1.afterSample w.now
      else (w.loop.scheduler.state.onControl w.surface.current w.now).1 := by
  have looked := (Scheduler.reconcile_scheduler w.loop.scheduler w.surface.current w.now w.disk).2
  rw [turn_scheduler running]
  rcases Scheduler.pass_cases w.loop.scheduler w.surface.current w.source w.now w.disk with
    ⟨_, same, ending, _⟩ | ⟨_, broken, same, ending, _⟩ | ⟨_, broken, same, ending, _⟩
  · rw [same, looked]
    simp [iteration, Iteration.cycled, ending]
  · rw [same, looked]
    simp [broken]
  · rw [same, (Scheduler.cycle_scheduler _ _ _ _ _).2, looked]
    simp [iteration, Iteration.cycled, ending, broken]

/-- Where a loop is after a turn: only a source that breaks in a cycle ends it, and only a turn without a
    cycle is followed by a wait. -/
theorem World.phase_turn {w : World} (running : w.loop.phase = .running) (signalled : Bool) :
    (w.turn signalled).loop.phase =
      if w.iteration.cycled && w.source.isBroken then .failed
      else if signalled then .stopped
      else if w.iteration.cycled then .running
      else .waiting ((w.loop.scheduler.state.onControl w.surface.current w.now).1.deadline w.surface.current) := by
  have state := state_turn running signalled
  rw [turn_phase running]
  rcases Scheduler.pass_cases w.loop.scheduler w.surface.current w.source w.now w.disk with
    ⟨_, _, ending, _⟩ | ⟨_, broken, _, ending, _⟩ | ⟨_, broken, _, ending, _⟩
  · have idle : w.iteration.cycled = false := by simp [iteration, Iteration.cycled, ending]
    have same : w.iteration.ending = .idle := ending
    simp [idle] at state
    simp [idle, same, Loop.phaseAfter, state]
  · simp [iteration, Iteration.cycled, ending, Loop.phaseAfter, broken]
  · simp [iteration, Iteration.cycled, ending, Loop.phaseAfter, broken]

/-- A record of the turn that a world makes now, whatever becomes of the file. -/
structure World.Records (w : World) (i : Iteration) : Prop where
  now : i.now = w.now
  control : i.control = w.surface.current
  transition : i.transition = w.iteration.transition
  snapshot : i.snapshot = w.iteration.snapshot
  cycled : i.cycled = w.iteration.cycled

theorem World.records_iteration (w : World) : w.Records w.iteration := ⟨rfl, rfl, rfl, rfl, rfl⟩

section

variable {w : World} {s : Scheduler} {ending : Scheduler.PassEnd} {notices : List Notice}
  (ends : (w.loop.scheduler.pass w.surface.current w.source w.now).Ends (s, ending, notices))

include ends

/-- Whether a pass runs a cycle does not depend on how its actions go. -/
theorem World.records_of_ends : w.Records { w.iteration with ending } := by
  refine ⟨rfl, rfl, rfl, rfl, ?_⟩
  rw [World.cycled_iteration]
  rcases Scheduler.ends_pass ends with ⟨due, rfl, _⟩ | ⟨due, _, rfl, _⟩ | ⟨due, _, ⟨_, rfl⟩, _⟩ <;> exact due.symm

theorem World.state_of_ends (signalled : Bool) (goes : Loop.phaseAfter s w.surface.current signalled ending ≠ .failed) :
    s.state = if ({ w.iteration with ending } : Iteration).cycled then
        (w.loop.scheduler.state.onControl w.surface.current w.now).1.afterSample w.now
      else (w.loop.scheduler.state.onControl w.surface.current w.now).1 := by
  rcases Scheduler.ends_pass ends with ⟨_, rfl, state, _⟩ | ⟨_, _, rfl, _⟩ | ⟨_, _, ⟨_, rfl⟩, state, _⟩
  · exact state
  · exact absurd rfl goes
  · exact state

end

/-! ## Whole runs -/

/-- What the history of a run says about the world that it has come to. -/
structure Tracked (since : Option Instant) (past : List Iteration) (w : World) : Prop where
  valid : w.surface.current.Valid
  state : w.loop.phase ≠ .failed → w.loop.scheduler.state = stateAfter since past
  accepted : ∀ i ∈ past, i.control.Valid
  spaced : (cycles past).Pairwise Spaced
  graced : ∀ first, (cycles past).getLast? = some first →
    ∃ a, activeSince since past = some a ∧ a.nanos + first.control.grace.nanos ≤ first.now.nanos

theorem World.Fresh.tracked {w : World} {startedAt : Instant} (fresh : w.Fresh startedAt) :
    Tracked (w.activeAtStart startedAt) [] w where
  valid := fresh.valid
  state := by
    intro _
    rw [fresh.built]
    unfold activeAtStart stateAfter Loop.new Scheduler.new SchedulerState.initial
    cases w.surface.current.enabled <;> rfl
  accepted := by simp
  spaced := List.Pairwise.nil
  graced := by simp [cycles]

theorem Tracked.maySample_iff {since : Option Instant} {past : List Iteration} {w : World}
    (tracked : Tracked since past w) (running : w.loop.phase = .running) :
    w.iteration.cycled = true ↔ MaySample since past w.surface.current w.now := by
  rw [World.cycled_iteration, tracked.state (by simp [running])]
  exact isDue_iff_maySample since past w.surface.current w.now

/-- A cycle that may run keeps the scrape interval from all cycles of its activation. -/
theorem MaySample.spaced {since : Option Instant} {past : List Iteration} {c : Control} {now : Instant}
    (may : MaySample since past c now) (spaced : (cycles past).Pairwise Spaced) :
    ∀ i ∈ cycles past, i.now.nanos + c.scrape.nanos ≤ now.nanos := by
  obtain ⟨_, due, next, reached⟩ := may
  unfold nextDue at next
  cases ran : cycles past with
  | nil => simp
  | cons last rest =>
    rw [ran] at next spaced
    obtain ⟨_, same⟩ := Instant.add?_eq_some_iff.mp next
    intro i member
    rcases List.mem_cons.mp member with rfl | member
    · omega
    · have : Spaced last i := (List.pairwise_cons.mp spaced).1 i member
      unfold Spaced at this
      omega

section

variable {since : Option Instant} {past : List Iteration} {w w' : World} (tracked : Tracked since past w)
  (running : w.loop.phase = .running) {i : Iteration} (records : w.Records i)

include tracked running records

/-- The first cycle of an activation waits for the grace period, and the first one stays the first. -/
theorem Tracked.graced_cons {first : Iteration} (oldest : (cycles (i :: past)).getLast? = some first) :
    ∃ a, activeSince since (i :: past) = some a ∧ a.nanos + first.control.grace.nanos ≤ first.now.nanos := by
  rw [cycles_cons] at oldest
  have on : i.control.enabled = true := by
    refine Decidable.byContradiction fun off => ?_
    rw [if_neg off] at oldest
    cases oldest
  rw [if_pos on] at oldest
  unfold activeSince
  rw [if_pos on]
  refine ⟨_, rfl, ?_⟩
  cases ran : cycles past with
  | cons last rest =>
    -- the first cycle is an older one, and with it the activation
    have same : (cycles past).getLast? = some first := by
      rw [ran] at oldest ⊢
      split at oldest
      · rwa [List.getLast?_cons_cons] at oldest
      · exact oldest
    obtain ⟨a, active, graced⟩ := tracked.graced first same
    rw [active]
    exact graced
  | nil =>
    rw [ran] at oldest
    split at oldest
    · next cycled =>
      rw [List.getLast?_singleton, Option.some.injEq] at oldest
      subst oldest
      obtain ⟨_, due, next, reached⟩ := (tracked.maySample_iff running).mp (records.cycled ▸ cycled)
      rw [nextDue, ran] at next
      obtain ⟨_, same⟩ := Instant.add?_eq_some_iff.mp next
      rw [records.control, records.now]
      omega
    · cases oldest

theorem Tracked.spaced_cons : (cycles (i :: past)).Pairwise Spaced := by
  rw [cycles_cons]
  split
  · split
    · next ran =>
      refine List.Pairwise.cons ?_ tracked.spaced
      unfold Spaced
      rw [records.now, records.control]
      exact ((tracked.maySample_iff running).mp (records.cycled ▸ ran)).spaced tracked.spaced
    · exact tracked.spaced
  · exact List.Pairwise.nil

theorem Tracked.cons (surface : w'.surface = w.surface)
    (state : w'.loop.phase ≠ .failed → w'.loop.scheduler.state =
      if i.cycled then (w.loop.scheduler.state.onControl w.surface.current w.now).1.afterSample w.now
      else (w.loop.scheduler.state.onControl w.surface.current w.now).1) : Tracked since (i :: past) w' where
  valid := surface ▸ tracked.valid
  state := by
    intro goes
    rw [state goes, stateAfter_cons, tracked.state (by simp [running]), records.now, records.control]
  accepted := by
    intro j member
    rcases List.mem_cons.mp member with rfl | member
    · exact records.control ▸ tracked.valid
    · exact tracked.accepted j member
  spaced := tracked.spaced_cons running records
  graced := fun _ oldest => tracked.graced_cons running records oldest

end

theorem Tracked.turn {since : Option Instant} {past : List Iteration} {w : World} (tracked : Tracked since past w)
    (running : w.loop.phase = .running) (signalled : Bool) :
    Tracked since (w.iteration :: past) (w.turn signalled) := by
  refine tracked.cons running w.records_iteration rfl fun goes => ?_
  rw [World.turn_phase running] at goes
  rw [World.turn_scheduler running] at goes ⊢
  exact World.state_of_ends (Procedure.ends_run _ w.disk) signalled goes

theorem FaultyRun.tracked {fallible : Action → Prop} {touches : Disk → Disk → Prop} {start w : World}
    {past : List Iteration} {startedAt : Instant} (fresh : start.Fresh startedAt)
    (run : FaultyRun fallible touches start past w) : Tracked (start.activeAtStart startedAt) past w := by
  induction run with
  | start => exact fresh.tracked
  | @happen past w _ e ih =>
    refine { ih with valid := World.valid_after ih.valid e, state := fun goes => ?_ }
    rw [World.after_scheduler]
    exact ih.state fun failed => goes (World.after_failed failed)
  | others _ _ ih => exact { ih with }
  | turn _ running signalled passed ih =>
    have ends := Procedure.ends_of_goes passed
    exact ih.cons running (World.records_of_ends ends) rfl (World.state_of_ends ends signalled)

theorem Run.tracked {touches : Disk → Disk → Prop} {start w : World} {past : List Iteration} {startedAt : Instant}
    (fresh : start.Fresh startedAt) (run : Run touches start past w) :
    Tracked (start.activeAtStart startedAt) past w := (run.faulty fun _ => False).tracked fresh

/-! ## What follows -/

/-- Right after a cycle no further one may run, however late the cycle was. -/
theorem not_maySample_cons {since : Option Instant} {i : Iteration} {past : List Iteration} {c : Control}
    (on : i.control.enabled = true) (ran : i.cycled = true) (valid : c.Valid) : ¬ MaySample since (i :: past) c i.now := by
  rintro ⟨_, due, next, reached⟩
  rw [nextDue, cycles_cons, if_pos on, if_pos ran] at next
  obtain ⟨_, same⟩ := Instant.add?_eq_some_iff.mp next
  have interval : minScrape.nanos ≤ c.scrape.nanos := valid
  have positive : minScrape.nanos = 1000000000 := rfl
  omega

/-- A loop goes to wait only after a turn without a cycle, and then until the next one is due. -/
theorem Tracked.wait {since : Option Instant} {past : List Iteration} {w : World} (tracked : Tracked since past w)
    (running : w.loop.phase = .running) {signalled : Bool} {deadline : Option Instant}
    (waits : (w.turn signalled).loop.phase = .waiting deadline) :
    w.iteration.cycled = false ∧
      deadline = if w.surface.current.enabled then nextDue since past w.surface.current w.now else none := by
  rw [World.phase_turn running, tracked.state (by simp [running]), deadline_onControl] at waits
  cases ran : w.iteration.cycled with
  | true => cases signalled <;> cases broken : w.source.isBroken <;> simp [ran, broken] at waits
  | false =>
    refine ⟨rfl, ?_⟩
    cases signalled with
    | true => simp [ran] at waits
    | false =>
      simp only [ran, Bool.false_and, Bool.false_eq_true, if_false, Phase.waiting.injEq] at waits
      exact waits.symm

/-- What stands on the disk, and with it whether a file can be written, has no influence on when cycles run. -/
theorem World.schedule_of_disk {w : World} (running : w.loop.phase = .running) (d : Disk) (signalled : Bool) :
    let other : World := { w with disk := d }
    other.iteration.cycled = w.iteration.cycled ∧
      (other.turn signalled).loop.phase = (w.turn signalled).loop.phase ∧
      (other.turn signalled).loop.scheduler.state = (w.turn signalled).loop.scheduler.state := by
  intro other
  have ran : other.iteration.cycled = w.iteration.cycled := by
    rw [cycled_iteration, cycled_iteration]
  refine ⟨ran, ?_, ?_⟩
  · rw [phase_turn running, phase_turn (w := other) running, ran]
  · rw [state_turn running, state_turn (w := other) running, ran]

/-- A turn runs a cycle exactly when the history allows one. So none runs while sampling is disabled, the
    first one of an activation waits for the grace period, later ones keep the scrape interval, none is made
    up for, none depends on what became of the files of earlier ones, and nothing is overdue when the loop
    goes to wait. -/
theorem Run.cycled_iff_maySample {touches : Disk → Disk → Prop} {start w : World} {past : List Iteration}
    {startedAt : Instant} (fresh : start.Fresh startedAt) (run : Run touches start past w)
    (running : w.loop.phase = .running) :
    let since := start.activeAtStart startedAt
    let c := w.surface.current
    (w.iteration.cycled = true ↔ MaySample since past c w.now) ∧
    (w.iteration.cycled = true → c.enabled = true) ∧
    (∀ first, (cycles (w.iteration :: past)).getLast? = some first →
      ∃ a, activeSince since (w.iteration :: past) = some a ∧
        a.nanos + first.control.grace.nanos ≤ first.now.nanos) ∧
    (w.iteration.cycled = true → ∀ i ∈ cycles past, i.now.nanos + c.scrape.nanos ≤ w.now.nanos) ∧
    minScrape.nanos ≤ c.scrape.nanos ∧
    (w.iteration.cycled = true → ∀ c' : Control, c'.Valid → ¬ MaySample since (w.iteration :: past) c' w.now) ∧
    (∀ (d : Disk) (signalled : Bool),
      let other : World := { w with disk := d }
      other.iteration.cycled = w.iteration.cycled ∧
        (other.turn signalled).loop.phase = (w.turn signalled).loop.phase ∧
        (other.turn signalled).loop.scheduler.state = (w.turn signalled).loop.scheduler.state) ∧
    (∀ (signalled : Bool) (deadline : Option Instant), (w.turn signalled).loop.phase = .waiting deadline →
      deadline = (if c.enabled then nextDue since past c w.now else none) ∧
        ∀ due, deadline = some due → w.now.nanos < due.nanos) := by
  intro since c
  have tracked : Tracked since past w := run.tracked fresh
  have may : w.iteration.cycled = true ↔ MaySample since past c w.now := tracked.maySample_iff running
  refine ⟨may, fun ran => (may.mp ran).1, (tracked.turn running false).graced,
    fun ran => (may.mp ran).spaced tracked.spaced, tracked.valid, ?_, ?_, ?_⟩
  · intro ran c' valid
    exact not_maySample_cons (may.mp ran).1 ran valid
  · intro d signalled
    exact World.schedule_of_disk running d signalled
  · intro signalled deadline waits
    obtain ⟨idle, until_⟩ := tracked.wait running waits
    refine ⟨until_, ?_⟩
    intro due same
    refine Nat.lt_of_not_le fun reached => ?_
    rw [same] at until_
    split at until_
    · next on =>
      rw [may.mpr ⟨on, due, until_.symm, reached⟩] at idle
      cases idle
    · cases until_

/-- A grace period of two seconds: the first turn finds nothing due, and after two seconds a cycle runs. -/
theorem Run.cycled_after_grace :
    let start := World.alone ⟨true, ⟨2000000000⟩, ⟨1000000000⟩, ⟨0⟩⟩
    (((start.turn false).after (.elapse ⟨2000000000⟩)).after .expire).iteration.cycled = true := by
  intro start
  have fresh : start.Fresh ⟨0⟩ := ⟨by decide, rfl⟩
  have run : Run Eq start [start.iteration] (((start.turn false).after (.elapse ⟨2000000000⟩)).after .expire) :=
    ((Run.start.turn rfl false).happen _).happen _
  exact (run.cycled_iff_maySample fresh (by decide +kernel)).1.mpr
    ⟨by decide +kernel, ⟨2000000000⟩, by decide +kernel, by decide +kernel⟩

end NodeTelemetry
