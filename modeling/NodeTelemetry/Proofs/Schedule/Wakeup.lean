import NodeTelemetry.Proofs.Schedule.Stages

/-!
# No change is missed

Callers publish parameters and then store a wake-up, while the loop loads them,
makes its pass and goes to wait. A stored wake-up is taken up by a wait, now or
later, and a wait that ends for another reason leaves it; several of them are
one. So whatever the order, a loop that has loaded parameters which are no
longer in force will be woken (`Node.Attentive`), and one that waits without a
wake-up in sight has the parameters in force (`Node.loaded_eq_current`).
-/

namespace NodeTelemetry

theorem SchedulerState.isActive_onControl (s : SchedulerState) (c : Control) (now : Instant) :
    (s.onControl c now).1.isActive = c.enabled := by
  cases s <;> cases on : c.enabled <;> simp [onControl, on, isActive]

theorem SchedulerState.isActive_afterSample (s : SchedulerState) (now : Instant) :
    (s.afterSample now).isActive = s.isActive := by
  cases s <;> rfl

theorem Loop.isWaiting_iff {l : Loop} : l.isWaiting = true ↔ ∃ deadline, l.phase = .waiting deadline := by
  unfold isWaiting
  split <;> simp_all

theorem Loop.wake_of_not_waiting {l : Loop} (awake : l.isWaiting = false) : l.wake = l := by
  unfold isWaiting at awake
  unfold wake
  split <;> simp_all

/-- Stages behind the look at the flag. -/
def Stage.hasLooked : Stage → Bool
  | .load => false
  | .look => false
  | _ => true

namespace Callers

variable {ι : Type} [DecidableEq ι] {f : ι → Control → Control}

/-- A step of a call that has published stores a wake-up. -/
theorem notified_of_waking {w : Callers ι} {i : ι} {next : Control} (waking : w.calls i = .waking next) :
    (w.step f i).surface.notified = true := by
  simp [step, waking, Call.step]

/-- No call uses up a wake-up. -/
theorem notified_step {w : Callers ι} (stored : w.surface.notified = true) (i : ι) :
    (w.step f i).surface.notified = true := by
  unfold step
  cases w.calls i with
  | start => exact stored
  | loaded base stamp =>
    simp only [Call.step]
    split
    · exact stored
    · split <;> exact stored
  | ready stamp next =>
    simp only [Call.step]
    split <;> exact stored
  | waking next => rfl
  | done result => exact stored

/-- A wake-up that is stored, or will be by a call that has published. -/
def WakesUp (w : Callers ι) : Prop := w.surface.notified = true ∨ ∃ i next, w.calls i = .waking next

theorem WakesUp.step {w : Callers ι} (wakes : w.WakesUp) (i : ι) : (w.step f i).WakesUp := by
  rcases wakes with stored | ⟨j, next, waking⟩
  · exact .inl (notified_step stored i)
  · by_cases same : j = i
    · subst same
      exact .inl (notified_of_waking waking)
    · exact .inr ⟨j, next, by rw [calls_step_of_ne w same, waking]⟩

/-- Parameters come into force by a call that will then store a wake-up. -/
theorem current_step (w : Callers ι) (i : ι) :
    (w.step f i).surface.current = w.surface.current ∨ (w.step f i).WakesUp := by
  rcases w.step_cases (f := f) i with ⟨next, _, _, _, waking⟩ | ⟨_, _, current⟩
  · exact .inr (.inr ⟨i, next, waking⟩)
  · exact .inl current

end Callers

theorem Surface.update_cases (s : Surface) (f : Control → Control) :
    (s.update f).1 = s ∨ (s.update f).1.notified = true := by
  unfold update
  dsimp only
  split
  · exact .inl rfl
  · split
    · exact .inl rfl
    · exact .inr rfl

namespace Node

variable {ι : Type} [DecidableEq ι] {f : ι → Control → Control}

/-- What holds of a node at every moment: a loop that is behind its load either has the parameters in force
    or will be woken, and what it has loaded decides whether it is active and until when it waits. -/
structure Attentive (n : Node ι) : Prop where
  resting : n.world.loop.phase ≠ .running → n.stage = .load
  informed : n.stage ≠ .load ∨ n.world.loop.isWaiting = true →
    n.world.loop.loaded = n.world.surface.current ∨ n.callers.WakesUp
  active : n.stage.hasLooked = true ∨ n.world.loop.isWaiting = true →
    n.world.loop.scheduler.state.isActive = n.world.loop.loaded.enabled
  deadline : ∀ d, n.stage = .rest d ∨ n.world.loop.phase = .waiting d →
    d = n.world.loop.scheduler.state.deadline n.world.loop.loaded

omit [DecidableEq ι] in
theorem attentive_of_load {n : Node ι} (running : n.world.loop.phase = .running) (begins : n.stage = .load) :
    n.Attentive where
  resting := fun _ => begins
  informed := by simp [begins, Loop.isWaiting, running]
  active := by simp [begins, Loop.isWaiting, running, Stage.hasLooked]
  deadline := by simp [begins, running]

theorem Attentive.call {n : Node ι} (attentive : n.Attentive) (i : ι) : (n.move f (.call i)).Attentive where
  resting := attentive.resting
  active := attentive.active
  deadline := attentive.deadline
  informed := by
    intro behind
    rcases n.callers.current_step (f := f) i with same | wakes
    · rcases attentive.informed behind with current | wakes
      · exact .inl (current.trans same.symm)
      · exact .inr (wakes.step i)
    · exact .inr wakes

omit [DecidableEq ι] in
/-- Whatever the loop does next: it loads what is in force, or it goes on with what it has loaded. -/
theorem Attentive.advanced {n : Node ι} (attentive : n.Attentive) {l : Loop} {stage : Stage} {d : Disk}
    (step : Loop.Advanced n.world.surface.current n.world.now n.world.loop n.stage l stage) :
    Attentive { n with world := { n.world with loop := l, disk := d }, stage } := by
  obtain ⟨⟨loop, surface, source, now, disk⟩, from_, calls⟩ := n
  cases step with
  | load s c => exact ⟨by simp, fun _ => .inl rfl, by simp [Stage.hasLooked, Loop.isWaiting], by simp⟩
  | look c looked =>
    refine ⟨by simp, fun _ => attentive.informed (.inl (by simp)), ?_, by simp⟩
    intro _
    show SchedulerState.isActive _ = _
    rw [looked]
    exact SchedulerState.isActive_onControl _ c now
  | due s c =>
    exact ⟨by simp, fun _ => attentive.informed (.inl (by simp)), fun _ => attentive.active (.inl rfl), by simp⟩
  | idle s c =>
    exact ⟨by simp, fun _ => attentive.informed (.inl (by simp)), fun _ => attentive.active (.inl rfl), by simp⟩
  | fail s c => exact ⟨by simp, by simp [Loop.isWaiting], by simp [Stage.hasLooked, Loop.isWaiting], by simp⟩
  | @cycle s s' c sampled =>
    refine ⟨by simp, fun _ => attentive.informed (.inl (by simp)), ?_, by simp⟩
    intro _
    -- a cycle does not load: what was looked at before it still counts
    have before : s.state.isActive = c.enabled := attentive.active (.inl rfl)
    show s'.state.isActive = _
    rw [sampled, SchedulerState.isActive_afterSample, before]
  | again s c => exact attentive_of_load rfl rfl
  | stop s c => exact ⟨by simp, by simp [Loop.isWaiting], by simp [Stage.hasLooked, Loop.isWaiting], by simp⟩
  | reckon s c =>
    refine ⟨by simp, fun _ => attentive.informed (.inl (by simp)), fun _ => attentive.active (.inl rfl), ?_⟩
    intro d rests
    rcases rests with rests | waits
    · cases rests
      rfl
    · cases waits
  | rest s c deadline =>
    refine ⟨by simp, fun _ => attentive.informed (.inl (by simp)), fun _ => attentive.active (.inl rfl), ?_⟩
    intro d rests
    rcases rests with rests | waits
    · cases rests
    · cases waits
      exact attentive.deadline deadline (.inl rfl)

theorem Attentive.loop {n : Node ι} (attentive : n.Attentive) (signalled : Bool) :
    (n.move f (.loop signalled)).Attentive := by
  by_cases running : n.world.loop.phase = .running
  · exact attentive.advanced (Loop.advanced_advance running ..)
  · simp only [move, Loop.run_advance_of_not_running running]
    exact attentive

omit [DecidableEq ι] in
/-- A wait ends at the beginning of a turn, where nothing is loaded yet. -/
theorem Attentive.wake {n : Node ι} (attentive : n.Attentive) (waits : n.world.loop.isWaiting = true) (s : Surface) :
    Attentive { n with world := { n.world with loop := n.world.loop.wake, surface := s } } := by
  obtain ⟨deadline, phase⟩ := Loop.isWaiting_iff.mp waits
  refine attentive_of_load ?_ (attentive.resting (by simp [phase]))
  simp [Loop.wake, phase]

theorem Attentive.event {n : Node ι} (attentive : n.Attentive) (e : Event) : (n.move f (.event e)).Attentive := by
  cases e with
  | elapse span => exact { attentive with }
  | report source => exact { attentive with }
  | update g =>
    rcases n.world.surface.update_cases g with same | stored
    · simp only [move, World.after, same]
      exact attentive
    · exact { attentive with informed := fun _ => .inr (.inl stored) }
  | expire =>
    simp only [move, World.after]
    split
    · next due =>
      cases waits : n.world.loop.isWaiting with
      | true => exact attentive.wake waits n.world.surface
      | false => rwa [Loop.wake_of_not_waiting waits]
    · exact attentive
  | notice =>
    simp only [move, World.after]
    split
    · next stored =>
      have waits : n.world.loop.isWaiting = true := by simp_all
      exact attentive.wake waits _
    · exact attentive
  | signal =>
    simp only [move, World.after, Loop.signal]
    split
    · next deadline waits =>
      have begins : n.stage = .load := attentive.resting (by simp [waits])
      exact ⟨fun _ => begins, by simp [begins, Loop.isWaiting], by simp [begins, Stage.hasLooked, Loop.isWaiting],
        by simp [begins]⟩
    · exact attentive

theorem Attentive.move {n : Node ι} (attentive : n.Attentive) (m : Move ι) : (n.move f m).Attentive := by
  cases m with
  | call i => exact attentive.call i
  | loop signalled => exact attentive.loop signalled
  | event e => exact attentive.event e
  | touch d => exact { attentive with }

theorem attentive_after {n : Node ι} (attentive : n.Attentive) (moves : List (Move ι)) : (n.after f moves).Attentive := by
  induction moves with
  | nil => exact attentive
  | cons m past ih => exact ih.move m

/-- However the steps of callers, those of a loop from the beginning of a turn on, the ends of its waits and the
    passing of time interleave: while the loop waits and no wake-up is stored or to be stored, it has loaded the
    parameters in force, is active exactly if they enable sampling, and waits until the deadline that they set. A
    caller that has published does store a wake-up, and one that is stored does end the wait. -/
theorem loaded_eq_current (f : ι → Control → Control) {n : Node ι} (running : n.world.loop.phase = .running)
    (begins : n.stage = .load) (moves : List (Move ι)) {deadline : Option Instant}
    (waits : (n.after f moves).world.loop.phase = .waiting deadline) :
    let last := n.after f moves
    let l := last.world.loop
    let current := last.world.surface.current
    (last.world.surface.notified = false → (∀ i next, last.calls i ≠ .waking next) →
      l.loaded = current ∧ l.scheduler.state.isActive = current.enabled ∧ deadline = l.scheduler.state.deadline current) ∧
    (∀ i next, last.calls i = .waking next → (last.move f (.call i)).world.surface.notified = true) ∧
    (last.world.surface.notified = true →
      (last.move f (.event .notice)).world.loop.phase = .running ∧ (last.move f (.event .notice)).stage = .load) := by
  intro last l current
  have attentive : last.Attentive := attentive_after (attentive_of_load running begins) moves
  have asleep : l.isWaiting = true := Loop.isWaiting_iff.mpr ⟨deadline, waits⟩
  refine ⟨?_, ?_, ?_⟩
  · intro none quiet
    have loaded : l.loaded = current := by
      rcases attentive.informed (.inr asleep) with same | stored | ⟨i, next, waking⟩
      · exact same
      · cases none.symm.trans stored
      · exact absurd waking (quiet i next)
    refine ⟨loaded, ?_, ?_⟩
    · rw [← loaded]
      exact attentive.active (.inr asleep)
    · rw [← loaded]
      exact attentive.deadline deadline (.inr waits)
  · intro i next waking
    exact Callers.notified_of_waking (w := last.callers) waking
  · intro stored
    have phase : last.world.loop.phase = .waiting deadline := waits
    refine ⟨?_, attentive.resting (by simp [phase])⟩
    have both : (last.world.loop.isWaiting && last.world.surface.notified) = true := by
      simp [stored, show last.world.loop.isWaiting = true from asleep]
    simp [Node.move, World.after, both, Loop.wake, phase]

/-- A longer grace period comes into force between the load of a turn and its wait: the loop goes to wait with
    the old one, is woken and waits again with the new one. -/
theorem loaded_after_coming_between :
    let f (_ : Unit) : Control → Control := (ControlChange.mk none (some ⟨5000000000⟩) none none).apply
    let start : Node Unit := ⟨World.alone ⟨true, ⟨2000000000⟩, ⟨1000000000⟩, ⟨0⟩⟩, .load, fun _ => .start⟩
    let turn : List (Move Unit) := [.loop false, .loop false, .loop false, .loop false]
    let moves := turn ++ [.loop false, .event .notice, .call ()] ++ turn ++ [.call (), .call (), .call (), .loop false]
    let last := start.after f moves
    last.world.loop.phase = .waiting (some ⟨5000000000⟩) ∧ last.world.surface.notified = false ∧
      last.world.loop.loaded = last.world.surface.current := by
  intro f start turn moves last
  have waits : last.world.loop.phase = .waiting (some ⟨5000000000⟩) := by decide +kernel
  have none : last.world.surface.notified = false := by decide +kernel
  have returned : last.calls () = .done (.published ⟨true, ⟨5000000000⟩, ⟨1000000000⟩, ⟨0⟩⟩) := by decide +kernel
  refine ⟨waits, none, ?_⟩
  refine ((loaded_eq_current f rfl rfl moves waits).1 none ?_).1
  intro i next waking
  cases returned.symm.trans waking

end Node

end NodeTelemetry
