import Mathlib.Order.WellFounded
import NodeTelemetry.Proofs.Schedule.Standstill

/-!
# The loop settles

While the time stands still a loop goes round only finitely often, although it
does not sleep between a cycle and the next turn. A cycle leaves the state so
recent that no accepted parameters make another one due (`SchedulerState.isSpent`),
until sampling is switched off and on again. So a state is worth two half cycles,
or none behind a cycle, and each change that the callers have still to publish is
worth half a cycle (`Watched.credit`). No step adds to that, and a cycle that
starts uses up two halves. A turn is followed by another one only behind a cycle
or through a wake-up (`Watched.turnsLeft`). In the end the loop waits, for an
instant that is still to come or for none (`Watched.settles`).

The callers are finitely many, each with an update of its own. Where nothing more
is published and no wake-up comes, the bound is one cycle and two turns; so it is
for a loop that is alone.
-/

namespace NodeTelemetry

namespace SchedulerState

/-- Whether the last sample is so recent that none is due under any parameters that are accepted. -/
def isSpent (s : SchedulerState) (now : Instant) : Bool :=
  match s with
  | sampling last => now.nanos < last.nanos + minScrape.nanos
  | _ => false

/-- How many half cycles a state is worth at an instant, before parameters that it has still to look at. From one
    cycle to the next at the same instant it takes two changes, which switch sampling off and on again, and a
    state counts those that lie behind it. -/
def credit (s : SchedulerState) (c : Control) (now : Instant) : Nat :=
  (if s.isActive then (if s.isSpent now then 0 else 2) else 1) + if c.enabled = s.isActive then 0 else 1

section

variable (s : SchedulerState) (c c' : Control) (now : Instant)

/-- What is left to look at is nothing behind a look. -/
theorem credit_onControl :
    (s.onControl c now).1.credit c now = if c.enabled then (if s.isSpent now then 0 else 2) else 1 := by
  cases s <;> cases on : c.enabled <;> simp [onControl, credit, isActive, isSpent, on]

/-- A look at the flag makes no way. -/
theorem credit_onControl_le : (s.onControl c now).1.credit c now ≤ s.credit c now := by
  rw [credit_onControl]
  cases s <;> cases on : c.enabled <;> simp [credit, isActive, isSpent, on]

theorem credit_onControl_le_two : (s.onControl c now).1.credit c now ≤ 2 := by
  rw [credit_onControl]
  cases c.enabled <;> cases s.isSpent now <;> simp

/-- New parameters are worth half a cycle at most. -/
theorem credit_le_succ : s.credit c' now ≤ s.credit c now + 1 := by
  have change : (if c'.enabled = s.isActive then 0 else 1) ≤ 1 := by split <;> decide
  unfold credit
  omega

theorem credit_onControl_le_succ : (s.onControl c' now).1.credit c' now ≤ (s.onControl c now).1.credit c now + 1 := by
  rw [credit_onControl, credit_onControl]
  cases c.enabled <;> cases c'.enabled <;> cases s.isSpent now <;> simp

end

variable {s : SchedulerState} {c : Control} {now : Instant}

theorem isSpent_of_isDue (due : s.isDue c now = true) (valid : c.Valid) : s.isSpent now = false := by
  have interval : minScrape.nanos ≤ c.scrape.nanos := valid
  obtain ⟨deadline, held, reached⟩ := isDue_iff.mp due
  cases s with
  | sampling last =>
    obtain ⟨_, same⟩ := Instant.add?_eq_some_iff.mp held
    exact decide_eq_false (by omega)
  | _ => rfl

theorem isSpent_afterSample (active : s.isActive = true) : (s.afterSample now).isSpent now = true := by
  have positive : 0 < minScrape.nanos := by decide
  cases s with
  | disabled => cases active
  | _ => exact decide_eq_true (by omega)

/-- A cycle that was due uses up its worth. -/
theorem credit_afterSample (due : s.isDue c now = true) (valid : c.Valid) (c' : Control) :
    (s.afterSample now).credit c' now + 2 = s.credit c' now := by
  have active := isActive_of_isDue due
  unfold credit
  rw [isActive_afterSample, active, isSpent_afterSample active, isSpent_of_isDue due valid]
  simp only [if_true, Bool.false_eq_true, if_false]
  omega

end SchedulerState

/-- Whether a loop makes no more turns. -/
def Loop.isOver (l : Loop) : Bool :=
  match l.phase with
  | .stopped => true
  | .failed => true
  | _ => false

/-- How many steps lead from a stage to the end of its turn, at most. -/
def Stage.stepsLeft : Stage → Nat
  | .load => 0
  | .look => 5
  | .decide => 4
  | .cycle => 3
  | .finish => 1
  | .reckon => 3
  | .rest _ => 2

namespace Watched

variable {ι : Type}

/-! ## Single steps -/

/-- How many half cycles the state is worth as the loop will next see it, when certain parameters are in force. -/
def worth (w : Watched ι) (c : Control) : Nat :=
  match w.node.stage with
  | .load => (w.loop.scheduler.state.onControl c w.now).1.credit c w.now
  | .look => (w.loop.scheduler.state.onControl w.loop.loaded w.now).1.credit c w.now
  | .cycle =>
    if w.work.isSome then (w.loop.scheduler.state.afterSample w.now).credit c w.now
    else w.loop.scheduler.state.credit c w.now
  | _ => w.loop.scheduler.state.credit c w.now

/-- Parameters that come into force are worth half a cycle at most. -/
theorem worth_le_succ (w : Watched ι) (c c' : Control) : w.worth c' ≤ w.worth c + 1 := by
  unfold worth
  split
  · exact SchedulerState.credit_onControl_le_succ ..
  · exact SchedulerState.credit_le_succ ..
  · split <;> exact SchedulerState.credit_le_succ ..
  · exact SchedulerState.credit_le_succ ..

/-- Whether a turn is to begin at once, or behind a cycle. -/
def ahead (w : Watched ι) : Nat :=
  if w.loop.phase = .running ∧ (w.node.stage = .load ∨ w.node.stage = .finish ∨ w.work.isSome = true) then 1 else 0

theorem ahead_amid (w : Watched ι) (callers : Callers ι) (source : RoleSource) (disk : Disk) (signal : ShutdownSignal) :
    (w.amid w.loop callers source disk signal).ahead = w.ahead := rfl

theorem ahead_le_one (w : Watched ι) : w.ahead ≤ 1 := by
  unfold ahead
  split <;> decide

/-- How many steps the loop is from the end of its turn, those of a cycle under way not counted. -/
def stepsAhead (w : Watched ι) : Nat := w.node.stage.stepsLeft - w.work.isSome.toNat

theorem Proceeds.callers {w next : Watched ι} (proceeds : w.Proceeds next) : next.node.callers = w.node.callers := by
  cases proceeds <;> rfl

section

variable [DecidableEq ι] {f : ι → Control → Control} {w : Watched ι} (sound : w.Sound)

include sound

/-- Behind a turn that begins the next one is ahead only if a cycle starts in it. -/
theorem ahead_step :
    (if w.At .load then 1 else 0) + (w.step f).ahead ≤ w.ahead + if w.Starting then 1 else 0 := by
  have proceeds := proceeds_step (f := f) sound
  generalize w.step f = next at proceeds ⊢
  cases proceeds with
  | go under _ | finish under =>
    obtain ⟨running, stage⟩ := sound.busy (by simp [under])
    simp [ahead, At, running, stage, under]
  | sleep idle asleep => simp [ahead, At, asleep]
  | load place | look place _ | due place _ | idle place _ | fail place _ | begin place _ | again place | stop place
  | reckon place | rest place => simp [ahead, At, Starting, place.1, place.2]

/-- Every step leads on in a turn, but within a cycle, which is gone through action by action. -/
theorem stepsAhead_step (running : w.loop.phase = .running) :
    (w.step f).stepsAhead + (if w.work.isSome then 0 else 1) ≤ w.stepsAhead + if w.At .load then 6 else 0 := by
  have proceeds := proceeds_step (f := f) sound
  generalize w.step f = next at proceeds ⊢
  cases proceeds with
  | load place => simp [stepsAhead, Stage.stepsLeft, place, place.1]
  | go under _ | finish under =>
    have stage := (sound.busy (by simp [under])).2
    simp [stepsAhead, Stage.stepsLeft, At, under, stage]
  | sleep _ asleep => exact absurd running asleep
  | look place _ | due place _ | idle place _ | fail place _ | begin place _ | again place | stop place
  | reckon place | rest place => simp [stepsAhead, Stage.stepsLeft, At, place.1, place.2]

end

/-! ## What is left at one instant -/

section

variable [Fintype ι]

/-- How many half cycles can still run at one instant. -/
def credit (w : Watched ι) : Nat :=
  if w.loop.isOver then 0 else w.worth w.published + w.node.callers.publicationsLeft

/-- How many turns can still begin at one instant: the one that is about to, one for each wake-up and one behind
    each cycle. -/
def turnsLeft (w : Watched ι) : Nat :=
  if w.loop.isOver then 0 else w.ahead + w.node.callers.wakeUpsLeft + w.credit / 2

/-- What becomes less with every step but those within a cycle: the turns that are left, and then the steps of the
    present one. -/
def potential (w : Watched ι) : Nat := 6 * w.turnsLeft + w.stepsAhead

theorem turnsLeft_le (w : Watched ι) : w.turnsLeft ≤ w.ahead + w.node.callers.wakeUpsLeft + w.credit / 2 := by
  unfold turnsLeft
  split <;> omega

theorem turnsLeft_of_going {w : Watched ι} (going : w.loop.isOver = false) :
    w.turnsLeft = w.ahead + w.node.callers.wakeUpsLeft + w.credit / 2 := by
  simp [turnsLeft, going]

/-- A cycle that starts is worth two halves of what there is. -/
theorem credit_of_starting {w : Watched ι} (paced : w.Paced) (starting : w.Starting) :
    (w.loop.scheduler.state.afterSample w.now).credit w.published w.now + w.node.callers.publicationsLeft + 2 =
      w.credit := by
  obtain ⟨idle, running, stage⟩ := starting
  have valid : w.loop.loaded.Valid := paced.loaded (by simp [stage])
  have spent := SchedulerState.credit_afterSample (paced.due stage) valid w.published
  rw [credit, worth, stage, Nat.add_right_comm, spent]
  simp [Loop.isOver, running, idle]

section

variable {w : Watched ι} (begins : w.At .load)

include begins

/-- At the outset one cycle can run, and one more for every two changes. -/
theorem credit_of_load_le : w.credit ≤ 2 + w.node.callers.publicationsLeft := by
  have looked := w.loop.scheduler.state.credit_onControl_le_two w.published w.now
  unfold credit
  split
  · omega
  · rw [worth, begins.2.2]
    exact Nat.add_le_add_right looked _

theorem turnsLeft_of_load_le :
    w.turnsLeft ≤ 2 + w.node.callers.wakeUpsLeft + w.node.callers.publicationsLeft / 2 := by
  have turns := w.turnsLeft_le
  have one := w.ahead_le_one
  have credit := credit_of_load_le begins
  omega

end

variable [DecidableEq ι] {f : ι → Control → Control}

/-- A cycle that starts uses up two halves, and no other step gives any back. -/
theorem credit_step {w : Watched ι} (paced : w.Paced) :
    2 * (if w.Starting then 1 else 0) + (w.step f).credit ≤ w.credit := by
  have proceeds := proceeds_step (f := f) paced.sound
  generalize w.step f = next at proceeds ⊢
  cases proceeds with
  | load place | due place _ | idle place _ | reckon place =>
    obtain ⟨_, running, stage⟩ := place
    simp [credit, worth, Starting, Loop.isOver, running, stage]
  | look place looked =>
    obtain ⟨_, running, stage⟩ := place
    simp [credit, worth, Starting, Loop.isOver, running, stage, looked]
  | fail place _ =>
    -- the turn that would start a cycle ends the loop, and what it was still worth with it
    have starting : w.Starting := place
    rw [if_pos starting, ← credit_of_starting paced starting]
    simp only [credit, Loop.isOver, loop_come, if_true]
    omega
  | begin place _ =>
    have starting : w.Starting := place
    rw [if_pos starting, ← credit_of_starting paced starting]
    simp only [credit, worth, Loop.isOver, loop_come, stage_come, work_come, now_come, published_come, callers_come,
      place.2.1, Option.isSome_some, Bool.false_eq_true, if_false, if_true]
    omega
  | go under _ =>
    obtain ⟨running, stage⟩ := paced.sound.busy (by simp [under])
    simp [credit, worth, Starting, Loop.isOver, running, stage, under]
  | finish under =>
    obtain ⟨running, stage⟩ := paced.sound.busy (by simp [under])
    have sampled := paced.samples _ under _ (.done _)
    simp [credit, worth, Starting, Loop.isOver, running, stage, under, sampled]
  | again place | rest place =>
    -- from here on the state counts as the next look at the flag will leave it
    have looks := w.loop.scheduler.state.credit_onControl_le w.published w.now
    obtain ⟨_, running, stage⟩ := place
    simp [credit, worth, Starting, Loop.isOver, running, stage, looks]
  | stop place => simp [credit, Starting, Loop.isOver, place.2.2]
  | sleep _ asleep => simp [Starting, asleep]

/-- A turn that begins was still to come. -/
theorem turnsLeft_step {w : Watched ι} (paced : w.Paced) :
    (if w.At .load then 1 else 0) + (w.step f).turnsLeft ≤ w.turnsLeft := by
  by_cases running : w.loop.phase = .running
  · have credit := credit_step (f := f) paced
    have ahead := ahead_step (f := f) paced.sound
    have turns := (w.step f).turnsLeft_le
    rw [(proceeds_step paced.sound).callers] at turns
    rw [turnsLeft_of_going (w := w) (by simp [Loop.isOver, running])]
    omega
  · rw [step_of_not_running paced.sound running]
    simp [At, running]

theorem potential_step {w : Watched ι} (paced : w.Paced) (running : w.loop.phase = .running) :
    (w.step f).potential + (if w.work.isSome then 0 else 1) ≤ w.potential := by
  have turns := turnsLeft_step (f := f) paced
  have steps := stepsAhead_step (f := f) paced.sound running
  unfold potential
  split at turns
  · next begins =>
    rw [if_pos begins] at steps
    omega
  · next within =>
    rw [if_neg within] at steps
    omega

/-- What all else does brings no cycle nearer that was not to come. -/
theorem credit_disturbed {w next : Watched ι} (disturbed : Disturbed f w next) :
    next.credit ≤ w.credit := by
  cases disturbed with
  | aside => exact Nat.le_refl _
  | call i =>
    have nearer := w.worth_le_succ w.published (w.node.callers.step f i).surface.current
    unfold credit
    show (if w.loop.isOver then 0 else w.worth (w.node.callers.step f i).surface.current +
      (w.node.callers.step f i).publicationsLeft) ≤ _
    rcases (w.node.callers.left_step (f := f) i).1 with fewer | ⟨same, fewer⟩
    · split <;> omega
    · rw [same]
      split
      · exact Nat.le_refl _
      · exact Nat.add_le_add_left fewer _
  | notice waits stored =>
    have going : w.loop.isOver = false := by simp [Loop.isOver, waits]
    rw [credit, credit, going]
    exact Nat.le_refl _
  | signal waits => simp [credit, Loop.isOver, amid]

/-- A turn that a wake-up leads to was still to come, and nothing else brings one nearer. -/
theorem turnsLeft_disturbed {w next : Watched ι} (disturbed : Disturbed f w next) : next.turnsLeft ≤ w.turnsLeft := by
  have credit := credit_disturbed disturbed
  have turns := next.turnsLeft_le
  have one := next.ahead_le_one
  cases disturbed with
  | aside => exact Nat.le_refl _
  | call i =>
    have woken := (w.node.callers.left_step (f := f) i).2
    cases going : w.loop.isOver with
    | true => simp [turnsLeft, amid, going]
    | false =>
      rw [callers_amid, ahead_amid] at turns
      rw [turnsLeft_of_going going]
      omega
  | notice waits stored =>
    have used := Callers.wakeUpsLeft_use (w := w.node.callers) stored
    rw [callers_amid] at turns
    rw [turnsLeft_of_going (w := w) (by simp [Loop.isOver, waits])]
    omega
  | signal waits => simp [turnsLeft, Loop.isOver, amid]

theorem potential_happen {w : Watched ι} (paced : w.Paced) {h : Happening ι} (still : h.isStill = true) :
    (w.happen f h).potential ≤ w.potential := by
  by_cases step : h = .step
  · subst step
    by_cases running : w.loop.phase = .running
    · exact Nat.le_of_add_right_le (potential_step paced running)
    · rw [happen, step_of_not_running paced.sound running]
  · obtain ⟨work, stage⟩ := work_happen (f := f) w step
    have turns := turnsLeft_disturbed (paced.disturbed (f := f) step still)
    unfold potential stepsAhead
    rw [work, stage]
    omega

end

/-! ## Whole courses -/

variable [DecidableEq ι] {f : ι → Control → Control}

/-- How many steps of the loop begin at certain places. -/
def stepsFrom (P : Watched ι → Prop) [DecidablePred P] (f : ι → Control → Control) (w : Watched ι) :
    List (Happening ι) → Nat
  | [] => 0
  | .step :: past => stepsFrom P f w past + if P (w.after f past) then 1 else 0
  | _ :: past => stepsFrom P f w past

/-- How many turns begin. -/
def turns (f : ι → Control → Control) (w : Watched ι) : List (Happening ι) → Nat := w.stepsFrom (·.At .load) f

theorem starts_eq_stepsFrom (w : Watched ι) (hs : List (Happening ι)) : w.starts f hs = w.stepsFrom Starting f hs := by
  induction hs with
  | nil => rfl
  | cons h past ih => cases h <;> simp only [starts, stepsFrom, ih]

section

variable {w : Watched ι} (paced : w.Paced) {hs : List (Happening ι)} (still : ∀ h ∈ hs, h.isStill = true)

include paced still

/-- What the steps from certain places use up of a measure that nothing gives back. -/
theorem stepsFrom_add_le {P : Watched ι → Prop} [DecidablePred P] {measure : Watched ι → Nat} (price : Nat)
    (step : ∀ v : Watched ι, v.Paced → price * (if P v then 1 else 0) + measure (v.step f) ≤ measure v)
    (aside : ∀ v next : Watched ι, Disturbed f v next → measure next ≤ measure v) :
    price * w.stepsFrom P f hs + measure (w.after f hs) ≤ measure w := by
  induction hs with
  | nil => simp [stepsFrom, after]
  | cons h past ih =>
    have before := fun g among => still g (.tail h among)
    have paced := paced.after (f := f) before
    have ih := ih before
    by_cases stepped : h = .step
    · subst stepped
      have used := step _ paced
      simp only [stepsFrom, after, happen, Nat.mul_add]
      omega
    · have same : w.stepsFrom P f (h :: past) = w.stepsFrom P f past := by
        cases h with
        | step => exact absurd rfl stepped
        | _ => rfl
      have disturbed := aside _ _ (paced.disturbed (f := f) stepped (still h (.head past)))
      rw [same]
      exact Nat.le_trans (Nat.add_le_add_left disturbed _) ih

variable [Fintype ι]

theorem starts_add_credit_le : 2 * w.starts f hs + (w.after f hs).credit ≤ w.credit := by
  rw [starts_eq_stepsFrom]
  exact stepsFrom_add_le paced still 2 (fun _ => credit_step) fun _ _ => credit_disturbed

theorem turns_add_turnsLeft_le : w.turns f hs + (w.after f hs).turnsLeft ≤ w.turnsLeft := by
  have spent := stepsFrom_add_le (P := (·.At .load)) paced still 1
    (fun _ paced => by simpa using turnsLeft_step (f := f) paced) fun _ _ => turnsLeft_disturbed
  simpa [turns] using spent

end

/-! ## Coming to rest -/

variable [Fintype ι]

section

variable {w : Watched ι} (paced : w.Paced) {course : Nat → Happening ι} (still : ∀ n, (course n).isStill = true)

include paced still

theorem potential_past_le (n : Nat) : (w.after f (past course n)).potential ≤ w.potential := by
  induction n with
  | zero => exact Nat.le_refl _
  | succ n ih => exact Nat.le_trans (potential_happen (paced.after (still_past still n)) (still n)) ih

/-- A loop that is awake does not stay where it is. -/
theorem Driven.exists_less (driven : Driven course) (running : w.loop.phase = .running) :
    ∃ n, (w.after f (past course n)).potential < w.potential := by
  cases under : w.work with
  | none =>
    obtain ⟨k, others, step⟩ := driven.exists_step w (f := f)
    obtain ⟨work, _, loop⟩ := after_past_of_others (f := f) (w := w) others
    have before := potential_past_le (f := f) paced still k
    have awake : (w.after f (past course k)).loop.phase = .running := by
      rw [loop (isWaiting_of_running running), running]
    have less := potential_step (f := f) (paced.after (still_past still k)) awake
    rw [work, under] at less
    refine ⟨k + 1, ?_⟩
    rw [step]
    simp only [Option.isSome_none, Bool.false_eq_true, if_false] at less
    omega
  | some cycle =>
    -- the cycle comes to its end, whatever it does until then
    obtain ⟨n, ended, _, idle, stage, _⟩ := driven.exists_behind paced.sound under (f := f)
    have turns := turns_add_turnsLeft_le (f := f) paced (still_past still n)
    have begun := (paced.sound.busy (by simp [under])).2
    refine ⟨n, ?_⟩
    simp only [potential, stepsAhead, idle, stage, under, begun, Stage.stepsLeft, Option.isSome_none,
      Option.isSome_some, Bool.toNat_false, Bool.toNat_true]
    omega

/-- A loop that goes on comes to rest for good. -/
theorem Driven.exists_rest (driven : Driven course) :
    ∃ n, ∀ k, n ≤ k → (w.after f (past course k)).loop.phase ≠ .running := by
  -- where the potential is least the loop can make no step any more
  obtain ⟨n, least⟩ : ∃ n, ∀ k, (w.after f (past course n)).potential ≤ (w.after f (past course k)).potential :=
    ⟨_, fun k => Function.argmin_le (fun k => (w.after f (past course k)).potential) k⟩
  have pacedAt (k : Nat) : (w.after f (past course k)).Paced := paced.after (still_past still k)
  refine ⟨n, fun k later running => ?_⟩
  obtain ⟨i, rfl⟩ := Nat.exists_eq_add_of_le later
  have level := potential_past_le (f := f) (pacedAt n) (fun j => still (n + j)) i
  obtain ⟨j, less⟩ := exists_less (f := f) (pacedAt (n + i)) (fun j => still (n + i + j)) (driven.later (n + i)) running
  rw [← after_past_add] at level less
  have bound := least (n + i + j)
  omega

end

/-- A loop that goes on waits in the end, and finds no wake-up any more, unless it has seen the shutdown or its
    source has broken. -/
theorem Driven.exists_wait {w : Watched ι} (paced : w.Paced) (running : w.loop.phase = .running)
    {course : Nat → Happening ι} (still : ∀ n, (course n).isStill = true) (driven : Driven course) :
    ∃ n, ∀ k, n ≤ k → let rests := w.after f (past course k)
      (∃ deadline, rests.loop.phase = .waiting deadline ∧
        (course k = .event .notice → rests.node.world.surface.notified = false)) ∨
      (rests.loop.phase = .stopped ∧ rests.signal.visible = true) ∨
      (rests.loop.phase = .failed ∧ ∃ j < k, (w.after f (past course j)).node.world.source.isBroken = true) := by
  obtain ⟨n, rests⟩ := driven.exists_rest paced still (f := f)
  refine ⟨n, fun k later => ?_⟩
  cases phase : (w.after f (past course k)).loop.phase with
  | running => exact absurd phase (rests k later)
  | waiting deadline =>
    refine .inl ⟨deadline, phase, fun notice => notified_of_rests (f := f) phase ?_⟩
    rw [← notice]
    exact rests (k + 1) (by omega)
  | stopped => exact .inr (.inl ⟨phase, visible_of_stopped paced.sound (by simp [running]) phase⟩)
  | failed => exact .inr (.inr ⟨phase, exists_broken paced still (by simp [running]) phase⟩)

/-! ## The loop settles -/

/-- While the time stands still, whatever the callers, the roles, the disk and the shutdown do, there is a bound on
    the cycles and on the turns. The loop comes to wait for good, for a later instant or for none, unless it sees
    the shutdown or its source breaks. After a cycle nothing is due at its instant, whatever is accepted. What is
    due stays due, later and under shorter intervals, and nothing is due beyond the clock. -/
theorem settles {start : Watched ι} (begins : start.At .load) (accepted : start.node.callers.Accepted)
    {course : Nat → Happening ι} (still : ∀ n, (course n).isStill = true) :
    let publications := start.node.callers.publicationsLeft
    let wakeUps := start.node.callers.wakeUpsLeft
    (∀ n, start.starts f (past course n) ≤ 1 + publications / 2 ∧
      start.turns f (past course n) ≤ 2 + wakeUps + publications / 2) ∧
    (∀ n deadline, let w := start.after f (past course n)
      w.loop.phase = .waiting deadline → deadline = w.loop.scheduler.state.deadline w.loop.loaded ∧
        ∀ due, deadline = some due → w.now.nanos < due.nanos) ∧
    (Driven course → ∃ n, ∀ k, n ≤ k → let w := start.after f (past course k)
      (∃ deadline, w.loop.phase = .waiting deadline ∧
        (course k = .event .notice → w.node.world.surface.notified = false)) ∨
      (w.loop.phase = .stopped ∧ w.signal.visible = true) ∨
      (w.loop.phase = .failed ∧ ∃ j < k, (start.after f (past course j)).node.world.source.isBroken = true)) ∧
    (∀ (l : Loop) (c : Control) (source : RoleSource) (signalled : Bool) (now : Instant) (d : Disk),
      l.phase = .running → c.Valid →
      let settled := (l.settle c source signalled now).run d
      ((settled.1.1.phase = .failed ∧ source.isBroken = true) ∨
        (settled.1.1.phase = (if signalled then .stopped else .waiting (settled.1.1.scheduler.state.deadline c)) ∧
          ∀ due, settled.1.1.scheduler.state.deadline c = some due → now.nanos < due.nanos)) ∧
      settled.1.1.scheduler.stats.counted ≤ l.scheduler.stats.counted + 1 ∧
      ∀ n, (Loop.turns c source signalled now (n + 2) l).run d = settled) ∧
    (∀ (s : Scheduler) (c : Control) (report : Option RoleState) (now : Instant),
      ∀ ended, (s.cycle c report now).Ends ended → ∀ c' : Control, c'.Valid → ended.1.state.isDue c' now = false) ∧
    (∀ (s : SchedulerState) (c c' : Control) (now later : Instant), now.nanos ≤ later.nanos →
      (∀ since, s = .awaitingGrace since → c'.grace.nanos ≤ c.grace.nanos) →
      (∀ last, s = .sampling last → c'.scrape.nanos ≤ c.scrape.nanos) →
      s.isDue c now = true → s.isDue c' later = true) ∧
    (∀ (s : SchedulerState) (c : Control) (now : Instant),
      (∀ since, s = .awaitingGrace since → Instant.limit ≤ since.nanos + c.grace.nanos) →
      (∀ last, s = .sampling last → Instant.limit ≤ last.nanos + c.scrape.nanos) →
      s.deadline c = none ∧ s.isDue c now = false) := by
  have paced := paced_of_load begins accepted
  have pacedAt (n : Nat) : (start.after f (past course n)).Paced := paced.after (still_past still n)
  intro publications wakeUps
  refine ⟨fun n => ⟨?_, ?_⟩, fun n _ waits => (pacedAt n).later waits, Driven.exists_wait paced begins.2.1 still,
    fun l c source signalled now d running valid => ?_, fun s c report now ended ends c' valid => ?_,
    fun s c c' now later passed grace scrape => SchedulerState.isDue_mono grace scrape passed,
    fun s c now grace scrape => ?_⟩
  · have spent := starts_add_credit_le (f := f) paced (still_past still n)
    have credit := credit_of_load_le begins
    omega
  · have spent := turns_add_turnsLeft_le (f := f) paced (still_past still n)
    have turns := turnsLeft_of_load_le begins
    omega
  · obtain ⟨rests, once, same⟩ := Loop.settle_rests running valid source signalled now d
    exact ⟨rests.imp_right fun ⟨phase, early⟩ => ⟨phase, SchedulerState.not_isDue_iff.mp early⟩, once, same⟩
  · rw [(Scheduler.ends_cycle ends).2.1]
    exact SchedulerState.isDue_afterSample s.state now valid
  · have never := SchedulerState.deadline_of_limit_le grace scrape
    exact ⟨never, by rw [SchedulerState.isDue, never]⟩

/-- Sampling is switched off and on again at the instant of the first cycle, with no grace period: a second cycle
    runs, and the loop makes all the turns that it can. -/
theorem settles_after_second_activation :
    let f (on : Bool) : Control → Control := ControlChange.apply { enabled := some on }
    let start : Watched Bool :=
      ⟨⟨World.alone ⟨true, ⟨0⟩, ⟨1000000000⟩, ⟨0⟩⟩, .load, fun _ => .start⟩, ⟨false, false⟩, none⟩
    let again (on : Bool) : List (Happening Bool) := List.replicate 4 (.call on) ++ [.event .notice]
    let script := List.replicate 19 .step ++ again false ++ List.replicate 5 .step ++ again true
    let course (n : Nat) := script.getD n .step
    let due : Instant := ⟨1000000000⟩
    start.starts f (past course 53) = 2 ∧ start.turns f (past course 53) = 5 ∧
      (start.after f (past course 53)).loop.phase = .waiting (some due) ∧
      (start.after f (past course 53)).now.nanos < due.nanos ∧
      ∃ n, ∀ k, n ≤ k → (start.after f (past course k)).loop.phase ≠ .running := by
  intro f start again script course due
  have behind {n : Nat} (later : 34 ≤ n) : course n = .step := by
    rw [show course n = script[n]?.getD .step from List.getD_eq_getElem?_getD, List.getElem?_eq_none later]
    rfl
  have still (n : Nat) : (course n).isStill = true := by
    by_cases within : n < 34
    · have all : ∀ m < 34, (course m).isStill = true := by decide
      exact all n within
    · rw [behind (by omega)]
      rfl
  have driven : Driven course := fun n => ⟨n + 34, by omega, behind (by omega)⟩
  have begins : start.At .load := by decide
  obtain ⟨bounds, later, rests, _⟩ := settles (f := f) begins (Callers.accepted_new (by decide)) still
  have publications : start.node.callers.publicationsLeft = 2 := by decide
  have wakeUps : start.node.callers.wakeUpsLeft = 2 := by decide
  rw [publications, wakeUps] at bounds
  have waits : (start.after f (past course 53)).loop.phase = .waiting (some due) := by decide +kernel
  have second : 2 ≤ start.starts f (past course 53) := by decide +kernel
  have fifth : 5 ≤ start.turns f (past course 53) := by decide +kernel
  obtain ⟨cycles, turns⟩ := bounds 53
  refine ⟨by omega, by omega, waits, (later 53 _ waits).2 due rfl, ?_⟩
  refine (rests driven).imp fun n rests k late running => ?_
  rcases rests k late with ⟨_, phase, _⟩ | ⟨phase, _⟩ | ⟨phase, _⟩ <;> cases running.symm.trans phase

end Watched

end NodeTelemetry
