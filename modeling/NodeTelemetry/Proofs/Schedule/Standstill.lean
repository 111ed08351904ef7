import NodeTelemetry.Proofs.Control.Outstanding
import NodeTelemetry.Proofs.Schedule.Deadlines
import NodeTelemetry.Proofs.Schedule.Shutdown

/-!
# While the time stands still

What a node does at one instant: where a step of the loop leads
(`Watched.Proceeds`), what all else changes (`Watched.Disturbed`), and what holds
at every moment (`Watched.Paced`). A loop that waits does so for an instant that
is still to come (`Watched.Paced.later`), so nothing but the shutdown and a
wake-up ends its wait.
-/

namespace NodeTelemetry

/-- Time stands still, and parameters are updated by the callers only. -/
def Happening.isStill {ι : Type} : Happening ι → Bool
  | .event (.elapse _) => false
  | .event (.update _) => false
  | _ => true

namespace Watched

variable {ι : Type}

abbrev now (w : Watched ι) : Instant := w.node.world.now

/-- The parameters in force. -/
abbrev published (w : Watched ι) : Control := w.node.world.surface.current

/-- The loop is awake at a stage of its turn, and no cycle is under way. -/
def At (w : Watched ι) (stage : Stage) : Prop := w.work = none ∧ w.loop.phase = .running ∧ w.node.stage = stage

instance (w : Watched ι) (stage : Stage) : Decidable (w.At stage) :=
  decidable_of_iff (w.work.isNone = true ∧ w.loop.phase = .running ∧ w.node.stage = stage) (by simp [At])

/-- The node when its loop has come to another place. -/
def come (w : Watched ι) (loop : Loop) (stage : Stage) (work : Option Cycle) (disk : Disk) : Watched ι :=
  { w with node := { w.node with world := { w.node.world with loop, disk }, stage }, work }

section

variable (w : Watched ι) (loop : Loop) (stage : Stage) (work : Option Cycle) (disk : Disk)

@[simp] theorem loop_come : (w.come loop stage work disk).loop = loop := rfl

@[simp] theorem stage_come : (w.come loop stage work disk).node.stage = stage := rfl

@[simp] theorem work_come : (w.come loop stage work disk).work = work := rfl

@[simp] theorem now_come : (w.come loop stage work disk).now = w.now := rfl

@[simp] theorem callers_come : (w.come loop stage work disk).node.callers = w.node.callers := rfl

@[simp] theorem published_come : (w.come loop stage work disk).published = w.published := rfl

end

/-! ## Where a step of the loop leads -/

/-- Where a step of the loop leads, whatever stands on the disk. -/
inductive Proceeds (w : Watched ι) : Watched ι → Prop where
  | load {d : Disk} (place : w.At .load) : Proceeds w (w.come { w.loop with loaded := w.published } .look none d)
  | look {scheduler : Scheduler} {d : Disk} (place : w.At .look)
    (looked : scheduler.state = (w.loop.scheduler.state.onControl w.loop.loaded w.now).1) :
    Proceeds w (w.come { w.loop with scheduler } .decide none d)
  | due {d : Disk} (place : w.At .decide) (due : w.loop.scheduler.state.isDue w.loop.loaded w.now = true) :
    Proceeds w (w.come w.loop .cycle none d)
  | idle {d : Disk} (place : w.At .decide) (idle : w.loop.scheduler.state.isDue w.loop.loaded w.now = false) :
    Proceeds w (w.come w.loop .reckon none d)
  | fail {d : Disk} (place : w.At .cycle) (broken : w.node.world.source.isBroken = true) :
    Proceeds w (w.come { w.loop with phase := .failed } .load none d)
  | begin {cycle : Cycle} {d : Disk} (place : w.At .cycle)
    (samples : ∀ ended, cycle.Ends ended → ended.1.state = w.loop.scheduler.state.afterSample w.now) :
    Proceeds w (w.come w.loop .cycle (some cycle) d)
  | go {rest left : Cycle} {d : Disk} (under : w.work = some rest) (ways : ∀ ended, left.Ends ended → rest.Ends ended) :
    Proceeds w (w.come w.loop .cycle (some left) d)
  | finish {ended : Scheduler × Except StorageError Path × List Notice} {d : Disk}
    (under : w.work = some (.done ended)) :
    Proceeds w (w.come { w.loop with scheduler := ended.1 } .finish none d)
  | again {d : Disk} (place : w.At .finish) : Proceeds w (w.come w.loop .load none d)
  | stop {d : Disk} (place : w.At .finish) : Proceeds w (w.come { w.loop with phase := .stopped } .load none d)
  | reckon {d : Disk} (place : w.At .reckon) :
    Proceeds w (w.come w.loop (.rest (w.loop.scheduler.state.deadline w.loop.loaded)) none d)
  | rest {deadline : Option Instant} {d : Disk} (place : w.At (.rest deadline)) :
    Proceeds w (w.come { w.loop with phase := .waiting deadline } .load none d)
  | sleep (idle : w.work = none) (asleep : w.loop.phase ≠ .running) : Proceeds w w

variable [DecidableEq ι] {f : ι → Control → Control}

/-- Where the next step of a turn leads. -/
theorem proceeds_of_idle {w : Watched ι} (idle : w.work = none) (running : w.loop.phase = .running) :
    w.Proceeds (w.step f) := by
  by_cases starting : w.Starting ∧ w.node.world.source.isBroken = false
  · rw [step_of_starting starting.1 starting.2]
    let cycle := w.loop.scheduler.cycle w.loop.loaded w.node.world.source.current w.now
    have samples ended (ends : cycle.Ends ended) : ended.1.state = w.loop.scheduler.state.afterSample w.now :=
      (Scheduler.ends_cycle ends).2.1
    have begun := Proceeds.begin (d := w.node.world.disk) starting.1 samples
    rwa [← starting.1.2.2] at begun
  · rw [step_of_idle idle starting]
    obtain ⟨⟨⟨⟨scheduler, loaded, phase⟩, surface, source, now, disk⟩, stage, calls⟩, signal, work⟩ := w
    cases idle
    cases running
    cases stage with
    | load => exact .load ⟨rfl, rfl, rfl⟩
    | look =>
      simp only [Node.move, Loop.advance, Procedure.run_bind, Procedure.run_pure]
      exact .look ⟨rfl, rfl, rfl⟩ (Scheduler.reconcile_scheduler scheduler loaded now disk).2
    | decide =>
      simp only [Node.move, Loop.advance, Procedure.run_pure]
      split
      · next due => exact .due ⟨rfl, rfl, rfl⟩ due
      · next early => exact .idle ⟨rfl, rfl, rfl⟩ (by simpa using early)
    | cycle =>
      have broken : source.isBroken = true := by
        by_contra whole
        exact starting ⟨⟨rfl, rfl, rfl⟩, by simpa using whole⟩
      simp only [Node.move, Loop.advance, broken, if_true, Procedure.run_pure]
      exact .fail ⟨rfl, rfl, rfl⟩ broken
    | finish =>
      simp only [Node.move, Loop.advance, Procedure.run_pure]
      split
      · exact .stop ⟨rfl, rfl, rfl⟩
      · exact .again ⟨rfl, rfl, rfl⟩
    | reckon => exact .reckon ⟨rfl, rfl, rfl⟩
    | rest deadline => exact .rest ⟨rfl, rfl, rfl⟩

theorem step_of_not_running {w : Watched ι} (sound : w.Sound) (rests : w.loop.phase ≠ .running) : w.step f = w := by
  have idle : w.work = none := by
    by_contra busy
    exact rests (sound.busy busy).1
  rw [step_of_idle idle (fun starting => rests starting.1.2.1), Node.move_loop_of_not_running f rests]

theorem proceeds_step {w : Watched ι} (sound : w.Sound) : w.Proceeds (w.step f) := by
  cases under : w.work with
  | some rest =>
    have stage := (sound.busy (by simp [under])).2
    by_cases last : ∃ ended, rest = .done ended
    · obtain ⟨ended, rfl⟩ := last
      rw [step_of_done under]
      exact .finish under
    · rw [step_of_work under (not_exists.mp last)]
      let next := rest.next w.node.world.disk
      have ways ended (ends : next.1.Ends ended) : rest.Ends ended := Procedure.ends_next ends
      have went := Proceeds.go (d := next.2) under ways
      rwa [← stage] at went
  | none =>
    by_cases running : w.loop.phase = .running
    · exact proceeds_of_idle under running
    · rw [step_of_not_running sound running]
      exact .sleep under running

/-! ## What all else does -/

/-- The node with its loop and its callers at another place, in other surroundings. -/
def amid (w : Watched ι) (loop : Loop) (callers : Callers ι) (source : RoleSource) (disk : Disk)
    (signal : ShutdownSignal) : Watched ι :=
  { w with
    node := { w.node with world := ⟨loop, callers.surface, source, w.now, disk⟩, calls := callers.calls }, signal }

omit [DecidableEq ι] in
theorem callers_amid (w : Watched ι) (loop : Loop) (callers : Callers ι) (source : RoleSource) (disk : Disk)
    (signal : ShutdownSignal) : (w.amid loop callers source disk signal).node.callers = callers := rfl

/-- What all else does while the time stands still. -/
inductive Disturbed (f : ι → Control → Control) (w : Watched ι) : Watched ι → Prop where
  | aside {source : RoleSource} {d : Disk} {signal : ShutdownSignal} :
    Disturbed f w (w.amid w.loop w.node.callers source d signal)
  | call {source : RoleSource} {d : Disk} {signal : ShutdownSignal} (i : ι) :
    Disturbed f w (w.amid w.loop (w.node.callers.step f i) source d signal)
  | notice {source : RoleSource} {d : Disk} {signal : ShutdownSignal} {deadline : Option Instant}
    (waits : w.loop.phase = .waiting deadline) (stored : w.node.world.surface.notified = true) :
    Disturbed f w (w.amid { w.loop with phase := .running } w.node.callers.use source d signal)
  | signal {source : RoleSource} {d : Disk} {signal : ShutdownSignal} {deadline : Option Instant}
    (waits : w.loop.phase = .waiting deadline) :
    Disturbed f w (w.amid { w.loop with phase := .stopped } w.node.callers source d signal)

omit [DecidableEq ι] in
theorem not_expired {w : Watched ι}
    (early : ∀ due, w.loop.phase = .waiting (some due) → w.now.nanos < due.nanos) :
    ¬ w.loop.deadline?.any (·.nanos ≤ w.now.nanos) = true := by
  unfold Loop.deadline?
  split
  · next deadline waits =>
    cases deadline with
    | none => simp
    | some due =>
      have later := early due waits
      simpa using later
  · simp

/-- A wait that is for a later instant ends only through a wake-up or the shutdown. -/
theorem disturbed_happen {w : Watched ι} {h : Happening ι} (other : h ≠ .step) (still : h.isStill = true)
    (early : ∀ due, w.loop.phase = .waiting (some due) → w.now.nanos < due.nanos) : Disturbed f w (w.happen f h) := by
  cases h with
  | step => exact absurd rfl other
  | call i => exact .call i
  | event e =>
    cases e with
    | elapse span => cases still
    | update g => cases still
    | report source => exact .aside
    | expire =>
      simp only [happen, Node.move, World.after]
      rw [if_neg (not_expired early)]
      exact .aside
    | notice =>
      simp only [happen, Node.move, World.after]
      split
      · next both =>
        obtain ⟨asleep, stored⟩ := Bool.and_eq_true_iff.mp both
        obtain ⟨deadline, waits⟩ := Loop.isWaiting_iff.mp asleep
        simp only [Loop.wake, waits]
        exact .notice waits stored
      · exact .aside
    | signal =>
      simp only [happen]
      split
      · simp only [Node.move, World.after, Loop.signal]
        split
        · next deadline waits => exact .signal waits
        · exact .aside
      · exact .aside
  | _ => exact .aside

/-! ## What holds while the time stands still -/

/-- What holds at every moment while the time stands still: what is in force and what is loaded is accepted, and a
    loop that goes to wait has found nothing due. -/
structure Paced (w : Watched ι) : Prop where
  sound : w.Sound
  accepted : w.node.callers.Accepted
  loaded : w.node.stage ≠ .load → w.loop.loaded.Valid
  due : w.node.stage = .cycle → w.loop.scheduler.state.isDue w.loop.loaded w.now = true
  early : w.node.stage = .reckon → w.loop.scheduler.state.isDue w.loop.loaded w.now = false
  rests : ∀ deadline, w.node.stage = .rest deadline ∨ w.loop.phase = .waiting deadline →
    deadline = w.loop.scheduler.state.deadline w.loop.loaded ∧
      w.loop.scheduler.state.isDue w.loop.loaded w.now = false
  samples : ∀ rest, w.work = some rest → ∀ ended, rest.Ends ended →
    ended.1.state = w.loop.scheduler.state.afterSample w.now

omit [DecidableEq ι] in
theorem paced_of_load {w : Watched ι} (place : w.At .load) (accepted : w.node.callers.Accepted) : w.Paced := by
  obtain ⟨idle, running, stage⟩ := place
  refine ⟨⟨?_, ?_⟩, accepted, ?_, ?_, ?_, ?_, ?_⟩ <;> simp [idle, running, stage]

/-- A step of the loop keeps it so: what is due was looked for on the way to a cycle, and on the way to a wait. -/
theorem Paced.step {w : Watched ι} (paced : w.Paced) : (w.step f).Paced := by
  have sound := paced.sound.step (f := f)
  have proceeds := proceeds_step (f := f) paced.sound
  have kept {stage : Stage} (place : w.At stage) (behind : stage ≠ .load) : w.loop.loaded.Valid :=
    paced.loaded (place.2.2 ▸ behind)
  generalize w.step f = next at sound proceeds ⊢
  have accepted := paced.accepted
  cases proceeds with
  | load place =>
    exact ⟨sound, accepted, fun _ => accepted.current, by simp, by simp, by simp [place.2.1], by simp⟩
  | look place looked =>
    exact ⟨sound, accepted, fun _ => kept place (by simp), by simp, by simp, by simp [place.2.1], by simp⟩
  | due place due =>
    exact ⟨sound, accepted, fun _ => kept place (by simp), fun _ => due, by simp, by simp [place.2.1], by simp⟩
  | idle place early =>
    exact ⟨sound, accepted, fun _ => kept place (by simp), by simp, fun _ => early, by simp [place.2.1], by simp⟩
  | fail place broken => exact ⟨sound, accepted, by simp, by simp, by simp, by simp, by simp⟩
  | begin place samples =>
    exact ⟨sound, accepted, fun _ => kept place (by simp), fun _ => paced.due place.2.2, by simp, by simp [place.2.1],
      by simpa using samples⟩
  | go under ways =>
    obtain ⟨running, stage⟩ := paced.sound.busy (by simp [under])
    refine ⟨sound, accepted, fun _ => paced.loaded (by simp [stage]), fun _ => paced.due stage, by simp,
      by simp [running], ?_⟩
    intro left same ended ends
    cases same
    exact paced.samples _ under ended (ways ended ends)
  | finish under =>
    obtain ⟨running, stage⟩ := paced.sound.busy (by simp [under])
    exact ⟨sound, accepted, fun _ => paced.loaded (by simp [stage]), by simp, by simp, by simp [running], by simp⟩
  | again place => exact ⟨sound, accepted, by simp, by simp, by simp, by simp [place.2.1], by simp⟩
  | stop place => exact ⟨sound, accepted, by simp, by simp, by simp, by simp, by simp⟩
  | reckon place =>
    refine ⟨sound, accepted, fun _ => kept place (by simp), by simp, by simp, ?_, by simp⟩
    rintro deadline (same | waits)
    · cases same
      exact ⟨rfl, paced.early place.2.2⟩
    · cases place.2.1.symm.trans waits
  | rest place =>
    refine ⟨sound, accepted, by simp, by simp, by simp, ?_, by simp⟩
    rintro deadline (same | waits)
    · cases same
    · cases waits
      exact paced.rests _ (.inl place.2.2)
  | sleep idle asleep => exact paced

omit [DecidableEq ι] in
/-- A loop that waits does so for a later instant. -/
theorem Paced.later {w : Watched ι} (paced : w.Paced) {deadline : Option Instant}
    (waits : w.loop.phase = .waiting deadline) :
    deadline = w.loop.scheduler.state.deadline w.loop.loaded ∧
      ∀ due, deadline = some due → w.now.nanos < due.nanos := by
  obtain ⟨same, early⟩ := paced.rests deadline (.inr waits)
  exact ⟨same, fun due held => SchedulerState.not_isDue_iff.mp early due (same ▸ held)⟩

theorem Paced.disturbed {w : Watched ι} (paced : w.Paced) {h : Happening ι} (other : h ≠ .step)
    (still : h.isStill = true) : Disturbed f w (w.happen f h) :=
  disturbed_happen other still fun due waits => (paced.later waits).2 due rfl

theorem Paced.happen {w : Watched ι} (paced : w.Paced) {h : Happening ι} (still : h.isStill = true) :
    (w.happen f h).Paced := by
  by_cases step : h = .step
  · rw [step]
    exact paced.step
  · have sound := paced.sound.happen (f := f) h
    have disturbed := paced.disturbed (f := f) step still
    have asleep {deadline : Option Instant} (waits : w.loop.phase = .waiting deadline) :
        w.node.stage = .load ∧ w.work = none := by
      have rests : w.loop.phase ≠ .running := by simp [waits]
      exact ⟨paced.sound.resting rests, Classical.byContradiction fun busy => rests (paced.sound.busy busy).1⟩
    generalize w.happen f h = next at sound disturbed ⊢
    cases disturbed with
    | aside => exact { paced with sound }
    | call i => exact { paced with sound, accepted := paced.accepted.step i }
    | notice waits stored =>
      obtain ⟨stage, idle⟩ := asleep waits
      exact paced_of_load ⟨idle, rfl, stage⟩ ⟨paced.accepted.current, paced.accepted.ready⟩
    | signal waits =>
      obtain ⟨stage, idle⟩ := asleep waits
      refine ⟨sound, paced.accepted, ?_, ?_, ?_, ?_, ?_⟩ <;> simp [amid, stage, idle]

theorem Paced.after {w : Watched ι} (paced : w.Paced) {hs : List (Happening ι)} (still : ∀ h ∈ hs, h.isStill = true) :
    (w.after f hs).Paced := by
  induction hs with
  | nil => exact paced
  | cons h past ih => exact (ih fun g among => still g (.tail h among)).happen (still h (.head past))

/-! ## Courses -/

omit [DecidableEq ι] in
theorem mem_past {course : Nat → Happening ι} {n : Nat} {h : Happening ι} (among : h ∈ past course n) :
    ∃ k, h = course k := by
  induction n with
  | zero => cases among
  | succ n ih =>
    rcases List.mem_cons.mp among with rfl | among
    · exact ⟨n, rfl⟩
    · exact ih among

omit [DecidableEq ι] in
theorem still_past {course : Nat → Happening ι} (still : ∀ n, (course n).isStill = true) (n : Nat) :
    ∀ h ∈ past course n, h.isStill = true := by
  intro h among
  obtain ⟨k, rfl⟩ := mem_past among
  exact still k

/-- A source that breaks is what makes a loop fail. -/
theorem broken_of_failed {w : Watched ι} (paced : w.Paced) {h : Happening ι} (still : h.isStill = true)
    (going : w.loop.phase ≠ .failed) (failed : (w.happen f h).loop.phase = .failed) :
    w.node.world.source.isBroken = true := by
  by_cases step : h = .step
  · subst step
    have proceeds := proceeds_step (f := f) paced.sound
    rw [happen] at failed
    generalize w.step f = next at proceeds failed
    cases proceeds with
    | fail _ broken => exact broken
    | stop => cases failed
    | rest => cases failed
    | _ => exact absurd failed going
  · have disturbed := paced.disturbed (f := f) step still
    generalize w.happen f h = next at disturbed failed
    cases disturbed with
    | aside => exact absurd failed going
    | call i => exact absurd failed going
    | notice => cases failed
    | signal => cases failed

theorem exists_broken {w : Watched ι} (paced : w.Paced) {course : Nat → Happening ι}
    (still : ∀ n, (course n).isStill = true) (going : w.loop.phase ≠ .failed) {n : Nat}
    (failed : (w.after f (past course n)).loop.phase = .failed) :
    ∃ k < n, (w.after f (past course k)).node.world.source.isBroken = true := by
  induction n with
  | zero => exact absurd failed going
  | succ n ih =>
    by_cases already : (w.after f (past course n)).loop.phase = .failed
    · obtain ⟨k, before, broken⟩ := ih already
      exact ⟨k, by omega, broken⟩
    · exact ⟨n, by omega, broken_of_failed (paced.after (still_past still n)) (still n) already failed⟩

theorem visible_of_stopped {w : Watched ι} (sound : w.Sound) (going : w.loop.phase ≠ .stopped) {hs : List (Happening ι)}
    (stopped : (w.after f hs).loop.phase = .stopped) : (w.after f hs).signal.visible = true := by
  obtain ⟨later, h, earlier, rfl, leaving, _⟩ := exists_stop sound going stopped
  rw [after_append]
  exact visible_after (visible_happen leaving.visible h) later

/-- A loop that looks for a wake-up and sleeps on has found none. -/
theorem notified_of_rests {w : Watched ι} {deadline : Option Instant} (waits : w.loop.phase = .waiting deadline)
    (rests : (w.happen f (.event .notice)).loop.phase ≠ .running) : w.node.world.surface.notified = false := by
  by_contra stored
  have stored : w.node.world.surface.notified = true := by simpa using stored
  have asleep : w.node.world.loop.isWaiting = true := Loop.isWaiting_iff.mpr ⟨deadline, waits⟩
  refine rests ?_
  simp only [happen, Node.move, World.after, asleep, stored, Bool.and_self, if_true]
  rw [Loop.wake, waits]

end Watched

end NodeTelemetry
