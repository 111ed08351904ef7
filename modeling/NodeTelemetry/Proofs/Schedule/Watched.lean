import Mathlib.Data.Nat.Find
import NodeTelemetry.Proofs.Schedule.Stages

/-!
# A node action by action

A cycle is many actions on the disk, and others can act between any two of them:
they update parameters, change the disk, or signal the shutdown. Here a node goes
on action by action. A cycle that has started stays under way until it has ended
in one of the ways in which it can end (`Watched.carried_out`), and it does end
if the loop goes on (`Watched.Driven.exists_behind`). One that nobody disturbs is
the cycle of the loop (`Watched.exists_cycle`).
-/

namespace NodeTelemetry

namespace Procedure

/-- The next look or action of a procedure. -/
def next {α : Type} : Procedure α → Disk → Procedure α × Disk
  | done a, d => (done a, d)
  | look rest, d => (rest d, d)
  | act x rest, d =>
    match d.act x with
    | .ok after => (rest (.ok ()), after)
    | .error e => (rest (.error e), d)

theorem run_next {α : Type} (p : Procedure α) (d : Disk) : (p.next d).1.run (p.next d).2 = p.run d := by
  cases p with
  | done a => rfl
  | look rest => rfl
  | act x rest => cases acted : d.act x <;> simp [next, run, acted]

theorem ends_next {α : Type} {p : Procedure α} {d : Disk} {a : α} (ends : (p.next d).1.Ends a) : p.Ends a := by
  cases p with
  | done a => exact ends
  | look rest => exact .look d ends
  | act x rest =>
    rw [next] at ends
    split at ends
    · exact .act (.ok ()) ends
    · next e _ => exact .act (.error e) ends

end Procedure

/-- A loop that is awake is left alone by whatever happens between turns. -/
theorem World.loop_after {w : World} (awake : w.loop.isWaiting = false) (e : Event) : (w.after e).loop = w.loop := by
  have unsignalled : w.loop.signal = w.loop := by
    unfold Loop.isWaiting at awake
    unfold Loop.signal
    split <;> simp_all
  have undue : w.loop.deadline? = none := by
    unfold Loop.isWaiting at awake
    unfold Loop.deadline?
    split <;> simp_all
  cases e with
  | expire => simp [after, undue]
  | notice => simp [after, awake]
  | signal => exact unsignalled
  | _ => rfl

/-- The channel on which the shutdown is signalled: by a message, or by the end of the sender. -/
structure ShutdownSignal where
  sent : Bool
  dropped : Bool

/-- Whether the receiver sees the shutdown. -/
def ShutdownSignal.visible (s : ShutdownSignal) : Bool := s.sent || s.dropped

/-- What is left of a cycle. -/
abbrev Cycle := Procedure (Scheduler × Except StorageError Path × List Notice)

/-- A node with its shutdown channel. What is left of a cycle that has started is kept, so that others can
    act between any two of its actions. -/
structure Watched (ι : Type) where
  node : Node ι
  signal : ShutdownSignal
  work : Option Cycle := none

/-- What can happen next. -/
inductive Happening (ι : Type) where
  /-- A call that updates the parameters makes a step. -/
  | call (i : ι)
  /-- The loop makes a step of its turn, or of the cycle in it. -/
  | step
  /-- Time passes, roles are reported, or a wait ends for one of the reasons that there are. -/
  | event (e : Event)
  /-- Others change the disk. -/
  | touch (d : Disk)
  | send
  | drop

namespace Watched

variable {ι : Type} [DecidableEq ι] (f : ι → Control → Control)

abbrev loop (w : Watched ι) : Loop := w.node.world.loop

/-- Whether the loop is about to start a cycle. -/
def Starting (w : Watched ι) : Prop := w.work = none ∧ w.loop.phase = .running ∧ w.node.stage = .cycle

instance (w : Watched ι) : Decidable w.Starting :=
  decidable_of_iff (w.work.isNone = true ∧ w.loop.phase = .running ∧ w.node.stage = .cycle) (by simp [Starting])

/-- The next step of the loop. A cycle goes from action to action; of all other steps only the one behind a
    cycle looks for the signal. -/
def step (w : Watched ι) : Watched ι :=
  match w.work with
  | some (.done (scheduler, _, _)) =>
    { w with
      node := { w.node with world := { w.node.world with loop := { w.loop with scheduler } }, stage := .finish },
      work := none }
  | some rest =>
    let next := rest.next w.node.world.disk
    { w with node := { w.node with world := { w.node.world with disk := next.2 } }, work := some next.1 }
  | none =>
    if w.Starting ∧ w.node.world.source.isBroken = false then
      { w with work := some (w.loop.scheduler.cycle w.loop.loaded w.node.world.source.current w.node.world.now) }
    else { w with node := w.node.move f (.loop (w.node.stage = .finish && w.signal.visible)) }

/-- The node after something happened. A wait ends with the shutdown only if that is visible. -/
def happen (w : Watched ι) : Happening ι → Watched ι
  | .call i => { w with node := w.node.move f (.call i) }
  | .step => w.step f
  | .event .signal => if w.signal.visible then { w with node := w.node.move f (.event .signal) } else w
  | .event e => { w with node := w.node.move f (.event e) }
  | .touch d => { w with node := w.node.move f (.touch d) }
  | .send => { w with signal := { w.signal with sent := true } }
  | .drop => { w with signal := { w.signal with dropped := true } }

/-- The node after all that happened, the last first. -/
def after (w : Watched ι) : List (Happening ι) → Watched ι
  | [] => w
  | h :: past => (after w past).happen f h

variable {f}

/-! ## Single steps -/

section

variable {w : Watched ι}

theorem step_of_done {scheduler : Scheduler} {written : Except StorageError Path} {notices : List Notice}
    (ended : w.work = some (.done (scheduler, written, notices))) :
    w.step f =
      { w with
        node := { w.node with world := { w.node.world with loop := { w.loop with scheduler } }, stage := .finish },
        work := none } := by
  rw [step, ended]

theorem step_of_work {rest : Cycle} (under : w.work = some rest) (unfinished : ∀ ended, rest ≠ .done ended) :
    w.step f =
      { w with
        node := { w.node with world := { w.node.world with disk := (rest.next w.node.world.disk).2 } },
        work := some (rest.next w.node.world.disk).1 } := by
  rw [step, under]
  cases rest with
  | done ended => exact absurd rfl (unfinished ended)
  | _ => rfl

theorem step_of_starting (starting : w.Starting) (whole : w.node.world.source.isBroken = false) :
    w.step f =
      { w with work := some (w.loop.scheduler.cycle w.loop.loaded w.node.world.source.current w.node.world.now) } := by
  rw [step, starting.1]
  simp [starting, whole]

theorem step_of_idle (idle : w.work = none) (other : ¬ (w.Starting ∧ w.node.world.source.isBroken = false)) :
    w.step f = { w with node := w.node.move f (.loop (w.node.stage = .finish && w.signal.visible)) } := by
  rw [step, idle]
  simp [other]

end

/-- What a step of the loop can be. -/
inductive Stepped (f : ι → Control → Control) (w : Watched ι) : Watched ι → Prop where
  | ended {scheduler : Scheduler} {written : Except StorageError Path} {notices : List Notice}
    (under : w.work = some (.done (scheduler, written, notices))) :
    Stepped f w
      { w with
        node := { w.node with world := { w.node.world with loop := { w.loop with scheduler } }, stage := .finish },
        work := none }
  | went {rest : Cycle} (under : w.work = some rest) :
    Stepped f w
      { w with
        node := { w.node with world := { w.node.world with disk := (rest.next w.node.world.disk).2 } },
        work := some (rest.next w.node.world.disk).1 }
  | begun (starting : w.Starting) :
    Stepped f w
      { w with work := some (w.loop.scheduler.cycle w.loop.loaded w.node.world.source.current w.node.world.now) }
  | moved (idle : w.work = none) (running : w.loop.phase = .running) :
    Stepped f w { w with node := w.node.move f (.loop (w.node.stage = .finish && w.signal.visible)) }
  | rested (idle : w.work = none) (asleep : w.loop.phase ≠ .running) : Stepped f w w

theorem stepped_step (w : Watched ι) : Stepped f w (w.step f) := by
  cases under : w.work with
  | some rest =>
    by_cases last : ∃ ended, rest = .done ended
    · obtain ⟨ended, rfl⟩ := last
      rw [step_of_done under]
      exact .ended under
    · rw [step_of_work under (not_exists.mp last)]
      exact .went under
  | none =>
    by_cases starting : w.Starting ∧ w.node.world.source.isBroken = false
    · rw [step_of_starting starting.1 starting.2]
      exact .begun starting.1
    · rw [step_of_idle under starting]
      by_cases running : w.loop.phase = .running
      · exact .moved under running
      · rw [Node.move_loop_of_not_running f running]
        exact .rested under running

/-- All but the steps of the loop leave its cycle and its turn where they are, and the loop itself unless it waits. -/
theorem work_happen (w : Watched ι) {h : Happening ι} (other : h ≠ .step) :
    (w.happen f h).work = w.work ∧ (w.happen f h).node.stage = w.node.stage := by
  cases h with
  | step => exact absurd rfl other
  | event e =>
    cases e with
    | signal =>
      simp only [happen]
      split <;> exact ⟨rfl, rfl⟩
    | _ => exact ⟨rfl, rfl⟩
  | _ => exact ⟨rfl, rfl⟩

theorem loop_happen {w : Watched ι} (awake : w.loop.isWaiting = false) {h : Happening ι} (other : h ≠ .step) :
    (w.happen f h).loop = w.loop := by
  cases h with
  | step => exact absurd rfl other
  | event e =>
    have same := World.loop_after (w := w.node.world) awake e
    cases e with
    | signal =>
      simp only [happen]
      split
      · exact same
      · rfl
    | _ => exact same
  | _ => rfl

/-- What holds at every moment: a cycle is under way only within a turn, and turns begin where they should. -/
structure Sound (w : Watched ι) : Prop where
  busy : w.work ≠ none → w.loop.phase = .running ∧ w.node.stage = .cycle
  resting : w.loop.phase ≠ .running → w.node.stage = .load

theorem isWaiting_of_running {l : Loop} (running : l.phase = .running) : l.isWaiting = false := by
  simp [Loop.isWaiting, running]

theorem Sound.step {w : Watched ι} (sound : w.Sound) : (w.step f).Sound := by
  have stepped := w.stepped_step (f := f)
  generalize w.step f = next at stepped ⊢
  cases stepped with
  | ended under =>
    have running := (sound.busy (by simp [under])).1
    exact ⟨by simp, fun rests => absurd running rests⟩
  | went under => exact ⟨fun _ => sound.busy (by simp [under]), sound.resting⟩
  | begun starting => exact ⟨fun _ => starting.2, sound.resting⟩
  | moved idle running => exact ⟨fun busy => absurd idle busy, (Loop.advanced_advance running ..).rests⟩
  | rested => exact sound

theorem Sound.happen {w : Watched ι} (sound : w.Sound) (h : Happening ι) : (w.happen f h).Sound := by
  by_cases step : h = .step
  · rw [step]
    exact sound.step
  · obtain ⟨work, stage⟩ := work_happen (f := f) w step
    by_cases waits : w.loop.isWaiting = true
    · -- a loop that waits is between two turns, and so it stays when it is woken
      have asleep : w.loop.phase ≠ .running := fun running => by simp [isWaiting_of_running running] at waits
      refine ⟨fun busy => ?_, fun _ => stage.trans (sound.resting asleep)⟩
      rw [work] at busy
      exact absurd (sound.busy busy).1 asleep
    · have loop := loop_happen (f := f) (by simpa using waits) step
      refine ⟨?_, ?_⟩
      · rw [work, loop, stage]
        exact sound.busy
      · rw [loop, stage]
        exact sound.resting

theorem Sound.after {w : Watched ι} (sound : w.Sound) (hs : List (Happening ι)) : (w.after f hs).Sound := by
  induction hs with
  | nil => exact sound
  | cons h past ih => exact ih.happen h

/-! ## Cycles are carried out -/

/-- A cycle is under way in a loop: what is left of it ends only as the cycle can. -/
def UnderWay (cycle : Cycle) (l : Loop) (w : Watched ι) : Prop :=
  ∃ rest, w.work = some rest ∧ w.loop = l ∧ ∀ ended, rest.Ends ended → cycle.Ends ended

/-- A loop has come behind a cycle, with what that has left. -/
def Behind (cycle : Cycle) (l : Loop) (w : Watched ι) : Prop :=
  ∃ ended, cycle.Ends ended ∧ w.work = none ∧ w.node.stage = .finish ∧ w.loop = { l with scheduler := ended.1 }

/-- A cycle that is under way stays so, or it has ended in one of the ways in which it can end. -/
theorem carried_out {w : Watched ι} (sound : w.Sound) {cycle : Cycle} (under : w.work = some cycle)
    (hs : List (Happening ι)) :
    (w.after f hs).UnderWay cycle w.loop ∨
    ∃ later earlier, hs = later ++ earlier ∧ (w.after f earlier).Behind cycle w.loop := by
  induction hs with
  | nil => exact .inl ⟨cycle, under, rfl, fun _ ends => ends⟩
  | cons h past ih =>
    rcases ih with ⟨rest, under', loop, ways⟩ | ⟨later, earlier, rfl, behind⟩
    · by_cases step : h = .step
      · subst step
        by_cases last : ∃ result, rest = .done result
        · obtain ⟨result, rfl⟩ := last
          refine .inr ⟨[], .step :: past, rfl, result, ways _ (.done result), ?_⟩
          simp only [after, happen, step_of_done under', loop, and_self]
        · refine .inl ⟨(rest.next (w.after f past).node.world.disk).1, ?_⟩
          simp only [after, happen, step_of_work under' (not_exists.mp last), true_and]
          exact ⟨loop, fun ended ends => ways ended (Procedure.ends_next ends)⟩
      · have running := ((sound.after (f := f) past).busy (by simp [under'])).1
        have same := loop_happen (f := f) (isWaiting_of_running running) step
        refine .inl ⟨rest, ?_, same.trans loop, ways⟩
        rw [after, (work_happen _ step).1, under']
    · exact .inr ⟨h :: later, earlier, rfl, behind⟩

/-- What has happened by a moment of an endless course. -/
def past (course : Nat → Happening ι) : Nat → List (Happening ι)
  | 0 => []
  | n + 1 => course n :: past course n

/-- A course in which the loop makes steps again and again. -/
def Driven (course : Nat → Happening ι) : Prop := ∀ n, ∃ k, n ≤ k ∧ course k = .step

omit [DecidableEq ι] in
theorem Driven.later {course : Nat → Happening ι} (driven : Driven course) (k : Nat) :
    Driven fun i => course (k + i) := by
  intro n
  obtain ⟨i, late, step⟩ := driven (k + n)
  refine ⟨i - k, by omega, ?_⟩
  show course (k + (i - k)) = .step
  rw [Nat.add_sub_cancel' (by omega), step]

omit [DecidableEq ι] in
theorem length_past (course : Nat → Happening ι) (n : Nat) : (past course n).length = n := by
  induction n with
  | zero => rfl
  | succ n ih => rw [past, List.length_cons, ih]

omit [DecidableEq ι] in
theorem eq_past_of_append {course : Nat → Happening ι} {n : Nat} {later earlier : List (Happening ι)}
    (split : past course n = later ++ earlier) : earlier = past course earlier.length := by
  induction n generalizing later with
  | zero =>
    cases (List.append_eq_nil_iff.mp split.symm).2
    rfl
  | succ n ih =>
    cases later with
    | nil =>
      have whole : earlier.length = n + 1 := by
        rw [← List.nil_append earlier, ← split]
        exact length_past course (n + 1)
      rw [whole, split, List.nil_append]
    | cons h later => exact ih (List.cons.inj split).2

theorem after_append (w : Watched ι) (later earlier : List (Happening ι)) :
    w.after f (later ++ earlier) = (w.after f earlier).after f later := by
  induction later with
  | nil => rfl
  | cons h later ih => rw [List.cons_append, after, after, ih]

theorem after_past_add (w : Watched ι) (course : Nat → Happening ι) (k n : Nat) :
    w.after f (past course (k + n)) = (w.after f (past course k)).after f (past (fun i => course (k + i)) n) := by
  induction n with
  | zero => rfl
  | succ n ih => rw [← Nat.add_assoc, past, past, after, after, ih]

/-- Nothing but steps of the loop changes a cycle and the stage of a turn, nor the loop if it is awake. -/
theorem after_past_of_others {w : Watched ι} {course : Nat → Happening ι} {k : Nat}
    (others : ∀ j < k, course j ≠ .step) :
    (w.after f (past course k)).work = w.work ∧ (w.after f (past course k)).node.stage = w.node.stage ∧
      (w.loop.isWaiting = false → (w.after f (past course k)).loop = w.loop) := by
  induction k with
  | zero => exact ⟨rfl, rfl, fun _ => rfl⟩
  | succ k ih =>
    obtain ⟨work, stage, loop⟩ := ih fun j before => others j (Nat.lt_succ_of_lt before)
    have other := others k (Nat.lt_succ_self k)
    obtain ⟨work', stage'⟩ := work_happen (f := f) (w.after f (past course k)) other
    refine ⟨work'.trans work, stage'.trans stage, fun awake => ?_⟩
    rw [past, after, loop_happen (by rw [loop awake, awake]) other, loop awake]

theorem Driven.exists_step {course : Nat → Happening ι} (driven : Driven course) (w : Watched ι) :
    ∃ k, (∀ j < k, course j ≠ .step) ∧ w.after f (past course (k + 1)) = (w.after f (past course k)).step f := by
  classical
  have some : ∃ k, course k = .step := (driven 0).imp fun _ later => later.2
  refine ⟨Nat.find some, fun j before => Nat.find_min some before, ?_⟩
  rw [past, after, Nat.find_spec some, happen]

theorem Driven.exists_next {course : Nat → Happening ι} (driven : Driven course) {w : Watched ι} {rest : Cycle}
    (under : w.work = some rest) (unfinished : ∀ ended, rest ≠ .done ended) : ∃ k d, (w.after f (past course k)).work = some (rest.next d).1 := by
  obtain ⟨k, others, step⟩ := driven.exists_step w (f := f)
  refine ⟨k + 1, (w.after f (past course k)).node.world.disk, ?_⟩
  rw [step, step_of_work ((after_past_of_others others).1.trans under) unfinished]

/-- A cycle that is under way comes to its end. -/
theorem Driven.exists_idle {w : Watched ι} {cycle : Cycle} (under : w.work = some cycle) {course : Nat → Happening ι} (driven : Driven course) :
    ∃ n, (w.after f (past course n)).work = none := by
  induction cycle generalizing w course with
  | done ended =>
    obtain ⟨k, others, step⟩ := driven.exists_step w (f := f)
    exact ⟨k + 1, by rw [step, step_of_done ((after_past_of_others others).1.trans under)]⟩
  | look rest ih =>
    obtain ⟨k, d, left⟩ := driven.exists_next under (by simp) (f := f)
    obtain ⟨n, ended⟩ := ih _ left (driven.later k)
    exact ⟨k + n, by rw [after_past_add, ended]⟩
  | act x rest ih =>
    obtain ⟨k, d, left⟩ := driven.exists_next under (by simp) (f := f)
    obtain ⟨went, same⟩ : ∃ went, ((Procedure.act x rest).next d).1 = rest went := by
      rw [Procedure.next]
      split
      · exact ⟨_, rfl⟩
      · exact ⟨_, rfl⟩
    obtain ⟨n, ended⟩ := ih went (left.trans (congrArg some same)) (driven.later k)
    exact ⟨k + n, by rw [after_past_add, ended]⟩

theorem Driven.exists_behind {w : Watched ι} (sound : w.Sound) {cycle : Cycle} (under : w.work = some cycle)
    {course : Nat → Happening ι} (driven : Driven course) : ∃ n, (w.after f (past course n)).Behind cycle w.loop := by
  obtain ⟨n, idle⟩ := driven.exists_idle under (f := f)
  rcases carried_out sound under (f := f) (past course n) with ⟨rest, still, _⟩ | ⟨later, earlier, split, behind⟩
  · cases idle.symm.trans still
  · refine ⟨earlier.length, ?_⟩
    rw [← eq_past_of_append split]
    exact behind

/-! ## Undisturbed steps -/

theorem exists_steps_succ {w last : Watched ι} (rest : ∃ n, (w.step f).after f (List.replicate n .step) = last) :
    ∃ n, w.after f (List.replicate n .step) = last := by
  obtain ⟨n, rest⟩ := rest
  refine ⟨n + 1, ?_⟩
  rw [List.replicate_succ', after_append, ← rest]
  rfl

/-- Steps that nobody disturbs carry out what is left of a cycle as a whole. -/
theorem exists_steps {w : Watched ι} {rest : Cycle} (under : w.work = some rest) :
    ∃ n, w.after f (List.replicate n .step) =
      { w with
        node := { w.node with
          world := { w.node.world with
            loop := { w.loop with scheduler := (rest.run w.node.world.disk).1.1 },
            disk := (rest.run w.node.world.disk).2 },
          stage := .finish },
        work := none } := by
  induction rest generalizing w with
  | done ended => exact exists_steps_succ ⟨0, step_of_done under⟩
  | look rest ih =>
    refine exists_steps_succ ?_
    rw [step_of_work under (by simp)]
    exact ih _ rfl
  | act x rest ih =>
    refine exists_steps_succ ?_
    rw [step_of_work under (by simp), ← Procedure.run_next, Procedure.next]
    split
    · exact ih _ rfl
    · exact ih _ rfl

/-- A cycle that nobody disturbs is the cycle of the loop. -/
theorem exists_cycle {w : Watched ι} (starting : w.Starting) (whole : w.node.world.source.isBroken = false) :
    ∃ n, w.after f (List.replicate n .step) = { w with node := w.node.move f (.loop false) } := by
  refine exists_steps_succ ?_
  rw [step_of_starting starting whole]
  obtain ⟨n, carried⟩ := exists_steps (f := f) (w := { w with work := some (w.loop.scheduler.cycle w.loop.loaded
    w.node.world.source.current w.node.world.now) }) rfl
  refine ⟨n, carried.trans ?_⟩
  obtain ⟨idle, running, stage⟩ := starting
  obtain ⟨⟨⟨⟨scheduler, loaded, phase⟩, surface, source, now, disk⟩, stage', calls⟩, signal, work⟩ := w
  cases idle
  cases running
  cases stage
  simp only [Node.move, Loop.advance, whole, Bool.false_eq_true, if_false, Procedure.run_bind, Procedure.run_pure]

end Watched

end NodeTelemetry
