import NodeTelemetry.Proofs.Control.Linearization
import NodeTelemetry.Proofs.Schedule.Run

/-!
# A turn in steps

A turn of a loop is made of steps, and others can act between any two of them.
Only the first one looks at the parameters in force; all later ones use what it
loaded. A turn in which nobody acts in between is the turn of the loop
(`Loop.run_advances`). A node is a loop whose steps interleave with those of the
callers that update its parameters.
-/

namespace NodeTelemetry

/-- How far a running loop has come in its turn. -/
inductive Stage where
  /-- About to load the parameters in force. -/
  | load
  /-- About to look at the flag of what it has loaded. -/
  | look
  /-- About to see whether a sample is due. -/
  | decide
  /-- About to run a cycle. -/
  | cycle
  /-- Behind a cycle, about to look for the signal. -/
  | finish
  /-- About to work out until when to wait. -/
  | reckon
  /-- About to wait. -/
  | rest (deadline : Option Instant)
  deriving DecidableEq, Repr

namespace Loop

/-- The next step of a turn. A loop that waits or has ended makes none. -/
def advance (l : Loop) (stage : Stage) (published : Control) (source : RoleSource) (signalled : Bool) (now : Instant) :
    Procedure (Loop × Stage × List Notice) :=
  match l.phase with
  | .running =>
    match stage with
    | .load => return ({ l with loaded := published }, .look, [])
    | .look => do
      let (scheduler, notices) ← l.scheduler.reconcile l.loaded now
      return ({ l with scheduler }, .decide, notices)
    | .decide => return (l, if l.scheduler.state.isDue l.loaded now then .cycle else .reckon, [])
    | .cycle =>
      if source.isBroken then return ({ l with phase := .failed }, .load, [])
      else do
        let (scheduler, _, notices) ← l.scheduler.cycle l.loaded source.current now
        return ({ l with scheduler }, .finish, notices)
    | .finish => return ({ l with phase := if signalled then .stopped else .running }, .load, [])
    | .reckon => return (l, .rest (l.scheduler.state.deadline l.loaded), [])
    | .rest deadline => return ({ l with phase := if signalled then .stopped else .waiting deadline }, .load, [])
  | _ => return (l, stage, [])

/-- Several steps while nobody else acts. -/
def advances (published : Control) (source : RoleSource) (signalled : Bool) (now : Instant) :
    Nat → Loop → Stage → Procedure (Loop × Stage × List Notice)
  | 0, l, stage => return (l, stage, [])
  | n + 1, l, stage => do
    let (l, stage, first) ← l.advance stage published source signalled now
    let (l, stage, rest) ← advances published source signalled now n l stage
    return (l, stage, first ++ rest)

section

variable {published : Control} {source : RoleSource} {signalled : Bool} {now : Instant}

theorem run_advances_succ {l l' : Loop} {stage stage' : Stage} {first : List Notice} {d between : Disk}
    (advanced : (l.advance stage published source signalled now).run d = ((l', stage', first), between)) (n : Nat) :
    (advances published source signalled now (n + 1) l stage).run d =
      ((((advances published source signalled now n l' stage').run between).1.1,
        ((advances published source signalled now n l' stage').run between).1.2.1,
        first ++ ((advances published source signalled now n l' stage').run between).1.2.2),
        ((advances published source signalled now n l' stage').run between).2) := by
  simp only [advances, Procedure.run_bind, advanced]
  rfl

theorem run_advance_look {s s' : Scheduler} {c : Control} {notices : List Notice} {d between : Disk}
    (reconciled : (s.reconcile c now).run d = ((s', notices), between)) :
    (advance ⟨s, c, .running⟩ .look published source signalled now).run d =
      ((⟨s', c, .running⟩, .decide, notices), between) := by
  simp only [advance, Procedure.run_bind, reconciled, Procedure.run_pure]

theorem run_advance_decide (s : Scheduler) (c : Control) (d : Disk) :
    (advance ⟨s, c, .running⟩ .decide published source signalled now).run d =
      ((⟨s, c, .running⟩, if s.state.isDue c now then .cycle else .reckon, []), d) := rfl

/-- Five steps that nobody disturbs are a turn. -/
theorem run_advances {l : Loop} (running : l.phase = .running) (d : Disk) :
    (advances published source signalled now 5 l .load).run d =
      ((((l.turn published source signalled now).run d).1.1, .load, ((l.turn published source signalled now).run d).1.2),
        ((l.turn published source signalled now).run d).2) := by
  obtain ⟨scheduler, loaded, phase⟩ := l
  cases running
  rcases reconciled : (scheduler.reconcile published now).run d with ⟨⟨s, looked⟩, between⟩
  have loads : (advance ⟨scheduler, loaded, .running⟩ .load published source signalled now).run d =
      ((⟨scheduler, published, .running⟩, .look, []), d) := rfl
  simp only [turn, Scheduler.pass, Procedure.run_bind, reconciled]
  rw [run_advances_succ loads, run_advances_succ (run_advance_look reconciled),
    run_advances_succ (run_advance_decide s published between)]
  cases due : s.state.isDue published now with
  | false => simp [advances, advance, phaseAfter]
  | true =>
    cases broken : source.isBroken with
    | true => simp [advances, advance, phaseAfter, broken]
    | false => simp [advances, advance, phaseAfter, broken]

end

end Loop

namespace Loop

/-- What a step of a running loop does to the loop and its stage, whatever stands on the disk. -/
inductive Advanced (published : Control) (now : Instant) : Loop → Stage → Loop → Stage → Prop where
  | load (s : Scheduler) (c : Control) :
    Advanced published now ⟨s, c, .running⟩ .load ⟨s, published, .running⟩ .look
  | look {s s' : Scheduler} (c : Control) (looked : s'.state = (s.state.onControl c now).1) :
    Advanced published now ⟨s, c, .running⟩ .look ⟨s', c, .running⟩ .decide
  | due (s : Scheduler) (c : Control) :
    Advanced published now ⟨s, c, .running⟩ .decide ⟨s, c, .running⟩ .cycle
  | idle (s : Scheduler) (c : Control) :
    Advanced published now ⟨s, c, .running⟩ .decide ⟨s, c, .running⟩ .reckon
  | fail (s : Scheduler) (c : Control) :
    Advanced published now ⟨s, c, .running⟩ .cycle ⟨s, c, .failed⟩ .load
  | cycle {s s' : Scheduler} (c : Control) (sampled : s'.state = s.state.afterSample now) :
    Advanced published now ⟨s, c, .running⟩ .cycle ⟨s', c, .running⟩ .finish
  | again (s : Scheduler) (c : Control) :
    Advanced published now ⟨s, c, .running⟩ .finish ⟨s, c, .running⟩ .load
  | stop (s : Scheduler) (c : Control) {stage : Stage} :
    Advanced published now ⟨s, c, .running⟩ stage ⟨s, c, .stopped⟩ .load
  | reckon (s : Scheduler) (c : Control) :
    Advanced published now ⟨s, c, .running⟩ .reckon ⟨s, c, .running⟩ (.rest (s.state.deadline c))
  | rest (s : Scheduler) (c : Control) (deadline : Option Instant) :
    Advanced published now ⟨s, c, .running⟩ (.rest deadline) ⟨s, c, .waiting deadline⟩ .load

theorem advanced_advance {l : Loop} (running : l.phase = .running) (stage : Stage) (published : Control)
    (source : RoleSource) (signalled : Bool) (now : Instant) (d : Disk) :
    Advanced published now l stage ((l.advance stage published source signalled now).run d).1.1
      ((l.advance stage published source signalled now).run d).1.2.1 := by
  obtain ⟨s, c, phase⟩ := l
  cases running
  cases stage with
  | load => exact .load s c
  | look =>
    simp only [advance, Procedure.run_bind, Procedure.run_pure]
    exact .look c (Scheduler.reconcile_scheduler s c now d).2
  | decide =>
    simp only [advance, Procedure.run_pure]
    split
    · exact .due s c
    · exact .idle s c
  | cycle =>
    simp only [advance]
    split
    · exact .fail s c
    · simp only [Procedure.run_bind, Procedure.run_pure]
      exact .cycle c (Scheduler.cycle_scheduler s c source.current now d).2
  | finish =>
    cases signalled with
    | true => exact .stop s c
    | false => exact .again s c
  | reckon => exact .reckon s c
  | rest deadline =>
    cases signalled with
    | true => exact .stop s c
    | false => exact .rest s c deadline

/-- A loop leaves its turn only at its end. -/
theorem Advanced.rests {published : Control} {now : Instant} {l l' : Loop} {stage stage' : Stage}
    (advanced : Advanced published now l stage l' stage') (rests : l'.phase ≠ .running) : stage' = .load := by
  cases advanced <;> simp_all

/-- A loop stops only when it sees the shutdown, and keeps its scheduler. -/
theorem stopped_of_advance {l : Loop} (running : l.phase = .running) {stage : Stage} {published : Control}
    {source : RoleSource} {signalled : Bool} {now : Instant} {d : Disk}
    (stopped : ((l.advance stage published source signalled now).run d).1.1.phase = .stopped) :
    signalled = true ∧ ((l.advance stage published source signalled now).run d).1.1.scheduler = l.scheduler := by
  unfold advance at stopped ⊢
  rw [running] at stopped ⊢
  cases stage with
  | cycle => cases broken : source.isBroken <;> simp_all
  | _ => simp_all

/-- A loop that waits or has ended makes no step. -/
theorem run_advance_of_not_running {l : Loop} (ended : l.phase ≠ .running) (stage : Stage) (published : Control)
    (source : RoleSource) (signalled : Bool) (now : Instant) (d : Disk) :
    (l.advance stage published source signalled now).run d = ((l, stage, []), d) := by
  unfold advance
  split
  · next running => exact absurd running ended
  · rfl

end Loop

/-- A loop in its surroundings, how far it has come in its turn, and the calls that update its parameters. -/
structure Node (ι : Type) where
  world : World
  stage : Stage
  calls : ι → Call

/-- What can happen next in a node. -/
inductive Move (ι : Type) where
  /-- A call makes a step. -/
  | call (i : ι)
  /-- The loop makes a step; it may see the shutdown. -/
  | loop (signalled : Bool)
  | event (e : Event)
  /-- Others change the disk. -/
  | touch (d : Disk)

namespace Node

variable {ι : Type} [DecidableEq ι] (f : ι → Control → Control)

/-- The callers of a node. -/
def callers (n : Node ι) : Callers ι := ⟨n.world.surface, n.calls⟩

/-- The node after a move. -/
def move (n : Node ι) : Move ι → Node ι
  | .call i =>
    let stepped := n.callers.step f i
    { n with world := { n.world with surface := stepped.surface }, calls := stepped.calls }
  | .loop signalled =>
    let w := n.world
    let advanced := (w.loop.advance n.stage w.surface.current w.source signalled w.now).run w.disk
    { n with world := { w with loop := advanced.1.1, disk := advanced.2 }, stage := advanced.1.2.1 }
  | .event e => { n with world := n.world.after e }
  | .touch d => { n with world := { n.world with disk := d } }

theorem move_loop_of_not_running {n : Node ι} (ended : n.world.loop.phase ≠ .running) (signalled : Bool) :
    n.move f (.loop signalled) = n := by
  simp only [move]
  rw [Loop.run_advance_of_not_running ended]

/-- The node after moves in a certain order, the last one first. -/
def after (n : Node ι) : List (Move ι) → Node ι
  | [] => n
  | m :: past => (after n past).move f m

end Node

end NodeTelemetry
