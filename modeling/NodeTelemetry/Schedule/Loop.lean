import NodeTelemetry.Schedule.Scheduler

/-!
# The loop of a scheduler

The loop makes passes and waits in between: until the next deadline, until the
parameters change, or until the shutdown is signalled. After a cycle it looks
for the signal and otherwise goes on with the next pass at once.
-/

namespace NodeTelemetry

inductive Phase where
  /-- About to make a pass. -/
  | running
  /-- Asleep until a deadline, if there is one, or until something happens. -/
  | waiting (deadline : Option Instant)
  | stopped
  | failed
  deriving DecidableEq, Repr

/-- A scheduler together with its loop. -/
structure Loop where
  scheduler : Scheduler
  /-- The parameters that the last pass loaded. -/
  loaded : Control
  phase : Phase := .running
  deriving DecidableEq, Repr

namespace Loop

/-- The loop of a scheduler at its start. -/
def new (s : Scheduler) (c : Control) : Loop := ⟨s, c, .running⟩

def phaseAfter (s : Scheduler) (c : Control) (signalled : Bool) : Scheduler.PassEnd → Phase
  | .failed => .failed
  | .sampled _ => if signalled then .stopped else .running
  | .idle => if signalled then .stopped else .waiting (s.state.deadline c)

/-- One turn: a pass with the parameters in force, and the look at the signal after it. A loop that
    waits or has ended stays as it is. -/
def turn (l : Loop) (published : Control) (source : RoleSource) (signalled : Bool) (now : Instant) :
    Procedure (Loop × List Notice) :=
  match l.phase with
  | .running => do
    let (s, ending, notices) ← l.scheduler.pass published source now
    return (⟨s, published, phaseAfter s published signalled ending⟩, notices)
  | _ => return (l, [])

/-- Turns while the loop runs, at most `turns` of them. -/
def turns (published : Control) (source : RoleSource) (signalled : Bool) (now : Instant) :
    Nat → Loop → Procedure (Loop × List Notice)
  | 0, l => return (l, [])
  | n + 1, l => do
    let (l, first) ← l.turn published source signalled now
    let (l, rest) ← turns published source signalled now n l
    return (l, first ++ rest)

/-- Turns until the loop waits or ends. Two are enough: right after a cycle the same instant is not
    due again, since a scrape interval is never empty. -/
def settle (l : Loop) (published : Control) (source : RoleSource) (signalled : Bool) (now : Instant) :
    Procedure (Loop × List Notice) :=
  turns published source signalled now 2 l

/-- The loop after something that ends a wait. -/
def wake (l : Loop) : Loop :=
  match l.phase with
  | .waiting _ => { l with phase := .running }
  | _ => l

/-- The loop after the shutdown was signalled during a wait. -/
def signal (l : Loop) : Loop :=
  match l.phase with
  | .waiting _ => { l with phase := .stopped }
  | _ => l

/-- When the loop wakes by itself, if it does. -/
def deadline? (l : Loop) : Option Instant :=
  match l.phase with
  | .waiting d => d
  | _ => none

end Loop

end NodeTelemetry
