import NodeTelemetry.Control.Basic

/-!
# When the next sample is due

The state says since when sampling waits for its first sample, or when the last
one ran. Deadlines are worked out from the state and the parameters in force,
so a changed interval counts for the pending wait.
-/

namespace NodeTelemetry

inductive SchedulerState where
  | disabled
  /-- Activated at an instant and without a sample since. -/
  | awaitingGrace (since : Instant)
  /-- The last sample of this activation ran at an instant. -/
  | sampling (last : Instant)
  deriving DecidableEq, Repr

/-- What a look at the enabled flag changed. -/
inductive Transition where
  | unchanged
  | activated
  | deactivated
  deriving DecidableEq, Repr

namespace SchedulerState

/-- The state at a start: an enabled collector is activated at once. -/
def initial (c : Control) (now : Instant) : SchedulerState :=
  if c.enabled then awaitingGrace now else disabled

def isActive : SchedulerState → Bool
  | disabled => false
  | _ => true

/-- When the next sample is due, if ever. -/
def deadline (s : SchedulerState) (c : Control) : Option Instant :=
  match s with
  | disabled => none
  | awaitingGrace since => since.add? c.grace
  | sampling last => last.add? c.scrape

/-- Whether a sample is due at an instant. -/
def isDue (s : SchedulerState) (c : Control) (now : Instant) : Bool :=
  match s.deadline c with
  | none => false
  | some d => d.nanos ≤ now.nanos

/-- The state after a look at the enabled flag, and what changed. Enabling starts a new grace
    period. -/
def onControl (s : SchedulerState) (c : Control) (now : Instant) : SchedulerState × Transition :=
  match s, c.enabled with
  | disabled, true => (awaitingGrace now, .activated)
  | disabled, false => (disabled, .unchanged)
  | s, true => (s, .unchanged)
  | _, false => (disabled, .deactivated)

/-- The state after a sample, whether it was written or not. -/
def afterSample (s : SchedulerState) (sampledAt : Instant) : SchedulerState :=
  match s with
  | disabled => disabled
  | _ => sampling sampledAt

end SchedulerState

end NodeTelemetry
