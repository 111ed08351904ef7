import NodeTelemetry.Control.Basic

/-!
# The control surface

The parameters in force, behind a cell that many callers update at once. A call
loads the current parameters, works out the next ones, and publishes them only
if the cell still holds what it loaded; otherwise it starts again from what the
cell holds by then. `Call.step` is one such step of one call, so every
interleaving of calls is a sequence of steps; `Surface.update` is one call that
nobody disturbs.
-/

namespace NodeTelemetry

/-- What the cell holds. Each publication has a stamp of its own, by which a later comparison
    tells whether anything was published in between. `notified` is the wake-up that is stored
    for the scheduler. -/
structure Surface where
  current : Control
  stamp : Nat
  notified : Bool
  deriving DecidableEq, Repr

inductive UpdateResult where
  | published (next : Control)
  /-- The request changed nothing, so nothing was published. -/
  | unchanged (current : Control)
  | refused (fault : ControlFault)
  deriving DecidableEq, Repr

/-- The parameters in force after an update, or why it was refused. -/
def UpdateResult.control : UpdateResult → Except ControlFault Control
  | .published next => .ok next
  | .unchanged current => .ok current
  | .refused fault => .error fault

/-- How far one call of an update has come. -/
inductive Call where
  /-- It has loaded nothing yet. -/
  | start
  /-- It holds the parameters that it loaded, with their stamp. -/
  | loaded (base : Control) (stamp : Nat)
  /-- It has worked out the next parameters and is about to publish them. -/
  | ready (stamp : Nat) (next : Control)
  /-- It has published and has still to wake the scheduler. -/
  | waking (next : Control)
  | done (result : UpdateResult)
  deriving DecidableEq, Repr

/-- One step of a call that asks for `f`. -/
def Call.step (f : Control → Control) (s : Surface) : Call → Surface × Call
  | .start => (s, .loaded s.current s.stamp)
  | .loaded base stamp =>
    let next := f base
    match next.validate with
    | .error fault => (s, .done (.refused fault))
    | .ok () => if next = base then (s, .done (.unchanged base)) else (s, .ready stamp next)
  | .ready stamp next =>
    if s.stamp = stamp then ({ s with current := next, stamp := s.stamp + 1 }, .waking next)
    else (s, .loaded s.current s.stamp)
  | .waking next => ({ s with notified := true }, .done (.published next))
  | .done result => (s, .done result)

namespace Surface

/-- A surface over parameters that pass validation. -/
def new (initial : Control) : Except ControlFault Surface := do
  initial.validate
  pure ⟨initial, 0, false⟩

/-- An update that runs alone. -/
def update (s : Surface) (f : Control → Control) : Surface × UpdateResult :=
  let next := f s.current
  match next.validate with
  | .error fault => (s, .refused fault)
  | .ok () =>
    if next = s.current then (s, .unchanged s.current)
    else (⟨next, s.stamp + 1, true⟩, .published next)

/-- Several steps of one call. -/
def runCall (f : Control → Control) : Nat → Surface × Call → Surface × Call
  | 0, state => state
  | n + 1, (s, call) => runCall f n (Call.step f s call)

/-- An update that runs alone is four undisturbed steps of a call. -/
theorem runCall_start (s : Surface) (f : Control → Control) :
    runCall f 4 (s, .start) = ((s.update f).1, .done (s.update f).2) := by
  cases h : (f s.current).validate with
  | error fault => simp [runCall, Call.step, update, h]
  | ok u =>
    by_cases same : f s.current = s.current
    · rw [same] at h
      simp [runCall, Call.step, update, h, same]
    · simp [runCall, Call.step, update, h, same]

end Surface

end NodeTelemetry
