import NodeTelemetry.Time.Span

/-!
# Capture times

A capture clock reads the wall time once and is then driven by the monotonic
clock, so capture times never step back while a collector runs.
-/

namespace NodeTelemetry

/-- A wall time in milliseconds together with the instant at which it was read. -/
structure CaptureClock where
  anchorMs : UInt64
  anchor : Instant
  deriving DecidableEq, Repr

/-- The capture time at an instant: the anchor's time and the whole milliseconds since. -/
def CaptureClock.nowMs (c : CaptureClock) (now : Instant) : UInt64 :=
  Word.addCapped c.anchorMs (Word.cap (now.since c.anchor).millis).toNat

/-- Capture times keep the order of the instants at which they are taken. -/
theorem CaptureClock.nowMs_mono (c : CaptureClock) {i j : Instant} (h : i.nanos ≤ j.nanos) :
    (c.nowMs i).toNat ≤ (c.nowMs j).toNat := by
  simp only [nowMs, Word.toNat_addCapped, Word.toNat_cap, Instant.since, Span.millis]
  have : (i.nanos - c.anchor.nanos) / 1000000 ≤ (j.nanos - c.anchor.nanos) / 1000000 :=
    Nat.div_le_div_right (by omega)
  omega

end NodeTelemetry
