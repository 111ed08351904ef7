import NodeTelemetry.Word

/-!
# Spans of time and instants

Both are counted in nanoseconds. An instant is a point of a monotonic clock
which counts its seconds in 63 bits; a sum that the clock cannot hold is no
instant.
-/

namespace NodeTelemetry

structure Span where
  nanos : Nat
  deriving DecidableEq, Repr, Inhabited

namespace Span

/-- Whole seconds and a rest in nanoseconds. -/
def ofParts (secs nanos : Nat) : Span := ⟨secs * 1000000000 + nanos⟩

def ofSecs (secs : UInt64) : Span := ⟨secs.toNat * 1000000000⟩

def secs (s : Span) : Nat := s.nanos / 1000000000

/-- What is left of a span after its whole seconds, in nanoseconds. -/
def subsec (s : Span) : Nat := s.nanos % 1000000000

def millis (s : Span) : Nat := s.nanos / 1000000

/-- The decimal digits of a fraction, `width` of them before trailing zeros are dropped. -/
def fraction (width n : Nat) : List Char :=
  let digits := Nat.toDigits 10 n
  let padded := List.replicate (width - digits.length) '0' ++ digits
  (padded.reverse.dropWhile (· = '0')).reverse

/-- A number with a decimal fraction of `width` places, without trailing zeros. -/
def decimal (whole rest width : Nat) : String :=
  match fraction width rest with
  | [] => whole.repr
  | digits => whole.repr ++ "." ++ String.ofList digits

/-- A span in the largest unit of which it has a whole one: `1.5s`, `999.999999ms`, `2µs`, `0ns`. -/
def text (s : Span) : String :=
  if 0 < s.secs then decimal s.secs s.subsec 9 ++ "s"
  else if 1000000 ≤ s.nanos then decimal (s.nanos / 1000000) (s.nanos % 1000000) 6 ++ "ms"
  else if 1000 ≤ s.nanos then decimal (s.nanos / 1000) (s.nanos % 1000) 3 ++ "µs"
  else s.nanos.repr ++ "ns"

end Span

/-- A point of the monotonic clock, in nanoseconds after its origin. -/
structure Instant where
  nanos : Nat
  deriving DecidableEq, Repr, Inhabited

namespace Instant

/-- The first number of nanoseconds that the clock cannot hold. -/
def limit : Nat := 9223372036854775808 * 1000000000

/-- The instant a span later, if the clock can hold it. -/
def add? (i : Instant) (s : Span) : Option Instant :=
  if i.nanos + s.nanos < limit then some ⟨i.nanos + s.nanos⟩ else none

/-- The span from an earlier instant to this one, none of it when that one is later. -/
def since (i earlier : Instant) : Span := ⟨i.nanos - earlier.nanos⟩

theorem add?_eq_some_iff {i j : Instant} {s : Span} :
    i.add? s = some j ↔ i.nanos + s.nanos < limit ∧ j.nanos = i.nanos + s.nanos := by
  unfold add?
  split
  · next h => cases j; simp [h, eq_comm]
  · next h => simp [h]

end Instant

end NodeTelemetry
