import NodeTelemetry.Number.Binary64

/-!
# The shortest decimal of a number

The decimal with the fewest digits among those that read back to a binary64
number, and the closest of these, found by trying longer and longer grids.
-/

namespace NodeTelemetry

/-- The value `digits · 10 ^ exp`. -/
structure Decimal where
  digits : Nat
  exp : Int
  deriving DecidableEq, Repr

/-- Where a tie between two equally close decimals goes. -/
inductive Tie where
  | toEven
  | up
  deriving DecidableEq, Repr

namespace Decimal

/-- Whether `a · 10 ^ i` is less than, equal to or greater than `n · 2 ^ j`. -/
def compareScaled (a : Nat) (i : Int) (n : Nat) (j : Int) : Ordering :=
  compare (a * Binary64.tenTo i * Binary64.twoTo (-j)) (n * Binary64.twoTo j * Binary64.tenTo (-i))

/-- Whether a decimal reads back to the positive number `m · 2 ^ q`: it lies between the halfway
    points to the two neighbours, which belong to the number when `m` is even. Below a power of two
    the lower neighbour is half as far away. -/
def readsBack (m : Nat) (q : Int) (d : Decimal) : Bool :=
  let narrow := m = 4503599627370496 ∧ Binary64.minExp < q
  let low := if narrow then 4 * m - 1 else 4 * m - 2
  let lower := compareScaled d.digits d.exp low (q - 2)
  let upper := compareScaled d.digits d.exp (4 * m + 2) (q - 2)
  let closed := m % 2 = 0
  (lower = .gt ∨ (closed ∧ lower = .eq)) ∧ (upper = .lt ∨ (closed ∧ upper = .eq))

/-- The greatest multiple of `10 ^ exp` up to `m · 2 ^ q`, as a multiple. -/
def floorAt (m : Nat) (q : Int) (exp : Int) : Nat :=
  (m * Binary64.twoTo q * Binary64.tenTo (-exp)) / (Binary64.twoTo (-q) * Binary64.tenTo exp)

/-- The neighbour of `m · 2 ^ q` on the grid of `10 ^ exp` that reads back, the closer of two. -/
def candidate? (tie : Tie) (m : Nat) (q : Int) (exp : Int) : Option Decimal :=
  let below := floorAt m q exp
  let lower : Decimal := ⟨below, exp⟩
  let upper : Decimal := ⟨below + 1, exp⟩
  match readsBack m q lower && 0 < below, readsBack m q upper with
  | false, false => none
  | true, false => some lower
  | false, true => some upper
  | true, true =>
    match compareScaled (2 * below + 1) exp (2 * m) q with
    | .gt => some lower
    | .lt => some upper
    | .eq => if tie = .toEven && below % 2 = 0 then some lower else some upper

/-- The decimal without zeros at its end; `fuel` bounds their number. -/
def strip : Nat → Decimal → Decimal
  | 0, d => d
  | fuel + 1, d => if d.digits ≠ 0 ∧ d.digits % 10 = 0 then strip fuel ⟨d.digits / 10, d.exp + 1⟩ else d

/-- The least `k` with `m · 2 ^ q < 10 ^ k`, looked for from a start that is not above it. -/
def scaleFrom (m : Nat) (q : Int) : Nat → Int → Int
  | 0, k => k
  | fuel + 1, k => if compareScaled 1 k m q = .gt then k else scaleFrom m q fuel (k + 1)

/-- The number of digits before the point of the positive number `m · 2 ^ q`; it may be negative. -/
def scale (m : Nat) (q : Int) : Int :=
  scaleFrom m q 8 (((m.log2 : Int) + q) * 30103 / 100000 - 2)

/-- The shortest decimal of the positive number `m · 2 ^ q`. Seventeen digits always suffice; the
    value itself stands behind them. -/
def shortest (tie : Tie) (m : Nat) (q : Int) : Decimal :=
  let k := scale m q
  match (List.range 17).findSome? fun (n : Nat) => candidate? tie m q (k - ((n : Int) + 1)) with
  | some d => strip 400 d
  | none => ⟨m * Binary64.twoTo q * Nat.pow 5 (-q).toNat, min q 0⟩

end Decimal

/-- How numbers are written: the exponents of the leading digit that are written positionally (all of
    them when there are no bounds), whether a point and a zero follow whole numbers, and where ties go. -/
structure NumberStyle where
  positional : Option (Int × Int)
  pointZero : Bool
  tie : Tie
  deriving DecidableEq, Repr

namespace NumberStyle

/-- Digits with the point after `point` of them; `point` may lie outside. -/
def positionalText (style : NumberStyle) (digits : List Char) (point : Int) : List Char :=
  if point ≤ 0 then '0' :: '.' :: List.replicate (-point).toNat '0' ++ digits
  else if digits.length ≤ point.toNat then
    digits ++ List.replicate (point.toNat - digits.length) '0' ++ (if style.pointZero then ['.', '0'] else [])
  else digits.take point.toNat ++ '.' :: digits.drop point.toNat

/-- The exponent with its sign, a plus included. -/
def exponentText (e : Int) : List Char :=
  'e' :: (if e < 0 then '-' else '+') :: Nat.toDigits 10 e.natAbs

/-- Digits with the point after the first one, and the exponent. -/
def scientificText (digits : List Char) (e : Int) : List Char :=
  match digits with
  | [d] => d :: exponentText e
  | d :: rest => d :: '.' :: rest ++ exponentText e
  | [] => []

/-- The text of a decimal above zero. -/
def decimalText (style : NumberStyle) (d : Decimal) : List Char :=
  let digits := Nat.toDigits 10 d.digits
  let point := (digits.length : Int) + d.exp
  match style.positional with
  | none => style.positionalText digits point
  | some (low, high) =>
    if low ≤ point - 1 ∧ point - 1 ≤ high then style.positionalText digits point
    else scientificText digits (point - 1)

/-- The text of a number: `-0`, `7`, `0.1`, `inf`, `NaN`. -/
def text (style : NumberStyle) : Binary64 → String
  | .nan => "NaN"
  | .infinite negative => if negative then "-inf" else "inf"
  | .finite negative m q =>
    let body := if m = 0 then (if style.pointZero then ['0', '.', '0'] else ['0'])
      else style.decimalText (Decimal.shortest style.tie m q)
    String.ofList (if negative then '-' :: body else body)

end NumberStyle

/-- A number where a text is expected: all digits are written, and no point behind a whole number. -/
def plainNumber : NumberStyle := ⟨none, false, .up⟩

/-- A number in a message about a configuration: all digits, with a point in every number. -/
def pointedNumber : NumberStyle := ⟨none, true, .up⟩

/-- A number in a message about a document: positional from `10 ^ -5` to below `10 ^ 16`. -/
def documentNumber : NumberStyle := ⟨some (-5, 15), true, .toEven⟩

end NodeTelemetry
