import NodeTelemetry.Word

/-!
# Binary64 numbers

Numbers with 53 significant bits, computed exactly on naturals and rounded once
to the nearest, ties to even. Every operation here is `ofRatio` of an exact
quotient.
-/

namespace NodeTelemetry

/-- A binary64 number. A finite one is `m · 2 ^ q` with `m < 2 ^ 53` and `-1074 ≤ q ≤ 971`. -/
inductive Binary64 where
  | finite (negative : Bool) (m : Nat) (q : Int)
  | infinite (negative : Bool)
  | nan
  deriving DecidableEq, Repr, Inhabited

namespace Binary64

def minExp : Int := -1074

def maxExp : Int := 971

/-- The quotient rounded to the nearest natural, a half to the even one. -/
def roundHalfEven (num den : Nat) : Nat :=
  let whole := num / den
  let twice := 2 * (num % den)
  if twice < den then whole
  else if den < twice then whole + 1
  else if whole % 2 = 0 then whole else whole + 1

/-- A power of two; one for negative exponents, whose powers go into the denominator instead. -/
def twoTo (q : Int) : Nat := Nat.pow 2 q.toNat

/-- A power of ten; one for negative exponents. -/
def tenTo (q : Int) : Nat := Nat.pow 10 q.toNat

/-- The exponent at which a positive quotient has 53 bits before the point, as far as the least
    exponent allows. The estimate from the bit lengths is right or one too low. -/
def exponentOf (num den : Nat) : Int :=
  let guess : Int := (num.log2 : Int) - (den.log2 : Int) - 53
  let fits (q : Int) : Bool := num * twoTo (-q) < 9007199254740992 * (den * twoTo q)
  max minExp (if fits guess then guess else if fits (guess + 1) then guess + 1 else guess + 2)

/-- A finite number or, above the greatest exponent, infinity. -/
def assemble (negative : Bool) (m : Nat) (q : Int) : Binary64 :=
  if m = 9007199254740992 then (if q + 1 ≤ maxExp then finite negative 4503599627370496 (q + 1) else infinite negative)
  else if q ≤ maxExp then finite negative m q else infinite negative

/-- The number nearest to a quotient with a positive denominator. -/
def ofRatio (negative : Bool) (num den : Nat) : Binary64 :=
  if num = 0 then finite negative 0 minExp
  else
    let q := exponentOf num den
    assemble negative (roundHalfEven (num * twoTo (-q)) (den * twoTo q)) q

/-- The number nearest to `digits · 10 ^ exp`. Values from `10 ^ 310` on are infinite and values below
    `10 ^ -330` are zero, so their powers of ten need not be computed. -/
def ofDecimal (negative : Bool) (digits : Nat) (exp : Int) : Binary64 :=
  if digits = 0 ∨ (digits.log2 : Int) + 1 + exp < -330 then finite negative 0 minExp
  else if 310 < exp then infinite negative
  else ofRatio negative (digits * tenTo exp) (tenTo (-exp))

/-- The number nearest to a natural. -/
def ofNat (n : Nat) : Binary64 := ofRatio false n 1

def neg : Binary64 → Binary64
  | finite s m q => finite (!s) m q
  | infinite s => infinite (!s)
  | nan => nan

def isInfinite : Binary64 → Bool
  | infinite _ => true
  | _ => false

/-- Whether a number is zero, of either sign. -/
def isZero : Binary64 → Bool
  | finite _ m _ => m = 0
  | _ => false

/-- The product of two positive finite numbers, rounded. -/
def times : Binary64 → Binary64 → Binary64
  | finite s m q, finite t n r => ofRatio (s != t) (m * n * twoTo (q + r)) (twoTo (-(q + r)))
  | _, _ => nan

/-- The quotient of two positive finite numbers, rounded. -/
def dividedBy : Binary64 → Binary64 → Binary64
  | finite s m q, finite t n r => ofRatio (s != t) (m * twoTo (q - r)) (n * twoTo (r - q))
  | _, _ => nan

/-- The nearest integer, a half going away from zero, as far as words reach: a number above the
    greatest word gives that word, a negative one and one that is no number give zero. -/
def toWord : Binary64 → UInt64
  | nan => 0
  | infinite true => 0
  | infinite false => maxWord
  | finite true _ _ => 0
  | finite false m q =>
    let rounded := (2 * (m * twoTo q) + twoTo (-q)) / (2 * twoTo (-q))
    UInt64.ofNat (min rounded 18446744073709551615)

end Binary64

end NodeTelemetry
