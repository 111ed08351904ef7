import NodeTelemetry.Number.Binary64
import NodeTelemetry.Text.Numeral

/-!
# Reading numbers

Numbers as they are written by hand: digits with a point anywhere among them or
none, an exponent of ten, and the words for infinity and for no number.
-/

namespace NodeTelemetry.Binary64

/-- The number of digits before a point, digits after it and an exponent of ten. -/
def ofParts (negative : Bool) (whole fraction : List Char) (exponent : Int) : Binary64 :=
  ofDecimal negative (Text.valueIn 10 Text.decimalValue (whole ++ fraction)) (exponent - fraction.length)

/-- An exponent with its mark and an optional sign; zero when nothing is written. -/
def readExponent? : List Char → Option Int
  | [] => some 0
  | mark :: rest =>
    if mark = 'e' ∨ mark = 'E' then
      (Text.natural? (Text.unsigned rest).2).map (Text.signed (Text.unsigned rest).1)
    else none

/-- Digits before and after an optional point, at least one, and what follows them. -/
def readMantissa? (s : List Char) : Option (List Char × List Char × List Char) :=
  let whole := s.takeWhile Text.isDecimal
  let (fraction, rest) :=
    match s.dropWhile Text.isDecimal with
    | '.' :: r => (r.takeWhile Text.isDecimal, r.dropWhile Text.isDecimal)
    | r => ([], r)
  if whole.isEmpty && fraction.isEmpty then none else some (whole, fraction, rest)

/-- The words for infinity and for no number, in any case. -/
def ofWord? (negative : Bool) (s : List Char) : Option Binary64 :=
  match String.ofList (s.map Char.toLower) with
  | "inf" | "infinity" => some (infinite negative)
  | "nan" => some nan
  | _ => none

/-- Reads a number; one that is too large becomes infinite. -/
def read? (s : List Char) : Option Binary64 :=
  let (negative, body) := Text.unsigned s
  (ofWord? negative body).or do
    let (whole, fraction, rest) ← readMantissa? body
    let exponent ← readExponent? rest
    return ofParts negative whole fraction exponent

end NodeTelemetry.Binary64
