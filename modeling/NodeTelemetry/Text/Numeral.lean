import NodeTelemetry.Word

/-!
# Decimal numerals

Words and integers of 64 bits written in decimal digits. Reading takes any
number of leading zeros and an optional sign; for words, the first character
that cannot be read decides which fault is reported.
-/

namespace NodeTelemetry

/-- Why a text is no word. -/
inductive WordFault where
  | empty
  | notDigit
  | tooLarge
  deriving DecidableEq, Repr

namespace Text

/-- The decimal digits of a number, without leading zeros. -/
def digits (n : Nat) : List Char := Nat.toDigits 10 n

def isDecimal (c : Char) : Bool := '0' ≤ c && c ≤ '9'

def decimalValue (c : Char) : Nat := c.toNat - 48

/-- Reads digits from the left, after those that gave `n`. -/
def readDigits (n : Nat) : List Char → Except WordFault Nat
  | [] => .ok n
  | c :: rest =>
    if isDecimal c then
      let next := n * 10 + decimalValue c
      if next < 18446744073709551616 then readDigits next rest else .error .tooLarge
    else .error .notDigit

/-- Reads a word: digits after an optional plus sign. -/
def readWord (s : List Char) : Except WordFault UInt64 :=
  match s with
  | [] => .error .empty
  | ['+'] => .error .notDigit
  | '+' :: rest => (readDigits 0 rest).map UInt64.ofNat
  | _ => (readDigits 0 s).map UInt64.ofNat

/-- The number that digits in a base stand for. -/
def valueIn (base : Nat) (digitValue : Char → Nat) (ds : List Char) : Nat :=
  ds.foldl (fun n c => n * base + digitValue c) 0

/-- The number that decimal digits stand for, if there are some and nothing else. -/
def natural? (s : List Char) : Option Nat :=
  if !s.isEmpty && s.all isDecimal then some (valueIn 10 decimalValue s) else none

/-- Whether a minus sign stands in front, and what follows the sign if there is one. -/
def unsigned : List Char → Bool × List Char
  | '-' :: rest => (true, rest)
  | '+' :: rest => (false, rest)
  | s => (false, s)

def signed (negative : Bool) (n : Nat) : Int := if negative then -(n : Int) else n

/-- A number that fits 64 bits with a sign. -/
def asInt64? (n : Int) : Option Int := if -9223372036854775808 ≤ n ∧ n < 9223372036854775808 then some n else none

/-- Reads an integer of 64 bits: digits after an optional sign. -/
def readInt64? (s : List Char) : Option Int :=
  let (negative, ds) := unsigned s
  (natural? ds).bind fun n => asInt64? (signed negative n)

end Text

end NodeTelemetry
