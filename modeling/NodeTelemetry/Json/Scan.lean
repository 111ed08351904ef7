import NodeTelemetry.Json.Fault
import NodeTelemetry.Text.Utf8

/-!
# Tokens of a document

A reader takes the bytes that are left and gives what it read together with the
bytes after it, or the first fault that it met. Here are the readers of the smallest parts: blanks, fixed words,
texts and numbers.
-/

namespace NodeTelemetry.Json

/-- Blanks between tokens. -/
def isSpace (b : UInt8) : Bool := b = 32 ∨ b = 9 ∨ b = 10 ∨ b = 13

def skipSpace (s : List UInt8) : List UInt8 := s.dropWhile isSpace

def isDigit (b : UInt8) : Bool := 48 ≤ b && b ≤ 57

/-- The value of a digit from 0 to 9. -/
def digitValue (b : UInt8) : Nat := b.toNat - 48

/-- Reads the rest of a fixed word. -/
def readWord : List UInt8 → List UInt8 → Except Fault (List UInt8)
  | [], s => .ok s
  | _ :: _, [] => .error .endInValue
  | w :: word, b :: rest => if b = w then readWord word rest else .error .expectedIdent

def wordNull : List UInt8 := [117, 108, 108]

def wordTrue : List UInt8 := [114, 117, 101]

def wordFalse : List UInt8 := [97, 108, 115, 101]

/-! ## Texts -/

/-- The value of a digit in base 16. -/
def hexByte? (b : UInt8) : Option Nat :=
  if 48 ≤ b ∧ b ≤ 57 then some (b.toNat - 48)
  else if 97 ≤ b ∧ b ≤ 102 then some (b.toNat - 87)
  else if 65 ≤ b ∧ b ≤ 70 then some (b.toNat - 55)
  else none

/-- Reads four digits in base 16. Fewer than four bytes are an end, whatever they are. -/
def readUnit : List UInt8 → Except Fault (Nat × List UInt8)
  | a :: b :: c :: d :: rest =>
    match hexByte? a, hexByte? b, hexByte? c, hexByte? d with
    | some a, some b, some c, some d => .ok (((a * 16 + b) * 16 + c) * 16 + d, rest)
    | _, _, _, _ => .error .invalidEscape
  | _ => .error .endInString

/-- The UTF-8 bytes of a code point. -/
def encodePoint (n : Nat) : List UInt8 := String.utf8EncodeChar (Char.ofNat n)

/-- Reads what follows the mark of a code point: one unit, or a leading and a trailing one. -/
def readPoint (s : List UInt8) : Except Fault (List UInt8 × List UInt8) := do
  let (n, rest) ← readUnit s
  if 0xDC00 ≤ n ∧ n ≤ 0xDFFF then throw .loneSurrogate
  if n < 0xD800 ∨ 0xDBFF < n then return (encodePoint n, rest)
  match rest with
  | [] => throw .endInString
  | 92 :: [] => throw .endInString
  | 92 :: 117 :: rest =>
    let (m, rest) ← readUnit rest
    if m < 0xDC00 ∨ 0xDFFF < m then throw .loneSurrogate
    return (encodePoint (0x10000 + (n - 0xD800) * 0x400 + (m - 0xDC00)), rest)
  | _ => throw .endOfHexEscape

/-- The byte that a letter after a backslash stands for. -/
def unescape? : UInt8 → Option UInt8
  | 34 => some 34
  | 92 => some 92
  | 47 => some 47
  | 98 => some 8
  | 102 => some 12
  | 110 => some 10
  | 114 => some 13
  | 116 => some 9
  | _ => none

/-- Reads what follows a backslash. -/
def readEscape : List UInt8 → Except Fault (List UInt8 × List UInt8)
  | [] => .error .endInString
  | 117 :: rest => readPoint rest
  | b :: rest =>
    match unescape? b with
    | some c => .ok ([c], rest)
    | none => .error .invalidEscape

/-- Reads up to the closing quote; gives the bytes of the text. What was read is kept in `before`, the
    last byte first. Every step takes a byte, so a text is fuel enough for itself. -/
def readTextBytes : List UInt8 → List UInt8 → List UInt8 → Except Fault (List UInt8 × List UInt8)
  | [], _, _ => .error .endInString
  | _ :: _, _, [] => .error .endInString
  | _ :: fuel, before, b :: rest =>
    if b = 34 then .ok (before.reverse, rest)
    else if b = 92 then do
      let (c, rest) ← readEscape rest
      readTextBytes fuel (c.reverse ++ before) rest
    else if b < 32 then .error .controlCharacter
    else readTextBytes fuel (b :: before) rest

/-- Reads a text whose opening quote is taken. -/
def readText (s : List UInt8) : Except Fault (String × List UInt8) := do
  let (bytes, rest) ← readTextBytes s [] s
  match Text.ofBytes? bytes with
  | some text => return (text, rest)
  | none => throw .invalidCodePoint

/-! ## Numbers -/

/-- Adds digits to a number as long as it stays a word; gives it and the number of digits added, which
    are counted on from `taken`. -/
def absorb (n taken : Nat) : List UInt8 → Nat × Nat
  | [] => (n, taken)
  | b :: rest =>
    let next := n * 10 + digitValue b
    if next < 18446744073709551616 then absorb next (taken + 1) rest else (n, taken)

/-- The power of ten of a small exponent, as a rounded number. -/
def powerOfTen (n : Nat) : Binary64 := Binary64.ofDecimal false 1 n

/-- The greatest exponent whose power of ten is a finite number. -/
def maxPower : Nat := 308

/-- Divides by powers of ten, the greatest one first. -/
def divideDown : Nat → Binary64 → Nat → Binary64
  | 0, x, _ => x
  | fuel + 1, x, n =>
    if n ≤ maxPower then x.dividedBy (powerOfTen n)
    else if x.isZero then x
    else divideDown fuel (x.dividedBy (powerOfTen maxPower)) (n - maxPower)

/-- The number that a word and an exponent of ten give: the rounded word, multiplied or divided by
    rounded powers of ten. -/
def scaleWord (n : Nat) (exp : Int) : Except Fault Binary64 :=
  let x := Binary64.ofNat n
  if exp < 0 then .ok (divideDown 5 x exp.natAbs)
  else if exp.natAbs ≤ maxPower then
    let y := x.times (powerOfTen exp.natAbs)
    if y.isInfinite then .error .numberOutOfRange else .ok y
  else if x.isZero then .ok x
  else .error .numberOutOfRange

/-- The greatest exponent that is read exactly. -/
def maxExponent : Nat := 2147483647

/-- A number that is written with a point or an exponent. -/
def makeFloat (negative : Bool) (n : Nat) (exp : Int) : Except Fault Number := do
  let x ← scaleWord n (max (-(maxExponent : Int) - 1) (min maxExponent exp))
  return .float (if negative then x.neg else x)

/-- Reads an exponent whose mark is taken. All that are too great count as one. -/
def readExponent (negative : Bool) (n : Nat) (exp : Int) (s : List UInt8) : Except Fault (Number × List UInt8) := do
  let (down, s) := match s with
    | 43 :: rest => (false, rest)
    | 45 :: rest => (true, rest)
    | _ => (false, s)
  match s with
  | [] => throw .endInValue
  | b :: _ =>
    if !isDigit b then throw .invalidNumber
    let digits := s.takeWhile isDigit
    let rest := s.dropWhile isDigit
    let e := digits.foldl (fun e b => min (e * 10 + digitValue b) (maxExponent + 1)) 0
    if maxExponent < e then
      if n ≠ 0 ∧ !down then throw .numberOutOfRange
      let zero := Binary64.ofNat 0
      return (.float (if negative then zero.neg else zero), rest)
    let number ← makeFloat negative n (if down then exp - e else exp + e)
    return (number, rest)

/-- Whether the next byte is a mark of an exponent. -/
def isExponentMark (b : UInt8) : Bool := b = 101 ∨ b = 69

/-- Reads what may follow the digits of a number that has a point or more digits than a word. -/
def readFloatEnd (negative : Bool) (n : Nat) (exp : Int) (s : List UInt8) : Except Fault (Number × List UInt8) :=
  match s with
  | b :: rest =>
    if isExponentMark b then readExponent negative n exp rest
    else do return (← makeFloat negative n exp, s)
  | [] => do return (← makeFloat negative n exp, [])

/-- Reads the digits after the point. -/
def readFraction (negative : Bool) (n : Nat) (exp : Int) (s : List UInt8) : Except Fault (Number × List UInt8) :=
  match s with
  | [] => .error .endInValue
  | b :: _ =>
    if !isDigit b then .error .invalidNumber
    else
      let (m, taken) := absorb n 0 (s.takeWhile isDigit)
      readFloatEnd negative m (exp - taken) (s.dropWhile isDigit)

/-- An integer that is a word. Zero with a sign and integers below 64 bits become floats. -/
def makeInteger (negative : Bool) (n : Nat) : Number :=
  if !negative then .natural n
  else if 0 < n ∧ n ≤ 9223372036854775808 then .negative n
  else .float (Binary64.ofNat n).neg

/-- Reads a number whose sign is taken. -/
def readNumber (negative : Bool) (s : List UInt8) : Except Fault (Number × List UInt8) :=
  match s with
  | [] => .error .endInValue
  | b :: _ =>
    if !isDigit b then .error .invalidNumber
    else
      let digits := s.takeWhile isDigit
      let rest := s.dropWhile isDigit
      if b = 48 ∧ 1 < digits.length then .error .invalidNumber
      else
        let (n, taken) := absorb 0 0 digits
        let dropped : Int := digits.length - taken
        match rest with
        | 46 :: rest => readFraction negative n dropped rest
        | _ =>
          if taken < digits.length then readFloatEnd negative n dropped rest
          else match rest with
            | c :: after => if isExponentMark c then readExponent negative n 0 after
                            else .ok (makeInteger negative n, rest)
            | [] => .ok (makeInteger negative n, [])

end NodeTelemetry.Json
