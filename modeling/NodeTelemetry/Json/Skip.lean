import NodeTelemetry.Json.Scan

/-!
# Skipping values

The value of a key that nobody asks for is passed over. Only its form is
checked: brackets and commas, the ends of texts and the form of numbers, but
neither depth nor ranges nor the bytes of texts.
-/

namespace NodeTelemetry.Json

/-- Passes over what follows a backslash. -/
def skipEscape : List UInt8 → Except Fault (List UInt8)
  | [] => .error .endInString
  | 117 :: rest => do return (← readUnit rest).2
  | b :: rest => if (unescape? b).isSome then .ok rest else .error .invalidEscape

/-- Passes over a text whose opening quote is taken. Every step takes a byte. -/
def skipTextBytes : List UInt8 → List UInt8 → Except Fault (List UInt8)
  | [], _ => .error .endInString
  | _ :: _, [] => .error .endInString
  | _ :: fuel, b :: rest =>
    if b = 34 then .ok rest
    else if b = 92 then do skipTextBytes fuel (← skipEscape rest)
    else if b < 32 then .error .controlCharacter
    else skipTextBytes fuel rest

/-- Passes over a text whose opening quote is taken; a text is fuel enough for itself. -/
def skipText (s : List UInt8) : Except Fault (List UInt8) := skipTextBytes s s

/-- Passes over one digit or more. -/
def skipDigits : List UInt8 → Except Fault (List UInt8)
  | b :: rest => if isDigit b then .ok (rest.dropWhile isDigit) else .error .invalidNumber
  | [] => .error .invalidNumber

/-- Passes over an exponent, if there is one. -/
def skipExponent : List UInt8 → Except Fault (List UInt8)
  | b :: rest =>
    if isExponentMark b then
      match rest with
      | 43 :: rest => skipDigits rest
      | 45 :: rest => skipDigits rest
      | rest => skipDigits rest
    else .ok (b :: rest)
  | [] => .ok []

/-- Passes over the digits in front of a point; no digit follows a leading zero. -/
def skipInteger : List UInt8 → Except Fault (List UInt8)
  | 48 :: b :: rest => if isDigit b then .error .invalidNumber else .ok (b :: rest)
  | s => skipDigits s

/-- Passes over a number whose sign is taken. -/
def skipNumber (s : List UInt8) : Except Fault (List UInt8) := do
  match ← skipInteger s with
  | 46 :: rest => skipExponent (← skipDigits rest)
  | rest => skipExponent rest

/-- What is open around a value. -/
inductive Frame where
  | list
  | object
  deriving DecidableEq, Repr

/-- The fault of a text that ends inside a frame. -/
def Frame.ended : Frame → Fault
  | list => .endInList
  | object => .endInObject

/-- The fault of something that neither continues nor closes a frame. -/
def Frame.unclosed : Frame → Fault
  | list => .expectedListEnd
  | object => .expectedObjectEnd

/-- The bracket that closes a frame. -/
def Frame.closing : Frame → UInt8
  | list => 93
  | object => 125

/-- Passes over the key of the next value of a frame, if the frame has keys. -/
def skipKey (frame : Frame) (s : List UInt8) : Except Fault (List UInt8) :=
  match frame with
  | .list => .ok s
  | .object =>
    match skipSpace s with
    | [] => .error .endInObject
    | b :: rest =>
      if b ≠ 34 then .error .keyNotString
      else do
        match skipSpace (← skipText rest) with
        | [] => throw .endInObject
        | c :: rest => if c = 58 then return rest else throw .expectedColon

/-- Passes over what follows a value, up to the place where the next one must begin, and gives the
    frames around that; there are none when the whole is closed. -/
def skipAfter : List Frame → List UInt8 → Except Fault (List Frame × List UInt8)
  | [], s => .ok ([], s)
  | frame :: frames, s =>
    match skipSpace s with
    | [] => .error frame.ended
    | b :: rest =>
      if b = 44 then do return (frame :: frames, ← skipKey frame rest)
      else if b = frame.closing then skipAfter frames rest
      else .error frame.unclosed

/-- Passes over what follows an opening bracket, up to the place where the next value must begin. -/
def skipInto (frame : Frame) (frames : List Frame) (s : List UInt8) : Except Fault (List Frame × List UInt8) :=
  match skipSpace s with
  | [] => .error frame.ended
  | b :: rest =>
    if b = frame.closing then skipAfter frames rest
    else do return (frame :: frames, ← skipKey frame (b :: rest))

/-- Passes over a value that has no parts, or over the bracket that opens one, up to the next value. -/
def skipOne (frames : List Frame) (s : List UInt8) : Except Fault (List Frame × List UInt8) :=
  match skipSpace s with
  | [] => .error .endInValue
  | b :: rest =>
    if b = 91 then skipInto .list frames rest
    else if b = 123 then skipInto .object frames rest
    else if b = 34 then do skipAfter frames (← skipText rest)
    else if b = 45 then do skipAfter frames (← skipNumber rest)
    else if isDigit b then do skipAfter frames (← skipNumber (b :: rest))
    else if b = 110 then do skipAfter frames (← readWord wordNull rest)
    else if b = 116 then do skipAfter frames (← readWord wordTrue rest)
    else if b = 102 then do skipAfter frames (← readWord wordFalse rest)
    else .error .expectedValue

/-- Passes over a value and what closes the frames around it. Every step takes a byte. -/
def skipValues : List UInt8 → List Frame → List UInt8 → Except Fault (List UInt8)
  | [], _, _ => .error .endInValue
  | _ :: fuel, frames, s => do
    match ← skipOne frames s with
    | ([], rest) => return rest
    | (frames, rest) => skipValues fuel frames rest

/-- Passes over one value; the bytes are fuel enough for themselves. -/
def skip (s : List UInt8) : Except Fault (List UInt8) := skipValues s [] s

end NodeTelemetry.Json
