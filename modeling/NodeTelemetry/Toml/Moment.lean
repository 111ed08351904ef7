import NodeTelemetry.Text.Numeral

/-!
# Dates and times

A date, a time of day or both, with an optional distance from universal time.
A moment has one canonical text: two digits for each part, a capital `T` and
`Z`, and no zeros at the end of a fraction of a second.
-/

namespace NodeTelemetry.Toml

structure Date where
  year : Nat
  month : Nat
  day : Nat
  deriving DecidableEq, Repr

/-- A time of day; `nanos` is below a second. -/
structure TimeOfDay where
  hour : Nat
  minute : Nat
  second : Nat
  nanos : Nat
  deriving DecidableEq, Repr

/-- The distance from universal time: none because it is that time, or hours and minutes. -/
inductive Offset where
  | universal
  | shifted (west : Bool) (hour minute : Nat)
  deriving DecidableEq, Repr

inductive Moment where
  | day (d : Date)
  | clock (t : TimeOfDay)
  | full (d : Date) (t : TimeOfDay) (offset : Option Offset)
  deriving DecidableEq, Repr

/-! ## Reading -/

/-- A number of exactly `n` decimal digits and what follows it. -/
def readFixed? (n : Nat) (s : List Char) : Option (Nat × List Char) :=
  let ds := s.take n
  if ds.length = n && ds.all Text.isDecimal then some (Text.valueIn 10 Text.decimalValue ds, s.drop n)
  else none

/-- What follows a character that must stand here. -/
def expect? (c : Char) : List Char → Option (List Char)
  | d :: rest => if d = c then some rest else none
  | [] => none

def daysOf (year month : Nat) : Nat :=
  if month = 2 then (if year % 4 = 0 ∧ (year % 100 ≠ 0 ∨ year % 400 = 0) then 29 else 28)
  else if month ∈ [4, 6, 9, 11] then 30 else 31

def readDate? (s : List Char) : Option (Date × List Char) := do
  let (year, s) ← readFixed? 4 s
  let s ← expect? '-' s
  let (month, s) ← readFixed? 2 s
  let s ← expect? '-' s
  let (day, s) ← readFixed? 2 s
  if 1 ≤ month ∧ month ≤ 12 ∧ 1 ≤ day ∧ day ≤ daysOf year month then some (⟨year, month, day⟩, s) else none

/-- Nanoseconds from the digits of a fraction; digits from the tenth on are dropped. -/
def nanosOf (fraction : List Char) : Nat :=
  let kept := fraction.take 9
  Text.valueIn 10 Text.decimalValue kept * Nat.pow 10 (9 - kept.length)

/-- An optional fraction of a second. -/
def readFraction? : List Char → Option (Nat × List Char)
  | '.' :: rest =>
    let ds := rest.takeWhile Text.isDecimal
    if ds.isEmpty then none else some (nanosOf ds, rest.dropWhile Text.isDecimal)
  | s => some (0, s)

/-- Two numbers of two digits with a colon between them. -/
def readHourMinute? (s : List Char) : Option (Nat × Nat × List Char) := do
  let (hour, s) ← readFixed? 2 s
  let s ← expect? ':' s
  let (minute, s) ← readFixed? 2 s
  return (hour, minute, s)

/-- A time of day; a minute may have a leap second. -/
def readTime? (s : List Char) : Option (TimeOfDay × List Char) := do
  let (hour, minute, s) ← readHourMinute? s
  let s ← expect? ':' s
  let (second, s) ← readFixed? 2 s
  let (nanos, s) ← readFraction? s
  if hour ≤ 23 ∧ minute ≤ 59 ∧ second ≤ 60 then some (⟨hour, minute, second, nanos⟩, s) else none

/-- An optional distance from universal time, which ends the text. -/
def readOffset? : List Char → Option (Option Offset)
  | [] => some none
  | c :: rest =>
    if c = 'Z' ∨ c = 'z' then (if rest.isEmpty then some (some .universal) else none)
    else if c = '+' ∨ c = '-' then
      match readHourMinute? rest with
      | some (hour, minute, []) =>
        if hour ≤ 23 ∧ minute ≤ 59 then some (some (.shifted (c = '-') hour minute)) else none
      | _ => none
    else none

def Moment.read? (s : List Char) : Option Moment :=
  match readDate? s with
  | some (d, []) => some (.day d)
  | some (d, c :: rest) =>
    if c = 'T' ∨ c = 't' ∨ c = ' ' then do
      let (t, s) ← readTime? rest
      let offset ← readOffset? s
      return .full d t offset
    else none
  | none =>
    match readTime? s with
    | some (t, []) => some (.clock t)
    | _ => none

/-! ## Writing -/

/-- A number with zeros in front of it up to a width. -/
def padded (width n : Nat) : List Char :=
  let ds := Text.digits n
  List.replicate (width - ds.length) '0' ++ ds

def Date.chars (d : Date) : List Char := padded 4 d.year ++ '-' :: padded 2 d.month ++ '-' :: padded 2 d.day

/-- The fraction of a second with its point; nothing when there is none. -/
def fractionChars (nanos : Nat) : List Char :=
  if nanos = 0 then [] else '.' :: ((padded 9 nanos).reverse.dropWhile (· = '0')).reverse

def TimeOfDay.chars (t : TimeOfDay) : List Char :=
  padded 2 t.hour ++ ':' :: padded 2 t.minute ++ ':' :: padded 2 t.second ++ fractionChars t.nanos

/-- A distance of no minutes has a plus sign. -/
def Offset.chars : Offset → List Char
  | universal => ['Z']
  | shifted west hour minute =>
    (if west ∧ 0 < hour + minute then '-' else '+') :: padded 2 hour ++ ':' :: padded 2 minute

def Moment.text : Moment → String
  | day d => String.ofList d.chars
  | clock t => String.ofList t.chars
  | full d t offset => String.ofList (d.chars ++ 'T' :: t.chars ++ (offset.map Offset.chars).getD [])

end NodeTelemetry.Toml
