/-!
# Bytes in base 16

Two digits a byte, written in lower case and read in either case.
-/

namespace NodeTelemetry.Text

/-- The lower-case digit of a number below 16. -/
def hexDigit (d : Nat) : Char :=
  if d < 10 then Char.ofNat (48 + d) else Char.ofNat (87 + d)

/-- The value of a digit in base 16, in either case. -/
def hexValue? (c : Char) : Option Nat :=
  if '0' ≤ c ∧ c ≤ '9' then some (c.toNat - 48)
  else if 'a' ≤ c ∧ c ≤ 'f' then some (c.toNat - 87)
  else if 'A' ≤ c ∧ c ≤ 'F' then some (c.toNat - 55)
  else none

def hexOfByte (b : UInt8) : List Char := [hexDigit (b.toNat / 16), hexDigit (b.toNat % 16)]

def hex (bs : List UInt8) : String := String.ofList (bs.flatMap hexOfByte)

/-- The bytes that pairs of digits stand for. -/
def unhexChars? : List Char → Option (List UInt8)
  | [] => some []
  | [_] => none
  | a :: b :: rest => do
    let high ← hexValue? a
    let low ← hexValue? b
    let bytes ← unhexChars? rest
    pure (UInt8.ofNat (high * 16 + low) :: bytes)

/-- The bytes that a text of digits stands for. -/
def unhex? (s : String) : Option (List UInt8) := unhexChars? s.toList

theorem hexValue?_hexDigit {d : Nat} (h : d < 16) : hexValue? (hexDigit d) = some d := by
  have : ∀ e : Fin 16, hexValue? (hexDigit e.val) = some e.val := by decide
  exact this ⟨d, h⟩

@[simp] theorem unhexChars?_hexOfByte (b : UInt8) (rest : List Char) :
    unhexChars? (hexOfByte b ++ rest) = (unhexChars? rest).map (b :: ·) := by
  have high : b.toNat / 16 < 16 := by have := b.toNat_lt; omega
  have low : b.toNat % 16 < 16 := Nat.mod_lt _ (by decide)
  have whole : b.toNat / 16 * 16 + b.toNat % 16 = b.toNat := by omega
  simp only [hexOfByte, List.cons_append, List.nil_append, unhexChars?, hexValue?_hexDigit high,
    hexValue?_hexDigit low]
  cases unhexChars? rest <;>
    simp only [bind, Option.bind, pure, Option.map, whole, UInt8.ofNat_toNat]

/-- Reading the digits of bytes gives the bytes. -/
theorem unhex?_hex (bs : List UInt8) : unhex? (hex bs) = some bs := by
  have step : ∀ cs : List UInt8, unhexChars? (cs.flatMap hexOfByte) = some cs := by
    intro cs
    induction cs with
    | nil => rfl
    | cons b rest ih => simp [ih]
  simp [unhex?, hex, step]

end NodeTelemetry.Text
