/-!
# Bytes and text

Texts as UTF-8 bytes and back. Reading bytes as text is exact: what is written
for a text reads as that text, and nothing else reads as it. A lenient reading,
for display only, puts U+FFFD where the bytes are not UTF-8.
-/

namespace NodeTelemetry.Text

def toBytes (s : String) : List UInt8 := s.toByteArray.data.toList

/-- The text with these UTF-8 bytes, if there is one. -/
def ofBytes? (bs : List UInt8) : Option String := String.fromUTF8? ⟨bs.toArray⟩

@[simp] theorem ofBytes?_toBytes (s : String) : ofBytes? (toBytes s) = some s := by
  unfold ofBytes? toBytes String.fromUTF8?
  have valid : (ByteArray.mk s.toByteArray.data.toList.toArray).IsValidUTF8 := by
    simpa using s.isValidUTF8
  simp [String.fromUTF8, s.isValidUTF8]

theorem toBytes_of_ofBytes? {bs : List UInt8} {s : String} (h : ofBytes? bs = some s) : toBytes s = bs := by
  unfold ofBytes? String.fromUTF8? at h
  split at h
  · cases h
    simp [toBytes, String.fromUTF8]
  · cases h

theorem ofBytes?_eq_some_iff {bs : List UInt8} {s : String} : ofBytes? bs = some s ↔ bs = toBytes s :=
  ⟨fun h => (toBytes_of_ofBytes? h).symm, fun h => h ▸ ofBytes?_toBytes s⟩

theorem toBytes_injective {s t : String} (h : toBytes s = toBytes t) : s = t := by
  have := congrArg ofBytes? h
  simpa using this

/-! ## Lenient reading -/

/-- The bytes that may follow a leading byte, as the range of the next byte and the number of
    further ones; none when the byte starts no character of several bytes. -/
def followers (lead : UInt8) : Option (UInt8 × UInt8 × Nat) :=
  if 0xC2 ≤ lead && lead ≤ 0xDF then some (0x80, 0xBF, 0)
  else if lead = 0xE0 then some (0xA0, 0xBF, 1)
  else if lead = 0xED then some (0x80, 0x9F, 1)
  else if 0xE1 ≤ lead && lead ≤ 0xEF then some (0x80, 0xBF, 1)
  else if lead = 0xF0 then some (0x90, 0xBF, 2)
  else if lead = 0xF4 then some (0x80, 0x8F, 2)
  else if 0xF1 ≤ lead && lead ≤ 0xF3 then some (0x80, 0xBF, 2)
  else none

/-- The value that a leading byte of a character of several bytes contributes. -/
def leadValue (lead : UInt8) : Nat :=
  if lead < 0xE0 then lead.toNat % 0x20 else if lead < 0xF0 then lead.toNat % 0x10 else lead.toNat % 8

/-- What a lenient reader is in the middle of: the value so far, the range of the next byte and
    how many bytes come after that one. -/
structure Pending where
  value : Nat
  low : UInt8
  high : UInt8
  after : Nat

/-- One byte at the start of a character: the characters written and what is then awaited. -/
def startChar (b : UInt8) : List Char × Option Pending :=
  if b < 0x80 then ([Char.ofNat b.toNat], none)
  else match followers b with
    | some (low, high, after) => ([], some ⟨leadValue b, low, high, after⟩)
    | none => (['\ufffd'], none)

/-- Reads bytes as text; every longest piece that begins no character becomes one U+FFFD. -/
def lenientChars : Option Pending → List UInt8 → List Char
  | none, [] => []
  | some _, [] => ['\ufffd']
  | none, b :: rest => (startChar b).1 ++ lenientChars (startChar b).2 rest
  | some p, b :: rest =>
    if p.low ≤ b && b ≤ p.high then
      let value := p.value * 0x40 + b.toNat % 0x40
      match p.after with
      | 0 => Char.ofNat value :: lenientChars none rest
      | after + 1 => lenientChars (some ⟨value, 0x80, 0xBF, after⟩) rest
    else '\ufffd' :: (startChar b).1 ++ lenientChars (startChar b).2 rest

/-- The bytes as text for display. -/
def lenient (bs : List UInt8) : String := String.ofList (lenientChars none bs)

end NodeTelemetry.Text
