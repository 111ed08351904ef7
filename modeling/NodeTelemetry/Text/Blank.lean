/-!
# Blank text

The blank characters are the 25 characters of the Unicode property White_Space.
A text is blank when it holds no other character; identifiers that must say
something are tested with it.
-/

namespace NodeTelemetry.Text

/-- Whether a code point lies in one of some closed ranges. -/
def inRanges (ranges : List (Nat × Nat)) (n : Nat) : Bool :=
  ranges.any fun r => r.1 ≤ n && n ≤ r.2

/-- The property White_Space as closed ranges of code points, ascending and apart. -/
def blankRanges : List (Nat × Nat) :=
  [(0x09, 0x0D), (0x20, 0x20), (0x85, 0x85), (0xA0, 0xA0), (0x1680, 0x1680), (0x2000, 0x200A),
   (0x2028, 0x2029), (0x202F, 0x202F), (0x205F, 0x205F), (0x3000, 0x3000)]

/-- A space or a tab, the only space inside a line that formats of configuration know. -/
def isSpace (c : Char) : Bool := c = ' ' || c = '\t'

def isBlankChar (c : Char) : Bool := inRanges blankRanges c.toNat

/-- A text of blank characters only, such as the empty text. -/
def isBlank (s : String) : Bool := s.toList.all isBlankChar

theorem isBlank_empty : isBlank "" = true := by decide +kernel

/-- A text is blank exactly when every character of it is. -/
theorem isBlank_iff (s : String) : isBlank s = true ↔ ∀ c ∈ s.toList, isBlankChar c = true := by
  simp [isBlank]

end NodeTelemetry.Text
