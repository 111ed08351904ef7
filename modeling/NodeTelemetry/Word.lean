/-!
# Counting in 64 bits

Times and counters are 64-bit words. Where a sum or a difference would leave the
range it stops at the end of the range, so that late times never turn early.
-/

namespace NodeTelemetry

def maxWord : UInt64 := 18446744073709551615

/-- A number as a word, the greatest word when it is too large. -/
def Word.cap (n : Nat) : UInt64 := if n < 18446744073709551616 then UInt64.ofNat n else maxWord

/-- The sum of a word and a number, at most the greatest word. -/
def Word.addCapped (a : UInt64) (n : Nat) : UInt64 := Word.cap (a.toNat + n)

/-- The difference of two words, at least zero. -/
def Word.subFloored (a b : UInt64) : UInt64 := UInt64.ofNat (a.toNat - b.toNat)

namespace Word

theorem toNat_maxWord : maxWord.toNat = 18446744073709551615 := by decide

@[simp] theorem toNat_cap (n : Nat) : (cap n).toNat = min n 18446744073709551615 := by
  unfold cap
  split
  · next h => rw [UInt64.toNat_ofNat_of_lt' h]; omega
  · rw [toNat_maxWord]; omega

@[simp] theorem toNat_addCapped (a : UInt64) (n : Nat) :
    (addCapped a n).toNat = min (a.toNat + n) 18446744073709551615 := toNat_cap _

@[simp] theorem toNat_subFloored (a b : UInt64) : (subFloored a b).toNat = a.toNat - b.toNat := by
  have := a.toNat_lt
  exact UInt64.toNat_ofNat_of_lt' (by simp only [UInt64.size]; omega)

/-- Adding nothing changes nothing. -/
@[simp] theorem addCapped_zero (a : UInt64) : addCapped a 0 = a := by
  apply UInt64.toNat_inj.mp
  have := a.toNat_lt
  simp only [toNat_addCapped]; omega

end Word

end NodeTelemetry
