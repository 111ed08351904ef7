import NodeTelemetry.Identity.ObjectId

/-!
# Digits in base 16, in either case

What is read from digits in base 16 is what is written as the same digits in lower
case, and nothing else is read (`Text.unhexChars?_eq_some_iff`). So a text stands
for an object id exactly if it shows the id in some mixture of cases.
-/

namespace NodeTelemetry

namespace Text

theorem lt_of_hexValue? {c : Char} {d : Nat} (value : hexValue? c = some d) : c.toNat < 128 ∧ d < 16 := by
  have bound {c e : Char} (le : c ≤ e) : c.toNat ≤ e.toNat := le
  unfold hexValue? at value
  split at value
  · next range =>
    cases value
    have : c.toNat ≤ 57 := bound range.2
    omega
  · split at value
    · next range =>
      cases value
      have : c.toNat ≤ 102 := bound range.2
      omega
    · split at value
      · next range =>
        cases value
        have : c.toNat ≤ 70 := bound range.2
        omega
      · cases value

theorem lt_of_toLower {c : Char} {d : Nat} (small : d < 16) (same : c.toLower = hexDigit d) : c.toNat < 128 := by
  refine Nat.lt_of_not_le fun large => ?_
  have unchanged : c.toLower = c := by
    unfold Char.toLower
    refine dif_neg fun upper => ?_
    have : c.toNat ≤ 90 := upper.2
    omega
  have digit : ∀ e : Fin 16, (hexDigit e).toNat < 128 := by decide
  rw [← unchanged, same] at large
  exact Nat.not_le_of_lt (digit ⟨d, small⟩) large

/-- A character is a digit of a certain value exactly if it shows that digit in either case. -/
theorem hexValue?_eq_some_iff {c : Char} {d : Nat} : hexValue? c = some d ↔ d < 16 ∧ c.toLower = hexDigit d := by
  -- both sides leave none but the first 128 characters, and these are tried one by one
  have all : ∀ n : Fin 128, ∀ d : Fin 16,
      hexValue? (Char.ofNat n) = some d.val ↔ (Char.ofNat n).toLower = hexDigit d := by
    decide +kernel
  have whole (ascii : c.toNat < 128) (small : d < 16) : hexValue? c = some d ↔ c.toLower = hexDigit d := by
    have this := all ⟨c.toNat, ascii⟩ ⟨d, small⟩
    rwa [Char.ofNat_toNat] at this
  constructor
  · intro value
    obtain ⟨ascii, small⟩ := lt_of_hexValue? value
    exact ⟨small, (whole ascii small).mp value⟩
  · rintro ⟨small, same⟩
    exact (whole (lt_of_toLower small same) small).mpr same

/-- Digits are read as bytes exactly if they are the digits of these bytes, in either case. -/
theorem unhexChars?_eq_some_iff {cs : List Char} {bs : List UInt8} :
    unhexChars? cs = some bs ↔ cs.map Char.toLower = bs.flatMap hexOfByte := by
  fun_induction unhexChars? cs generalizing bs with
  | case1 => cases bs <;> simp [hexOfByte]
  | case2 => cases bs <;> simp [hexOfByte]
  | case3 a b rest ih =>
    constructor
    · intro read
      obtain ⟨high, value, read⟩ := Option.bind_eq_some_iff.mp read
      obtain ⟨low, value', read⟩ := Option.bind_eq_some_iff.mp read
      obtain ⟨bytes, others, made⟩ := Option.bind_eq_some_iff.mp read
      cases made
      obtain ⟨small, same⟩ := hexValue?_eq_some_iff.mp value
      obtain ⟨small', same'⟩ := hexValue?_eq_some_iff.mp value'
      have byte : (UInt8.ofNat (high * 16 + low)).toNat = high * 16 + low := by
        rw [UInt8.toNat_ofNat']
        omega
      have upper : (high * 16 + low) / 16 = high := by omega
      have lower : (high * 16 + low) % 16 = low := by omega
      rw [List.map_cons, List.map_cons, ih.mp others, List.flatMap_cons, hexOfByte, byte, upper, lower, same, same']
      rfl
    · intro shown
      cases bs with
      | nil => cases shown
      | cons x xs =>
        have small : x.toNat / 16 < 16 := by
          have := x.toNat_lt
          omega
        have whole : x.toNat / 16 * 16 + x.toNat % 16 = x.toNat := by omega
        simp only [List.map_cons, List.flatMap_cons, hexOfByte, List.cons_append, List.nil_append, List.cons.injEq] at shown
        obtain ⟨first, second, others⟩ := shown
        have high := hexValue?_eq_some_iff.mpr ⟨small, first⟩
        have low := hexValue?_eq_some_iff.mpr ⟨Nat.mod_lt _ (by decide), second⟩
        rw [high, low, ih.mpr others]
        simp only [Option.bind_eq_bind, Option.bind_some, whole, UInt8.ofNat_toNat]
        rfl

theorem unhex?_eq_some_iff {s : String} {bs : List UInt8} : unhex? s = some bs ↔ s.toLower = hex bs := by
  have lower : s.toLower.toList = s.toList.map Char.toLower := String.toList_map
  rw [unhex?, unhexChars?_eq_some_iff, ← String.toList_inj, lower, hex, String.toList_ofList]

end Text

/-- A text stands for an object id exactly if it shows the id, in either case. -/
theorem ObjectId.ofText?_eq_some_iff {s : String} {o : ObjectId} : ofText? s = some o ↔ s.toLower = o.text := by
  rw [text, ← Text.unhex?_eq_some_iff]
  constructor
  · intro read
    obtain ⟨bytes, digits, whole⟩ := Option.bind_eq_some_iff.mp read
    unfold ofBytes? at whole
    split at whole <;> cases whole
    exact digits
  · intro digits
    simp [ofText?, digits]

end NodeTelemetry
