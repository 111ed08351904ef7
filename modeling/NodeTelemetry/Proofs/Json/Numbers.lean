import NodeTelemetry.Proofs.Json.Grammar

/-!
# Reading numbers

A number is read as a natural exactly when it is written as one, with digits only,
and fits a word (`Numeral.readNumber_eq_natural_iff`). All others become negative
numbers or floats, or they are refused.
-/

namespace NodeTelemetry.Json

/-- A number that has a point or an exponent, or more digits than a word. -/
def Number.IsFloat (n : Number) : Prop := ∃ x, n = .float x

theorem isFloat_of_makeFloat {negative : Bool} {n : Nat} {exp : Int} {r : Number}
    (made : makeFloat negative n exp = .ok r) : r.IsFloat := by
  obtain ⟨x, -, float⟩ := Except.bind_eq_ok_iff.mp made
  cases float
  exact ⟨_, rfl⟩

theorem isFloat_of_readExponent {negative : Bool} {n : Nat} {exp : Int} {s : List UInt8} {r : Number × List UInt8}
    (read : readExponent negative n exp s = .ok r) : r.1.IsFloat := by
  unfold readExponent at read
  split at read
  all_goals
    dsimp only at read
    split at read
    · cases read
    · split at read
      · cases read
      · split at read
        · split at read
          · cases read
          · cases read
            exact ⟨_, rfl⟩
        · obtain ⟨number, made, done⟩ := Except.bind_eq_ok_iff.mp read
          cases done
          exact isFloat_of_makeFloat made

theorem isFloat_of_readFloatEnd {negative : Bool} {n : Nat} {exp : Int} {s : List UInt8} {r : Number × List UInt8}
    (read : readFloatEnd negative n exp s = .ok r) : r.1.IsFloat := by
  have made {rest : List UInt8} (read : (do return ((← makeFloat negative n exp), rest)) = Except.ok r) :
      r.1.IsFloat := by
    obtain ⟨number, made, done⟩ := Except.bind_eq_ok_iff.mp read
    cases done
    exact isFloat_of_makeFloat made
  unfold readFloatEnd at read
  split at read
  · split at read
    · exact isFloat_of_readExponent read
    · exact made read
  · exact made read

theorem isFloat_of_readFraction {negative : Bool} {n : Nat} {exp : Int} {s : List UInt8} {r : Number × List UInt8}
    (read : readFraction negative n exp s = .ok r) : r.1.IsFloat := by
  unfold readFraction at read
  split at read
  · cases read
  · split at read
    · cases read
    · exact isFloat_of_readFloatEnd read

/-! ## Digits -/

theorem le_foldl_digits (ds : List UInt8) (n : Nat) : n ≤ ds.foldl (fun n b => n * 10 + digitValue b) n := by
  induction ds generalizing n with
  | nil => exact Nat.le_refl n
  | cons b ds ih =>
    have := ih (n * 10 + digitValue b)
    rw [List.foldl_cons]
    omega

/-- Digits are taken into a number that is a word. -/
theorem absorb_of_fits {ds : List UInt8} {n : Nat}
    (fits : ds.foldl (fun n b => n * 10 + digitValue b) n < 18446744073709551616) :
    ∀ taken, absorb n taken ds = (ds.foldl (fun n b => n * 10 + digitValue b) n, taken + ds.length) := by
  induction ds generalizing n with
  | nil => exact fun _ => rfl
  | cons b ds ih =>
    intro taken
    rw [List.foldl_cons] at fits ⊢
    have small := Nat.lt_of_le_of_lt (le_foldl_digits ds _) fits
    simp [absorb, small, ih fits, Nat.add_assoc, Nat.add_comm 1]

/-- Some digits are left over when the number is not a word. -/
theorem absorb_of_overflow {ds : List UInt8} {n : Nat} (word : n < 18446744073709551616)
    (large : 18446744073709551616 ≤ ds.foldl (fun n b => n * 10 + digitValue b) n) :
    ∀ taken, (absorb n taken ds).2 < taken + ds.length := by
  induction ds generalizing n with
  | nil => exact absurd word (Nat.not_lt.mpr large)
  | cons b ds ih =>
    intro taken
    rw [List.foldl_cons] at large
    by_cases small : n * 10 + digitValue b < 18446744073709551616
    · have := ih small large (taken + 1)
      simp only [absorb, small, if_true, List.length_cons]
      omega
    · simp [absorb, small]

/-- How the reader of a number goes on when it has the digits in front. -/
def readBehind (negative : Bool) (digits s : List UInt8) : Except Fault (Number × List UInt8) :=
  let taken := absorb 0 0 digits
  match s with
  | 46 :: rest => readFraction negative taken.1 (digits.length - taken.2 : Int) rest
  | _ =>
    if taken.2 < digits.length then readFloatEnd negative taken.1 (digits.length - taken.2 : Int) s
    else match s with
      | c :: after =>
        if isExponentMark c then readExponent negative taken.1 0 after else .ok (makeInteger negative taken.1, s)
      | [] => .ok (makeInteger negative taken.1, [])

namespace Numeral

/-- A number without a point or an exponent that fits a word but for its sign. -/
structure IsWhole (n : Numeral) : Prop where
  whole : n.fraction = none
  exact : n.exponent = none
  fits : n.whole.value < 18446744073709551616

/-- A number that is written as a natural: without a sign, a point or an exponent. -/
structure IsNatural (n : Numeral) (v : Nat) : Prop where
  unsigned : n.negative = false
  whole : n.fraction = none
  exact : n.exponent = none
  value : n.whole.value = v

variable (n : Numeral) {rest : List UInt8} (apart : Apart rest)

include apart

theorem readNumber_unsignedBytes (negative : Bool) :
    readNumber negative (n.unsignedBytes ++ rest)
      = readBehind negative n.whole.bytes (n.fractionBytes ++ (n.exponentBytes ++ rest)) := by
  obtain ⟨d, more, own, digit⟩ := n.whole.first
  have stop := n.noDigit_fractionBytes apart
  have digits : (n.unsignedBytes ++ rest).takeWhile isDigit = n.whole.bytes := by
    rw [unsignedBytes, List.append_assoc, List.append_assoc, takeWhile_digits n.whole stop]
  have behind : (n.unsignedBytes ++ rest).dropWhile isDigit = n.fractionBytes ++ (n.exponentBytes ++ rest) := by
    rw [unsignedBytes, List.append_assoc, List.append_assoc, dropWhile_digits n.whole stop]
  have start : n.unsignedBytes ++ rest = d :: (more ++ (n.fractionBytes ++ (n.exponentBytes ++ rest))) := by
    simp [unsignedBytes, own]
  have plain : ¬ (d = 48 ∧ 1 < n.whole.bytes.length) := by
    rintro ⟨rfl, long⟩
    have alone := n.plain (by rw [own]; rfl)
    simp [alone] at long
  rw [start] at digits behind ⊢
  simp only [readNumber, digit, Bool.not_true, Bool.false_eq_true, if_false, digits, behind, plain]
  rfl

theorem readNumber_of_isWhole (isWhole : n.IsWhole) (negative : Bool) :
    readNumber negative (n.unsignedBytes ++ rest) = .ok (makeInteger negative n.whole.value, rest) := by
  have absorbed := absorb_of_fits (n := 0) isWhole.fits 0
  rw [← Digits.value, Nat.zero_add] at absorbed
  have fraction : n.fractionBytes = [] := by simp [fractionBytes, isWhole.whole]
  have exponent : n.exponentBytes = [] := by simp [exponentBytes, isWhole.exact]
  rw [n.readNumber_unsignedBytes apart]
  simp only [readBehind, fraction, exponent, List.nil_append, absorbed, Nat.lt_irrefl, if_false]
  cases rest with
  | nil => rfl
  | cons c after =>
    obtain ⟨-, point, mark⟩ := apart c rfl
    split
    · next cut => exact absurd (List.cons.inj cut).1 point
    · simp [mark]

theorem isFloat_of_readNumber (other : ¬ n.IsWhole) {negative : Bool} {r : Number × List UInt8}
    (read : readNumber negative (n.unsignedBytes ++ rest) = .ok r) : r.1.IsFloat := by
  rw [n.readNumber_unsignedBytes apart] at read
  simp only [readBehind] at read
  split at read
  · exact isFloat_of_readFraction read
  · next noPoint =>
    have whole : n.fraction = none := by
      cases fraction : n.fraction with
      | none => rfl
      | some ds => exact (noPoint _ (by simp [fractionBytes, fraction]; rfl)).elim
    split at read
    · exact isFloat_of_readFloatEnd read
    · next all =>
      -- all digits were taken in, so the number has an exponent
      have fits : n.whole.value < 18446744073709551616 := by
        by_contra large
        have left := absorb_of_overflow (n := 0) (by decide) (Nat.not_lt.mp large) 0
        rw [Nat.zero_add] at left
        exact all left
      obtain ⟨e, exponent⟩ : ∃ e, n.exponent = some e := by
        cases exponent : n.exponent with
        | none => exact absurd ⟨whole, exponent, fits⟩ other
        | some e => exact ⟨e, rfl⟩
      have mark : isExponentMark (if e.capital then 69 else 101) = true := by cases e.capital <;> rfl
      simp only [fractionBytes, whole, exponentBytes, exponent, Option.map_none, Option.map_some, Option.getD_none,
        Option.getD_some, Exponent.bytes, List.nil_append, List.cons_append, mark, if_true] at read
      exact isFloat_of_readExponent read

/-- A number is read as a word exactly when it is written as a natural below `2 ^ 64`. -/
theorem readNumber_eq_natural_iff {v : Nat} {rest' : List UInt8} :
    readNumber n.negative (n.unsignedBytes ++ rest) = .ok (.natural v, rest') ↔
      n.IsNatural v ∧ v < 18446744073709551616 ∧ rest' = rest := by
  by_cases isWhole : n.IsWhole
  · rw [n.readNumber_of_isWhole apart isWhole]
    constructor
    · intro read
      obtain ⟨made, rfl⟩ := Prod.mk.inj (Except.ok.inj read)
      have unsigned : n.negative = false := by
        cases negative : n.negative with
        | false => rfl
        | true =>
          simp only [makeInteger, negative, Bool.not_true, Bool.false_eq_true, if_false] at made
          split at made <;> cases made
      simp only [makeInteger, unsigned, Bool.not_false, if_true, Number.natural.injEq] at made
      exact ⟨⟨unsigned, isWhole.whole, isWhole.exact, made⟩, made ▸ isWhole.fits, rfl⟩
    · rintro ⟨natural, -, rfl⟩
      simp [makeInteger, natural.unsigned, natural.value]
  · constructor
    · intro read
      obtain ⟨x, same⟩ := n.isFloat_of_readNumber apart isWhole read
      cases same
    · rintro ⟨natural, fits, -⟩
      exact absurd ⟨natural.whole, natural.exact, natural.value ▸ fits⟩ isWhole

end Numeral

end NodeTelemetry.Json
