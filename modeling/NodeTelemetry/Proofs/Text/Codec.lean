import Mathlib.Data.List.Basic
import Mathlib.Data.List.Induction
import Mathlib.Tactic.ByContra
import NodeTelemetry.Text.Numeral
import NodeTelemetry.Text.Utf8

/-!
# What is written reads back

The digits of a number read as that number, as do all digits that denote it; only
those without zeros in front are its own. The bytes of a text below 128 are its
characters below 128.
-/

namespace NodeTelemetry.Text

/-- A front of which all is wanted ends where something comes that is not. -/
theorem span_append {α : Type} {wanted : α → Bool} {front rest : List α} (all : ∀ a ∈ front, wanted a = true)
    (stop : ∀ a ∈ rest.head?, wanted a = false) :
    (front ++ rest).takeWhile wanted = front ∧ (front ++ rest).dropWhile wanted = rest := by
  rw [List.takeWhile_append_of_pos all, List.dropWhile_append_of_pos all]
  cases rest with
  | nil => simp
  | cons a rest => simp [stop a rfl]

/-! ## Digits -/

theorem isDecimal_of_mem_digits {n : Nat} {c : Char} (member : c ∈ digits n) : isDecimal c = true :=
  Nat.isDigit_of_mem_toDigits (by decide) (by decide) member

theorem digits_ne_nil (n : Nat) : digits n ≠ [] := Nat.toDigits_ne_nil

theorem le_ofDigitChars (s : List Char) (n : Nat) : n ≤ Nat.ofDigitChars 10 s n := by
  rw [Nat.ofDigitChars_eq_ofDigitChars_zero]
  have : 1 * n ≤ 10 ^ s.length * n := Nat.mul_le_mul_right n (Nat.one_le_pow _ _ (by decide))
  omega

theorem step_eq (n : Nat) (c : Char) : n * 10 + decimalValue c = 10 * n + (c.toNat - '0'.toNat) := by
  rw [Nat.mul_comm]
  rfl

/-- Reading digits gives their value, unless it is too large for a word. -/
theorem readDigits_eq_ok {s : List Char} {n : Nat} (decimal : ∀ c ∈ s, isDecimal c = true)
    (fits : Nat.ofDigitChars 10 s n < 18446744073709551616) : readDigits n s = .ok (Nat.ofDigitChars 10 s n) := by
  induction s generalizing n with
  | nil => rfl
  | cons c rest ih =>
    rw [Nat.ofDigitChars_cons] at fits ⊢
    have small := Nat.lt_of_le_of_lt (le_ofDigitChars rest _) fits
    rw [readDigits, if_pos (decimal c List.mem_cons_self), step_eq, if_pos small]
    exact ih (fun c member => decimal c (List.mem_cons_of_mem _ member)) fits

/-- What reads as a word is made of digits, and their value fits. -/
theorem of_readDigits_eq_ok {s : List Char} {n v : Nat} (fits : n < 18446744073709551616)
    (read : readDigits n s = .ok v) :
    (∀ c ∈ s, isDecimal c = true) ∧ Nat.ofDigitChars 10 s n = v ∧ v < 18446744073709551616 := by
  induction s generalizing n with
  | nil =>
    cases read
    exact ⟨by simp, rfl, fits⟩
  | cons c rest ih =>
    by_cases decimal : isDecimal c = true
    · by_cases small : n * 10 + decimalValue c < 18446744073709551616
      · rw [readDigits, if_pos decimal] at read
        simp only [if_pos small] at read
        obtain ⟨others, value, bounded⟩ := ih small read
        refine ⟨?_, ?_, bounded⟩
        · intro d member
          rcases List.mem_cons.mp member with rfl | member
          · exact decimal
          · exact others d member
        · rw [Nat.ofDigitChars_cons, ← step_eq]
          exact value
      · simp [readDigits, decimal, small] at read
    · simp [readDigits, decimal] at read

/-- Decimal digits that stand for a number, with any number of zeros in front. -/
structure Denotes (ds : List Char) (n : Nat) : Prop where
  filled : ds ≠ []
  decimal : ∀ c ∈ ds, c.isDigit = true
  value : Nat.ofDigitChars 10 ds 0 = n

namespace Denotes

theorem digits (n : Nat) : Denotes (digits n) n :=
  ⟨digits_ne_nil n, fun _ => isDecimal_of_mem_digits, Nat.ofDigitChars_ten_toDigits⟩

/-- Digits are read as the number they stand for exactly when it fits a word. -/
theorem read_iff {ds : List Char} (filled : ds ≠ []) {n : Nat} :
    readDigits 0 ds = .ok n ↔ Denotes ds n ∧ n < 18446744073709551616 := by
  constructor
  · intro read
    obtain ⟨decimal, value, fits⟩ := of_readDigits_eq_ok (by decide) read
    exact ⟨⟨filled, decimal, value⟩, fits⟩
  · rintro ⟨denoted, fits⟩
    rw [← denoted.value] at fits ⊢
    exact readDigits_eq_ok denoted.decimal fits

/-- A digit is the one that is written for its value. -/
theorem digitChar_value {c : Char} (decimal : c.isDigit = true) : Nat.digitChar (c.toNat - '0'.toNat) = c := by
  obtain ⟨low, high⟩ : 48 ≤ c.toNat ∧ c.toNat ≤ 57 := by
    simpa [Char.isDigit, UInt32.le_iff_toNat_le] using decimal
  have written := Nat.toNat_digitChar_of_lt_ten (n := c.toNat - '0'.toNat) (by
    have : '0'.toNat = 48 := rfl
    omega)
  refine Char.toNat_inj.mp (written.trans ?_)
  have : '0'.toNat = 48 := rfl
  omega

end Denotes

/-- Digits as numbers are written: no zero stands in front, unless it is all there is. -/
def Canonical (ds : List Char) : Prop := ds.head? = some '0' → ds = ['0']

instance (ds : List Char) : Decidable (Canonical ds) := inferInstanceAs (Decidable (_ → _))

theorem canonical_digits (n : Nat) : Canonical (digits n) := by
  induction n using Nat.strongRecOn with
  | _ n ih =>
    unfold digits at ih ⊢
    by_cases small : n < 10
    · rw [Nat.toDigits_of_lt_base small]
      intro zero
      exact congrArg (fun c => [c]) (Option.some.inj zero)
    · rw [Nat.toDigits_of_base_le (by decide) (by omega)]
      intro zero
      have before : (Nat.toDigits 10 (n / 10)).head? = some '0' := by
        rwa [List.head?_append_of_ne_nil _ Nat.toDigits_ne_nil] at zero
      -- the digits in front would be a lone zero, but there is something left to write
      have value := Nat.ofDigitChars_ten_toDigits (n := n / 10)
      rw [ih (n / 10) (by omega) before] at value
      have : Nat.ofDigitChars 10 ['0'] 0 = 0 := rfl
      omega

/-- Digits without a zero in front are the digits of what they stand for. -/
theorem digits_ofDigitChars {ds : List Char} (filled : ds ≠ []) (decimal : ∀ c ∈ ds, c.isDigit = true)
    (plain : ds.head? ≠ some '0') : 0 < Nat.ofDigitChars 10 ds 0 ∧ digits (Nat.ofDigitChars 10 ds 0) = ds := by
  induction ds using List.reverseRecOn with
  | nil => exact absurd rfl filled
  | append_singleton before c ih =>
    have last : Nat.digitChar (c.toNat - '0'.toNat) = c := Denotes.digitChar_value (decimal c (by simp))
    have ten : c.toNat - '0'.toNat < 10 := by
      by_contra large
      have : c.isDigit = true := decimal c (by simp)
      rw [← last, Nat.isDigit_digitChar] at this
      exact large (of_decide_eq_true this)
    by_cases first : before = []
    · subst first
      have positive : c.toNat - '0'.toNat ≠ 0 := by
        intro none
        rw [none] at last
        exact plain (by simp [← last])
      have value : Nat.ofDigitChars 10 ([] ++ [c]) 0 = c.toNat - '0'.toNat := by simp [Nat.ofDigitChars_cons]
      rw [value, digits, Nat.toDigits_of_lt_base ten, last]
      exact ⟨Nat.pos_of_ne_zero positive, rfl⟩
    · have head : before.head? ≠ some '0' := by
        rwa [List.head?_append_of_ne_nil _ first] at plain
      obtain ⟨positive, same⟩ := ih first (fun d member => decimal d (by simp [member])) head
      have value : Nat.ofDigitChars 10 (before ++ [c]) 0 =
          10 * Nat.ofDigitChars 10 before 0 + (c.toNat - '0'.toNat) := by
        rw [Nat.ofDigitChars_append, Nat.ofDigitChars_cons, Nat.ofDigitChars_nil]
      rw [value]
      refine ⟨by omega, ?_⟩
      rw [digits, ← Nat.toDigits_append_toDigits (by decide) positive ten, Nat.toDigits_of_lt_base ten, last]
      exact congrArg (· ++ [c]) same

/-- A number is written in one way without zeros in front. -/
theorem Denotes.canonical_iff {ds : List Char} {n : Nat} (denoted : Denotes ds n) :
    Canonical ds ↔ ds = Text.digits n := by
  constructor
  · intro canonical
    by_cases zero : ds.head? = some '0'
    · obtain rfl := canonical zero
      rw [← denoted.value]
      rfl
    · rw [← denoted.value]
      exact (digits_ofDigitChars denoted.filled denoted.decimal zero).2.symm
  · rintro rfl
    exact canonical_digits n

/-- A text is read as a word exactly when it is digits for it, behind a plus sign or none. -/
theorem readWord_eq_ok_iff {s : List Char} {n : UInt64} :
    readWord s = .ok n ↔ Denotes s n.toNat ∨ ∃ ds, s = '+' :: ds ∧ Denotes ds n.toNat := by
  have plus : ∀ {ds : List Char} {v : Nat}, ¬ Denotes ('+' :: ds) v := fun denoted =>
    absurd (denoted.decimal '+' List.mem_cons_self) (by decide)
  have digits {ds : List Char} (filled : ds ≠ []) :
      (readDigits 0 ds).map UInt64.ofNat = .ok n ↔ Denotes ds n.toNat := by
    constructor
    · intro read
      cases outcome : readDigits 0 ds with
      | error fault => simp [outcome, Except.map] at read
      | ok v =>
        obtain ⟨denoted, fits⟩ := (Denotes.read_iff filled).mp outcome
        rw [outcome] at read
        cases read
        rwa [UInt64.toNat_ofNat_of_lt' fits]
    · intro denoted
      rw [(Denotes.read_iff filled).mpr ⟨denoted, n.toNat_lt⟩]
      simp [Except.map]
  unfold readWord
  split
  · constructor
    · simp
    · rintro (denoted | ⟨ds, none, -⟩)
      · exact absurd rfl denoted.filled
      · cases none
  · constructor
    · simp
    · rintro (denoted | ⟨ds, sign, denoted⟩)
      · exact (plus denoted).elim
      · cases sign
        exact absurd rfl denoted.filled
  · next ds more =>
    have filled : ds ≠ [] := by
      rintro rfl
      exact more rfl
    rw [digits filled]
    exact ⟨fun denoted => .inr ⟨ds, rfl, denoted⟩, fun either => either.elim (fun denoted => (plus denoted).elim)
      fun ⟨_, sign, denoted⟩ => by cases sign; exact denoted⟩
  · next empty _ unsigned =>
    rw [digits (fun none => empty none)]
    exact ⟨.inl, fun either => either.elim id fun ⟨ds, sign, _⟩ => (unsigned ds sign).elim⟩

/-- The digits of a word read as that word. -/
theorem readWord_digits (n : UInt64) : readWord (digits n.toNat) = .ok n :=
  readWord_eq_ok_iff.mpr (.inl (Denotes.digits n.toNat))

/-! ## Bytes -/

theorem toBytes_eq_flatMap (s : String) : toBytes s = s.toList.flatMap String.utf8EncodeChar := by
  rw [toBytes, ← String.utf8Encode_toList, List.utf8Encode]
  simp

/-- A byte below 128 stands for the character with its number, and in no longer character. -/
theorem toNat_of_mem_utf8EncodeChar {c : Char} {b : UInt8} (member : b ∈ String.utf8EncodeChar c)
    (ascii : b.toNat < 128) : c.toNat = b.toNat := by
  unfold String.utf8EncodeChar at member
  simp only at member
  split at member
  · next small =>
    rw [List.mem_singleton.mp member, UInt8.toNat_ofNat']
    have : c.toNat = c.val.toNat := rfl
    omega
  · -- every byte of a longer character has a mark that is at least 128
    exfalso
    split at member
    · simp only [List.mem_cons, List.not_mem_nil, or_false] at member
      rcases member with rfl | rfl <;> rw [UInt8.toNat_ofNat'] at ascii <;> omega
    · split at member
      · simp only [List.mem_cons, List.not_mem_nil, or_false] at member
        rcases member with rfl | rfl | rfl <;> rw [UInt8.toNat_ofNat'] at ascii <;> omega
      · simp only [List.mem_cons, List.not_mem_nil, or_false] at member
        rcases member with rfl | rfl | rfl | rfl <;> rw [UInt8.toNat_ofNat'] at ascii <;> omega

/-- A text holds an ASCII byte only where it holds the character. -/
theorem mem_toList_of_mem_toBytes {s : String} {c : Char} {b : UInt8} (same : c.toNat = b.toNat) (ascii : b.toNat < 128)
    (member : b ∈ toBytes s) : c ∈ s.toList := by
  rw [toBytes_eq_flatMap, List.mem_flatMap] at member
  obtain ⟨c', among, inside⟩ := member
  have : c' = c := Char.toNat_inj.mp ((toNat_of_mem_utf8EncodeChar inside ascii).trans same.symm)
  rwa [← this]

end NodeTelemetry.Text
