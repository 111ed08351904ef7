import NodeTelemetry.Number.Reader
import NodeTelemetry.Proofs.Text.Codec

/-!
# What reads as a number

An integer is written with digits behind a sign or none, and a number with a point
and an exponent besides, or as a word. The readers take just these texts, and all
of a text (`Text.readInt64?_eq_some_iff`, `Binary64.read?_eq_some_iff`).
-/

namespace NodeTelemetry

namespace Text

/-! ## Signs -/

/-- A text behind a sign or none, and whether the sign is a minus. -/
inductive Signed : Bool → List Char → List Char → Prop
  | bare (body : List Char) : Signed false body body
  | plus (body : List Char) : Signed false body ('+' :: body)
  | minus (body : List Char) : Signed true body ('-' :: body)

/-- No sign stands in front. -/
def Unsigned (s : List Char) : Prop := ∀ c ∈ s.head?, c ≠ '+' ∧ c ≠ '-'

theorem signed_unsigned (s : List Char) : Signed (unsigned s).1 (unsigned s).2 s := by
  unfold unsigned
  split
  · exact .minus _
  · exact .plus _
  · exact .bare _

theorem Signed.unsigned_eq {negative : Bool} {body s : List Char} (sign : Signed negative body s)
    (noSign : Unsigned body) : unsigned s = (negative, body) := by
  cases sign with
  | plus => rfl
  | minus => rfl
  | bare =>
    unfold unsigned
    split
    · exact absurd rfl (noSign '-' rfl).2
    · exact absurd rfl (noSign '+' rfl).1
    · rfl

/-! ## Integers -/

theorem valueIn_ten (s : List Char) : valueIn 10 decimalValue s = Nat.ofDigitChars 10 s 0 := by
  rw [valueIn, Nat.ofDigitChars]
  exact congrArg (fun f => s.foldl f 0) (funext fun n => funext fun c => step_eq n c)

theorem natural?_eq_some_iff {s : List Char} {n : Nat} : natural? s = some n ↔ Denotes s n := by
  rw [natural?, valueIn_ten]
  constructor
  · intro read
    split at read
    · next digits =>
      obtain ⟨filled, decimal⟩ : s ≠ [] ∧ ∀ c ∈ s, isDecimal c = true := by simpa using digits
      exact ⟨filled, decimal, Option.some.inj read⟩
    · cases read
  · intro denoted
    have decimal : s.all isDecimal = true := List.all_eq_true.mpr denoted.decimal
    simp [denoted.filled, decimal, denoted.value]

theorem Denotes.unsigned {ds : List Char} {n : Nat} (denoted : Denotes ds n) : Unsigned ds := by
  intro c first
  have digit := denoted.decimal c (List.mem_of_mem_head? first)
  constructor <;> (rintro rfl; exact absurd digit (by decide))

/-- Digits behind a sign or none stand for an integer. -/
def SpellsInteger (s : List Char) (n : Int) : Prop :=
  ∃ negative ds v, Signed negative ds s ∧ Denotes ds v ∧ n = signed negative v

theorem map_natural?_eq_some_iff {s : List Char} {n : Int} :
    (natural? (unsigned s).2).map (fun v => signed (unsigned s).1 v) = some n ↔ SpellsInteger s n := by
  rw [Option.map_eq_some_iff]
  constructor
  · rintro ⟨v, read, rfl⟩
    exact ⟨_, _, v, signed_unsigned s, natural?_eq_some_iff.mp read, rfl⟩
  · rintro ⟨negative, ds, v, sign, denoted, rfl⟩
    rw [sign.unsigned_eq denoted.unsigned]
    exact ⟨v, natural?_eq_some_iff.mpr denoted, rfl⟩

/-- A text is read as an integer exactly when it stands for it and the integer has 64 bits. -/
theorem readInt64?_eq_some_iff {s : List Char} {n : Int} :
    readInt64? s = some n ↔ SpellsInteger s n ∧ -9223372036854775808 ≤ n ∧ n < 9223372036854775808 := by
  have read : readInt64? s = ((natural? (unsigned s).2).map fun v => signed (unsigned s).1 v).bind asInt64? := by
    rw [Option.bind_map]
    rfl
  rw [read, Option.bind_eq_some_iff]
  simp only [map_natural?_eq_some_iff, asInt64?]
  constructor
  · rintro ⟨m, spelled, fits⟩
    split at fits
    · next bounds =>
      cases fits
      exact ⟨spelled, bounds⟩
    · cases fits
  · rintro ⟨spelled, bounds⟩
    exact ⟨n, spelled, if_pos bounds⟩

example : readInt64? "+9223372036854775808".toList = none := by decide +kernel

end Text

namespace Binary64

open Text

/-! ## Exponents -/

/-- What stands behind the digits of a number: nothing, or a mark and the exponent. -/
inductive SpellsExponent : List Char → Int → Prop
  | none : SpellsExponent [] 0
  | some {mark : Char} (marks : mark = 'e' ∨ mark = 'E') {s : List Char} {e : Int} (spelled : SpellsInteger s e) :
      SpellsExponent (mark :: s) e

theorem readExponent?_eq_some_iff {s : List Char} {e : Int} : readExponent? s = some e ↔ SpellsExponent s e := by
  cases s with
  | nil =>
    constructor
    · intro read
      cases read
      exact .none
    · rintro ⟨⟩
      rfl
  | cons mark s =>
    by_cases marks : mark = 'e' ∨ mark = 'E'
    · have read : readExponent? (mark :: s) = (natural? (unsigned s).2).map fun v => signed (unsigned s).1 v := by
        simp [readExponent?, marks]
      rw [read, map_natural?_eq_some_iff]
      constructor
      · exact .some marks
      · rintro ⟨⟩
        assumption
    · constructor
      · simp [readExponent?, marks]
      · rintro ⟨⟩
        exact absurd ‹_› marks

/-! ## Digits around a point -/

/-- The digits behind a point, if there is one. -/
inductive Pointed : List Char → List Char → Prop
  | none : Pointed [] []
  | some (fraction : List Char) : Pointed fraction ('.' :: fraction)

/-- Nothing that could belong to the digits of a number or to its point stands in front. -/
def Ended (s : List Char) : Prop := ∀ c ∈ s.head?, isDecimal c = false ∧ c ≠ '.'

theorem SpellsExponent.ended {s : List Char} {e : Int} (spelled : SpellsExponent s e) : Ended s := by
  intro c first
  cases spelled with
  | none => cases first
  | some marks =>
    obtain rfl := Option.some.inj first
    rcases marks with rfl | rfl <;> decide

theorem readMantissa?_append {whole fraction point rest : List Char} (pointed : Pointed fraction point)
    (filled : whole ++ fraction ≠ []) (decimal : ∀ c ∈ whole ++ fraction, isDecimal c = true) (ended : Ended rest) :
    readMantissa? (whole ++ (point ++ rest)) = some (whole, fraction, rest) := by
  have wholeDecimal : ∀ c ∈ whole, isDecimal c = true := fun c member => decimal c (by simp [member])
  have fractionDecimal : ∀ c ∈ fraction, isDecimal c = true := fun c member => decimal c (by simp [member])
  have stop : ∀ c ∈ rest.head?, isDecimal c = false := fun c first => (ended c first).1
  cases pointed with
  | none =>
    obtain ⟨digits, behind⟩ := span_append wholeDecimal stop
    have some : whole ≠ [] := by simpa using filled
    simp only [readMantissa?, List.nil_append, digits, behind]
    cases rest with
    | nil => simp [some]
    | cons c rest =>
      have noPoint : c ≠ '.' := (ended c rfl).2
      simp [some, noPoint]
  | some =>
    have point : ∀ c ∈ ('.' :: (fraction ++ rest)).head?, isDecimal c = false := by
      rintro c ⟨⟩
      decide
    obtain ⟨digits, behind⟩ := span_append wholeDecimal point
    obtain ⟨digits', behind'⟩ := span_append fractionDecimal stop
    have some : (whole.isEmpty && fraction.isEmpty) = false := by
      rw [Bool.and_eq_false_iff]
      by_contra none
      simp only [List.isEmpty_eq_false_iff, not_or, not_not] at none
      exact filled (by rw [none.1, none.2]; rfl)
    simp [readMantissa?, digits, behind, digits', behind', some]

theorem of_readMantissa?_eq_some {s whole fraction rest : List Char}
    (read : readMantissa? s = some (whole, fraction, rest)) :
    ∃ point, Pointed fraction point ∧ s = whole ++ (point ++ rest) ∧ whole ++ fraction ≠ [] ∧
      ∀ c ∈ whole ++ fraction, isDecimal c = true := by
  have cut (t : List Char) : t = t.takeWhile isDecimal ++ t.dropWhile isDecimal := List.takeWhile_append_dropWhile.symm
  have decimal (t : List Char) : ∀ c ∈ t.takeWhile isDecimal, isDecimal c = true := List.all_eq_true.mp List.all_takeWhile
  have some {w f : List Char} (filled : ¬ (w.isEmpty && f.isEmpty) = true) : w ++ f ≠ [] := by
    simpa using filled
  simp only [readMantissa?] at read
  split at read
  · next r point =>
    split at read
    · cases read
    · next filled =>
      cases read
      refine ⟨_, .some _, ?_, some filled, List.forall_mem_append.mpr ⟨decimal s, decimal r⟩⟩
      rw [List.cons_append, ← cut r, ← point, ← cut s]
  · split at read
    · cases read
    · next filled =>
      cases read
      refine ⟨_, .none, ?_, some filled, List.forall_mem_append.mpr ⟨decimal s, by simp⟩⟩
      rw [List.nil_append, ← cut s]

/-! ## Numbers -/

/-- How a number is written: as a word for infinity or for no number, or with digits, a point among them or none, and
    an exponent of ten or none, and all that behind a sign or none. -/
inductive Spells (s : List Char) : Binary64 → Prop
  | infinite {negative : Bool} {word : List Char} (sign : Signed negative word s)
      (named : word.map Char.toLower = "inf".toList ∨ word.map Char.toLower = "infinity".toList) :
      Spells s (.infinite negative)
  | nan {negative : Bool} {word : List Char} (sign : Signed negative word s)
      (named : word.map Char.toLower = "nan".toList) : Spells s .nan
  | decimal {negative : Bool} {whole fraction point exponent : List Char} {n : Nat} {e : Int}
      (sign : Signed negative (whole ++ (point ++ exponent)) s) (pointed : Pointed fraction point)
      (digits : Denotes (whole ++ fraction) n) (scaled : SpellsExponent exponent e) :
      Spells s (ofDecimal negative n (e - fraction.length))

/-- An integer is a number. -/
theorem exists_spells_of_integer {s : List Char} {n : Int} (spelled : SpellsInteger s n) : ∃ x, Spells s x := by
  obtain ⟨negative, ds, v, sign, denoted, -⟩ := spelled
  rw [← List.append_nil ds] at sign denoted
  exact ⟨_, .decimal sign .none denoted .none⟩

theorem ofWord?_eq_some_iff {negative : Bool} {s : List Char} {x : Binary64} :
    ofWord? negative s = some x ↔
      ((s.map Char.toLower = "inf".toList ∨ s.map Char.toLower = "infinity".toList) ∧ x = infinite negative) ∨
        (s.map Char.toLower = "nan".toList ∧ x = nan) := by
  have same {w : String} : String.ofList (s.map Char.toLower) = w ↔ s.map Char.toLower = w.toList := by
    rw [← String.toList_inj, String.toList_ofList]
  simp only [← same, ofWord?]
  split
  · next word => simp [word, eq_comm]
  · next word => simp [word, eq_comm]
  · next word => simp [word, eq_comm]
  · next noInf noInfinity noNan =>
    simp only [reduceCtorEq, false_iff, not_or, not_and]
    exact ⟨fun word => by rcases word with word | word <;> contradiction, fun word => absurd word noNan⟩

/-- What begins with a digit or a point has no sign in front and is no word. -/
theorem ofWord?_eq_none_of_digits {negative : Bool} {c : Char} {rest : List Char} (first : isDecimal c = true ∨ c = '.') :
    ofWord? negative (c :: rest) = none := by
  have small : c.toLower = c := by
    rcases first with digit | rfl
    · have digit' : c.toNat ≤ 57 := by
        have := (Bool.and_eq_true_iff.mp digit).2
        exact of_decide_eq_true this
      have noCapital : ¬ (c.val ≥ 'A'.val ∧ c.val ≤ 'Z'.val) := fun both => by
        have : 65 ≤ c.toNat := both.1
        omega
      exact dif_neg noCapital
    · rfl
  have letters {w : List Char} (named : (c :: rest).map Char.toLower = w) : w.head? = some c := by
    rw [← named, List.map_cons, small]
    rfl
  rw [Option.eq_none_iff_forall_ne_some]
  intro x read
  rcases ofWord?_eq_some_iff.mp read with ⟨named | named, -⟩ | ⟨named, -⟩ <;>
    · obtain rfl := Option.some.inj (letters named)
      exact absurd first (by decide)

/-- The first character of digits around a point is a digit or the point. -/
theorem Pointed.exists_first {whole fraction point : List Char} (pointed : Pointed fraction point)
    (filled : whole ++ fraction ≠ []) (decimal : ∀ c ∈ whole ++ fraction, isDecimal c = true) (rest : List Char) :
    ∃ c more, whole ++ (point ++ rest) = c :: more ∧ (isDecimal c = true ∨ c = '.') := by
  cases whole with
  | cons c whole => exact ⟨c, _, rfl, .inl (decimal c (by simp))⟩
  | nil =>
    cases pointed with
    | none => exact absurd rfl filled
    | some => exact ⟨'.', _, rfl, .inr rfl⟩

/-- A word has no sign in front, in any case. -/
theorem unsigned_of_named {word w : List Char} {d : Char} (named : word.map Char.toLower = d :: w)
    (other : d ≠ '+' ∧ d ≠ '-') : Unsigned word := by
  rintro c first
  cases word with
  | nil => cases first
  | cons b word =>
    obtain rfl := Option.some.inj first
    have lower := (List.cons.inj named).1
    exact ⟨by rintro rfl; exact other.1 lower.symm, by rintro rfl; exact other.2 lower.symm⟩

/-- A text is read as a number exactly when it spells it. -/
theorem read?_eq_some_iff {s : List Char} {x : Binary64} : read? s = some x ↔ Spells s x := by
  simp only [read?, Option.or_eq_some_iff]
  constructor
  · rintro (word | ⟨-, digits⟩)
    · rcases ofWord?_eq_some_iff.mp word with ⟨named, rfl⟩ | ⟨named, rfl⟩
      · exact .infinite (signed_unsigned s) named
      · exact .nan (signed_unsigned s) named
    · obtain ⟨⟨whole, fraction, rest⟩, mantissa, digits⟩ := Option.bind_eq_some_iff.mp digits
      obtain ⟨e, scaled, made⟩ := Option.bind_eq_some_iff.mp digits
      cases made
      obtain ⟨point, pointed, body, filled, decimal⟩ := of_readMantissa?_eq_some mantissa
      rw [ofParts, valueIn_ten]
      exact .decimal (body ▸ signed_unsigned s) pointed ⟨filled, decimal, rfl⟩ (readExponent?_eq_some_iff.mp scaled)
  · intro spelled
    cases spelled with
    | infinite sign named =>
      rw [sign.unsigned_eq (named.elim (unsigned_of_named · (by decide)) (unsigned_of_named · (by decide)))]
      exact .inl (ofWord?_eq_some_iff.mpr (.inl ⟨named, rfl⟩))
    | nan sign named =>
      rw [sign.unsigned_eq (unsigned_of_named named (by decide))]
      exact .inl (ofWord?_eq_some_iff.mpr (.inr ⟨named, rfl⟩))
    | @decimal _ whole fraction point exponent _ _ sign pointed digits scaled =>
      obtain ⟨c, more, body, first⟩ := pointed.exists_first digits.filled digits.decimal exponent
      have mantissa := readMantissa?_append pointed digits.filled digits.decimal scaled.ended
      have noSign : Unsigned (whole ++ (point ++ exponent)) := by
        rintro d here
        rw [body] at here
        obtain rfl := Option.some.inj here
        constructor <;> (rintro rfl; exact absurd first (by decide))
      rw [sign.unsigned_eq noSign]
      right
      refine ⟨body ▸ ofWord?_eq_none_of_digits first, ?_⟩
      simp [mantissa, readExponent?_eq_some_iff.mpr scaled, ofParts, valueIn_ten, digits.value]

example : read? "-.5e1".toList = some (ofDecimal true 5 0) := by decide +kernel
example : read? "1e".toList = none := by decide +kernel

end Binary64

end NodeTelemetry
