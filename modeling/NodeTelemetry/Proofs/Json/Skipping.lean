import NodeTelemetry.Json.Skip
import NodeTelemetry.Proofs.Json.Reading

/-!
# Passing over values

Whatever value a document has for a key that nobody asks for, it is passed over
as a whole (`skip_tree`). The reader goes on from one value to the next with a
list of the brackets that are open, so what it does with a value is said together
with how it goes on behind it.
-/

namespace NodeTelemetry.Json

/-! ## Texts -/

theorem skipTextBytes_bare {bytes : List UInt8} (rest : List UInt8) (bare : ∀ b ∈ bytes, Bare b) :
    ∀ fuel : List UInt8, bytes.length ≤ fuel.length →
      skipTextBytes fuel (bytes ++ rest) = skipTextBytes (fuel.drop bytes.length) rest := by
  induction bytes with
  | nil => simp
  | cons b bytes ih =>
    intro fuel enough
    obtain ⟨f, fuel, rfl⟩ := List.exists_cons_of_length_pos (Nat.zero_lt_of_lt enough)
    obtain ⟨⟨quote, backslash, control⟩, others⟩ := List.forall_mem_cons.mp bare
    simp [skipTextBytes, quote, backslash, control, ih others fuel (by simpa using enough)]

/-- Passing over a text does not ask what the pieces stand for. -/
theorem skipTextBytes_pieces (rest : List UInt8) (ps : List Piece) :
    ∀ fuel : List UInt8, (ps.flatMap Piece.bytes).length < fuel.length →
      skipTextBytes fuel (ps.flatMap Piece.bytes ++ 34 :: rest) = .ok rest := by
  induction ps with
  | nil =>
    intro fuel enough
    obtain ⟨f, fuel, rfl⟩ := List.exists_cons_of_length_pos (Nat.zero_lt_of_lt enough)
    rfl
  | cons p ps ih =>
    intro fuel enough
    rw [List.flatMap_cons] at enough ⊢
    rw [List.length_append] at enough
    rw [List.append_assoc]
    cases p with
    | plain c bare =>
      have bytes : ∀ b ∈ String.utf8EncodeChar c, Bare b := fun b => bare_of_mem_plain bare
      simp only [Piece.bytes] at enough ⊢
      rw [skipTextBytes_bare _ bytes _ (by omega), ih _ (by rw [List.length_drop]; omega)]
    | escape e =>
      obtain ⟨f, fuel, rfl⟩ := List.exists_cons_of_length_pos (Nat.zero_lt_of_lt enough)
      have skipped : skipEscape (e.letter :: (ps.flatMap Piece.bytes ++ 34 :: rest)) =
          .ok (ps.flatMap Piece.bytes ++ 34 :: rest) := by
        cases e <;> rfl
      simp only [Piece.bytes, List.length_cons, List.cons_append, List.nil_append] at enough ⊢
      have later := ih fuel (by omega)
      simp [skipTextBytes, skipped, later, bind, Except.bind]
    | unit u =>
      obtain ⟨f, fuel, rfl⟩ := List.exists_cons_of_length_pos (Nat.zero_lt_of_lt enough)
      simp only [Piece.bytes, List.length_cons, List.cons_append, List.nil_append] at enough ⊢
      have later := ih fuel (by omega)
      simp [skipTextBytes, skipEscape, readUnit_digits, later, bind, Except.bind, pure, Except.pure]

theorem skipText_pieces (ps : List Piece) (rest : List UInt8) :
    skipText (ps.flatMap Piece.bytes ++ 34 :: rest) = .ok rest :=
  skipTextBytes_pieces rest ps _ (by simp only [List.length_append, List.length_cons]; omega)

/-! ## Numbers -/

section

variable (ds : Digits) {rest : List UInt8} (stop : NoDigit rest)

include stop

theorem skipDigits_digits : skipDigits (ds.bytes ++ rest) = .ok rest := by
  have dropped := dropWhile_digits ds stop
  obtain ⟨d, more, bytes⟩ := List.exists_cons_of_ne_nil ds.filled
  have first : isDigit d = true := ds.decimal d (by simp [bytes])
  rw [bytes, List.cons_append] at dropped ⊢
  simpa [skipDigits, first] using dropped

end

theorem Sign.skipDigits_digits (sign : Sign) (ds : Digits) {rest : List UInt8} (stop : NoDigit rest) {mark : UInt8}
    (isMark : isExponentMark mark = true) : skipExponent (mark :: (sign.bytes ++ (ds.bytes ++ rest))) = .ok rest := by
  have skipped := Json.skipDigits_digits ds stop
  obtain ⟨d, more, bytes, digit⟩ := ds.first
  rw [bytes, List.cons_append] at skipped ⊢
  cases sign with
  | none =>
    have plus := ne_of_isDigit (c := 43) digit rfl
    have minus := ne_of_isDigit (c := 45) digit rfl
    simp only [Sign.bytes, List.nil_append, skipExponent, isMark, if_true]
    split <;> simp_all
  | plus => simpa [Sign.bytes, skipExponent, isMark] using skipped
  | minus => simpa [Sign.bytes, skipExponent, isMark] using skipped

namespace Numeral

variable (n : Numeral) {rest : List UInt8} (apart : Apart rest)

/-- Digits in front of a point are passed over; a zero does not go on. -/
theorem skipInteger_whole {rest : List UInt8} (stop : NoDigit rest) : skipInteger (n.whole.bytes ++ rest) = .ok rest := by
  have skipped := skipDigits_digits n.whole stop
  unfold skipInteger
  split
  · next b after bytes =>
    obtain ⟨d, more, own, -⟩ := n.whole.first
    rw [own, List.cons_append] at bytes
    obtain ⟨rfl, behind⟩ := List.cons.inj bytes
    have alone := n.plain (by rw [own]; rfl)
    obtain rfl : more = [] := (List.cons.inj (own.symm.trans alone)).2
    obtain rfl : rest = b :: after := behind
    simp [stop b rfl]
  · exact skipped

include apart

theorem skipExponent_exponentBytes : skipExponent (n.exponentBytes ++ rest) = .ok rest := by
  unfold exponentBytes
  cases n.exponent with
  | none =>
    cases rest with
    | nil => rfl
    | cons b rest => simp [skipExponent, (apart b rfl).2.2]
  | some e =>
    have isMark : isExponentMark (if e.capital then 69 else 101) = true := by cases e.capital <;> rfl
    have skipped := e.sign.skipDigits_digits e.digits apart.noDigit isMark
    simpa [Exponent.bytes] using skipped

theorem skipNumber_unsignedBytes : skipNumber (n.unsignedBytes ++ rest) = .ok rest := by
  have whole := n.skipInteger_whole (n.noDigit_fractionBytes apart)
  have behind := n.skipExponent_exponentBytes apart
  have stop := n.noDigit_exponentBytes apart
  simp only [unsignedBytes, List.append_assoc, skipNumber, whole, bind, Except.bind]
  cases fraction : n.fraction with
  | none =>
    simp only [fractionBytes, fraction, Option.map_none, Option.getD_none, List.nil_append]
    split
    · next after bytes => exact absurd rfl (n.head_exponentBytes apart 46 (by rw [bytes]; rfl)).2
    · exact behind
  | some ds =>
    simp [fractionBytes, fraction, skipDigits_digits ds stop, behind]

end Numeral

/-! ## Values -/

/-- Goes on behind a value at the place where the next one must begin, unless nothing is open. -/
def resume (fuel : List UInt8) (after : Except Fault (List Frame × List UInt8)) : Except Fault (List UInt8) := do
  match ← after with
  | ([], rest) => return rest
  | (frames, rest) => skipValues fuel frames rest

theorem skipValues_cons (f : UInt8) (fuel : List UInt8) (frames : List Frame) (s : List UInt8) :
    skipValues (f :: fuel) frames s = resume fuel (skipOne frames s) := rfl

theorem resume_ok_cons (fuel : List UInt8) (frame : Frame) (frames : List Frame) (rest : List UInt8) :
    resume fuel (.ok (frame :: frames, rest)) = skipValues fuel (frame :: frames) rest := rfl

mutual

/-- The number of values that are passed over. -/
def Tree.weight : Tree → Nat
  | .list items => items.weight + 1
  | .object members => members.weight + 1
  | _ => 1

def Items.weight : Items → Nat
  | .nil _ => 0
  | .cons _ _ value rest => value.weight + rest.weight

def Members.weight : Members → Nat
  | .nil _ => 0
  | .cons _ _ _ _ _ value rest => value.weight + rest.weight

end

/-- A key is passed over with the colon behind it. -/
theorem skipKey_object (before : Gap) (key : Literal) (colon : Gap) (rest : List UInt8) :
    skipKey .object (before.bytes ++ (key.bytes ++ (colon.bytes ++ 58 :: rest))) = .ok rest := by
  rw [Literal.bytes_append]
  simp only [skipKey, skipSpace_blanks before.blank (show isSpace 34 = false from rfl), ne_eq, not_true, if_false,
    skipText_pieces, bind, Except.bind, skipSpace_blanks colon.blank (show isSpace 58 = false from rfl), if_true, pure,
    Except.pure]

section

variable {rest : List UInt8} (frames : List Frame) (g : Gap)

theorem skipOne_null : skipOne frames (g.bytes ++ (Tree.null.bytes ++ rest)) = skipAfter frames rest := by
  rw [skipOne, skipSpace_tree]
  rfl

theorem skipOne_flag (b : Bool) : skipOne frames (g.bytes ++ ((Tree.flag b).bytes ++ rest)) = skipAfter frames rest := by
  rw [skipOne, skipSpace_tree]
  cases b <;> rfl

theorem skipOne_text (l : Literal) : skipOne frames (g.bytes ++ ((Tree.text l).bytes ++ rest)) = skipAfter frames rest := by
  rw [skipOne, skipSpace_tree, Tree.bytes, Literal.bytes_append]
  simp [skipText_pieces, bind, Except.bind]

theorem skipOne_number (n : Numeral) (apart : Apart rest) :
    skipOne frames (g.bytes ++ ((Tree.number n).bytes ++ rest)) = skipAfter frames rest := by
  have skipped := n.skipNumber_unsignedBytes apart
  rw [skipOne, skipSpace_tree, Tree.bytes, n.bytes_eq]
  cases n.negative with
  | true => simp [skipped, bind, Except.bind]
  | false =>
    obtain ⟨d, more, own, digit⟩ := n.exists_unsignedBytes rest
    rw [own] at skipped
    simp [own, ne_of_isDigit (c := 91) digit rfl, ne_of_isDigit (c := 123) digit rfl,
      ne_of_isDigit (c := 34) digit rfl, ne_of_isDigit (c := 45) digit rfl, digit, skipped, bind, Except.bind]

end

/-- A list that does not end at once goes on at its first item. -/
theorem skipInto_list (frames : List Frame) (before : Gap) (value : Tree) (rest : List UInt8) :
    skipInto .list frames (before.bytes ++ (value.bytes ++ rest)) = .ok (.list :: frames, value.bytes ++ rest) := by
  obtain ⟨b, more, own, opens⟩ := value.exists_bytes
  rw [skipInto, skipSpace_tree, own]
  simp [Frame.closing, opens.inner, skipKey, bind, Except.bind, pure, Except.pure]

/-- An object that does not end at once goes on at the value of its first member. -/
theorem skipInto_object (frames : List Frame) (before : Gap) (key : Literal) (colon : Gap) (rest : List UInt8) :
    skipInto .object frames (before.bytes ++ (key.bytes ++ (colon.bytes ++ 58 :: rest)))
      = .ok (.object :: frames, rest) := by
  have skipped := skipKey_object .none key colon rest
  rw [Literal.bytes_append] at skipped ⊢
  rw [skipInto, skipSpace_blanks before.blank (show isSpace 34 = false from rfl)]
  simp only [Gap.none, List.nil_append] at skipped
  simp [Frame.closing, skipped, bind, Except.bind, pure, Except.pure]

/-- A value without parts is passed over in one step. -/
theorem skipValues_of_skipOne {s rest fuel : List UInt8} {frames : List Frame}
    (skipped : skipOne frames s = skipAfter frames rest) (enough : 1 ≤ fuel.length) :
    skipValues fuel frames s = resume (fuel.drop 1) (skipAfter frames rest) := by
  obtain ⟨f, fuel, rfl⟩ := List.exists_cons_of_length_pos enough
  rw [skipValues_cons, skipped]
  rfl

mutual

/-- A value is passed over whatever it is, and what is open around it is gone on with behind it. -/
theorem skipValues_tree : ∀ (t : Tree) (fuel : List UInt8) (frames : List Frame) (g : Gap) (rest : List UInt8),
    Apart rest → t.weight ≤ fuel.length →
      skipValues fuel frames (g.bytes ++ (t.bytes ++ rest)) = resume (fuel.drop t.weight) (skipAfter frames rest)
  | .null, _, frames, g, _, _, enough => skipValues_of_skipOne (skipOne_null frames g) enough
  | .flag b, _, frames, g, _, _, enough => skipValues_of_skipOne (skipOne_flag frames g b) enough
  | .number n, _, frames, g, _, apart, enough => skipValues_of_skipOne (skipOne_number frames g n apart) enough
  | .text l, _, frames, g, _, _, enough => skipValues_of_skipOne (skipOne_text frames g l) enough
  | .list items, fuel, frames, g, rest, _, enough => by
    obtain ⟨f, fuel, rfl⟩ := List.exists_cons_of_length_pos (Nat.lt_of_lt_of_le (Nat.succ_pos _) enough)
    simp only [Tree.weight, List.length_cons, Nat.add_le_add_iff_right, List.drop_succ_cons] at enough ⊢
    have bytes : (Tree.list items).bytes ++ rest = 91 :: (items.bytes true ++ 93 :: rest) := by simp [Tree.bytes]
    rw [skipValues_cons, skipOne, skipSpace_tree, bytes]
    cases items with
    | nil inside =>
      simp [Items.bytes, Items.weight, skipInto, skipSpace_blanks inside.blank (show isSpace 93 = false from rfl),
        Frame.closing]
    | cons comma before value items =>
      simp only [Items.weight] at enough ⊢
      have first := skipValues_tree value fuel (.list :: frames) .none (items.bytes false ++ 93 :: rest)
        (apart_items items rest) (by omega)
      have later := resume_items items (fuel.drop value.weight) frames rest (by rw [List.length_drop]; omega)
      rw [later, List.drop_drop] at first
      rw [← first]
      simp [Items.bytes, between, skipInto_list, resume_ok_cons, Gap.none]
  | .object members, fuel, frames, g, rest, _, enough => by
    obtain ⟨f, fuel, rfl⟩ := List.exists_cons_of_length_pos (Nat.lt_of_lt_of_le (Nat.succ_pos _) enough)
    simp only [Tree.weight, List.length_cons, Nat.add_le_add_iff_right, List.drop_succ_cons] at enough ⊢
    have bytes : (Tree.object members).bytes ++ rest = 123 :: (members.bytes true ++ 125 :: rest) := by
      simp [Tree.bytes]
    rw [skipValues_cons, skipOne, skipSpace_tree, bytes]
    cases members with
    | nil inside =>
      simp [Members.bytes, Members.weight, skipInto, skipSpace_blanks inside.blank (show isSpace 125 = false from rfl),
        Frame.closing]
    | cons comma before key colon space value members =>
      simp only [Members.weight] at enough ⊢
      have first := skipValues_tree value fuel (.object :: frames) space (members.bytes false ++ 125 :: rest)
        (apart_members members rest) (by omega)
      have later := resume_members members (fuel.drop value.weight) frames rest (by rw [List.length_drop]; omega)
      rw [later, List.drop_drop] at first
      rw [← first]
      simp [Members.bytes, between, skipInto_object, resume_ok_cons]

/-- The items behind the first one are passed over up to the end of the list. -/
theorem resume_items : ∀ (items : Items) (fuel : List UInt8) (frames : List Frame) (rest : List UInt8),
    items.weight ≤ fuel.length →
      resume fuel (skipAfter (.list :: frames) (items.bytes false ++ 93 :: rest))
        = resume (fuel.drop items.weight) (skipAfter frames rest)
  | .nil inside, fuel, frames, rest, _ => by
    simp [Items.bytes, Items.weight, skipAfter, skipSpace_blanks inside.blank (show isSpace 93 = false from rfl),
      Frame.closing]
  | .cons comma before value items, fuel, frames, rest, enough => by
    simp only [Items.weight] at enough ⊢
    have first := skipValues_tree value fuel (.list :: frames) before (items.bytes false ++ 93 :: rest)
      (apart_items items rest) (by omega)
    have later := resume_items items (fuel.drop value.weight) frames rest (by rw [List.length_drop]; omega)
    rw [later, List.drop_drop] at first
    rw [← first]
    simp [Items.bytes, between, skipAfter, skipSpace_blanks comma.blank (show isSpace 44 = false from rfl), skipKey,
      bind, Except.bind, pure, Except.pure, resume_ok_cons]

theorem resume_members : ∀ (members : Members) (fuel : List UInt8) (frames : List Frame) (rest : List UInt8),
    members.weight ≤ fuel.length →
      resume fuel (skipAfter (.object :: frames) (members.bytes false ++ 125 :: rest))
        = resume (fuel.drop members.weight) (skipAfter frames rest)
  | .nil inside, fuel, frames, rest, _ => by
    simp [Members.bytes, Members.weight, skipAfter, skipSpace_blanks inside.blank (show isSpace 125 = false from rfl),
      Frame.closing]
  | .cons comma before key colon space value members, fuel, frames, rest, enough => by
    simp only [Members.weight] at enough ⊢
    have first := skipValues_tree value fuel (.object :: frames) space (members.bytes false ++ 125 :: rest)
      (apart_members members rest) (by omega)
    have later := resume_members members (fuel.drop value.weight) frames rest (by rw [List.length_drop]; omega)
    rw [later, List.drop_drop] at first
    rw [← first]
    simp [Members.bytes, between, skipAfter, skipSpace_blanks comma.blank (show isSpace 44 = false from rfl),
      skipKey_object, bind, Except.bind, pure, Except.pure, resume_ok_cons]

end

mutual

theorem Tree.weight_le : ∀ t : Tree, t.weight ≤ t.bytes.length
  | .null => by decide
  | .flag b => by cases b <;> decide
  | .number n => by
    obtain ⟨d, more, own, -⟩ := n.whole.first
    simp only [Tree.weight, Tree.bytes, Numeral.bytes, own, List.length_append, List.length_cons]
    omega
  | .text l => by simp [Tree.weight, Tree.bytes, Literal.bytes]
  | .list items => by
    have := items.weight_le true
    simp only [Tree.weight, Tree.bytes, List.length_append, List.length_cons]
    omega
  | .object members => by
    have := members.weight_le true
    simp only [Tree.weight, Tree.bytes, List.length_append, List.length_cons]
    omega

theorem Items.weight_le : ∀ (items : Items) (first : Bool), items.weight ≤ (items.bytes first).length
  | .nil _, _ => Nat.zero_le _
  | .cons comma before value rest, first => by
    have := value.weight_le
    have := rest.weight_le false
    simp only [Items.weight, Items.bytes, List.length_append]
    omega

theorem Members.weight_le : ∀ (members : Members) (first : Bool), members.weight ≤ (members.bytes first).length
  | .nil _, _ => Nat.zero_le _
  | .cons comma before key colon space value rest, first => by
    have := value.weight_le
    have := rest.weight_le false
    simp only [Members.weight, Members.bytes, List.length_append, List.length_cons]
    omega

end

/-- Every value is passed over, up to its end and no further. -/
theorem skip_tree (g : Gap) (t : Tree) {rest : List UInt8} (apart : Apart rest) :
    skip (g.bytes ++ (t.bytes ++ rest)) = .ok rest := by
  have enough : t.weight ≤ (g.bytes ++ (t.bytes ++ rest)).length := by
    have := t.weight_le
    simp only [List.length_append]
    omega
  rw [skip, skipValues_tree t _ [] g rest apart enough]
  rfl

end NodeTelemetry.Json
