import NodeTelemetry.Proofs.Json.Grammar

/-!
# Reading texts

A text between quotes is read piece by piece, and what is read is what the pieces
stand for. It is refused where they stand for nothing, that is where a half of a
character has not the other half next to it.
-/

namespace NodeTelemetry.Json

/-- A byte that stands for itself between quotes. -/
def Bare (b : UInt8) : Prop := b ≠ 34 ∧ b ≠ 92 ∧ ¬ b < 32

theorem bare_of_mem_plain {c : Char} (bare : 32 ≤ c.toNat ∧ c ≠ '"' ∧ c ≠ '\\') {b : UInt8}
    (member : b ∈ String.utf8EncodeChar c) : Bare b := by
  obtain ⟨visible, quote, backslash⟩ := bare
  have own : b.toNat < 128 → c.toNat = b.toNat := Text.toNat_of_mem_utf8EncodeChar member
  refine ⟨?_, ?_, ?_⟩
  · rintro rfl
    exact quote (Char.toNat_inj.mp (own (by decide)))
  · rintro rfl
    exact backslash (Char.toNat_inj.mp (own (by decide)))
  · intro control
    have small : b.toNat < 32 := UInt8.lt_iff_toNat_lt.mp control
    have := own (by omega)
    omega

/-- Bytes that stand for themselves are taken over one by one. -/
theorem readTextBytes_bare {bytes : List UInt8} (rest : List UInt8) (bare : ∀ b ∈ bytes, Bare b) :
    ∀ fuel before : List UInt8, bytes.length ≤ fuel.length →
      readTextBytes fuel before (bytes ++ rest) =
        readTextBytes (fuel.drop bytes.length) (bytes.reverse ++ before) rest := by
  induction bytes with
  | nil => simp
  | cons b bytes ih =>
    intro fuel before enough
    obtain ⟨f, fuel, rfl⟩ := List.exists_cons_of_length_pos (Nat.zero_lt_of_lt enough)
    obtain ⟨⟨quote, backslash, control⟩, others⟩ := List.forall_mem_cons.mp bare
    simp [readTextBytes, quote, backslash, control, ih others fuel (b :: before) (by simpa using enough)]

theorem hexByte?_byte (d : HexDigit) : hexByte? d.byte = some d.value.val := by
  have each : ∀ (v : Fin 16) (c : Bool), hexByte? (HexDigit.byte ⟨v, c⟩) = some v.val := by decide
  exact each d.value d.capital

theorem readUnit_digits (u : CodeUnit) (rest : List UInt8) :
    readUnit (u.a.byte :: u.b.byte :: u.c.byte :: u.d.byte :: rest) = .ok (u.value, rest) := by
  simp [readUnit, hexByte?_byte, CodeUnit.value]

theorem readPoint_single {u : CodeUnit} (alone : u.isLeading = false) (whole : u.isTrailing = false) (rest : List UInt8) :
    readPoint (u.a.byte :: u.b.byte :: u.c.byte :: u.d.byte :: rest) = .ok (encodePoint u.value, rest) := by
  simp only [CodeUnit.isLeading, CodeUnit.isTrailing, Bool.and_eq_false_iff, decide_eq_false_iff_not] at alone whole
  have low : ¬ (0xDC00 ≤ u.value ∧ u.value ≤ 0xDFFF) := by omega
  have single : u.value < 0xD800 ∨ 0xDBFF < u.value := by omega
  simp [readPoint, readUnit_digits, bind, Except.bind, low, single, pure, Except.pure]

theorem readPoint_trailing {u : CodeUnit} (trailing : u.isTrailing = true) (rest : List UInt8) :
    readPoint (u.a.byte :: u.b.byte :: u.c.byte :: u.d.byte :: rest) = .error .loneSurrogate := by
  have low : 0xDC00 ≤ u.value ∧ u.value ≤ 0xDFFF := by simpa [CodeUnit.isTrailing] using trailing
  simp [readPoint, readUnit_digits, bind, Except.bind, low, throw, throwThe, MonadExceptOf.throw]

theorem readPoint_pair {u : CodeUnit} (leading : u.isLeading = true) (v : CodeUnit) (rest : List UInt8) :
    readPoint (u.a.byte :: u.b.byte :: u.c.byte :: u.d.byte :: 92 :: 117 :: v.a.byte :: v.b.byte :: v.c.byte ::
        v.d.byte :: rest)
      = if v.isTrailing then .ok (String.utf8EncodeChar (u.pair v), rest) else .error .loneSurrogate := by
  have high : 0xD800 ≤ u.value ∧ u.value ≤ 0xDBFF := by simpa [CodeUnit.isLeading] using leading
  have low : ¬ (0xDC00 ≤ u.value ∧ u.value ≤ 0xDFFF) := by omega
  have half : ¬ (u.value < 0xD800 ∨ 0xDBFF < u.value) := by omega
  by_cases trailing : v.isTrailing = true
  · have fits : ¬ (v.value < 0xDC00 ∨ 0xDFFF < v.value) := by
      simp only [CodeUnit.isTrailing, Bool.and_eq_true, decide_eq_true_eq] at trailing
      omega
    simp [readPoint, readUnit_digits, bind, Except.bind, low, half, fits, trailing, pure, Except.pure, encodePoint,
      CodeUnit.pair]
  · have misfit : v.value < 0xDC00 ∨ 0xDFFF < v.value := by
      simp only [CodeUnit.isTrailing, Bool.and_eq_true, decide_eq_true_eq] at trailing
      omega
    simp [readPoint, readUnit_digits, bind, Except.bind, low, half, misfit, trailing, throw, throwThe,
      MonadExceptOf.throw]

/-- The first half of a character with nothing of the other half behind it is refused. -/
theorem readPoint_lone {u : CodeUnit} (leading : u.isLeading = true) {ps : List Piece}
    (lone : ∀ v ps', ps = .unit v :: ps' → False) (rest : List UInt8) :
    ∃ fault, readPoint (u.a.byte :: u.b.byte :: u.c.byte :: u.d.byte :: (ps.flatMap Piece.bytes ++ 34 :: rest))
      = .error fault := by
  have high : 0xD800 ≤ u.value ∧ u.value ≤ 0xDBFF := by simpa [CodeUnit.isLeading] using leading
  have low : ¬ (0xDC00 ≤ u.value ∧ u.value ≤ 0xDFFF) := by omega
  have half : ¬ (u.value < 0xD800 ∨ 0xDBFF < u.value) := by omega
  simp only [readPoint, readUnit_digits, bind, Except.bind, low, half, if_false, pure, Except.pure]
  cases ps with
  | nil => exact ⟨_, rfl⟩
  | cons p ps =>
    cases p with
    | plain c bare =>
      obtain ⟨b, more, bytes⟩ := List.exists_cons_of_ne_nil (String.utf8EncodeChar_ne_nil (c := c))
      have backslash : b ≠ 92 := (bare_of_mem_plain bare (by simp [bytes])).2.1
      simp only [List.flatMap_cons, Piece.bytes, bytes, List.cons_append]
      split
      · simp_all
      · simp_all
      · simp_all
      · exact ⟨_, rfl⟩
    | escape e => cases e <;> exact ⟨_, rfl⟩
    | unit v => exact (lone v ps rfl).elim

theorem readEscape_letter (e : Escape) (rest : List UInt8) :
    readEscape (e.letter :: rest) = .ok (String.utf8EncodeChar e.char, rest) := by
  cases e <;> rfl

/-- Behind a backslash, reading goes on after the escape. -/
theorem readTextBytes_backslash (f : UInt8) (fuel before rest : List UInt8) :
    readTextBytes (f :: fuel) before (92 :: rest)
      = (readEscape rest).bind fun r => readTextBytes fuel (r.1.reverse ++ before) r.2 := rfl

/-- Reading up to the closing quote gives what the pieces stand for, if they stand for something. -/
theorem readTextBytes_pieces (rest : List UInt8) (ps : List Piece) :
    ∀ fuel before : List UInt8, (ps.flatMap Piece.bytes).length < fuel.length →
      (readTextBytes fuel before (ps.flatMap Piece.bytes ++ 34 :: rest)).toOption
        = (Literal.chars? ps).map fun cs => (before.reverse ++ cs.flatMap String.utf8EncodeChar, rest) := by
  fun_induction Literal.chars? ps with
  | case1 =>
    intro fuel before enough
    obtain ⟨f, fuel, rfl⟩ := List.exists_cons_of_length_pos (Nat.zero_lt_of_lt enough)
    simp [readTextBytes, Except.toOption]
  | case2 c bare ps ih =>
    intro fuel before enough
    simp only [List.flatMap_cons, Piece.bytes, List.length_append] at enough
    have bytes : ∀ b ∈ String.utf8EncodeChar c, Bare b := fun b => bare_of_mem_plain bare
    rw [List.flatMap_cons, Piece.bytes, List.append_assoc, readTextBytes_bare _ bytes _ _ (by omega),
      ih _ _ (by rw [List.length_drop]; omega)]
    cases Literal.chars? ps <;> simp
  | case3 e ps ih =>
    intro fuel before enough
    obtain ⟨f, fuel, rfl⟩ := List.exists_cons_of_length_pos (Nat.zero_lt_of_lt enough)
    simp only [List.flatMap_cons, Piece.bytes, List.cons_append, List.nil_append, List.length_cons] at enough ⊢
    rw [readTextBytes_backslash, readEscape_letter, Except.bind, ih _ _ (by omega)]
    cases Literal.chars? ps <;> simp
  | case4 u v ps leading trailing ih =>
    intro fuel before enough
    obtain ⟨f, fuel, rfl⟩ := List.exists_cons_of_length_pos (Nat.zero_lt_of_lt enough)
    simp only [List.flatMap_cons, Piece.bytes, List.cons_append, List.nil_append, List.length_cons] at enough ⊢
    rw [readTextBytes_backslash, readEscape, readPoint_pair leading, if_pos trailing, Except.bind, ih _ _ (by omega)]
    cases Literal.chars? ps <;> simp
  | case5 u v ps leading misfit =>
    intro fuel before enough
    obtain ⟨f, fuel, rfl⟩ := List.exists_cons_of_length_pos (Nat.zero_lt_of_lt enough)
    simp only [List.flatMap_cons, Piece.bytes, List.cons_append, List.nil_append]
    rw [readTextBytes_backslash, readEscape, readPoint_pair leading, if_neg misfit]
    rfl
  | case6 u v ps alone trailing =>
    intro fuel before enough
    obtain ⟨f, fuel, rfl⟩ := List.exists_cons_of_length_pos (Nat.zero_lt_of_lt enough)
    simp only [List.flatMap_cons, Piece.bytes, List.cons_append, List.nil_append]
    rw [readTextBytes_backslash, readEscape, readPoint_trailing trailing]
    rfl
  | case7 u v ps alone whole ih =>
    intro fuel before enough
    obtain ⟨f, fuel, rfl⟩ := List.exists_cons_of_length_pos (Nat.zero_lt_of_lt enough)
    rw [List.flatMap_cons] at enough ⊢
    simp only [Piece.bytes, List.cons_append, List.nil_append, List.length_cons] at enough ⊢
    rw [readTextBytes_backslash, readEscape, readPoint_single (by simpa using alone) (by simpa using whole), Except.bind,
      ih _ _ (by omega)]
    cases Literal.chars? (.unit v :: ps) <;> simp [encodePoint]
  | case8 u ps single surrogate =>
    intro fuel before enough
    obtain ⟨f, fuel, rfl⟩ := List.exists_cons_of_length_pos (Nat.zero_lt_of_lt enough)
    rw [List.flatMap_cons, Piece.bytes]
    simp only [List.cons_append, List.nil_append]
    have refused : ∃ fault, readPoint (u.a.byte :: u.b.byte :: u.c.byte :: u.d.byte ::
        (ps.flatMap Piece.bytes ++ 34 :: rest)) = .error fault := by
      rcases Bool.or_eq_true_iff.mp surrogate with leading | trailing
      · exact readPoint_lone leading single rest
      · exact ⟨_, readPoint_trailing trailing _⟩
    obtain ⟨fault, refused⟩ := refused
    rw [readTextBytes_backslash, readEscape, refused]
    rfl
  | case9 u ps single whole ih =>
    intro fuel before enough
    obtain ⟨f, fuel, rfl⟩ := List.exists_cons_of_length_pos (Nat.zero_lt_of_lt enough)
    obtain ⟨alone, whole⟩ : u.isLeading = false ∧ u.isTrailing = false := by simpa using whole
    rw [List.flatMap_cons] at enough ⊢
    simp only [Piece.bytes, List.cons_append, List.nil_append, List.length_cons] at enough ⊢
    rw [readTextBytes_backslash, readEscape, readPoint_single alone whole, Except.bind, ih _ _ (by omega)]
    cases Literal.chars? ps <;> simp [encodePoint]

/-- A text reads as what it stands for, if it stands for something. -/
theorem readText_pieces (l : Literal) (rest : List UInt8) :
    (readText (l.pieces.flatMap Piece.bytes ++ 34 :: rest)).toOption = l.text?.map (·, rest) := by
  have read := readTextBytes_pieces rest l.pieces (l.pieces.flatMap Piece.bytes ++ 34 :: rest) []
    (by simp only [List.length_append, List.length_cons]; omega)
  rw [readText, Literal.text?]
  cases chars : Literal.chars? l.pieces with
  | none =>
    rw [chars] at read
    cases bytes : readTextBytes (l.pieces.flatMap Piece.bytes ++ 34 :: rest) []
      (l.pieces.flatMap Piece.bytes ++ 34 :: rest) with
    | error fault => rfl
    | ok r =>
      rw [bytes] at read
      cases read
  | some cs =>
    rw [chars] at read
    cases bytes : readTextBytes (l.pieces.flatMap Piece.bytes ++ 34 :: rest) []
      (l.pieces.flatMap Piece.bytes ++ 34 :: rest) with
    | error fault =>
      rw [bytes] at read
      cases read
    | ok r =>
      rw [bytes] at read
      cases read
      have text : Text.ofBytes? (cs.flatMap String.utf8EncodeChar) = some (String.ofList cs) := by
        rw [Text.ofBytes?_eq_some_iff, Text.toBytes_eq_flatMap, String.toList_ofList]
      simp [bind, Except.bind, text, pure, Except.pure, Except.toOption]

end NodeTelemetry.Json
