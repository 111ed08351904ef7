import NodeTelemetry.Proofs.Json.Numbers
import NodeTelemetry.Proofs.Json.Reading

/-!
# Reading values

For each reader of a value that a record may ask for, this says which values it
takes and what it makes of them. The value stands anywhere in a document: behind
any blanks and in front of anything that does not go on with it.
-/

namespace NodeTelemetry.Json

/-- The text that a value is, if it is one. -/
def Tree.text? : Tree → Option String
  | .text l => l.text?
  | _ => none

/-- The texts of a list of texts. -/
def Tree.texts? : Tree → Option (List String)
  | .list items => items.toList.mapM Tree.text?
  | _ => none

/-- A value that stands for a natural: a text of digits, which may have zeros and a plus sign in front, or
    a number without a sign, a point or an exponent. -/
inductive Tree.IsWord (v : Nat) : Tree → Prop
  | digits {l : Literal} {s : String} (stands : l.text? = some s) (denoted : Text.Denotes s.toList v) : IsWord v (.text l)
  | signed {l : Literal} {s : String} {ds : List Char} (stands : l.text? = some s) (sign : s.toList = '+' :: ds)
      (denoted : Text.Denotes ds v) : IsWord v (.text l)
  | number {n : Numeral} (natural : n.IsNatural v) : IsWord v (.number n)

/-- A value that stands for a flag. -/
inductive Tree.IsFlag : Bool → Tree → Prop
  | flag (b : Bool) : IsFlag b (.flag b)
  | yes {l : Literal} (stands : l.text? = some "true") : IsFlag true (.text l)
  | no {l : Literal} (stands : l.text? = some "false") : IsFlag false (.text l)

theorem readText_eq_ok_iff {l : Literal} {rest rest' : List UInt8} {s : String} :
    readText (l.pieces.flatMap Piece.bytes ++ 34 :: rest) = .ok (s, rest') ↔ l.text? = some s ∧ rest' = rest := by
  have read := readText_pieces l rest
  cases outcome : readText (l.pieces.flatMap Piece.bytes ++ 34 :: rest) with
  | error fault =>
    cases text : l.text? with
    | none => simp
    | some t => simp [outcome, text, Except.toOption] at read
  | ok r =>
    cases text : l.text? with
    | none => simp [outcome, text, Except.toOption] at read
    | some t =>
      obtain rfl : r = (t, rest) := by simpa [outcome, text, Except.toOption] using read
      simp [eq_comm]

section

variable (g : Gap) {rest rest' : List UInt8}

/-! ## Texts -/

theorem readString_tree (wanted : String) {t : Tree} {s : String} :
    readString wanted (g.bytes ++ (t.bytes ++ rest)) = .ok (s, rest') ↔ t.text? = some s ∧ rest' = rest := by
  rw [readString, skipSpace_tree]
  by_cases text : ∃ l, t = .text l
  · obtain ⟨l, rfl⟩ := text
    simp [Tree.bytes, Literal.bytes_append, Tree.text?, readText_eq_ok_iff]
  · obtain ⟨b, more, own, opens⟩ := t.exists_bytes
    have other : t.text? = none := by
      cases t with
      | text l => exact absurd ⟨l, rfl⟩ text
      | _ => rfl
    have noQuote : b ≠ 34 := fun quote => text (opens.text quote)
    simp [own, noQuote, other]

/-- A text that stands in front is read as it is behind blanks. -/
theorem readString_bytes (wanted : String) {t : Tree} {s : String} :
    readString wanted (t.bytes ++ rest) = .ok (s, rest') ↔ t.text? = some s ∧ rest' = rest :=
  readString_tree Gap.none wanted

theorem readOptionalString_tree (wanted : String) {t : Tree} {o : Option String} :
    readOptionalString wanted (g.bytes ++ (t.bytes ++ rest)) = .ok (o, rest') ↔
      ((t = .null ∧ o = none) ∨ ∃ s, t.text? = some s ∧ o = some s) ∧ rest' = rest := by
  rw [readOptionalString, skipSpace_tree]
  by_cases null : t = .null
  · subst null
    have word : Tree.null.bytes ++ rest = 110 :: (wordNull ++ rest) := rfl
    have read : readWord wordNull (wordNull ++ rest) = .ok rest := rfl
    simp [word, read, bind, Except.bind, pure, Except.pure, Tree.text?, eq_comm]
  · obtain ⟨b, more, own, opens⟩ := t.exists_bytes
    split
    · next more' bytes =>
      rw [own] at bytes
      exact absurd (opens.null (List.cons.inj bytes).1) null
    · rw [Except.map_fst_eq_ok_iff]
      simp only [readString_bytes, null, false_and, false_or]
      constructor
      · rintro ⟨s, ⟨text, same⟩, shown⟩
        exact ⟨⟨s, text, shown⟩, same⟩
      · rintro ⟨⟨s, text, shown⟩, same⟩
        exact ⟨s, ⟨text, same⟩, shown⟩

/-! ## Values of any kind -/

variable (opened : Nat)

theorem readValue_null : readValue opened (g.bytes ++ (Tree.null.bytes ++ rest)) = .ok (.null, rest) := by
  rw [readValue, readValueWith, skipSpace_tree]
  rfl

theorem readValue_flag (b : Bool) : readValue opened (g.bytes ++ ((Tree.flag b).bytes ++ rest)) = .ok (.flag b, rest) := by
  rw [readValue, readValueWith, skipSpace_tree]
  cases b <;> rfl

theorem readValue_text {l : Literal} {v : Value} :
    readValue opened (g.bytes ++ ((Tree.text l).bytes ++ rest)) = .ok (v, rest') ↔
      ∃ s, (l.text? = some s ∧ rest' = rest) ∧ v = .text s := by
  rw [readValue, readValueWith, skipSpace_tree, Tree.bytes, Literal.bytes_append]
  simp only [if_true, Except.map_fst_eq_ok_iff, readText_eq_ok_iff]

theorem readValue_number {n : Numeral} {v : Value} :
    readValue opened (g.bytes ++ ((Tree.number n).bytes ++ rest)) = .ok (v, rest') ↔
      ∃ m, readNumber n.negative (n.unsignedBytes ++ rest) = .ok (m, rest') ∧ v = .number m := by
  rw [readValue, readValueWith, skipSpace_tree, Tree.bytes, n.bytes_eq]
  cases n.negative with
  | true => exact Except.map_fst_eq_ok_iff
  | false =>
    obtain ⟨d, more, own, digit⟩ := n.exists_unsignedBytes rest
    rw [← Except.map_fst_eq_ok_iff]
    simp only [Bool.false_eq_true, if_false, List.nil_append, own, ne_of_isDigit (c := 34) digit rfl,
      ne_of_isDigit (c := 45) digit rfl, digit, if_true]

theorem readValue_list {items : Items} {v : Value}
    (read : readValue opened (g.bytes ++ ((Tree.list items).bytes ++ rest)) = .ok (v, rest')) :
    ∃ values, v = .list values := by
  rw [readValue, readValueWith, skipSpace_tree, Tree.bytes] at read
  simp only [List.cons_append] at read
  cases room : maxDepth - opened with
  | zero =>
    rw [room] at read
    cases read
  | succ left =>
    rw [room] at read
    obtain ⟨values, -, rfl⟩ := Except.map_fst_eq_ok_iff.mp read
    exact ⟨values, rfl⟩

theorem readValue_object {members : Members} {v : Value}
    (read : readValue opened (g.bytes ++ ((Tree.object members).bytes ++ rest)) = .ok (v, rest')) :
    ∃ values, v = .object values := by
  rw [readValue, readValueWith, skipSpace_tree, Tree.bytes] at read
  simp only [List.cons_append] at read
  cases room : maxDepth - opened with
  | zero =>
    rw [room] at read
    cases read
  | succ left =>
    rw [room] at read
    obtain ⟨values, -, rfl⟩ := Except.map_fst_eq_ok_iff.mp read
    exact ⟨values, rfl⟩

/-- What a tree is read as, and what is left behind it. Nothing is said about the parts of lists and objects. -/
inductive Becomes (rest : List UInt8) : Tree → Value → List UInt8 → Prop
  | null : Becomes rest .null .null rest
  | flag (b : Bool) : Becomes rest (.flag b) (.flag b) rest
  | text {l : Literal} {s : String} (stands : l.text? = some s) : Becomes rest (.text l) (.text s) rest
  | number {n : Numeral} {m : Number} {rest' : List UInt8}
      (read : readNumber n.negative (n.unsignedBytes ++ rest) = .ok (m, rest')) : Becomes rest (.number n) (.number m) rest'
  | list (items : Items) (values : List Value) (rest' : List UInt8) : Becomes rest (.list items) (.list values) rest'
  | object (members : Members) (values : List (String × Value)) (rest' : List UInt8) :
      Becomes rest (.object members) (.object values) rest'

theorem becomes_of_readValue {t : Tree} {v : Value}
    (read : readValue opened (g.bytes ++ (t.bytes ++ rest)) = .ok (v, rest')) : Becomes rest t v rest' := by
  cases t with
  | null =>
    rw [readValue_null] at read
    cases read
    exact .null
  | flag b =>
    rw [readValue_flag] at read
    cases read
    exact .flag b
  | text l =>
    obtain ⟨s, ⟨stands, rfl⟩, rfl⟩ := (readValue_text g opened).mp read
    exact .text stands
  | number n =>
    obtain ⟨m, number, rfl⟩ := (readValue_number g opened).mp read
    exact .number number
  | list items =>
    obtain ⟨values, rfl⟩ := readValue_list g opened read
    exact .list items values rest'
  | object members =>
    obtain ⟨values, rfl⟩ := readValue_object g opened read
    exact .object members values rest'

/-! ## Words and flags -/

theorem readStoredWord_tree {t : Tree} {w : UInt64} (apart : Apart rest) :
    readStoredWord opened (g.bytes ++ (t.bytes ++ rest)) = .ok (w, rest') ↔ t.IsWord w.toNat ∧ rest' = rest := by
  rw [readStoredWord, Except.bind_eq_ok_iff]
  constructor
  · rintro ⟨⟨v, after⟩, read, made⟩
    cases becomes_of_readValue g opened read with
    | @text l s stands =>
      cases word : Text.readWord s.toList with
      | error fault => simp [word, throw, throwThe, MonadExceptOf.throw] at made
      | ok n =>
        obtain ⟨rfl, rfl⟩ : n = w ∧ rest = rest' := by simpa [word, pure, Except.pure] using made
        rcases Text.readWord_eq_ok_iff.mp word with denoted | ⟨ds, sign, denoted⟩
        · exact ⟨.digits stands denoted, rfl⟩
        · exact ⟨.signed stands sign denoted, rfl⟩
    | @number n m _ number =>
      cases m with
      | natural v =>
        obtain ⟨natural, fits, rfl⟩ := (n.readNumber_eq_natural_iff apart).mp number
        cases made
        rw [UInt64.toNat_ofNat_of_lt' fits]
        exact ⟨.number natural, rfl⟩
      | _ => cases made
    | _ => cases made
  · rintro ⟨isWord, rfl⟩
    cases isWord with
    | digits stands denoted =>
      have word := Text.readWord_eq_ok_iff.mpr (.inl denoted)
      exact ⟨_, (readValue_text g opened).mpr ⟨_, ⟨stands, rfl⟩, rfl⟩, by simp [word, pure, Except.pure]⟩
    | signed stands sign denoted =>
      have word := Text.readWord_eq_ok_iff.mpr (.inr ⟨_, sign, denoted⟩)
      exact ⟨_, (readValue_text g opened).mpr ⟨_, ⟨stands, rfl⟩, rfl⟩, by simp [word, pure, Except.pure]⟩
    | @number n natural =>
      have read := (n.readNumber_eq_natural_iff apart).mpr ⟨natural, w.toNat_lt, rfl⟩
      exact ⟨_, (readValue_number g opened).mpr ⟨_, read, rfl⟩, by simp [pure, Except.pure]⟩

theorem readStoredFlag_tree {t : Tree} {b : Bool} :
    readStoredFlag opened (g.bytes ++ (t.bytes ++ rest)) = .ok (b, rest') ↔ t.IsFlag b ∧ rest' = rest := by
  rw [readStoredFlag, Except.bind_eq_ok_iff]
  constructor
  · rintro ⟨⟨v, after⟩, read, made⟩
    cases becomes_of_readValue g opened read with
    | flag b =>
      cases made
      exact ⟨.flag b, rfl⟩
    | text stands =>
      dsimp only at made
      split at made
      · next same =>
        cases same
        cases made
        exact ⟨.yes stands, rfl⟩
      · next same =>
        cases same
        cases made
        exact ⟨.no stands, rfl⟩
      · cases made
      · next same => cases same
      · cases made
    | _ => cases made
  · rintro ⟨isFlag, rfl⟩
    cases isFlag with
    | flag b => exact ⟨_, readValue_flag g opened b, rfl⟩
    | yes stands => exact ⟨_, (readValue_text g opened).mpr ⟨_, ⟨stands, rfl⟩, rfl⟩, rfl⟩
    | no stands => exact ⟨_, (readValue_text g opened).mpr ⟨_, ⟨stands, rfl⟩, rfl⟩, rfl⟩

end

/-! ## Lists of texts -/

/-- The step to an item passes over the comma and the blanks before it. -/
theorem nextItem_tree (first : Bool) (comma before : Gap) (t : Tree) (rest : List UInt8) :
    nextItem first (between first comma before ++ (t.bytes ++ rest)) = .ok (true, t.bytes ++ rest) := by
  obtain ⟨b, more, own, opens⟩ := t.exists_bytes
  have skipped := skipSpace_tree before t rest
  rw [own, List.cons_append] at skipped ⊢
  cases first with
  | true => simp [between, nextItem, skipped, opens.inner]
  | false =>
    simp [between, nextItem, skipSpace_blanks comma.blank (show isSpace 44 = false from rfl), skipped, opens.inner]

theorem readStringItems_tree (texts : List String) (rest rest' : List UInt8) :
    ∀ (items : Items) (fuel : List UInt8) (first : Bool) (before : List String), items.toList.length < fuel.length →
      (readStringItems fuel first before (items.bytes first ++ 93 :: rest) = .ok (texts, rest') ↔
        ∃ later, items.toList.mapM Tree.text? = some later ∧ texts = before.reverse ++ later ∧ rest' = rest)
  | .nil inside, fuel, first, before, enough => by
    obtain ⟨f, fuel, rfl⟩ := List.exists_cons_of_length_pos (Nat.zero_lt_of_lt enough)
    simp [Items.bytes, Items.toList, readStringItems, nextItem_end inside.blank, bind, Except.bind, pure, Except.pure,
      eq_comm]
  | .cons comma gap value items, fuel, first, before, enough => by
    obtain ⟨f, fuel, rfl⟩ := List.exists_cons_of_length_pos (Nat.zero_lt_of_lt enough)
    simp only [Items.toList, List.length_cons, Nat.add_lt_add_iff_right] at enough
    have step : readStringItems (f :: fuel) first before ((Items.cons comma gap value items).bytes first ++ 93 :: rest) =
        readString "a string" (value.bytes ++ (items.bytes false ++ 93 :: rest)) >>= fun r =>
          readStringItems fuel false (r.1 :: before) r.2 := by
      simp [Items.bytes, readStringItems, nextItem_tree, bind, Except.bind]
    rw [step, Except.bind_eq_ok_iff]
    constructor
    · rintro ⟨⟨s, after⟩, text, more⟩
      obtain ⟨stands, rfl⟩ := (readString_bytes _).mp text
      obtain ⟨later, all, rfl, rfl⟩ := (readStringItems_tree texts rest rest' items fuel false (s :: before) enough).mp more
      exact ⟨s :: later, by simp [Items.toList, stands, all], by simp, rfl⟩
    · rintro ⟨later, all, rfl, rfl⟩
      simp only [Items.toList, List.mapM_cons, bind, Option.bind_eq_some_iff, pure, Option.some.injEq] at all
      obtain ⟨s, stands, later, all, rfl⟩ := all
      exact ⟨(s, _), (readString_bytes _).mpr ⟨stands, rfl⟩,
        (readStringItems_tree _ rest' rest' items fuel false (s :: before) enough).mpr ⟨later, all, by simp, rfl⟩⟩

theorem readStrings_tree (g : Gap) {t : Tree} {texts : List String} {rest rest' : List UInt8} :
    readStrings (g.bytes ++ (t.bytes ++ rest)) = .ok (texts, rest') ↔ t.texts? = some texts ∧ rest' = rest := by
  by_cases list : ∃ items, t = .list items
  · obtain ⟨items, rfl⟩ := list
    have bytes : (Tree.list items).bytes ++ rest = 91 :: (items.bytes true ++ 93 :: rest) := by simp [Tree.bytes]
    have enough : items.toList.length < (g.bytes ++ ((Tree.list items).bytes ++ rest)).length := by
      have := items.length_le true
      simp only [bytes, List.length_append, List.length_cons]
      omega
    have read := readStringItems_tree texts rest rest' items _ true [] enough
    rw [readStrings, skipSpace_tree]
    -- the fuel counts the bytes that are taken apart
    generalize g.bytes ++ ((Tree.list items).bytes ++ rest) = fuel at read ⊢
    simp only [bytes, if_true, read, Tree.texts?, List.reverse_nil, List.nil_append]
    constructor
    · rintro ⟨_, all, same, done⟩
      exact ⟨same ▸ all, done⟩
    · rintro ⟨all, done⟩
      exact ⟨texts, all, rfl, done⟩
  · obtain ⟨b, more, own, opens⟩ := t.exists_bytes
    have other : t.texts? = none := by
      cases t with
      | list items => exact absurd ⟨items, rfl⟩ list
      | _ => rfl
    have noBracket : b ≠ 91 := fun bracket => list (opens.list bracket)
    rw [readStrings, skipSpace_tree, own, List.cons_append]
    simp [noBracket, other]

/-! ## Members -/

/-- The step to a member passes over the comma and the blanks before it and reads its key. -/
theorem nextKey_tree (first : Bool) (comma before : Gap) {l : Literal} {key : Option String} {rest rest' : List UInt8} :
    nextKey first (between first comma before ++ (l.bytes ++ rest)) = .ok (key, rest') ↔
      ∃ name, (l.text? = some name ∧ rest' = rest) ∧ key = some name := by
  have skipped := skipSpace_tree before (.text l) rest
  simp only [Tree.bytes, Literal.bytes_append] at skipped
  rw [Literal.bytes_append]
  simp only [← readText_eq_ok_iff, ← Except.map_fst_eq_ok_iff]
  cases first with
  | true => simp only [between, nextKey, skipped, if_true]; rfl
  | false =>
    simp only [between, Bool.false_eq_true, if_false, List.append_assoc, List.cons_append, nextKey,
      skipSpace_blanks comma.blank (show isSpace 44 = false from rfl), skipped, if_true]
    rfl

theorem readColon_gap (colon : Gap) (rest : List UInt8) : readColon (colon.bytes ++ 58 :: rest) = .ok rest := by
  simp [readColon, skipSpace_blanks colon.blank (show isSpace 58 = false from rfl)]

end NodeTelemetry.Json
