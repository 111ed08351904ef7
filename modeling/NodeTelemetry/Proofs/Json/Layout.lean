import Mathlib.Tactic.SplitIfs
import NodeTelemetry.Json.Value
import NodeTelemetry.Proofs.Text.Codec
import NodeTelemetry.Snapshot.Printer

/-!
# What is written is what the readers find

A text that is written with its escapes reads as that text, whatever follows it.
The steps to the next item of a list and to the next key of an object pass over
any blanks, and with that a list of texts that is written one item a line reads
as that list.
-/

namespace NodeTelemetry.Json

open Snapshot (escapeByte stringBytes newLine lines)

/-! ## Blanks -/

/-- Bytes that may stand between tokens. -/
def Blanks (w : List UInt8) : Prop := ∀ b ∈ w, isSpace b = true

theorem blanks_nil : Blanks [] := by simp [Blanks]

theorem blanks_newLine (depth : Nat) : Blanks (newLine depth) := by
  intro b member
  rcases List.mem_cons.mp member with rfl | space
  · rfl
  · rw [List.eq_of_mem_replicate space]
    rfl

/-- The next token begins after the blanks. -/
theorem skipSpace_blanks {w rest : List UInt8} {b : UInt8} (blank : Blanks w) (ink : isSpace b = false) :
    skipSpace (w ++ b :: rest) = b :: rest := by
  induction w with
  | nil => simp [skipSpace, ink]
  | cons c w ih =>
    obtain ⟨space, later⟩ := List.forall_mem_cons.mp blank
    simpa [skipSpace, space] using ih later

theorem skipSpace_cons {b : UInt8} (rest : List UInt8) (ink : isSpace b = false) : skipSpace (b :: rest) = b :: rest :=
  skipSpace_blanks blanks_nil ink

/-! ## Texts -/

theorem hexByte?_hexDigit {d : Nat} (h : d < 16) : hexByte? (Text.hexDigit d).toUInt8 = some d := by
  have each : ∀ e : Fin 16, hexByte? (Text.hexDigit e.val).toUInt8 = some e.val := by decide
  exact each ⟨d, h⟩

/-- The code point of a byte below 128 is written as that byte. -/
theorem encodePoint_ascii {b : UInt8} (ascii : b.toNat < 128) : encodePoint b.toNat = [b] := by
  have each : ∀ n : Fin 128, encodePoint n.val = [UInt8.ofNat n.val] := by decide +kernel
  simpa using each ⟨b.toNat, ascii⟩

/-- The escape of a control character reads as that character. -/
theorem readPoint_control {b : UInt8} (control : b < 32) (rest : List UInt8) :
    readPoint (48 :: 48 :: (Text.hexDigit (b.toNat / 16)).toUInt8 :: (Text.hexDigit (b.toNat % 16)).toUInt8 :: rest)
      = .ok ([b], rest) := by
  have small : b.toNat < 32 := UInt8.lt_iff_toNat_lt.mp control
  have unit : readUnit (48 :: 48 :: (Text.hexDigit (b.toNat / 16)).toUInt8
      :: (Text.hexDigit (b.toNat % 16)).toUInt8 :: rest) = .ok (b.toNat, rest) := by
    have zero : hexByte? 48 = some 0 := rfl
    have whole : ((0 * 16 + 0) * 16 + b.toNat / 16) * 16 + b.toNat % 16 = b.toNat := by omega
    simp only [readUnit, zero, hexByte?_hexDigit (d := b.toNat / 16) (by omega),
      hexByte?_hexDigit (d := b.toNat % 16) (by omega), whole]
  have low : ¬ (0xDC00 ≤ b.toNat ∧ b.toNat ≤ 0xDFFF) := by omega
  have alone : b.toNat < 0xD800 ∨ 0xDBFF < b.toNat := by omega
  simp only [readPoint, unit, bind, Except.bind, low, alone, if_true, if_false, pure, Except.pure,
    encodePoint_ascii (Nat.lt_trans small (by decide))]

/-- One step of the reader takes what was written for one byte. -/
theorem readTextBytes_escapeByte (b f : UInt8) (fuel before rest : List UInt8) :
    readTextBytes (f :: fuel) before (escapeByte b ++ rest) = readTextBytes fuel (b :: before) rest := by
  unfold escapeByte
  split_ifs with quote backslash back form line carriage tab control
  · subst quote; rfl
  · subst backslash; rfl
  · subst back; rfl
  · subst form; rfl
  · subst line; rfl
  · subst carriage; rfl
  · subst tab; rfl
  · have escape : ∀ s, readEscape (117 :: s) = readPoint s := fun _ => rfl
    simp only [List.cons_append, List.nil_append, readTextBytes, escape, readPoint_control control, bind, Except.bind,
      List.reverse_singleton]
    rfl
  · simp [readTextBytes, quote, backslash, control]

theorem escapeByte_ne_nil (b : UInt8) : escapeByte b ≠ [] := by
  unfold escapeByte
  split_ifs <;> simp

/-- Reading up to the closing quote gives back the bytes that were escaped. -/
theorem readTextBytes_escaped (bytes rest : List UInt8) :
    ∀ fuel before : List UInt8, bytes.length < fuel.length →
      readTextBytes fuel before (bytes.flatMap escapeByte ++ 34 :: rest) = .ok (before.reverse ++ bytes, rest) := by
  induction bytes with
  | nil =>
    intro fuel before enough
    obtain ⟨f, fuel, rfl⟩ := List.exists_cons_of_length_pos (Nat.zero_lt_of_lt enough)
    simp [readTextBytes]
  | cons b bytes ih =>
    intro fuel before enough
    obtain ⟨f, fuel, rfl⟩ := List.exists_cons_of_length_pos (Nat.zero_lt_of_lt enough)
    rw [List.flatMap_cons, List.append_assoc, readTextBytes_escapeByte, ih _ _ (by simpa using enough)]
    simp

theorem length_le_escaped (bytes : List UInt8) : bytes.length ≤ (bytes.flatMap escapeByte).length := by
  induction bytes with
  | nil => simp
  | cons b bytes ih =>
    have := List.length_pos_iff.mpr (escapeByte_ne_nil b)
    simp only [List.flatMap_cons, List.length_append, List.length_cons]
    omega

/-- A text is written as a quote and what reads as the text after an opening quote. -/
theorem exists_stringBytes (s : String) :
    ∃ body, (∀ rest, stringBytes s ++ rest = 34 :: (body ++ rest)) ∧ ∀ rest, readText (body ++ rest) = .ok (s, rest) := by
  refine ⟨(Text.toBytes s).flatMap escapeByte ++ [34], by simp [stringBytes], ?_⟩
  intro rest
  have enough : (Text.toBytes s).length < ((Text.toBytes s).flatMap escapeByte ++ 34 :: rest).length := by
    have := length_le_escaped (Text.toBytes s)
    simp only [List.length_append, List.length_cons]
    omega
  rw [List.append_assoc, List.singleton_append, readText, readTextBytes_escaped _ _ _ _ enough]
  simp [bind, Except.bind, pure, Except.pure]

/-- A text is read where one is wanted. -/
theorem readString_stringBytes {w : List UInt8} (blank : Blanks w) (wanted s : String) (rest : List UInt8) :
    readString wanted (w ++ (stringBytes s ++ rest)) = .ok (s, rest) := by
  obtain ⟨body, written, read⟩ := exists_stringBytes s
  rw [written, readString, skipSpace_blanks blank (by rfl)]
  simp [read]

theorem readOptionalString_stringBytes {w : List UInt8} (blank : Blanks w) (wanted s : String) (rest : List UInt8) :
    readOptionalString wanted (w ++ (stringBytes s ++ rest)) = .ok (some s, rest) := by
  have text := readString_stringBytes blanks_nil wanted s rest
  obtain ⟨body, written, -⟩ := exists_stringBytes s
  rw [List.nil_append, written] at text
  rw [written, readOptionalString, skipSpace_blanks blank (by rfl)]
  simp [text, bind, Except.bind, pure, Except.pure]

/-- A text is a value, however many brackets are open. -/
theorem readValueWith_stringBytes {w : List UInt8} (blank : Blanks w) (fuel room : Nat) (s : String) (rest : List UInt8) :
    readValueWith (fuel + 1) room (w ++ (stringBytes s ++ rest)) = .ok (.text s, rest) := by
  obtain ⟨body, written, read⟩ := exists_stringBytes s
  rw [written, readValueWith, skipSpace_blanks blank (by rfl)]
  simp [read, bind, Except.bind, pure, Except.pure]

theorem readValue_stringBytes {w : List UInt8} (blank : Blanks w) (opened : Nat) (s : String) (rest : List UInt8) :
    readValue opened (w ++ (stringBytes s ++ rest)) = .ok (.text s, rest) :=
  readValueWith_stringBytes blank _ _ s rest

/-- The digits of a word read as that word. -/
theorem readStoredWord_repr {w : List UInt8} (blank : Blanks w) (opened : Nat) (n : UInt64) (rest : List UInt8) :
    readStoredWord opened (w ++ (stringBytes n.toNat.repr ++ rest)) = .ok (n, rest) := by
  have word : Text.readWord (Nat.toDigits 10 n.toNat) = .ok n := Text.readWord_digits n
  simp [readStoredWord, readValue_stringBytes blank, word, bind, Except.bind, pure, Except.pure]

theorem readStoredFlag_true {w : List UInt8} (blank : Blanks w) (opened : Nat) (rest : List UInt8) :
    readStoredFlag opened (w ++ (stringBytes "true" ++ rest)) = .ok (true, rest) := by
  simp [readStoredFlag, readValue_stringBytes blank, bind, Except.bind, pure, Except.pure]

/-! ## Items and members -/

/-- The comma before an item that is not the first one. -/
def separator (first : Bool) : List UInt8 := if first then [] else [44]

/-- Items one a line, each after the comma that separates it from the one before. -/
def laid (depth : Nat) : Bool → List (List UInt8) → List UInt8
  | _, [] => []
  | first, item :: items => separator first ++ newLine depth ++ item ++ laid depth false items

theorem lines_eq_laid (depth : Nat) (items : List (List UInt8)) : lines depth items = laid depth true items := by
  induction items with
  | nil => rfl
  | cons item items ih =>
    cases items with
    | nil => simp [lines, laid, separator]
    | cons next items =>
      have later : laid depth false (next :: items) = 44 :: laid depth true (next :: items) := by
        simp [laid, separator]
      rw [laid, later, ← ih]
      simp [lines, separator]

theorem length_le_laid (depth : Nat) (items : List (List UInt8)) :
    ∀ first : Bool, items.length ≤ (laid depth first items).length := by
  induction items with
  | nil => simp
  | cons item items ih =>
    intro first
    have := ih false
    simp only [laid, newLine, List.length_append, List.length_cons]
    omega

/-- The step to an item passes over the comma and the blanks before it. -/
theorem nextItem_stringBytes {w : List UInt8} (blank : Blanks w) (first : Bool) (s : String) (rest : List UInt8) :
    nextItem first (separator first ++ (w ++ (stringBytes s ++ rest))) = .ok (true, stringBytes s ++ rest) := by
  obtain ⟨body, written, -⟩ := exists_stringBytes s
  rw [written]
  cases first with
  | true => simp [separator, nextItem, skipSpace_blanks blank (show isSpace 34 = false from rfl)]
  | false =>
    simp [separator, nextItem, skipSpace_cons _ (show isSpace 44 = false from rfl),
      skipSpace_blanks blank (show isSpace 34 = false from rfl)]

theorem nextItem_end {w : List UInt8} (blank : Blanks w) (first : Bool) (rest : List UInt8) :
    nextItem first (w ++ 93 :: rest) = .ok (false, rest) := by
  simp [nextItem, skipSpace_blanks blank (show isSpace 93 = false from rfl)]

/-- The step to a member passes over the comma and the blanks before it and reads its key. -/
theorem nextKey_stringBytes {w : List UInt8} (blank : Blanks w) (first : Bool) (key : String) (rest : List UInt8) :
    nextKey first (separator first ++ (w ++ (stringBytes key ++ rest))) = .ok (some key, rest) := by
  obtain ⟨body, written, read⟩ := exists_stringBytes key
  rw [written]
  cases first with
  | true =>
    simp [separator, nextKey, skipSpace_blanks blank (show isSpace 34 = false from rfl), read, bind, Except.bind, pure,
      Except.pure]
  | false =>
    simp [separator, nextKey, skipSpace_cons _ (show isSpace 44 = false from rfl),
      skipSpace_blanks blank (show isSpace 34 = false from rfl), read, bind, Except.bind, pure, Except.pure]

theorem nextKey_end {w : List UInt8} (blank : Blanks w) (first : Bool) (rest : List UInt8) :
    nextKey first (w ++ 125 :: rest) = .ok (none, rest) := by
  simp [nextKey, skipSpace_blanks blank (show isSpace 125 = false from rfl)]

theorem readColon_cons (rest : List UInt8) : readColon (58 :: rest) = .ok rest := by
  simp [readColon, skipSpace_cons _ (show isSpace 58 = false from rfl)]

/-- Texts one a line are read up to the closing bracket. -/
theorem readStringItems_laid (depth : Nat) {w : List UInt8} (blank : Blanks w) (rest : List UInt8) (items : List String) :
    ∀ (fuel : List UInt8) (first : Bool) (before : List String), items.length < fuel.length →
      readStringItems fuel first before (laid depth first (items.map stringBytes) ++ (w ++ 93 :: rest))
        = .ok (before.reverse ++ items, rest) := by
  induction items with
  | nil =>
    intro fuel first before enough
    obtain ⟨f, fuel, rfl⟩ := List.exists_cons_of_length_pos (Nat.zero_lt_of_lt enough)
    simp [laid, readStringItems, nextItem_end blank, bind, Except.bind, pure, Except.pure]
  | cons item items ih =>
    intro fuel first before enough
    obtain ⟨f, fuel, rfl⟩ := List.exists_cons_of_length_pos (Nat.zero_lt_of_lt enough)
    have text := readString_stringBytes blanks_nil "a string" item
      (laid depth false (items.map stringBytes) ++ (w ++ 93 :: rest))
    rw [List.nil_append] at text
    simp only [List.map_cons, laid, List.append_assoc, readStringItems, nextItem_stringBytes (blanks_newLine depth), bind,
      Except.bind, if_true, text]
    rw [ih fuel false (item :: before) (by simpa using enough)]
    simp

end NodeTelemetry.Json
