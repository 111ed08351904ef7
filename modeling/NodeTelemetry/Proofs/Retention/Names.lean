import NodeTelemetry.Proofs.Disk.Location
import NodeTelemetry.Proofs.Text.Codec
import NodeTelemetry.Retention.Store

/-!
# Whose names

The name of a finished file reads back as its time and its instance, whatever
dashes, digits or endings the id has itself, and the name of a file that is being
written reads as nothing. So every name belongs to one instance at most
(`Owns.unique`). All files of a store lie directly in its directory.
-/

namespace NodeTelemetry

namespace Retention

/-- Ids that can stand in the name of a file. -/
def Nameable (id : String) : Prop := id ≠ "" ∧ '/' ∉ id.toList

instance (id : String) : Decidable (Nameable id) := inferInstanceAs (Decidable (_ ∧ _))

namespace FileName

/-! ## Reading names back -/

theorem withoutEnd?_append (s tail : List Char) : withoutEnd? tail (s ++ tail) = some s := by
  have ends : tail.isSuffixOf (s ++ tail) = true := List.isSuffixOf_iff_suffix.mpr (List.suffix_append s tail)
  have short : (s ++ tail).length - tail.length = s.length := by simp
  rw [withoutEnd?, if_pos ends, short, List.take_left]

theorem not_mem_of_denotes {ds : List Char} {t : Nat} (denoted : Text.Denotes ds t) {c : Char}
    (other : c.isDigit = false) : c ∉ ds := by
  intro member
  simp [denoted.decimal c member] at other

/-- Digits, a dash, an id and the extension are read as the number that the digits denote and that id. -/
theorem ofChars?_of_denotes {ds : List Char} {n : FileName} (denoted : Text.Denotes ds n.time.toNat)
    (named : n.instanceId ≠ "") : ofChars? (ds ++ '-' :: n.instanceId.toList ++ extension) = some n := by
  have finished : tempMark.isPrefixOf (ds ++ '-' :: n.instanceId.toList ++ extension) = false := by
    obtain ⟨c, rest, digits⟩ := List.exists_cons_of_ne_nil denoted.filled
    have other : '.' ≠ c := by
      rintro rfl
      exact not_mem_of_denotes denoted (c := '.') (by decide) (by simp [digits])
    simp [digits, tempMark, List.isPrefixOf, other]
  have stem : withoutEnd? extension (ds ++ '-' :: n.instanceId.toList ++ extension) =
      some (ds ++ '-' :: n.instanceId.toList) := withoutEnd?_append _ _
  have all : ∀ c ∈ ds, (decide (c ≠ '-')) = true := by
    intro c member
    refine decide_eq_true ?_
    rintro rfl
    exact not_mem_of_denotes denoted (by decide) member
  have before : (ds ++ '-' :: n.instanceId.toList).takeWhile (· ≠ '-') = ds := by
    rw [List.takeWhile_append_of_pos all]
    simp
  have after : (ds ++ '-' :: n.instanceId.toList).dropWhile (· ≠ '-') = '-' :: n.instanceId.toList := by
    rw [List.dropWhile_append_of_pos all]
    simp
  obtain ⟨c, id, chars⟩ : ∃ c id, n.instanceId.toList = c :: id := by
    refine List.exists_cons_of_ne_nil fun none => named ?_
    exact String.toList_eq_nil_iff.mp none
  have decimal : ds.all Text.isDecimal = true := List.all_eq_true.mpr denoted.decimal
  have filled : ds.isEmpty = false := by simp [denoted.filled]
  have read := (Text.Denotes.read_iff denoted.filled).mpr ⟨denoted, n.time.toNat_lt⟩
  unfold ofChars?
  simp only [finished, Bool.false_eq_true, if_false, stem, Option.bind_eq_bind, Option.bind_some, before, after]
  rw [chars]
  simp only [filled, decimal, Bool.not_true, Bool.or_self, Bool.false_eq_true, if_false, read]
  rw [← chars, String.ofList_toList, UInt64.ofNat_toNat]

theorem ofChars?_chars {n : FileName} (named : n.instanceId ≠ "") : ofChars? n.chars = some n :=
  ofChars?_of_denotes (Text.Denotes.digits n.time.toNat) named

theorem ofName?_text {n : FileName} (named : n.instanceId ≠ "") : ofName? (Name.ofText n.text) = some n := by
  simp [ofName?, text, ofChars?_chars named]

/-- A file that is being written is not taken for a finished one. -/
theorem ofName?_tempText (n : FileName) : ofName? (Name.ofText n.tempText) = none := by
  simp [ofName?, tempText, ofChars?]

theorem eq_of_text_eq {n m : FileName} (named : n.instanceId ≠ "") (named' : m.instanceId ≠ "")
    (same : Name.ofText n.text = Name.ofText m.text) : n = m := by
  have := ofName?_text named
  rw [same, ofName?_text named'] at this
  exact (Option.some.inj this).symm

theorem eq_of_tempText_eq {n m : FileName} (named : n.instanceId ≠ "") (named' : m.instanceId ≠ "")
    (same : Name.ofText n.tempText = Name.ofText m.tempText) : n = m := by
  have chars : n.chars = m.chars := by
    have texts := congrArg (fun t => t.map String.toList) (congrArg Name.text? same)
    simpa [tempText] using texts
  have := ofChars?_chars named
  rw [chars, ofChars?_chars named'] at this
  exact (Option.some.inj this).symm

/-! ## Names in a path -/

theorem descends_of_dash {s : String} (dash : '-' ∈ s.toList) : (Name.ofText s).Descends := by
  have other {t : String} (plain : '-' ∉ t.toList) : Name.ofText s ≠ Name.ofText t := by
    intro same
    have := congrArg Name.text? same
    simp only [Name.text?_ofText, Option.some.injEq] at this
    exact plain (this ▸ dash)
  have empty : Name.ofText s ≠ .empty := other (t := "") (by decide)
  have here : Name.ofText s ≠ .here := other (t := ".") (by decide)
  have up : Name.ofText s ≠ .up := other (t := "..") (by decide)
  exact ⟨by simp [Path.isStill, empty, here], up⟩

theorem dash_mem_text (n : FileName) : '-' ∈ n.text.toList := by simp [text, chars]

theorem dash_mem_tempText (n : FileName) : '-' ∈ n.tempText.toList := by simp [tempText, chars]

theorem descends_text (n : FileName) : (Name.ofText n.text).Descends := descends_of_dash n.dash_mem_text

theorem descends_tempText (n : FileName) : (Name.ofText n.tempText).Descends := descends_of_dash n.dash_mem_tempText

/-- A name that reads as a finished file leads into a directory. -/
theorem descends_of_ofName? {n : Name} {m : FileName} (read : ofName? n = some m) : n.Descends := by
  have other {s : String} (unread : ofChars? s.toList = none) : n ≠ Name.ofText s := by
    rintro rfl
    simp [ofName?, unread] at read
  have empty : n ≠ .empty := other (s := "") rfl
  have here : n ≠ .here := other (s := ".") rfl
  have up : n ≠ .up := other (s := "..") rfl
  exact ⟨by simp [Path.isStill, empty, here], up⟩

/-- Nor does such a name stand for the top. -/
theorem ne_top_of_ofName? {n : Name} {m : FileName} (read : ofName? n = some m) (loc : Location) :
    n :: loc ≠ Location.top := by
  intro top
  have none : ofName? ⟨[47]⟩ = none := by decide
  rw [(List.cons.inj top).1, none] at read
  cases read

theorem slash_not_mem_chars {n : FileName} (plain : '/' ∉ n.instanceId.toList) : '/' ∉ n.chars := by
  have digits : '/' ∉ Text.digits n.time.toNat := by
    intro member
    have : Text.isDecimal '/' = true := Text.isDecimal_of_mem_digits member
    revert this
    decide
  simp [chars, digits, plain, extension]

end FileName

theorem ofText_of_no_slash {s : String} (plain : '/' ∉ s.toList) : Path.ofText s = ⟨[Name.ofText s]⟩ := by
  refine Path.ofBytes_of_not_mem fun member => plain ?_
  exact Text.mem_toList_of_mem_toBytes (b := 47) rfl (by decide) member

end Retention

namespace Store

open Retention

theorem finalPath_eq_child (s : Store) {n : FileName} (plain : '/' ∉ n.instanceId.toList) :
    s.finalPath n = s.dir.child (Name.ofText n.text) := by
  rw [finalPath, ofText_of_no_slash (by simpa [FileName.text] using FileName.slash_not_mem_chars plain), Path.child]

theorem tempPath_eq_child (s : Store) {n : FileName} (plain : '/' ∉ n.instanceId.toList) :
    s.tempPath n = s.dir.child (Name.ofText n.tempText) := by
  have mark : '/' ∉ tempMark := by decide
  rw [tempPath, ofText_of_no_slash (by simp [FileName.tempText, mark, FileName.slash_not_mem_chars plain]), Path.child]

end Store

namespace Retention

/-! ## Owners -/

/-- The names of the files of an instance: those that read as its finished files, and those under which it
    writes. -/
inductive Owns (id : String) : Name → Prop where
  | finished {n : Name} {m : FileName} (read : FileName.ofName? n = some m) (mine : m.instanceId = id) : Owns id n
  | temp (time : UInt64) : Owns id (Name.ofText (FileName.tempText ⟨time, id⟩))

theorem Owns.final (id : String) (named : id ≠ "") (time : UInt64) : Owns id (Name.ofText (FileName.text ⟨time, id⟩)) :=
  .finished (FileName.ofName?_text named) rfl

/-- No name belongs to two instances. -/
theorem Owns.unique {a b : String} (namedA : a ≠ "") (namedB : b ≠ "") {n : Name} (mine : Owns a n) (yours : Owns b n) :
    a = b := by
  cases mine with
  | finished read isA =>
    cases yours with
    | finished again isB =>
      rw [read] at again
      cases again
      exact isA.symm.trans isB
    | temp time =>
      rw [FileName.ofName?_tempText] at read
      cases read
  | temp time =>
    generalize same : Name.ofText (FileName.tempText ⟨time, a⟩) = n at yours
    cases yours with
    | finished read _ =>
      rw [← same, FileName.ofName?_tempText] at read
      cases read
    | temp time' =>
      have := FileName.eq_of_tempText_eq (n := ⟨time, a⟩) (m := ⟨time', b⟩) namedA namedB same
      exact congrArg FileName.instanceId this

end Retention

end NodeTelemetry
