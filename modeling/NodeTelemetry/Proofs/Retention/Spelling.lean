import NodeTelemetry.Proofs.Retention.Names

/-!
# How the names of snapshot files are spelled

A name is read as that of a finished file exactly when it spells the file: digits
that denote the time, a dash, the id and the extension. There may be zeros in front
of the digits, so a file has many spellings. The one under which it is written is the
one whose digits are canonical.
-/

namespace NodeTelemetry.Retention.FileName

/-- A spelling of a file, with the digits that stand for its time. -/
structure Spells (n : Name) (m : FileName) (ds : List Char) : Prop where
  time : Text.Denotes ds m.time.toNat
  named : m.instanceId ≠ ""
  spelled : n = Name.ofText (String.ofList (ds ++ '-' :: m.instanceId.toList ++ ".json".toList))

theorem eq_append_of_withoutEnd? {tail s stem : List Char} (cut : withoutEnd? tail s = some stem) : s = stem ++ tail := by
  unfold withoutEnd? at cut
  split at cut
  · next ends =>
    obtain ⟨front, rfl⟩ := List.isSuffixOf_iff_suffix.mp ends
    have same : front = stem := by simpa using cut
    rw [same]
  · cases cut

/-- What is read as a file is digits, a dash, an id and the extension. -/
theorem denotes_of_ofChars? {s : List Char} {m : FileName} (read : ofChars? s = some m) :
    ∃ ds, Text.Denotes ds m.time.toNat ∧ m.instanceId ≠ "" ∧ s = ds ++ '-' :: m.instanceId.toList ++ extension := by
  unfold ofChars? at read
  by_cases marked : tempMark.isPrefixOf s = true
  · rw [if_pos marked] at read
    cases read
  rw [if_neg marked] at read
  obtain ⟨stem, cut, read⟩ := Option.bind_eq_some_iff.mp read
  have parts : stem.takeWhile (· ≠ '-') ++ stem.dropWhile (· ≠ '-') = stem := List.takeWhile_append_dropWhile
  generalize digits : stem.takeWhile (· ≠ '-') = ds at read parts
  generalize remaining : stem.dropWhile (· ≠ '-') = rest at read parts
  match rest, read with
  | dash :: c :: id, read =>
    have isDash : dash = '-' := by
      have first := List.head?_dropWhile_not (fun c : Char => decide (c ≠ '-')) stem
      rw [remaining] at first
      simpa using first
    subst isDash
    by_cases unfit : (ds.isEmpty || !ds.all Text.isDecimal) = true
    · simp only [if_pos unfit] at read
      cases read
    simp only [if_neg unfit] at read
    split at read
    · next time number =>
      cases read
      have filled : ds ≠ [] := by
        rintro rfl
        exact unfit rfl
      obtain ⟨denoted, fits⟩ := (Text.Denotes.read_iff filled).mp number
      refine ⟨ds, ?_, ?_, ?_⟩
      · have same : (UInt64.ofNat time).toNat = time := UInt64.toNat_ofNat_of_lt' fits
        rwa [same]
      · intro none
        cases String.ofList_eq_empty_iff.mp none
      · rw [eq_append_of_withoutEnd? cut, ← parts, String.toList_ofList]
    · cases read

theorem ofName?_eq_some_iff {n : Name} {m : FileName} : ofName? n = some m ↔ ∃ ds, Spells n m ds := by
  constructor
  · intro read
    obtain ⟨text, isText, chars⟩ := Option.bind_eq_some_iff.mp read
    obtain ⟨ds, denoted, named, spelled⟩ := denotes_of_ofChars? chars
    refine ⟨ds, denoted, named, ?_⟩
    rw [Name.text?_eq_some_iff.mp isText]
    exact congrArg Name.ofText (String.toList_inj.mp (by simpa [extension] using spelled))
  · rintro ⟨ds, denoted, named, rfl⟩
    have read := ofChars?_of_denotes denoted named
    simpa [ofName?, extension] using read

/-- A spelling is the one under which the file is written exactly when its digits are canonical. -/
theorem Spells.eq_text_iff {n : Name} {m : FileName} {ds : List Char} (spells : Spells n m ds) :
    Name.ofText m.text = n ↔ Text.Canonical ds := by
  rw [spells.time.canonical_iff, spells.spelled]
  constructor
  · intro same
    have texts := congrArg (fun t => t.map String.toList) (congrArg Name.text? same)
    simp only [Name.text?_ofText, Option.map_some, Option.some.injEq, text, chars, String.toList_ofList,
      extension, List.append_assoc, List.cons_append] at texts
    exact (List.append_cancel_right texts).symm
  · rintro rfl
    rfl

/-- Every file that can stand in a directory has its name read back and its temporary name passed
    over, and a name is read as a file exactly when it spells it. -/
theorem read_exactly (m : FileName) :
    (Nameable m.instanceId →
      Path.ofText m.text = ⟨[Name.ofText m.text]⟩ ∧ ofName? (Name.ofText m.text) = some m ∧
      Path.ofText m.tempText = ⟨[Name.ofText m.tempText]⟩ ∧ ofName? (Name.ofText m.tempText) = none) ∧
    ∀ n : Name, (ofName? n = some m ↔ ∃ ds, Spells n m ds) ∧
      ∀ ds, Spells n m ds → (Name.ofText m.text = n ↔ Text.Canonical ds) := by
  refine ⟨?_, fun n => ⟨ofName?_eq_some_iff, fun ds spells => spells.eq_text_iff⟩⟩
  rintro ⟨named, plain⟩
  have mark : '/' ∉ tempMark := by decide
  refine ⟨?_, ofName?_text named, ?_, ofName?_tempText m⟩
  · exact ofText_of_no_slash (by simp [text, slash_not_mem_chars plain])
  · exact ofText_of_no_slash (by simp [tempText, mark, slash_not_mem_chars plain])

/-- The marks of a name may stand in the id, and zeros in front of the time are passed over. -/
theorem read_exactly_seven :
    Nameable "a-b.json.tmp-c" ∧
    ofName? (Name.ofText (text ⟨7, "a-b.json.tmp-c"⟩)) = some ⟨7, "a-b.json.tmp-c"⟩ ∧
    ofName? (Name.ofText (tempText ⟨7, "a-b.json.tmp-c"⟩)) = none ∧
    ofName? (Name.ofText "007-a-b.json.tmp-c.json") = some ⟨7, "a-b.json.tmp-c"⟩ ∧
    Name.ofText (text ⟨7, "a-b.json.tmp-c"⟩) ≠ Name.ofText "007-a-b.json.tmp-c.json" := by
  obtain ⟨written, spelled⟩ := read_exactly ⟨7, "a-b.json.tmp-c"⟩
  obtain ⟨-, readsBack, -, passedOver⟩ := written (by decide)
  have zeros : Spells (Name.ofText "007-a-b.json.tmp-c.json") ⟨7, "a-b.json.tmp-c"⟩ ['0', '0', '7'] :=
    ⟨⟨by decide, List.all_eq_true.mp (by decide), by decide⟩, by decide, rfl⟩
  obtain ⟨read_iff, own_iff⟩ := spelled (Name.ofText "007-a-b.json.tmp-c.json")
  refine ⟨by decide, readsBack, passedOver, read_iff.mpr ⟨_, zeros⟩, ?_⟩
  intro same
  exact absurd ((own_iff _ zeros).mp same) (by decide)

end NodeTelemetry.Retention.FileName
