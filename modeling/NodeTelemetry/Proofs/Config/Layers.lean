import Mathlib
import NodeTelemetry.Proofs.Config.Leaves

/-!
# Layers of a configuration

A layer that sets leaves changes these leaves and no others. That is said once of
settings that are laid over others (`Overlaid`) and shown for one entry of a file
or of the environment; whole layers and layers over each other follow. With it,
every leaf of a configuration that is loaded is that of the environment, else that
of the file, else that of the configuration below (`layered`).
-/

namespace NodeTelemetry

/-! ## Paths of keys -/

namespace Text

/-- A character of ASCII stays in a text in lower case, as its small form. -/
theorem mem_lowerAfter {c : Char} (ascii : c.toNat < 0x80) {s : List Char} (member : c ∈ s) (before : List Char) :
    c.toLower ∈ lowerAfter before s := by
  induction s generalizing before with
  | nil => cases member
  | cons d rest ih =>
    rw [lowerAfter, List.mem_append]
    rcases List.mem_cons.mp member with rfl | later
    · have plain : c ≠ 'Σ' := by
        rintro rfl
        exact absurd ascii (by decide)
      left
      simp [plain, lowerChar, ascii]
    · exact .inr (ih later _)

theorem mem_lowerCase {c : Char} (ascii : c.toNat < 0x80) {s : String} (member : c ∈ s.toList) :
    c.toLower ∈ (lowerCase s).toList := by
  rw [lowerCase, String.toList_ofList]
  exact mem_lowerAfter ascii member []

end Text

namespace KeyStep

/-- A key without marks of a path is one name. -/
theorem pathOf_plain {k : String} (noPoint : '.' ∉ k.toList) (noBracket : '[' ∉ k.toList) : pathOf k = [.name k] := by
  have whole : k.toList.takeWhile isNameChar ++ k.toList.dropWhile isNameChar = k.toList :=
    List.takeWhile_append_dropWhile
  by_cases empty : (k.toList.takeWhile isNameChar).isEmpty = true
  · simp [pathOf, readPath?, readName?, empty]
  · cases rest : k.toList.dropWhile isNameChar with
    | nil =>
      rw [rest, List.append_nil] at whole
      have read : readName? k.toList = some (k, []) := by
        rw [readName?, if_neg empty, rest, whole, String.ofList_toList]
      rw [pathOf, readPath?, read]
      rfl
    | cons c more =>
      have among : c ∈ k.toList := by
        rw [← whole, rest]
        simp
      have point : c ≠ '.' := fun same => noPoint (same ▸ among)
      have bracket : c ≠ '[' := fun same => noBracket (same ▸ among)
      have stuck : readSteps? (more.length + 1) (c :: more) = none := by
        unfold readSteps?
        split
        · next none => cases none
        · next dot => exact absurd (List.cons.inj dot).1 point
        · next open' => exact absurd (List.cons.inj open').1 bracket
        · rfl
      simp [pathOf, readPath?, readName?, empty, rest, stuck]

end KeyStep

/-- The key of a leaf leads to its section and on to the leaf. -/
theorem Leaf.pathOf_key (l : Leaf) : KeyStep.pathOf l.key = [.name l.home.name, .name l.name] := by
  cases l <;> decide +kernel

theorem Section.lowerCase_name (h : Section) : Text.lowerCase h.name = h.name := by
  cases h <;> decide +kernel

theorem Leaf.lowerCase_name (l : Leaf) : Text.lowerCase l.name = l.name := by
  cases l <;> decide +kernel

/-- A key that is the name of a section in some case is one name. -/
theorem Section.pathOf_of_lowerCase {h : Section} {k : String} (same : Text.lowerCase k = h.name) :
    KeyStep.pathOf k = [.name k] := by
  refine KeyStep.pathOf_plain (fun point => ?_) fun bracket => ?_
  · have := Text.mem_lowerCase (by decide) point
    rw [same] at this
    cases h <;> exact absurd this (by decide)
  · have := Text.mem_lowerCase (by decide) bracket
    rw [same] at this
    cases h <;> exact absurd this (by decide)

/-! ## Fields -/

namespace Setting

theorem Sectioned.exists_table {top : Setting} (sectioned : top.Sectioned) : ∃ entries o, top = .table entries o := by
  obtain ⟨_, _, found⟩ := sectioned .server
  cases top with
  | table entries o => exact ⟨entries, o, rfl⟩
  | _ => cases found

/-- Setting one section leaves the others as they were. -/
theorem field?_withField_section {top : Setting} (sectioned : top.Sectioned) (h i : Section) (s : Setting) :
    (top.withField h.name s).field? i.name = if i = h then some s else top.field? i.name := by
  obtain ⟨entries, o, rfl⟩ := sectioned.exists_table
  by_cases same : i = h
  · subst same
    simp [field?_withField_self]
  · have ne : i.name ≠ h.name := by
      cases i <;> cases h <;> first | exact absurd rfl same | decide
    simp [same, field?_withField_of_ne ne]

theorem Sectioned.withField {top : Setting} (sectioned : top.Sectioned) (h : Section) (entries : List (String × Setting))
    (o : Option String) : (top.withField h.name (.table entries o)).Sectioned := by
  intro i
  rw [field?_withField_section sectioned]
  by_cases same : i = h
  · exact ⟨entries, o, by simp [same]⟩
  · simpa [same] using sectioned i

theorem leaf?_withField {top : Setting} (sectioned : top.Sectioned) (h : Section) (s : Setting) (l : Leaf) :
    (top.withField h.name s).leaf? l = if l.home = h then s.field? l.name else top.leaf? l := by
  rw [leaf?, field?_withField_section sectioned]
  split <;> rfl

/-- A setting that takes the place of whatever it is laid over: anything but a table. -/
def Plain (s : Setting) : Prop := ∀ below, s.laidOver below = s

end Setting

theorem Leaf.plain_of_means {l : Leaf} {s : Setting} {v : l.Value} (means : l.Means s v) : s.Plain := by
  have scalar (x : Scalar) (o : Option String) : (Setting.scalar x o).Plain := fun _ => by simp [Setting.laidOver]
  have choice {α : Type} {word : α → String} {a : α} (means : MeansChoice word s a) : s.Plain := by
    obtain ⟨t, o, rfl, -⟩ := means
    exact scalar _ o
  have text {t : String} (means : MeansText s t) : s.Plain := by
    obtain ⟨x, o, rfl, -⟩ := means
    exact scalar x o
  cases l
  case dbPath | logDir | storageEngine | pillarVersion | telemetryDir => exact text means
  case processKind | clusterRole => exact choice means
  case proFeatures =>
    obtain ⟨xs, o, rfl, -⟩ := means
    exact fun _ => by simp [Setting.laidOver]
  case replicaSetState =>
    obtain ⟨m, means, -⟩ := means
    exact choice means
  case replicationId =>
    obtain ⟨t, means, -⟩ := means
    exact text means
  case enabled => cases means <;> exact scalar _ _
  case gracePeriod | scrapeInterval | historyKeepInterval => cases means <;> exact scalar _ _

/-! ## Settings laid over others -/

/-- What becomes of settings when leaves are set: a leaf is as before, unless it is set, and then it is as one
    of its settings. -/
structure Overlaid (sets : Leaf → Setting → Prop) (top after : Setting) : Prop where
  sectioned : after.Sectioned
  leaf : ∀ l, (∃ s, sets l s ∧ after.leaf? l = some s) ∨ ((∀ s, ¬ sets l s) ∧ after.leaf? l = top.leaf? l)

theorem Overlaid.trans {sets sets' : Leaf → Setting → Prop} {a b c : Setting} (first : Overlaid sets a b)
    (second : Overlaid sets' b c) : Overlaid (fun l s => sets l s ∨ sets' l s) a c := by
  refine ⟨second.sectioned, fun l => ?_⟩
  rcases second.leaf l with ⟨s, set, found⟩ | ⟨unset', same'⟩
  · exact .inl ⟨s, .inr set, found⟩
  · rcases first.leaf l with ⟨s, set, found⟩ | ⟨unset, same⟩
    · exact .inl ⟨s, .inl set, same'.trans found⟩
    · exact .inr ⟨fun s => not_or.mpr ⟨unset s, unset' s⟩, same'.trans same⟩

theorem Overlaid.congr {sets sets' : Leaf → Setting → Prop} {a b : Setting} (overlaid : Overlaid sets a b)
    (same : ∀ l s, sets l s ↔ sets' l s) : Overlaid sets' a b := by
  have : sets = sets' := funext fun l => funext fun s => propext (same l s)
  exact this ▸ overlaid

/-- A layer sets what its entries set. -/
theorem overlaid_addLayer {sets : String × Setting → Leaf → Setting → Prop} {layer : List (String × Setting)}
    (each : ∀ e ∈ layer, ∀ top : Setting, top.Sectioned →
      Overlaid (sets e) top (Setting.setAt e.2 (KeyStep.pathOf e.1) top)) :
    ∀ {top : Setting}, top.Sectioned → Overlaid (fun l s => ∃ e ∈ layer, sets e l s) top (top.addLayer layer) := by
  induction layer with
  | nil => exact fun sectioned => ⟨sectioned, fun l => .inr ⟨by simp, rfl⟩⟩
  | cons e layer ih =>
    intro top sectioned
    -- the entries come one over the other, so an induction on the layer has to hold for every setting below
    obtain ⟨here, later⟩ := List.forall_mem_cons.mp each
    have first := here top sectioned
    refine (first.trans (ih later first.sectioned)).congr fun l s => ?_
    simp

/-- A variable sets its leaf. -/
theorem overlaid_variable (l : Leaf) {s : Setting} (plain : s.Plain) {top : Setting} (sectioned : top.Sectioned) :
    Overlaid (fun m t => m = l ∧ t = s) top (Setting.setAt s (KeyStep.pathOf l.key) top) := by
  obtain ⟨entries, o, home⟩ := sectioned l.home
  have set : Setting.setAt s (KeyStep.pathOf l.key) top =
      top.withField l.home.name (.table (Keyed.put l.name s entries) o) := by
    rw [l.pathOf_key]
    simp only [Setting.setAt, Section.lowerCase_name, Leaf.lowerCase_name, home, Option.getD_some, plain _]
    rfl
  rw [set]
  refine ⟨sectioned.withField _ _ _, fun m => ?_⟩
  rw [Setting.leaf?_withField sectioned]
  by_cases same : m = l
  · subst same
    exact .inl ⟨s, ⟨rfl, rfl⟩, by simp [Setting.field?, Keyed.lookup_put_self]⟩
  · refine .inr ⟨fun t both => same both.1, ?_⟩
    split
    · next there =>
      have ne : m.name ≠ l.name := fun name => same (Leaf.eq_of_name name)
      rw [Setting.leaf?, there, home]
      simp [Setting.field?, Keyed.lookup_put_of_ne ne]
    · rfl

/-- A table of plain settings that is laid over a table sets its keys. -/
theorem allLaidOver_plain {es : List (String × Setting)} (plain : ∀ e ∈ es, e.2.Plain) :
    ∀ (entries : List (String × Setting)) (o : Option String), ∃ after,
      Setting.allLaidOver es (.table entries o) = .table after o ∧
      ∀ n, (∃ e ∈ es, Text.lowerCase e.1 = n ∧ after.lookup n = some e.2) ∨
        ((∀ e ∈ es, Text.lowerCase e.1 ≠ n) ∧ after.lookup n = entries.lookup n) := by
  induction es with
  | nil => exact fun entries o => ⟨entries, by simp [Setting.allLaidOver], fun n => .inr ⟨by simp, rfl⟩⟩
  | cons e es ih =>
    intro entries o
    obtain ⟨k, s⟩ := e
    obtain ⟨here, later⟩ := List.forall_mem_cons.mp plain
    obtain ⟨after, laid, leaves⟩ := ih later (Keyed.put (Text.lowerCase k) s entries) o
    refine ⟨after, by simp [Setting.allLaidOver, here _, Setting.withField, laid], fun n => ?_⟩
    rcases leaves n with ⟨e, member, name, found⟩ | ⟨unset, same⟩
    · exact .inl ⟨e, List.mem_cons_of_mem _ member, name, found⟩
    · by_cases name : Text.lowerCase k = n
      · subst name
        exact .inl ⟨(k, s), List.mem_cons_self, rfl, by rw [same, Keyed.lookup_put_self]⟩
      · refine .inr ⟨List.forall_mem_cons.mpr ⟨name, unset⟩, ?_⟩
        rw [same, Keyed.lookup_put_of_ne (Ne.symm name)]

/-- A table of a file that is a section sets the leaves that it has. -/
theorem overlaid_section {h : Section} {k : String} (name : Text.lowerCase k = h.name) {es : List (String × Setting)}
    (plain : ∀ e ∈ es, e.2.Plain) (o : Option String) {top : Setting} (sectioned : top.Sectioned) :
    Overlaid (fun l s => l.home = h ∧ ∃ e ∈ es, Text.lowerCase e.1 = l.name ∧ e.2 = s) top
      (Setting.setAt (.table es o) (KeyStep.pathOf k) top) := by
  obtain ⟨entries, o', home⟩ := sectioned h
  obtain ⟨after, laid, leaves⟩ := allLaidOver_plain plain entries o'
  -- tables are not replaced but merged: what the section held stays where the file says nothing
  have set : Setting.setAt (.table es o) (KeyStep.pathOf k) top = top.withField h.name (.table after o') := by
    rw [Section.pathOf_of_lowerCase name]
    simp [Setting.setAt, name, home, Setting.laidOver, laid]
  rw [set]
  refine ⟨sectioned.withField _ _ _, fun l => ?_⟩
  rw [Setting.leaf?_withField sectioned]
  by_cases there : l.home = h
  · simp only [there, if_true, true_and]
    rcases leaves l.name with ⟨e, member, same, found⟩ | ⟨unset, same⟩
    · exact .inl ⟨e.2, ⟨e, member, same, rfl⟩, found⟩
    · refine .inr ⟨?_, ?_⟩
      · rintro s ⟨e, member, own, -⟩
        exact unset e member own
      · rw [Setting.leaf?, there, home]
        exact same
  · simp [there]

/-! ## The environment -/

theorem Leaf.eq_of_key {l m : Leaf} (same : l.key = m.key) : l = m := by
  cases l <;> cases m <;> first | rfl | exact absurd same (by decide)

namespace Environment

/-- The setting of a variable. -/
def setting (x : String) : Setting := .scalar (value x) (some "the environment")

/-- A variable about a leaf has a value; one that is empty counts as unset. -/
def Sets (environment : List (String × String)) (l : Leaf) (x : String) : Prop :=
  ∃ name, (name, x) ∈ environment ∧ x ≠ "" ∧ key? name = some l.key

/-- The variables about settings are about leaves with a single value, each about another one, and mean
    something for them. All other variables and the empty ones are of no account. -/
structure Proper (environment : List (String × String)) : Prop where
  leaves : ∀ name x key, (name, x) ∈ environment → x ≠ "" → key? name = some key →
    ∃ l : Leaf, l.isScalar = true ∧ key = l.key ∧ ∃ v, l.Means (setting x) v
  once : ∀ l x y, Sets environment l x → Sets environment l y → x = y

/-- What is set means something. -/
theorem Proper.means {environment : List (String × String)} (proper : Proper environment) {l : Leaf} {x : String}
    (set : Sets environment l x) : ∃ v, l.Means (setting x) v := by
  obtain ⟨name, variable', filled, key⟩ := set
  obtain ⟨m, -, same, means⟩ := proper.leaves name x l.key variable' filled key
  exact Leaf.eq_of_key same ▸ means

theorem mem_layer_iff {environment : List (String × String)} {e : String × Setting} :
    e ∈ layer environment ↔
      ∃ name x, (name, x) ∈ environment ∧ x ≠ "" ∧ key? name = some e.1 ∧ e.2 = setting x := by
  obtain ⟨k, s⟩ := e
  simp only [layer, List.mem_filterMap, entry?, Prod.exists]
  refine exists_congr fun name => exists_congr fun x => and_congr_right fun _ => ?_
  by_cases empty : x = ""
  · simp [empty]
  · have filled : x.isEmpty = false := by simpa using empty
    simp only [filled, Bool.false_eq_true, if_false, Option.map_eq_some_iff, Prod.mk.injEq, ne_eq, empty, not_false_iff,
      true_and]
    constructor
    · rintro ⟨_, found, rfl, rfl⟩
      exact ⟨found, rfl⟩
    · rintro ⟨found, rfl⟩
      exact ⟨k, found, rfl, rfl⟩

/-- One variable about a setting, among others that are about none. -/
structure Single (environment : List (String × String)) (name x : String) (l : Leaf) : Prop where
  member : (name, x) ∈ environment
  filled : x ≠ ""
  key : key? name = some l.key
  others : ∀ e ∈ environment, key? e.1 ≠ none → e = (name, x)

theorem Single.sets_iff {environment : List (String × String)} {name x : String} {l : Leaf}
    (single : Single environment name x l) {m : Leaf} {y : String} : Sets environment m y ↔ m = l ∧ y = x := by
  constructor
  · rintro ⟨n, member, -, key⟩
    obtain ⟨rfl, rfl⟩ := Prod.mk.inj (single.others (n, y) member (by simp [key]))
    exact ⟨Leaf.eq_of_key (Option.some.inj (key.symm.trans single.key)), rfl⟩
  · rintro ⟨rfl, rfl⟩
    exact ⟨name, single.member, single.filled, single.key⟩

theorem Single.proper {environment : List (String × String)} {name x : String} {l : Leaf}
    (single : Single environment name x l) (scalar : l.isScalar = true) (means : ∃ v, l.Means (setting x) v) :
    Proper environment := by
  refine ⟨fun n y k member filled found => ?_, fun m y z first other => ?_⟩
  · obtain ⟨rfl, rfl⟩ := Prod.mk.inj (single.others (n, y) member (by simp [found]))
    exact ⟨l, scalar, Option.some.inj (found.symm.trans single.key), means⟩
  · rw [(single.sets_iff.mp first).2, (single.sets_iff.mp other).2]

/-- The environment sets the leaves that its variables are about. -/
theorem overlaid {environment : List (String × String)} (proper : Proper environment) {top : Setting}
    (sectioned : top.Sectioned) :
    Overlaid (fun l s => ∃ x, Sets environment l x ∧ s = setting x) top (top.addLayer (layer environment)) := by
  have each : ∀ e ∈ layer environment, ∀ top : Setting, top.Sectioned →
      Overlaid (fun l s => e.1 = l.key ∧ e.2 = s) top (Setting.setAt e.2 (KeyStep.pathOf e.1) top) := by
    intro e member top sectioned
    obtain ⟨name, x, variable', filled, key, same⟩ := mem_layer_iff.mp member
    obtain ⟨l, -, own, v, means⟩ := proper.leaves name x e.1 variable' filled key
    rw [own, same]
    refine (overlaid_variable l (Leaf.plain_of_means means) sectioned).congr fun m t => ?_
    exact and_congr ⟨fun same => same ▸ rfl, fun same => (Leaf.eq_of_key same).symm⟩ eq_comm
  refine (overlaid_addLayer each sectioned).congr fun l s => ?_
  constructor
  · rintro ⟨e, member, key, rfl⟩
    obtain ⟨name, x, variable', filled, key', same⟩ := mem_layer_iff.mp member
    exact ⟨x, ⟨name, variable', filled, key ▸ key'⟩, same⟩
  · rintro ⟨x, ⟨name, variable', filled, key⟩, rfl⟩
    exact ⟨(l.key, setting x), mem_layer_iff.mpr ⟨name, x, variable', filled, key, rfl⟩, rfl, rfl⟩

end Environment

/-! ## Files -/

/-- A value of a file means the same for a leaf wherever the file lies. -/
def Leaf.MeansToml (l : Leaf) (w : Toml.Value) (v : l.Value) : Prop := ∀ origin, l.Means (Setting.ofToml origin w) v

namespace ConfigFile

/-- A file sets a leaf under its section. The names count without regard to case. -/
def Sets (entries : List (String × Toml.Value)) (l : Leaf) (w : Toml.Value) : Prop :=
  ∃ k kvs, (k, .table kvs) ∈ entries ∧ Text.lowerCase k = l.home.name ∧ ∃ n, (n, w) ∈ kvs ∧ Text.lowerCase n = l.name

/-- A file that sets leaves and nothing else, none of them twice, and to values that mean something. -/
structure Proper (entries : List (String × Toml.Value)) : Prop where
  leaves : ∀ k v, (k, v) ∈ entries → ∃ (h : Section) (kvs : List (String × Toml.Value)), Text.lowerCase k = h.name ∧
    v = .table kvs ∧ ∀ n w, (n, w) ∈ kvs → ∃ l : Leaf, l.home = h ∧ Text.lowerCase n = l.name ∧ ∃ x, l.MeansToml w x
  once : ∀ l v w, Sets entries l v → Sets entries l w → v = w

/-- What is set means something. -/
theorem Proper.means {entries : List (String × Toml.Value)} (proper : Proper entries) {l : Leaf} {w : Toml.Value}
    (set : Sets entries l w) : ∃ v, l.MeansToml w v := by
  obtain ⟨k, kvs, among, -, n, inside, name⟩ := set
  obtain ⟨h, _, -, ⟨⟩, leaves⟩ := proper.leaves k _ among
  obtain ⟨m, -, same, means⟩ := leaves n w inside
  exact Leaf.eq_of_name (same.symm.trans name) ▸ means

theorem mem_ofTomlEntries_iff {origin : String} {entries : List (String × Toml.Value)} {e : String × Setting} :
    e ∈ Setting.ofTomlEntries origin entries ↔ ∃ v, (e.1, v) ∈ entries ∧ e.2 = Setting.ofToml origin v := by
  induction entries with
  | nil => simp [Setting.ofTomlEntries]
  | cons f entries ih =>
    obtain ⟨k, s⟩ := e
    obtain ⟨n, w⟩ := f
    simp only at ih
    simp [Setting.ofTomlEntries, ih, or_and_right, exists_or, and_assoc]

/-- A table of a file sets the leaves of its section. -/
theorem overlaid_entry {entries : List (String × Toml.Value)} (proper : Proper entries) {origin : String}
    {e : String × Setting} (member : e ∈ Setting.ofTomlEntries origin entries) {top : Setting}
    (sectioned : top.Sectioned) :
    Overlaid (fun l s => Text.lowerCase e.1 = l.home.name ∧
        ∃ es o, e.2 = .table es o ∧ ∃ f ∈ es, Text.lowerCase f.1 = l.name ∧ f.2 = s) top
      (Setting.setAt e.2 (KeyStep.pathOf e.1) top) := by
  obtain ⟨v, among, same⟩ := mem_ofTomlEntries_iff.mp member
  obtain ⟨h, kvs, name, rfl, leaves⟩ := proper.leaves e.1 v among
  have plain : ∀ f ∈ Setting.ofTomlEntries origin kvs, f.2.Plain := by
    intro f member
    obtain ⟨w, among, same⟩ := mem_ofTomlEntries_iff.mp member
    obtain ⟨l, -, -, x, means⟩ := leaves f.1 w among
    exact same ▸ Leaf.plain_of_means (means origin)
  rw [same, Setting.ofToml]
  refine (overlaid_section name plain (some origin) sectioned).congr fun l s => ?_
  refine and_congr ⟨fun same => by rw [name, same], fun same => (Section.eq_of_name (name.symm.trans same)).symm⟩ ?_
  simp only [Setting.table.injEq]
  constructor
  · exact fun set => ⟨_, _, ⟨rfl, rfl⟩, set⟩
  · rintro ⟨_, _, ⟨rfl, rfl⟩, set⟩
    exact set

/-- A file sets the leaves that its tables have. -/
theorem overlaid {entries : List (String × Toml.Value)} (proper : Proper entries) (origin : String) {top : Setting}
    (sectioned : top.Sectioned) :
    Overlaid (fun l s => ∃ w, Sets entries l w ∧ s = Setting.ofToml origin w) top
      (top.addLayer (Setting.ofTomlEntries origin entries)) := by
  refine (overlaid_addLayer (fun _ member _ => overlaid_entry proper member) sectioned).congr fun l s => ?_
  constructor
  · rintro ⟨e, member, name, es, o, table, f, inside, own, rfl⟩
    obtain ⟨v, among, same⟩ := mem_ofTomlEntries_iff.mp member
    obtain ⟨h, kvs, -, rfl, -⟩ := proper.leaves e.1 v among
    rw [same, Setting.ofToml] at table
    obtain ⟨rfl, rfl⟩ := Setting.table.inj table
    obtain ⟨w, here, same⟩ := mem_ofTomlEntries_iff.mp inside
    exact ⟨w, ⟨e.1, kvs, among, name, f.1, here, own⟩, same⟩
  · rintro ⟨w, ⟨k, kvs, among, name, n, inside, own⟩, rfl⟩
    exact ⟨(k, Setting.ofToml origin (.table kvs)), mem_ofTomlEntries_iff.mpr ⟨_, among, rfl⟩, name, _, _,
      by rw [Setting.ofToml], (n, Setting.ofToml origin w), mem_ofTomlEntries_iff.mpr ⟨w, inside, rfl⟩, own, rfl⟩

theorem proper_nil : Proper [] := ⟨by simp, by simp [Sets]⟩

/-- A file that sets one leaf. -/
def only (l : Leaf) (w : Toml.Value) : List (String × Toml.Value) := [(l.home.name, .table [(l.name, w)])]

theorem sets_only_iff {l m : Leaf} {v w : Toml.Value} : Sets (only l w) m v ↔ m = l ∧ v = w := by
  constructor
  · rintro ⟨k, kvs, among, -, n, inside, own⟩
    obtain ⟨rfl, ⟨⟩⟩ := Prod.mk.inj (List.mem_singleton.mp among)
    obtain ⟨rfl, rfl⟩ := Prod.mk.inj (List.mem_singleton.mp inside)
    exact ⟨Leaf.eq_of_name (own.symm.trans l.lowerCase_name), rfl⟩
  · rintro ⟨rfl, rfl⟩
    exact ⟨_, _, List.mem_singleton_self _, m.home.lowerCase_name, _, List.mem_singleton_self _, m.lowerCase_name⟩

theorem proper_only {l : Leaf} {w : Toml.Value} (means : ∃ x, l.MeansToml w x) : Proper (only l w) := by
  refine ⟨fun k v among => ?_, fun m v v' first other => ?_⟩
  · obtain ⟨rfl, rfl⟩ := Prod.mk.inj (List.mem_singleton.mp among)
    refine ⟨l.home, _, l.home.lowerCase_name, rfl, fun n w' inside => ?_⟩
    obtain ⟨rfl, rfl⟩ := Prod.mk.inj (List.mem_singleton.mp inside)
    exact ⟨l, rfl, l.lowerCase_name, means⟩
  · rw [(sets_only_iff.mp first).2, (sets_only_iff.mp other).2]

/-- The settings that a file holds, none if there is no file. -/
def Holds (file : Option String) (s : Surroundings) (d : Disk) (entries : List (String × Toml.Value)) : Prop :=
  match file with
  | none => entries = []
  | some name => ∃ p bytes text, find s.workingDirectory name d = .ok p ∧ d.read p = .ok bytes ∧
      Text.ofBytes? bytes = some text ∧ Toml.read text.toList = some entries

end ConfigFile

/-! ## The configuration below -/

/-- The durations fit an integer with a sign, which is what a configuration is written down with. -/
structure NodeConfig.Fits (c : NodeConfig) : Prop where
  grace : c.telemetry.gracePeriod.toNat < 9223372036854775808
  scrape : c.telemetry.scrapeInterval.toNat < 9223372036854775808
  keep : c.telemetry.historyKeepInterval.toNat < 9223372036854775808

theorem NodeConfig.fits_default : ({} : NodeConfig).Fits := ⟨by decide, by decide, by decide⟩

theorem Setting.ofTelemetry_eq_ok {c : NodeConfig} (fits : c.Fits) :
    Setting.ofTelemetry c.telemetry = .ok (.table
      [("enabled", .scalar (.flag c.telemetry.enabled) none),
        ("grace_period_in_sec", .scalar (.integer c.telemetry.gracePeriod.toNat) none),
        ("scrape_interval_in_sec", .scalar (.integer c.telemetry.scrapeInterval.toNat) none),
        ("history_keep_interval_in_sec", .scalar (.integer c.telemetry.historyKeepInterval.toNat) none),
        ("telemetry_dir", ofText c.telemetry.telemetryDir)] none) := by
  simp [ofTelemetry, ofWord, fits.grace, fits.scrape, fits.keep, bind, Except.bind, pure, Except.pure]

/-- A configuration is written down as settings that are read as it. -/
theorem exists_ofConfig {c : NodeConfig} (fits : c.Fits) :
    ∃ top, Setting.ofConfig c = .ok top ∧ top.Sectioned ∧ ∀ l : Leaf, l.Reads (top.leaf? l) (c.leaf l) := by
  simp only [Setting.ofConfig, Setting.ofTelemetry_eq_ok fits, bind, Except.bind, pure, Except.pure]
  refine ⟨_, rfl, fun h => by cases h <;> exact ⟨_, _, rfl⟩, fun l => ?_⟩
  have reads {l : Leaf} {s : Option Setting} {t : Setting} {v : l.Value} (found : s = some t) (means : l.Means t v) :
      l.Reads s v := found ▸ Leaf.reads_of_means means
  have text {t : String} : MeansText (Setting.ofText t) t := ⟨_, _, rfl, rfl⟩
  have choice {α : Type} {word : α → String} {a : α} : MeansChoice word (Setting.ofText (word a)) a := ⟨_, _, rfl, rfl⟩
  cases l
  case dbPath | logDir | storageEngine | pillarVersion | telemetryDir => exact reads rfl text
  case processKind | clusterRole => exact reads rfl choice
  case enabled => exact reads rfl (.flag _ _)
  case gracePeriod | scrapeInterval | historyKeepInterval => exact reads rfl (.integer _ _)
  case proFeatures =>
    obtain ⟨⟨_, _, _, _, _, features⟩, _, _⟩ := c
    cases features with
    | nil => exact rfl
    | cons f fs =>
      refine reads rfl ⟨(f :: fs).map Setting.ofText, none, rfl, ?_⟩
      change List.Forall₂ MeansText _ (f :: fs)
      rw [List.forall₂_map_left_iff, List.forall₂_same]
      exact fun _ _ => text
  case replicaSetState =>
    obtain ⟨_, ⟨state, _, _⟩, _⟩ := c
    cases state with
    | none => exact fun _ => rfl
    | some m => exact reads rfl ⟨m, choice, rfl⟩
  case replicationId =>
    obtain ⟨_, ⟨_, id, _⟩, _⟩ := c
    cases id with
    | none => exact fun _ => rfl
    | some t => exact reads rfl ⟨t, text, rfl⟩

/-- Only a configuration whose durations fit is written down. -/
theorem fits_of_ofConfig {c : NodeConfig} {top : Setting} (written : Setting.ofConfig c = .ok top) : c.Fits := by
  have fits {n : UInt64} {s : Setting} (word : Setting.ofWord n = .ok s) : n.toNat < 9223372036854775808 := by
    unfold Setting.ofWord at word
    split at word
    · assumption
    · cases word
  obtain ⟨telemetry, written, -⟩ := Except.bind_eq_ok_iff.mp written
  obtain ⟨_, grace, written⟩ := Except.bind_eq_ok_iff.mp written
  obtain ⟨_, scrape, written⟩ := Except.bind_eq_ok_iff.mp written
  obtain ⟨_, keep, -⟩ := Except.bind_eq_ok_iff.mp written
  exact ⟨fits grace, fits scrape, fits keep⟩

/-! ## Loading -/

/-- Where the value of a leaf comes from: from the environment, else from the file, else from the
    configuration below. -/
inductive Leaf.Governed (base : NodeConfig) (entries : List (String × Toml.Value)) (environment : List (String × String))
    (l : Leaf) (v : l.Value) : Prop
  | environment {x : String} (set : Environment.Sets environment l x) (means : l.Means (Environment.setting x) v)
  | file {w : Toml.Value} (unset : ∀ x, ¬ Environment.Sets environment l x) (set : ConfigFile.Sets entries l w)
      (means : l.MeansToml w v)
  | below (unset : ∀ x, ¬ Environment.Sets environment l x) (missing : ∀ w, ¬ ConfigFile.Sets entries l w)
      (same : v = base.leaf l)

namespace Leaf.Governed

variable {base : NodeConfig} {entries : List (String × Toml.Value)} {environment : List (String × String)} {l : Leaf}
  {v w : l.Value}

/-- A leaf that a variable sets has the value that the variable means. -/
theorem eq_of_variable (env : Environment.Proper environment) {x : String}
    (governed : l.Governed base entries environment v) (set : Environment.Sets environment l x) (means : l.Means (Environment.setting x) w) : v = w := by
  cases governed with
  | environment set' own =>
    obtain rfl := env.once l _ _ set set'
    exact means_unique own means
  | file unset => exact absurd set (unset _)
  | below unset => exact absurd set (unset _)

/-- A leaf that no variable sets has the value that the file means, if the file sets it. -/
theorem eq_of_file (doc : ConfigFile.Proper entries) {t : Toml.Value} (governed : l.Governed base entries environment v)
    (unset : ∀ x, ¬ Environment.Sets environment l x) (set : ConfigFile.Sets entries l t) (means : l.MeansToml t w) :
    v = w := by
  cases governed with
  | environment set' => exact absurd set' (unset _)
  | file _ set' own =>
    obtain rfl := doc.once l _ _ set set'
    exact means_unique (own "") (means "")
  | below _ missing => exact absurd set (missing _)

/-- A leaf that neither a variable nor the file sets stays. -/
theorem eq_of_unset (governed : l.Governed base entries environment v) (unset : ∀ x, ¬ Environment.Sets environment l x)
    (missing : ∀ t, ¬ ConfigFile.Sets entries l t) : v = base.leaf l := by
  cases governed with
  | environment set => exact absurd set (unset _)
  | file _ set => exact absurd set (missing _)
  | below _ _ same => exact same

end Leaf.Governed

/-- The file lies over the configuration below, and the environment over both. -/
theorem exists_settings {base : NodeConfig} {below : Setting} {name : Option String} {s : Surroundings} {d : Disk}
    {entries : List (String × Toml.Value)} (holds : ConfigFile.Holds name s d entries)
    (written : Setting.ofConfig base = .ok below) :
    ∃ origin, base.settings name s d =
      .ok ((below.addLayer (Setting.ofTomlEntries origin entries)).addLayer (Environment.layer s.environment)) := by
  cases name with
  | none =>
    obtain rfl : entries = [] := holds
    exact ⟨"", by simp [NodeConfig.settings, written, bind, Except.bind, pure, Except.pure, Setting.ofTomlEntries]⟩
  | some name =>
    obtain ⟨p, bytes, text, found, read, decoded, parsed⟩ := holds
    refine ⟨ConfigFile.origin p, ?_⟩
    simp [NodeConfig.settings, written, ConfigFile.layer, found, bind, Except.bind, pure, Except.pure, read, decoded,
      parsed]

section

variable {s : Surroundings} {d : Disk} {entries : List (String × Toml.Value)} (env : Environment.Proper s.environment)
  (doc : ConfigFile.Proper entries)

include env doc

/-- A configuration is made of its layers leaf by leaf. -/
theorem exists_governed {base : NodeConfig} (fits : base.Fits) {name : Option String}
    (holds : ConfigFile.Holds name s d entries) :
    ∃ c : NodeConfig, base.settings name s d >>= NodeConfig.ofSettings = .ok c ∧
      ∀ l : Leaf, l.Governed base entries s.environment (c.leaf l) := by
  obtain ⟨below, written, sectioned, reads⟩ := exists_ofConfig fits
  obtain ⟨origin, settings⟩ := exists_settings holds written
  have middle := ConfigFile.overlaid doc origin sectioned
  have top := Environment.overlaid env middle.sectioned
  rw [settings]
  generalize (below.addLayer (Setting.ofTomlEntries origin entries)).addLayer (Environment.layer s.environment) = all at top
  -- the topmost layer that sets a leaf decides on it
  have governed (l : Leaf) : ∃ v : l.Value, l.Governed base entries s.environment v ∧ l.Reads (all.leaf? l) v := by
    rcases top.leaf l with ⟨_, ⟨x, set, rfl⟩, found⟩ | ⟨unset, same⟩
    · obtain ⟨v, means⟩ := env.means set
      exact ⟨v, .environment set means, found ▸ Leaf.reads_of_means means⟩
    · have unset : ∀ x, ¬ Environment.Sets s.environment l x := fun x set => unset _ ⟨x, set, rfl⟩
      rw [same]
      rcases middle.leaf l with ⟨_, ⟨w, set, rfl⟩, found⟩ | ⟨missing, same⟩
      · obtain ⟨v, means⟩ := doc.means set
        exact ⟨v, .file unset set means, found ▸ Leaf.reads_of_means (means origin)⟩
      · exact ⟨base.leaf l, .below unset (fun w set => missing _ ⟨w, set, rfl⟩) rfl, same ▸ reads l⟩
  choose v governs reads using governed
  exact ⟨NodeConfig.ofLeaves v, ofSettings_of_reads top.sectioned fun l => NodeConfig.leaf_ofLeaves v l ▸ reads l,
    fun l => NodeConfig.leaf_ofLeaves v l ▸ governs l⟩

/-- Over a configuration that the same file and the same variables have made, a leaf is as it was. -/
theorem eq_leaf_of_governed {base c : NodeConfig} {l : Leaf} {v : l.Value}
    (first : l.Governed base entries s.environment (c.leaf l)) (again : l.Governed c entries s.environment v) :
    v = c.leaf l := by
  cases first with
  | environment set means => exact again.eq_of_variable env set means
  | file unset set means => exact again.eq_of_file doc unset set means
  | below unset missing => exact again.eq_of_unset unset missing

/-- The same file once more changes nothing, as long as the configuration can be written down. -/
theorem overriddenBy_again_iff {base c : NodeConfig} {file : String} (holds : ConfigFile.Holds (some file) s d entries)
    (governed : ∀ l : Leaf, l.Governed base entries s.environment (c.leaf l)) :
    c.overriddenBy file s d = .ok c ↔ c.Fits := by
  constructor
  · intro again
    obtain ⟨top, settings, -⟩ := Except.bind_eq_ok_iff.mp again
    obtain ⟨below, written, -⟩ := Except.bind_eq_ok_iff.mp settings
    exact fits_of_ofConfig written
  · intro fits
    obtain ⟨c', loaded, governed'⟩ := exists_governed env doc fits holds
    obtain rfl : c' = c := NodeConfig.eq_of_leaf fun l => eq_leaf_of_governed env doc (governed l) (governed' l)
    exact loaded

/-- A configuration is put together leaf by leaf, from the environment, else from the file, else from the
    configuration below: when a file is laid over a configuration, and when one is loaded, over the defaults. To lay
    the same file over the result changes nothing exactly when the durations of the result fit an integer with a
    sign; variables can set longer ones. A file and variables that set nothing leave a configuration as it is. -/
theorem layered :
    (∀ (base : NodeConfig) (file : String), base.Fits → ConfigFile.Holds (some file) s d entries →
      ∃ c, base.overriddenBy file s d = .ok c ∧ (∀ l : Leaf, l.Governed base entries s.environment (c.leaf l)) ∧
        (c.overriddenBy file s d = .ok c ↔ c.Fits) ∧
        ((∀ l w, ¬ ConfigFile.Sets entries l w) → (∀ l x, ¬ Environment.Sets s.environment l x) → c = base)) ∧
      (ConfigFile.Holds (s.environment.lookup "CONFIG_PATH") s d entries →
        ∃ c, NodeConfig.load s d = .ok c ∧ ∀ l : Leaf, l.Governed {} entries s.environment (c.leaf l)) := by
  refine ⟨fun base file fits holds => ?_, fun holds => ?_⟩
  · obtain ⟨c, loaded, governed⟩ := exists_governed env doc fits holds
    refine ⟨c, loaded, governed, overriddenBy_again_iff env doc holds governed, fun missing unset => ?_⟩
    exact NodeConfig.eq_of_leaf fun l => (governed l).eq_of_unset (unset l) (missing l)
  · exact exists_governed env doc NodeConfig.fits_default holds

end

/-- A file that turns sampling off, under a variable that sets an interval. -/
theorem layered_of_file_and_variable :
    let d : Disk :=
      ((Procedure.writeFile (Path.ofText "c.toml") (Text.toBytes "[telemetry]\nenabled = false\n")).run .empty).2
    let s : Surroundings := ⟨[("CONFIG_PATH", "c.toml"), ("TELEMETRY__TELEMETRY__SCRAPE_INTERVAL_IN_SEC", "5")], ⟨[]⟩⟩
    (∃ c, ({} : NodeConfig).overriddenBy "c.toml" s d = .ok c ∧ c.telemetry.enabled = false ∧
      c.telemetry.scrapeInterval = 5 ∧ c.overriddenBy "c.toml" s d = .ok c) ∧
    ∃ c, NodeConfig.load s d = .ok c ∧ c.telemetry.enabled = false ∧ c.telemetry.scrapeInterval = 5 := by
  intro d s
  have parsed : Toml.read "[telemetry]\nenabled = false\n".toList = some (ConfigFile.only .enabled (.flag false)) := by
    cbv
  have holds : ConfigFile.Holds (some "c.toml") s d (ConfigFile.only .enabled (.flag false)) :=
    ⟨Path.ofText "c.toml", _, _, by decide +kernel, by decide +kernel, Text.ofBytes?_toBytes _, parsed⟩
  have single : Environment.Single s.environment "TELEMETRY__TELEMETRY__SCRAPE_INTERVAL_IN_SEC" "5" .scrapeInterval :=
    ⟨by simp [s], by decide, by decide +kernel, by decide +kernel⟩
  have interval : Leaf.scrapeInterval.Means (Environment.setting "5") 5 := by
    have value : Environment.value "5" = .integer 5 := by decide +kernel
    rw [Environment.setting, value]
    exact MeansWord.integer 5 _
  have env := single.proper rfl ⟨5, interval⟩
  have off : Leaf.enabled.MeansToml (.flag false) false := fun origin => .flag false (some origin)
  have doc : ConfigFile.Proper (ConfigFile.only .enabled (.flag false)) := ConfigFile.proper_only ⟨false, off⟩
  have unset {l : Leaf} (other : l ≠ .scrapeInterval) (x : String) : ¬ Environment.Sets s.environment l x :=
    fun set => other (single.sets_iff.mp set).1
  have missing {l : Leaf} (other : l ≠ .enabled) (w : Toml.Value) :
      ¬ ConfigFile.Sets (ConfigFile.only .enabled (.flag false)) l w :=
    fun set => other (ConfigFile.sets_only_iff.mp set).1
  have leaves {c : NodeConfig} (governed : ∀ l : Leaf, l.Governed {} _ s.environment (c.leaf l)) :
      c.telemetry.enabled = false ∧ c.telemetry.scrapeInterval = 5 :=
    ⟨(governed .enabled).eq_of_file doc (unset (by decide)) (ConfigFile.sets_only_iff.mpr ⟨rfl, rfl⟩) off,
      (governed .scrapeInterval).eq_of_variable env (single.sets_iff.mpr ⟨rfl, rfl⟩) interval⟩
  obtain ⟨overrides, loads⟩ := layered env doc
  refine ⟨?_, ?_⟩
  · obtain ⟨c, loaded, governed, again, -⟩ := overrides {} "c.toml" NodeConfig.fits_default holds
    obtain ⟨enabled, scrape⟩ := leaves governed
    have grace : c.telemetry.gracePeriod = _ :=
      (governed .gracePeriod).eq_of_unset (unset (by decide)) (missing (by decide))
    have keep : c.telemetry.historyKeepInterval = _ :=
      (governed .historyKeepInterval).eq_of_unset (unset (by decide)) (missing (by decide))
    exact ⟨c, loaded, enabled, scrape, again.mpr ⟨by rw [grace]; decide, by rw [scrape]; decide, by rw [keep]; decide⟩⟩
  · obtain ⟨c, loaded, governed⟩ := loads holds
    exact ⟨c, loaded, leaves governed⟩

/-- An interval that only a variable can set: the file, which sets nothing, is laid over the defaults once, but not
    over the result. -/
theorem overriddenBy_again_of_large_interval :
    let d : Disk := ((Procedure.writeFile (Path.ofText "c.toml") (Text.toBytes "")).run .empty).2
    let s : Surroundings := ⟨[("TELEMETRY__TELEMETRY__SCRAPE_INTERVAL_IN_SEC", "18446744073709551615")], ⟨[]⟩⟩
    Environment.Proper s.environment ∧ ConfigFile.Proper [] ∧ ConfigFile.Holds (some "c.toml") s d [] ∧
      ({} : NodeConfig).Fits ∧
      ∃ c, ({} : NodeConfig).overriddenBy "c.toml" s d = .ok c ∧ c.telemetry.scrapeInterval = 18446744073709551615 ∧
        c.overriddenBy "c.toml" s d ≠ .ok c := by
  intro d s
  have parsed : Toml.read "".toList = some [] := by cbv
  have holds : ConfigFile.Holds (some "c.toml") s d [] :=
    ⟨Path.ofText "c.toml", _, _, by decide +kernel, by decide +kernel, Text.ofBytes?_toBytes _, parsed⟩
  have single : Environment.Single s.environment "TELEMETRY__TELEMETRY__SCRAPE_INTERVAL_IN_SEC" "18446744073709551615"
      .scrapeInterval :=
    ⟨by simp [s], by decide, by decide +kernel, by decide +kernel⟩
  have interval : Leaf.scrapeInterval.Means (Environment.setting "18446744073709551615") 18446744073709551615 := by
    -- too large for an integer, so it is read as a number, and the number as the largest word
    have value : Environment.value "18446744073709551615" =
        .number (Binary64.ofDecimal false 18446744073709551615 0) := by
      decide +kernel
    have word : (Binary64.ofDecimal false 18446744073709551615 0).toWord = 18446744073709551615 := by decide +kernel
    rw [Environment.setting, value, ← word]
    exact MeansWord.number _ _
  have env := single.proper rfl ⟨_, interval⟩
  obtain ⟨c, loaded, governed⟩ := exists_governed env ConfigFile.proper_nil NodeConfig.fits_default holds
  have scrape : c.telemetry.scrapeInterval = _ :=
    (governed .scrapeInterval).eq_of_variable env (single.sets_iff.mpr ⟨rfl, rfl⟩) interval
  refine ⟨env, ConfigFile.proper_nil, holds, NodeConfig.fits_default, c, loaded, scrape, fun again => ?_⟩
  have small := ((overriddenBy_again_iff env ConfigFile.proper_nil holds governed).mp again).scrape
  rw [scrape] at small
  exact absurd small (by decide)

end NodeTelemetry
