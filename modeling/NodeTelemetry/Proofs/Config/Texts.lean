import NodeTelemetry.Proofs.Config.Layers
import NodeTelemetry.Proofs.Number.Reading

/-!
# Texts from files and from variables

A text of a file is taken as it is. A variable is read as a flag, an integer or a
number first, and where a text is wanted, what it was read as is written out again
(`Environment.Restated`): most texts stay, but `007` becomes `7`.
-/

namespace NodeTelemetry

/-! ## Texts that are read and written again -/

namespace Environment

/-- What becomes of the text of a variable where a text is wanted. The words for flags come out in lower case, an
    integer in its own digits and another number in the fewest digits for it; any other text stays. -/
inductive Restated (t : String) : String → Prop
  | flag (b : Bool) (named : Text.lowerCase t = Decoder.written (.flag b)) : Restated t (Decoder.written (.flag b))
  | integer {n : Int} (noFlag : ∀ b, Text.lowerCase t ≠ Decoder.written (.flag b))
      (spelled : Text.SpellsInteger t.toList n) (fits : -9223372036854775808 ≤ n ∧ n < 9223372036854775808) :
      Restated t (toString n)
  | number {x : Binary64} (noFlag : ∀ b, Text.lowerCase t ≠ Decoder.written (.flag b))
      (noInteger : ∀ n, Text.SpellsInteger t.toList n → ¬ (-9223372036854775808 ≤ n ∧ n < 9223372036854775808))
      (spelled : Binary64.Spells t.toList x) : Restated t (plainNumber.text x)
  | text (noFlag : ∀ b, Text.lowerCase t ≠ Decoder.written (.flag b))
      (noNumber : ∀ x, ¬ Binary64.Spells t.toList x) : Restated t t

theorem value_of_flag {t : String} {b : Bool} (named : Text.lowerCase t = Decoder.written (.flag b)) :
    value t = .flag b := by
  cases b <;> simp [value, named, Decoder.written]

theorem value_of_noFlag {t : String} (noFlag : ∀ b, Text.lowerCase t ≠ Decoder.written (.flag b)) :
    value t = ((Text.readInt64? t.toList).map Scalar.integer).getD
      (((Binary64.read? t.toList).map Scalar.number).getD (.text t)) := by
  unfold value
  split
  · next word => exact absurd word (noFlag true)
  · next word => exact absurd word (noFlag false)
  · cases Text.readInt64? t.toList with
    | some n => rfl
    | none => cases Binary64.read? t.toList <;> rfl

theorem restated_written (t : String) : Restated t (Decoder.written (value t)) := by
  by_cases flag : ∃ b, Text.lowerCase t = Decoder.written (.flag b)
  · obtain ⟨b, named⟩ := flag
    rw [value_of_flag named]
    exact .flag b named
  · have noFlag := not_exists.mp flag
    rw [value_of_noFlag noFlag]
    cases integer : Text.readInt64? t.toList with
    | some n =>
      obtain ⟨spelled, fits⟩ := Text.readInt64?_eq_some_iff.mp integer
      exact .integer noFlag spelled fits
    | none =>
      have noInteger (n : Int) (spelled : Text.SpellsInteger t.toList n) :
          ¬ (-9223372036854775808 ≤ n ∧ n < 9223372036854775808) := fun fits => by
        rw [Text.readInt64?_eq_some_iff.mpr ⟨spelled, fits⟩] at integer
        cases integer
      cases number : Binary64.read? t.toList with
      | some x => exact .number noFlag noInteger (Binary64.read?_eq_some_iff.mp number)
      | none =>
        refine .text noFlag fun x spelled => ?_
        rw [Binary64.read?_eq_some_iff.mpr spelled] at number
        cases number

/-- A text is restated as what it is read as. -/
theorem restated_iff {t u : String} : Restated t u ↔ u = Decoder.written (value t) := by
  constructor
  · intro restated
    cases restated with
    | flag b named => rw [value_of_flag named]
    | integer noFlag spelled fits =>
      rw [value_of_noFlag noFlag, Text.readInt64?_eq_some_iff.mpr ⟨spelled, fits⟩]
      rfl
    | number noFlag noInteger spelled =>
      have integer : Text.readInt64? t.toList = none := Option.eq_none_iff_forall_ne_some.mpr fun n read =>
        have ⟨own, fits⟩ := Text.readInt64?_eq_some_iff.mp read
        noInteger n own fits
      rw [value_of_noFlag noFlag, integer, Binary64.read?_eq_some_iff.mpr spelled]
      rfl
    | text noFlag noNumber =>
      have number : Binary64.read? t.toList = none := Option.eq_none_iff_forall_ne_some.mpr fun x read =>
        noNumber x (Binary64.read?_eq_some_iff.mp read)
      have integer : Text.readInt64? t.toList = none := Option.eq_none_iff_forall_ne_some.mpr fun n read =>
        have ⟨x, spelled⟩ := Binary64.exists_spells_of_integer (Text.readInt64?_eq_some_iff.mp read).1
        noNumber x spelled
      rw [value_of_noFlag noFlag, integer, number]
      rfl
  · rintro rfl
    exact restated_written t

instance (t u : String) : Decidable (Restated t u) := decidable_of_iff _ restated_iff.symm

example : Restated "rs0-id" "rs0-id" := by decide +kernel
example : Restated "7.0" "7" := by decide +kernel
example : Restated "1e400" "inf" := by decide +kernel

end Environment

/-! ## Leaves that hold texts -/

/-- A leaf that holds a text, and the value that it has with a text. -/
inductive Leaf.HoldsText : (l : Leaf) → (String → l.Value) → Prop
  | dbPath : HoldsText .dbPath id
  | logDir : HoldsText .logDir id
  | storageEngine : HoldsText .storageEngine id
  | pillarVersion : HoldsText .pillarVersion id
  | telemetryDir : HoldsText .telemetryDir id
  | replicationId : HoldsText .replicationId some

namespace Leaf.HoldsText

variable {l : Leaf} {of : String → l.Value} (text : l.HoldsText of)

include text

theorem injective : Function.Injective of := by
  cases text <;> exact fun _ _ same => by first | exact same | exact Option.some.inj same

/-- Any single value means the text that it is written as. -/
theorem means (x : Scalar) (o : Option String) : l.Means (.scalar x o) (of (Decoder.written x)) := by
  have written : MeansText (.scalar x o) (Decoder.written x) := ⟨x, o, rfl, rfl⟩
  cases text with
  | replicationId => exact ⟨_, written, rfl⟩
  | _ => exact written

end Leaf.HoldsText

/-- A leaf that holds a text is loaded from a variable as the text that the variable's is restated as, and from a
    file as the file has it. -/
theorem loaded_text {l : Leaf} {of : String → l.Value} (text : l.HoldsText of) {s : Surroundings} {d : Disk}
    {entries : List (String × Toml.Value)} (env : Environment.Proper s.environment) (doc : ConfigFile.Proper entries)
    (holds : ConfigFile.Holds (s.environment.lookup "CONFIG_PATH") s d entries) :
    ∃ c, NodeConfig.load s d = .ok c ∧
      (∀ v, Environment.Sets s.environment l v →
        ∃ u, Environment.Restated v u ∧ c.leaf l = of u ∧ (c.leaf l = of v ↔ Environment.Restated v v)) ∧
      ((∀ v, ¬ Environment.Sets s.environment l v) → ∀ v, ConfigFile.Sets entries l (.text v) → c.leaf l = of v) := by
  obtain ⟨c, loaded, governed⟩ := exists_governed env doc NodeConfig.fits_default holds
  refine ⟨c, loaded, fun v set => ?_, fun unset v set => ?_⟩
  · have same := (governed l).eq_of_variable env set (text.means (Environment.value v) _)
    refine ⟨_, Environment.restated_written v, same, ?_⟩
    rw [same, Environment.restated_iff, text.injective.eq_iff, eq_comm]
  · exact (governed l).eq_of_file doc unset set fun origin => text.means (.text v) (some origin)

/-- A replication id from a variable over an engine from a file. -/
theorem loaded_text_of_member :
    let d : Disk :=
      ((Procedure.writeFile (Path.ofText "c.toml") (Text.toBytes "[server]\nstorage_engine = \"007\"\n")).run .empty).2
    let s : Surroundings := ⟨[("CONFIG_PATH", "c.toml"), ("TELEMETRY__CLUSTER__REPLICATION_ID", "rs0-id")], ⟨[]⟩⟩
    ∃ c, NodeConfig.load s d = .ok c ∧ c.cluster.replicationId = some "rs0-id" ∧ c.server.storageEngine = "007" := by
  intro d s
  have parsed : Toml.read "[server]\nstorage_engine = \"007\"\n".toList =
      some (ConfigFile.only .storageEngine (.text "007")) := by
    cbv
  have holds : ConfigFile.Holds (some "c.toml") s d (ConfigFile.only .storageEngine (.text "007")) :=
    ⟨Path.ofText "c.toml", _, _, by decide +kernel, by decide +kernel, Text.ofBytes?_toBytes _, parsed⟩
  have single : Environment.Single s.environment "TELEMETRY__CLUSTER__REPLICATION_ID" "rs0-id" .replicationId :=
    ⟨by simp [s], by decide, by decide +kernel, by decide +kernel⟩
  have env := single.proper rfl ⟨_, Leaf.HoldsText.replicationId.means _ _⟩
  have doc : ConfigFile.Proper (ConfigFile.only .storageEngine (.text "007")) :=
    ConfigFile.proper_only ⟨_, fun origin => Leaf.HoldsText.storageEngine.means (.text "007") (some origin)⟩
  obtain ⟨c, loaded, variable', -⟩ := loaded_text .replicationId env doc holds
  obtain ⟨c', loaded', -, file⟩ := loaded_text .storageEngine env doc holds
  obtain rfl := Except.ok.inj (loaded.symm.trans loaded')
  obtain ⟨u, -, -, same⟩ := variable' "rs0-id" (single.sets_iff.mpr ⟨rfl, rfl⟩)
  exact ⟨c, loaded, same.mpr (by decide +kernel),
    file (fun v set => absurd (single.sets_iff.mp set).1 (by decide)) "007" (ConfigFile.sets_only_iff.mpr ⟨rfl, rfl⟩)⟩

/-- A replication id that reads as an integer is loaded without its zeros. -/
theorem loaded_text_of_leading_zeros :
    let s : Surroundings := ⟨[("TELEMETRY__CLUSTER__REPLICATION_ID", "007")], ⟨[]⟩⟩
    Environment.Sets s.environment .replicationId "007" ∧
      ∃ c, NodeConfig.load s .empty = .ok c ∧ c.cluster.replicationId = some "7" ∧
        c.cluster.replicationId ≠ some "007" := by
  intro s
  have single : Environment.Single s.environment "TELEMETRY__CLUSTER__REPLICATION_ID" "007" .replicationId :=
    ⟨by simp [s], by decide, by decide +kernel, by decide +kernel⟩
  have means := Leaf.HoldsText.replicationId.means (Environment.value "007") (some "the environment")
  have env := single.proper rfl ⟨_, means⟩
  have set := single.sets_iff.mpr ⟨rfl, rfl⟩
  have holds : ConfigFile.Holds (s.environment.lookup "CONFIG_PATH") s .empty [] := rfl
  obtain ⟨c, loaded, governed⟩ := exists_governed env ConfigFile.proper_nil NodeConfig.fits_default holds
  have id : c.cluster.replicationId = _ := (governed .replicationId).eq_of_variable env set means
  have seven : Decoder.written (Environment.value "007") = "7" := by decide +kernel
  rw [seven] at id
  exact ⟨set, c, loaded, id, by rw [id]; decide⟩

end NodeTelemetry
