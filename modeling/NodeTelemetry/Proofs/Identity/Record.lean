import NodeTelemetry.Proofs.Identity.Document
import NodeTelemetry.Proofs.Text.Hex

/-!
# What records give

An instance id is taken from a record exactly if the record can be read and the
last field of that name stands for an object id, whatever the other fields are
(`Document.instanceId_eq_ok_iff`). A record that was written for an id gives that
id.
-/

namespace NodeTelemetry.Record

/-- A value that stands for an object id: the id, its digits in either case, or a nested document that a field
    `$oid` makes that id. -/
inductive Value.Denotes (o : ObjectId) : Value → Prop where
  | id : Denotes o (.id o)
  | text {s : String} (same : s.toLower = o.text) : Denotes o (.text s)
  | document {fields : Fields} (made : fields.meaning false = some (.id o)) : Denotes o (.document fields)

/-- A document from which an instance id can be taken. -/
def Document.Gives (D : Document) (o : ObjectId) : Prop :=
  D.Decodable ∧ ∃ v, D.fields.get? idKey = some v ∧ v.Denotes o

/-! ## The last field of a name -/

theorem Fields.lookup_meaning (name : String) : ∀ {isList : Bool} {fields : Fields} {fs : List (String × Field)},
    fields.meaning isList = some (.fields fs) →
    fs.reverse.lookup name = (fields.get? name).bind Value.meaning ∧ ∀ v, fields.get? name = some v → v.meaning ≠ none
  | isList, .nil, fs, meant => by
    cases meant
    simp [get?]
  | isList, .cons key value rest, fs, meant => by
    obtain ⟨field, first, meant⟩ := Option.bind_eq_some_iff.mp meant
    split at meant
    · obtain ⟨o, _, made⟩ := Option.bind_eq_some_iff.mp meant
      cases made
    obtain ⟨c, later, made⟩ := Option.bind_eq_some_iff.mp meant
    cases c with
    | id o => cases made
    | fields fs' =>
      cases made
      obtain ⟨last, all⟩ := lookup_meaning name later
      rw [get?, List.reverse_append, List.lookup_append, last]
      cases found : rest.get? name with
      | some w =>
        -- a later field of the same name counts
        obtain ⟨f, means⟩ := Option.ne_none_iff_exists'.mp (all w found)
        simp [means]
      | none =>
        by_cases same : key.text = name
        · simp [same, first]
        · simp [same, Ne.symm same]

/-- A list is no object id, whatever its items are named. -/
theorem Fields.fields_of_list : ∀ {items : Fields} {c : Content}, items.meaning true = some c → ∃ fs, c = .fields fs
  | .nil, c, meant => ⟨[], (Option.some.inj meant).symm⟩
  | .cons key value rest, c, meant => by
    obtain ⟨field, _, meant⟩ := Option.bind_eq_some_iff.mp meant
    obtain ⟨c', later, made⟩ := Option.bind_eq_some_iff.mp meant
    obtain ⟨fs, rfl⟩ := fields_of_list later
    cases made
    exact ⟨_, rfl⟩

/-- The object id that a field holds. -/
def Field.instanceId? : Field → Option ObjectId
  | .id o => some o
  | .text s => ObjectId.ofText? s
  | _ => none

theorem Value.denotes_iff {v : Value} {o : ObjectId} : v.Denotes o ↔ v.meaning.bind Field.instanceId? = some o := by
  constructor
  · rintro (_ | same | made)
    · rfl
    · exact ObjectId.ofText?_eq_some_iff.mpr same
    · simp [meaning, made, Content.field, Field.instanceId?]
  · intro held
    cases v with
    | id o' =>
      cases held
      exact .id
    | text s => exact .text (ObjectId.ofText?_eq_some_iff.mp held)
    | document fields =>
      rw [meaning] at held
      rcases made : fields.meaning false with _ | _ | o'
      · simp [made] at held
      · simp [made, Content.field, Field.instanceId?] at held
      · rw [made] at held
        cases held
        exact .document made
    | list items =>
      rw [meaning] at held
      cases made : items.meaning true with
      | none => simp [made] at held
      | some c =>
        obtain ⟨fs, rfl⟩ := Fields.fields_of_list made
        simp [made, Content.field, Field.instanceId?] at held
    | blob kind bytes =>
      rw [meaning] at held
      split at held <;> cases held
    | closure s scope =>
      rw [meaning] at held
      split at held <;> cases held
    | _ => cases held

/-! ## Records -/

namespace Document

variable {D : Document} (more : List UInt8)

theorem instanceId_of_not_decodable (spoiled : ¬ D.Decodable) : instanceId (D.bytes ++ more) = .error .malformed := by
  have none : readRecord (D.bytes ++ more) = none := by
    rw [readRecord_bytes]
    split
    · next fs meant => exact absurd ⟨fs, meant⟩ spoiled
    · rfl
  rw [instanceId, none]

theorem instanceId_of_decodable (readable : D.Decodable) :
    instanceId (D.bytes ++ more) =
      match D.fields.get? idKey with
      | none => .error .missingId
      | some v =>
        match v.meaning.bind Field.instanceId? with
        | some o => .ok o
        | none => .error .notAnId := by
  obtain ⟨fs, meant⟩ := readable
  obtain ⟨last, all⟩ := Fields.lookup_meaning idKey meant
  have read : readRecord (D.bytes ++ more) = some fs := by rw [readRecord_bytes, meant]
  simp only [instanceId, read, last]
  cases found : D.fields.get? idKey with
  | none => rfl
  | some v =>
    obtain ⟨field, means⟩ := Option.ne_none_iff_exists'.mp (all v found)
    simp only [Option.bind_some, means]
    cases field with
    | text s => rcases ObjectId.ofText? s with _ | o <;> rfl
    | _ => rfl

/-- A record gives an instance id exactly if its document does, whatever follows it. -/
theorem instanceId_eq_ok_iff {o : ObjectId} : instanceId (D.bytes ++ more) = .ok o ↔ D.Gives o := by
  by_cases readable : D.Decodable
  · rw [instanceId_of_decodable more readable]
    cases found : D.fields.get? idKey with
    | none => simp [Gives, found]
    | some v =>
      simp only [Gives, readable, true_and, found, Option.some.injEq, exists_eq_left', Value.denotes_iff]
      cases v.meaning.bind Field.instanceId? <;> simp
  · simp [instanceId_of_not_decodable more readable, Gives, readable]

end Document

/-! ## The record of an id -/

theorem length_idKey : (Text.toBytes idKey).length = 14 := by decide +kernel

/-- The document of a record that was written for an id. -/
def Document.ofId (o : ObjectId) : Document where
  fields := .cons ⟨idKey, by decide +kernel⟩ (.id o) .nil
  fits := by simp [length_framed, Fields.bytes, Value.bytes, o.length_eq, length_idKey]

theorem Document.bytes_ofId (o : ObjectId) : (Document.ofId o).bytes = Record.ofId o := by
  simp [ofId, bytes, framed, Fields.bytes, Value.bytes, Value.type, Record.ofId, lengthBytes, o.length_eq, length_idKey]

/-- A record that was written for an id gives that id. -/
theorem instanceId_ofId (o : ObjectId) : instanceId (ofId o) = .ok o := by
  have gives : (Document.ofId o).Gives o := ⟨⟨[(idKey, .id o)], rfl⟩, .id o, rfl, .id⟩
  have given := (Document.instanceId_eq_ok_iff []).mpr gives
  rwa [List.append_nil, Document.bytes_ofId] at given

end NodeTelemetry.Record
