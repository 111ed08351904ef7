import NodeTelemetry.Identity.Record

/-!
# Binary documents

The documents of which a record is one, with fields of all types, nested to any
depth, and the bytes they are written as. A record is read exactly as its document
says (`Document.readRecord_bytes`), whatever follows it, and no record is read that
breaks off before the end of its document (`Document.readRecord_of_prefix`).

What a document says has one peculiarity. A field `$oid` makes the nested document
in which it stands an object id, and spoils the record if it gives none.
-/

namespace NodeTelemetry.Record

/-! ## Documents and their bytes -/

/-- A text that can be written with a zero byte behind it. -/
structure Key where
  text : String
  plain : 0 ∉ Text.toBytes text

/-- Types whose values take a certain number of bytes. -/
inductive Scalar where
  | double | undefined | date | null | int | timestamp | long | decimal | least | greatest

def Scalar.type : Scalar → UInt8
  | double => 1
  | undefined => 6
  | date => 9
  | null => 10
  | int => 16
  | timestamp => 17
  | long => 18
  | decimal => 19
  | greatest => 127
  | least => 255

def Scalar.width : Scalar → Nat
  | undefined | null | greatest | least => 0
  | int => 4
  | double | date | timestamp | long => 8
  | decimal => 16

mutual

inductive Value where
  | scalar (kind : Scalar) (bytes : List UInt8) (fits : bytes.length = kind.width)
  | flag (b : Bool)
  | id (o : ObjectId)
  | text (s : String)
  | symbol (s : String)
  | code (s : String)
  | closure (s : String) (scope : Fields)
  | blob (kind : UInt8) (bytes : List UInt8)
  | pattern (expression options : Key)
  | pointer (collection : String) (o : ObjectId)
  | document (fields : Fields)
  | list (items : Fields)

inductive Fields where
  | nil
  | cons (key : Key) (value : Value) (rest : Fields)

end

def Value.type : Value → UInt8
  | scalar kind _ _ => kind.type
  | text _ => 2
  | document _ => 3
  | list _ => 4
  | blob _ _ => 5
  | id _ => 7
  | flag _ => 8
  | pattern _ _ => 11
  | pointer _ _ => 12
  | code _ => 13
  | symbol _ => 14
  | closure _ _ => 15

/-- A length in four bytes, least significant first. -/
def lengthBytes (n : Nat) : List UInt8 :=
  [UInt8.ofNat n, UInt8.ofNat (n / 256), UInt8.ofNat (n / 65536), UInt8.ofNat (n / 16777216)]

/-- The bytes of a text with its length in front. -/
def textBytes (s : String) : List UInt8 :=
  lengthBytes ((Text.toBytes s).length + 1) ++ (Text.toBytes s ++ [0])

/-- The bytes of a document with certain fields. -/
def framed (fields : List UInt8) : List UInt8 := lengthBytes (fields.length + 5) ++ (fields ++ [0])

mutual

def Value.bytes : Value → List UInt8
  | .scalar _ bytes _ => bytes
  | .flag b => [if b then 1 else 0]
  | .id o => o.bytes
  | .text s | .symbol s | .code s => textBytes s
  | .closure s scope =>
    lengthBytes ((textBytes s).length + (framed scope.bytes).length + 4) ++ (textBytes s ++ framed scope.bytes)
  | .blob kind bytes =>
    if kind = 2 then lengthBytes (bytes.length + 4) ++ kind :: (lengthBytes bytes.length ++ bytes)
    else lengthBytes bytes.length ++ kind :: bytes
  | .pattern expression options => Text.toBytes expression.text ++ 0 :: (Text.toBytes options.text ++ [0])
  | .pointer collection o => textBytes collection ++ o.bytes
  | .document fields | .list fields => framed fields.bytes

def Fields.bytes : Fields → List UInt8
  | .nil => []
  | .cons key value rest => value.type :: (Text.toBytes key.text ++ 0 :: (value.bytes ++ rest.bytes))

end

/-- A document that is not too long for its length to be written. -/
structure Document where
  fields : Fields
  fits : (framed fields.bytes).length < 2147483648

def Document.bytes (D : Document) : List UInt8 := framed D.fields.bytes

/-! ## What documents say -/

/-- The content of a document that also has certain fields in front, the last one first. -/
def Content.behind (before : List (String × Field)) : Content → Content
  | fields fs => fields (before.reverse ++ fs)
  | id o => id o

mutual

/-- What a value amounts to, unless it spoils the record. -/
def Value.meaning : Value → Option Field
  | .id o => some (.id o)
  | .text s => some (.text s)
  | .blob kind bytes => some (if kind = 0 then .bytes bytes else .other)
  | .document fields => (fields.meaning false).map Content.field
  | .list items => (items.meaning true).map Content.field
  | .closure _ scope =>
    match scope.meaning false with
    | some (.fields _) => some .other
    | _ => none
  | _ => some .other

/-- What the fields of a document or list amount to. -/
def Fields.meaning : Bool → Fields → Option Content
  | _, .nil => some (.fields [])
  | isList, .cons key value rest => do
    let field ← value.meaning
    -- what is behind this field does not count
    if !isList && key.text = oidKey then return .id (← field.objectId?)
    return (← rest.meaning isList).behind [(key.text, field)]

end

/-- The value of a field. Of several fields of that name the last counts. -/
def Fields.get? (name : String) : Fields → Option Value
  | .nil => none
  | .cons key value rest => (rest.get? name).or (if key.text = name then some value else none)

/-- A record that can be read. -/
def Document.Decodable (D : Document) : Prop := ∃ fs, D.fields.meaning false = some (.fields fs)

mutual

/-- A value that holds no document with a field `$oid`. -/
def Value.Ordinary : Value → Prop
  | .document fields => fields.Ordinary false
  | .closure _ scope => scope.Ordinary false
  | .list items => items.Ordinary true
  | _ => True

def Fields.Ordinary : Bool → Fields → Prop
  | _, .nil => True
  | isList, .cons key value rest => (isList = false → key.text ≠ oidKey) ∧ value.Ordinary ∧ rest.Ordinary isList

end

mutual

theorem Value.meaning_of_ordinary : ∀ {v : Value}, v.Ordinary → ∃ f, v.meaning = some f
  | .document fields, ordinary => by
    obtain ⟨fs, meant⟩ := Fields.meaning_of_ordinary ordinary
    exact ⟨_, by rw [Value.meaning, meant]; rfl⟩
  | .closure s scope, ordinary => by
    obtain ⟨fs, meant⟩ := Fields.meaning_of_ordinary ordinary
    exact ⟨_, by rw [Value.meaning, meant]⟩
  | .list items, ordinary => by
    obtain ⟨fs, meant⟩ := Fields.meaning_of_ordinary ordinary
    exact ⟨_, by rw [Value.meaning, meant]; rfl⟩
  | .scalar _ _ _, _ | .flag _, _ | .id _, _ | .text _, _ | .symbol _, _ | .code _, _ | .blob _ _, _
  | .pattern _ _, _ | .pointer _ _, _ => ⟨_, rfl⟩

theorem Fields.meaning_of_ordinary : ∀ {isList : Bool} {fields : Fields}, fields.Ordinary isList →
    ∃ fs, fields.meaning isList = some (.fields fs)
  | _, .nil, _ => ⟨[], rfl⟩
  | isList, .cons key value rest, ordinary => by
    obtain ⟨named, first, later⟩ := ordinary
    obtain ⟨field, meant⟩ := Value.meaning_of_ordinary first
    obtain ⟨fs, meant'⟩ := Fields.meaning_of_ordinary later
    refine ⟨(key.text, field) :: fs, ?_⟩
    rw [Fields.meaning, meant, meant']
    cases isList with
    | true => rfl
    | false => simp [named rfl, Content.behind]

end

/-- Whatever the fields hold, a record can be read if no document in it has a field `$oid`. -/
theorem Document.decodable_of_ordinary {D : Document} (ordinary : D.fields.Ordinary false) : D.Decodable :=
  Fields.meaning_of_ordinary ordinary

/-! ## Texts, blobs and frames -/

theorem take_append (taken rest : List UInt8) : take taken.length (taken ++ rest) = some (taken, rest) := by
  simp [take]

theorem readName_toBytes {name : String} (plain : 0 ∉ Text.toBytes name) (rest : List UInt8) :
    readName (Text.toBytes name ++ 0 :: rest) = some (name, rest) := by
  have inside : ∀ b ∈ Text.toBytes name, (decide (b ≠ 0)) = true := by
    intro b member
    exact decide_eq_true fun zero => plain (zero ▸ member)
  unfold readName
  rw [List.dropWhile_append_of_pos inside, List.takeWhile_append_of_pos inside]
  simp

theorem length_lengthBytes (n : Nat) : (lengthBytes n).length = 4 := rfl

theorem readLength_lengthBytes {n : Nat} (short : n < 2147483648) (rest : List UInt8) :
    readLength (lengthBytes n ++ rest) = some (n, rest) := by
  have value : n % 256 + 256 * (n / 256 % 256 + 256 * (n / 65536 % 256 + 256 * (n / 16777216 % 256))) = n := by
    omega
  simp [lengthBytes, readLength, value, short]

theorem take_of_length {n : Nat} {taken : List UInt8} (long : taken.length = n) (rest : List UInt8) :
    take n (taken ++ rest) = some (taken, rest) := long ▸ take_append taken rest

theorem skip_of_length {n : Nat} {taken : List UInt8} (long : taken.length = n) (rest : List UInt8) :
    skip n (taken ++ rest) = some rest := by
  rw [skip, take_of_length long]
  rfl

theorem length_textBytes (s : String) : (textBytes s).length = (Text.toBytes s).length + 5 := by
  simp [textBytes, length_lengthBytes]
  omega

theorem length_framed (fields : List UInt8) : (framed fields).length = fields.length + 5 := by
  simp [framed, length_lengthBytes]
  omega

theorem readText_textBytes {s : String} (short : (textBytes s).length < 2147483648) (rest : List UInt8) :
    readText (textBytes s ++ rest) = some (s, rest) := by
  have long : (Text.toBytes s).length + 1 < 2147483648 := by
    rw [length_textBytes] at short
    omega
  have ended : (Text.toBytes s ++ [0]).length = (Text.toBytes s).length + 1 := by simp
  have whole := take_of_length ended rest
  rw [textBytes, List.append_assoc, readText, readLength_lengthBytes long]
  simp only [Option.bind_eq_bind, Option.bind_some, whole]
  simp

theorem takeDocument_framed {fields : List UInt8} (short : (framed fields).length < 2147483648) (rest : List UInt8) :
    takeDocument (framed fields ++ rest) = some (fields ++ [0], rest) := by
  have whole := take_of_length (length_framed fields) rest
  have length : readLength (framed fields ++ rest) = some (fields.length + 5, fields ++ [0] ++ rest) := by
    rw [length_framed] at short
    rw [framed, List.append_assoc, readLength_lengthBytes short]
  have behind : (framed fields).drop 4 = fields ++ [0] := List.drop_left' (length_lengthBytes _)
  have ends : (framed fields).getLast? = some 0 := by
    rw [framed, ← List.append_assoc]
    exact List.getLast?_concat
  simp [takeDocument, length, whole, ends, behind]

/-! ## Values -/

section

variable (fuel : Nat) (rest : List UInt8)

theorem readField_scalar {kind : Scalar} {bytes : List UInt8} (fits : bytes.length = kind.width) :
    readField (fuel + 1) kind.type (bytes ++ rest) = some (.other, rest) := by
  have whole := skip_of_length fits rest
  cases kind <;> simp_all [Scalar.type, Scalar.width, readField]

theorem readField_flag (b : Bool) : readField (fuel + 1) 8 ((if b then 1 else 0) :: rest) = some (.other, rest) := by
  cases b <;> simp [readField]

theorem readField_id (o : ObjectId) : readField (fuel + 1) 7 (o.bytes ++ rest) = some (.id o, rest) := by
  simp [readField, take_of_length o.length_eq]

theorem readField_blob {kind : UInt8} {bytes : List UInt8} (short : (Value.blob kind bytes).bytes.length < 2147483648) :
    readField (fuel + 1) 5 ((Value.blob kind bytes).bytes ++ rest) = (Value.blob kind bytes).meaning.map (·, rest) := by
  simp only [readField, readBlob, Value.bytes, Value.meaning] at short ⊢
  by_cases old : kind = 2
  · -- the length stands there twice
    subst old
    have counted : (lengthBytes bytes.length ++ bytes).length = bytes.length + 4 := by
      rw [List.length_append, length_lengthBytes, Nat.add_comm]
    have whole := take_of_length counted rest
    simp only [if_true, List.length_append, List.length_cons, length_lengthBytes] at short
    have outer := readLength_lengthBytes (n := bytes.length + 4) (by omega)
    have inner := readLength_lengthBytes (n := bytes.length) (by omega) bytes
    simp_all
  · have whole := take_append bytes rest
    simp only [if_neg old, List.length_append, List.length_cons, length_lengthBytes] at short
    have outer := readLength_lengthBytes (n := bytes.length) (by omega)
    by_cases general : kind = 0 <;> simp_all

theorem readField_pattern (expression options : Key) :
    readField (fuel + 1) 11 ((Value.pattern expression options).bytes ++ rest) = some (.other, rest) := by
  simp [readField, Value.bytes, readName_toBytes expression.plain, readName_toBytes options.plain]

theorem readField_pointer {collection : String} (o : ObjectId)
    (short : (Value.pointer collection o).bytes.length < 2147483648) :
    readField (fuel + 1) 12 ((Value.pointer collection o).bytes ++ rest) = some (.other, rest) := by
  have whole := skip_of_length o.length_eq rest
  rw [Value.bytes, List.length_append] at short
  have text := readText_textBytes (s := collection) (by omega) (o.bytes ++ rest)
  simp [readField, Value.bytes, text, whole]

theorem readField_closure {s : String} {scope : Fields}
    (short : (Value.closure s scope).bytes.length < 2147483648)
    (inside : readContent fuel false [] (scope.bytes ++ [0]) = scope.meaning false) :
    readField (fuel + 1) 15 ((Value.closure s scope).bytes ++ rest) = (Value.closure s scope).meaning.map (·, rest) := by
  have written := length_textBytes s
  have framed' := length_framed scope.bytes
  have counted : (textBytes s).length + (framed scope.bytes).length + 4 =
      8 + ((Text.toBytes s).length + 1) + (scope.bytes.length + 5) := by omega
  simp only [Value.bytes, List.length_append, length_lengthBytes] at short
  have length := readLength_lengthBytes (n := 8 + ((Text.toBytes s).length + 1) + (scope.bytes.length + 5)) (by omega)
    (textBytes s ++ (framed scope.bytes ++ rest))
  have code := readText_textBytes (s := s) (by omega) (framed scope.bytes ++ rest)
  have short' : (framed scope.bytes).length < 2147483648 := by omega
  have framing := takeDocument_framed short' rest
  have codeLength : readLength (textBytes s ++ (framed scope.bytes ++ rest)) = some ((Text.toBytes s).length + 1,
      Text.toBytes s ++ [0] ++ (framed scope.bytes ++ rest)) := by
    rw [textBytes, List.append_assoc, readLength_lengthBytes (by omega)]
  have scopeLength : readLength (framed scope.bytes ++ rest) = some (scope.bytes.length + 5, scope.bytes ++ [0] ++ rest) := by
    rw [framed, List.append_assoc, readLength_lengthBytes (by omega)]
  simp only [readField, Value.bytes, List.append_assoc, counted, length, code, framing, codeLength, scopeLength,
    Option.bind_eq_bind, Option.bind_some, ne_eq, not_true, if_false, inside, Value.meaning]
  rcases scope.meaning false with _ | ⟨fs⟩ | ⟨o⟩ <;> rfl

/-- A value is read as what it means, if the documents and lists in it are. -/
theorem readField_bytes {v : Value} (short : v.bytes.length < 2147483648)
    (nested : ∀ isList (fs : Fields), (framed fs.bytes).length ≤ v.bytes.length →
      readContent fuel isList [] (fs.bytes ++ [0]) = fs.meaning isList) :
    readField (fuel + 1) v.type (v.bytes ++ rest) = v.meaning.map (·, rest) := by
  cases v with
  | scalar kind bytes fits => simpa [Value.bytes, Value.type, Value.meaning] using readField_scalar fuel rest fits
  | flag b => simpa [Value.bytes, Value.type, Value.meaning] using readField_flag fuel rest b
  | id o => simpa [Value.bytes, Value.type, Value.meaning] using readField_id fuel rest o
  | text s | symbol s | code s => simp_all [Value.bytes, Value.type, Value.meaning, readField, readText_textBytes]
  | closure s scope =>
    have part : (framed scope.bytes).length ≤ (Value.closure s scope).bytes.length := by
      simp only [Value.bytes, List.length_append]
      omega
    exact readField_closure fuel rest short (nested false scope part)
  | blob kind bytes => exact readField_blob fuel rest short
  | pattern expression options => exact readField_pattern fuel rest expression options
  | pointer collection o => exact readField_pointer fuel rest o short
  | document fields =>
    rw [Value.bytes] at short nested ⊢
    rw [Value.type, readField, takeDocument_framed short, Value.meaning]
    simp only [Option.bind_eq_bind, Option.bind_some, nested false fields (Nat.le_refl _)]
    cases fields.meaning false <;> rfl
  | list items =>
    rw [Value.bytes] at short nested ⊢
    rw [Value.type, readField, takeDocument_framed short, Value.meaning]
    simp only [Option.bind_eq_bind, Option.bind_some, nested true items (Nat.le_refl _)]
    cases items.meaning true <;> rfl

end

/-! ## Fields -/

theorem Content.behind_nil (c : Content) : c.behind [] = c := by
  cases c <;> simp [behind]

theorem Content.behind_behind (before after : List (String × Field)) (c : Content) :
    (c.behind after).behind before = c.behind (after ++ before) := by
  cases c <;> simp [behind]

theorem readContent_nil (fuel : Nat) (isList : Bool) (before : List (String × Field)) :
    readContent fuel isList before (Fields.nil.bytes ++ [0]) = (Fields.nil.meaning isList).map (.behind before) := by
  simp [Fields.bytes, Fields.meaning, readContent, Content.behind]

/-- Fields are read as what they mean, if the first one and the others are. -/
theorem readContent_cons {fuel : Nat} {isList : Bool} {key : Key} {value : Value} {rest : Fields}
    (first : readField fuel value.type (value.bytes ++ (rest.bytes ++ [0])) = value.meaning.map (·, rest.bytes ++ [0]))
    (later : ∀ before, readContent fuel isList before (rest.bytes ++ [0]) = (rest.meaning isList).map (.behind before))
    (before : List (String × Field)) :
    readContent (fuel + 1) isList before ((Fields.cons key value rest).bytes ++ [0]) =
      ((Fields.cons key value rest).meaning isList).map (.behind before) := by
  have named := readName_toBytes key.plain (value.bytes ++ (rest.bytes ++ [0]))
  rw [Fields.bytes, List.cons_append, readContent, Fields.meaning]
  · simp only [List.append_assoc, List.cons_append, named, Option.bind_eq_bind, Option.bind_some, first]
    rcases value.meaning with _ | field
    · rfl
    simp only [Option.map_some, Option.bind_some]
    split
    · -- the field makes an object id of the document, or spoils the record
      rcases field.objectId? with _ | o <;> rfl
    · rw [later]
      rcases rest.meaning isList with _ | c
      · rfl
      · exact congrArg some (c.behind_behind before [(key.text, field)]).symm
  · simp

/-- Values and fields are read as what they mean, if the fuel suffices. -/
theorem read_bytes (fuel : Nat) :
    (∀ v : Value, v.bytes.length < 2147483648 → 2 * v.bytes.length < fuel → ∀ rest,
      readField fuel v.type (v.bytes ++ rest) = v.meaning.map (·, rest)) ∧
    (∀ isList (fs : Fields) before, fs.bytes.length < 2147483648 → 2 * fs.bytes.length ≤ fuel →
      readContent fuel isList before (fs.bytes ++ [0]) = (fs.meaning isList).map (.behind before)) := by
  induction fuel with
  | zero =>
    refine ⟨fun v _ enough => absurd enough (Nat.not_lt_zero _), fun isList fs before _ enough => ?_⟩
    cases fs with
    | nil => exact readContent_nil 0 isList before
    | cons key value rest => simp [Fields.bytes] at enough
  | succ fuel ih =>
    obtain ⟨values, contents⟩ := ih
    refine ⟨fun v short enough rest => ?_, fun isList fs before short enough => ?_⟩
    · refine readField_bytes fuel rest short fun isList fs part => ?_
      rw [length_framed] at part
      rw [contents isList fs [] (by omega) (by omega), funext Content.behind_nil, Option.map_id']
    · cases fs with
      | nil => exact readContent_nil (fuel + 1) isList before
      | cons key value rest =>
        simp only [Fields.bytes, List.length_cons, List.length_append] at short enough
        refine readContent_cons (values value (by omega) (by omega) _) (fun before => ?_) before
        exact contents isList rest before (by omega) (by omega)

/-! ## Records -/

theorem readLength_append {s rest : List UInt8} {n : Nat} (read : readLength s = some (n, rest)) (more : List UInt8) :
    readLength (s ++ more) = some (n, rest ++ more) := by
  match s with
  | a :: b :: c :: d :: s =>
    simp only [readLength, List.cons_append] at read ⊢
    split at read <;> simp_all
  | [] | [_] | [_, _] | [_, _, _] => cases read

theorem take_eq_some_iff {n : Nat} {s taken rest : List UInt8} :
    take n s = some (taken, rest) ↔ taken.length = n ∧ s = taken ++ rest := by
  constructor
  · intro read
    unfold take at read
    simp only [List.splitAt_eq] at read
    split at read
    · next long =>
      cases read
      exact ⟨long, (List.take_append_drop n s).symm⟩
    · cases read
  · rintro ⟨long, rfl⟩
    exact take_of_length long rest

theorem takeDocument_eq_some_iff {s inside rest : List UInt8} :
    takeDocument s = some (inside, rest) ↔ ∃ n after whole, readLength s = some (n, after) ∧ 5 ≤ n ∧
      take n s = some (whole, rest) ∧ whole.getLast? = some 0 ∧ inside = whole.drop 4 := by
  unfold takeDocument
  simp only [Option.bind_eq_bind, Option.bind_eq_some_iff, Prod.exists]
  refine exists_congr fun n => exists_congr fun after => ?_
  by_cases short : n < 5
  · simp [short, Nat.not_le.mpr short]
  · simp only [short, if_false, Option.bind_eq_some_iff, Prod.exists]
    constructor
    · rintro ⟨length, whole, behind, read, last⟩
      split at last
      · cases last
      · next ends =>
        cases last
        exact ⟨whole, length, Nat.not_lt.mp short, read, Decidable.not_not.mp ends, rfl⟩
    · rintro ⟨whole, length, _, read, ends, rfl⟩
      exact ⟨length, whole, rest, read, by rw [if_neg (not_not_intro ends)]; rfl⟩

/-- A document that can be taken can be taken whatever follows. -/
theorem takeDocument_append {s inside rest : List UInt8} (taken : takeDocument s = some (inside, rest))
    (more : List UInt8) : takeDocument (s ++ more) = some (inside, rest ++ more) := by
  obtain ⟨n, after, whole, length, enough, read, ends, same⟩ := takeDocument_eq_some_iff.mp taken
  obtain ⟨long, rfl⟩ := take_eq_some_iff.mp read
  rw [List.append_assoc]
  have again := readLength_append length more
  rw [List.append_assoc] at again
  exact takeDocument_eq_some_iff.mpr ⟨n, _, whole, again, enough, take_of_length long _, ends, same⟩

namespace Document

variable (D : Document)

/-- A record is read as its document says, whatever follows it. -/
theorem readRecord_bytes (more : List UInt8) :
    readRecord (D.bytes ++ more) =
      match D.fields.meaning false with
      | some (.fields fs) => some fs
      | _ => none := by
  have short := D.fits
  rw [length_framed] at short
  have inside := (read_bytes (2 * (D.fields.bytes ++ [0]).length)).2 false D.fields [] (by omega)
    (by rw [List.length_append]; omega)
  simp only [readRecord, bytes, takeDocument_framed D.fits, Option.bind_eq_bind, Option.bind_some, inside]
  rcases D.fields.meaning false with _ | ⟨fs⟩ | ⟨o⟩ <;> rfl

/-- A record that breaks off is not read. -/
theorem readRecord_of_prefix {cut : List UInt8} (front : cut <+: D.bytes) (part : cut ≠ D.bytes) :
    readRecord cut = none := by
  obtain ⟨lost, whole⟩ := front
  have frame := takeDocument_framed D.fits []
  rw [List.append_nil, ← bytes, ← whole] at frame
  cases taken : takeDocument cut with
  | none => simp [readRecord, taken]
  | some p =>
    obtain ⟨inside, rest⟩ := p
    have behind := takeDocument_append taken lost
    rw [frame] at behind
    have nothing := (Prod.mk.inj (Option.some.inj behind)).2
    rw [(List.append_eq_nil_iff.mp nothing.symm).2, List.append_nil] at whole
    exact absurd whole part

end Document

end NodeTelemetry.Record
