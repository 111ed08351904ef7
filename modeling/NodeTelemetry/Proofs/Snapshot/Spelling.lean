import NodeTelemetry.Proofs.Json.Skipping
import NodeTelemetry.Proofs.Json.Values
import NodeTelemetry.Proofs.Snapshot.RoundTrip

/-!
# The documents of a snapshot

A snapshot can be written in many ways: its members in any order and laid out in
any way, among members that nobody asks for, with words and flags as texts or raw,
and without what its default restores. This says which documents are those of a
snapshot (`Document.Spells`) and shows that they and no others are read as it.
-/

namespace NodeTelemetry.Snapshot

open Json

/-! ## What a snapshot says under a key -/

inductive Part where
  | text (s : String)
  | shown (o : Option String)
  | texts (items : List String)
  | word (n : UInt64)
  | flag (b : Bool)
  deriving DecidableEq

def part (s : Snapshot) : Key → Part
  | .instanceId => .text s.instanceId
  | .internalId => .text s.internalId
  | .source => .text s.source
  | .storageEngine => .text s.storageEngine
  | .proFeatures => .texts s.proFeatures
  | .pillarVersion => .text s.pillarVersion
  | .uptime => .word s.uptime
  | .replicationState => .shown s.replicationState
  | .replicationId => .shown s.replicationId
  | .shardServer => .flag s.shardServer
  | .configServer => .flag s.configServer
  | .capturedAt => .word s.capturedAt

/-- What is understood when a member is left out, if it may be. -/
def Key.default? : Key → Option Part
  | .proFeatures => some (.texts [])
  | .replicationState | .replicationId => some (.shown none)
  | .shardServer | .configServer => some (.flag false)
  | _ => none

theorem Key.hasDefault_eq (key : Key) : key.hasDefault = key.default?.isSome := by
  cases key <;> rfl

/-- The values with which a document may say it. -/
def Part.Spelled (t : Tree) : Part → Prop
  | text s => t.text? = some s
  | shown none => t = .null
  | shown (some s) => t.text? = some s
  | texts items => t.texts? = some items
  | word n => t.IsWord n.toNat
  | flag b => t.IsFlag b

/-! ## Documents -/

/-- An object with blanks around it. -/
structure Document where
  before : Gap
  members : Members
  after : Gap

/-- The key of a snapshot that a text between quotes is, if it is one. -/
def keyOf? (l : Literal) : Option Key := l.text?.bind Key.ofName?

/-- The keys of a snapshot that members have, in order. -/
def keysOf (ms : List (Literal × Tree)) : List Key := ms.filterMap fun m => keyOf? m.1

namespace Document

def bytes (D : Document) : List UInt8 := D.before.bytes ++ 123 :: (D.members.bytes true ++ 125 :: D.after.bytes)

/-- The keys of a snapshot that a document has. -/
def keys (D : Document) : List Key := keysOf D.members.toList

/-- A document is one of a snapshot. Keys that are none of a snapshot may have any value and stand anywhere,
    also more than once. -/
structure Spells (D : Document) (s : Snapshot) : Prop where
  /-- The keys stand for texts, which is all that is asked of the unknown ones. -/
  named : ∀ m ∈ D.members.toList, m.1.text? ≠ none
  once : D.keys.Nodup
  spelled : ∀ m ∈ D.members.toList, ∀ key, keyOf? m.1 = some key → (s.part key).Spelled m.2
  omitted : ∀ key, key ∉ D.keys → key.default? = some (s.part key)

end Document

/-! ## Drafts by their keys -/

namespace Draft

def part? (d : Draft) : Key → Option Part
  | .instanceId => d.instanceId.map .text
  | .internalId => d.internalId.map .text
  | .source => d.source.map .text
  | .storageEngine => d.storageEngine.map .text
  | .proFeatures => d.proFeatures.map .texts
  | .pillarVersion => d.pillarVersion.map .text
  | .uptime => d.uptime.map .word
  | .replicationState => d.replicationState.map .shown
  | .replicationId => d.replicationId.map .shown
  | .shardServer => d.shardServer.map .flag
  | .configServer => d.configServer.map .flag
  | .capturedAt => d.capturedAt.map .word

theorem has_eq (d : Draft) (key : Key) : d.has key = (d.part? key).isSome := by
  cases key <;> exact Option.isSome_map.symm

theorem part?_put_self (s : Snapshot) (d : Draft) (key : Key) : (d.put s key).part? key = some (s.part key) := by
  cases key <;> rfl

theorem part?_put_of_ne (s : Snapshot) (d : Draft) {key other : Key} (ne : other ≠ key) :
    (d.put s key).part? other = d.part? other := by
  cases key <;> cases other <;> first | rfl | exact absurd rfl ne

/-- Members that are put in stand in the draft, and the others are as they were. -/
theorem part?_foldl_put (s : Snapshot) (keys : List Key) (d : Draft) (key : Key) :
    (keys.foldl (put s) d).part? key = if key ∈ keys then some (s.part key) else d.part? key := by
  induction keys generalizing d with
  | nil => rfl
  | cons k keys ih =>
    rw [List.foldl_cons, ih]
    by_cases later : key ∈ keys
    · simp [later]
    · by_cases here : key = k
      · subst here
        simp [later, part?_put_self]
      · simp [later, here, part?_put_of_ne s d here]

theorem need_eq_ok {α : Type} {key : Key} {o : Option α} {v : α} : need key o = .ok v ↔ o = some v := by
  cases o <;> simp [need]

/-- A draft is finished as the snapshot that says what the draft says, and by default what it does not. -/
theorem finish_eq_ok_iff {d : Draft} {s : Snapshot} :
    d.finish = .ok s ↔ ∀ key, (d.part? key).or key.default? = some (s.part key) := by
  simp only [finish, Except.bind_eq_ok_iff, need_eq_ok]
  constructor
  · rintro ⟨_, instanceId, _, internalId, _, source, _, storageEngine, _, pillarVersion, _, uptime, _, capturedAt, done⟩ key
    cases done
    cases key
    case proFeatures => cases features : d.proFeatures <;> simp [part?, features, Key.default?, part]
    case replicationState => cases state : d.replicationState <;> simp [part?, state, Key.default?, part]
    case replicationId => cases id : d.replicationId <;> simp [part?, id, Key.default?, part]
    case shardServer => cases flag : d.shardServer <;> simp [part?, flag, Key.default?, part]
    case configServer => cases flag : d.configServer <;> simp [part?, flag, Key.default?, part]
    all_goals simp [part?, part, *]
  · intro parts
    -- what must be there has no default, so the draft has it
    have needed {α : Type} {o : Option α} {v : α} {make : α → Part} (inj : Function.Injective make)
        (same : (o.map make).or none = some (make v)) : o = some v := by
      rw [Option.or_none] at same
      exact Option.map_injective inj same
    have restored {α : Type} {o : Option α} {v w : α} {make : α → Part} (inj : Function.Injective make)
        (same : (o.map make).or (some (make w)) = some (make v)) : o.getD w = v := by
      cases o with
      | none => exact inj (Option.some.inj same)
      | some u => exact inj (Option.some.inj same)
    have text : Function.Injective Part.text := fun _ _ => Part.text.inj
    have word : Function.Injective Part.word := fun _ _ => Part.word.inj
    have shown : Function.Injective Part.shown := fun _ _ => Part.shown.inj
    have flag : Function.Injective Part.flag := fun _ _ => Part.flag.inj
    refine ⟨_, needed text (parts .instanceId), _, needed text (parts .internalId), _, needed text (parts .source), _,
      needed text (parts .storageEngine), _, needed text (parts .pillarVersion), _, needed word (parts .uptime), _,
      needed word (parts .capturedAt), ?_⟩
    rw [restored (fun _ _ => Part.texts.inj) (parts .proFeatures), restored shown (parts .replicationState),
      restored shown (parts .replicationId), restored flag (parts .shardServer), restored flag (parts .configServer)]
    rfl

/-- A snapshot that says nothing. -/
def blank : Snapshot where
  instanceId := ""
  internalId := ""
  source := ""
  storageEngine := ""
  proFeatures := []
  pillarVersion := ""
  uptime := 0
  replicationState := none
  replicationId := none
  shardServer := false
  configServer := false
  capturedAt := 0

/-- Reading a value puts it into the draft, if it is one that may stand under its key. -/
theorem read_tree {d d' : Draft} {key : Key} {g : Gap} {t : Tree} {rest rest' : List UInt8} (apart : Apart rest) :
    d.read key (g.bytes ++ (t.bytes ++ rest)) = .ok (d', rest') ↔
      ∃ s : Snapshot, (s.part key).Spelled t ∧ d' = d.put s key ∧ rest' = rest := by
  -- every value of a member is that of some snapshot
  have member {α : Type} {P : α → Prop} {x : Except Fault (α × List UInt8)} (f : α → Draft)
      (reads : ∀ v, x = .ok (v, rest') ↔ P v ∧ rest' = rest) (get : Snapshot → α) (set : α → Snapshot)
      (same : ∀ v, get (set v) = v) :
      (do let (v, rest) ← x; return (f v, rest)) = Except.ok (d', rest') ↔
        ∃ s, P (get s) ∧ d' = f (get s) ∧ rest' = rest := by
    simp only [Except.map_fst_eq_ok_iff, reads]
    constructor
    · rintro ⟨v, ⟨spelled, done⟩, made⟩
      exact ⟨set v, by rwa [same], by rwa [same], done⟩
    · rintro ⟨s, spelled, made, done⟩
      exact ⟨get s, ⟨spelled, done⟩, made⟩
  have text (v : String) : readString "a string" (g.bytes ++ (t.bytes ++ rest)) = .ok (v, rest') ↔ _ :=
    readString_tree g "a string"
  have shown (o : Option String) : readOptionalString "a string" (g.bytes ++ (t.bytes ++ rest)) = .ok (o, rest') ↔
      (Part.shown o).Spelled t ∧ rest' = rest := by
    rw [readOptionalString_tree]
    cases o <;> simp [Part.Spelled]
  have texts (v : List String) : readStrings (g.bytes ++ (t.bytes ++ rest)) = .ok (v, rest') ↔ _ := readStrings_tree g
  have word (v : UInt64) : readStoredWord 1 (g.bytes ++ (t.bytes ++ rest)) = .ok (v, rest') ↔ _ :=
    readStoredWord_tree g 1 apart
  have flag (v : Bool) : readStoredFlag 1 (g.bytes ++ (t.bytes ++ rest)) = .ok (v, rest') ↔ _ := readStoredFlag_tree g 1
  cases key
  case instanceId =>
    exact member (fun v => { d with instanceId := some v }) text (·.instanceId)
      (fun v => { blank with instanceId := v }) fun _ => rfl
  case internalId =>
    exact member (fun v => { d with internalId := some v }) text (·.internalId)
      (fun v => { blank with internalId := v }) fun _ => rfl
  case source =>
    exact member (fun v => { d with source := some v }) text (·.source)
      (fun v => { blank with source := v }) fun _ => rfl
  case storageEngine =>
    exact member (fun v => { d with storageEngine := some v }) text (·.storageEngine)
      (fun v => { blank with storageEngine := v }) fun _ => rfl
  case proFeatures =>
    exact member (fun v => { d with proFeatures := some v }) texts (·.proFeatures)
      (fun v => { blank with proFeatures := v }) fun _ => rfl
  case pillarVersion =>
    exact member (fun v => { d with pillarVersion := some v }) text (·.pillarVersion)
      (fun v => { blank with pillarVersion := v }) fun _ => rfl
  case uptime =>
    exact member (fun v => { d with uptime := some v }) word (·.uptime)
      (fun v => { blank with uptime := v }) fun _ => rfl
  case replicationState =>
    exact member (fun v => { d with replicationState := some v }) shown (·.replicationState)
      (fun v => { blank with replicationState := v }) fun _ => rfl
  case replicationId =>
    exact member (fun v => { d with replicationId := some v }) shown (·.replicationId)
      (fun v => { blank with replicationId := v }) fun _ => rfl
  case shardServer =>
    exact member (fun v => { d with shardServer := some v }) flag (·.shardServer)
      (fun v => { blank with shardServer := v }) fun _ => rfl
  case configServer =>
    exact member (fun v => { d with configServer := some v }) flag (·.configServer)
      (fun v => { blank with configServer := v }) fun _ => rfl
  case capturedAt =>
    exact member (fun v => { d with capturedAt := some v }) word (·.capturedAt)
      (fun v => { blank with capturedAt := v }) fun _ => rfl

end Draft

/-! ## Reading the members -/

/-- How members one after the other fill a draft: a member that nobody asks for leaves it as it is, and one of
    a snapshot is put in if it was not there before and has a value that spells it. -/
inductive Fills : Draft → List (Literal × Tree) → Draft → Prop
  | done {d : Draft} : Fills d [] d
  | unknown {d d' : Draft} {m : Literal × Tree} {ms : List (Literal × Tree)} {name : String}
      (named : m.1.text? = some name) (unknown : Key.ofName? name = none) (later : Fills d ms d') : Fills d (m :: ms) d'
  | known {d d' : Draft} {m : Literal × Tree} {ms : List (Literal × Tree)} {key : Key} {s : Snapshot}
      (known : keyOf? m.1 = some key) (fresh : d.has key = false) (spelled : (s.part key).Spelled m.2)
      (later : Fills (d.put s key) ms d') : Fills d (m :: ms) d'

theorem keyOf?_eq {l : Literal} {name : String} (named : l.text? = some name) : keyOf? l = Key.ofName? name := by
  simp [keyOf?, named]

section

variable {fuel : Nat} {first : Bool} {d : Draft} {comma before : Gap} {l : Literal} {colon space : Gap} {t : Tree}
  {rest : List UInt8} {r : Draft × List UInt8}

/-- Nothing is read when a key stands for no text. -/
theorem text?_of_readMembers
    (read : readMembers (fuel + 1) first d (between first comma before ++ (l.bytes ++ rest)) = .ok r) :
    ∃ name, l.text? = some name := by
  rw [readMembers, Except.bind_eq_ok_iff] at read
  obtain ⟨⟨key, after⟩, next, -⟩ := read
  obtain ⟨name, ⟨named, -⟩, -⟩ := (nextKey_tree first comma before).mp next
  exact ⟨name, named⟩

variable (apart : Apart rest) {name : String} (named : l.text? = some name)

include apart named

/-- Reading goes on behind a member that nobody asks for. -/
theorem readMembers_unknown (unknown : Key.ofName? name = none) :
    readMembers (fuel + 1) first d
        (between first comma before ++ (l.bytes ++ (colon.bytes ++ 58 :: (space.bytes ++ (t.bytes ++ rest)))))
      = readMembers fuel false d rest := by
  have next : nextKey first
      (between first comma before ++ (l.bytes ++ (colon.bytes ++ 58 :: (space.bytes ++ (t.bytes ++ rest))))) =
      .ok (some name, colon.bytes ++ 58 :: (space.bytes ++ (t.bytes ++ rest))) :=
    (nextKey_tree first comma before).mpr ⟨name, ⟨named, rfl⟩, rfl⟩
  simp [readMembers, next, unknown, readColon_gap, skip_tree space t apart, bind, Except.bind]

/-- Reading goes on behind a member of a snapshot if it is the first one with its key and its value spells
    something, which is put into the draft. -/
theorem readMembers_known {key : Key} (known : Key.ofName? name = some key) :
    readMembers (fuel + 1) first d
        (between first comma before ++ (l.bytes ++ (colon.bytes ++ 58 :: (space.bytes ++ (t.bytes ++ rest))))) = .ok r ↔
      d.has key = false ∧ ∃ s : Snapshot, (s.part key).Spelled t ∧ readMembers fuel false (d.put s key) rest = .ok r := by
  have next : nextKey first
      (between first comma before ++ (l.bytes ++ (colon.bytes ++ 58 :: (space.bytes ++ (t.bytes ++ rest))))) =
      .ok (some name, colon.bytes ++ 58 :: (space.bytes ++ (t.bytes ++ rest))) :=
    (nextKey_tree first comma before).mpr ⟨name, ⟨named, rfl⟩, rfl⟩
  cases present : d.has key with
  | true => simp [readMembers, next, known, present, bind, Except.bind, throw, throwThe, MonadExceptOf.throw]
  | false =>
    have step : readMembers (fuel + 1) first d
        (between first comma before ++ (l.bytes ++ (colon.bytes ++ 58 :: (space.bytes ++ (t.bytes ++ rest))))) =
        d.read key (space.bytes ++ (t.bytes ++ rest)) >>= fun r => readMembers fuel false r.1 r.2 := by
      simp [readMembers, next, known, present, readColon_gap, bind, Except.bind]
    simp only [step, Except.bind_eq_ok_iff, Prod.exists, Draft.read_tree apart]
    constructor
    · rintro ⟨_, _, ⟨s, spelled, rfl, rfl⟩, more⟩
      exact ⟨trivial, s, spelled, more⟩
    · rintro ⟨-, s, spelled, more⟩
      exact ⟨_, _, ⟨s, spelled, rfl, rfl⟩, more⟩

end

/-- An object is read member by member. -/
theorem readMembers_tree (d' : Draft) (rest rest' : List UInt8) :
    ∀ (members : Members) (fuel : Nat) (first : Bool) (d : Draft), members.toList.length < fuel →
      (readMembers fuel first d (members.bytes first ++ 125 :: rest) = .ok (d', rest') ↔
        Fills d members.toList d' ∧ rest' = rest)
  | .nil inside, fuel, first, d, enough => by
    obtain ⟨fuel, rfl⟩ := Nat.exists_eq_add_one_of_ne_zero (Nat.ne_zero_of_lt enough)
    simp only [Members.bytes, Members.toList, readMembers, nextKey_end inside.blank, bind, Except.bind, pure, Except.pure,
      Except.ok.injEq, Prod.mk.injEq]
    constructor
    · rintro ⟨rfl, rfl⟩
      exact ⟨.done, rfl⟩
    · rintro ⟨⟨⟩, rfl⟩
      exact ⟨rfl, rfl⟩
  | .cons comma before l colon space t members, fuel, first, d, enough => by
    obtain ⟨fuel, rfl⟩ := Nat.exists_eq_add_one_of_ne_zero (Nat.ne_zero_of_lt enough)
    simp only [Members.toList, List.length_cons, Nat.add_lt_add_iff_right] at enough
    have apart := apart_members members rest
    have ih := fun d => readMembers_tree d' rest rest' members fuel false d enough
    simp only [Members.bytes, Members.toList, List.append_assoc, List.cons_append]
    constructor
    · intro read
      obtain ⟨name, named⟩ := text?_of_readMembers read
      cases known : Key.ofName? name with
      | none =>
        rw [readMembers_unknown apart named known] at read
        obtain ⟨fills, done⟩ := (ih d).mp read
        exact ⟨.unknown named known fills, done⟩
      | some key =>
        obtain ⟨fresh, s, spelled, more⟩ := (readMembers_known apart named known).mp read
        obtain ⟨fills, done⟩ := (ih _).mp more
        exact ⟨.known ((keyOf?_eq named).trans known) fresh spelled fills, done⟩
    · rintro ⟨fills, done⟩
      cases fills with
      | unknown named unknown later =>
        rw [readMembers_unknown apart named unknown]
        exact (ih d).mpr ⟨later, done⟩
      | known known fresh spelled later =>
        obtain ⟨name, named, known⟩ := Option.bind_eq_some_iff.mp known
        exact (readMembers_known apart named known).mpr ⟨fresh, _, spelled, (ih _).mpr ⟨later, done⟩⟩

/-- A document is read as what its members leave in an empty draft. -/
theorem parse_bytes_eq_ok_iff {D : Document} {s : Snapshot} :
    parse D.bytes = .ok s ↔ ∃ d, Fills {} D.members.toList d ∧ d.finish = .ok s := by
  have enough : D.members.toList.length < D.bytes.length + 1 := by
    have := D.members.length_le true
    simp only [Document.bytes, List.length_append, List.length_cons]
    omega
  have read := fun d rest => readMembers_tree d D.after.bytes rest D.members _ true {} enough
  have start : skipSpace D.bytes = 123 :: (D.members.bytes true ++ 125 :: D.after.bytes) :=
    skipSpace_blanks D.before.blank (by rfl)
  rw [parse, start]
  simp only [if_true, Except.bind_eq_ok_iff, Prod.exists, read]
  constructor
  · rintro ⟨d, _, ⟨fills, rfl⟩, s', finished, u, -, done⟩
    cases done
    exact ⟨d, fills, finished⟩
  · rintro ⟨d, fills, finished⟩
    exact ⟨d, _, ⟨fills, rfl⟩, s, finished, (), by simp [Json.finish, skipSpace_gap], rfl⟩

/-! ## Members and drafts -/

theorem keysOf_cons (m : Literal × Tree) (ms : List (Literal × Tree)) :
    keysOf (m :: ms) = (keyOf? m.1).toList ++ keysOf ms := by
  cases known : keyOf? m.1 <;> simp [keysOf, known]

/-- Members of a snapshot fill a draft that has none of them. -/
theorem Fills.of_spelled {s : Snapshot} {ms : List (Literal × Tree)} {d : Draft}
    (named : ∀ m ∈ ms, m.1.text? ≠ none) (once : (keysOf ms).Nodup)
    (spelled : ∀ m ∈ ms, ∀ key, keyOf? m.1 = some key → (s.part key).Spelled m.2)
    (fresh : ∀ key ∈ keysOf ms, d.has key = false) : Fills d ms ((keysOf ms).foldl (Draft.put s) d) := by
  induction ms generalizing d with
  | nil => exact .done
  | cons m ms ih =>
    obtain ⟨here, named⟩ := List.forall_mem_cons.mp named
    obtain ⟨spells, spelled⟩ := List.forall_mem_cons.mp spelled
    obtain ⟨name, text⟩ := Option.ne_none_iff_exists'.mp here
    rw [keysOf_cons] at once fresh ⊢
    cases known : keyOf? m.1 with
    | none =>
      simp only [known, Option.toList_none, List.nil_append] at once fresh ⊢
      exact .unknown text (by rw [← known, keyOf?_eq text]) (ih named once spelled fresh)
    | some key =>
      simp only [known, Option.toList_some, List.singleton_append, List.nodup_cons, List.forall_mem_cons,
        List.foldl_cons] at once fresh ⊢
      refine .known known fresh.1 (spells key known) (ih named once.2 spelled fun other member => ?_)
      -- no key is there twice, so those of the rest are still absent
      have ne : other ≠ key := fun same => once.1 (same ▸ member)
      rw [Draft.has_put_of_ne s d ne, fresh.2 other member]

/-- What members say that filled a draft which stands for a snapshot. -/
theorem Fills.spelled {s : Snapshot} {ms : List (Literal × Tree)} {d d' : Draft} (fills : Fills d ms d')
    (stands : ∀ key, ((d'.part? key).or key.default?) = some (s.part key)) :
    (∀ m ∈ ms, m.1.text? ≠ none) ∧ (keysOf ms).Nodup ∧ (∀ key ∈ keysOf ms, d.has key = false) ∧
      (∀ m ∈ ms, ∀ key, keyOf? m.1 = some key → (s.part key).Spelled m.2) ∧
      ∀ key, key ∉ keysOf ms → ((d.part? key).or key.default?) = some (s.part key) := by
  induction fills with
  | done => exact ⟨nofun, List.nodup_nil, nofun, nofun, fun key _ => stands key⟩
  | @unknown d d' m ms name named unknown later ih =>
    obtain ⟨names, once, fresh, spelled, left⟩ := ih stands
    have none : keyOf? m.1 = none := (keyOf?_eq named).trans unknown
    simp only [keysOf_cons, none, Option.toList_none, List.nil_append, List.forall_mem_cons]
    exact ⟨⟨by simp [named], names⟩, once, fresh, ⟨nofun, spelled⟩, left⟩
  | @known d d' m ms key s' known absent own later ih =>
    obtain ⟨names, once, fresh, spelled, left⟩ := ih stands
    have alone : key ∉ keysOf ms := by
      intro member
      have := fresh key member
      rw [Draft.has_eq, Draft.part?_put_self] at this
      cases this
    -- what was put in is what the snapshot says
    have same : s'.part key = s.part key := by
      have := left key alone
      rw [Draft.part?_put_self] at this
      exact Option.some.inj this
    obtain ⟨name, named, -⟩ := Option.bind_eq_some_iff.mp known
    simp only [keysOf_cons, known, Option.toList_some, List.singleton_append, List.nodup_cons, List.forall_mem_cons]
    refine ⟨⟨by simp [named], names⟩, ⟨alone, once⟩, ⟨absent, ?_⟩, ⟨?_, spelled⟩, ?_⟩
    · intro other member
      have ne : other ≠ key := fun same => alone (same ▸ member)
      rw [← Draft.has_put_of_ne s' d ne, fresh other member]
    · intro other same'
      cases same'
      exact same ▸ own
    · intro other absent
      obtain ⟨ne, absent⟩ := not_or.mp (List.mem_cons.not.mp absent)
      rw [← Draft.part?_put_of_ne s' d ne, left other absent]

/-- A document is read as a snapshot exactly when it is one of the snapshot. -/
theorem parse_eq_ok_iff (D : Document) (s : Snapshot) : parse D.bytes = .ok s ↔ D.Spells s := by
  have empty (key : Key) : ({} : Draft).part? key = none := by cases key <;> rfl
  simp only [parse_bytes_eq_ok_iff, Draft.finish_eq_ok_iff]
  constructor
  · rintro ⟨d, fills, stands⟩
    obtain ⟨named, once, -, spelled, left⟩ := fills.spelled stands
    exact ⟨named, once, spelled, fun key absent => by simpa [empty] using left key absent⟩
  · intro spells
    refine ⟨_, Fills.of_spelled spells.named spells.once spells.spelled (fun key _ => by rw [Draft.has_eq, empty]; rfl), ?_⟩
    intro key
    rw [Draft.part?_foldl_put]
    by_cases there : key ∈ D.keys
    · simp [Document.keys] at there
      simp [there]
    · simp [Document.keys] at there
      simp [there, empty, spells.omitted key there]

/-- The documents of a snapshot, and no others, are read as it. In particular nothing is read from a document
    that has a member of a snapshot twice, lacks one without a default, or counts seconds or milliseconds with
    something that stands for no word. -/
theorem parse_document (D : Document) :
    (∀ s, parse D.bytes = .ok s ↔ D.Spells s) ∧
      (¬ D.keys.Nodup ∨ (∃ key, key.hasDefault = false ∧ key ∉ D.keys) ∨
        (∃ m ∈ D.members.toList, (keyOf? m.1 = some .uptime ∨ keyOf? m.1 = some .capturedAt) ∧
          ∀ v, m.2.IsWord v → 18446744073709551616 ≤ v) →
        ∃ fault, parse D.bytes = .error fault) := by
  refine ⟨fun s => parse_eq_ok_iff D s, fun wrong => ?_⟩
  cases read : parse D.bytes with
  | error fault => exact ⟨fault, rfl⟩
  | ok s =>
    exfalso
    have spells := (parse_eq_ok_iff D s).mp read
    rcases wrong with twice | ⟨key, needed, absent⟩ | ⟨m, member, word, large⟩
    · exact twice spells.once
    · rw [Key.hasDefault_eq, spells.omitted key absent] at needed
      cases needed
    · rcases word with uptime | capturedAt
      · exact absurd (large _ (spells.spelled m member _ uptime)) (Nat.not_le.mpr s.uptime.toNat_lt)
      · exact absurd (large _ (spells.spelled m member _ capturedAt)) (Nat.not_le.mpr s.capturedAt.toNat_lt)

/-- Members in another order, among them one that is unknown, with words as a number and as a text with a plus
    sign, and nothing in a document that has no members. -/
theorem parse_document_of_reordered :
    parse (Document.bytes ⟨⟨[9], by decide⟩, .spaced ⟨[32], by decide⟩
        [(.plain "collected_at" (by decide +kernel), .text (.plain "+007" (by decide +kernel))),
          (.plain "source" (by decide +kernel), .text (.plain "mongod" (by decide +kernel))),
          (.plain "uptime" (by decide +kernel),
            .number ⟨false, ⟨[52, 50], by decide, List.all_eq_true.mp rfl⟩, by decide, none, none⟩),
          (.plain "color" (by decide +kernel), .list (.cons .none .none .null (.nil .none))),
          (.plain "shard_svr" (by decide +kernel), .flag true),
          (.plain "storage_engine" (by decide +kernel), .text (.plain "wt" (by decide +kernel))),
          (.plain "replication_state" (by decide +kernel), .null),
          (.plain "pillar_version" (by decide +kernel), .text (.plain "6.0" (by decide +kernel))),
          (.plain "db_internal_id" (by decide +kernel), .text (.plain "b" (by decide +kernel))),
          (.plain "db_instance_id" (by decide +kernel), .text (.plain "a" (by decide +kernel)))], .none⟩) =
      .ok { instanceId := "a", internalId := "b", source := "mongod", storageEngine := "wt", proFeatures := []
            pillarVersion := "6.0", uptime := 42, replicationState := none, replicationId := none
            shardServer := true, configServer := false, capturedAt := 7 } ∧
    ∃ fault, parse (Document.bytes ⟨.none, .nil .none, .none⟩) = .error fault := by
  refine ⟨((parse_document _).1 _).mpr ⟨?_, ?_, ?_, ?_⟩, (parse_document _).2 (.inr (.inl ⟨.source, rfl, nofun⟩))⟩
  · simp only [Members.toList_spaced, List.forall_mem_cons, Literal.text?_plain]
    simp
  · simp only [Document.keys, Members.toList_spaced, keysOf, keyOf?, List.filterMap_cons, Literal.text?_plain,
      Option.bind_some]
    decide +kernel
  · simp only [Members.toList_spaced, List.forall_mem_cons, keyOf?, Literal.text?_plain, Option.bind_some]
    -- each key has one name, and the value under it is looked at
    have own {k : Key} {P : Key → Prop} (holds : P k) (key : Key) (same : Key.ofName? k.name = some key) : P key := by
      rw [Key.ofName?_name] at same
      exact Option.some.inj same ▸ holds
    have text {s : String} (bare : s.toList.all _ = true) : (Tree.text (.plain s bare)).text? = some s :=
      Literal.text?_plain s bare
    refine ⟨own (k := .capturedAt) (.signed (Literal.text?_plain _ _) rfl ⟨by decide, List.all_eq_true.mp rfl, by decide⟩),
      own (k := .source) (text _), own (k := .uptime) (.number ⟨rfl, rfl, rfl, by decide⟩), ?_,
      own (k := .shardServer) (.flag true),
      own (k := .storageEngine) (text _), own (k := .replicationState) rfl, own (k := .pillarVersion) (text _),
      own (k := .internalId) (text _), own (k := .instanceId) (text _), nofun⟩
    have unknown : Key.ofName? "color" = none := by decide +kernel
    simp [unknown]
  · simp only [Document.keys, Members.toList_spaced, keysOf, keyOf?, List.filterMap_cons, Literal.text?_plain,
      Option.bind_some]
    intro key absent
    cases key
    all_goals first | rfl | exact absurd (by decide +kernel) absent

end NodeTelemetry.Snapshot
