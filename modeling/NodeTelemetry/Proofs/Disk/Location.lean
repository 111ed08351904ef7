import NodeTelemetry.Disk.Procedure

/-!
# Where paths lead

A path spells one location, whatever stands on the disk; the disk decides only
whether the path can be followed there (`Disk.locate_eq_ok_iff`). What following
takes are directories, so disks with the same directories follow the same paths
(`Disk.locate_congr`). A name below a path leads to that name in the directory
to which the path leads (`Disk.locate_child_eq_ok_iff`).
-/

namespace NodeTelemetry

/-- One piece of a path, provided that it can be followed. -/
def Location.move (loc : Location) (piece : Name) : Location :=
  if Path.isStill piece then loc
  else if piece = .up then (if loc = .top then loc else loc.tail)
  else piece :: loc

/-- Names that lead down, into a directory. -/
def Name.Descends (n : Name) : Prop := Path.isStill n = false ∧ n ≠ .up

theorem Location.move_of_descends {n : Name} (down : n.Descends) (loc : Location) : Location.move loc n = n :: loc := by
  simp [Location.move, down.1, down.2]

namespace Path

/-- Where a path starts. -/
def origin (p : Path) : Location := if p.isAbsolute then .top else []

/-- The pieces of a path that are followed from there. -/
def descent (p : Path) : List Name := if p.isAbsolute then p.pieces.tail else p.pieces

/-- The location that a path spells. -/
def location (p : Path) : Location := p.descent.foldl Location.move p.origin

/-- The pieces of a name below a path. A path that ends in a slash gives up the empty piece behind it. -/
theorem child_pieces (p : Path) (n : Name) :
    ∃ front, (p.child n).pieces = front ++ [n] ∧
      (p.pieces = front ∧ front.getLast? ≠ some .empty ∨ p.pieces = front ++ [.empty]) := by
  unfold child join
  split
  · next ends =>
    obtain ⟨front, same⟩ := List.getLast?_eq_some_iff.mp ends
    exact ⟨front, by simp [same], .inr same⟩
  · next ends => exact ⟨p.pieces, rfl, .inl ⟨rfl, ends⟩⟩

theorem child_injective {p : Path} {n m : Name} (same : p.child n = p.child m) : n = m := by
  obtain ⟨front, pieces, _⟩ := child_pieces p n
  obtain ⟨front', pieces', _⟩ := child_pieces p m
  rw [same, pieces'] at pieces
  exact (List.append_inj' pieces rfl).2 |> List.cons.inj |>.1.symm

theorem isAbsolute_child (p : Path) (n : Name) : (p.child n).isAbsolute = p.isAbsolute := by
  obtain ⟨front, pieces, same⟩ := child_pieces p n
  unfold isAbsolute
  rw [pieces]
  rcases same with ⟨same, ends⟩ | same <;> rw [same]
  · match front with
    | [] => rfl
    | [m] =>
      have filled : m ≠ .empty := by simpa using ends
      simp [filled]
    | _ :: _ :: _ => rfl
  · match front with
    | [] => rfl
    | [_] => rfl
    | _ :: _ :: _ => rfl

theorem origin_child (p : Path) (n : Name) : (p.child n).origin = p.origin := by
  simp only [origin, isAbsolute_child]

/-- A name below a path is followed behind all pieces of the path that move. -/
theorem descent_child (p : Path) (n : Name) :
    ∃ front, (p.child n).descent = front ++ [n] ∧ (p.descent = front ∨ p.descent = front ++ [.empty]) := by
  have absolute := isAbsolute_child p n
  obtain ⟨front, pieces, same⟩ := child_pieces p n
  unfold descent
  rw [absolute, pieces]
  split
  · next starts =>
    have filled : front ≠ [] := by
      rintro rfl
      rw [← absolute, isAbsolute, pieces] at starts
      simp at starts
    refine ⟨front.tail, List.tail_append_of_ne_nil filled, ?_⟩
    rcases same with ⟨same, _⟩ | same
    · exact .inl (by rw [same])
    · exact .inr (by rw [same, List.tail_append_of_ne_nil filled])
  · rcases same with ⟨same, _⟩ | same
    · exact ⟨front, rfl, .inl same⟩
    · exact ⟨front, rfl, .inr same⟩

/-- A name below a path spells the place of that name, where the path leads. -/
theorem location_child (p : Path) {n : Name} (down : n.Descends) : (p.child n).location = n :: p.location := by
  obtain ⟨front, pieces, same⟩ := descent_child p n
  have still (loc : Location) : Location.move loc .empty = loc := rfl
  unfold location
  rw [origin_child, pieces, List.foldl_append]
  rcases same with same | same
  · simp [same, Location.move_of_descends down]
  · simp [same, List.foldl_append, Location.move_of_descends down, still]

end Path

namespace Disk

theorem file?_eq_some_iff {d : Disk} {loc : Location} {bytes : List UInt8} :
    d.file? loc = some bytes ↔ d.get? loc = some (.file bytes) := by
  unfold file?
  split <;> simp_all

/-- Disks with directories at the same locations. -/
def SameDirectories (d d' : Disk) : Prop := ∀ loc, d.get? loc = some .directory ↔ d'.get? loc = some .directory

theorem SameDirectories.refl (d : Disk) : SameDirectories d d := fun _ => Iff.rfl

theorem SameDirectories.symm {d d' : Disk} (same : SameDirectories d d') : SameDirectories d' d :=
  fun loc => (same loc).symm

theorem SameDirectories.trans {d d' d'' : Disk} (first : SameDirectories d d') (second : SameDirectories d' d'') :
    SameDirectories d d'' := fun loc => (first loc).trans (second loc)

/-- A later disk that has all directories of an earlier one. -/
def KeepsDirectories (d d' : Disk) : Prop := ∀ loc, d.get? loc = some .directory → d'.get? loc = some .directory

theorem KeepsDirectories.refl (d : Disk) : KeepsDirectories d d := fun _ directory => directory

theorem KeepsDirectories.trans {d d' d'' : Disk} (first : KeepsDirectories d d') (second : KeepsDirectories d' d'') :
    KeepsDirectories d d'' := fun loc directory => second loc (first loc directory)

theorem SameDirectories.keeps {d d' : Disk} (same : SameDirectories d d') : KeepsDirectories d d' :=
  fun loc => (same loc).mp

/-! ## Following pieces -/

theorem walk_eq (d : Disk) (p : Path) : d.walk p = p.descent.foldlM d.enter p.origin := by
  unfold walk Path.descent Path.origin
  split <;> rfl

/-- A piece that can be followed leads where it says; only going up takes a directory. -/
theorem enter_eq_ok_iff {d : Disk} {loc after : Location} {piece : Name} :
    d.enter loc piece = .ok after ↔
      after = Location.move loc piece ∧ (piece = .up → d.get? loc = some .directory) := by
  unfold enter Location.move
  split
  · next still =>
    have other : piece ≠ .up := by rintro rfl; simp [Path.isStill, Name.up, Name.empty, Name.here] at still
    simp [other, eq_comm]
  · split
    · next up =>
      rw [Except.bind_eq_ok_iff]
      constructor
      · rintro ⟨_, passed, left⟩
        cases left
        exact ⟨rfl, fun _ => passThrough_eq_ok_iff.mp passed⟩
      · rintro ⟨rfl, directory⟩
        exact ⟨(), passThrough_eq_ok_iff.mpr (directory up), rfl⟩
    · next other => simp [other, eq_comm]

theorem enter_of_descends (d : Disk) {n : Name} (down : n.Descends) (loc : Location) : d.enter loc n = .ok (n :: loc) :=
  enter_eq_ok_iff.mpr ⟨(Location.move_of_descends down loc).symm, fun up => absurd up down.2⟩

theorem foldlM_enter_eq_ok {d : Disk} {pieces : List Name} {loc after : Location}
    (followed : pieces.foldlM d.enter loc = .ok after) : after = pieces.foldl Location.move loc := by
  induction pieces generalizing loc with
  | nil => cases followed; rfl
  | cons piece rest ih =>
    rw [List.foldlM_cons, Except.bind_eq_ok_iff] at followed
    obtain ⟨next, entered, tail⟩ := followed
    rw [List.foldl_cons, ← (enter_eq_ok_iff.mp entered).1]
    exact ih tail

theorem foldlM_enter_mono {d d' : Disk} (keeps : KeepsDirectories d d') {pieces : List Name} {loc after : Location}
    (followed : pieces.foldlM d.enter loc = .ok after) : pieces.foldlM d'.enter loc = .ok after := by
  induction pieces generalizing loc with
  | nil => exact followed
  | cons piece rest ih =>
    rw [List.foldlM_cons, Except.bind_eq_ok_iff] at followed ⊢
    obtain ⟨next, entered, tail⟩ := followed
    obtain ⟨moved, directory⟩ := enter_eq_ok_iff.mp entered
    exact ⟨next, enter_eq_ok_iff.mpr ⟨moved, fun up => keeps loc (directory up)⟩, ih tail⟩

theorem walk_eq_location {d : Disk} {p : Path} {loc : Location} (followed : d.walk p = .ok loc) : loc = p.location := by
  rw [walk_eq] at followed
  exact foldlM_enter_eq_ok followed

/-- A path that can be followed can still be followed when directories were added. -/
theorem walk_mono {d d' : Disk} (keeps : KeepsDirectories d d') {p : Path} {loc : Location}
    (followed : d.walk p = .ok loc) : d'.walk p = .ok loc := by
  rw [walk_eq] at followed ⊢
  exact foldlM_enter_mono keeps followed

theorem walk_child (d : Disk) (p : Path) {n : Name} (down : n.Descends) :
    d.walk (p.child n) = (do return n :: (← d.walk p)) := by
  obtain ⟨front, pieces, same⟩ := Path.descent_child p n
  rw [walk_eq, walk_eq, Path.origin_child, pieces, List.foldlM_append]
  have last : ∀ loc, [n].foldlM d.enter loc = .ok (n :: loc) := by
    intro loc
    simp [enter_of_descends d down]
  have still : ∀ loc, [Name.empty].foldlM d.enter loc = .ok loc := by
    intro loc
    rfl
  rcases same with same | same
  · rw [same]
    simp [last, pure, Except.pure]
  · rw [same, List.foldlM_append]
    simp only [last, still, pure, Except.pure]
    cases front.foldlM d.enter p.origin <;> rfl

/-! ## Following whole paths -/

theorem Arrives.congr {d d' : Disk} (same : SameDirectories d d') {p : Path} {loc : Location} (arrives : d.Arrives p loc) :
    d'.Arrives p loc := by
  unfold Arrives at arrives ⊢
  rw [← same loc, ← same loc.tail]
  exact arrives

theorem locate_eq_location {d : Disk} {p : Path} {loc : Location} (found : d.locate p = .ok loc) : loc = p.location :=
  walk_eq_location (locate_eq_ok_iff.mp found).2.1

theorem locate_congr {d d' : Disk} (same : SameDirectories d d') {p : Path} {loc : Location} :
    d.locate p = .ok loc ↔ d'.locate p = .ok loc := by
  rw [locate_eq_ok_iff, locate_eq_ok_iff]
  constructor
  · rintro ⟨accepted, followed, arrives⟩
    exact ⟨accepted, walk_mono same.keeps followed, arrives.congr same⟩
  · rintro ⟨accepted, followed, arrives⟩
    exact ⟨accepted, walk_mono same.symm.keeps followed, arrives.congr same.symm⟩

/-! ## Names in a directory -/

/-- A path that can be followed into a directory. -/
structure LeadsInto (d : Disk) (p : Path) : Prop where
  followed : d.walk p = .ok p.location
  directory : d.get? p.location = some .directory

theorem LeadsInto.mono {d d' : Disk} (keeps : KeepsDirectories d d') {p : Path} (inside : d.LeadsInto p) :
    d'.LeadsInto p := ⟨walk_mono keeps inside.followed, keeps _ inside.directory⟩

theorem LeadsInto.congr {d d' : Disk} (same : SameDirectories d d') {p : Path} (inside : d.LeadsInto p) : d'.LeadsInto p :=
  inside.mono same.keeps

/-- A directory can be arrived at, however the path ends. -/
theorem arrives_of_directory {d : Disk} (p : Path) {loc : Location} (directory : d.get? loc = some .directory) :
    d.Arrives p loc := by
  unfold Arrives
  split
  · exact directory
  · by_cases root : loc = [] ∨ loc = .top
    · rcases root with rfl | rfl <;> simp [Location.top, get?, lookup, Name.maxLength]
    · have place := placed_of_get? d (by simp [directory]) (not_or.mp root)
      exact ⟨place.held, place.short⟩

theorem isDirectory_iff {d : Disk} {p : Path} : d.isDirectory p = true ↔ accept p = .ok () ∧ d.LeadsInto p := by
  have leads : d.isDirectory p = true ↔ d.locate p = .ok p.location ∧ d.get? p.location = some .directory := by
    unfold isDirectory stat
    cases found : d.locate p with
    | error e => simp [bind, Except.bind]
    | ok loc =>
      cases locate_eq_location found
      simp only [bind, Except.bind]
      cases stands : d.get? p.location with
      | none => simp
      | some entry => cases entry <;> simp
  rw [leads, locate_eq_ok_iff]
  constructor
  · rintro ⟨⟨accepted, followed, _⟩, directory⟩
    exact ⟨accepted, followed, directory⟩
  · rintro ⟨accepted, followed, directory⟩
    exact ⟨⟨accepted, followed, arrives_of_directory p directory⟩, directory⟩

theorem isDirectory_mono {d d' : Disk} (keeps : KeepsDirectories d d') {p : Path} (directory : d.isDirectory p = true) :
    d'.isDirectory p = true := by
  rw [isDirectory_iff] at directory ⊢
  exact ⟨directory.1, directory.2.mono keeps⟩

end Disk

namespace Path

/-- A name that a system accepts below a path. -/
def Takes (p : Path) (n : Name) : Prop := Disk.accept (p.child n) = .ok () ∧ n.bytes.length ≤ Name.maxLength

/-- Where a name in the directory of a path leads, or why it is refused. -/
def target (p : Path) (n : Name) : Except DiskError Location := do
  Disk.accept (p.child n)
  if Name.maxLength < n.bytes.length then throw .nameTooLong
  return n :: p.location

end Path

namespace Disk

/-- A name below a path leads into the directory of the path, if it leads anywhere. -/
theorem locate_child_eq_ok_iff {d : Disk} {p : Path} {n : Name} (down : n.Descends) {loc : Location} :
    d.locate (p.child n) = .ok loc ↔ p.Takes n ∧ d.LeadsInto p ∧ loc = n :: p.location := by
  have outside : (p.child n).endsInside = false := by
    obtain ⟨front, pieces, _⟩ := Path.child_pieces p n
    simp [Path.endsInside, pieces, down.1, down.2]
  rw [locate_eq_ok_iff, walk_child d p down, Except.bind_eq_ok_iff]
  simp only [Arrives, outside, Bool.false_eq_true, if_false, Path.Takes]
  constructor
  · rintro ⟨accepted, ⟨above, followed, last⟩, directory, short⟩
    cases last
    cases walk_eq_location followed
    exact ⟨⟨accepted, short n rfl⟩, ⟨followed, directory⟩, rfl⟩
  · rintro ⟨⟨accepted, short⟩, ⟨followed, directory⟩, rfl⟩
    refine ⟨accepted, ⟨p.location, followed, rfl⟩, directory, ?_⟩
    intro m same
    cases same
    exact short

/-- In a directory, where a name leads does not depend on what else stands on the disk. -/
theorem LeadsInto.locate_child {d : Disk} {p : Path} (inside : d.LeadsInto p) {n : Name} (down : n.Descends) :
    d.locate (p.child n) = p.target n := by
  have outside : (p.child n).endsInside = false := by
    obtain ⟨front, pieces, _⟩ := Path.child_pieces p n
    simp [Path.endsInside, pieces, down.1, down.2]
  have through : d.passThrough p.location = .ok () := passThrough_eq_ok_iff.mpr inside.directory
  unfold locate Path.target
  rw [walk_child d p down, inside.followed]
  simp [outside, through, bind, Except.bind, pure, Except.pure]

/-! ## Looking at names in a directory -/

theorem stat_child_eq_ok_iff {d : Disk} {p : Path} {n : Name} (down : n.Descends) {e : Entry} :
    d.stat (p.child n) = .ok e ↔ p.Takes n ∧ d.LeadsInto p ∧ d.get? (n :: p.location) = some e := by
  unfold stat
  rw [Except.bind_eq_ok_iff]
  constructor
  · rintro ⟨loc, found, rest⟩
    obtain ⟨takes, inside, rfl⟩ := (locate_child_eq_ok_iff down).mp found
    split at rest
    · next stands =>
      cases rest
      exact ⟨takes, inside, stands⟩
    · cases rest
  · rintro ⟨takes, inside, stands⟩
    exact ⟨_, (locate_child_eq_ok_iff down).mpr ⟨takes, inside, rfl⟩, by simp [stands]⟩

theorem has_child_iff {d : Disk} {p : Path} {n : Name} (down : n.Descends) :
    d.has (p.child n) = true ↔ p.Takes n ∧ d.LeadsInto p ∧ d.get? (n :: p.location) ≠ none := by
  have some : d.has (p.child n) = true ↔ ∃ e, d.stat (p.child n) = .ok e := by
    unfold has
    cases d.stat (p.child n) <;> simp
  rw [some, Option.ne_none_iff_exists']
  simp only [stat_child_eq_ok_iff down]
  constructor
  · rintro ⟨e, takes, inside, stands⟩
    exact ⟨takes, inside, e, stands⟩
  · rintro ⟨takes, inside, e, stands⟩
    exact ⟨e, takes, inside, stands⟩

theorem read_child_eq_ok_iff {d : Disk} {p : Path} {n : Name} (down : n.Descends) {bytes : List UInt8} :
    d.read (p.child n) = .ok bytes ↔ p.Takes n ∧ d.LeadsInto p ∧ d.file? (n :: p.location) = some bytes := by
  rw [file?_eq_some_iff, ← stat_child_eq_ok_iff down, read, Except.bind_eq_ok_iff]
  constructor
  · rintro ⟨e, stands, same⟩
    split at same
    · cases same
      exact stands
    · cases same
  · exact fun stands => ⟨_, stands, rfl⟩

theorem isFile_child_iff {d : Disk} {p : Path} {n : Name} (down : n.Descends) :
    d.isFile (p.child n) = true ↔ p.Takes n ∧ d.LeadsInto p ∧ d.file? (n :: p.location) ≠ none := by
  have some : d.isFile (p.child n) = true ↔ ∃ bytes, d.stat (p.child n) = .ok (.file bytes) := by
    unfold isFile
    split <;> simp_all
  rw [some, Option.ne_none_iff_exists']
  simp only [stat_child_eq_ok_iff down, file?_eq_some_iff]
  constructor
  · rintro ⟨bytes, takes, inside, stands⟩
    exact ⟨takes, inside, bytes, stands⟩
  · rintro ⟨takes, inside, bytes, stands⟩
    exact ⟨bytes, takes, inside, stands⟩

theorem isDirectory_child_iff {d : Disk} {p : Path} {n : Name} (down : n.Descends) :
    d.isDirectory (p.child n) = true ↔ p.Takes n ∧ d.LeadsInto p ∧ d.get? (n :: p.location) = some .directory := by
  rw [← stat_child_eq_ok_iff down]
  unfold isDirectory
  split <;> simp_all

theorem readDirectory_eq_ok_iff {d : Disk} {p : Path} {names : List Name} :
    d.readDirectory p = .ok names ↔ d.isDirectory p = true ∧ names = d.children p.location := by
  rw [isDirectory_iff, readDirectory, Except.bind_eq_ok_iff]
  constructor
  · rintro ⟨loc, found, rest⟩
    obtain ⟨accepted, followed, _⟩ := locate_eq_ok_iff.mp found
    cases walk_eq_location followed
    split at rest
    · cases rest
    · cases rest
    · next directory =>
      cases rest
      exact ⟨⟨accepted, followed, directory⟩, rfl⟩
  · rintro ⟨⟨accepted, followed, directory⟩, rfl⟩
    refine ⟨p.location, locate_eq_ok_iff.mpr ⟨accepted, followed, arrives_of_directory p directory⟩, ?_⟩
    simp [directory]

theorem LeadsInto.readDirectory {d : Disk} {p : Path} (inside : d.LeadsInto p) :
    d.readDirectory p = (do accept p; return d.children p.location) := by
  cases accepted : accept p with
  | ok u => exact readDirectory_eq_ok_iff.mpr ⟨isDirectory_iff.mpr ⟨accepted, inside⟩, rfl⟩
  | error e =>
    unfold Disk.readDirectory locate
    rw [accepted]
    rfl

/-- A directory lists its names in their order. -/
theorem ordered_children (d : Disk) (loc : Location) :
    (d.children loc).Pairwise fun n m => compare (n :: loc) (m :: loc) = .lt := by
  refine List.Pairwise.filterMap _ ?_ d.entries.ordered_keys
  intro a b before n hn m hm
  rw [nameIn?_eq_some_iff] at hn hm
  rwa [hn, hm] at before

/-- A file in a directory is among the names that the directory lists. -/
theorem mem_children_of_file? {d : Disk} {loc : Location} {n : Name} (stands : d.file? (n :: loc) ≠ none) :
    n ∈ d.children loc := by
  obtain ⟨bytes, stands⟩ := Option.ne_none_iff_exists'.mp stands
  rw [file?_eq_some_iff, get?, lookup] at stands
  split at stands
  · cases stands
  · rw [mem_children_iff, Std.ExtTreeMap.mem_iff_isSome_getElem?, stands]
    rfl

end Disk

end NodeTelemetry
