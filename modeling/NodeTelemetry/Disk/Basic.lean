import NodeTelemetry.Disk.Path

/-!
# A disk

Directories and files with their bytes, one at most at every location. Whatever
holds an entry is a directory, and no name is longer than a system accepts; a
disk carries the proof of both. A directory is enumerated in the order of its
names.
-/

namespace NodeTelemetry

/-- What stands at a location. -/
inductive Entry where
  | file (bytes : List UInt8)
  | directory
  deriving DecidableEq, Repr

/-- A location: the names from an entry up to the working directory, the entry's own name first. -/
abbrev Location := List Name

/-- The top, where paths that start with a slash begin. Its name is the one that no piece can have. -/
def Location.top : Location := [⟨[47]⟩]

inductive DiskError where
  | notFound
  | notDirectory
  | isDirectory
  | exists
  | nameTooLong
  | nulByte
  deriving DecidableEq, Repr

def DiskError.text : DiskError → String
  | .notFound => "No such file or directory (os error 2)"
  | .notDirectory => "Not a directory (os error 20)"
  | .isDirectory => "Is a directory (os error 21)"
  | .exists => "File exists (os error 17)"
  | .nameTooLong => "File name too long (os error 36)"
  | .nulByte => "file name contained an unexpected NUL byte"

/-- What stands at a location. The working directory and the top always exist. -/
def lookup (entries : Std.ExtTreeMap Location Entry) (loc : Location) : Option Entry :=
  if loc = [] ∨ loc = .top then some .directory else entries[loc]?

theorem lookup_insert (entries : Std.ExtTreeMap Location Entry) (loc other : Location) (e : Entry) :
    lookup (entries.insert loc e) other =
      if other = [] ∨ other = .top then some .directory else if loc = other then some e else lookup entries other := by
  unfold lookup
  split
  · rfl
  · simp [Std.ExtTreeMap.getElem?_insert]

theorem lookup_erase (entries : Std.ExtTreeMap Location Entry) (loc other : Location) :
    lookup (entries.erase loc) other =
      if other = [] ∨ other = .top then some .directory else if loc = other then none else lookup entries other := by
  unfold lookup
  split
  · rfl
  · simp [Std.ExtTreeMap.getElem?_erase]

/-- Where entries may stand: in a directory, under a name of a fitting length. -/
structure Placed (entries : Std.ExtTreeMap Location Entry) (loc : Location) : Prop where
  free : loc ≠ [] ∧ loc ≠ .top
  held : lookup entries loc.tail = some .directory
  short : ∀ n ∈ loc.head?, n.bytes.length ≤ Name.maxLength

/-- A place stays one as long as what holds it stays a directory. -/
theorem Placed.mono {entries after : Std.ExtTreeMap Location Entry} {loc : Location} (place : Placed entries loc)
    (stays : lookup entries loc.tail = some .directory → lookup after loc.tail = some .directory) : Placed after loc :=
  ⟨place.free, stays place.held, place.short⟩

/-- What stands at each location. -/
structure Disk where
  entries : Std.ExtTreeMap Location Entry
  placed : ∀ loc ∈ entries, Placed entries loc

namespace Disk

/-- The disk that holds an empty working directory and nothing else. -/
def empty : Disk := ⟨∅, by simp⟩

instance : Inhabited Disk := ⟨empty⟩

/-- What stands at a location of a disk. -/
def get? (d : Disk) (loc : Location) : Option Entry := lookup d.entries loc

/-- The bytes of the file at a location, if a file stands there. -/
def file? (d : Disk) (loc : Location) : Option (List UInt8) :=
  match d.get? loc with
  | some (.file bytes) => some bytes
  | _ => none

/-- The disk with an entry at a place, instead of what stood there. A directory is not replaced by a file. -/
def put (d : Disk) (loc : Location) (e : Entry) (place : Placed d.entries loc)
    (stays : d.get? loc = some .directory → e = .directory) : Disk where
  entries := d.entries.insert loc e
  placed := by
    intro l member
    have old : Placed d.entries l := by
      rcases Std.ExtTreeMap.mem_insert.mp member with same | member
      · exact Std.LawfulEqCmp.eq_of_compare same ▸ place
      · exact d.placed l member
    refine old.mono fun held => ?_
    rw [lookup_insert]
    split
    · rfl
    · split
      · next same => rw [stays (by rw [same]; exact held)]
      · exact held

/-- The disk without the file at a location. -/
def erase (d : Disk) (loc : Location) (stands : d.get? loc ≠ some .directory) : Disk where
  entries := d.entries.erase loc
  placed := by
    intro l member
    obtain ⟨_, member⟩ := Std.ExtTreeMap.mem_erase.mp member
    refine (d.placed l member).mono fun held => ?_
    rw [lookup_erase]
    split
    · rfl
    · split
      · next same => exact absurd (by rw [same]; exact held) stands
      · exact held

/-- The disk without a location and everything below it. -/
def eraseTree (d : Disk) (loc : Location) : Disk where
  entries := d.entries.filter fun l _ => !loc.isSuffixOf l
  placed := by
    intro l member
    have outside : ¬ loc <:+ l := by
      rw [Std.ExtTreeMap.mem_iff_isSome_getElem?, Std.ExtTreeMap.getElem?_filter'] at member
      intro below
      simp [List.isSuffixOf_iff_suffix.mpr below] at member
    refine (d.placed l (Std.ExtTreeMap.mem_of_mem_filter member)).mono fun held => ?_
    unfold lookup at held ⊢
    split
    · rfl
    · next free =>
      rw [if_neg free] at held
      have above : ¬ loc <:+ l.tail := fun below => outside (below.trans (List.tail_suffix l))
      rw [Std.ExtTreeMap.getElem?_filter', held]
      simpa [← List.isSuffixOf_iff_suffix] using above

/-- The name of the entry at a location, if the entry stands in a given directory. -/
def nameIn? (dir : Location) : Location → Option Name
  | [] => none
  | n :: above => if above = dir then some n else none

/-- The names of the entries that a directory holds, in order. -/
def children (d : Disk) (loc : Location) : List Name := d.entries.keys.filterMap (nameIn? loc)

theorem nameIn?_eq_some_iff {dir loc : Location} {n : Name} : nameIn? dir loc = some n ↔ loc = n :: dir := by
  cases loc with
  | nil => simp [nameIn?]
  | cons m above => simp [nameIn?, and_comm]

/-- A directory lists exactly the names under which something stands in it. -/
theorem mem_children_iff {d : Disk} {loc : Location} {n : Name} : n ∈ d.children loc ↔ n :: loc ∈ d.entries := by
  simp [children, nameIn?_eq_some_iff, Std.ExtTreeMap.mem_keys]

theorem nodup_children (d : Disk) (loc : Location) : (d.children loc).Nodup := by
  refine List.Pairwise.filterMap _ ?_ d.entries.nodup_keys
  intro a b ne n hn m hm eq
  rw [nameIn?_eq_some_iff] at hn hm
  exact ne (by rw [hn, hm, eq])

/-! ## What the changes do to the entries -/

theorem get?_put_self (d : Disk) {loc : Location} (e : Entry) (place : Placed d.entries loc)
    (stays : d.get? loc = some .directory → e = .directory) : (d.put loc e place stays).get? loc = some e := by
  unfold get? put
  rw [lookup_insert, if_neg (not_or.mpr place.free), if_pos rfl]

theorem get?_put_of_ne (d : Disk) {loc other : Location} (e : Entry) (place : Placed d.entries loc)
    (stays : d.get? loc = some .directory → e = .directory) (h : other ≠ loc) :
    (d.put loc e place stays).get? other = d.get? other := by
  unfold get? put
  rw [lookup_insert]
  split
  · next root => rw [lookup, if_pos root]
  · rw [if_neg h.symm]

theorem get?_erase_self (d : Disk) {loc : Location} (stands : d.get? loc ≠ some .directory) :
    (d.erase loc stands).get? loc = none := by
  have free : ¬ (loc = [] ∨ loc = .top) := by
    intro root
    exact stands (by rw [get?, lookup, if_pos root])
  unfold get? erase
  rw [lookup_erase, if_neg free, if_pos rfl]

theorem get?_erase_of_ne (d : Disk) {loc other : Location} (stands : d.get? loc ≠ some .directory) (h : other ≠ loc) :
    (d.erase loc stands).get? other = d.get? other := by
  unfold get? erase
  rw [lookup_erase]
  split
  · next root => rw [lookup, if_pos root]
  · rw [if_neg h.symm]

/-- Removing a file leaves all directories. -/
theorem get?_erase_directory {d : Disk} {loc other : Location} (stands : d.get? loc ≠ some .directory) :
    (d.erase loc stands).get? other = some .directory ↔ d.get? other = some .directory := by
  by_cases same : other = loc
  · rw [same, get?_erase_self d stands]
    simp [stands]
  · rw [get?_erase_of_ne d stands same]

/-- Whatever stands on a disk stands in a directory. -/
theorem placed_of_get? (d : Disk) {loc : Location} (stands : d.get? loc ≠ none) (free : loc ≠ [] ∧ loc ≠ .top) :
    Placed d.entries loc := by
  refine d.placed loc ?_
  unfold get? lookup at stands
  rw [if_neg (not_or.mpr free)] at stands
  rw [Std.ExtTreeMap.mem_iff_isSome_getElem?, Option.isSome_iff_ne_none]
  exact stands

end Disk

end NodeTelemetry
