import NodeTelemetry.Disk.Procedure
import NodeTelemetry.Proofs.Disk.Location

/-!
# What actions change

An action on a file changes what stands at one location, or at two when it moves
a file, and leaves all directories as they are (`Disk.Replaced`). Making a
directory leaves all files as they are. For each action one lemma says what it
did when it succeeded and one when it succeeds.
-/

namespace NodeTelemetry

namespace Disk

/-- The one difference between two disks is the file that stands at a location, if one does. -/
structure Replaced (d d' : Disk) (loc : Location) (contents : Option (List UInt8)) : Prop where
  files : ∀ l, d'.file? l = if l = loc then contents else d.file? l
  directories : SameDirectories d d'

theorem Replaced.here {d d' : Disk} {loc : Location} {contents : Option (List UInt8)}
    (change : Replaced d d' loc contents) : d'.file? loc = contents := by
  rw [change.files, if_pos rfl]

theorem Replaced.of_ne {d d' : Disk} {loc l : Location} {contents : Option (List UInt8)}
    (change : Replaced d d' loc contents) (other : l ≠ loc) : d'.file? l = d.file? l := by
  rw [change.files, if_neg other]

theorem replaced_put (d : Disk) {loc : Location} (bytes : List UInt8) (place : Placed d.entries loc)
    (stands : d.get? loc ≠ some .directory) :
    Replaced d (d.put loc (.file bytes) place (fun there => absurd there stands)) loc (some bytes) := by
  refine ⟨?_, ?_⟩
  · intro l
    by_cases same : l = loc
    · rw [if_pos same, same, file?, get?_put_self]
    · rw [if_neg same, file?, get?_put_of_ne _ _ _ _ same, file?]
  · intro l
    by_cases same : l = loc
    · rw [same, get?_put_self]
      simp [stands]
    · rw [get?_put_of_ne _ _ _ _ same]

theorem replaced_erase (d : Disk) {loc : Location} (stands : d.get? loc ≠ some .directory) :
    Replaced d (d.erase loc stands) loc none := by
  refine ⟨?_, fun _ => (get?_erase_directory stands).symm⟩
  intro l
  by_cases same : l = loc
  · rw [if_pos same, same, file?, get?_erase_self]
  · rw [if_neg same, file?, get?_erase_of_ne _ _ same, file?]

/-! ## Actions on files -/

/-- The ways in which making or emptying a file goes. -/
theorem create_cases (d : Disk) (p : Path) :
    (∃ e, d.locate p = .error e ∧ d.create p = .error e) ∨
    (∃ loc, d.locate p = .ok loc ∧ d.get? loc = some .directory ∧ d.create p = .error .isDirectory) ∨
    (∃ loc d', d.locate p = .ok loc ∧ d.get? loc ≠ some .directory ∧ d.create p = .ok d' ∧
      Replaced d d' loc (some [])) := by
  unfold create
  split
  · next e failed => exact .inl ⟨e, failed, rfl⟩
  · next loc found =>
    split
    · next directory => exact .inr (.inl ⟨loc, found, directory, rfl⟩)
    · next free => exact .inr (.inr ⟨loc, _, found, free, rfl, replaced_put d [] _ free⟩)

/-- The ways in which adding to a file goes. -/
theorem append_cases (d : Disk) (p : Path) (more : List UInt8) :
    (∃ e, d.locate p = .error e ∧ d.append p more = .error e) ∨
    (∃ loc, d.locate p = .ok loc ∧ d.get? loc = none ∧ d.append p more = .error .notFound) ∨
    (∃ loc, d.locate p = .ok loc ∧ d.get? loc = some .directory ∧ d.append p more = .error .isDirectory) ∨
    (∃ loc bytes d', d.locate p = .ok loc ∧ d.get? loc = some (.file bytes) ∧ d.append p more = .ok d' ∧
      Replaced d d' loc (some (bytes ++ more))) := by
  unfold append
  split
  · next e failed => exact .inl ⟨e, failed, rfl⟩
  · next loc found =>
    split
    · next missing => exact .inr (.inl ⟨loc, found, missing, rfl⟩)
    · next directory => exact .inr (.inr (.inl ⟨loc, found, directory, rfl⟩))
    · next bytes stands =>
      exact .inr (.inr (.inr ⟨loc, bytes, _, found, stands, rfl, replaced_put d _ _ (by simp [stands])⟩))

/-- The ways in which removing a file goes. -/
theorem remove_cases (d : Disk) (p : Path) :
    (∃ e, d.locate p = .error e ∧ d.remove p = .error e) ∨
    (∃ loc, d.locate p = .ok loc ∧ d.get? loc = none ∧ d.remove p = .error .notFound) ∨
    (∃ loc, d.locate p = .ok loc ∧ d.get? loc = some .directory ∧ d.remove p = .error .isDirectory) ∨
    (∃ loc bytes d', d.locate p = .ok loc ∧ d.get? loc = some (.file bytes) ∧ d.remove p = .ok d' ∧
      Replaced d d' loc none) := by
  unfold remove
  cases found : d.locate p with
  | error e => exact .inl ⟨e, rfl, rfl⟩
  | ok loc =>
    simp only [bind, Except.bind]
    split
    · next missing => exact .inr (.inl ⟨loc, rfl, missing, rfl⟩)
    · next directory => exact .inr (.inr (.inl ⟨loc, rfl, directory, rfl⟩))
    · next bytes stands =>
      exact .inr (.inr (.inr ⟨loc, bytes, _, rfl, stands, rfl, replaced_erase d (by simp [stands])⟩))

/-- The ways in which moving a file goes. A move that succeeds empties one location and fills another. -/
theorem rename_cases (d : Disk) (source target : Path) :
    (∃ e, d.locate source = .error e ∧ d.rename source target = .error e) ∨
    (∃ old e, d.locate source = .ok old ∧ d.locate target = .error e ∧ d.rename source target = .error e) ∨
    (∃ old new, d.locate source = .ok old ∧ d.locate target = .ok new ∧
      ((d.get? old = none ∧ d.rename source target = .error .notFound) ∨
       (d.get? old = some .directory ∧ d.rename source target = .error .isDirectory) ∨
       (∃ bytes, d.get? old = some (.file bytes) ∧
        (d.get? new = some .directory ∧ d.rename source target = .error .isDirectory ∨
         ∃ between d', d.get? new ≠ some .directory ∧ d.rename source target = .ok d' ∧
          Replaced d between old none ∧ Replaced between d' new (some bytes))))) := by
  unfold rename
  cases found : d.locate source with
  | error e => exact .inl ⟨e, rfl, rfl⟩
  | ok old =>
    simp only [bind, Except.bind]
    split
    · next e failed => exact .inr (.inl ⟨old, e, rfl, failed, rfl⟩)
    · next new foundNew =>
      refine .inr (.inr ⟨old, new, rfl, foundNew, ?_⟩)
      split
      · next missing => exact .inl ⟨missing, rfl⟩
      · next directory => exact .inr (.inl ⟨directory, rfl⟩)
      · next bytes stands =>
        refine .inr (.inr ⟨bytes, stands, ?_⟩)
        split
        · next directory => exact .inl ⟨directory, rfl⟩
        · next free =>
          have file : d.get? old ≠ some .directory := by simp [stands]
          have free' : (d.erase old file).get? new ≠ some .directory :=
            fun there => free ((get?_erase_directory file).mp there)
          exact .inr ⟨d.erase old file, _, free, rfl, replaced_erase d file, replaced_put _ bytes _ free'⟩

/-! ## Making directories -/

/-- A disk that has become another by making directories. -/
structure Grows (d d' : Disk) : Prop where
  files : ∀ l, d'.file? l = d.file? l
  directories : KeepsDirectories d d'

theorem Grows.refl (d : Disk) : Grows d d := ⟨fun _ => rfl, KeepsDirectories.refl d⟩

theorem Grows.trans {d d' d'' : Disk} (first : Grows d d') (second : Grows d' d'') : Grows d d'' :=
  ⟨fun l => (second.files l).trans (first.files l), first.directories.trans second.directories⟩

theorem makeDirectory_of_ok {d d' : Disk} {p : Path} (made : d.makeDirectory p = .ok d') :
    accept p = .ok () ∧ ∃ loc, d.locate p.withoutTrailingSlash = .ok loc ∧ d.get? loc = none ∧
      d'.get? loc = some .directory ∧ ∀ l, l ≠ loc → d'.get? l = d.get? l := by
  unfold makeDirectory at made
  obtain ⟨_, accepted, rest⟩ := Except.bind_eq_ok_iff.mp made
  split at rest
  · cases rest
  · next loc found =>
    split at rest
    · cases rest
    · next stands =>
      cases rest
      exact ⟨accepted, loc, found, stands, get?_put_self .., fun l other => get?_put_of_ne _ _ _ _ other⟩

theorem makeDirectory_grows {d d' : Disk} {p : Path} (made : d.makeDirectory p = .ok d') : Grows d d' := by
  obtain ⟨_, loc, _, stands, there, rest⟩ := makeDirectory_of_ok made
  refine ⟨?_, ?_⟩
  · intro l
    by_cases same : l = loc
    · rw [same, file?, there, file?, stands]
    · rw [file?, rest l same, file?]
  · intro l directory
    by_cases same : l = loc
    · rw [same, there]
    · rw [rest l same, directory]

end Disk

/-! ## Actions of all kinds -/

/-- The paths whose files an action may change. -/
def Action.paths : Action → List Path
  | .makeDirectory _ => []
  | .create p => [p]
  | .append p _ => [p]
  | .sync _ => []
  | .rename source target => [source, target]
  | .remove p => [p]

/-- Actions that make no directory. -/
def Action.OnFiles (x : Action) : Prop := ∀ p, x ≠ .makeDirectory p

namespace Disk

/-- An action on files leaves every directory in place. -/
theorem sameDirectories_act {d d' : Disk} {x : Action} (onFiles : x.OnFiles) (acted : d.act x = .ok d') :
    SameDirectories d d' := by
  cases x with
  | makeDirectory p => exact absurd rfl (onFiles p)
  | create p =>
    rcases create_cases d p with ⟨_, _, went⟩ | ⟨_, _, _, went⟩ | ⟨_, _, _, _, went, change⟩ <;>
      cases went.symm.trans acted
    exact change.directories
  | append p more =>
    rcases append_cases d p more with ⟨_, _, went⟩ | ⟨_, _, _, went⟩ | ⟨_, _, _, went⟩ | ⟨_, _, _, _, _, went, change⟩ <;>
      cases went.symm.trans acted
    exact change.directories
  | sync p => cases acted; exact SameDirectories.refl d
  | rename source target =>
    rcases rename_cases d source target with ⟨_, _, went⟩ | ⟨_, _, _, _, went⟩ |
      ⟨_, _, _, _, ⟨_, went⟩ | ⟨_, went⟩ | ⟨_, _, ⟨_, went⟩ | ⟨_, _, _, went, out, into⟩⟩⟩ <;>
      cases went.symm.trans acted
    exact out.directories.trans into.directories
  | remove p =>
    rcases remove_cases d p with ⟨_, _, went⟩ | ⟨_, _, _, went⟩ | ⟨_, _, _, went⟩ | ⟨_, _, _, _, _, went, change⟩ <;>
      cases went.symm.trans acted
    exact change.directories

/-- An action changes no file but those that its paths lead to. -/
theorem file?_act {d d' : Disk} {x : Action} (acted : d.act x = .ok d') {l : Location}
    (elsewhere : ∀ p ∈ x.paths, d.locate p ≠ .ok l) : d'.file? l = d.file? l := by
  cases x with
  | makeDirectory p => exact (makeDirectory_grows acted).files l
  | create p =>
    rcases create_cases d p with ⟨_, _, went⟩ | ⟨_, _, _, went⟩ | ⟨loc, _, found, _, went, change⟩ <;>
      cases went.symm.trans acted
    exact change.of_ne fun same => elsewhere p (by simp [Action.paths]) (same ▸ found)
  | append p more =>
    rcases append_cases d p more with ⟨_, _, went⟩ | ⟨_, _, _, went⟩ | ⟨_, _, _, went⟩ |
      ⟨loc, _, _, found, _, went, change⟩ <;> cases went.symm.trans acted
    exact change.of_ne fun same => elsewhere p (by simp [Action.paths]) (same ▸ found)
  | sync p => cases acted; rfl
  | rename source target =>
    rcases rename_cases d source target with ⟨_, _, went⟩ | ⟨_, _, _, _, went⟩ |
      ⟨old, new, found, foundNew, ⟨_, went⟩ | ⟨_, went⟩ | ⟨_, _, ⟨_, went⟩ | ⟨_, _, _, went, out, into⟩⟩⟩ <;>
      cases went.symm.trans acted
    have notNew : l ≠ new := fun same => elsewhere target (by simp [Action.paths]) (same ▸ foundNew)
    have notOld : l ≠ old := fun same => elsewhere source (by simp [Action.paths]) (same ▸ found)
    rw [into.of_ne notNew, out.of_ne notOld]
  | remove p =>
    rcases remove_cases d p with ⟨_, _, went⟩ | ⟨_, _, _, went⟩ | ⟨_, _, _, went⟩ |
      ⟨loc, _, _, found, _, went, change⟩ <;> cases went.symm.trans acted
    exact change.of_ne fun same => elsewhere p (by simp [Action.paths]) (same ▸ found)

/-- An action that succeeds without changing nothing was led somewhere by its paths. -/
theorem located_of_act {d d' : Disk} {x : Action} (onFiles : x.OnFiles) (acted : d.act x = .ok d') :
    d' = d ∨ ∃ p ∈ x.paths, ∃ l, d.locate p = .ok l := by
  cases x with
  | makeDirectory p => exact absurd rfl (onFiles p)
  | create p =>
    rcases create_cases d p with ⟨_, _, went⟩ | ⟨loc, found, _⟩ | ⟨loc, _, found, _⟩
    · cases went.symm.trans acted
    · exact .inr ⟨p, by simp [Action.paths], loc, found⟩
    · exact .inr ⟨p, by simp [Action.paths], loc, found⟩
  | append p more =>
    rcases append_cases d p more with ⟨_, _, went⟩ | ⟨loc, found, _⟩ | ⟨loc, found, _⟩ | ⟨loc, _, _, found, _⟩
    · cases went.symm.trans acted
    all_goals exact .inr ⟨p, by simp [Action.paths], loc, found⟩
  | sync p => cases acted; exact .inl rfl
  | rename source target =>
    rcases rename_cases d source target with ⟨_, _, went⟩ | ⟨old, _, found, _⟩ | ⟨old, _, found, _⟩
    · cases went.symm.trans acted
    all_goals exact .inr ⟨source, by simp [Action.paths], old, found⟩
  | remove p =>
    rcases remove_cases d p with ⟨_, _, went⟩ | ⟨loc, found, _⟩ | ⟨loc, found, _⟩ | ⟨loc, _, _, found, _⟩
    · cases went.symm.trans acted
    all_goals exact .inr ⟨p, by simp [Action.paths], loc, found⟩

/-- What stands at a location is known from whether a directory does and which file does. -/
theorem get?_eq_of {d d' : Disk} {l : Location}
    (directories : d.get? l = some .directory ↔ d'.get? l = some .directory) (files : d.file? l = d'.file? l) :
    d.get? l = d'.get? l := by
  unfold file? at files
  cases stands : d.get? l with
  | none => cases stands' : d'.get? l with
    | none => rfl
    | some e => cases e <;> simp_all
  | some e => cases stands' : d'.get? l with
    | none => cases e <;> simp_all
    | some e' => cases e <;> cases e' <;> simp_all

theorem get?_congr {d d' : Disk} (same : SameDirectories d d') {l : Location} (files : d.file? l = d'.file? l) :
    d.get? l = d'.get? l := get?_eq_of (same l) files

/-- How an action goes on two disks: it fails on both in the same way, or it succeeds on both, and where the
    disks had the same files they still have. -/
inductive Parallel (d d' : Disk) : Except DiskError Disk → Except DiskError Disk → Prop where
  | error (e : DiskError) : Parallel d d' (.error e) (.error e)
  | ok {after after' : Disk} (directories : SameDirectories after after')
    (files : ∀ l, d.file? l = d'.file? l → after.file? l = after'.file? l) : Parallel d d' (.ok after) (.ok after')

theorem Replaced.parallel {d d' after after' : Disk} (same : SameDirectories d d') {loc : Location}
    {contents : Option (List UInt8)} (change : Replaced d after loc contents) (change' : Replaced d' after' loc contents) :
    Parallel d d' (.ok after) (.ok after') := by
  refine .ok (change.directories.symm.trans (same.trans change'.directories)) ?_
  intro l equal
  rw [change.files, change'.files, equal]

/-- Disks that agree on where a path leads and on what stands there. -/
structure AgreeAt (d d' : Disk) (p : Path) : Prop where
  located : d.locate p = d'.locate p
  stands : ∀ l, d.locate p = .ok l → d.get? l = d'.get? l

section Parallel

variable {d d' : Disk} {p : Path}

theorem create_parallel (same : SameDirectories d d') (agree : AgreeAt d d' p) :
    Parallel d d' (d.create p) (d'.create p) := by
  obtain ⟨located, stands⟩ := agree
  rcases create_cases d p with ⟨e, found, went⟩ | ⟨loc, found, there, went⟩ | ⟨loc, _, found, there, went, change⟩ <;>
  rcases create_cases d' p with ⟨e', found', went'⟩ | ⟨loc', found', there', went'⟩ |
    ⟨loc', _, found', there', went', change'⟩ <;>
  cases found.symm.trans (located.trans found') <;>
  rw [went, went']
  · exact .error _
  · exact .error _
  · exact absurd ((stands _ found).symm.trans there) there'
  · exact absurd ((stands _ found).trans there') there
  · exact change.parallel same change'

theorem append_parallel (same : SameDirectories d d') (agree : AgreeAt d d' p) (more : List UInt8) :
    Parallel d d' (d.append p more) (d'.append p more) := by
  obtain ⟨located, stands⟩ := agree
  rcases append_cases d p more with ⟨e, found, went⟩ | ⟨loc, found, there, went⟩ | ⟨loc, found, there, went⟩ |
    ⟨loc, bytes, _, found, there, went, change⟩ <;>
  rcases append_cases d' p more with ⟨e', found', went'⟩ | ⟨loc', found', there', went'⟩ |
    ⟨loc', found', there', went'⟩ | ⟨loc', bytes', _, found', there', went', change'⟩ <;>
  cases found.symm.trans (located.trans found') <;>
  rw [went, went']
  · exact .error _
  all_goals cases there.symm.trans ((stands _ found).trans there')
  · exact .error _
  · exact .error _
  · exact change.parallel same change'

theorem remove_parallel (same : SameDirectories d d') (agree : AgreeAt d d' p) :
    Parallel d d' (d.remove p) (d'.remove p) := by
  obtain ⟨located, stands⟩ := agree
  rcases remove_cases d p with ⟨e, found, went⟩ | ⟨loc, found, there, went⟩ | ⟨loc, found, there, went⟩ |
    ⟨loc, bytes, _, found, there, went, change⟩ <;>
  rcases remove_cases d' p with ⟨e', found', went'⟩ | ⟨loc', found', there', went'⟩ |
    ⟨loc', found', there', went'⟩ | ⟨loc', bytes', _, found', there', went', change'⟩ <;>
  cases found.symm.trans (located.trans found') <;>
  rw [went, went']
  · exact .error _
  all_goals cases there.symm.trans ((stands _ found).trans there')
  · exact .error _
  · exact .error _
  · exact change.parallel same change'

theorem rename_parallel (same : SameDirectories d d') {source target : Path} (agree : AgreeAt d d' source)
    (agree' : AgreeAt d d' target) : Parallel d d' (d.rename source target) (d'.rename source target) := by
  obtain ⟨locatedOld, standsOld⟩ := agree
  obtain ⟨locatedNew, standsNew⟩ := agree'
  rcases rename_cases d source target with ⟨e, found, went⟩ | ⟨old, e, found, foundNew, went⟩ |
    ⟨old, new, found, foundNew, inner⟩ <;>
  rcases rename_cases d' source target with ⟨e', found', went'⟩ | ⟨old', e', found', foundNew', went'⟩ |
    ⟨old', new', found', foundNew', inner'⟩ <;>
  cases found.symm.trans (locatedOld.trans found')
  · rw [went, went']
    exact .error _
  all_goals cases foundNew.symm.trans (locatedNew.trans foundNew')
  · rw [went, went']
    exact .error _
  · rcases inner with ⟨there, went⟩ | ⟨there, went⟩ | ⟨bytes, there, rest⟩ <;>
    rcases inner' with ⟨there', went'⟩ | ⟨there', went'⟩ | ⟨bytes', there', rest'⟩ <;>
    cases there.symm.trans ((standsOld _ found).trans there')
    · rw [went, went']
      exact .error _
    · rw [went, went']
      exact .error _
    · rcases rest with ⟨free, went⟩ | ⟨_, _, free, went, out, into⟩ <;>
      rcases rest' with ⟨free', went'⟩ | ⟨_, _, free', went', out', into'⟩ <;>
      rw [went, went']
      · exact .error _
      · exact absurd ((standsNew _ foundNew).symm.trans free) free'
      · exact absurd ((standsNew _ foundNew).trans free') free
      · cases out.parallel same out' with
        | ok directories files =>
          cases into.parallel directories into' with
          | ok directories' files' => exact .ok directories' fun l equal => files' l (files l equal)

end Parallel

/-- An action goes the same way on disks that agree at its paths. -/
theorem act_parallel {d d' : Disk} (same : SameDirectories d d') {x : Action} (onFiles : x.OnFiles)
    (agree : ∀ p ∈ x.paths, AgreeAt d d' p) : Parallel d d' (d.act x) (d'.act x) := by
  cases x with
  | makeDirectory p => exact absurd rfl (onFiles p)
  | create p => exact create_parallel same (agree p (by simp [Action.paths]))
  | append p more => exact append_parallel same (agree p (by simp [Action.paths])) more
  | sync p => exact .ok same fun _ equal => equal
  | rename source target =>
    exact rename_parallel same (agree source (by simp [Action.paths])) (agree target (by simp [Action.paths]))
  | remove p => exact remove_parallel same (agree p (by simp [Action.paths]))

end Disk

namespace Procedure

theorem run_perform (x : Action) (d : Disk) :
    (perform x).run d = match d.act x with
      | .ok after => (.ok (), after)
      | .error e => (.error e, d) := by
  unfold perform
  rw [run]
  cases d.act x <;> rfl

/-- An action that goes the same way on two disks ends in the same way on both. -/
theorem run_perform_of_parallel {x : Action} {d d' : Disk} (parallel : Disk.Parallel d d' (d.act x) (d'.act x)) :
    (∃ e, (perform x).run d = (.error e, d) ∧ (perform x).run d' = (.error e, d')) ∨
    (∃ after after', d.act x = .ok after ∧ (perform x).run d = (.ok (), after) ∧ (perform x).run d' = (.ok (), after') ∧
      Disk.SameDirectories after after' ∧ ∀ l, d.file? l = d'.file? l → after.file? l = after'.file? l) := by
  rw [run_perform, run_perform]
  generalize d.act x = went, d'.act x = went' at parallel
  cases parallel with
  | error e => exact .inl ⟨e, rfl, rfl⟩
  | @ok after after' directories files => exact .inr ⟨after, after', rfl, rfl, rfl, directories, files⟩

/-! ## Procedures as a whole -/

/-- A procedure that looks at nothing and whose actions are all of one kind. -/
inductive Only (P : Action → Prop) {α : Type} : Procedure α → Prop where
  | done (a : α) : Only P (done a)
  | act {x : Action} {next : Except DiskError Unit → Procedure α} (first : P x) (rest : ∀ r, Only P (next r)) :
    Only P (act x next)

theorem Only.perform {P : Action → Prop} {x : Action} (first : P x) : Only P (perform x) := .act first .done

theorem Only.bind {P : Action → Prop} {α β : Type} {p : Procedure α} {f : α → Procedure β} (first : Only P p)
    (rest : ∀ a, Only P (f a)) : Only P (p >>= f) := by
  show Only P (p.andThen f)
  induction first with
  | done a => exact rest a
  | act first _ ih => exact .act first ih

theorem Only.writeFile {P : Action → Prop} {p : Path} {bytes : List UInt8} (create : P (.create p))
    (append : P (.append p bytes)) (sync : P (.sync p)) : Only P (writeFile p bytes) := by
  refine (Only.perform create).bind ?_
  rintro (e | _)
  · exact .done _
  · refine (Only.perform append).bind ?_
    rintro (e | _)
    · exact .done _
    · exact Only.perform sync

/-- A procedure that leaves behind a disk in a certain relation to the one that it finds. -/
def Keeps (R : Disk → Disk → Prop) {α : Type} (p : Procedure α) : Prop := ∀ d, R d (p.run d).2

/-- A procedure that ends in the same way on related disks, and leaves related disks behind. -/
def Indifferent (R : Disk → Disk → Prop) {α : Type} (p : Procedure α) : Prop :=
  ∀ d d', R d d' → (p.run d).1 = (p.run d').1 ∧ R (p.run d).2 (p.run d').2

theorem Keeps.bind {R : Disk → Disk → Prop} (trans : ∀ a b c, R a b → R b c → R a c) {α β : Type} {p : Procedure α}
    {f : α → Procedure β} (first : Keeps R p) (rest : ∀ a, Keeps R (f a)) : Keeps R (p >>= f) := by
  intro d
  rw [run_bind]
  exact trans _ _ _ (first d) (rest _ _)

theorem Indifferent.bind {R : Disk → Disk → Prop} {α β : Type} {p : Procedure α} {f : α → Procedure β}
    (first : Indifferent R p) (rest : ∀ a, Indifferent R (f a)) : Indifferent R (p >>= f) := by
  intro d d' related
  obtain ⟨same, between⟩ := first d d' related
  rw [run_bind, run_bind, ← same]
  exact rest _ _ _ between

theorem Keeps.observe {R : Disk → Disk → Prop} (refl : ∀ d, R d d) {α : Type} (f : Disk → α) : Keeps R (observe f) := refl

theorem Indifferent.pure {R : Disk → Disk → Prop} {α : Type} (a : α) : Indifferent R (pure a) :=
  fun _ _ related => ⟨rfl, related⟩

theorem Indifferent.observe {R : Disk → Disk → Prop} {α : Type} {f : Disk → α} (same : ∀ d d', R d d' → f d = f d') :
    Indifferent R (observe f) := fun d d' related => ⟨same d d' related, related⟩

theorem keeps_of_only {P : Action → Prop} {R : Disk → Disk → Prop} (refl : ∀ d, R d d)
    (trans : ∀ a b c, R a b → R b c → R a c) (single : ∀ x, P x → Keeps R (perform x)) {α : Type}
    {p : Procedure α} (only : Only P p) : Keeps R p := by
  induction only with
  | done a => exact refl
  | @act x next first _ ih =>
    have : act x next = perform x >>= next := rfl
    rw [this]
    exact Keeps.bind trans (single x first) ih

theorem indifferent_of_only {P : Action → Prop} {R : Disk → Disk → Prop}
    (single : ∀ x, P x → Indifferent R (perform x)) {α : Type} {p : Procedure α} (only : Only P p) :
    Indifferent R p := by
  induction only with
  | done a => exact fun _ _ related => ⟨rfl, related⟩
  | @act x next first _ ih =>
    have : act x next = perform x >>= next := rfl
    rw [this]
    exact (single x first).bind ih

/-! ## Whatever stands on the disk -/

/-- What a procedure may end with when nothing is known of the disk: all that it sees is arbitrary, and so is
    how its actions go. -/
inductive Ends {α : Type} : Procedure α → α → Prop where
  | done (a : α) : Ends (done a) a
  | look {next : Disk → Procedure α} (d : Disk) {a : α} (rest : Ends (next d) a) : Ends (look next) a
  | act {x : Action} {next : Except DiskError Unit → Procedure α} (went : Except DiskError Unit) {a : α}
    (rest : Ends (next went) a) : Ends (act x next) a

theorem ends_run {α : Type} (p : Procedure α) (d : Disk) : p.Ends (p.run d).1 := by
  induction p generalizing d with
  | done a => exact .done a
  | look next ih => exact .look d (ih d d)
  | act x next ih =>
    rw [run]
    split
    · exact .act (.ok ()) (ih _ _)
    · next e _ => exact .act (.error e) (ih _ _)

theorem ends_done {α : Type} {a b : α} (ends : (done a).Ends b) : b = a := by
  cases ends
  rfl

theorem ends_bind {α β : Type} {p : Procedure α} {f : α → Procedure β} {b : β} (ends : (p >>= f).Ends b) :
    ∃ a, p.Ends a ∧ (f a).Ends b := by
  change (p.andThen f).Ends b at ends
  induction p with
  | done a => exact ⟨a, .done a, ends⟩
  | look next ih =>
    cases ends with
    | look d rest =>
      obtain ⟨a, first, second⟩ := ih d rest
      exact ⟨a, .look d first, second⟩
  | act x next ih =>
    cases ends with
    | act went rest =>
      obtain ⟨a, first, second⟩ := ih went rest
      exact ⟨a, .act went first, second⟩

end Procedure

end NodeTelemetry
