import NodeTelemetry.Proofs.Disk.Directories

/-!
# Stopping in the middle

A process may stop before any action of a procedure, and while it hands bytes
over, after any number of them (`Procedure.Stops`). Where all actions of a
procedure keep a relation, the disk at which it stops stands in that relation to
the one it began with, and the one it would have ended with to it
(`Procedure.between_of_stops`).

While directories are being made, what is in the way of a path stays in the way:
only a missing directory can be the reason why a path can be followed later
(`Disk.readDirectory_error_mono`).
-/

namespace NodeTelemetry

theorem Except.bind_eq_error_iff {ε α β : Type} {x : Except ε α} {f : α → Except ε β} {e : ε} :
    (x >>= f) = .error e ↔ x = .error e ∨ ∃ a, x = .ok a ∧ f a = .error e := by
  cases x with
  | error e' => simp [bind, Except.bind]
  | ok a => simp [bind, Except.bind]

/-- Actions on files at certain locations. -/
structure Action.Touches (P : Location → Prop) (x : Action) : Prop where
  onFiles : x.OnFiles
  paths : ∀ p ∈ x.paths, P p.location

namespace Disk

/-! ## Adding bytes in parts -/

theorem getElem?_entries (d : Disk) (l : Location) : d.entries[l]? = if l = [] ∨ l = .top then none else d.get? l := by
  split
  · next root =>
    refine Std.ExtTreeMap.getElem?_eq_none fun member => ?_
    exact not_or.mpr (d.placed l member).free root
  · next free => rw [get?, lookup, if_neg free]

/-- Disks with the same directories and the same files are the same. -/
theorem eq_of_same {d d' : Disk} (directories : SameDirectories d d') (files : ∀ l, d.file? l = d'.file? l) : d = d' := by
  obtain ⟨entries, placed⟩ := d
  obtain ⟨entries', placed'⟩ := d'
  have : entries = entries' := by
    refine Std.ExtTreeMap.ext_getElem? fun l => ?_
    rw [getElem?_entries ⟨entries, placed⟩, getElem?_entries ⟨entries', placed'⟩, get?_congr directories (files l)]
  subst this
  rfl

/-- Bytes that are handed over in two parts are added like those that are handed over at once. -/
theorem append_append {d between : Disk} {p : Path} {first : List UInt8} (began : d.append p first = .ok between)
    (rest : List UInt8) : ∃ after, between.append p rest = .ok after ∧ d.append p (first ++ rest) = .ok after := by
  rcases append_cases d p first with ⟨_, _, went⟩ | ⟨_, _, _, went⟩ | ⟨_, _, _, went⟩ | ⟨loc, old, _, found, there, went, change⟩ <;>
    cases began.symm.trans went
  have again : between.locate p = .ok loc := (locate_congr change.directories).mp found
  have stands : between.get? loc = some (.file (old ++ first)) := file?_eq_some_iff.mp change.here
  rcases append_cases between p rest with ⟨_, failed, _⟩ | ⟨_, found', there', _⟩ | ⟨_, found', there', _⟩ |
    ⟨loc', old', after, found', there', went', change'⟩
  · cases again.symm.trans failed
  · cases again.symm.trans found'
    cases stands.symm.trans there'
  · cases again.symm.trans found'
    cases stands.symm.trans there'
  cases again.symm.trans found'
  cases stands.symm.trans there'
  rcases append_cases d p (first ++ rest) with ⟨_, failed, _⟩ | ⟨_, found'', there'', _⟩ | ⟨_, found'', there'', _⟩ |
    ⟨_, _, whole, found'', there'', went'', change''⟩
  · cases found.symm.trans failed
  · cases found.symm.trans found''
    cases there.symm.trans there''
  · cases found.symm.trans found''
    cases there.symm.trans there''
  cases found.symm.trans found''
  cases there.symm.trans there''
  have same : whole = after := by
    refine eq_of_same ?_ fun l => ?_
    · exact change''.directories.symm.trans (change.directories.trans change'.directories)
    · by_cases here : l = loc
      · rw [here, change''.here, change'.here, List.append_assoc]
      · rw [change''.of_ne here, change'.of_ne here, change.of_ne here]
  exact ⟨after, went', same ▸ went''⟩

/-! ## Certain files -/

/-- Disks that differ in the files at certain locations only. -/
structure SameElsewhere (P : Location → Prop) (d d' : Disk) : Prop where
  directories : SameDirectories d d'
  files : ∀ l, ¬ P l → d'.file? l = d.file? l

theorem SameElsewhere.refl (P : Location → Prop) (d : Disk) : SameElsewhere P d d :=
  ⟨SameDirectories.refl d, fun _ _ => rfl⟩

theorem SameElsewhere.trans {P : Location → Prop} (d d' d'' : Disk) (first : SameElsewhere P d d')
    (second : SameElsewhere P d' d'') : SameElsewhere P d d'' :=
  ⟨first.directories.trans second.directories, fun l other => (second.files l other).trans (first.files l other)⟩

theorem sameElsewhere_act {P : Location → Prop} {x : Action} {d d' : Disk} (touches : x.Touches P)
    (acted : d.act x = .ok d') : SameElsewhere P d d' := by
  refine ⟨sameDirectories_act touches.onFiles acted, fun l other => ?_⟩
  refine file?_act acted fun p member found => other ?_
  rw [locate_eq_location found]
  exact touches.paths p member

/-! ## What stays in the way -/

/-- Only directories stand where paths begin. -/
theorem free_of_get?_ne {d : Disk} {loc : Location} (stands : d.get? loc ≠ some .directory) : loc ≠ [] ∧ loc ≠ .top :=
  not_or.mp fun root => stands (by rw [get?, lookup, if_pos root])

theorem placed_of_file? {d : Disk} {loc : Location} (stands : d.file? loc ≠ none) : Placed d.entries loc := by
  obtain ⟨bytes, stands⟩ := Option.ne_none_iff_exists'.mp stands
  have there := file?_eq_some_iff.mp stands
  have free : d.get? loc ≠ some .directory := by simp [there]
  exact d.placed_of_get? (by simp [there]) (free_of_get?_ne free)

theorem enter_eq_error_iff {d : Disk} {loc : Location} {piece : Name} {e : DiskError} :
    d.enter loc piece = .error e ↔ Path.isStill piece = false ∧ piece = .up ∧ d.passThrough loc = .error e := by
  unfold enter
  split
  · next still => simp [still]
  · split
    · next up =>
      rw [Except.bind_eq_error_iff]
      have moves : Path.isStill .up = false := rfl
      simp [up, moves, pure, Except.pure]
    · next down => simp [down]

/-- A path can be followed further only where directories are missing on its way. -/
theorem locate_mono {d d' : Disk} (keeps : KeepsDirectories d d') {p : Path} {loc : Location}
    (found : d.locate p = .ok loc) : d'.locate p = .ok loc := by
  obtain ⟨accepted, followed, arrives⟩ := locate_eq_ok_iff.mp found
  refine locate_eq_ok_iff.mpr ⟨accepted, walk_mono keeps followed, ?_⟩
  unfold Arrives at arrives ⊢
  split
  · next inside =>
    rw [if_pos inside] at arrives
    exact keeps loc arrives
  · next outside =>
    rw [if_neg outside] at arrives
    exact ⟨keeps _ arrives.1, arrives.2⟩

section

variable {d d' : Disk} (grows : Grows d d')

include grows

theorem Grows.file {loc : Location} {bytes : List UInt8} (stands : d.get? loc = some (.file bytes)) :
    d'.get? loc = some (.file bytes) :=
  file?_eq_some_iff.mp ((grows.files loc).trans (file?_eq_some_iff.mpr stands))

variable {e : DiskError} (other : e ≠ .notFound)

include other

theorem passThrough_error_mono {loc : Location} (failed : d.passThrough loc = .error e) :
    d'.passThrough loc = .error e := by
  induction loc with
  | nil => cases failed
  | cons n above ih =>
    rw [passThrough] at failed ⊢
    cases stands : d.get? (n :: above) with
    | some entry =>
      rw [stands] at failed
      cases entry with
      | directory => cases failed
      | file bytes =>
        rw [grows.file stands]
        exact failed
    | none =>
      -- nothing can have been put there since
      have free := free_of_get?_ne (show d.get? (n :: above) ≠ some .directory by simp [stands])
      have missing (absent : ¬ Placed d'.entries (n :: above)) : d'.get? (n :: above) = none :=
        Classical.byContradiction fun there => absent (d'.placed_of_get? there free)
      rw [stands] at failed
      rcases Except.bind_eq_error_iff.mp failed with blocked | ⟨_, passed, thrown⟩
      · have still := ih blocked
        have gone : ¬ Placed d'.entries (n :: above) := by
          intro place
          have passed : d'.passThrough above = .ok () := passThrough_eq_ok_iff.mpr place.held
          cases still.symm.trans passed
        rw [missing gone]
        exact Except.bind_eq_error_iff.mpr (.inl still)
      · have long : Name.maxLength < n.bytes.length := by
          by_cases long : Name.maxLength < n.bytes.length
          · exact long
          · rw [if_neg long] at thrown
            cases thrown
            exact absurd rfl other
        have passed' := passThrough_eq_ok_iff.mpr (grows.directories _ (passThrough_eq_ok_iff.mp passed))
        rw [missing fun place => absurd (place.short n rfl) (Nat.not_le.mpr long)]
        exact Except.bind_eq_error_iff.mpr (.inr ⟨(), passed', thrown⟩)

theorem walk_error_mono {p : Path} (failed : d.walk p = .error e) : d'.walk p = .error e := by
  rw [walk_eq] at failed ⊢
  generalize p.descent = pieces at failed ⊢
  generalize p.origin = loc at failed ⊢
  induction pieces generalizing loc with
  | nil => cases failed
  | cons piece rest ih =>
    rw [List.foldlM_cons] at failed ⊢
    rcases Except.bind_eq_error_iff.mp failed with stopped | ⟨next, entered, later⟩
    · obtain ⟨moves, up, blocked⟩ := enter_eq_error_iff.mp stopped
      rw [enter_eq_error_iff.mpr ⟨moves, up, passThrough_error_mono grows other blocked⟩]
      rfl
    · obtain ⟨moved, directory⟩ := enter_eq_ok_iff.mp entered
      rw [enter_eq_ok_iff.mpr ⟨moved, fun up => grows.directories loc (directory up)⟩]
      exact ih next later

theorem locate_error_mono {p : Path} (failed : d.locate p = .error e) : d'.locate p = .error e := by
  unfold locate at failed ⊢
  rcases Except.bind_eq_error_iff.mp failed with refused | ⟨_, accepted, rest⟩
  · rw [refused]
    rfl
  refine Except.bind_eq_error_iff.mpr (.inr ⟨(), accepted, ?_⟩)
  rcases Except.bind_eq_error_iff.mp rest with stopped | ⟨loc, followed, arrival⟩
  · exact Except.bind_eq_error_iff.mpr (.inl (walk_error_mono grows other stopped))
  refine Except.bind_eq_error_iff.mpr (.inr ⟨loc, walk_mono grows.directories followed, ?_⟩)
  split
  · next inside =>
    rw [if_pos inside] at arrival
    rcases Except.bind_eq_error_iff.mp arrival with blocked | ⟨_, _, arrived⟩
    · exact Except.bind_eq_error_iff.mpr (.inl (passThrough_error_mono grows other blocked))
    · cases arrived
  · next outside =>
    rw [if_neg outside] at arrival
    rcases Except.bind_eq_error_iff.mp arrival with blocked | ⟨_, passed, long⟩
    · exact Except.bind_eq_error_iff.mpr (.inl (passThrough_error_mono grows other blocked))
    · refine Except.bind_eq_error_iff.mpr (.inr ⟨(), ?_, long⟩)
      exact passThrough_eq_ok_iff.mpr (grows.directories _ (passThrough_eq_ok_iff.mp passed))

/-- A directory that could not be read for another reason than that it was missing still cannot be read
    when directories were made. -/
theorem readDirectory_error_mono {p : Path} (failed : d.readDirectory p = .error e) :
    d'.readDirectory p = .error e := by
  rcases Except.bind_eq_error_iff.mp failed with lost | ⟨loc, found, rest⟩
  · exact Except.bind_eq_error_iff.mpr (.inl (locate_error_mono grows other lost))
  · refine Except.bind_eq_error_iff.mpr (.inr ⟨loc, locate_mono grows.directories found, ?_⟩)
    cases stands : d.get? loc with
    | none =>
      rw [stands] at rest
      cases rest
      exact absurd rfl other
    | some entry =>
      rw [stands] at rest
      cases entry with
      | directory => cases rest
      | file bytes =>
        rw [grows.file stands]
        exact rest

end

end Disk

namespace Procedure

open Disk

/-! ## Stops -/

/-- The disks on which a procedure may leave a disk when the process stops: before any of its looks and
    actions, and between any two parts in which bytes are handed over. -/
inductive Stops {α : Type} : Procedure α → Disk → Disk → Prop where
  | here (p : Procedure α) (d : Disk) : Stops p d d
  | look {next : Disk → Procedure α} {d d' : Disk} (later : Stops (next d) d d') : Stops (look next) d d'
  | acted {x : Action} {next : Except DiskError Unit → Procedure α} {d between d' : Disk}
    (acted : d.act x = .ok between) (later : Stops (next (.ok ())) between d') : Stops (act x next) d d'
  | failed {x : Action} {next : Except DiskError Unit → Procedure α} {d d' : Disk} {e : DiskError}
    (failed : d.act x = .error e) (later : Stops (next (.error e)) d d') : Stops (act x next) d d'
  | part {p : Path} {first rest : List UInt8} {next : Except DiskError Unit → Procedure α} {d between d' : Disk}
    (began : d.append p first = .ok between) (later : Stops (act (.append p rest) next) between d') :
    Stops (act (.append p (first ++ rest)) next) d d'

/-- The disk when a process stops after `k` actions and, where bytes are handed over next, after the first
    `taken` of them. -/
def stopAfter {α : Type} : Procedure α → Nat → Nat → Disk → Disk
  | done _, _, _, d => d
  | look next, k, taken, d => stopAfter (next d) k taken d
  | act (.append p bytes) _, 0, taken, d =>
    match d.append p (bytes.take taken) with
    | .ok torn => torn
    | .error _ => d
  | act _ _, 0, _, d => d
  | act x next, k + 1, taken, d =>
    match d.act x with
    | .ok after => stopAfter (next (.ok ())) k taken after
    | .error e => stopAfter (next (.error e)) k taken d

theorem stops_stopAfter {α : Type} (p : Procedure α) (k taken : Nat) (d : Disk) : p.Stops d (p.stopAfter k taken d) := by
  induction p generalizing k d with
  | done a => exact .here _ d
  | look next ih => exact .look (ih d k d)
  | act x next ih =>
    cases k with
    | zero =>
      cases x with
      | append p bytes =>
        rw [stopAfter]
        split
        · next torn began =>
          rw [← List.take_append_drop taken bytes]
          exact .part began (.here _ torn)
        · exact .here _ d
      | _ => exact .here _ d
    | succ k =>
      rw [stopAfter]
      cases acted : d.act x with
      | ok after => exact .acted acted (ih _ k after)
      | error e => exact .failed acted (ih _ k d)

/-- The end of a run is where a process may stop, too. -/
theorem stops_run {α : Type} (p : Procedure α) (d : Disk) : p.Stops d (p.run d).2 := by
  induction p generalizing d with
  | done a => exact .here _ d
  | look next ih => exact .look (ih d d)
  | act x next ih =>
    rw [run]
    split
    · next after acted => exact .acted acted (ih _ after)
    · next e failed => exact .failed failed (ih _ d)

theorem stops_done {α : Type} {a : α} {d d' : Disk} (stopped : (done a).Stops d d') : d' = d := by
  cases stopped
  rfl

theorem stops_observe {α : Type} {f : Disk → α} {d d' : Disk} (stopped : (observe f).Stops d d') : d' = d := by
  cases stopped with
  | here => rfl
  | look later => exact stops_done later

/-- Bytes that are handed over in parts lead to the same end. -/
theorem run_part {α : Type} {p : Path} {first : List UInt8} {d between : Disk} (began : d.append p first = .ok between)
    (rest : List UInt8) (next : Except DiskError Unit → Procedure α) :
    (act (.append p rest) next).run between = (act (.append p (first ++ rest)) next).run d := by
  obtain ⟨after, went, whole⟩ := append_append began rest
  simp only [run, Disk.act, went, whole]

/-- One procedure after another stops in the first one, or after it in the second one. -/
theorem stops_bind {α β : Type} {p : Procedure α} {f : α → Procedure β} {d d' : Disk} (stopped : (p >>= f).Stops d d') :
    p.Stops d d' ∨ (f (p.run d).1).Stops (p.run d).2 d' := by
  have shape (p : Procedure α) : p >>= f = p.andThen f := rfl
  rw [shape] at stopped
  induction p generalizing d with
  | done a => exact .inr stopped
  | look next ih =>
    cases stopped with
    | here => exact .inl (.here _ _)
    | look later => exact (ih d later).imp .look id
  | act x next ih =>
    generalize whole : (act x next).andThen f = q at stopped
    induction stopped generalizing x with
    | here => exact .inl (.here _ _)
    | look => cases whole
    | acted acted later =>
      cases whole
      simp only [run, acted]
      exact (ih _ later).imp (.acted acted) id
    | failed failed later =>
      cases whole
      simp only [run, failed]
      exact (ih _ later).imp (.failed failed) id
    | part began _ again =>
      cases whole
      rw [← run_part began]
      exact (again _ ih rfl).imp (.part began) id

/-- A procedure whose actions are all of one kind, whatever it sees and however they go. -/
inductive Acts (P : Action → Prop) {α : Type} : Procedure α → Prop where
  | done (a : α) : Acts P (done a)
  | look {next : Disk → Procedure α} (rest : ∀ d, Acts P (next d)) : Acts P (look next)
  | act {x : Action} {next : Except DiskError Unit → Procedure α} (first : P x) (rest : ∀ r, Acts P (next r)) :
    Acts P (act x next)

theorem Only.acts {P : Action → Prop} {α : Type} {p : Procedure α} (only : Only P p) : Acts P p := by
  induction only with
  | done a => exact .done a
  | act first _ ih => exact .act first ih

theorem Acts.perform {P : Action → Prop} {x : Action} (first : P x) : Acts P (perform x) := .act first .done

theorem Acts.bind {P : Action → Prop} {α β : Type} {p : Procedure α} {f : α → Procedure β} (first : Acts P p)
    (rest : ∀ a, Acts P (f a)) : Acts P (p >>= f) := by
  show Acts P (p.andThen f)
  induction first with
  | done a => exact rest a
  | look _ ih => exact .look ih
  | act first _ ih => exact .act first ih

section

variable {P : Action → Prop} {R : Disk → Disk → Prop} (refl : ∀ d, R d d) (trans : ∀ a b c, R a b → R b c → R a c)
  (single : ∀ x d d', P x → d.act x = .ok d' → R d d')

include refl trans single

/-- What every action keeps, the whole procedure keeps. -/
theorem run_of_acts {α : Type} {p : Procedure α} (acts : Acts P p) : p.Keeps R := by
  induction acts with
  | done a => exact refl
  | look _ ih => exact fun d => ih d d
  | @act x next first _ ih =>
    intro d
    rw [run]
    split
    · next after acted => exact trans _ _ _ (single x d after first acted) (ih _ after)
    · exact ih _ d

/-- A disk at which a procedure stops lies between the first one and the last one. -/
theorem between_of_stops (parts : ∀ p first rest, P (.append p (first ++ rest)) → P (.append p first) ∧ P (.append p rest))
    {α : Type} {p : Procedure α} (acts : Acts P p) {d d' : Disk} (stopped : p.Stops d d') :
    R d d' ∧ R d' (p.run d).2 := by
  induction stopped with
  | here p d => exact ⟨refl d, run_of_acts refl trans single acts d⟩
  | look _ ih =>
    cases acts with
    | look rest => exact ih (rest _)
  | @acted x next d between d' acted _ ih =>
    cases acts with
    | act first rest =>
      obtain ⟨before, after⟩ := ih (rest _)
      simp only [run, acted]
      exact ⟨trans _ _ _ (single x d between first acted) before, after⟩
  | failed failed _ ih =>
    cases acts with
    | act first rest =>
      simp only [run, failed]
      exact ih (rest _)
  | @part p first rest next d between d' began _ ih =>
    cases acts with
    | act whole later =>
      obtain ⟨front, back⟩ := parts p first rest whole
      obtain ⟨before, after⟩ := ih (.act back later)
      rw [← run_part began]
      exact ⟨trans _ _ _ (single _ d between front began) before, after⟩

end

/-! ## Procedures on certain files -/

theorem Acts.mono {P Q : Action → Prop} (weaker : ∀ x, P x → Q x) {α : Type} {p : Procedure α} (acts : Acts P p) :
    Acts Q p := by
  induction acts with
  | done a => exact .done a
  | look _ ih => exact .look ih
  | act first _ ih => exact .act (weaker _ first) ih

/-- Procedures on certain files leave all others alone, also where they stop. -/
theorem run_elsewhere {P : Location → Prop} {α : Type} {p : Procedure α} (acts : p.Acts (Action.Touches P)) (d : Disk) :
    SameElsewhere P d (p.run d).2 :=
  run_of_acts (SameElsewhere.refl P) SameElsewhere.trans (fun _ _ _ => sameElsewhere_act) acts d

theorem stops_elsewhere {P : Location → Prop} {α : Type} {p : Procedure α} (acts : p.Acts (Action.Touches P))
    {d d' : Disk} (stopped : p.Stops d d') : SameElsewhere P d d' := by
  refine (between_of_stops (SameElsewhere.refl P) SameElsewhere.trans (fun _ _ _ => sameElsewhere_act) ?_ acts stopped).1
  rintro p first rest ⟨-, paths⟩
  exact ⟨⟨fun _ => by simp, paths⟩, ⟨fun _ => by simp, paths⟩⟩

/-! ## Making directories -/

/-- Making the directories of a path makes directories that the path passes through, and does nothing else. -/
theorem acts_makeDirectoriesUpTo (depth : Nat) (p : Path) :
    (makeDirectoriesUpTo depth p).Acts fun x => ∃ q, x = .makeDirectory q ∧ p.PassesThrough q.location := by
  induction depth generalizing p with
  | zero => exact .done _
  | succ depth ih =>
    have make : (perform (.makeDirectory p)).Acts fun x => ∃ q, x = .makeDirectory q ∧ p.PassesThrough q.location :=
      .perform ⟨p, rfl, p.passesThrough_location⟩
    have asked (e : DiskError) :
        (do return if ← observe (·.isDirectory p) then .ok () else .error e : Procedure (Except DiskError Unit)).Acts
          fun x => ∃ q, x = .makeDirectory q ∧ p.PassesThrough q.location := .look fun _ => .done _
    rw [makeDirectoriesUpTo]
    split
    · exact .done _
    · refine make.bind ?_
      rintro (e | _)
      · cases e with
        | notFound =>
          cases parent : p.parent? with
          | none => exact .done _
          | some above =>
            have inner : (makeDirectoriesUpTo depth above).Acts
                fun x => ∃ q, x = .makeDirectory q ∧ p.PassesThrough q.location := by
              cases filled : above.isEmpty with
              | false =>
                refine (ih above).mono ?_
                rintro _ ⟨q, rfl, passes⟩
                exact ⟨q, rfl, passes.of_parent parent filled⟩
              | true =>
                -- the empty path needs no directory
                cases depth with
                | zero => exact .done _
                | succ depth =>
                  rw [makeDirectoriesUpTo, if_pos filled]
                  exact .done _
            refine inner.bind ?_
            rintro (e | _)
            · exact .done _
            · refine make.bind ?_
              rintro (e | _)
              · exact asked e
              · exact .done _
        | _ => exact asked _
      · exact .done _

/-- Directories that are being made are there one after another. -/
theorem grows_of_stops_makeDirectories {p : Path} {d d' : Disk} (stopped : (makeDirectories p).Stops d d') :
    Grows d d' ∧ Grows d' ((makeDirectories p).run d).2 := by
  refine between_of_stops Grows.refl (fun _ _ _ => Grows.trans) ?_ ?_ (acts_makeDirectoriesUpTo _ p) stopped
  · rintro _ d d' ⟨q, rfl, _⟩ made
    exact makeDirectory_grows made
  · rintro _ _ _ ⟨q, append, _⟩
    cases append

end Procedure

end NodeTelemetry
