import NodeTelemetry.Proofs.Retention.Writing

/-!
# Writing and pruning on any device

Whatever actions of a write a device fails, a write ends at a path that failed, or
with all names taken, or with the whole snapshot under the first name that was free
once the directory was there (`Store.Attempted`). A name that nothing stands under
stays free, unless it is the one the write took, or the path of the store passes
through it (`Store.took_of_goes_write`). Pruning only takes away, and only what has
expired.
-/

namespace NodeTelemetry

namespace Procedure

variable {fallible : Action → Prop}

theorem act_of_goes_perform {x : Action} {d d' : Disk} (goes : (perform x).Goes fallible d (.ok ()) d') :
    d.act x = .ok d' := by
  cases goes_perform goes with
  | acted acted => exact acted

/-- A file that was written was written by actions that all succeeded. -/
theorem run_of_goes_writeFile {p : Path} {bytes : List UInt8} {d d' : Disk}
    (goes : (writeFile p bytes).Goes fallible d (.ok ()) d') : (writeFile p bytes).run d = (.ok (), d') := by
  obtain ⟨created, made, creating, later⟩ := goes_bind goes
  cases created with
  | error e => cases (goes_done later).1
  | ok u =>
    obtain ⟨added, filled, adding, later⟩ := goes_bind later
    cases added with
    | error e => cases (goes_done later).1
    | ok u =>
      rw [writeFile, run_bind, run_perform, act_of_goes_perform creating]
      simp only [run_bind, run_perform, act_of_goes_perform adding, act_of_goes_perform later]

end Procedure

namespace Store

open Retention

variable {s : Store} {fallible : Action → Prop} {d d' : Disk} {r : Except StorageError Path}

/-! ## One name -/

/-- However placing a file fails, at most unfinished files have changed. A file that was placed was placed by
    actions that all succeeded. -/
theorem place_of_goes {n : FileName} (nameable : Nameable n.instanceId) {body : List UInt8}
    (goes : (s.place n body).Goes fallible d r d') :
    ((∃ p e, r = .error (.atPath p e)) ∧ Disk.SameElsewhere s.Unfinished d d') ∨
    (r = .ok (s.finalPath n) ∧ s.Added n body d d') := by
  have unfinished {α : Type} {p : Procedure α} {a : α} {d d' : Disk} (acts : p.Acts (s.OnUnfinished n))
      (goes : p.Goes fallible d a d') : Disk.SameElsewhere s.Unfinished d d' :=
    Procedure.elsewhere_of_goes (acts.mono fun _ => OnUnfinished.touches nameable.2) goes
  obtain ⟨wrote, made, writing, later⟩ := Procedure.goes_bind goes
  have begun := unfinished (s.acts_writeFile n body) writing
  cases wrote with
  | error e =>
    have left := unfinished (s.acts_discard n _) later
    obtain ⟨_, _, _, last⟩ := Procedure.goes_bind later
    exact .inl ⟨⟨_, _, (Procedure.goes_done last).1⟩, begun.trans _ _ _ left⟩
  | ok u =>
    obtain ⟨renamed, moved, moving, rest⟩ := Procedure.goes_bind later
    cases renamed with
    | error e =>
      have still : moved = made := by
        cases Procedure.goes_perform moving <;> rfl
      subst still
      have left := unfinished (s.acts_discard n _) rest
      obtain ⟨_, _, _, last⟩ := Procedure.goes_bind rest
      exact .inl ⟨⟨_, _, (Procedure.goes_done last).1⟩, begun.trans _ _ _ left⟩
    | ok u =>
      obtain ⟨rfl, rfl⟩ := Procedure.goes_done rest
      have run : (s.place n body).run d = (.ok (s.finalPath n), d') := by
        rw [place, Procedure.run_bind, Procedure.run_of_goes_writeFile writing]
        simp only [Procedure.run_bind, Procedure.run_perform, Procedure.act_of_goes_perform moving]
        rfl
      have added := (added_of_place nameable (congrArg Prod.fst run)).2
      rw [run] at added
      exact .inr ⟨rfl, added⟩

/-! ## All names of a snapshot -/

/-- How trying the names of a snapshot goes: all of them are taken, or the file is placed under the first one
    that is free. -/
inductive Attempted (s : Store) (fallible : Action → Prop) (snapshot : Snapshot) (d : Disk) :
    Except StorageError Path → Disk → Prop where
  | taken (all : ∀ i < nameAttempts, d.has (s.finalPath (nameAfter snapshot i)) = true) :
    Attempted s fallible snapshot d (.error (.nameExhausted s.dir)) d
  | placed {i : Nat} (small : i < nameAttempts) (earlier : ∀ j < i, d.has (s.finalPath (nameAfter snapshot j)) = true)
    {r : Except StorageError Path} {d' : Disk}
    (goes : (s.place (nameAfter snapshot i) snapshot.render).Goes fallible d r d') :
    Attempted s fallible snapshot d r d'

theorem attempted_of_goes_placeFrom {snapshot : Snapshot} {tried attempts : Nat} (all : tried + attempts = nameAttempts)
    (earlier : ∀ j < tried, d.has (s.finalPath (nameAfter snapshot j)) = true)
    (goes : (s.placeFrom snapshot tried attempts).Goes fallible d r d') : s.Attempted fallible snapshot d r d' := by
  induction attempts generalizing tried with
  | zero =>
    obtain ⟨rfl, rfl⟩ := Procedure.goes_done goes
    exact .taken fun j small => earlier j (by omega)
  | succ attempts ih =>
    obtain ⟨taken, seen, looking, later⟩ := Procedure.goes_bind goes
    obtain ⟨same, rfl⟩ := Procedure.goes_observe looking
    cases taken with
    | false => exact .placed (by omega) earlier later
    | true =>
      refine ih (by omega) (fun j small => ?_) later
      by_cases last : j = tried
      · rw [last]
        exact same.symm
      · exact earlier j (by omega)

/-- A write makes directories that its path passes through, and then fails or tries its names. -/
theorem attempted_of_goes_write {snapshot : Snapshot} (goes : (s.write snapshot).Goes fallible d r d') :
    ∃ between, (∀ l, ¬ s.dir.PassesThrough l → between.get? l = d.get? l) ∧
      ((∃ e, r = .error (.atPath s.dir e)) ∧ d' = between ∨ s.Attempted fallible snapshot between r d') := by
  obtain ⟨made, between, making, later⟩ := Procedure.goes_bind goes
  refine ⟨between, fun l outside => Procedure.get?_of_goes_makeDirectories making outside, ?_⟩
  cases made with
  | error e =>
    obtain ⟨rfl, rfl⟩ := Procedure.goes_done later
    exact .inl ⟨⟨e, rfl⟩, rfl⟩
  | ok u => exact .inr (attempted_of_goes_placeFrom (Nat.zero_add _) (fun _ none => absurd none (Nat.not_lt_zero _)) later)

section

variable {snapshot : Snapshot} (nameable : Nameable snapshot.instanceId)

theorem nameAfter_zero (snapshot : Snapshot) : nameAfter snapshot 0 = ⟨snapshot.capturedAt, snapshot.instanceId⟩ :=
  congrArg (FileName.mk · snapshot.instanceId) (Word.addCapped_zero _)

theorem nameAfter_mem_candidates {i : Nat} (small : i < nameAttempts) : nameAfter snapshot i ∈ candidates snapshot :=
  List.mem_map.mpr ⟨i, List.mem_range.mpr small, rfl⟩

include nameable

/-- A write that succeeds has added the whole snapshot under one of its names. -/
theorem added_of_goes_write {path : Path} (goes : (s.write snapshot).Goes fallible d (.ok path) d') :
    ∃ n ∈ candidates snapshot, path = s.finalPath n ∧ ∃ between, s.Added n snapshot.render between d' := by
  obtain ⟨between, _, ⟨⟨e, failed⟩, _⟩ | attempted⟩ := attempted_of_goes_write goes
  · cases failed
  · cases attempted with
    | @placed i small _ _ _ goes =>
      rcases place_of_goes (n := nameAfter snapshot i) nameable goes with ⟨⟨p, e, failed⟩, _⟩ | ⟨done, added⟩
      · cases failed
      · exact ⟨_, nameAfter_mem_candidates small, Except.ok.inj done, between, added⟩

variable (goes : (s.write snapshot).Goes fallible d r d')

include goes

/-- What comes to stand under a name of a finished file was written there. -/
theorem took_of_goes_write {n : Name} {m : FileName} (read : FileName.ofName? n = some m)
    (aside : ¬ s.dir.PassesThrough (n :: s.dir.location)) (free : d.get? (n :: s.dir.location) = none)
    (stands : d'.get? (n :: s.dir.location) ≠ none) :
    ∃ k ∈ candidates snapshot, r = .ok (s.finalPath k) ∧ n = Name.ofText k.text := by
  obtain ⟨between, kept, went⟩ := attempted_of_goes_write goes
  rw [← kept _ aside] at free
  rcases went with ⟨_, rfl⟩ | attempted
  · exact absurd free stands
  · cases attempted with
    | taken => exact absurd free stands
    | @placed i small _ _ _ goes =>
      rcases place_of_goes (n := nameAfter snapshot i) nameable goes with ⟨_, same⟩ | ⟨done, added⟩
      · rw [← Disk.get?_congr same.directories (same.files _ (not_unfinished read)).symm] at stands
        exact absurd free stands
      · refine ⟨_, nameAfter_mem_candidates small, done, ?_⟩
        by_contra other
        have finished := added.finished read other
        rw [← Disk.get?_congr added.directories finished.symm] at stands
        exact stands free

/-- Where nothing stands under the capture time, the capture time is taken, or the write fails at a path. -/
theorem first_of_goes_write {n : FileName} (same : n = ⟨snapshot.capturedAt, snapshot.instanceId⟩)
    (aside : ¬ s.dir.PassesThrough (Name.ofText n.text :: s.dir.location))
    (free : d.get? (Name.ofText n.text :: s.dir.location) = none) :
    r = .ok (s.finalPath n) ∨ ∃ p e, r = .error (.atPath p e) := by
  rw [← nameAfter_zero] at same
  subst same
  obtain ⟨between, kept, went⟩ := attempted_of_goes_write goes
  rw [← kept _ aside] at free
  have unseen : between.has (s.finalPath (nameAfter snapshot 0)) ≠ true := by
    rw [s.finalPath_eq_child (n := nameAfter snapshot 0) nameable.2, ne_eq,
      Disk.has_child_iff (FileName.descends_text _)]
    exact fun seen => seen.2.2 free
  rcases went with ⟨⟨e, failed⟩, _⟩ | attempted
  · exact .inr ⟨_, e, failed⟩
  · cases attempted with
    | taken all => exact absurd (all 0 (by decide)) unseen
    | @placed i small earlier _ _ goes =>
      cases i with
      | succ i => exact absurd (earlier 0 (by omega)) unseen
      | zero =>
        rcases place_of_goes (n := nameAfter snapshot 0) nameable goes with ⟨failed, _⟩ | ⟨done, _⟩
        · exact .inr failed
        · exact .inl done

end

/-! ## Pruning -/

/-- Removals of the finished files of an instance that have expired. -/
def Expires (s : Store) (id : String) (now : UInt64) (keep : Span) (x : Action) : Prop :=
  ∃ n time, FileName.ofName? n = some ⟨time, id⟩ ∧ time < cutoff now keep ∧ x = .remove (s.dir.child n)

theorem acts_prune (s : Store) (id : String) (now : UInt64) (keep : Span) :
    (s.prune id now keep).Acts (s.Expires id now keep) := by
  refine .look fun d => ?_
  show Procedure.Acts _ (Procedure.andThen (.done (s.list id d)) _)
  cases listed : s.list id d with
  | error e => exact .done _
  | ok files =>
    refine (only_removeFiles fun f member => ?_).acts.bind fun _ => .done _
    obtain ⟨_, n, stored, same⟩ := (mem_list_iff listed).mp (mem_of_mem_expired member)
    have late : f.time < cutoff now keep := by
      simpa using (List.mem_filter.mp member).2
    exact ⟨n, f.time, stored.read, late, by rw [same]; rfl⟩

section

variable {id : String} {now : UInt64} {keep : Span} {removed : Except StorageError Removal}
  (goes : (s.prune id now keep).Goes fallible d removed d')

include goes

/-- Pruning puts nothing anywhere. -/
theorem free_of_goes_prune {l : Location} (free : d.get? l = none) : d'.get? l = none := by
  refine Procedure.keeps_of_goes (R := fun d d' => d.get? l = none → d'.get? l = none) (fun _ free => free)
    (fun _ _ _ first second => second ∘ first) ?_ ?_ (s.acts_prune id now keep) goes free
  · rintro _ d d' ⟨n, _, _, _, rfl⟩ acted free
    rcases Disk.remove_cases d (s.dir.child n) with ⟨_, _, went⟩ | ⟨_, _, _, went⟩ | ⟨_, _, _, went⟩ |
      ⟨loc, _, _, _, _, went, change⟩ <;> cases went.symm.trans acted
    have none : d.file? l = none := Disk.file?_eq_none fun _ there => by cases free.symm.trans there
    have same : d'.file? l = d.file? l := by
      rw [change.files, none]
      split <;> rfl
    rw [← Disk.get?_congr change.directories same.symm]
    exact free
  · rintro _ _ _ ⟨_, _, _, _, append⟩
    cases append

/-- Pruning leaves alone whatever has not expired. -/
theorem elsewhere_of_goes_prune : Disk.SameElsewhere (fun l => ∃ n time, FileName.ofName? n = some ⟨time, id⟩ ∧
    time < cutoff now keep ∧ l = n :: s.dir.location) d d' := by
  refine Procedure.elsewhere_of_goes ((s.acts_prune id now keep).mono ?_) goes
  rintro _ ⟨n, time, read, late, rfl⟩
  refine ⟨fun _ => by simp, fun p member => ⟨n, time, read, late, ?_⟩⟩
  rw [Action.paths, List.mem_singleton] at member
  rw [member, Path.location_child _ (FileName.descends_of_ofName? read)]

end

end Store

end NodeTelemetry
