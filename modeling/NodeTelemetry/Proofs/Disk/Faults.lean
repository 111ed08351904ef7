import NodeTelemetry.Proofs.Disk.Stopping

/-!
# Devices that fail

What stands on a disk decides which actions fail. A device can fail more of them,
and of bytes that are handed over it may have taken a part. A procedure goes on
knowing that an action failed, but not why (`Procedure.Goes`). What every action
keeps on such a device, a procedure keeps (`Procedure.keeps_of_goes`).
-/

namespace NodeTelemetry

/-- How an action may go where a device may fail actions of a certain kind: what is known of it afterwards,
    and the disk that it leaves. -/
inductive Disk.Tries (fallible : Action → Prop) (d : Disk) : Action → Except DiskError Unit → Disk → Prop where
  | acted {x : Action} {after : Disk} (acted : d.act x = .ok after) : Tries fallible d x (.ok ()) after
  | failed {x : Action} {e : DiskError} (failed : d.act x = .error e) : Tries fallible d x (.error e) d
  | fault {x : Action} (may : fallible x) (e : DiskError) : Tries fallible d x (.error e) d
  | part {p : Path} {first rest : List UInt8} {torn : Disk} (may : fallible (.append p (first ++ rest)))
    (began : d.append p first = .ok torn) (e : DiskError) : Tries fallible d (.append p (first ++ rest)) (.error e) torn

namespace Procedure

open Disk

variable {fallible : Action → Prop}

/-- How a procedure may go where a device may fail actions of a certain kind: what it ends with, and the disk
    that it leaves. -/
inductive Goes (fallible : Action → Prop) {α : Type} : Procedure α → Disk → α → Disk → Prop where
  | done (a : α) (d : Disk) : Goes fallible (done a) d a d
  | look {next : Disk → Procedure α} {d d' : Disk} {a : α} (later : Goes fallible (next d) d a d') :
    Goes fallible (look next) d a d'
  | act {x : Action} {next : Except DiskError Unit → Procedure α} {d between d' : Disk} {r : Except DiskError Unit} {a : α}
    (tried : d.Tries fallible x r between) (later : Goes fallible (next r) between a d') :
    Goes fallible (act x next) d a d'

/-- A device may also fail nothing. -/
theorem goes_run {α : Type} (p : Procedure α) (d : Disk) : p.Goes fallible d (p.run d).1 (p.run d).2 := by
  induction p generalizing d with
  | done a => exact .done a d
  | look next ih => exact .look (ih d d)
  | act x next ih =>
    rw [run]
    split
    · next after acted => exact .act (.acted acted) (ih _ after)
    · next e failed => exact .act (.failed failed) (ih _ d)

theorem goes_done {α : Type} {a b : α} {d d' : Disk} (goes : (done a).Goes fallible d b d') : b = a ∧ d' = d := by
  cases goes
  exact ⟨rfl, rfl⟩

theorem goes_observe {α : Type} {f : Disk → α} {a : α} {d d' : Disk} (goes : (observe f).Goes fallible d a d') :
    a = f d ∧ d' = d := by
  cases goes with
  | look later => exact goes_done later

theorem goes_perform {x : Action} {r : Except DiskError Unit} {d d' : Disk} (goes : (perform x).Goes fallible d r d') :
    d.Tries fallible x r d' := by
  cases goes with
  | act tried later =>
    obtain ⟨rfl, rfl⟩ := goes_done later
    exact tried

theorem goes_bind {α β : Type} {p : Procedure α} {f : α → Procedure β} {b : β} {d d' : Disk}
    (goes : (p >>= f).Goes fallible d b d') :
    ∃ a between, p.Goes fallible d a between ∧ (f a).Goes fallible between b d' := by
  change (p.andThen f).Goes fallible d b d' at goes
  induction p generalizing d with
  | done a => exact ⟨a, d, .done a d, goes⟩
  | look next ih =>
    cases goes with
    | look later =>
      obtain ⟨a, between, first, second⟩ := ih d later
      exact ⟨a, between, .look first, second⟩
  | act x next ih =>
    cases goes with
    | act tried later =>
      obtain ⟨a, between, first, second⟩ := ih _ later
      exact ⟨a, between, .act tried first, second⟩

theorem ends_of_goes {α : Type} {p : Procedure α} {a : α} {d d' : Disk} (goes : p.Goes fallible d a d') : p.Ends a := by
  induction goes with
  | done a d => exact .done a
  | look _ ih => exact .look _ ih
  | act _ _ ih => exact .act _ ih

/-- What every action of a kind keeps, procedures keep whose actions are all of that kind. -/
theorem keeps_of_goes {P : Action → Prop} {R : Disk → Disk → Prop} (refl : ∀ d, R d d)
    (trans : ∀ a b c, R a b → R b c → R a c) (single : ∀ x d d', P x → d.act x = .ok d' → R d d')
    (parts : ∀ p first rest, P (.append p (first ++ rest)) → P (.append p first)) {α : Type} {p : Procedure α}
    (acts : Acts P p) {d d' : Disk} {a : α} (goes : p.Goes fallible d a d') : R d d' := by
  have tries {x : Action} {r : Except DiskError Unit} {d d' : Disk} (first : P x) (tried : d.Tries fallible x r d') :
      R d d' := by
    cases tried with
    | acted acted => exact single x d d' first acted
    | failed _ => exact refl d
    | fault _ _ => exact refl d
    | part _ began _ => exact single _ d d' (parts _ _ _ first) began
  induction goes with
  | done a d => exact refl d
  | look _ ih =>
    cases acts with
    | look rest => exact ih (rest _)
  | act tried _ ih =>
    cases acts with
    | act first rest => exact trans _ _ _ (tries first tried) (ih (rest _))

/-- Procedures on certain files leave all others alone, on any device. -/
theorem elsewhere_of_goes {P : Location → Prop} {α : Type} {p : Procedure α} (acts : p.Acts (Action.Touches P))
    {d d' : Disk} {a : α} (goes : p.Goes fallible d a d') : SameElsewhere P d d' := by
  refine keeps_of_goes (SameElsewhere.refl P) SameElsewhere.trans (fun _ _ _ => sameElsewhere_act) ?_ acts goes
  rintro p first rest ⟨-, paths⟩
  exact ⟨fun _ => by simp, paths⟩

section

variable {p : Path} {r : Except DiskError Unit} {d d' : Disk} (goes : (makeDirectories p).Goes fallible d r d')

include goes

/-- Making the directories of a path makes directories and nothing else, on any device. -/
theorem grows_of_goes_makeDirectories : Grows d d' := by
  refine keeps_of_goes Grows.refl (fun _ _ _ => Grows.trans) ?_ ?_ (acts_makeDirectoriesUpTo _ p) goes
  · rintro _ d d' ⟨q, rfl, _⟩ made
    exact makeDirectory_grows made
  · rintro _ _ _ ⟨q, append, _⟩
    cases append

/-- It makes none but those that the path passes through. -/
theorem get?_of_goes_makeDirectories {l : Location} (outside : ¬ p.PassesThrough l) : d'.get? l = d.get? l := by
  refine keeps_of_goes (R := fun d d' => d'.get? l = d.get? l) (fun _ => rfl)
    (fun _ _ _ first second => second.trans first) ?_ ?_ (acts_makeDirectoriesUpTo _ p) goes
  · rintro _ d d' ⟨q, rfl, passes⟩ made
    obtain ⟨_, loc, found, _, _, others⟩ := makeDirectory_of_ok made
    have followed := (locate_eq_ok_iff.mp found).2.1
    rw [walk_withoutTrailingSlash] at followed
    cases walk_eq_location followed
    exact others l fun here => outside (here ▸ passes)
  · rintro _ _ _ ⟨q, append, _⟩
    cases append

end

end Procedure

end NodeTelemetry
