import Mathlib.Algebra.BigOperators.Group.Finset.Basic
import NodeTelemetry.Proofs.Control.Linearization

/-!
# What calls have still to do

A call publishes at most once and stores at most one wake-up, however often it
has to start again. So finitely many callers change the parameters and wake the
scheduler finitely often, in every order of their steps (`Callers.left_step`),
and what they publish is accepted (`Callers.Accepted`).
-/

namespace NodeTelemetry

namespace Call

/-- How often a call may still publish. -/
def publicationsLeft : Call → Nat
  | .waking _ => 0
  | .done _ => 0
  | _ => 1

/-- How often a call may still store a wake-up. -/
def wakeUpsLeft : Call → Nat
  | .done _ => 0
  | _ => 1

/-- A step of a call publishes, which it does not do again, or it leaves the parameters in force. -/
theorem publicationsLeft_step (f : Control → Control) (s : Surface) (call : Call) :
    (step f s call).2.publicationsLeft + 1 = call.publicationsLeft ∨
    (step f s call).1.current = s.current ∧ (step f s call).2.publicationsLeft ≤ call.publicationsLeft := by
  cases call with
  | loaded base stamp =>
    refine .inr ?_
    simp only [step]
    split
    · exact ⟨rfl, Nat.zero_le _⟩
    · split
      · exact ⟨rfl, Nat.zero_le _⟩
      · exact ⟨rfl, Nat.le_refl _⟩
  | ready stamp next =>
    simp only [step]
    split
    · exact .inl rfl
    · exact .inr ⟨rfl, Nat.le_refl _⟩
  | _ => exact .inr ⟨rfl, Nat.le_refl _⟩

/-- A wake-up that a step stores is not stored again by its call. -/
theorem wakeUpsLeft_step (f : Control → Control) (s : Surface) (call : Call) :
    (step f s call).1.notified.toNat + (step f s call).2.wakeUpsLeft ≤ s.notified.toNat + call.wakeUpsLeft := by
  cases call with
  | loaded base stamp =>
    simp only [step]
    split
    · simp [wakeUpsLeft]
    · split <;> simp [wakeUpsLeft]
  | ready stamp next =>
    simp only [step]
    split <;> simp [wakeUpsLeft]
  | waking next => cases stored : s.notified <;> simp [step, wakeUpsLeft]
  | _ => exact Nat.le_refl _

/-- What a call makes ready is accepted. -/
theorem ready_step {f : Control → Control} {s : Surface} {call : Call}
    (accepted : ∀ stamp next, call = .ready stamp next → next.Valid) {stamp : Nat} {next : Control}
    (ready : (step f s call).2 = .ready stamp next) : next.Valid := by
  cases call with
  | loaded base old =>
    simp only [step] at ready
    split at ready
    · cases ready
    · next passes =>
      split at ready
      · cases ready
      · cases ready
        exact (Control.validate_eq_ok_iff _).mp passes
  | ready old other =>
    simp only [step] at ready
    split at ready <;> cases ready
  | _ => cases ready

end Call

namespace Callers

variable {ι : Type}

/-- Callers whose parameters are accepted, those in force and those that are ready to be published. -/
structure Accepted (w : Callers ι) : Prop where
  current : w.surface.current.Valid
  ready : ∀ i stamp next, w.calls i = .ready stamp next → next.Valid

theorem accepted_new {s : Surface} (valid : s.current.Valid) : (new s : Callers ι).Accepted := ⟨valid, by simp [new]⟩

/-- The callers after a stored wake-up was used up. -/
def use (w : Callers ι) : Callers ι := { w with surface := { w.surface with notified := false } }

section

variable [Fintype ι]

/-- How often the parameters may still change. -/
def publicationsLeft (w : Callers ι) : Nat := ∑ i, (w.calls i).publicationsLeft

/-- How many wake-ups there may still be, with the one that is stored. -/
def wakeUpsLeft (w : Callers ι) : Nat := w.surface.notified.toNat + ∑ i, (w.calls i).wakeUpsLeft

/-- A wake-up that is used up does not come again. -/
theorem wakeUpsLeft_use {w : Callers ι} (stored : w.surface.notified = true) :
    w.use.wakeUpsLeft + 1 = w.wakeUpsLeft := by
  simp [wakeUpsLeft, use, stored, Nat.add_comm]

end

variable [DecidableEq ι] {f : ι → Control → Control}

theorem Accepted.step {w : Callers ι} (accepted : w.Accepted) (i : ι) : (w.step f i).Accepted where
  current := by
    rcases w.step_cases (f := f) i with ⟨next, ready, _, current, _⟩ | ⟨_, _, current⟩
    · exact current ▸ accepted.ready i _ next ready
    · exact current ▸ accepted.current
  ready := by
    intro j stamp next ready
    by_cases mine : j = i
    · subst mine
      rw [calls_step_self] at ready
      exact Call.ready_step (accepted.ready j) ready
    · rw [calls_step_of_ne w mine] at ready
      exact accepted.ready j stamp next ready

variable [Fintype ι]

/-- A step changes a sum over all calls by what it changes of its own. -/
theorem sum_step (g : Call → Nat) (w : Callers ι) (i : ι) :
    ∑ j, g ((w.step f i).calls j) + g (w.calls i) = ∑ j, g (w.calls j) + g ((w.step f i).calls i) := by
  have others : ∑ j ∈ Finset.univ.erase i, g ((w.step f i).calls j) = ∑ j ∈ Finset.univ.erase i, g (w.calls j) :=
    Finset.sum_congr rfl fun j among => by rw [calls_step_of_ne w (Finset.ne_of_mem_erase among)]
  have whole (h : ι → Nat) := Finset.add_sum_erase Finset.univ h (Finset.mem_univ i)
  rw [← whole fun j => g ((w.step f i).calls j), ← whole fun j => g (w.calls j), others]
  omega

/-- Whoever makes a step: parameters that come into force use up a publication, and a wake-up that is stored was
    still to come. -/
theorem left_step (w : Callers ι) (i : ι) :
    ((w.step f i).publicationsLeft + 1 = w.publicationsLeft ∨
      (w.step f i).surface.current = w.surface.current ∧ (w.step f i).publicationsLeft ≤ w.publicationsLeft) ∧
    (w.step f i).wakeUpsLeft ≤ w.wakeUpsLeft := by
  have published := sum_step (f := f) Call.publicationsLeft w i
  have woken := sum_step (f := f) Call.wakeUpsLeft w i
  have one := Call.publicationsLeft_step (f i) w.surface (w.calls i)
  have stored := Call.wakeUpsLeft_step (f i) w.surface (w.calls i)
  rw [calls_step_self] at published woken
  unfold publicationsLeft wakeUpsLeft
  refine ⟨one.imp (fun publishes => by omega) fun ⟨same, fewer⟩ => ⟨same, by omega⟩, ?_⟩
  show (Call.step (f i) w.surface (w.calls i)).1.notified.toNat + _ ≤ _
  omega

end Callers

end NodeTelemetry
