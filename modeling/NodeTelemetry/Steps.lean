/-!
# Steps that may fail

What it takes that steps one after the other succeed.
-/

namespace NodeTelemetry

variable {ε α β : Type}

theorem Except.bind_eq_ok_iff {x : Except ε α} {f : α → Except ε β} {b : β} :
    x >>= f = .ok b ↔ ∃ a, x = .ok a ∧ f a = .ok b := by
  cases x <;> simp [bind, Except.bind]

/-- A result is made into something else, and what is left of the input stays what it is. -/
theorem Except.map_fst_eq_ok_iff {ρ : Type} {x : Except ε (α × ρ)} {f : α → β} {b : β} {rest : ρ} :
    (do let (a, rest) ← x; return (f a, rest)) = Except.ok (b, rest) ↔ ∃ a, x = .ok (a, rest) ∧ b = f a := by
  cases x with
  | error e => simp [bind, Except.bind]
  | ok r =>
    obtain ⟨a, left⟩ := r
    simp only [bind, Except.bind, pure, Except.pure, Except.ok.injEq, Prod.mk.injEq]
    constructor
    · rintro ⟨rfl, rfl⟩
      exact ⟨a, ⟨rfl, rfl⟩, rfl⟩
    · rintro ⟨_, ⟨rfl, rfl⟩, rfl⟩
      exact ⟨rfl, rfl⟩

end NodeTelemetry
