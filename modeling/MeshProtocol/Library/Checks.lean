/-!
# Chains of checks

A function that makes one check after another and returns the first failure is a chain of
`if … then .error … else …` and of binds of earlier results.  The rules here read off when such a
chain succeeds, so that a caller never goes through it branch by branch.
-/

namespace Checks

variable {ε α β : Type}

/-- A failing check followed by more succeeds when the check passes and the rest succeeds. -/
theorem ite_error_eq_ok {c : Prop} [Decidable c] {e : ε} {x : Except ε α} {a : α} :
    (if c then .error e else x) = .ok a ↔ ¬ c ∧ x = .ok a := by
  by_cases h : c <;> simp [h]

/-- A step that may fail, followed by more, succeeds when both do. -/
theorem bind_eq_ok {x : Except ε β} {f : β → Except ε α} {a : α} :
    (x >>= f) = .ok a ↔ ∃ b, x = .ok b ∧ f b = .ok a := by
  cases x <;> simp [bind, Except.bind]

end Checks
