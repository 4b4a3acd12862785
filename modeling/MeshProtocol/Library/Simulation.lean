import MeshProtocol.Library.Machine

/-!
# Simulations

Two computations that may fail are related if both fail or both return, and what they return is
related (`Option.Rel`).  Sequencing keeps that.

Two machines with the same inputs and outputs simulate each other under a relation between their
states that every input keeps, with the same output (`Simulates`); then no run can tell them apart.
-/

namespace Simulation

variable {α β γ δ : Type*} {R : α → β → Prop} {S : γ → δ → Prop}

/-- Related computations go on to related ones. -/
lemma rel_bind {o : Option α} {o' : Option β} (h : Option.Rel R o o') {f : α → Option γ}
    {g : β → Option δ} (hnext : ∀ a b, R a b → Option.Rel S (f a) (g b)) :
    Option.Rel S (o.bind f) (o'.bind g) := by
  cases h with
  | none => exact .none
  | some hab => exact hnext _ _ hab

/-- So does one computation that both sides share. -/
lemma rel_bind_same (o : Option α) {f : α → Option γ} {g : α → Option δ}
    (hnext : ∀ a, Option.Rel S (f a) (g a)) : Option.Rel S (o.bind f) (o.bind g) := by
  cases o with
  | none => exact .none
  | some a => exact hnext a

end Simulation

namespace Machine

variable {σ τ ι ω : Type}

/-- A relation between the states of two machines that every input keeps, with the same output. -/
def Simulates (M : Machine σ ι ω) (M' : Machine τ ι ω) (R : σ → τ → Prop) : Prop :=
  ∀ ⦃s t⦄, R s t → ∀ i, (M.step s i).1 = (M'.step t i).1 ∧ R (M.step s i).2 (M'.step t i).2

/-- Machines that simulate each other have the same traces, and end in related states. -/
theorem Simulates.trace_eq {M : Machine σ ι ω} {M' : Machine τ ι ω} {R : σ → τ → Prop}
    (h : Simulates M M' R) (is : List ι) :
    ∀ {s t}, R s t → M.trace s is = M'.trace t is ∧ R (M.run s is) (M'.run t is) := by
  induction is with
  | nil =>
    intro s t hst
    exact ⟨rfl, hst⟩
  | cons i is ih =>
    intro s t hst
    obtain ⟨hout, hnext⟩ := h hst i
    obtain ⟨htrace, hrun⟩ := ih hnext
    rw [trace, trace, hout, htrace]
    exact ⟨rfl, hrun⟩

end Machine
