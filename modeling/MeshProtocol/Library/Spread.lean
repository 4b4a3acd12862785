import Mathlib.Order.Bounds.Basic
import MeshProtocol.Library.Machine

/-!
# How news spreads

Machines that run side by side, each step a step of one of them (`states`), and pass on to each
other what they have.  A machine that hears from another, directly or through others, has at least
what that one had (`le_of_hears`), and when each hears from all and nothing new comes in, they all
end with the least upper bound of what they had (`isLUB_of_hears`).
-/

namespace Spread

variable {ι : Type} [DecidableEq ι] {σ α ω : Type}

/-! ## Machines side by side -/

/-- The states before the `n`-th step, of some machines that make steps in turn. -/
def states (M : Machine σ α ω) (start : ι → σ) (steps : ℕ → ι × α) : ℕ → ι → σ
  | 0 => start
  | n + 1 =>
    let (i, a) := steps n
    Function.update (states M start steps n) i (M.step (states M start steps n i) a).2

/-- The steps of one of the machines, out of some of all the steps. -/
def stepsOf (steps : ℕ → ι × α) (i : ι) (ns : List ℕ) : List α :=
  ns.filterMap fun n => if (steps n).1 = i then some (steps n).2 else none

lemma mem_stepsOf {steps : ℕ → ι × α} {i : ι} {ns : List ℕ} {a : α} :
    a ∈ stepsOf steps i ns ↔ ∃ n ∈ ns, steps n = (i, a) := by
  simp only [stepsOf, List.mem_filterMap]
  refine exists_congr fun n => and_congr_right fun _ => ?_
  rcases steps n with ⟨j, b⟩
  by_cases hj : j = i <;> simp [hj]

variable {M : Machine σ α ω} {start : ι → σ} {steps : ℕ → ι × α}

lemma states_succ_self {n : ℕ} {i : ι} {a : α} (h : steps n = (i, a)) :
    states M start steps (n + 1) i = (M.step (states M start steps n i) a).2 := by
  rw [states, h]
  exact Function.update_self _ _ _

lemma states_succ_other {n : ℕ} {i : ι} (h : (steps n).1 ≠ i) :
    states M start steps (n + 1) i = states M start steps n i := by
  rw [states]
  exact Function.update_of_ne (Ne.symm h) _ _

/-- Up to the next time a machine makes one step more, or none. -/
lemma stepsOf_succ {i : ι} {m n : ℕ} (h : m ≤ n) :
    stepsOf steps i (List.range' m (n + 1 - m)) =
      stepsOf steps i (List.range' m (n - m)) ++
        if (steps n).1 = i then [(steps n).2] else [] := by
  rw [stepsOf, Nat.succ_sub h, List.range'_concat, List.filterMap_append, Nat.one_mul,
    Nat.add_sub_cancel' h, ← stepsOf]
  by_cases hi : (steps n).1 = i <;> simp [hi]

/-- Between two times a machine runs through its own steps. -/
theorem states_eq_run (i : ι) {m n : ℕ} (h : m ≤ n) :
    states M start steps n i =
      M.run (states M start steps m i) (stepsOf steps i (List.range' m (n - m))) := by
  induction n, h using Nat.le_induction with
  | base => simp [stepsOf]
  | succ n hmn ih =>
    rw [stepsOf_succ hmn, M.run_append, ← ih]
    split_ifs with hi
    · have hstep : steps n = (i, (steps n).2) := Prod.ext hi rfl
      rw [states_succ_self hstep]
      rfl
    · rw [states_succ_other hi]
      rfl

/-! ## News -/

/-- What a machine has at some time gets to another one: the machine keeps it, or passes it on in
the course of some steps. -/
inductive Hears (passes : ι → ℕ → ι → ℕ → Prop) (i : ι) (l : ℕ) : ι → ℕ → Prop where
  | self : Hears passes i l i l
  | wait {j : ι} {m n : ℕ} (hears : Hears passes i l j m) (le : m ≤ n) : Hears passes i l j n
  | pass {j k : ι} {m n : ℕ} (hears : Hears passes i l j m) (le : m ≤ n)
      (passed : passes j m k n) : Hears passes i l k n

variable {β : Type} {passes : ι → ℕ → ι → ℕ → Prop} {l n : ℕ}

omit [DecidableEq ι] in
lemma Hears.le {i k : ι} (h : Hears passes i l k n) : l ≤ n := by
  induction h with
  | self => exact le_rfl
  | wait _ hmn ih => exact ih.trans hmn
  | pass _ hmn _ ih => exact ih.trans hmn

variable [Preorder β] {N : ℕ} (value : ℕ → ι → β)

omit [DecidableEq ι] in
/-- A machine has at least what it hears of. -/
theorem le_of_hears
    (grows : ∀ j m n, l ≤ m → m ≤ n → n ≤ N → value m j ≤ value n j)
    (conveys : ∀ j m k n, l ≤ m → m ≤ n → n ≤ N → passes j m k n → value m j ≤ value n k)
    {i k : ι} (h : Hears passes i l k n) (hn : n ≤ N) : value l i ≤ value n k := by
  induction h with
  | self => exact le_rfl
  | wait hears hmn ih => exact (ih (hmn.trans hn)).trans (grows _ _ _ hears.le hmn hn)
  | pass hears hmn hpassed ih =>
    exact (ih (hmn.trans hn)).trans (conveys _ _ _ _ hears.le hmn hn hpassed)

omit [DecidableEq ι] in
/-- A machine that hears from all has the least upper bound, unless something new comes in. -/
theorem isLUB_of_hears
    (grows : ∀ j m n, l ≤ m → m ≤ n → n ≤ N → value m j ≤ value n j)
    (conveys : ∀ j m k n, l ≤ m → m ≤ n → n ≤ N → passes j m k n → value m j ≤ value n k)
    {k : ι} (hears : ∀ i, Hears passes i l k N)
    (closed : ∀ b ∈ upperBounds (Set.range (value l)), value N k ≤ b) :
    IsLUB (Set.range (value l)) (value N k) := by
  constructor
  · rintro _ ⟨i, rfl⟩
    exact le_of_hears value grows conveys (hears i) le_rfl
  · exact closed

end Spread
