import Mathlib.Data.List.Infix

/-!
# Machines and their runs

A component with a state, handling one input after another and answering each with an output, is
a `Machine`.  A run is a list of inputs; it ends in a state (`run`), and its history is the list
of inputs with the outputs they got (`trace`).

A property of the states reached is proved by `prefix_induction`: it holds of the empty run, and
one more step preserves it.  The induction is over the prefixes of one fixed run, so that what is
assumed of the run's inputs is at hand at every step.  What a run remembers of its past is often
that something happened and has not been undone, which is `Since`.
-/

/-- A state and how one input changes it and is answered. -/
structure Machine (σ ι ω : Type) where
  step : σ → ι → ω × σ

namespace Machine

variable {σ ι ω : Type} (M : Machine σ ι ω)

/-- The state a run ends in. -/
def run (s : σ) : List ι → σ
  | [] => s
  | i :: is => run (M.step s i).2 is

/-- The history of a run: its inputs, each with the output it got. -/
def trace (s : σ) : List ι → List (ι × ω)
  | [] => []
  | i :: is => (i, (M.step s i).1) :: trace (M.step s i).2 is

@[simp] lemma run_nil (s : σ) : M.run s [] = s := rfl

@[simp] lemma trace_nil (s : σ) : M.trace s [] = [] := rfl

lemma run_append (s : σ) (is js : List ι) : M.run s (is ++ js) = M.run (M.run s is) js := by
  induction is generalizing s with
  | nil => rfl
  | cons i is ih => exact ih _

lemma trace_append (s : σ) (is js : List ι) :
    M.trace s (is ++ js) = M.trace s is ++ M.trace (M.run s is) js := by
  induction is generalizing s with
  | nil => rfl
  | cons i is ih => exact congrArg _ (ih _)

@[simp] lemma run_concat (s : σ) (is : List ι) (i : ι) :
    M.run s (is ++ [i]) = (M.step (M.run s is) i).2 := M.run_append s is [i]

@[simp] lemma trace_concat (s : σ) (is : List ι) (i : ι) :
    M.trace s (is ++ [i]) = M.trace s is ++ [(i, (M.step (M.run s is) i).1)] :=
  M.trace_append s is [i]

@[simp] lemma map_fst_trace (s : σ) (is : List ι) : (M.trace s is).map Prod.fst = is := by
  induction is generalizing s with
  | nil => rfl
  | cons i is ih => exact congrArg _ (ih _)

lemma mem_of_mem_trace {s : σ} {is : List ι} {e : ι × ω} (h : e ∈ M.trace s is) : e.1 ∈ is := by
  rw [← M.map_fst_trace s is]
  exact List.mem_map_of_mem h

variable {M}

/-- The steps of a run with one more step are those of the run, and the last one. -/
lemma exists_step_concat_iff {P : List ι → ι → Prop} {is : List ι} {i : ι} :
    (∃ pre j, pre ++ [j] <+: is ++ [i] ∧ P pre j) ↔
      (∃ pre j, pre ++ [j] <+: is ∧ P pre j) ∨ P is i := by
  constructor
  · rintro ⟨pre, j, hpre, hP⟩
    cases List.prefix_concat_iff.1 hpre with
    | inl hlast =>
      obtain ⟨rfl, hj⟩ := List.append_inj' hlast rfl
      obtain rfl := List.singleton_inj.1 hj
      exact .inr hP
    | inr hearlier => exact .inl ⟨pre, j, hearlier, hP⟩
  · rintro (⟨pre, j, hpre, hP⟩ | hP)
    · exact ⟨pre, j, hpre.trans (List.prefix_append is [i]), hP⟩
    · exact ⟨is, i, List.prefix_rfl, hP⟩

/-- The step of a run of one. -/
lemma step_of_singleton {pre : List ι} {i a : ι} (h : pre ++ [i] <+: [a]) : pre = [] ∧ i = a := by
  match pre with
  | [] => exact ⟨rfl, by simpa using h⟩
  | x :: pre =>
    have hlength := h.length_le
    simp at hlength

/-- A step of a run is the last one, or one before it. -/
lemma step_of_concat {pre is : List ι} {i j : ι} (h : pre ++ [i] <+: is ++ [j]) :
    pre ++ [i] <+: is ∨ (pre = is ∧ i = j) := by
  cases List.prefix_concat_iff.1 h with
  | inl hlast =>
    obtain ⟨rfl, hi⟩ := List.append_inj' hlast rfl
    exact .inr ⟨rfl, List.singleton_inj.1 hi⟩
  | inr hearlier => exact .inl hearlier

/-- The steps of a run of two. -/
lemma step_of_pair {pre : List ι} {i a b : ι} (h : pre ++ [i] <+: [a, b]) :
    (pre = [] ∧ i = a) ∨ (pre = [a] ∧ i = b) := by
  match pre with
  | [] => exact .inl ⟨rfl, by simpa using h⟩
  | [x] => exact .inr (by simpa using h)
  | x :: y :: pre =>
    have hlength := h.length_le
    simp at hlength

/-- Something happened at a step of the run, and nothing has undone it at a later step. -/
def Since (happens undone : List ι → ι → Prop) (is : List ι) : Prop :=
  ∃ pre i post, is = pre ++ i :: post ∧ happens pre i ∧
    ∀ mid j, mid ++ [j] <+: post → ¬ undone (pre ++ i :: mid) j

lemma not_since_nil {happens undone : List ι → ι → Prop} : ¬ Since happens undone [] := by
  rintro ⟨pre, i, post, h, -⟩
  simp at h

/-- One more step: it happens there, or it happened before and this step does not undo it. -/
theorem since_concat_iff {happens undone : List ι → ι → Prop} {is : List ι} {i : ι} :
    Since happens undone (is ++ [i]) ↔
      happens is i ∨ (Since happens undone is ∧ ¬ undone is i) := by
  constructor
  · rintro ⟨pre, j, post, hcut, hhappens, hkept⟩
    rcases List.eq_nil_or_concat' post with rfl | ⟨mid, last, rfl⟩
    · obtain ⟨rfl, hj⟩ := List.append_inj' hcut rfl
      obtain rfl := List.singleton_inj.1 hj
      exact .inl hhappens
    · rw [← List.cons_append, ← List.append_assoc] at hcut
      obtain ⟨rfl, hi⟩ := List.append_inj' hcut rfl
      obtain rfl := List.singleton_inj.1 hi
      refine .inr ⟨⟨pre, j, mid, rfl, hhappens, fun mid' k hmid => ?_⟩, hkept mid i List.prefix_rfl⟩
      exact hkept mid' k (hmid.trans (List.prefix_append mid [i]))
  · rintro (hhappens | ⟨⟨pre, j, post, rfl, hhappens, hkept⟩, hnot⟩)
    · refine ⟨is, i, [], rfl, hhappens, fun mid j hmid => ?_⟩
      simp at hmid
    · refine ⟨pre, j, post ++ [i], by simp, hhappens, fun mid k hmid => ?_⟩
      cases List.prefix_concat_iff.1 hmid with
      | inl hlast =>
        obtain ⟨rfl, hk⟩ := List.append_inj' hlast rfl
        obtain rfl := List.singleton_inj.1 hk
        exact hnot
      | inr hearlier => exact hkept mid k hearlier

/-- What holds of the empty run and is preserved by every step of a run holds of the run. -/
theorem prefix_induction {P : List ι → Prop} {is : List ι} (nil : P [])
    (concat : ∀ pre i, pre ++ [i] <+: is → P pre → P (pre ++ [i])) : P is := by
  induction is using List.reverseRecOn with
  | nil => exact nil
  | append_singleton is i ih =>
    refine concat is i List.prefix_rfl (ih fun pre j hpre => ?_)
    exact concat pre j (hpre.trans (List.prefix_append is [i]))

/-- What holds of the empty run holds at every point of a run exactly if every step meets a
condition, where a step that starts with it keeps it exactly if it meets the condition. -/
theorem always_iff {P : List ι → Prop} {C : List ι → ι → Prop} {is : List ι} (nil : P [])
    (step : ∀ pre i, pre ++ [i] <+: is → P pre → (P (pre ++ [i]) ↔ C pre i)) :
    (∀ pre, pre <+: is → P pre) ↔ ∀ pre i, pre ++ [i] <+: is → C pre i := by
  constructor
  · intro hall pre i hpre
    exact (step pre i hpre (hall pre ((List.prefix_append pre [i]).trans hpre))).1 (hall _ hpre)
  · intro hcond pre hpre
    refine prefix_induction nil fun pre' i hpre' ih => ?_
    exact (step pre' i (hpre'.trans hpre) ih).2 (hcond pre' i (hpre'.trans hpre))

/-- A state invariant kept by every step holds in the state a run ends in. -/
theorem run_invariant {P : σ → Prop} {s : σ} (init : P s)
    (step : ∀ s i, P s → P (M.step s i).2) (is : List ι) : P (M.run s is) := by
  refine prefix_induction (P := fun is => P (M.run s is)) init fun pre i _ h => ?_
  rw [run_concat]
  exact step _ i h

end Machine
