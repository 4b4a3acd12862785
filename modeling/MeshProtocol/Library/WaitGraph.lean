import Mathlib.Logic.Relation

/-!
# Wait-for graphs

A wait-for relation is deadlocked when it has a cycle.  What one new edge does to it: a cycle arises
exactly when the target of the edge already waits, directly or through others, for its source.
-/

namespace WaitGraph

open Relation

variable {κ : Type*} {R S : κ → κ → Prop} {a b : κ}

/-- Some party waits for itself through others. -/
def Cyclic (R : κ → κ → Prop) : Prop := ∃ a, TransGen R a a

lemma Cyclic.mono (h : Cyclic R) (hRS : ∀ x y, R x y → S x y) : Cyclic S := by
  obtain ⟨a, ha⟩ := h
  exact ⟨a, TransGen.mono hRS _ _ ha⟩

/-- A path of the graph with a new edge avoids the edge or uses it. -/
lemma transGen_of_add (hS : ∀ x y, S x y → R x y ∨ (x = a ∧ y = b)) {x y : κ}
    (h : TransGen S x y) : TransGen R x y ∨ (ReflTransGen R x a ∧ ReflTransGen R b y) := by
  induction h with
  | single hxy =>
    obtain hold | ⟨rfl, rfl⟩ := hS _ _ hxy
    · exact .inl (.single hold)
    · exact .inr ⟨.refl, .refl⟩
  | tail _ hyz ih =>
    obtain hold | ⟨rfl, rfl⟩ := hS _ _ hyz
    · obtain hpath | ⟨hxa, hby⟩ := ih
      · exact .inl (hpath.tail hold)
      · exact .inr ⟨hxa, hby.tail hold⟩
    · obtain hpath | ⟨hxa, -⟩ := ih
      · exact .inr ⟨hpath.to_reflTransGen, .refl⟩
      · exact .inr ⟨hxa, .refl⟩

/-- An edge to a party that does not wait for its source closes no cycle. -/
theorem not_cyclic_of_add (hR : ¬ Cyclic R) (hS : ∀ x y, S x y → R x y ∨ (x = a ∧ y = b))
    (hab : ¬ ReflTransGen R b a) : ¬ Cyclic S := by
  rintro ⟨c, hc⟩
  obtain hold | ⟨hca, hbc⟩ := transGen_of_add hS hc
  · exact hR ⟨c, hold⟩
  · exact hab (hbc.trans hca)

/-- A path to a party need not leave it. -/
lemma reflTransGen_of_ne (h : ReflTransGen R b a) :
    ReflTransGen (fun x y => R x y ∧ x ≠ a) b a := by
  induction h using ReflTransGen.head_induction_on with
  | refl => exact .refl
  | @head x y hxy _ ih =>
    by_cases hxa : x = a
    · rw [hxa]
    · exact .head ⟨hxy, hxa⟩ ih

/-- An edge to a party that waits for its source closes a cycle, whatever else happens to the
edges of the source. -/
theorem cyclic_of_add (hba : ReflTransGen R b a) (hab : S a b)
    (hother : ∀ x y, x ≠ a → R x y → S x y) : Cyclic S := by
  have hpath : ReflTransGen S b a :=
    ReflTransGen.mono (fun x y h => hother x y h.2 h.1) _ _ (reflTransGen_of_ne hba)
  exact ⟨a, TransGen.head' hab hpath⟩

/-- A cycle stays a cycle as long as the edges between parties on cycles stay. -/
theorem Cyclic.of_kept (h : Cyclic R)
    (hkept : ∀ x y, R x y → TransGen R x x → TransGen R y y → S x y) : Cyclic S := by
  obtain ⟨a, ha⟩ := h
  have hpath : ∀ b, TransGen R a b → ReflTransGen R b a → TransGen S a b := by
    intro b hab
    induction hab with
    | @single b hab =>
      intro hba
      exact .single (hkept a b hab (.head' hab hba) (.tail' hba hab))
    | @tail b c hab hbc ih =>
      intro hca
      have hbb : TransGen R b b := .head' hbc (hca.trans hab.to_reflTransGen)
      have hcc : TransGen R c c := .tail' (hca.trans hab.to_reflTransGen) hbc
      exact (ih (.head hbc hca)).tail (hkept b c hbc hbb hcc)
  exact ⟨a, hpath a ha .refl⟩

/-- A party on a cycle waits for a party on a cycle. -/
lemma exists_next (h : TransGen R a a) : ∃ b, R a b ∧ TransGen R b b := by
  obtain ⟨b, hab, hba⟩ := TransGen.head'_iff.1 h
  exact ⟨b, hab, .tail' hba hab⟩

end WaitGraph
