import Mathlib.Data.List.Basic
import Mathlib.Data.Nat.Find
import Mathlib.Order.Basic

/-!
# Occurrences of a pattern

Where a pattern occurs in a list, and where it occurs first.  A pattern whose first element does not
come back in it cannot overlap itself, so in front of an occurrence that is written down the others
are those of the part in front (`firstAt_append_iff`).
-/

namespace Occurrence

variable {α : Type*}

/-- The pattern is the part of the list that starts at the index. -/
def OccursAt (p l : List α) (i : ℕ) : Prop := (l.drop i).take p.length = p

instance [DecidableEq α] (p l : List α) (i : ℕ) : Decidable (OccursAt p l i) :=
  inferInstanceAs (Decidable (_ = _))

/-- The first occurrence of the pattern is at the index. -/
def FirstAt (p l : List α) (i : ℕ) : Prop := OccursAt p l i ∧ ∀ j < i, ¬ OccursAt p l j

variable {p l a b : List α} {i j : ℕ}

lemma OccursAt.length_le (h : OccursAt p l i) (hp : p ≠ []) : i + p.length ≤ l.length := by
  have hlen : ((l.drop i).take p.length).length = p.length := congrArg List.length h
  have hpos : 0 < p.length := List.length_pos_iff.2 hp
  rw [List.length_take, List.length_drop] at hlen
  omega

lemma OccursAt.getElem? (h : OccursAt p l i) (hj : j < p.length) : l[i + j]? = p[j]? := by
  have helem : ((l.drop i).take p.length)[j]? = p[j]? := congrArg (·[j]?) h
  rwa [List.getElem?_take_of_lt hj, List.getElem?_drop] at helem

lemma occursAt_append (a p b : List α) : OccursAt p (a ++ (p ++ b)) a.length := by
  rw [OccursAt, List.drop_left, List.take_left]

/-- Whether a pattern occurs within the first part does not depend on the rest. -/
lemma occursAt_append_left_iff (h : i + p.length ≤ a.length) :
    OccursAt p (a ++ b) i ↔ OccursAt p a i := by
  rw [OccursAt, OccursAt, List.drop_append_of_le_length (by omega),
    List.take_append_of_le_length (by rw [List.length_drop]; omega)]

lemma exists_firstAt (h : ∃ i, OccursAt p l i) : ∃ i, FirstAt p l i := by
  classical
  exact ⟨Nat.find h, Nat.find_spec h, fun j hj => Nat.find_min h hj⟩

lemma FirstAt.eq (hi : FirstAt p l i) (hj : FirstAt p l j) : i = j := by
  by_contra hne
  rcases Nat.lt_or_gt_of_ne hne with hlt | hgt
  · exact hj.2 i hlt hi.1
  · exact hi.2 j hgt hj.1

section Unbordered

variable {x : α} {rest : List α}

/-- An occurrence that starts before a written-down one of the same pattern ends before it. -/
lemma OccursAt.before (hx : x ∉ rest) (h : OccursAt (x :: rest) (a ++ (x :: rest ++ b)) i)
    (hi : i < a.length) : i + (x :: rest).length ≤ a.length := by
  by_contra hlt
  obtain ⟨j, hj⟩ : ∃ j, a.length = i + (j + 1) := ⟨a.length - i - 1, by omega⟩
  have hjlt : j + 1 < (x :: rest).length := by omega
  -- the element at the head of the written-down occurrence is inside the other one
  have hhead : (a ++ (x :: rest ++ b))[i + (j + 1)]? = some x := by
    rw [← hj, List.getElem?_append_right le_rfl]
    simp
  rw [h.getElem? hjlt, List.getElem?_cons_succ] at hhead
  exact hx (List.mem_of_getElem? hhead)

/-- The first occurrence is the first one in front of a written-down occurrence, or that one. -/
theorem firstAt_append_iff (hx : x ∉ rest) :
    FirstAt (x :: rest) (a ++ (x :: rest ++ b)) i ↔
      FirstAt (x :: rest) a i ∨ (i = a.length ∧ ∀ j, ¬ OccursAt (x :: rest) a j) := by
  have hleft : ∀ j < a.length, OccursAt (x :: rest) (a ++ (x :: rest ++ b)) j ↔
      OccursAt (x :: rest) a j := by
    intro j hj
    constructor
    · intro h
      exact (occursAt_append_left_iff (h.before hx hj)).1 h
    · intro h
      exact (occursAt_append_left_iff (h.length_le (by simp))).2 h
  have hbound : ∀ j, OccursAt (x :: rest) a j → j < a.length := by
    intro j h
    have hle := h.length_le (by simp)
    rw [List.length_cons] at hle
    omega
  constructor
  · rintro ⟨hocc, hmin⟩
    have hle : i ≤ a.length := by
      by_contra hlt
      exact hmin a.length (not_le.1 hlt) (occursAt_append a (x :: rest) b)
    obtain hlt | rfl := hle.lt_or_eq
    · left
      refine ⟨(hleft i hlt).1 hocc, fun j hj hoccj => ?_⟩
      exact hmin j hj ((hleft j (hj.trans hlt)).2 hoccj)
    · right
      exact ⟨rfl, fun j hj => hmin j (hbound j hj) ((hleft j (hbound j hj)).2 hj)⟩
  · rintro (⟨hocc, hmin⟩ | ⟨rfl, hnone⟩)
    · have hlt := hbound i hocc
      exact ⟨(hleft i hlt).2 hocc, fun j hj hoccj => hmin j hj ((hleft j (hj.trans hlt)).1 hoccj)⟩
    · exact ⟨occursAt_append a (x :: rest) b, fun j hj hoccj => hnone j ((hleft j hj).1 hoccj)⟩

end Unbordered

/-- A scan over indices returns what the first index gives that gives anything. -/
lemma findSome?_range {β : Type*} {f : ℕ → Option β} {n : ℕ} {y : β} (hi : i < n)
    (hf : f i = some y) (hmin : ∀ j < i, f j = none) : (List.range n).findSome? f = some y := by
  obtain ⟨m, rfl⟩ := Nat.exists_eq_add_of_le (Nat.succ_le_of_lt hi)
  rw [List.findSome?_eq_some_iff]
  refine ⟨List.range i, i, (List.range m).map (i.succ + ·), ?_, hf, ?_⟩
  · rw [List.range_add, List.range_succ, List.append_assoc, List.singleton_append]
  · intro j hj
    exact hmin j (List.mem_range.1 hj)

end Occurrence
