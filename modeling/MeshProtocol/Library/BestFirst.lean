import Mathlib.Data.List.Perm.Subperm
import Mathlib.Data.List.Sort

/-!
# Searches with a bounded list of candidates

A best-first search keeps a list of candidates in the order of their distance.  It takes up those it
has not taken up before, the nearest first, appends what it learns from them, and truncates the list
to `width` entries.  An item may be mentioned more than once; each mention is an entry of its own.

`Frontier` is the invariant: an item that was mentioned has been taken up, or is a candidate, or as
many entries as the list may have are nearer.
-/

namespace BestFirst

open Std

variable {α ι κ : Type*} [Ord κ] {item : α → ι} {dist : ι → κ} {width : ℕ}

/-- How many entries are nearer than an item. -/
def nearer (dist : ι → κ) (items : List ι) (i : ι) : ℕ :=
  items.countP fun j => compare (dist j) (dist i) = .lt

omit [Ord κ] in
lemma subperm_map {l l' : List α} (h : l.Subperm l') (item : α → ι) :
    (l.map item).Subperm (l'.map item) := by
  obtain ⟨entries, hperm, hsublist⟩ := h
  exact ⟨entries.map item, hperm.map item, hsublist.map item⟩

lemma nearer_le_of_subperm {items items' : List ι} (h : items.Subperm items') (i : ι) :
    nearer dist items i ≤ nearer dist items' i :=
  h.countP_le _

/-- Entries in the order of their distance. -/
def Ordered (item : α → ι) (dist : ι → κ) (l : List α) : Prop :=
  l.Pairwise fun a b => (compare (dist (item a)) (dist (item b))).isLE

/-- The candidates of a search that has come across some entries and has taken up some items. -/
structure Frontier (item : α → ι) (dist : ι → κ) (width : ℕ) (candidates mentioned : List α)
    (done : List ι) : Prop where
  ordered : Ordered item dist candidates
  subperm : candidates.Subperm mentioned
  kept : ∀ i ∈ mentioned.map item,
    i ∈ done ∨ i ∈ candidates.map item ∨ width ≤ nearer dist (mentioned.map item) i

/-- A search starts with what it has come across. -/
lemma Frontier.of_ordered {candidates : List α} (h : Ordered item dist candidates)
    (done : List ι) : Frontier item dist width candidates candidates done :=
  ⟨h, List.Subperm.refl _, fun _ hi => .inr (.inl hi)⟩

/-- What an ordered list has behind its first entries is not nearer than they are, of which there
are as many as were asked for. -/
lemma Ordered.of_not_mem_take {l : List α} (h : Ordered item dist l) {n : ℕ} {c : α} (hc : c ∈ l)
    (hnot : c ∉ l.take n) :
    (l.take n).length = n ∧
      ∀ a ∈ l.take n, (compare (dist (item a)) (dist (item c))).isLE := by
  have hdrop : c ∈ l.drop n := by
    rw [← List.take_append_drop n l, List.mem_append] at hc
    exact hc.resolve_left hnot
  constructor
  · have hlen := List.length_pos_of_mem hdrop
    rw [List.length_drop] at hlen
    rw [List.length_take]
    omega
  · intro a ha
    rw [Ordered, ← List.take_append_drop n l, List.pairwise_append] at h
    exact h.2.2 a ha c hdrop

/-- An item that is cut off has `width` nearer entries. -/
lemma Ordered.le_nearer_of_cut [LawfulEqOrd κ] {sorted : List α} (h : Ordered item dist sorted)
    (hinj : width < sorted.length → ∀ a b, dist (item a) = dist (item b) → item a = item b) {i : ι}
    (hi : i ∈ sorted.map item) (hcut : i ∉ (sorted.take width).map item) :
    width ≤ nearer dist (sorted.map item) i := by
  obtain ⟨c, hc, rfl⟩ := List.mem_map.1 hi
  have hnot : c ∉ sorted.take width := fun hmem => hcut (List.mem_map_of_mem hmem)
  obtain ⟨hlen, hle⟩ := h.of_not_mem_take hc hnot
  have hlong : width < sorted.length := by
    by_contra hshort
    rw [List.take_of_length_le (Nat.not_lt.1 hshort)] at hnot
    exact hnot hc
  -- the entries that are kept are other items, so they are nearer
  have hall : nearer dist ((sorted.take width).map item) (item c) = width := by
    rw [nearer, List.countP_eq_length.2, List.length_map, hlen]
    intro j hj
    obtain ⟨a, ha, rfl⟩ := List.mem_map.1 hj
    have hle := hle a ha
    have hne : compare (dist (item a)) (dist (item c)) ≠ .eq := fun heq =>
      hcut (hinj hlong a c (LawfulEqOrd.eq_of_compare heq) ▸ hj)
    cases hcmp : compare (dist (item a)) (dist (item c)) with
    | lt => rfl
    | eq => exact absurd hcmp hne
    | gt => simp [hcmp] at hle
  rw [← hall]
  exact nearer_le_of_subperm ((List.take_sublist _ _).map item).subperm _

/-- The candidates after a round: those before and what the round brought, in order and
truncated. -/
theorem Frontier.truncate [LawfulEqOrd κ] {candidates mentioned named sorted : List α}
    {done : List ι} (h : Frontier item dist width candidates mentioned done)
    (hperm : sorted.Perm (candidates ++ named)) (hsorted : Ordered item dist sorted)
    (hinj : width < sorted.length → ∀ a b, dist (item a) = dist (item b) → item a = item b)
    (taken : List ι) :
    Frontier item dist width (sorted.take width) (mentioned ++ named) (done ++ taken) := by
  have hsubperm : sorted.Subperm (mentioned ++ named) :=
    hperm.subperm.trans (h.subperm.append (List.Subperm.refl named))
  refine ⟨hsorted.sublist (List.take_sublist _ _),
    (List.take_sublist _ _).subperm.trans hsubperm, fun i hi => ?_⟩
  have hlater : i ∈ done ∨ i ∈ sorted.map item ∨ width ≤ nearer dist (mentioned.map item) i := by
    have hcandidate : i ∈ (candidates ++ named).map item → i ∈ sorted.map item :=
      (hperm.map item).mem_iff.2
    rw [List.map_append, List.mem_append] at hi hcandidate
    rcases hi with hbefore | hnew
    · rcases h.kept i hbefore with hdone | hmem | hcrowded
      · exact .inl hdone
      · exact .inr (.inl (hcandidate (.inl hmem)))
      · exact .inr (.inr hcrowded)
    · exact .inr (.inl (hcandidate (.inr hnew)))
  rcases hlater with hdone | hmem | hcrowded
  · exact .inl (List.mem_append_left _ hdone)
  · by_cases hkept : i ∈ (sorted.take width).map item
    · exact .inr (.inl hkept)
    · have hcrowded := hsorted.le_nearer_of_cut hinj hmem hkept
      exact .inr (.inr (hcrowded.trans (nearer_le_of_subperm (subperm_map hsubperm item) i)))
  · refine .inr (.inr (hcrowded.trans (nearer_le_of_subperm ?_ i)))
    rw [List.map_append]
    exact (List.sublist_append_left _ _).subperm

end BestFirst
