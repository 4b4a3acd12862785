import Mathlib.Order.Lattice
import MeshProtocol.Library.Slots

/-!
# Slots that do not go back

Each slot has a mark, the rank of what it took last, and takes an entry unless its rank is below the
mark.  What a sequence of offers leaves depends on the offers, and not on their order: a rank passes
afterwards if it passed before and is not below any rank offered for its slot
(`passes_foldl_raise`). So a slot of entries ends with one of greatest rank among those offered for
it (`greatest_of_offers`).
-/

namespace Watermark

variable {D K R : Type} [DecidableEq K] [LinearOrder R]

/-! ## Marks -/

/-- A rank is not below the mark of a slot. -/
def Passes (marks : K → Option R) (k : K) (r : R) : Prop := ∀ m, marks k = some m → m ≤ r

instance (marks : K → Option R) (k : K) (r : R) : Decidable (Passes marks k r) :=
  match h : marks k with
  | none => isTrue fun m hm => by
      rw [h] at hm
      cases hm
  | some m => decidable_of_iff (m ≤ r) (by simp [Passes, h])

/-- Raises the mark of a slot to an offered rank, unless the rank is below it. -/
def raise (marks : K → Option R) (offer : K × R) : K → Option R :=
  if Passes marks offer.1 offer.2 then Function.update marks offer.1 (some offer.2) else marks

lemma passes_raise {marks : K → Option R} {offer : K × R} {k : K} {r : R} :
    Passes (raise marks offer) k r ↔ Passes marks k r ∧ (offer.1 = k → offer.2 ≤ r) := by
  unfold raise
  by_cases hoffer : Passes marks offer.1 offer.2
  · rw [if_pos hoffer]
    by_cases hk : offer.1 = k
    · subst hk
      constructor
      · intro h
        have hle : offer.2 ≤ r := h offer.2 (Function.update_self _ _ _)
        exact ⟨fun m hm => le_trans (hoffer m hm) hle, fun _ => hle⟩
      · rintro ⟨-, hle⟩ m hm
        rw [Function.update_self, Option.some.injEq] at hm
        exact hm ▸ hle rfl
    · simp [Passes, Function.update_of_ne (Ne.symm hk), hk]
  · rw [if_neg hoffer]
    refine ⟨fun h => ⟨h, ?_⟩, And.left⟩
    rintro rfl
    obtain ⟨m, hm, hlt⟩ : ∃ m, marks offer.1 = some m ∧ offer.2 < m := by
      simpa [Passes] using hoffer
    exact le_trans (le_of_lt hlt) (h m hm)

/-- What passes after a sequence of offers. -/
theorem passes_foldl_raise {marks : K → Option R} {offers : List (K × R)} {k : K} {r : R} :
    Passes (offers.foldl raise marks) k r ↔
      Passes marks k r ∧ ∀ offer ∈ offers, offer.1 = k → offer.2 ≤ r := by
  induction offers generalizing marks with
  | nil => simp
  | cons offer offers ih =>
    rw [List.foldl_cons, ih, passes_raise, List.forall_mem_cons, and_assoc]

/-! ## Entries -/

variable (key : D → K) (rank : D → R)

/-- Writes an entry to its slot, unless its rank is below that of the entry there. -/
def offer (slots : K → Option D) (d : D) : K → Option D :=
  if Passes (fun k => (slots k).map rank) (key d) (rank d) then Slots.put key slots d else slots

variable {key rank}

lemma map_offer (slots : K → Option D) (d : D) :
    (fun k => (offer key rank slots d k).map rank) =
      raise (fun k => (slots k).map rank) (key d, rank d) := by
  unfold offer raise
  split_ifs
  · funext k
    by_cases hk : k = key d
    · subst hk
      simp [Slots.put]
    · simp [Slots.put, Function.update_of_ne hk]
  · rfl

lemma map_offers (slots : K → Option D) (ds : List D) :
    (fun k => (ds.foldl (offer key rank) slots k).map rank) =
      (ds.map fun d => (key d, rank d)).foldl raise fun k => (slots k).map rank := by
  induction ds generalizing slots with
  | nil => rfl
  | cons d ds ih => rw [List.foldl_cons, ih, map_offer, List.map_cons, List.foldl_cons]

/-- An offer only adds the offered entry. -/
lemma offer_eq_some {slots : K → Option D} {d e : D} {k : K}
    (h : offer key rank slots d k = some e) : (e = d ∧ key d = k) ∨ slots k = some e := by
  unfold offer at h
  split_ifs at h
  · cases Slots.put_eq_some_iff.1 h with
    | inl hput => exact .inl ⟨hput.2, hput.1⟩
    | inr hkeep => exact .inr hkeep.2
  · exact .inr h

lemma mem_of_offers {ds : List D} {k : K} {e : D}
    (h : ds.foldl (offer key rank) (fun _ => none) k = some e) : e ∈ ds ∧ key e = k := by
  induction ds using List.reverseRecOn with
  | nil => cases h
  | append_singleton ds d ih =>
    rw [List.foldl_append, List.foldl_cons, List.foldl_nil] at h
    cases offer_eq_some h with
    | inl hnew =>
      obtain ⟨rfl, hk⟩ := hnew
      exact ⟨by simp, hk⟩
    | inr hold =>
      obtain ⟨he, hk⟩ := ih hold
      exact ⟨List.mem_append_left _ he, hk⟩

lemma offer_ne_none {slots : K → Option D} {d : D} {k : K} (h : key d = k ∨ slots k ≠ none) :
    offer key rank slots d k ≠ none := by
  unfold offer
  by_cases hk : key d = k
  · subst hk
    by_cases hpasses : Passes (fun k => (slots k).map rank) (key d) (rank d)
    · rw [if_pos hpasses]
      simp [Slots.put]
    · rw [if_neg hpasses]
      intro hnone
      simp [Passes, hnone] at hpasses
  · have hheld := h.resolve_left hk
    split_ifs
    · simpa [Slots.put, Function.update_of_ne (Ne.symm hk)] using hheld
    · exact hheld

lemma offers_ne_none {ds : List D} {d : D} (hd : d ∈ ds) :
    ds.foldl (offer key rank) (fun _ => none) (key d) ≠ none := by
  induction ds using List.reverseRecOn with
  | nil => cases hd
  | append_singleton ds e ih =>
    rw [List.foldl_append, List.foldl_cons, List.foldl_nil]
    apply offer_ne_none
    cases List.mem_append.1 hd with
    | inl hold => exact .inr (ih hold)
    | inr hnew => exact .inl (by rw [List.mem_singleton.1 hnew])

/-- A slot that was offered entries ends with one of greatest rank. -/
theorem greatest_of_offers {ds : List D} {k : K} {e : D}
    (h : ds.foldl (offer key rank) (fun _ => none) k = some e) :
    e ∈ ds ∧ key e = k ∧ ∀ d ∈ ds, key d = k → rank d ≤ rank e := by
  obtain ⟨he, hk⟩ := mem_of_offers h
  refine ⟨he, hk, fun d hd hdk => ?_⟩
  have hmarks : (fun k => (ds.foldl (offer key rank) (fun _ => none) k).map rank) =
      (ds.map fun d => (key d, rank d)).foldl raise fun _ => none := map_offers _ ds
  have hpasses : Passes (fun k => (ds.foldl (offer key rank) (fun _ => none) k).map rank) k
      (rank e) := by
    intro m hm
    dsimp only at hm
    rw [h, Option.map_some, Option.some.injEq] at hm
    exact le_of_eq hm.symm
  rw [hmarks, passes_foldl_raise] at hpasses
  exact hpasses.2 (key d, rank d) (List.mem_map_of_mem hd) hdk

end Watermark
