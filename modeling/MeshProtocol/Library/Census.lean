import Mathlib.Data.Finset.Card
import Mathlib.Data.List.Nodup
import Std.Data.ExtTreeMap

/-!
# The entries of a map, counted and visited

`census` is the set of keys whose entries have a property; its size is the number of these entries,
so that counting the entries of a changed map becomes arithmetic of finite sets.

A pass over a map visits some keys in turn and changes the entry of each.  When every key is visited
once, an entry afterwards is the old one, changed if its key was visited (`getElem?_foldl`).
-/

namespace Census

open Std

variable {α β : Type} [Ord α] [TransOrd α] [LawfulEqOrd α] [DecidableEq α]

/-- The keys whose entries have a property. -/
def census (m : ExtTreeMap α β) (p : β → Bool) : Finset α :=
  ((m.toList.filter fun kv => p kv.2).map Prod.fst).toFinset

lemma mem_census {m : ExtTreeMap α β} {p : β → Bool} {k : α} :
    k ∈ census m p ↔ ∃ v, m[k]? = some v ∧ p v = true := by
  simp only [census, List.mem_toFinset, List.mem_map, List.mem_filter, Prod.exists,
    ExtTreeMap.mem_toList_iff_getElem?_eq_some]
  constructor
  · rintro ⟨k', v, ⟨hv, hp⟩, rfl⟩
    exact ⟨v, hv, hp⟩
  · rintro ⟨v, hv, hp⟩
    exact ⟨k, v, ⟨hv, hp⟩, rfl⟩

omit [DecidableEq α] in
/-- The keys of a map's entries are different. -/
lemma nodup_keys_filter (m : ExtTreeMap α β) (q : α × β → Bool) :
    ((m.toList.filter q).map Prod.fst).Nodup := by
  have hkeys : (m.toList.map Prod.fst).Nodup := by
    rw [List.Nodup, List.pairwise_map]
    refine m.distinct_keys_toList.imp ?_
    intro a b hcompare heq
    exact hcompare (LawfulEqCmp.compare_eq_iff_eq.2 heq)
  exact hkeys.sublist (List.filter_sublist.map _)

/-- A census counts the entries. -/
lemma card_census (m : ExtTreeMap α β) (p : β → Bool) :
    (census m p).card = (m.toList.filter fun kv => p kv.2).length := by
  rw [census, List.toFinset_card_of_nodup (nodup_keys_filter m _), List.length_map]

omit [LawfulEqOrd α] in
/-- An entry after a pass that visits each of some keys once. -/
lemma getElem?_foldl {f : ExtTreeMap α β → α → ExtTreeMap α β} {g : α → β → β}
    (hf : ∀ m k k', (f m k)[k']? = if k = k' then m[k']?.map (g k) else m[k']?) {ks : List α}
    (hks : ks.Nodup) (m : ExtTreeMap α β) (k : α) :
    (ks.foldl f m)[k]? = if k ∈ ks then m[k]?.map (g k) else m[k]? := by
  induction ks generalizing m with
  | nil => simp
  | cons k' ks ih =>
    obtain ⟨hfresh, hks⟩ := List.nodup_cons.1 hks
    rw [List.foldl_cons, ih hks, hf]
    by_cases hk : k' = k
    · subst hk
      rw [if_neg hfresh, if_pos rfl, if_pos List.mem_cons_self]
    · simp [hk, Ne.symm hk]

end Census
