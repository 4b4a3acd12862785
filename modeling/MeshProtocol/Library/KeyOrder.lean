import Std.Data.ExtTreeMap
import Std.Data.ExtTreeSet
import Mathlib.Data.List.Nodup
import Mathlib.Data.Set.Card
import Mathlib.Logic.Function.Basic

/-!
# Ordering by an injective key

Finite maps and sets here are `Std.ExtTreeMap` and `Std.ExtTreeSet`, which compare their keys.  A
type that is not itself ordered is compared through an injective key (`compareOn`), which is
lawful as soon as the order on the keys is.

A multimap table is the set of its (key, value) pairs, ordered by key and then by value
(`PairSet`), so that reading a key off lists its values in ascending order.
-/

namespace KeyOrder

open Std

variable {α β : Type}

/-- Comparing through an injective key tells different things apart. -/
lemma lawfulEqCmp_compareOn [Ord β] [LawfulEqOrd β] {f : α → β} (hf : Function.Injective f) :
    LawfulEqCmp (compareOn f) where
  compare_self := by simp [compareOn]
  eq_of_compare h := hf (LawfulEqCmp.eq_of_compare h)

/-- Erasing a key before inserting it again makes no difference. -/
lemma insert_erase_self [Ord α] [TransOrd α] [LawfulEqOrd α] (m : ExtTreeMap α β) (k : α) (v : β) :
    (m.erase k).insert k v = m.insert k v := by
  refine ExtTreeMap.ext_getElem? fun a => ?_
  rw [ExtTreeMap.getElem?_insert, ExtTreeMap.getElem?_insert, ExtTreeMap.getElem?_erase]
  by_cases h : compare k a = .eq
  · rw [if_pos h, if_pos h]
  · rw [if_neg h, if_neg h, if_neg h]

/-- Inserting what is there already makes no difference. -/
lemma insert_getElem? [Ord α] [TransOrd α] [LawfulEqOrd α] {m : ExtTreeMap α β} {k : α} {v : β}
    (h : m[k]? = some v) : m.insert k v = m := by
  refine ExtTreeMap.ext_getElem? fun a => ?_
  rw [ExtTreeMap.getElem?_insert]
  by_cases hk : compare k a = .eq
  · rw [if_pos hk, ← LawfulEqCmp.eq_of_compare hk, h]
  · rw [if_neg hk]

/-- Pairs compared by their first, then by their second components. -/
def comparePair [Ord α] [Ord β] : α × β → α × β → Ordering :=
  compareLex (compareOn Prod.fst) (compareOn Prod.snd)

instance [Ord α] [Ord β] [TransOrd α] [TransOrd β] :
    TransCmp (comparePair (α := α) (β := β)) :=
  inferInstanceAs (TransCmp (compareLex (compareOn Prod.fst) (compareOn Prod.snd)))

instance [Ord α] [Ord β] [LawfulEqOrd α] [LawfulEqOrd β] :
    LawfulEqCmp (comparePair (α := α) (β := β)) where
  compare_self {p} := by
    simp [comparePair, compareLex, compareOn, compare_self]
  eq_of_compare {p q} h := by
    have hboth : compare p.1 q.1 = .eq ∧ compare p.2 q.2 = .eq := by
      simpa [comparePair, compareLex, compareOn, Ordering.then_eq_eq] using h
    exact Prod.ext (LawfulEqCmp.eq_of_compare hboth.1) (LawfulEqCmp.eq_of_compare hboth.2)

/-- A set of (key, value) pairs: a multimap table. -/
abbrev PairSet (α β : Type) [Ord α] [Ord β] := ExtTreeSet (α × β) comparePair

namespace PairSet

variable [Ord α] [Ord β] [TransOrd α] [TransOrd β] [LawfulEqOrd α] [LawfulEqOrd β]

/-- The values recorded under a key, in ascending order. -/
def get [DecidableEq α] (t : PairSet α β) (k : α) : List β :=
  (t.toList.filter fun p => p.1 = k).map Prod.snd

lemma mem_get [DecidableEq α] {t : PairSet α β} {k : α} {v : β} :
    v ∈ get t k ↔ (k, v) ∈ t := by
  simp [get]

lemma nodup_toList (t : PairSet α β) : t.toList.Nodup := by
  refine ExtTreeSet.distinct_toList.imp fun hcmp heq => ?_
  exact hcmp (LawfulEqCmp.compare_eq_iff_eq.2 heq)

/-- A multimap records a value once under a key. -/
lemma nodup_get [DecidableEq α] (t : PairSet α β) (k : α) : (get t k).Nodup := by
  refine List.Nodup.map_on ?_ ((nodup_toList t).filter _)
  intro p hp q hq hvalue
  have hpk : p.1 = k := by simpa using (List.mem_filter.1 hp).2
  have hqk : q.1 = k := by simpa using (List.mem_filter.1 hq).2
  exact Prod.ext (hpk.trans hqk.symm) hvalue

lemma mem_insert {t : PairSet α β} {p q : α × β} : q ∈ t.insert p ↔ q = p ∨ q ∈ t := by
  rw [ExtTreeSet.mem_insert, LawfulEqCmp.compare_eq_iff_eq, eq_comm]

lemma mem_erase {t : PairSet α β} {p q : α × β} : q ∈ t.erase p ↔ q ≠ p ∧ q ∈ t := by
  rw [ExtTreeSet.mem_erase, ne_eq, ne_eq, LawfulEqCmp.compare_eq_iff_eq, eq_comm]

lemma finite_pairs (t : PairSet α β) : {p | p ∈ t}.Finite := by
  have hpairs : {p | p ∈ t} = {p | p ∈ t.toList} := by simp
  rw [hpairs]
  exact t.toList.finite_toSet

lemma ncard_pairs (t : PairSet α β) : {p | p ∈ t}.ncard = t.size := by
  classical
  have hpairs : {p | p ∈ t} = (t.toList.toFinset : Set (α × β)) := by
    ext p
    simp
  rw [hpairs, Set.ncard_coe_finset, List.toFinset_card_of_nodup (nodup_toList t),
    ExtTreeSet.length_toList]

/-- The size of a multimap is the number of its keys exactly if no key has two values. -/
theorem size_eq_ncard_iff (t : PairSet α β) :
    t.size = {k | ∃ v, (k, v) ∈ t}.ncard ↔ ∀ k v v', (k, v) ∈ t → (k, v') ∈ t → v = v' := by
  have hkeys : {k | ∃ v, (k, v) ∈ t} = Prod.fst '' {p | p ∈ t} := by
    ext k
    simp
  rw [hkeys, ← ncard_pairs, eq_comm, Set.ncard_image_iff (finite_pairs t)]
  constructor
  · intro hinj k v v' hv hv'
    exact congrArg Prod.snd (hinj hv hv' rfl)
  · rintro hone ⟨k, v⟩ hv ⟨k', v'⟩ hv' rfl
    rw [hone k v v' hv hv']

end PairSet

end KeyOrder
