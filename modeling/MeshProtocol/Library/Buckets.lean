import Std.Data.ExtTreeMap
import Mathlib.Data.List.Basic
import Mathlib.Data.Set.Card

/-!
# Lists of entries filed under keys

A table that files each entry under several keys is a finite map from keys to lists of entries.
What a reader sees is the list `held` at a key; the operations are described by what they do to it:
`file` adds an entry under some keys, `retain` keeps the entries that pass a test, and `dropEmpty`
forgets the keys nothing is filed under.  The size of the table counts its keys, so it says how
many keys have entries exactly if the table is `Filled`.
-/

open Std

/-- Lists of entries by key. -/
abbrev Buckets (κ ε : Type) [Ord κ] := ExtTreeMap κ (List ε)

namespace Buckets

variable {κ ε : Type} [Ord κ] [TransOrd κ] (t : Buckets κ ε)

/-- The entries filed under a key. -/
def held (k : κ) : List ε := t.getD k []

/-- Keeps the entries that pass a test. -/
def retain (p : ε → Bool) : Buckets κ ε := t.map fun _ (es : List ε) => es.filter p

/-- Forgets the keys with no entries. -/
def dropEmpty : Buckets κ ε := t.filter fun _ es => !es.isEmpty

/-- Appends an entry to the list of each of the given keys. -/
def file (keys : List κ) (e : ε) : Buckets κ ε :=
  keys.foldl (fun t k => t.insert k (held t k ++ [e])) t

/-- All entries, in the order of their keys. -/
def entries : List ε := t.toList.flatMap Prod.snd

@[simp] lemma held_empty (k : κ) : held (∅ : Buckets κ ε) k = [] := by simp [held]

variable {t}

lemma held_eq_of_getElem? {k : κ} {es : List ε} (h : t[k]? = some es) : held t k = es := by
  rw [held, ExtTreeMap.getD_eq_getD_getElem?, h]
  rfl

variable (t) [LawfulEqOrd κ]

@[simp] lemma held_retain (p : ε → Bool) (k : κ) : held (retain t p) k = (held t k).filter p := by
  simp only [held, retain, ExtTreeMap.getD_eq_getD_getElem?, ExtTreeMap.getElem?_map]
  cases t[k]? <;> simp

@[simp] lemma held_dropEmpty (k : κ) : held (dropEmpty t) k = held t k := by
  simp only [held, dropEmpty, ExtTreeMap.getD_eq_getD_getElem?, ExtTreeMap.getElem?_filter']
  rcases t[k]? with _ | es
  · rfl
  · cases es <;> rfl

/-- Filing appends the entry once for each time its key is given. -/
lemma held_file [DecidableEq κ] (keys : List κ) (e : ε) (k : κ) :
    held (file t keys e) k = held t k ++ List.replicate (keys.count k) e := by
  induction keys generalizing t with
  | nil => simp [file]
  | cons k₀ keys ih =>
    rw [file, List.foldl_cons, ← file, ih]
    by_cases hk : k₀ = k
    · subst hk
      simp [held, List.replicate_succ]
    · have hone : held (t.insert k₀ (held t k₀ ++ [e])) k = held t k := by
        simp [held, ExtTreeMap.getD_insert, LawfulEqCmp.compare_eq_iff_eq, hk]
      rw [hone, List.count_cons_of_ne hk]

lemma mem_held_file [DecidableEq κ] {keys : List κ} {e e' : ε} {k : κ} :
    e' ∈ held (file t keys e) k ↔ e' ∈ held t k ∨ (e' = e ∧ k ∈ keys) := by
  rw [held_file, List.mem_append, List.mem_replicate, ← Nat.pos_iff_ne_zero, List.count_pos_iff,
    and_comm (b := e' = e)]

variable {t}

lemma mem_entries {e : ε} : e ∈ entries t ↔ ∃ k, e ∈ held t k := by
  constructor
  · intro he
    obtain ⟨⟨k, es⟩, hkv, hes⟩ := List.mem_flatMap.1 he
    refine ⟨k, ?_⟩
    rw [held_eq_of_getElem? (ExtTreeMap.mem_toList_iff_getElem?_eq_some.1 hkv)]
    exact hes
  · rintro ⟨k, he⟩
    rcases hk : t[k]? with _ | es
    · rw [held, ExtTreeMap.getD_eq_getD_getElem?, hk] at he
      exact absurd he List.not_mem_nil
    · rw [held_eq_of_getElem? hk] at he
      exact List.mem_flatMap.2 ⟨(k, es), ExtTreeMap.mem_toList_iff_getElem?_eq_some.2 hk, he⟩

/-! ## Tables with the same lists -/

section SameLists

variable {u : Buckets κ ε}

omit [LawfulEqOrd κ] in
lemma entries_dropEmpty (t : Buckets κ ε) : entries (dropEmpty t) = entries t := by
  rw [entries, entries, dropEmpty, ExtTreeMap.toList_filter]
  induction t.toList with
  | nil => rfl
  | cons kv rest ih =>
    obtain ⟨k, es⟩ := kv
    cases es with
    | nil => exact ih
    | cons e es => exact congrArg (e :: es ++ ·) ih

/-- Tables with the same lists have the same entries, in the same order. -/
lemma entries_congr (h : ∀ k, held t k = held u k) : entries t = entries u := by
  have hsame : dropEmpty t = dropEmpty u := by
    refine ExtTreeMap.ext_getElem? fun {k} => ?_
    have hfilter (t : Buckets κ ε) : (dropEmpty t)[k]? =
        if (held t k).isEmpty then none else some (held t k) := by
      rw [dropEmpty, ExtTreeMap.getElem?_filter', held, ExtTreeMap.getD_eq_getD_getElem?]
      rcases t[k]? with _ | es
      · rfl
      · cases es <;> rfl
    rw [hfilter, hfilter, h]
  rw [← entries_dropEmpty t, ← entries_dropEmpty u, hsame]

omit [LawfulEqOrd κ] in
lemma entries_retain (t : Buckets κ ε) (p : ε → Bool) :
    entries (retain t p) = (entries t).filter p := by
  rw [entries, entries, retain, ExtTreeMap.toList_map, List.flatMap_map, List.filter_flatMap]

/-- Searches find the same in tables that agree on what is searched for. -/
lemma find?_entries_congr {p : ε → Bool}
    (h : ∀ k, (held t k).filter p = (held u k).filter p) :
    (entries t).find? p = (entries u).find? p := by
  have hsame : entries (retain t p) = entries (retain u p) :=
    entries_congr fun k => by rw [held_retain, held_retain, h]
  rw [← List.head?_filter, ← List.head?_filter, ← entries_retain, ← entries_retain, hsame]

end SameLists

/-! ## Tables with fewer entries -/

variable (t) in
/-- Every entry of the first table is filed under the same key in the second. -/
def Within (u : Buckets κ ε) : Prop := ∀ k e, e ∈ held t k → e ∈ held u k

omit [LawfulEqOrd κ] in
lemma Within.refl (t : Buckets κ ε) : Within t t := fun _ _ he => he

omit [LawfulEqOrd κ] in
lemma Within.trans {u v : Buckets κ ε} (htu : Within t u) (huv : Within u v) : Within t v :=
  fun k e he => huv k e (htu k e he)

lemma retain_within (t : Buckets κ ε) (p : ε → Bool) : Within (retain t p) t := by
  intro k e he
  rw [held_retain] at he
  exact (List.mem_filter.1 he).1

lemma dropEmpty_within (t : Buckets κ ε) : Within (dropEmpty t) t := by
  intro k e he
  rwa [held_dropEmpty] at he

/-! ## Tables thinned by a test -/

variable (t) in
/-- The lists of the first table are those of the second without the entries that fail one test. -/
def Thinned (u : Buckets κ ε) : Prop := ∃ p : ε → Bool, ∀ k, held t k = (held u k).filter p

omit [LawfulEqOrd κ] in
lemma Thinned.refl (t : Buckets κ ε) : Thinned t t := ⟨fun _ => true, fun k => by simp⟩

omit [LawfulEqOrd κ] in
lemma Thinned.trans {u v : Buckets κ ε} (htu : Thinned t u) (huv : Thinned u v) : Thinned t v := by
  obtain ⟨p, hp⟩ := htu
  obtain ⟨q, hq⟩ := huv
  refine ⟨fun e => p e && q e, fun k => ?_⟩
  rw [hp, hq, List.filter_filter]

lemma retain_thinned (t : Buckets κ ε) (p : ε → Bool) : Thinned (retain t p) t :=
  ⟨p, fun k => held_retain t p k⟩

lemma dropEmpty_thinned (t : Buckets κ ε) : Thinned (dropEmpty t) t :=
  ⟨fun _ => true, fun k => by simp⟩

/-! ## Keys that have entries -/

variable (t) in
/-- No key is left without entries. -/
def Filled : Prop := ∀ k ∈ t, held t k ≠ []

omit [LawfulEqOrd κ] in
lemma mem_of_held {k : κ} (h : held t k ≠ []) : k ∈ t := by
  rw [ExtTreeMap.mem_iff_isSome_getElem?]
  rcases hk : t[k]? with _ | es
  · rw [held, ExtTreeMap.getD_eq_getD_getElem?, hk] at h
    exact absurd rfl h
  · rfl

omit [LawfulEqOrd κ] in
lemma filled_empty : Filled (∅ : Buckets κ ε) := by
  intro k hk
  simp at hk

lemma filled_dropEmpty (t : Buckets κ ε) : Filled (dropEmpty t) := by
  intro k hk
  rw [held_dropEmpty]
  obtain ⟨es, hes, hkept⟩ : ∃ es, t[k]? = some es ∧ (!es.isEmpty) = true := by
    rw [ExtTreeMap.mem_iff_isSome_getElem?, dropEmpty, ExtTreeMap.getElem?_filter'] at hk
    obtain ⟨es, hfilter⟩ := Option.isSome_iff_exists.1 hk
    exact ⟨es, Option.filter_eq_some_iff.1 hfilter⟩
  rw [held_eq_of_getElem? hes]
  rintro rfl
  cases hkept

omit [LawfulEqOrd κ] in
@[simp] lemma mem_retain {p : ε → Bool} {k : κ} : k ∈ retain t p ↔ k ∈ t := ExtTreeMap.mem_map

lemma mem_file {keys : List κ} {e : ε} {k : κ} : k ∈ file t keys e ↔ k ∈ t ∨ k ∈ keys := by
  induction keys generalizing t with
  | nil => simp [file]
  | cons k₀ keys ih =>
    rw [file, List.foldl_cons, ← file, ih, ExtTreeMap.mem_insert, LawfulEqCmp.compare_eq_iff_eq,
      List.mem_cons]
    tauto

lemma finite_keys (t : Buckets κ ε) : {k | k ∈ t}.Finite := by
  have hkeys : {k | k ∈ t} = {k | k ∈ t.keys} := by simp
  rw [hkeys]
  exact t.keys.finite_toSet

lemma ncard_keys (t : Buckets κ ε) : {k | k ∈ t}.ncard = t.size := by
  classical
  have hkeys : {k | k ∈ t} = (t.keys.toFinset : Set κ) := by
    ext k
    simp
  rw [hkeys, Set.ncard_coe_finset, List.toFinset_card_of_nodup ExtTreeMap.nodup_keys,
    ExtTreeMap.length_keys]

/-- The size of a table is the number of keys that have entries exactly if no key has none. -/
theorem size_eq_ncard_iff (t : Buckets κ ε) : t.size = {k | held t k ≠ []}.ncard ↔ Filled t := by
  have hsubset : {k | held t k ≠ []} ⊆ {k | k ∈ t} := fun k hk => mem_of_held hk
  rw [← ncard_keys]
  constructor
  · intro hcount k hk
    have hall := Set.eq_of_subset_of_ncard_le hsubset hcount.le (finite_keys t)
    have hheld : k ∈ {k | held t k ≠ []} := hall ▸ hk
    exact hheld
  · intro hfilled
    rw [Set.Subset.antisymm hsubset hfilled]

end Buckets
