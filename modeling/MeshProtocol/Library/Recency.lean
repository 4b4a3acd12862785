import Mathlib.Data.List.Basic
import Mathlib.Data.List.Induction
import Mathlib.Data.List.Nodup

/-!
# Lists in the order of last use

A bounded list of entries with different keys, the most recently used last.  Using an entry moves
the entry of its key to the end and renews it; an entry with a new key comes in while there is room
and is dropped otherwise.

What a sequence of uses does to one entry is read off from the uses after the last one of its key
(`useAll_split`): the entry keeps its place exactly if as many entries are still in front of it
(`getElem?_useAll_iff`).  Which keys are there at all is `perm_useAll`.
-/

namespace Recency

variable {α κ : Type*} [DecidableEq κ] (key : α → κ) (cap : ℕ)

/-- The list after an entry is used. -/
def use (l : List α) (a : α) : List α :=
  if ∃ e ∈ l, key e = key a then l.eraseP (key · = key a) ++ [a]
  else if l.length < cap then l ++ [a]
  else l

/-- The list after some entries are used, one after another. -/
def useAll (l as : List α) : List α := as.foldl (use key cap) l

/-- The entries whose keys are not used. -/
def unused (l as : List α) : List α := l.filter fun e => key e ∉ as.map key

/-- The new ones of some keys, as far as there is room. -/
def newcomers : ℕ → List κ → List κ → List κ
  | _, _, [] => []
  | 0, _, _ :: _ => []
  | room + 1, known, k :: ks =>
    if k ∈ known then newcomers (room + 1) known ks else k :: newcomers room (k :: known) ks

variable {key}

/-! ## One use -/

/-- With different keys only one entry is taken out. -/
lemma eraseP_eq_filter {l : List α} (h : (l.map key).Nodup) (k : κ) :
    l.eraseP (key · = k) = l.filter (key · ≠ k) := by
  induction l with
  | nil => rfl
  | cons e l ih =>
    obtain ⟨hnot, hl⟩ := List.nodup_cons.1 h
    by_cases hk : key e = k
    · have hrest : ∀ e' ∈ l, key e' ≠ k := by
        intro e' he' heq
        exact hnot (hk.trans heq.symm ▸ List.mem_map_of_mem he')
      rw [List.eraseP_cons_of_pos (by simpa using hk), List.filter_cons_of_neg (by simpa using hk)]
      exact (List.filter_eq_self.2 fun e' he' => decide_eq_true (hrest e' he')).symm
    · rw [List.eraseP_cons_of_neg (by simpa using hk), List.filter_cons_of_pos (by simpa using hk),
        ih hl]

lemma use_of_known {l : List α} {a : α} (h : (l.map key).Nodup) (hknown : ∃ e ∈ l, key e = key a) :
    use key cap l a = l.filter (key · ≠ key a) ++ [a] := by
  rw [use, if_pos hknown, eraseP_eq_filter h]

/-- A used entry is taken to the end; the entries in front of another one stay in front of it. -/
lemma use_split {l₁ l₂ : List α} {y a : α} (h : ((l₁ ++ y :: l₂).map key).Nodup)
    (hne : key a ≠ key y) :
    ∃ l₂', use key cap (l₁ ++ y :: l₂) a = l₁.filter (key · ≠ key a) ++ y :: l₂' := by
  by_cases hknown : ∃ e ∈ l₁ ++ y :: l₂, key e = key a
  · rw [use_of_known cap h hknown, List.filter_append,
      List.filter_cons_of_pos (by simpa using hne.symm), List.append_assoc, List.cons_append]
    exact ⟨_, rfl⟩
  · have hsame : l₁.filter (key · ≠ key a) = l₁ := by
      refine List.filter_eq_self.2 fun e he => decide_eq_true fun heq => hknown ⟨e, ?_, heq⟩
      exact List.mem_append_left _ he
    rw [use, if_neg hknown, hsame]
    split_ifs
    · rw [List.append_assoc, List.cons_append]
      exact ⟨_, rfl⟩
    · exact ⟨_, rfl⟩

/-- A use of a known key leaves the keys as they are. -/
lemma perm_use_of_known {l : List α} {a : α} (hknown : ∃ e ∈ l, key e = key a) :
    ((use key cap l a).map key).Perm (l.map key) := by
  obtain ⟨e, he, hkey⟩ := hknown
  obtain ⟨e', l₁, l₂, -, hkey', heq, herase⟩ :=
    List.exists_of_eraseP (p := fun e => decide (key e = key a)) he (by simpa using hkey)
  have hkey' : key e' = key a := by simpa using hkey'
  rw [use, if_pos ⟨e, he, hkey⟩, herase, heq]
  simp only [List.map_append, List.map_cons, List.map_nil, hkey']
  rw [List.append_assoc]
  exact (List.perm_append_singleton _ _).append_left _

lemma nodup_use {l : List α} (h : (l.map key).Nodup) (a : α) :
    ((use key cap l a).map key).Nodup := by
  by_cases hknown : ∃ e ∈ l, key e = key a
  · exact (perm_use_of_known cap hknown).nodup_iff.2 h
  · rw [use, if_neg hknown]
    split_ifs
    · rw [List.map_append, List.nodup_append]
      refine ⟨h, List.nodup_singleton _, ?_⟩
      intro k hk k' hk' heq
      obtain ⟨e, he, rfl⟩ := List.mem_map.1 hk
      exact hknown ⟨e, he, heq.trans (by simpa using hk')⟩
    · exact h

/-! ## Many uses -/

@[simp] lemma useAll_nil (l : List α) : useAll key cap l [] = l := rfl

@[simp] lemma useAll_cons (l : List α) (a : α) (as : List α) :
    useAll key cap l (a :: as) = useAll key cap (use key cap l a) as := rfl

lemma useAll_append (l as bs : List α) :
    useAll key cap l (as ++ bs) = useAll key cap (useAll key cap l as) bs :=
  List.foldl_append

lemma nodup_useAll {l : List α} (h : (l.map key).Nodup) (as : List α) :
    ((useAll key cap l as).map key).Nodup := by
  induction as generalizing l with
  | nil => exact h
  | cons a as ih => exact ih (nodup_use cap h a)

@[simp] lemma newcomers_zero (known ks : List κ) : newcomers 0 known ks = [] := by
  cases ks <;> rfl

lemma newcomers_of_known {room : ℕ} {known ks : List κ} {k : κ} (h : k ∈ known) :
    newcomers room known (k :: ks) = newcomers room known ks := by
  cases room with
  | zero => rw [newcomers_zero, newcomers_zero]
  | succ room => rw [newcomers, if_pos h]

lemma newcomers_of_new {room : ℕ} {known ks : List κ} {k : κ} (h : k ∉ known) :
    newcomers (room + 1) known (k :: ks) = k :: newcomers room (k :: known) ks := by
  rw [newcomers, if_neg h]

lemma newcomers_congr {room : ℕ} {known known' ks : List κ} (h : ∀ k, k ∈ known ↔ k ∈ known') :
    newcomers room known ks = newcomers room known' ks := by
  induction ks generalizing room known known' with
  | nil => cases room <;> rfl
  | cons k ks ih =>
    by_cases hk : k ∈ known
    · rw [newcomers_of_known hk, newcomers_of_known ((h k).1 hk), ih h]
    · cases room with
      | zero => rw [newcomers_zero, newcomers_zero]
      | succ room =>
        have hmore : ∀ k', k' ∈ k :: known ↔ k' ∈ k :: known' := by
          intro k'
          rw [List.mem_cons, List.mem_cons, h k']
        rw [newcomers_of_new hk, newcomers_of_new fun hk' => hk ((h k).2 hk'), ih hmore]

/-- Which keys there are: the old ones, and new ones as far as there was room. -/
lemma perm_useAll (l as : List α) :
    ((useAll key cap l as).map key).Perm
      (l.map key ++ newcomers (cap - l.length) (l.map key) (as.map key)) := by
  induction as generalizing l with
  | nil => simp [newcomers]
  | cons a as ih =>
    have hlater := ih (use key cap l a)
    rw [useAll_cons, List.map_cons]
    by_cases hknown : ∃ e ∈ l, key e = key a
    · have hperm := perm_use_of_known cap hknown
      have hlen : (use key cap l a).length = l.length := by simpa using hperm.length_eq
      rw [hlen, newcomers_congr fun k => hperm.mem_iff] at hlater
      rw [newcomers_of_known (List.mem_map.2 hknown)]
      exact hlater.trans (hperm.append_right _)
    · have hnew : key a ∉ l.map key := fun hmem => hknown (List.mem_map.1 hmem)
      by_cases hroom : l.length < cap
      · obtain ⟨room, hroom'⟩ := Nat.exists_eq_add_of_lt hroom
        have huse : use key cap l a = l ++ [a] := by rw [use, if_neg hknown, if_pos hroom]
        have hleft : cap - l.length = room + 1 := by omega
        have hleft' : cap - (l ++ [a]).length = room := by
          rw [List.length_append, List.length_singleton]
          omega
        rw [huse, hleft'] at hlater
        have hknown' : ∀ k, k ∈ key a :: l.map key ↔ k ∈ (l ++ [a]).map key := by
          intro k
          simp [or_comm]
        rw [huse, hleft, newcomers_of_new hnew, newcomers_congr hknown']
        simpa using hlater
      · have huse : use key cap l a = l := by rw [use, if_neg hknown, if_neg hroom]
        have hfull : cap - l.length = 0 := by omega
        rw [huse, hfull, newcomers_zero] at hlater
        rw [huse, hfull, newcomers_zero]
        exact hlater

/-- An entry that is not used keeps its place behind those in front of it that are not
used either. -/
lemma useAll_split {l₁ l₂ as : List α} {y : α} (h : ((l₁ ++ y :: l₂).map key).Nodup)
    (hunused : key y ∉ as.map key) :
    ∃ l₂', useAll key cap (l₁ ++ y :: l₂) as = unused key l₁ as ++ y :: l₂' := by
  induction as generalizing l₁ l₂ with
  | nil => exact ⟨l₂, by simp [unused]⟩
  | cons a as ih =>
    rw [List.map_cons, List.mem_cons, not_or] at hunused
    obtain ⟨l₂', huse⟩ := use_split cap h (Ne.symm hunused.1)
    have hnodup := nodup_use cap h a
    rw [huse] at hnodup
    obtain ⟨l₂'', hrest⟩ := ih hnodup hunused.2
    refine ⟨l₂'', ?_⟩
    have htwice : unused key l₁ (a :: as) = unused key (l₁.filter (key · ≠ key a)) as := by
      rw [unused, unused, List.filter_filter]
      refine List.filter_congr fun e _ => ?_
      rw [List.map_cons, ← Bool.decide_and]
      simp only [List.mem_cons, not_or, and_comm]
    rw [useAll_cons, huse, hrest, htwice]

/-! ## The place of an entry -/

/-- The condition under which an entry keeps its place while others are used: neither it nor an
entry in front of it is used; or the last use of its key is a use of itself, and after it all but as
many of the other keys are used as there were in front of the entry. -/
def Kept (key : α → κ) (cap : ℕ) (l₁ l₂ as : List α) (y : α) : Prop :=
  (∀ a ∈ as, key a ≠ key y ∧ ∀ e ∈ l₁, key a ≠ key e) ∨
    ∃ as₁ as₂, as = as₁ ++ y :: as₂ ∧ key y ∉ as₂.map key ∧
      ((l₁ ++ y :: l₂).map key ++
          newcomers (cap - (l₁ ++ y :: l₂).length) ((l₁ ++ y :: l₂).map key)
            (as₁.map key)).countP (fun k => k ≠ key y ∧ k ∉ as₂.map key) = l₁.length

omit [DecidableEq κ] in
/-- The last entry of a key. -/
lemma exists_last_of_mem {as : List α} {k : κ} (h : k ∈ as.map key) :
    ∃ as₁ z as₂, as = as₁ ++ z :: as₂ ∧ key z = k ∧ k ∉ as₂.map key := by
  induction as using List.reverseRecOn with
  | nil => simp at h
  | append_singleton as a ih =>
    by_cases hk : key a = k
    · exact ⟨as, a, [], rfl, hk, by simp⟩
    · have hearlier : k ∈ as.map key := by
        rw [List.map_append, List.mem_append] at h
        exact h.resolve_right fun hmem => hk (List.mem_singleton.1 hmem).symm
      obtain ⟨as₁, z, as₂, rfl, hz, hlast⟩ := ih hearlier
      refine ⟨as₁, z, as₂ ++ [a], by simp, hz, ?_⟩
      rw [List.map_append, List.mem_append, not_or]
      exact ⟨hlast, fun hmem => hk (List.mem_singleton.1 hmem).symm⟩

omit [DecidableEq κ] in
/-- In a list of different keys an entry has one place. -/
lemma getElem?_append_iff {l₁ l₂ : List α} {y : α} (h : ((l₁ ++ y :: l₂).map key).Nodup) {p : ℕ} :
    (l₁ ++ y :: l₂)[p]? = some y ↔ p = l₁.length := by
  constructor
  · intro hp
    obtain ⟨hlt, hget⟩ := List.getElem?_eq_some_iff.1 hp
    have hnodup : (l₁ ++ y :: l₂).Nodup := h.of_map key
    have hplace : l₁.length < (l₁ ++ y :: l₂).length := by simp
    have hsame : (l₁ ++ y :: l₂)[p] = (l₁ ++ y :: l₂)[l₁.length] := by simp [hget]
    exact (List.Nodup.getElem_inj_iff hnodup).1 hsame
  · rintro rfl
    simp

lemma length_unused_eq_iff {l as : List α} :
    (unused key l as).length = l.length ↔ ∀ a ∈ as, ∀ e ∈ l, key a ≠ key e := by
  rw [unused, List.length_filter_eq_length_iff]
  simp only [decide_eq_true_eq, List.mem_map, not_exists, not_and]
  exact ⟨fun h a ha e he => h e he a ha, fun h e he a ha => h a ha e he⟩

/-- After uses of which the last one of its key is that of `z`, the entry `z` stands behind those
that are not used after it. -/
lemma useAll_last {l as₂ : List α} {z : α} (as₁ : List α) (h : (l.map key).Nodup)
    (hknown : key z ∈ l.map key) (hlast : key z ∉ as₂.map key) :
    ∃ front back, useAll key cap l (as₁ ++ z :: as₂) = front ++ z :: back ∧
      front.length = (l.map key ++ newcomers (cap - l.length) (l.map key) (as₁.map key)).countP
        (fun k => k ≠ key z ∧ k ∉ as₂.map key) := by
  have hkeys : ((useAll key cap l as₁).map key).Perm _ := perm_useAll cap l as₁
  have hnodup := nodup_useAll cap h as₁
  obtain ⟨e, he, hkey⟩ := List.mem_map.1 (hkeys.mem_iff.2 (List.mem_append_left _ hknown))
  have huse : useAll key cap l (as₁ ++ [z]) =
      (useAll key cap l as₁).filter (key · ≠ key z) ++ [z] := by
    rw [useAll_append, useAll_cons, useAll_nil, use_of_known cap hnodup ⟨e, he, hkey⟩]
  have hnodup' := nodup_useAll cap h (as₁ ++ [z])
  rw [huse] at hnodup'
  obtain ⟨back, hrest⟩ := useAll_split cap hnodup' hlast
  refine ⟨unused key ((useAll key cap l as₁).filter (key · ≠ key z)) as₂, back, ?_, ?_⟩
  · rw [List.append_cons, useAll_append, huse, hrest]
  · rw [← hkeys.countP_eq, List.countP_map, List.countP_eq_length_filter, unused,
      List.filter_filter]
    congr 1
    refine List.filter_congr fun e' _ => ?_
    rw [← Bool.decide_and]
    exact decide_eq_decide.2 and_comm

/-- An entry keeps its place exactly under the condition above. -/
theorem getElem?_useAll_iff {l₁ l₂ as : List α} {y : α} (h : ((l₁ ++ y :: l₂).map key).Nodup) :
    (useAll key cap (l₁ ++ y :: l₂) as)[l₁.length]? = some y ↔ Kept key cap l₁ l₂ as y := by
  have hnodup := nodup_useAll cap h as
  have hknown : key y ∈ (l₁ ++ y :: l₂).map key := by simp
  constructor
  · intro hp
    by_cases hunused : key y ∈ as.map key
    · right
      -- the last use of its key
      obtain ⟨as₁, z, as₂, rfl, hz, hlast⟩ := exists_last_of_mem hunused
      rw [← hz] at hknown hlast
      obtain ⟨front, back, heq, hlen⟩ := useAll_last cap as₁ h hknown hlast
      rw [heq] at hp hnodup
      have hmem := List.mem_of_getElem? hp
      obtain rfl : z = y := List.inj_on_of_nodup_map hnodup (by simp) hmem hz
      exact ⟨as₁, as₂, rfl, hlast, by rw [← hlen, (getElem?_append_iff hnodup).1 hp]⟩
    · left
      obtain ⟨back, heq⟩ := useAll_split cap h hunused
      rw [heq] at hp hnodup
      have hlen := ((getElem?_append_iff hnodup).1 hp).symm
      intro a ha
      refine ⟨fun hkey => hunused (hkey ▸ List.mem_map_of_mem ha), ?_⟩
      exact length_unused_eq_iff.1 hlen a ha
  · rintro (hfree | ⟨as₁, as₂, rfl, hlast, hcount⟩)
    · have hunused : key y ∉ as.map key := by
        intro hmem
        obtain ⟨a, ha, hkey⟩ := List.mem_map.1 hmem
        exact (hfree a ha).1 hkey
      obtain ⟨back, heq⟩ := useAll_split cap h hunused
      rw [heq] at hnodup ⊢
      refine (getElem?_append_iff hnodup).2 (Eq.symm ?_)
      exact length_unused_eq_iff.2 fun a ha => (hfree a ha).2
    · obtain ⟨front, back, heq, hlen⟩ := useAll_last cap as₁ h hknown hlast
      rw [heq] at hnodup ⊢
      exact (getElem?_append_iff hnodup).2 (by rw [hlen, hcount])

end Recency
