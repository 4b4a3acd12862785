import Mathlib.Data.List.Sort

/-!
# Fallible computations

Maps and sorts whose elementwise operation may fail, with `none` for the failure.  A sort is an
insertion sort here: stable, and as reluctant as a comparison sort can be, since it compares
nothing when there is at most one element.
-/

namespace Fallible

variable {α β : Type*}

/-- A result is there as an option if there is no error. -/
lemma toOption_eq_some_iff {ε : Type*} {result : Except ε α} {a : α} :
    result.toOption = some a ↔ result = .ok a := by
  cases result with
  | error e => simp [Except.toOption]
  | ok b => simp [Except.toOption]

/-! ## Maps -/

/-- A fallible map succeeds exactly when it succeeds on every element. -/
lemma mapM_isSome_iff {f : α → Option β} {l : List α} :
    (l.mapM f).isSome ↔ ∀ a ∈ l, (f a).isSome := by
  induction l with
  | nil => simp
  | cons a l ih =>
    rw [List.mapM_cons, List.forall_mem_cons, ← ih]
    cases f a with
    | none => simp
    | some b => cases l.mapM f <;> simp

/-- A map that never fails on the elements of a list. -/
lemma mapM_of_total {f : α → Option β} {g : α → β} {l : List α} (h : ∀ a ∈ l, f a = some (g a)) :
    l.mapM f = some (l.map g) := by
  induction l with
  | nil => rfl
  | cons a l ih =>
    rw [List.mapM_cons, h a List.mem_cons_self, ih fun b hb => h b (List.mem_cons_of_mem a hb)]
    rfl

/-- A scan that never fails on the elements of a list. -/
lemma findSomeM?_of_total {α β : Type*} {f : α → Option (Option β)} {g : α → Option β} {l : List α}
    (h : ∀ a ∈ l, f a = some (g a)) : l.findSomeM? f = some (l.findSome? g) := by
  induction l with
  | nil => rfl
  | cons a l ih =>
    rw [List.findSomeM?_cons, h a List.mem_cons_self, List.findSome?_cons]
    cases g a with
    | some b => rfl
    | none => exact ih fun b hb => h b (List.mem_cons_of_mem a hb)

/-! ## Sorts -/

/-- Inserts an element in front of the first one it is not greater than. -/
def insertBy (cmp : α → α → Option Ordering) (a : α) : List α → Option (List α)
  | [] => some [a]
  | b :: l =>
    (cmp a b).bind fun order =>
      if order.isLE then some (a :: b :: l) else (insertBy cmp a l).map (b :: ·)

/-- Sorts a list, stably. -/
def sortBy (cmp : α → α → Option Ordering) : List α → Option (List α)
  | [] => some []
  | a :: l => (sortBy cmp l).bind (insertBy cmp a)

variable {cmp : α → α → Option Ordering}

lemma sortBy_of_length_le_one {l : List α} (h : l.length ≤ 1) : sortBy cmp l = some l := by
  match l, h with
  | [], _ => rfl
  | [a], _ => rfl

/-- An insertion compares unless the list is empty. -/
lemma insertBy_eq_none {a : α} {l : List α} (hl : l ≠ []) (h : ∀ b ∈ l, cmp a b = none) :
    insertBy cmp a l = none := by
  obtain ⟨b, l, rfl⟩ := List.exists_cons_of_ne_nil hl
  rw [insertBy, h b List.mem_cons_self, Option.bind_none]

lemma perm_of_insertBy {a : α} {l l' : List α} (h : insertBy cmp a l = some l') :
    l'.Perm (a :: l) := by
  induction l generalizing l' with
  | nil =>
    obtain rfl : [a] = l' := Option.some.inj h
    exact .refl _
  | cons b l ih =>
    obtain ⟨order, -, hrest⟩ := Option.bind_eq_some_iff.1 h
    split_ifs at hrest
    · obtain rfl : a :: b :: l = l' := Option.some.inj hrest
      exact .refl _
    · obtain ⟨rest, hins, rfl⟩ := Option.map_eq_some_iff.1 hrest
      exact ((ih hins).cons b).trans (.swap a b l)

/-- Sorting rearranges. -/
theorem perm_of_sortBy {l l' : List α} (h : sortBy cmp l = some l') : l'.Perm l := by
  induction l generalizing l' with
  | nil =>
    obtain rfl : [] = l' := Option.some.inj h
    exact .refl _
  | cons a l ih =>
    obtain ⟨rest, hrest, hins⟩ := Option.bind_eq_some_iff.1 h
    exact (perm_of_insertBy hins).trans ((ih hrest).cons a)

/-- A comparison that always fails makes every sort of two or more elements fail. -/
theorem sortBy_eq_none {l : List α} (hl : 2 ≤ l.length)
    (h : ∀ a ∈ l, ∀ b ∈ l, cmp a b = none) : sortBy cmp l = none := by
  match l, hl with
  | a :: b :: l, _ =>
    rw [sortBy, Option.bind_eq_none_iff]
    intro rest hrest
    have hperm := perm_of_sortBy hrest
    refine insertBy_eq_none ?_ ?_
    · rintro rfl
      simpa using hperm.length_eq
    · intro c hc
      exact h a List.mem_cons_self c (List.mem_cons_of_mem a (hperm.subset hc))

section Total

variable {c : α → α → Ordering}

lemma insertBy_of_total {a : α} {l : List α} (h : ∀ b ∈ l, cmp a b = some (c a b)) :
    insertBy cmp a l = some (l.orderedInsert (fun x y => (c x y).isLE) a) := by
  induction l with
  | nil => rfl
  | cons b l ih =>
    rw [insertBy, h b List.mem_cons_self, Option.bind_some, List.orderedInsert_cons,
      ih fun x hx => h x (List.mem_cons_of_mem b hx)]
    split_ifs <;> rfl

/-- A comparison that never fails on the elements sorts as the insertion sort does. -/
theorem sortBy_of_total {l : List α} (h : ∀ a ∈ l, ∀ b ∈ l, cmp a b = some (c a b)) :
    sortBy cmp l = some (l.insertionSort fun x y => (c x y).isLE) := by
  induction l with
  | nil => rfl
  | cons a l ih =>
    have hrest := ih fun x hx y hy =>
      h x (List.mem_cons_of_mem a hx) y (List.mem_cons_of_mem a hy)
    rw [sortBy, hrest, Option.bind_some, List.insertionSort_cons]
    refine insertBy_of_total fun b hb => ?_
    exact h a List.mem_cons_self b (List.mem_cons_of_mem a ((List.mem_insertionSort _).1 hb))

/-- A lawful comparison by a key that never fails sorts by that key. -/
theorem sortBy_of_key {κ : Type*} [Ord κ] [Std.TransOrd κ] {key : α → κ} {l : List α}
    (h : ∀ a ∈ l, ∀ b ∈ l, cmp a b = some (compare (key a) (key b))) :
    ∃ l', sortBy cmp l = some l' ∧ l'.Perm l ∧
      l'.Pairwise fun a b => (compare (key a) (key b)).isLE := by
  let r : α → α → Prop := fun a b => (compare (key a) (key b)).isLE
  have : IsTrans α r := ⟨fun _ _ _ => Std.TransOrd.isLE_trans⟩
  have : Std.Total r := by
    refine ⟨fun a b => ?_⟩
    change (compare (key a) (key b)).isLE ∨ (compare (key b) (key a)).isLE
    rw [Std.OrientedOrd.eq_swap (a := key b)]
    cases compare (key a) (key b) <;> simp
  exact ⟨_, sortBy_of_total h, List.perm_insertionSort r l, List.pairwise_insertionSort r l⟩

/-- The first elements of a list in the order of a key, and the others behind them. -/
theorem take_sortBy_of_key {κ : Type*} [Ord κ] [Std.TransOrd κ] {key : α → κ} {l : List α}
    (h : ∀ a ∈ l, ∀ b ∈ l, cmp a b = some (compare (key a) (key b))) (count : ℕ) :
    ∃ first others, (sortBy cmp l).map (·.take count) = some first ∧ (first ++ others).Perm l ∧
      first.length = min count l.length ∧
      (first ++ others).Pairwise fun a b => (compare (key a) (key b)).isLE := by
  obtain ⟨sorted, hsort, hperm, hsorted⟩ := sortBy_of_key h
  refine ⟨sorted.take count, sorted.drop count, ?_, ?_, ?_, ?_⟩
  · rw [hsort]
    rfl
  · rwa [List.take_append_drop]
  · rw [List.length_take, hperm.length_eq]
  · rwa [List.take_append_drop]

end Total

end Fallible
