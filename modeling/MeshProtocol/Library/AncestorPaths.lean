import Mathlib.Data.List.Nodup

/-!
# Paths and the paths above them

A path is a list of symbols in which a separator ends one segment and begins the next; segments may
be empty.  `ancestors` lists the paths above a path and the path itself, the shortest first, symbol
by symbol.  Programs split the path into its segments and join the first ones again, which is the
same list (`joins_splitOn`).
-/

namespace AncestorPaths

variable {α : Type*} [DecidableEq α] {sep : α}

/-- The path and the paths above it, the shortest first. -/
def ancestors (sep : α) : List α → List (List α)
  | [] => [[]]
  | a :: path =>
    if a = sep then [] :: (ancestors sep path).map (a :: ·) else (ancestors sep path).map (a :: ·)

/-- The path is listed, and whatever a separator follows in it. -/
theorem mem_ancestors {path q : List α} :
    q ∈ ancestors sep path ↔ q = path ∨ q ++ [sep] <+: path := by
  induction path generalizing q with
  | nil => simp [ancestors]
  | cons a path ih =>
    cases q with
    | nil =>
      -- nothing is a path above this one exactly if it begins with a separator
      have hfirst : [] ++ [sep] <+: a :: path ↔ a = sep := by
        simp [List.cons_prefix_cons, eq_comm]
      rw [ancestors, hfirst]
      split_ifs with ha
      · simp [ha]
      · simp [ha]
    | cons b q =>
      have hmem : b :: q ∈ ancestors sep (a :: path) ↔ b = a ∧ q ∈ ancestors sep path := by
        rw [ancestors]
        split_ifs
        · simp [eq_comm, and_comm]
        · simp [eq_comm, and_comm]
      rw [hmem, ih, List.cons_append, List.cons_prefix_cons, List.cons.injEq, and_or_left]

/-- No path is listed twice. -/
theorem nodup_ancestors (path : List α) : (ancestors sep path).Nodup := by
  induction path with
  | nil => simp [ancestors]
  | cons a path ih =>
    have hcons : ((ancestors sep path).map (a :: ·)).Nodup := ih.map (List.cons_injective)
    rw [ancestors]
    split_ifs
    · exact List.nodup_cons.2 ⟨by simp, hcons⟩
    · exact hcons

/-- Each separator has a path in front of it. -/
theorem length_ancestors (path : List α) :
    (ancestors sep path).length = path.count sep + 1 := by
  induction path with
  | nil => rfl
  | cons a path ih =>
    by_cases ha : a = sep
    · rw [ancestors, if_pos ha, List.length_cons, List.length_map, ih, ha, List.count_cons_self]
    · rw [ancestors, if_neg ha, List.length_map, ih, List.count_cons_of_ne ha]

/-- The last one listed is the path itself. -/
theorem getLast?_ancestors (path : List α) : (ancestors sep path).getLast? = some path := by
  induction path with
  | nil => rfl
  | cons a path ih =>
    have hcons : ((ancestors sep path).map (a :: ·)).getLast? = some (a :: path) := by
      rw [List.getLast?_map, ih]
      rfl
    rw [ancestors]
    split_ifs
    · rw [List.getLast?_cons, hcons]
      rfl
    · exact hcons

/-! ## Splitting and joining -/

/-- The first segments joined, for each number of them. -/
def joins (sep : α) (parts : List (List α)) : List (List α) :=
  (List.range parts.length).map fun i => [sep].intercalate (parts.take (i + 1))

omit [DecidableEq α] in
lemma joins_cons_head (a : α) (part : List α) (parts : List (List α)) :
    joins sep ((a :: part) :: parts) = (joins sep (part :: parts)).map (a :: ·) := by
  rw [joins, joins, List.map_map]
  refine List.map_congr_left fun i _ => ?_
  exact List.intercalate_cons_cons_left

omit [DecidableEq α] in
lemma joins_nil_cons {parts : List (List α)} (h : parts ≠ []) :
    joins sep ([] :: parts) = [] :: (joins sep parts).map (sep :: ·) := by
  rw [joins, joins, List.length_cons, List.range_succ_eq_map, List.map_cons, List.map_map,
    List.map_map]
  congr 1
  refine List.map_congr_left fun i _ => ?_
  have hne : parts.take (i + 1) ≠ [] := by
    rw [ne_eq, List.take_eq_nil_iff]
    simp [h]
  change [sep].intercalate ([] :: parts.take (i + 1)) = _
  rw [List.intercalate_cons_of_ne_nil hne]
  rfl

/-- Joining the first segments of a path gives the paths above it. -/
theorem joins_splitOn (path : List α) : joins sep (path.splitOn sep) = ancestors sep path := by
  induction path with
  | nil => rfl
  | cons a path ih =>
    obtain ⟨part, parts, hsplit⟩ := List.exists_cons_of_ne_nil (List.splitOn_ne_nil sep path)
    rw [List.splitOn_cons_eq_if_modifyHead, ancestors, ← ih]
    by_cases ha : a = sep
    · rw [if_pos ha, if_pos (beq_iff_eq.2 ha), ha]
      exact joins_nil_cons (List.splitOn_ne_nil sep path)
    · rw [if_neg ha, if_neg (by simpa using ha), hsplit]
      exact joins_cons_head a part parts

end AncestorPaths
