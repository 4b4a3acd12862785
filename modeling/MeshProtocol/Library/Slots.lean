import Mathlib.Data.List.Induction
import Mathlib.Data.List.Nodup
import Mathlib.Logic.Function.Basic
import Mathlib.Tactic.SplitIfs

/-!
# Slots that keep their last entry until it expires

A store that keeps one entry for each key is a function from keys to entries (`Option`): writing
an entry replaces what its slot held (`put`), and eviction empties the slots whose entry has expired
(`evict`).

Seen from outside, such a store is determined by what was written to it: as long as expiry is
never undone, the entries that have not expired are exactly the last ones written under their keys
(`Tracks.visible_iff`), whatever evictions happened in between.
-/

namespace Slots

variable {D K T : Type}

section Keyed

variable [DecidableEq K]

/-! ## The last entry written under a key -/

/-- The last entry of a list with the given key. -/
def latest (key : D → K) (written : List D) (k : K) : Option D :=
  written.reverse.find? fun d => key d = k

@[simp] lemma latest_nil (key : D → K) (k : K) : latest key [] k = none := rfl

lemma latest_concat (key : D → K) (written : List D) (d : D) (k : K) :
    latest key (written ++ [d]) k = if key d = k then some d else latest key written k := by
  by_cases h : key d = k <;> simp [latest, h]

lemma key_of_latest {key : D → K} {written : List D} {k : K} {d : D}
    (h : latest key written k = some d) : key d = k := by
  simpa using List.find?_some h

/-- In a list ordered by a relation, the last entry written under a key comes after the others. -/
lemma eq_or_rel_latest {key : D → K} {R : D → D → Prop} {written : List D} (h : written.Pairwise R)
    {d last : D} (hd : d ∈ written) (hlast : latest key written (key d) = some last) :
    d = last ∨ R d last := by
  induction written using List.reverseRecOn with
  | nil => simp at hd
  | append_singleton written e ih =>
    rw [List.pairwise_append] at h
    rw [latest_concat] at hlast
    rcases List.mem_append.1 hd with hd | hd
    · split_ifs at hlast
      · obtain rfl := Option.some.inj hlast
        exact .inr (h.2.2 d hd e (by simp))
      · exact ih h.1 hd hlast
    · obtain rfl := List.mem_singleton.1 hd
      rw [if_pos rfl] at hlast
      exact .inl (Option.some.inj hlast)

lemma mem_of_latest {key : D → K} {written : List D} {k : K} {d : D}
    (h : latest key written k = some d) : d ∈ written := by
  simpa using List.mem_of_find?_eq_some h

lemma exists_latest {key : D → K} {written : List D} {d : D} (hd : d ∈ written) :
    ∃ last, latest key written (key d) = some last := by
  rw [← Option.isSome_iff_exists, latest, List.find?_isSome]
  exact ⟨d, List.mem_reverse.2 hd, decide_eq_true rfl⟩

/-! ## Slots -/

/-- Writes an entry to its slot. -/
def put (key : D → K) (slots : K → Option D) (d : D) : K → Option D :=
  Function.update slots (key d) (some d)

lemma put_eq_some_iff {key : D → K} {slots : K → Option D} {d e : D} {k : K} :
    put key slots d k = some e ↔ (key d = k ∧ e = d) ∨ (key d ≠ k ∧ slots k = some e) := by
  by_cases h : key d = k
  · subst h
    simp [put, eq_comm]
  · simp [put, Function.update_of_ne (Ne.symm h), h]

/-- After a list of writes a slot holds the last entry written to it, or what it held before. -/
lemma foldl_put (key : D → K) (slots : K → Option D) (written : List D) (k : K) :
    written.foldl (put key) slots k = (latest key written k).or (slots k) := by
  induction written using List.reverseRecOn with
  | nil => rfl
  | append_singleton written d ih =>
    rw [List.foldl_append, List.foldl_cons, List.foldl_nil, latest_concat]
    by_cases hk : key d = k
    · subst hk
      simp [put]
    · rw [put, Function.update_of_ne (Ne.symm hk), ih, if_neg hk]

/-- The keys of the entries are different just when the entries are, and each is the last one
written under its key. -/
lemma nodup_map_key_iff {key : D → K} {written : List D} :
    (written.map key).Nodup ↔
      written.Nodup ∧ ∀ d ∈ written, latest key written (key d) = some d := by
  constructor
  · intro hkeys
    refine ⟨hkeys.of_map, fun d hd => ?_⟩
    obtain ⟨last, hlast⟩ : ∃ last, latest key written (key d) = some last := exists_latest hd
    rw [hlast, List.inj_on_of_nodup_map hkeys (mem_of_latest hlast) hd (key_of_latest hlast)]
  · rintro ⟨hnodup, hlast⟩
    refine hnodup.map_on fun d hd e he hkey => ?_
    have hd := hlast d hd
    rw [hkey, hlast e he] at hd
    exact (Option.some.inj hd).symm

end Keyed

/-- Empties the slots whose entry has expired. -/
def evict (expired : D → Bool) (slots : K → Option D) : K → Option D :=
  fun k => (slots k).filter fun d => !expired d

lemma evict_eq_some_iff {expired : D → Bool} {slots : K → Option D} {e : D} {k : K} :
    evict expired slots k = some e ↔ slots k = some e ∧ expired e = false := by
  simp [evict, Option.filter_eq_some_iff]

lemma evict_comm (p q : D → Bool) (slots : K → Option D) :
    evict p (evict q slots) = evict q (evict p slots) := by
  funext k
  apply Option.ext
  intro d
  rw [evict_eq_some_iff, evict_eq_some_iff, evict_eq_some_iff, evict_eq_some_iff, and_right_comm]

/-- Emptying some slots commutes with a write of an entry that is not emptied. -/
lemma evict_put_of_false [DecidableEq K] {key : D → K} {p : D → Bool} (slots : K → Option D) {d : D}
    (hd : p d = false) : evict p (put key slots d) = put key (evict p slots) d := by
  funext k
  by_cases hk : k = key d
  · subst hk
    simp [evict, put, Option.filter, hd]
  · simp [evict, put, hk]

/-- The write of an entry that is emptied does not show, where its slot held nothing else. -/
lemma evict_put_of_true [DecidableEq K] {key : D → K} {p : D → Bool} {slots : K → Option D} {d : D}
    (hd : p d = true) (hslot : ∀ e, slots (key d) = some e → p e = true) :
    evict p (put key slots d) = evict p slots := by
  funext k
  by_cases hk : k = key d
  · subst hk
    cases hold : slots (key d) with
    | none => simp [evict, put, Option.filter, hd, hold]
    | some e => simp [evict, put, Option.filter, hd, hold, hslot e hold]
  · simp [evict, put, hk]

/-! ## Slots against the list of writes -/

section Tracks

variable [DecidableEq K]

/-- An entry whose expiry is never undone. -/
def Stable [LE T] (expired : D → T → Bool) (d : D) : Prop :=
  ∀ t t', t ≤ t' → expired d t = true → expired d t' = true

/-- The slots hold last writes, and every last write that had not expired by `now`. -/
structure Tracks [LE T] (key : D → K) (expired : D → T → Bool) (now : T) (written : List D)
    (slots : K → Option D) : Prop where
  stable : ∀ d ∈ written, Stable expired d
  sound : ∀ k d, slots k = some d → latest key written k = some d
  complete : ∀ k d, latest key written k = some d → expired d now = false → slots k = some d

namespace Tracks

variable [LE T] {key : D → K} {expired : D → T → Bool} {now t : T} {written : List D}
  {slots : K → Option D}

lemma nil (now : T) : Tracks key expired now [] fun _ => none where
  stable := by simp
  sound := by simp
  complete := by simp

lemma fresh_of_le (h : Tracks key expired now written slots) (ht : now ≤ t) {k : K} {d : D}
    (hd : latest key written k = some d) (hfresh : expired d t = false) :
    expired d now = false := by
  cases hnow : expired d now with
  | false => rfl
  | true =>
    have hexpired := h.stable d (mem_of_latest hd) now t ht hnow
    rw [hfresh] at hexpired
    exact absurd hexpired Bool.false_ne_true

/-- Time passing keeps the slots in step. -/
lemma mono (h : Tracks key expired now written slots) (ht : now ≤ t) :
    Tracks key expired t written slots where
  stable := h.stable
  sound := h.sound
  complete k d hd hfresh := h.complete k d hd (h.fresh_of_le ht hd hfresh)

/-- A write keeps the slots in step. -/
lemma put (h : Tracks key expired now written slots) (ht : now ≤ t) {d : D}
    (hd : Stable expired d) :
    Tracks key expired t (written ++ [d]) (put key slots d) where
  stable := by
    intro e he
    rcases List.mem_append.1 he with he | he
    · exact h.stable e he
    · rwa [List.mem_singleton.1 he]
  sound k e he := by
    rw [latest_concat]
    rcases put_eq_some_iff.1 he with ⟨hk, rfl⟩ | ⟨hk, he⟩
    · rw [if_pos hk]
    · rw [if_neg hk, h.sound k e he]
  complete k e he hfresh := by
    rw [latest_concat] at he
    rw [put_eq_some_iff]
    split_ifs at he with hk
    · exact .inl ⟨hk, (Option.some.inj he).symm⟩
    · exact .inr ⟨hk, h.complete k e he (h.fresh_of_le ht he hfresh)⟩

/-- An eviction keeps the slots in step. -/
lemma evict (h : Tracks key expired now written slots) (ht : now ≤ t) :
    Tracks key expired t written (evict (expired · t) slots) where
  stable := h.stable
  sound k d hd := h.sound k d (evict_eq_some_iff.1 hd).1
  complete k d hd hfresh :=
    evict_eq_some_iff.2 ⟨h.complete k d hd (h.fresh_of_le ht hd hfresh), hfresh⟩

/-- At any time from `now` on, the unexpired entries are the unexpired last writes. -/
theorem visible_iff (h : Tracks key expired now written slots) (ht : now ≤ t) {k : K} {d : D} :
    (slots k = some d ∧ expired d t = false) ↔
      (latest key written k = some d ∧ expired d t = false) := by
  constructor
  · rintro ⟨hd, hfresh⟩
    exact ⟨h.sound k d hd, hfresh⟩
  · rintro ⟨hd, hfresh⟩
    exact ⟨h.complete k d hd (h.fresh_of_le ht hd hfresh), hfresh⟩

end Tracks

end Tracks

end Slots
