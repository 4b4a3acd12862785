import Mathlib.Data.List.Basic
import Mathlib.Order.Lattice

/-!
# Sliding windows

A limiter grants an event when fewer than a limit of those it granted before still count.  An event
counts for a while (`IsWindow`): once it no longer counts it never does again, and later events
count for longer.

`grant` is a limiter that forgets nothing, so its list is the history of what was granted, and no
window contains more than the limit (`bounded_grant`).  A limiter that forgets gives the same
answers as long as its list shows the same events from now on (`Shows`): it may drop what no longer
counts, all of it (`Shows.prune`) or only from the front and by a longer window (`Shows.dropFront`).
Dropping from the front of an ordered list drops all of it (`dropWhile_eq_active`).
-/

namespace SlidingWindow

variable {T : Type} [LinearOrder T] {live live' : T → T → Bool}

/-- An event that counts at a time counted at every earlier one, and so does a later event. -/
structure IsWindow (live : T → T → Bool) : Prop where
  earlier : ∀ {a t t' : T}, t ≤ t' → live a t' = true → live a t = true
  later : ∀ {a a' t : T}, a ≤ a' → live a t = true → live a' t = true

/-- The events of a list that count at a time. -/
def active (live : T → T → Bool) (times : List T) (t : T) : List T := times.filter (live · t)

/-- The events of a list in the window that ends at a time. -/
def within (live : T → T → Bool) (times : List T) (t : T) : List T :=
  times.filter fun a => decide (a ≤ t) && live a t

lemma within_eq_active {times : List T} {t : T} (h : ∀ a ∈ times, a ≤ t) :
    within live times t = active live times t :=
  List.filter_congr fun a ha => by simp [h a ha]

omit [LinearOrder T] in
lemma active_append (times times' : List T) (t : T) :
    active live (times ++ times') t = active live times t ++ active live times' t :=
  List.filter_append _ _

/-- What counts at a time is among what counted at an earlier one. -/
lemma active_active (hw : IsWindow live) (times : List T) {t t' : T} (ht : t ≤ t') :
    active live (active live times t) t' = active live times t' := by
  rw [active, active, active, List.filter_filter]
  refine List.filter_congr fun a _ => ?_
  by_cases ha : live a t' = true
  · rw [ha, hw.earlier ht ha, Bool.and_true]
  · rw [Bool.not_eq_true] at ha
    rw [ha, Bool.false_and]

/-! ## The limiter that forgets nothing -/

/-- Grants an event if fewer than the limit count. -/
def grant (live : T → T → Bool) (limit : ℕ) (times : List T) (t : T) : List T :=
  if (active live times t).length < limit then times ++ [t] else times

/-- No window contains more events than the limit. -/
def Bounded (live : T → T → Bool) (limit : ℕ) (times : List T) : Prop :=
  ∀ t, (within live times t).length ≤ limit

lemma bounded_nil (live : T → T → Bool) (limit : ℕ) : Bounded live limit [] :=
  fun _ => Nat.zero_le _

lemma le_of_mem_grant {limit : ℕ} {times : List T} {now t : T} (hnow : now ≤ t)
    (h : ∀ a ∈ times, a ≤ now) : ∀ a ∈ grant live limit times t, a ≤ t := by
  intro a ha
  unfold grant at ha
  split_ifs at ha
  · rcases List.mem_append.1 ha with ha | ha
    · exact le_trans (h a ha) hnow
    · exact le_of_eq (List.mem_singleton.1 ha)
  · exact le_trans (h a ha) hnow

/-- A granted event does not overfill a window. -/
theorem bounded_grant (hw : IsWindow live) {limit : ℕ} {times : List T}
    (h : Bounded live limit times) (t : T) : Bounded live limit (grant live limit times t) := by
  intro u
  unfold grant
  split_ifs with hroom
  · rw [within, List.filter_append, List.length_append]
    by_cases hu : t ≤ u ∧ live t u = true
    · -- the window at `u` contains the new event, and of the others those that count at `t`
      have hsub : ((times.filter fun a => decide (a ≤ u) && live a u).length ≤
          (active live times t).length) := by
        refine (List.monotone_filter_right times fun a ha => ?_).length_le
        rw [Bool.and_eq_true] at ha
        exact hw.earlier hu.1 ha.2
      have hone : ([t].filter fun a => decide (a ≤ u) && live a u).length ≤ 1 :=
        List.length_filter_le _ _
      omega
    · have hnone : [t].filter (fun a => decide (a ≤ u) && live a u) = [] := by
        simpa using hu
      rw [hnone, List.length_nil, Nat.add_zero]
      exact h u
  · exact h u

/-- Within the bound, an event is refused just when the window that ends with it is full. -/
lemma refused_iff {limit : ℕ} {times : List T} {t : T} (h : Bounded live limit times)
    (hle : ∀ a ∈ times, a ≤ t) :
    ¬ (active live times t).length < limit ↔ (within live times t).length = limit := by
  have hbound := h t
  rw [within_eq_active hle] at hbound ⊢
  omega

/-! ## Limiters that forget -/

/-- From a time on, what was kept shows the same as the history. -/
def Shows (live : T → T → Bool) (now : T) (kept times : List T) : Prop :=
  ∀ t, now ≤ t → active live kept t = active live times t

namespace Shows

variable {now : T} {kept kept' times : List T}

lemma refl (now : T) (times : List T) : Shows live now times times := fun _ _ => rfl

lemma mono (h : Shows live now kept times) {t : T} (ht : now ≤ t) : Shows live t kept times :=
  fun u hu => h u (le_trans ht hu)

/-- It is enough that the two agree now. -/
lemma of_active (hw : IsWindow live) (h : active live kept now = active live times now) :
    Shows live now kept times := by
  intro t ht
  rw [← active_active hw kept ht, h, active_active hw times ht]

lemma append (h : Shows live now kept times) (more : List T) :
    Shows live now (kept ++ more) (times ++ more) := by
  intro t ht
  rw [active_append, active_append, h t ht]

/-- Dropping everything that no longer counts. -/
lemma prune (hw : IsWindow live) (h : Shows live now kept times) {t : T} (ht : now ≤ t) :
    Shows live t (active live kept t) times := by
  refine of_active hw ?_
  rw [active_active hw kept (le_refl t), h t ht]

/-- Dropping from the front what no longer counts in a window at least as long. -/
lemma dropFront (hw : IsWindow live) (hlonger : ∀ a t, live a t = true → live' a t = true)
    (h : Shows live now kept times) {t : T} (ht : now ≤ t) :
    Shows live t (kept.dropWhile fun a => !live' a t) times := by
  refine of_active hw ?_
  rw [← h t ht]
  clear h
  induction kept with
  | nil => rfl
  | cons a kept ih =>
    rw [List.dropWhile_cons]
    split_ifs with hdrop
    · have hdead : live a t = false := by
        cases ha : live a t with
        | false => rfl
        | true => simp [hlonger a t ha] at hdrop
      rw [ih, active, active, List.filter_cons_of_neg (by simp [hdead])]
    · rfl

end Shows

/-- Dropping from the front of an ordered list drops everything that no longer counts. -/
lemma dropWhile_eq_active (hw : IsWindow live) {times : List T} (hsorted : times.Pairwise (· ≤ ·))
    (t : T) : (times.dropWhile fun a => !live a t) = active live times t := by
  induction times with
  | nil => rfl
  | cons a times ih =>
    rw [List.dropWhile_cons]
    split_ifs with hdrop
    · rw [ih hsorted.of_cons, active, active, List.filter_cons_of_neg (by simpa using hdrop)]
    · have hlive : live a t = true := by simpa using hdrop
      refine (List.filter_eq_self.2 fun b hb => ?_).symm
      rcases List.mem_cons.1 hb with rfl | hb
      · exact hlive
      · exact hw.later (List.rel_of_pairwise_cons hsorted hb) hlive

/-! ## Windows of a fixed length -/

section Lasting

/-- An event counts for a fixed time. -/
def lasting (width a t : ℕ) : Bool := t < a + width

/-- A window as long as several has room for as many as all of them. -/
theorem length_within_mul {width limit : ℕ} {times : List ℕ}
    (h : Bounded (lasting width) limit times) (n t : ℕ) :
    (within (lasting (n * width)) times t).length ≤ n * limit := by
  induction n generalizing t with
  | zero =>
    have hnone : within (lasting (0 * width)) times t = [] := by
      refine List.filter_eq_nil_iff.2 fun a _ => ?_
      simp only [lasting, Bool.and_eq_true, decide_eq_true_eq]
      omega
    rw [hnone, List.length_nil]
    exact Nat.zero_le _
  | succ n ih =>
    -- what is not in the last of the windows is in those before it
    have hsplit : (within (lasting ((n + 1) * width)) times t).length ≤
        (within (lasting width) times t).length +
          (within (lasting (n * width)) times (t - width)).length := by
      rw [within, within, within, ← List.countP_eq_length_filter, ← List.countP_eq_length_filter,
        ← List.countP_eq_length_filter]
      clear h ih
      induction times with
      | nil => simp
      | cons a times ih =>
        have hone : (decide (a ≤ t) && lasting ((n + 1) * width) a t) = true →
            (decide (a ≤ t) && lasting width a t) = true ∨
              (decide (a ≤ t - width) && lasting (n * width) a (t - width)) = true := by
          simp only [lasting, Bool.and_eq_true, decide_eq_true_eq, Nat.succ_mul]
          omega
        rw [List.countP_cons, List.countP_cons, List.countP_cons]
        by_cases ha : (decide (a ≤ t) && lasting ((n + 1) * width) a t) = true
        · rw [if_pos ha]
          rcases hone ha with hlast | hbefore
          · rw [if_pos hlast]
            omega
          · rw [if_pos hbefore]
            omega
        · rw [if_neg ha]
          omega
    calc (within (lasting ((n + 1) * width)) times t).length
        ≤ (within (lasting width) times t).length +
          (within (lasting (n * width)) times (t - width)).length := hsplit
      _ ≤ limit + n * limit := Nat.add_le_add (h t) (ih (t - width))
      _ = (n + 1) * limit := by rw [Nat.succ_mul, Nat.add_comm]

end Lasting

end SlidingWindow
