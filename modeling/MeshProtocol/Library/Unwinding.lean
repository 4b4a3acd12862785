import MeshProtocol.Library.Machine

/-!
# Inputs that leave no trace

Some inputs of a machine are hidden, and an observer sees a part of each entry of its history
(`view`).  The hidden inputs do not interfere if a run and the run without them look alike.

That is shown with a relation between the states of the two runs (`Unwinds`): a hidden input keeps
it with the second machine standing still and shows nothing, any other input keeps it with both
machines stepping, and shows the same.  Which inputs are covered may depend on the state they meet
(`UnwindsAt`).
-/

namespace Machine

variable {σ ι ω υ : Type} {M : Machine σ ι ω} {hidden : ι → Bool} {view : ι × ω → Option υ}
  {allowed : ι → Prop} {R : σ → σ → Prop}

/-- A run without its hidden inputs. -/
def purge (hidden : ι → Bool) (is : List ι) : List ι := is.filter fun i => !hidden i

lemma purge_concat_of_hidden {is : List ι} {i : ι} (h : hidden i = true) :
    purge hidden (is ++ [i]) = purge hidden is := by
  simp [purge, h]

lemma purge_concat_of_visible {is : List ι} {i : ι} (h : hidden i = false) :
    purge hidden (is ++ [i]) = purge hidden is ++ [i] := by
  simp [purge, h]

/-- A relation between states that inputs keep where they are allowed, hidden ones in the first
state only. -/
structure UnwindsAt (M : Machine σ ι ω) (hidden : ι → Bool) (view : ι × ω → Option υ)
    (allowed : σ → ι → Prop) (R : σ → σ → Prop) : Prop where
  hide : ∀ {s s' i}, R s s' → allowed s i → hidden i = true →
    view (i, (M.step s i).1) = none ∧ R (M.step s i).2 s'
  keep : ∀ {s s' i}, R s s' → allowed s i → hidden i = false →
    view (i, (M.step s i).1) = view (i, (M.step s' i).1) ∧ R (M.step s i).2 (M.step s' i).2

/-- The run without the hidden inputs ends in a related state and looks the same, if every input of
the run is allowed in the state it meets. -/
theorem UnwindsAt.purge_run {allowed : σ → ι → Prop} (h : UnwindsAt M hidden view allowed R)
    {s s' : σ} (hs : R s s') {is : List ι}
    (his : ∀ pre i, pre ++ [i] <+: is → allowed (M.run s pre) i) :
    R (M.run s is) (M.run s' (purge hidden is)) ∧
      (M.trace s is).filterMap view = (M.trace s' (purge hidden is)).filterMap view := by
  refine prefix_induction (P := fun is => R (M.run s is) (M.run s' (purge hidden is)) ∧
    (M.trace s is).filterMap view = (M.trace s' (purge hidden is)).filterMap view) ?_ ?_
  · exact ⟨hs, by simp [purge]⟩
  · intro pre i hpre ih
    have hi := his pre i hpre
    obtain ⟨hrel, htrace⟩ := ih
    rw [run_concat, trace_concat, List.filterMap_append, htrace]
    cases hhidden : hidden i with
    | true =>
      obtain ⟨hnothing, hrel⟩ := h.hide hrel hi hhidden
      rw [purge_concat_of_hidden hhidden]
      exact ⟨hrel, by simp [hnothing]⟩
    | false =>
      obtain ⟨hsame, hrel⟩ := h.keep hrel hi hhidden
      rw [purge_concat_of_visible hhidden, run_concat, trace_concat, List.filterMap_append]
      exact ⟨hrel, by simp only [List.filterMap_cons, hsame]⟩

/-- A relation between states that the allowed inputs keep, hidden ones in the first state only. -/
structure Unwinds (M : Machine σ ι ω) (hidden : ι → Bool) (view : ι × ω → Option υ)
    (allowed : ι → Prop) (R : σ → σ → Prop) : Prop where
  hide : ∀ {s s' i}, R s s' → allowed i → hidden i = true →
    view (i, (M.step s i).1) = none ∧ R (M.step s i).2 s'
  keep : ∀ {s s' i}, R s s' → allowed i → hidden i = false →
    view (i, (M.step s i).1) = view (i, (M.step s' i).1) ∧ R (M.step s i).2 (M.step s' i).2

lemma Unwinds.unwindsAt (h : Unwinds M hidden view allowed R) :
    UnwindsAt M hidden view (fun _ => allowed) R := ⟨h.hide, h.keep⟩

/-- The run without the hidden inputs ends in a related state and looks the same. -/
theorem Unwinds.purge_run (h : Unwinds M hidden view allowed R) {s s' : σ} (hs : R s s')
    {is : List ι}
    (his : ∀ i ∈ is, allowed i) :
    R (M.run s is) (M.run s' (purge hidden is)) ∧
      (M.trace s is).filterMap view = (M.trace s' (purge hidden is)).filterMap view :=
  h.unwindsAt.purge_run hs fun _ i hpre => his i (hpre.subset (by simp))

end Machine
