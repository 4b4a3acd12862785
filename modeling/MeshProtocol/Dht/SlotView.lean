import MeshProtocol.Dht.Storage
import MeshProtocol.Library.Slots

/-!
# Backends as slots

The purpose of a storage backend, whatever its tables: it has one slot for each dedup key, a slot
holds the descriptor that was last accepted for it until that descriptor expires, and a read at a
routing key returns the unexpired descriptors that list the key and pass the filters.

`SlotView` is the connection of a backend to this description: a relation between the backend's
states and slots that every call preserves.  It may hold for the descriptors of a given set only.
From a `SlotView`, `mem_read_iff` describes every read after every run by the list of accepted
descriptors alone.
-/

namespace MeshProtocol

variable {S K : Type} [Crypto] [DescriptorStorage S] [DecidableEq K]

/-- What one call and its answer mean for the slots. -/
inductive SlotStep (key : Descriptor → K) (slots : K → Option Descriptor) (c : StorageCall S)
    (answer : StorageAnswer) : (K → Option Descriptor) → Prop where
  | stored {d : Descriptor} {now : UInt64} (stores : c.stores = some (d, now))
      (accepted : answer = .stored (.ok ())) (valid : d.ValidAt now) :
      SlotStep key slots c answer (Slots.put key slots d)
  | evicted {now : UInt64} (stores : c.stores = none) (time : c.time = some now) :
      SlotStep key slots c answer (Slots.evict (·.expiredAt now) slots)
  | idle (rejected : acceptedBy (c, answer) = none) : SlotStep key slots c answer slots

/-- A backend seen as slots, on runs that store descriptors of `P` only. -/
structure SlotView (S : Type) [DescriptorStorage S] (K : Type) [DecidableEq K]
    (P : Set Descriptor) where
  key : Descriptor → K
  Represents : S → (K → Option Descriptor) → Prop
  /-- Every call makes a slot step. -/
  step : ∀ s slots c, Represents s slots → (∀ d now, c.stores = some (d, now) → d ∈ P) →
    ∃ slots', SlotStep key slots c ((storageMachine S).step s c).1 slots' ∧
      Represents ((storageMachine S).step s c).2 slots'
  /-- Reads show what the slots hold. -/
  read : ∀ s slots, Represents s slots → ∀ rk filters t d,
    d ∈ (DescriptorStorage.getDescriptorsAt s rk filters t).1 ↔
      slots (key d) = some d ∧ rk ∈ d.routingKeys ∧ d.expiredAt t = false ∧
        admitted filters d = true

namespace SlotView

variable {P : Set Descriptor} (V : SlotView S K P)

/-- After every run the backend represents slots, and these hold descriptors that were submitted and
were valid when they were. -/
theorem represents_run {s : S} (hinit : V.Represents s fun _ => none)
    {calls : List (StorageCall S)} (hP : ∀ d ∈ submitted calls, d ∈ P) :
    ∃ slots, V.Represents ((storageMachine S).run s calls) slots ∧
      ∀ k d, slots k = some d → d ∈ submitted calls ∧ ∃ now, d.ValidAt now := by
  induction calls using List.reverseRecOn with
  | nil => exact ⟨_, hinit, by simp⟩
  | append_singleton calls c ih =>
    have hsub := submitted_mono (List.prefix_append calls [c])
    have hPc : ∀ d now, c.stores = some (d, now) → d ∈ P := by
      intro d now hstores
      exact hP d (mem_submitted.2 ⟨c, by simp, now, hstores⟩)
    obtain ⟨slots, hrep, hslots⟩ := ih fun d hd => hP d (hsub hd)
    have hold : ∀ k d, slots k = some d → d ∈ submitted (calls ++ [c]) ∧ ∃ now, d.ValidAt now := by
      intro k d hd
      obtain ⟨hd, hvalid⟩ := hslots k d hd
      exact ⟨hsub hd, hvalid⟩
    obtain ⟨slots', hstep, hrep'⟩ := V.step _ slots c hrep hPc
    rw [← Machine.run_concat] at hrep'
    refine ⟨slots', hrep', ?_⟩
    cases hstep with
    | stored hstores hok hvalid =>
      intro k e he
      rcases Slots.put_eq_some_iff.1 he with ⟨-, rfl⟩ | ⟨-, he⟩
      · exact ⟨mem_submitted.2 ⟨c, by simp, _, hstores⟩, _, hvalid⟩
      · exact hold k e he
    | evicted hstores htime =>
      intro k e he
      exact hold k e (Slots.evict_eq_some_iff.1 he).1
    | idle hrejected => exact hold

/-- After every run the backend represents slots, and these hold the last accepted descriptors as
far as these have not expired. -/
theorem tracks_run {s : S} (hinit : V.Represents s fun _ => none) {calls : List (StorageCall S)}
    (hP : ∀ d ∈ submitted calls, d ∈ P) (htimes : TimesOrdered calls) :
    ∃ slots, V.Represents ((storageMachine S).run s calls) slots ∧
      Slots.Tracks V.key Descriptor.expiredAt (lastTime calls) (accepted s calls) slots := by
  induction calls using List.reverseRecOn with
  | nil => exact ⟨_, hinit, Slots.Tracks.nil _⟩
  | append_singleton calls c ih =>
    have hPc : ∀ d now, c.stores = some (d, now) → d ∈ P := by
      intro d now hstores
      exact hP d (mem_submitted.2 ⟨c, by simp, now, hstores⟩)
    obtain ⟨slots, hrep, htracks⟩ :=
      ih (fun d hd => hP d (submitted_mono (List.prefix_append calls [c]) hd)) htimes.of_concat
    obtain ⟨slots', hstep, hrep'⟩ := V.step _ slots c hrep hPc
    rw [← Machine.run_concat] at hrep'
    refine ⟨slots', hrep', ?_⟩
    rw [accepted_concat]
    generalize ((storageMachine S).step ((storageMachine S).run s calls) c).1 = answer at hstep ⊢
    cases hstep with
    | stored hstores hok hvalid =>
      have htime := time_of_stores hstores
      rw [lastTime_concat htime, hok]
      simp only [acceptedBy, hstores, if_true, Option.map_some, Option.toList_some]
      exact htracks.put (htimes.lastTime_le htime) fun t t' => hvalid.expiredAt_mono
    | evicted hstores htime =>
      rw [lastTime_concat htime]
      simp only [acceptedBy, hstores, Option.map_none, ite_self, Option.toList_none,
        List.append_nil]
      exact htracks.evict (htimes.lastTime_le htime)
    | idle hrejected =>
      rw [hrejected, Option.toList_none, List.append_nil]
      rcases htime : c.time with _ | now
      · rwa [lastTime_concat_of_none htime]
      · rw [lastTime_concat htime]
        exact htracks.mono (htimes.lastTime_le htime)

/-- What a read returns after a run, in terms of what the run accepted: the last accepted
descriptors of their slots that list the routing key, have not expired and pass the filters. -/
theorem mem_read_iff {s : S} (hinit : V.Represents s fun _ => none) {calls : List (StorageCall S)}
    (hP : ∀ d ∈ submitted calls, d ∈ P) (htimes : TimesOrdered calls) (rk : Hash)
    (filters : Option FilterSet) {t : UInt64} (ht : lastTime calls ≤ t) (d : Descriptor) :
    d ∈ (DescriptorStorage.getDescriptorsAt ((storageMachine S).run s calls) rk filters t).1 ↔
      Slots.latest V.key (accepted s calls) (V.key d) = some d ∧ rk ∈ d.routingKeys ∧
        d.expiredAt t = false ∧ admitted filters d = true := by
  obtain ⟨slots, hrep, htracks⟩ := V.tracks_run hinit hP htimes
  rw [V.read _ _ hrep]
  have hvisible := htracks.visible_iff ht (k := V.key d) (d := d)
  tauto

end SlotView

end MeshProtocol
