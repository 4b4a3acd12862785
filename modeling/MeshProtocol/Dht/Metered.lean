import MeshProtocol.Dht.RateWindow
import MeshProtocol.Library.SlidingWindow

/-!
# The rate limit of a backend against its history

A backend keeps a pruned list of times for each publisher.  What the limit is about is the history:
which stores of the publisher were recorded, and how many of them lie in the last 60 seconds.

`Metered` is what the two backends have in common: which calls are charged to which window, and what
is answered.  From it, `exact_run` says that along every run at non-decreasing times the pruned
lists answer as the full history would, and that only the publisher's own stores matter.
-/

namespace MeshProtocol

open SlidingWindow

/-! ## The window -/

/-- A store recorded at a time still counts at another: less than 60 seconds have passed. -/
def counted (a t : ℕ) : Bool := t < a + RATE_LIMIT_WINDOW_MICROS.toNat

lemma isWindow_counted : IsWindow counted where
  earlier := by
    intro a t t' ht h
    simp only [counted, decide_eq_true_eq] at h ⊢
    omega
  later := by
    intro a a' t ha h
    simp only [counted, decide_eq_true_eq] at h ⊢
    omega

/-- Pruning keeps the times that count. -/
lemma map_recent (entries : List UInt64) (now : UInt64) :
    (recent entries now).map UInt64.toNat =
      active counted (entries.map UInt64.toNat) now.toNat := by
  rw [recent, active, List.filter_map]
  congr 1
  refine List.filter_congr fun ts _ => ?_
  have hbound := ts.toNat_lt
  have hbound' := now.toNat_lt
  rw [Function.comp_apply, counted, decide_eq_decide, saturatingSub]
  split_ifs with h
  · rw [UInt64.le_iff_toNat_le] at h
    rw [UInt64.lt_iff_toNat_lt, UInt64.toNat_sub_of_le _ _ (UInt64.le_iff_toNat_le.2 h)]
    omega
  · rw [UInt64.le_iff_toNat_le] at h
    have hzero : (0 : UInt64) < RATE_LIMIT_WINDOW_MICROS := by decide
    exact iff_of_true hzero (by omega)

/-- The answer to a store whose publisher has used up the limit. -/
def RateRefused (answer : StorageAnswer) : Prop :=
  answer = .stored (.error (.rateLimited RATE_LIMIT_PER_MINUTE))

instance (answer : StorageAnswer) : Decidable (RateRefused answer) :=
  inferInstanceAs (Decidable (answer = _))

/-- Only stores are refused for a rate. -/
lemma not_rateRefused_of_stores {S : Type} [DescriptorStorage S] {s : S} {c : StorageCall S}
    (h : c.stores = none) : ¬ RateRefused ((storageMachine S).step s c).1 := by
  cases c with
  | storeDescriptor d clock => cases h
  | storeDescriptorAt d now => cases h
  | getDescriptors => simp [storageMachine, RateRefused]
  | getDescriptorsAt => simp [storageMachine, RateRefused]
  | evictExpired => simp [storageMachine, RateRefused]
  | evictExpiredAt => simp [storageMachine, RateRefused]
  | background => simp [storageMachine, RateRefused]

/-! ## Metered backends -/

/-- How a backend limits the rate of each publisher, on the calls that it `Keeps` its windows over.
Whether it counts at all may be switched by a call (`setting`). -/
structure Metered (S : Type) [Crypto] [DescriptorStorage S] where
  window : S → Identity → List UInt64
  counts : S → Bool
  Keeps : StorageCall S → Prop
  setting : StorageCall S → Option Bool
  setting_of_stores : ∀ {c d now}, c.stores = some (d, now) → setting c = none
  counts_step : ∀ {s c}, Keeps c → counts ((storageMachine S).step s c).2 =
    (setting c).getD (counts s)
  /-- A store of a valid descriptor is charged to its publisher's window. -/
  charged : ∀ {s c d now}, c.stores = some (d, now) → d.ValidAt now → counts s = true →
    (∀ publisher, window ((storageMachine S).step s c).2 publisher =
      if d.publisher = publisher then (checkWindow (window s publisher) now).2
      else window s publisher) ∧
    (RateRefused ((storageMachine S).step s c).1 ↔
      (checkWindow (window s d.publisher) now).1 = false)
  /-- No other call is. -/
  uncharged : ∀ {s c}, Keeps c →
    (∀ d now, c.stores = some (d, now) → d.ValidAt now → counts s = false) →
    (∀ publisher, window ((storageMachine S).step s c).2 publisher = window s publisher) ∧
      ¬ RateRefused ((storageMachine S).step s c).1

namespace Metered

variable {S : Type} [Crypto] [DescriptorStorage S] (M : Metered S)

/-- The store of the publisher that a call recorded, if it did: one of a valid descriptor that was
not refused, while the backend counts. -/
def recordedAt (publisher : Identity) (s : S) (c : StorageCall S) : Option ℕ :=
  match c.stores with
  | none => none
  | some (d, now) =>
    if d.publisher = publisher ∧ d.validate now = .ok () ∧ M.counts s = true ∧
        ¬ RateRefused ((storageMachine S).step s c).1 then some now.toNat
    else none

/-- The times of a publisher's stores that a run recorded. -/
def recorded (publisher : Identity) (s : S) : List (StorageCall S) → List ℕ
  | [] => []
  | c :: calls => (M.recordedAt publisher s c).toList ++
    recorded publisher ((storageMachine S).step s c).2 calls

lemma recorded_concat (publisher : Identity) (s : S) (calls : List (StorageCall S))
    (c : StorageCall S) : M.recorded publisher s (calls ++ [c]) = M.recorded publisher s calls ++
      (M.recordedAt publisher ((storageMachine S).run s calls) c).toList := by
  induction calls generalizing s with
  | nil => simp [recorded]
  | cons e calls ih =>
    rw [List.cons_append, recorded, recorded, ih, List.append_assoc]
    rfl

/-- A call that stores a descriptor of another publisher is of no concern. -/
def concerns (publisher : Identity) (c : StorageCall S) : Bool :=
  c.stores.all fun (d, _) => d.publisher = publisher

/-- Along a run the limiter is an exact sliding window over the history. -/
structure Exact (s : S) (calls : List (StorageCall S)) : Prop where
  /-- At most ten stores of a publisher are recorded in the 60 seconds up to any time. -/
  bounded : ∀ publisher t,
    (within counted (M.recorded publisher s calls) t).length ≤ RATE_LIMIT_PER_MINUTE
  /-- A valid descriptor is refused when its publisher has ten in the 60 seconds up to now. -/
  refused_iff : ∀ pre c post d now, calls = pre ++ c :: post → c.stores = some (d, now) →
    d.ValidAt now → M.counts ((storageMachine S).run s pre) = true →
    (RateRefused ((storageMachine S).step ((storageMachine S).run s pre) c).1 ↔
      (within counted (M.recorded d.publisher s pre) now.toNat).length = RATE_LIMIT_PER_MINUTE)
  /-- Without the stores of the other publishers, the answer is the same. -/
  others : ∀ pre c post d now, calls = pre ++ c :: post → c.stores = some (d, now) →
    (RateRefused ((storageMachine S).step ((storageMachine S).run s pre) c).1 ↔
      RateRefused ((storageMachine S).step
        ((storageMachine S).run s (pre.filter (concerns d.publisher))) c).1)

variable {M}

/-- What a call does to the record, and to the window it is charged to. -/
lemma step_charged {s : S} {c : StorageCall S} {d : Descriptor} {now : UInt64}
    (hstores : c.stores = some (d, now)) (hvalid : d.ValidAt now) (hcounts : M.counts s = true) :
    (RateRefused ((storageMachine S).step s c).1 ↔
      ¬ (recent (M.window s d.publisher) now).length < RATE_LIMIT_PER_MINUTE) ∧
    (M.recordedAt d.publisher s c).toList =
      if (recent (M.window s d.publisher) now).length < RATE_LIMIT_PER_MINUTE then [now.toNat]
      else [] := by
  have hrefused := (M.charged hstores hvalid hcounts).2
  rw [checkWindow_eq] at hrefused
  have hok := Descriptor.validate_eq_ok_iff.2 hvalid
  by_cases hroom : (recent (M.window s d.publisher) now).length < RATE_LIMIT_PER_MINUTE
  · have hnot : ¬ RateRefused ((storageMachine S).step s c).1 := by simpa [hroom] using hrefused
    simp [recordedAt, hstores, hok, hcounts, hnot, hroom]
  · have hyes : RateRefused ((storageMachine S).step s c).1 := by simpa [hroom] using hrefused
    simp [recordedAt, hstores, hyes, hroom]

/-- The record of a publisher after one more call. -/
lemma recordedAt_eq_none {s : S} {c : StorageCall S} {publisher : Identity}
    (h : ∀ d now, c.stores = some (d, now) → d.ValidAt now → M.counts s = true →
      d.publisher ≠ publisher) : M.recordedAt publisher s c = none := by
  unfold recordedAt
  split
  · rfl
  · rename_i d now hstores
    rw [if_neg]
    rintro ⟨hpublisher, hok, hcounts, -⟩
    exact h d now hstores (Descriptor.validate_eq_ok_iff.1 hok) hcounts hpublisher

/-- The window of a publisher is untouched by a call that is not charged to it. -/
lemma window_step {s : S} {c : StorageCall S} (hkeeps : M.Keeps c) {publisher : Identity}
    (h : ∀ d now, c.stores = some (d, now) → d.ValidAt now → M.counts s = true →
      d.publisher ≠ publisher) :
    M.window ((storageMachine S).step s c).2 publisher = M.window s publisher := by
  by_cases hcharged : ∃ d now, c.stores = some (d, now) ∧ d.ValidAt now ∧ M.counts s = true
  · obtain ⟨d, now, hstores, hvalid, hcounts⟩ := hcharged
    rw [(M.charged hstores hvalid hcounts).1, if_neg (h d now hstores hvalid hcounts)]
  · refine (M.uncharged hkeeps fun d now hstores hvalid => ?_).1 publisher
    rw [← Bool.not_eq_true]
    exact fun hcounts => hcharged ⟨d, now, hstores, hvalid, hcounts⟩

/-! ## Runs -/

/-- What a publisher's window and record have in common at a time. -/
structure InStep (M : Metered S) (s : S) (last : ℕ) (publisher : Identity) (record : List ℕ) : Prop
    where
  shows : Shows counted last ((M.window s publisher).map UInt64.toNat) record
  le_last : ∀ a ∈ record, a ≤ last
  bounded : Bounded counted RATE_LIMIT_PER_MINUTE record

/-- A call keeps them in step. -/
lemma InStep.step {s : S} {last : ℕ} {publisher : Identity} {record : List ℕ}
    (h : M.InStep s last publisher record) {c : StorageCall S} (hkeeps : M.Keeps c) {last' : ℕ}
    (hlast : last ≤ last') (htime : ∀ d now, c.stores = some (d, now) → last' = now.toNat) :
    M.InStep ((storageMachine S).step s c).2 last' publisher
      (record ++ (M.recordedAt publisher s c).toList) := by
  by_cases hcharged : ∃ d now, c.stores = some (d, now) ∧ d.ValidAt now ∧ M.counts s = true ∧
      d.publisher = publisher
  · obtain ⟨d, now, hstores, hvalid, hcounts, rfl⟩ := hcharged
    obtain rfl := htime d now hstores
    have hshown : (recent (M.window s d.publisher) now).length =
        (active counted record now.toNat).length := by
      rw [← h.shows now.toNat hlast, ← map_recent, List.length_map]
    have hrecord : record ++ (M.recordedAt d.publisher s c).toList =
        grant counted RATE_LIMIT_PER_MINUTE record now.toNat := by
      rw [(step_charged hstores hvalid hcounts).2, hshown, grant]
      split_ifs
      · rfl
      · rw [List.append_nil]
    have hpruned : Shows counted now.toNat
        ((recent (M.window s d.publisher) now).map UInt64.toNat) record := by
      rw [map_recent]
      exact h.shows.prune isWindow_counted hlast
    refine ⟨?_, ?_, ?_⟩
    · rw [(M.charged hstores hvalid hcounts).1, if_pos rfl, checkWindow_eq,
        (step_charged hstores hvalid hcounts).2]
      split_ifs
      · rw [List.map_append]
        exact hpruned.append [now.toNat]
      · rw [List.append_nil]
        exact hpruned
    · rw [hrecord]
      exact le_of_mem_grant hlast h.le_last
    · rw [hrecord]
      exact bounded_grant isWindow_counted h.bounded _
  · have hnot : ∀ d now, c.stores = some (d, now) → d.ValidAt now → M.counts s = true →
        d.publisher ≠ publisher := by
      intro d now hstores hvalid hcounts hpublisher
      exact hcharged ⟨d, now, hstores, hvalid, hcounts, hpublisher⟩
    rw [recordedAt_eq_none hnot, Option.toList_none, List.append_nil]
    refine ⟨?_, fun a ha => le_trans (h.le_last a ha) hlast, h.bounded⟩
    rw [window_step hkeeps hnot]
    exact h.shows.mono hlast

/-- They are in step along every run at non-decreasing times. -/
lemma inStep_run {s : S} (hinit : ∀ publisher, M.window s publisher = [])
    {calls : List (StorageCall S)} (hkeeps : ∀ c ∈ calls, M.Keeps c) (htimes : TimesOrdered calls)
    (publisher : Identity) :
    M.InStep ((storageMachine S).run s calls) (lastTime calls).toNat publisher
      (M.recorded publisher s calls) := by
  induction calls using List.reverseRecOn with
  | nil =>
    refine ⟨?_, by simp [recorded], bounded_nil _ _⟩
    rw [Machine.run_nil, hinit]
    exact .refl _ _
  | append_singleton calls c ih =>
    have hbefore := ih (fun e he => hkeeps e (List.mem_append_left _ he)) htimes.of_concat
    rw [Machine.run_concat, recorded_concat]
    refine hbefore.step (hkeeps c (by simp)) ?_ fun d now hstores => ?_
    · cases htime : c.time with
      | none => rw [lastTime_concat_of_none htime]
      | some now =>
        rw [lastTime_concat htime]
        exact UInt64.le_iff_toNat_le.1 (htimes.lastTime_le htime)
    · rw [lastTime_concat (time_of_stores hstores)]

/-- A publisher's window and the switch do not depend on the stores of the others. -/
lemma window_filter {s : S} {calls : List (StorageCall S)} (hkeeps : ∀ c ∈ calls, M.Keeps c)
    (publisher : Identity) :
    M.window ((storageMachine S).run s (calls.filter (concerns publisher))) publisher =
        M.window ((storageMachine S).run s calls) publisher ∧
      M.counts ((storageMachine S).run s (calls.filter (concerns publisher))) =
        M.counts ((storageMachine S).run s calls) := by
  induction calls using List.reverseRecOn with
  | nil => exact ⟨rfl, rfl⟩
  | append_singleton calls c ih =>
    obtain ⟨hwindow, hcounts⟩ := ih fun e he => hkeeps e (List.mem_append_left _ he)
    have hc := hkeeps c (by simp)
    rw [List.filter_append, Machine.run_concat]
    by_cases hconcerns : concerns publisher c = true
    · rw [List.filter_cons_of_pos hconcerns, List.filter_nil, Machine.run_concat]
      rw [M.counts_step hc, M.counts_step hc, hcounts]
      refine ⟨?_, rfl⟩
      by_cases hcharged : ∃ d now, c.stores = some (d, now) ∧ d.ValidAt now ∧
          M.counts ((storageMachine S).run s calls) = true
      · obtain ⟨d, now, hstores, hvalid, hon⟩ := hcharged
        rw [(M.charged hstores hvalid hon).1, (M.charged hstores hvalid (hcounts.trans hon)).1,
          hwindow]
      · have hoff : ∀ d now, c.stores = some (d, now) → d.ValidAt now →
            M.counts ((storageMachine S).run s calls) = false := by
          intro d now hstores hvalid
          rw [← Bool.not_eq_true]
          exact fun hon => hcharged ⟨d, now, hstores, hvalid, hon⟩
        rw [(M.uncharged hc hoff).1, (M.uncharged hc fun d now hstores hvalid =>
          hcounts.trans (hoff d now hstores hvalid)).1, hwindow]
    · rw [List.filter_cons_of_neg hconcerns, List.filter_nil, List.append_nil, M.counts_step hc]
      -- a store of another publisher
      have hother : ∃ d now, c.stores = some (d, now) ∧ d.publisher ≠ publisher := by
        unfold concerns at hconcerns
        cases hstores : c.stores with
        | none => simp [hstores] at hconcerns
        | some store => exact ⟨store.1, store.2, rfl, by simpa [hstores] using hconcerns⟩
      obtain ⟨d, now, hstores, hpublisher⟩ := hother
      rw [M.setting_of_stores hstores, window_step hc ?_]
      · exact ⟨hwindow, hcounts⟩
      · exact (StorageCall.forall_stores_iff hstores).2 fun _ _ => hpublisher

/-- The limiter of a metered backend is exact along every run at non-decreasing times. -/
theorem exact_run {s : S} (hinit : ∀ publisher, M.window s publisher = [])
    {calls : List (StorageCall S)} (hkeeps : ∀ c ∈ calls, M.Keeps c) (htimes : TimesOrdered calls) :
    M.Exact s calls where
  bounded publisher := (inStep_run hinit hkeeps htimes publisher).bounded
  refused_iff := by
    rintro pre c post d now rfl hstores hvalid hcounts
    have hpre : TimesOrdered (pre ++ [c]) := by
      rw [← List.singleton_append, ← List.append_assoc, TimesOrdered,
        List.filterMap_append] at htimes
      exact (List.pairwise_append.1 htimes).1
    have hstep := inStep_run hinit (fun e he => hkeeps e (List.mem_append_left _ he))
      hpre.of_concat d.publisher
    have hlast : (lastTime pre).toNat ≤ now.toNat :=
      UInt64.le_iff_toNat_le.1 (hpre.lastTime_le (time_of_stores hstores))
    rw [(step_charged hstores hvalid hcounts).1, ← refused_iff hstep.bounded
      fun a ha => le_trans (hstep.le_last a ha) hlast, ← hstep.shows now.toNat hlast, ← map_recent,
      List.length_map]
  others := by
    rintro pre c post d now rfl hstores
    have hpre : ∀ e ∈ pre, M.Keeps e := fun e he => hkeeps e (List.mem_append_left _ he)
    have hc : M.Keeps c := hkeeps c (by simp)
    obtain ⟨hwindow, hcounts⟩ := window_filter (s := s) hpre d.publisher
    by_cases hcharged : d.ValidAt now ∧ M.counts ((storageMachine S).run s pre) = true
    · obtain ⟨hvalid, hon⟩ := hcharged
      rw [(M.charged hstores hvalid hon).2, (M.charged hstores hvalid (hcounts.trans hon)).2,
        hwindow]
    · have hoff : ∀ s', M.counts s' = M.counts ((storageMachine S).run s pre) →
          ∀ d' now', c.stores = some (d', now') → d'.ValidAt now' → M.counts s' = false := by
        intro s' hs'
        refine (StorageCall.forall_stores_iff hstores).2 fun hvalid => ?_
        rw [hs', ← Bool.not_eq_true]
        exact fun hon => hcharged ⟨hvalid, hon⟩
      exact iff_of_false (M.uncharged hc (hoff _ rfl)).2 (M.uncharged hc (hoff _ hcounts)).2

end Metered

/-! ## The in-memory store -/

namespace DescriptorStore

section Ciborium

variable [Ciborium]

lemma revocationTarget_ne_rateLimited (payload : List UInt8) (limit : ℕ) :
    revocationTarget payload ≠ .error (.rateLimited limit) := by
  unfold revocationTarget
  split
  · simp
  · split <;> simp

lemma keyRotation_ne_rateLimited (payload : List UInt8) (limit : ℕ) :
    keyRotation payload ≠ .error (.rateLimited limit) := by
  unfold keyRotation
  repeat' split
  all_goals simp

lemma processRevocation_ne_rateLimited (s : DescriptorStore) (r : Descriptor) (limit : ℕ) :
    (s.processRevocation r).1 ≠ .error (.rateLimited limit) := by
  unfold processRevocation
  cases htarget : revocationTarget r.payload with
  | error e =>
    intro h
    apply revocationTarget_ne_rateLimited r.payload limit
    rw [htarget]
    exact congrArg Except.error (Except.error.inj h)
  | ok target =>
    dsimp only
    cases s.findById target with
    | none => simp
    | some d =>
      dsimp only
      split_ifs <;> simp

lemma processKeyRotation_ne_rateLimited (s : DescriptorStore) (r : Descriptor) (limit : ℕ) :
    (s.processKeyRotation r).1 ≠ .error (.rateLimited limit) := by
  unfold processKeyRotation
  cases hrot : keyRotation r.payload with
  | error e =>
    intro h
    apply keyRotation_ne_rateLimited r.payload limit
    rw [hrot]
    exact congrArg Except.error (Except.error.inj h)
  | ok rot =>
    dsimp only
    cases s.rotations[rot.oldIdentity]? with
    | none => simp
    | some existing =>
      dsimp only
      split_ifs <;> simp

variable [Crypto]

/-- Processing is never refused for a rate. -/
lemma process_ne_rateLimited (s : DescriptorStore) (d : Descriptor) (limit : ℕ) :
    (s.process d).1 ≠ .error (.rateLimited limit) := by
  have hfirst : (if d.schemaHash = SCHEMA_HASH_CORE_REVOCATION then s.processRevocation d
      else (.ok (), s)).1 ≠ .error (.rateLimited limit) := by
    split_ifs
    · exact s.processRevocation_ne_rateLimited d limit
    · simp
  unfold process
  split
  case h_1 e s₁ heq =>
    rw [heq] at hfirst
    exact hfirst
  case h_2 s₁ heq =>
    split_ifs
    · exact s₁.processKeyRotation_ne_rateLimited d limit
    · simp

/-- A store of a valid descriptor is refused for its publisher's rate just when the window has no
room. -/
lemma rateLimited_storeDescriptorAt_iff {s : DescriptorStore} {d : Descriptor} {now : UInt64}
    (hvalid : d.ValidAt now) :
    (s.storeDescriptorAt d now).1 = .error (.rateLimited RATE_LIMIT_PER_MINUTE) ↔
      (checkWindow (s.window d.publisher) now).1 = false := by
  have hok := Descriptor.validate_eq_ok_iff.2 hvalid
  have hcheck : (s.checkStore d now).1 = .error (.rateLimited RATE_LIMIT_PER_MINUTE) ↔
      (checkWindow (s.window d.publisher) now).1 = false := by
    rw [checkStore, hok, window]
    dsimp only
    split_ifs with hroom
    · simp [hroom]
    · rw [iff_false_right hroom]
      cases s.sequences[DedupKey.fromDescriptor d]? with
      | none => simp
      | some seq =>
        dsimp only
        split_ifs <;> simp
  rw [← hcheck]
  rcases s.storeDescriptorAt_cases d now with ⟨e, windows, heq, herror⟩ | ⟨windows, heq, hpassed⟩
  · rw [heq, herror]
  · rw [heq, hpassed]
    exact iff_of_false (process_ne_rateLimited _ d _) (by simp)

/-- A store of a descriptor that is not valid is refused for that. -/
lemma storeDescriptorAt_of_not_valid {s : DescriptorStore} {d : Descriptor} {now : UInt64}
    (h : ¬ d.ValidAt now) : ∃ reason, (s.storeDescriptorAt d now).1 =
      .error (.validationFailed reason) := by
  unfold storeDescriptorAt checkStore
  cases hverdict : d.validate now with
  | error e => exact ⟨_, rfl⟩
  | ok => exact absurd (Descriptor.validate_eq_ok_iff.1 hverdict) h

/-- The in-memory store counts every store. -/
def metered : Metered DescriptorStore where
  window := window
  counts _ := true
  Keeps _ := True
  setting _ := none
  setting_of_stores _ := rfl
  counts_step _ := rfl
  charged := by
    intro s c d now hstores hvalid _
    rcases s.step_cases c with ⟨d', now', hstores', hstep⟩ | ⟨_, hnone, -, -⟩ | ⟨hnone, -⟩
    · obtain ⟨rfl, rfl⟩ := Prod.mk.inj (Option.some.inj (hstores.symm.trans hstores'))
      rw [hstep]
      refine ⟨fun publisher => ?_, ?_⟩
      · rw [window_storeDescriptorAt]
        simp only [Descriptor.validate_eq_ok_iff.2 hvalid, true_and]
      · rw [RateRefused, StorageAnswer.stored.injEq]
        exact rateLimited_storeDescriptorAt_iff hvalid
    · rw [hnone] at hstores
      cases hstores
    · rw [hnone] at hstores
      cases hstores
  uncharged := by
    intro s c _ h
    rcases s.step_cases c with ⟨d, now, hstores, hstep⟩ | ⟨now, -, -, hstep⟩ | ⟨hnone, hstep⟩
    · have hinvalid : ¬ d.ValidAt now := fun hvalid => by simpa using h d now hstores hvalid
      obtain ⟨reason, hreason⟩ := storeDescriptorAt_of_not_valid (s := s) hinvalid
      rw [hstep]
      refine ⟨fun publisher => ?_, ?_⟩
      · rw [window_storeDescriptorAt, if_neg]
        exact fun hok => hinvalid (Descriptor.validate_eq_ok_iff.1 hok.1)
      · simp [RateRefused, hreason]
    · refine ⟨fun _ => by rw [hstep]; rfl, ?_⟩
      simp [hstep, RateRefused]
    · rw [hstep]
      exact ⟨fun _ => rfl, not_rateRefused_of_stores hnone⟩

end Ciborium

end DescriptorStore

end MeshProtocol
