import MeshProtocol.Core.Reference
import MeshProtocol.Dht.Revocations
import MeshProtocol.Hub.StoreLimit

/-!
# How much one publisher can make a node keep

The rate limit bounds how fast a publisher stores, the bounds on lifetime and clock skew how long a
descriptor lives.  Together they bound the space: whatever is stored, at any time at most `maxLive`
unexpired descriptors of one publisher are kept.

The count goes through a `ledger`: which stores of a publisher were recorded, and when.  A live
descriptor has an entry no older than its lifetime and the skew, and the ledger has at most ten in
any minute.
-/

namespace MeshProtocol

open DescriptorStorage SlidingWindow

/-! ## Ledgers -/

namespace Metered

variable {S : Type} [Crypto] [DescriptorStorage S] (M : Metered S)

/-- The store of the publisher that a call recorded, with what it stored. -/
def entry (publisher : Identity) (s : S) (c : StorageCall S) : Option (Descriptor × ℕ) :=
  c.stores.bind fun (d, _) => (M.recordedAt publisher s c).map fun a => (d, a)

/-- The stores of a publisher that a run recorded. -/
def ledger (publisher : Identity) (s : S) : List (StorageCall S) → List (Descriptor × ℕ)
  | [] => []
  | c :: calls => (M.entry publisher s c).toList ++
    ledger publisher ((storageMachine S).step s c).2 calls

variable {M}

lemma ledger_concat (publisher : Identity) (s : S) (calls : List (StorageCall S))
    (c : StorageCall S) : M.ledger publisher s (calls ++ [c]) = M.ledger publisher s calls ++
      (M.entry publisher ((storageMachine S).run s calls) c).toList := by
  induction calls generalizing s with
  | nil => simp [ledger]
  | cons e calls ih =>
    rw [List.cons_append, ledger, ledger, ih, List.append_assoc]
    rfl

lemma map_snd_entry (publisher : Identity) (s : S) (c : StorageCall S) :
    (M.entry publisher s c).map Prod.snd = M.recordedAt publisher s c := by
  unfold entry
  cases hstores : c.stores with
  | none => simp [recordedAt, hstores]
  | some store => simp [Function.comp_def]

/-- The times of the ledger are those of the record. -/
lemma map_snd_ledger (publisher : Identity) (s : S) (calls : List (StorageCall S)) :
    (M.ledger publisher s calls).map Prod.snd = M.recorded publisher s calls := by
  induction calls generalizing s with
  | nil => rfl
  | cons c calls ih =>
    rw [ledger, recorded, List.map_append, ih, ← map_snd_entry]
    cases M.entry publisher s c with
    | none => rfl
    | some e => rfl

lemma mem_recorded {publisher : Identity} {s : S} {calls : List (StorageCall S)} {d : Descriptor}
    {a : ℕ} (h : (d, a) ∈ M.ledger publisher s calls) : a ∈ M.recorded publisher s calls := by
  rw [← map_snd_ledger]
  exact List.mem_map_of_mem h

/-- A store that counts and is not refused for its rate has an entry. -/
lemma entry_eq_some {s : S} {c : StorageCall S} {d : Descriptor} {now : UInt64}
    (hstores : c.stores = some (d, now)) (hvalid : d.ValidAt now) (hcounts : M.counts s = true)
    (hnot : ¬ RateRefused ((storageMachine S).step s c).1) :
    M.entry d.publisher s c = some (d, now.toNat) := by
  have hrecorded : M.recordedAt d.publisher s c = some now.toNat := by
    rw [recordedAt, hstores]
    exact if_pos ⟨rfl, Descriptor.validate_eq_ok_iff.2 hvalid, hcounts, hnot⟩
  rw [entry, hstores, Option.bind_some, hrecorded]
  rfl

/-- Different descriptors have different entries, so no more of them fit into some windows than the
limit has room for. -/
lemma length_le_of_ledger {publisher : Identity} {s : S} {calls : List (StorageCall S)}
    (hbounded : Bounded counted RATE_LIMIT_PER_MINUTE (M.recorded publisher s calls))
    {ds : List Descriptor} (hnodup : ds.Nodup) {n t : ℕ}
    (h : ∀ d ∈ ds, ∃ a, (d, a) ∈ M.ledger publisher s calls ∧ a ≤ t ∧
      t < a + n * RATE_LIMIT_WINDOW_MICROS.toNat) :
    ds.length ≤ n * RATE_LIMIT_PER_MINUTE := by
  let width := RATE_LIMIT_WINDOW_MICROS.toNat
  let inside := (M.ledger publisher s calls).filter fun e =>
    decide (e.2 ≤ t) && lasting (n * width) e.2 t
  have hsub : ds ⊆ inside.map Prod.fst := by
    intro d hd
    obtain ⟨a, ha, hle, hlt⟩ := h d hd
    refine List.mem_map.2 ⟨(d, a), List.mem_filter.2 ⟨ha, ?_⟩, rfl⟩
    simp only [lasting, Bool.and_eq_true, decide_eq_true_eq]
    exact ⟨hle, hlt⟩
  have htimes : inside.map Prod.snd =
      within (lasting (n * width)) (M.recorded publisher s calls) t := by
    rw [within, ← map_snd_ledger, List.filter_map]
    rfl
  calc ds.length
      ≤ (inside.map Prod.fst).length := (List.subperm_of_subset hnodup hsub).length_le
    _ = (inside.map Prod.snd).length := by rw [List.length_map, List.length_map]
    _ = (within (lasting (n * width)) (M.recorded publisher s calls) t).length := by rw [htimes]
    _ ≤ n * RATE_LIMIT_PER_MINUTE := length_within_mul hbounded n t

end Metered

/-! ## How long a descriptor lives -/

/-- The longest lifetime and the clock skew, in windows of the rate limit. -/
def liveWindows : ℕ :=
  (MAX_TTL_SECS.toNat + MAX_CLOCK_SKEW_SECS.toNat) * 1000000 / RATE_LIMIT_WINDOW_MICROS.toNat

/-- As many descriptors of one publisher as the rate limit lets through while one of them lives. -/
def maxLive : ℕ := liveWindows * RATE_LIMIT_PER_MINUTE

example : maxLive = 14420 := by decide

/-- A descriptor that has not expired was valid no longer ago than `liveWindows`. -/
lemma lt_of_live [Crypto] {d : Descriptor} {a t : UInt64} (hvalid : d.ValidAt a)
    (hlive : d.expiredAt t = false) :
    t.toNat < a.toNat + liveWindows * RATE_LIMIT_WINDOW_MICROS.toNat := by
  have hwindows : liveWindows * RATE_LIMIT_WINDOW_MICROS.toNat = 86520000000 := by decide
  have httl : d.ttl.toNat ≤ 86400 := UInt32.le_iff_toNat_le.1 hvalid.inBounds.ttl_le
  have hstamp : d.timestamp.toNat ≤ a.toNat + 120000000 := by
    have hskew := UInt64.le_iff_toNat_le.1 hvalid.notFuture
    rw [UInt64.toNat_add] at hskew
    have hmicros : (MAX_CLOCK_SKEW_SECS * 1000000).toNat = 120000000 := by decide
    rw [hmicros] at hskew
    exact hskew.trans (Nat.mod_le _ _)
  rw [← Bool.not_eq_true, Descriptor.expiredAt_iff, Nat.not_le] at hlive
  have hsum := hlive.trans_le (Nat.mod_le _ _)
  rw [hwindows]
  omega

/-! ## The in-memory store -/

namespace DescriptorStore

variable [Crypto] [Ciborium]

/-- What is filed has an entry in its publisher's ledger. -/
lemma ledger_of_held {calls : List (StorageCall DescriptorStore)} {rk : Hash} {d : Descriptor}
    (h : d ∈ ((storageMachine DescriptorStore).run new calls).store.held rk) :
    ∃ now : UInt64, (d, now.toNat) ∈ metered.ledger d.publisher new calls ∧ d.ValidAt now := by
  induction calls using List.reverseRecOn with
  | nil => simp [new] at h
  | append_singleton calls c ih =>
    have hkept : d ∈ ((storageMachine DescriptorStore).run new calls).store.held rk →
        ∃ now : UInt64, (d, now.toNat) ∈ metered.ledger d.publisher new (calls ++ [c]) ∧
          d.ValidAt now := by
      intro hheld
      obtain ⟨now, hentry, hvalid⟩ := ih hheld
      rw [Metered.ledger_concat]
      exact ⟨now, List.mem_append_left _ hentry, hvalid⟩
    rw [Machine.run_concat] at h
    rcases step_cases ((storageMachine DescriptorStore).run new calls) c with
      ⟨e, now, hstores, hstep⟩ | ⟨now, -, -, hstep⟩ | ⟨-, hstep⟩
    · rw [hstep] at h
      rcases storeDescriptorAt_cases ((storageMachine DescriptorStore).run new calls) e now with
        ⟨_, _, heq, -⟩ | ⟨windows, heq, hcheck⟩
      · rw [heq] at h
        exact hkept h
      · rw [heq] at h
        rcases mem_held_replace.1 ((effect_process _ e).within rk d h) with
          ⟨hheld, -⟩ | ⟨rfl, -⟩
        · exact hkept hheld
        · have hvalid := (checkStore_ok_iff.1 hcheck).1
          refine ⟨now, ?_, hvalid⟩
          have hnot : ¬ RateRefused ((storageMachine DescriptorStore).step
              ((storageMachine DescriptorStore).run new calls) c).1 := by
            rw [hstep, heq, RateRefused, StorageAnswer.stored.injEq]
            exact process_ne_rateLimited _ d _
          rw [Metered.ledger_concat, Metered.entry_eq_some hstores hvalid rfl hnot]
          exact List.mem_append_right _ (List.mem_singleton_self _)
    · rw [hstep] at h
      exact hkept (mem_held_evictExpiredAt.1 h).1
    · rw [hstep] at h
      exact hkept h

end DescriptorStore

/-! ## The disk-backed store -/

namespace RedbStorage

variable [Crypto] [DescriptorCodec]

/-- Calls of one process that never skip the limit: nothing happens in the background. -/
def Undisturbed (calls : List (StorageCall RedbStorage)) : Prop :=
  ∀ c ∈ calls, ∀ e, c ≠ .background e

lemma not_restarts {calls : List (StorageCall RedbStorage)} (h : Undisturbed calls) :
    ∀ c ∈ calls, metered.Keeps c := fun c hc => h c hc _

/-- The limit is never skipped. -/
lemma counts_run {calls : List (StorageCall RedbStorage)} (h : Undisturbed calls) :
    metered.counts ((storageMachine RedbStorage).run new calls) = true := by
  induction calls using List.reverseRecOn with
  | nil => rfl
  | append_singleton calls c ih =>
    have hc := h c (by simp)
    have hsetting : metered.setting c = none := by
      cases c with
      | background e => exact absurd rfl (hc e)
      | _ => rfl
    rw [Machine.run_concat, metered.counts_step (hc _), hsetting]
    exact ih fun e he => h e (List.mem_append_left _ he)

/-- What the slots hold has an entry in its publisher's ledger. -/
lemma ledger_of_slots {calls : List (StorageCall RedbStorage)}
    (hnc : Descriptor.NoCollision {d | d ∈ submitted calls}) (hcalls : Undisturbed calls)
    {pre : List (StorageCall RedbStorage)} (hpre : pre <+: calls) :
    ∃ slots, Stocks {d | d ∈ submitted calls} ((storageMachine RedbStorage).run new pre) slots ∧
      ∀ k d, slots k = some d → ∃ now : UInt64,
        (d, now.toNat) ∈ metered.ledger d.publisher new pre ∧ d.ValidAt now := by
  induction pre using List.reverseRecOn with
  | nil => exact ⟨_, stocks_new _, by simp⟩
  | append_singleton pre c ih =>
    have hbefore := (List.prefix_append pre [c]).trans hpre
    obtain ⟨slots, hstocks, hslots⟩ := ih hbefore
    have hkept : ∀ k d, slots k = some d → ∃ now : UInt64,
        (d, now.toNat) ∈ metered.ledger d.publisher new (pre ++ [c]) ∧ d.ValidAt now := by
      intro k d hd
      obtain ⟨now, hentry, hvalid⟩ := hslots k d hd
      rw [Metered.ledger_concat]
      exact ⟨now, List.mem_append_left _ hentry, hvalid⟩
    have hmem : ∀ d now, c.stores = some (d, now) → d ∈ {d | d ∈ submitted calls} := by
      intro d now hstores
      exact mem_submitted.2 ⟨c, hpre.subset (by simp), now, hstores⟩
    obtain ⟨slots', hstep, hstocks'⟩ := (slotView hnc).step _ slots c hstocks hmem
    rw [← Machine.run_concat] at hstocks'
    refine ⟨slots', hstocks', ?_⟩
    generalize hanswer : ((storageMachine RedbStorage).step
      ((storageMachine RedbStorage).run new pre) c).1 = answer at hstep
    cases hstep with
    | stored hstores hok hvalid =>
      intro k e he
      rcases Slots.put_eq_some_iff.1 he with ⟨-, rfl⟩ | ⟨-, he⟩
      · have hcounts := counts_run fun c hc => hcalls c (hbefore.subset hc)
        refine ⟨_, ?_, hvalid⟩
        rw [Metered.ledger_concat, Metered.entry_eq_some hstores hvalid hcounts ?_]
        · exact List.mem_append_right _ (List.mem_singleton_self _)
        · rw [hanswer, hok]
          simp [RateRefused]
      · exact hkept k e he
    | evicted hnone htime =>
      intro k e he
      exact hkept k e (Slots.evict_eq_some_iff.1 he).1
    | idle hrejected => exact hkept

end RedbStorage

/-! ## Both backends -/

/-- Whatever is stored, at any time at most `maxLive` unexpired descriptors of one publisher can be
read from the in-memory store, or are listed by the disk-backed one. -/
theorem footprint_bounded [Crypto] [Ciborium] [DescriptorCodec] (publisher : Identity)
    (t : UInt64) :
    (∀ calls : List (StorageCall DescriptorStore), TimesOrdered calls → lastTime calls ≤ t →
      ∀ ds : List Descriptor, ds.Nodup → (∀ d ∈ ds, d.publisher = publisher ∧ ∃ rk filters,
          d ∈ (getDescriptorsAt ((storageMachine DescriptorStore).run DescriptorStore.new calls)
            rk filters t).1) →
        ds.length ≤ maxLive) ∧
    ∀ calls : List (StorageCall RedbStorage), Descriptor.NoCollision {d | d ∈ submitted calls} →
      RedbStorage.Undisturbed calls → TimesOrdered calls → lastTime calls ≤ t →
        ((((storageMachine RedbStorage).run RedbStorage.new calls).allDescriptors t).filter
          (·.publisher = publisher)).length ≤ maxLive := by
  constructor
  · intro calls htimes ht ds hnodup hds
    have hstep := Metered.inStep_run (M := DescriptorStore.metered) (s := .new)
      DescriptorStore.window_new
      (fun _ _ => trivial) htimes publisher
    refine Metered.length_le_of_ledger hstep.bounded hnodup (n := liveWindows) (t := t.toNat) ?_
    intro d hd
    obtain ⟨rfl, rk, filters, hread⟩ := hds d hd
    obtain ⟨hheld, -, hlive, -⟩ := DescriptorStore.mem_getDescriptorsAt.1 hread
    obtain ⟨now, hentry, hvalid⟩ := DescriptorStore.ledger_of_held hheld
    have hrecorded := hstep.le_last _ (Metered.mem_recorded hentry)
    exact ⟨now.toNat, hentry, hrecorded.trans (UInt64.le_iff_toNat_le.1 ht),
      lt_of_live hvalid hlive⟩
  · intro calls hnc hcalls htimes ht
    have hstep := Metered.inStep_run (M := RedbStorage.metered) (s := .new) RedbStorage.window_new
      (RedbStorage.not_restarts hcalls) htimes publisher
    obtain ⟨slots, hstocks, hslots⟩ := RedbStorage.ledger_of_slots hnc hcalls List.prefix_rfl
    obtain ⟨hnodup, hslot⟩ := hstocks.represents.nodup_allDescriptors t
    refine Metered.length_le_of_ledger hstep.bounded (hnodup.of_map.filter _) (n := liveWindows)
      (t := t.toNat) ?_
    intro d hd
    obtain ⟨hlisted, hpublisher⟩ := List.mem_filter.1 hd
    obtain rfl : d.publisher = publisher := of_decide_eq_true hpublisher
    have hlive : d.expiredAt t = false := by simpa using (List.mem_filter.1 hlisted).2
    obtain ⟨now, hentry, hvalid⟩ := hslots _ d (hslot d hlisted)
    have hrecorded := hstep.le_last _ (Metered.mem_recorded hentry)
    exact ⟨now.toNat, hentry, hrecorded.trans (UInt64.le_iff_toNat_le.1 ht),
      lt_of_live hvalid hlive⟩

open DescriptorStore (secondTarget)

/-- Two descriptors of a publisher are stored, one of them again later; a forged one is refused, and
the expired ones are evicted. -/
def twoKept (S : Type) [DescriptorStorage S] : List (StorageCall S) :=
  [.storeDescriptorAt target 1700000000000000,
    .storeDescriptorAt { target with ttl := 86400 } 1700000000000000,
    .storeDescriptorAt secondTarget 1700000001000000, .evictExpiredAt 1700000002000000,
    .storeDescriptorAt target 1700000003000000]

/-- Both descriptors count in either store. -/
theorem two_kept_bounded :
    letI : Crypto := cryptoOf [target, secondTarget]
    letI : Ciborium := referenceCiborium
    letI : DescriptorCodec := wireCodec
    [target, secondTarget].length ≤ maxLive ∧
      ((((storageMachine RedbStorage).run .new (twoKept _)).allDescriptors 1700000004000000).filter
        (·.publisher = secondPublisher)).length ≤ maxLive := by
  let _ : Crypto := cryptoOf [target, secondTarget]
  let _ : Ciborium := referenceCiborium
  let _ : DescriptorCodec := wireCodec
  obtain ⟨hmemory, hredb⟩ := footprint_bounded secondPublisher 1700000004000000
  constructor
  · have hread : ∀ d ∈ [target, secondTarget], d ∈ (getDescriptorsAt
        ((storageMachine DescriptorStore).run .new (twoKept _)) computeKey none
          1700000004000000).1 := by
      decide +kernel
    refine hmemory (twoKept _) ?_ (by decide +kernel) [target, secondTarget] (by decide) ?_
    · simp [TimesOrdered, twoKept, StorageCall.time]
    · intro d hd
      have hpublisher : ∀ d ∈ [target, secondTarget], d.publisher = secondPublisher := by decide
      exact ⟨hpublisher d hd, computeKey, none, hread d hd⟩
  · refine hredb (twoKept _) ?_ ?_ ?_ (by decide +kernel)
    · exact Descriptor.noCollision_of_list (by decide +kernel)
    · simp [RedbStorage.Undisturbed, twoKept]
    · simp [TimesOrdered, twoKept, StorageCall.time]

end MeshProtocol
