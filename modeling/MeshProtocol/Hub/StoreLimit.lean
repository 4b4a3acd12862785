import MeshProtocol.Core.Reference
import MeshProtocol.Dht.Metered
import MeshProtocol.Hub.Redb

/-!
# The store limit of both backends

Both backends allow a publisher ten stores in 60 seconds.  The disk-backed store keeps its windows
in memory, under the publisher's bytes, and skips them while its public flag is set; reopening the
database starts them afresh, so the runs considered are those of one process.
-/

namespace MeshProtocol

open Std

namespace RedbStorage

/-- The times of a publisher's stores that the rate limiter remembers. -/
def window (s : RedbStorage) (publisher : Identity) : List UInt64 :=
  s.rateTimestamps.getD (identityBytes publisher) []

@[simp] lemma window_new (publisher : Identity) : new.window publisher = [] := by
  simp [window, new]

lemma window_checkRateLimit (s : RedbStorage) (charged publisher : Identity) (now : UInt64) :
    (s.checkRateLimit charged now).2.window publisher =
      if charged = publisher then (checkWindow (s.window publisher) now).2
      else s.window publisher := by
  rw [checkRateLimit, window, window]
  simp only [ExtTreeMap.getD_insert, LawfulEqCmp.compare_eq_iff_eq, identityBytes_inj]
  split_ifs with h
  · rw [h]
  · rfl

/-- The store starts the process anew. -/
def Restarts [Crypto] [DescriptorCodec] (c : StorageCall RedbStorage) : Prop :=
  c = .background .reopen

variable [Crypto]

/-- The checks charge a valid descriptor to its publisher's window, unless the limit is skipped. -/
lemma checkStore_of_valid {s : RedbStorage} {d : Descriptor} {now : UInt64}
    (hvalid : d.ValidAt now) :
    s.checkStore d now =
      if s.skipRateLimit = true then (s.checkSequence d, s)
      else if (checkWindow (s.window d.publisher) now).1 = true then
        (s.checkSequence d, (s.checkRateLimit d.publisher now).2)
      else (.error (.rateLimited RATE_LIMIT_PER_MINUTE), (s.checkRateLimit d.publisher now).2) := by
  rw [checkStore, Descriptor.validate_eq_ok_iff.2 hvalid]
  dsimp only
  by_cases hskip : s.skipRateLimit = true
  · rw [if_pos hskip, if_pos hskip]
  · rw [if_neg hskip, if_neg hskip]
    have hlimit : s.checkRateLimit d.publisher now = ((checkWindow (s.window d.publisher) now).1,
        (s.checkRateLimit d.publisher now).2) := rfl
    rw [hlimit]
    cases (checkWindow (s.window d.publisher) now).1 with
    | false => rfl
    | true => rfl

lemma checkSequence_ne_rateLimited (s : RedbStorage) (d : Descriptor) (limit : ℕ) :
    s.checkSequence d ≠ .error (.rateLimited limit) := by
  rw [checkSequence]
  split
  · split_ifs <;> simp
  · simp

variable [DescriptorCodec]

/-- What becomes of the windows and the flag is decided by the checks, as is a refusal for
the rate. -/
lemma storeDescriptorAt_limits (s : RedbStorage) (d : Descriptor) (now : UInt64) :
    (s.storeDescriptorAt d now).2.rateTimestamps = (s.checkStore d now).2.rateTimestamps ∧
      (s.storeDescriptorAt d now).2.skipRateLimit = (s.checkStore d now).2.skipRateLimit ∧
      ∀ e, (s.storeDescriptorAt d now).1 = .error e ↔ (s.checkStore d now).1 = .error e := by
  unfold storeDescriptorAt
  rcases s.checkStore d now with ⟨e | ⟨⟩, s'⟩
  · exact ⟨rfl, rfl, fun _ => Iff.rfl⟩
  · dsimp only [insertNew]
    have hold : (s'.removeOld d).rateTimestamps = s'.rateTimestamps ∧
        (s'.removeOld d).skipRateLimit = s'.skipRateLimit := by
      unfold removeOld
      split <;> exact ⟨rfl, rfl⟩
    exact ⟨hold.1, hold.2, fun e => by simp⟩

omit [DescriptorCodec] in
lemma foldl_remove_limits (ds : List Descriptor) (s : RedbStorage) :
    (ds.foldl remove s).rateTimestamps = s.rateTimestamps ∧
      (ds.foldl remove s).skipRateLimit = s.skipRateLimit := by
  induction ds generalizing s with
  | nil => exact ⟨rfl, rfl⟩
  | cons d ds ih => exact ih (s.remove d)

/-- The disk-backed store counts stores while its flag is not set. -/
def metered : Metered RedbStorage where
  window := window
  counts s := !s.skipRateLimit
  Keeps c := ¬ Restarts c
  setting
    | .background (.setSkipRateLimit flag) => some !flag
    | _ => none
  setting_of_stores := by
    intro c d now hstores
    cases c with
    | background e => cases hstores
    | _ => rfl
  counts_step := by
    intro s c hkeeps
    cases c with
    | storeDescriptor d clock =>
      change (!(s.storeDescriptorAt d clock).2.skipRateLimit) = _
      obtain ⟨windows, hwindows⟩ := s.checkStore_snd d clock
      rw [(s.storeDescriptorAt_limits d clock).2.1, hwindows]
      rfl
    | storeDescriptorAt d now =>
      change (!(s.storeDescriptorAt d now).2.skipRateLimit) = _
      obtain ⟨windows, hwindows⟩ := s.checkStore_snd d now
      rw [(s.storeDescriptorAt_limits d now).2.1, hwindows]
      rfl
    | getDescriptors => rfl
    | getDescriptorsAt => rfl
    | evictExpired clock => exact congrArg not (foldl_remove_limits (s.expired clock) s).2
    | evictExpiredAt now => exact congrArg not (foldl_remove_limits (s.expired now) s).2
    | background e =>
      cases e with
      | reopen => exact absurd rfl hkeeps
      | setSkipRateLimit flag => rfl
  charged := by
    intro s c d now hstores hvalid hcounts
    have hskip : ¬ s.skipRateLimit = true := by simpa using hcounts
    rcases s.step_cases c with ⟨d', now', hstores', hstep⟩ | ⟨_, hnone, -, -⟩ | ⟨hnone, -⟩
    · obtain ⟨rfl, rfl⟩ := Prod.mk.inj (Option.some.inj (hstores.symm.trans hstores'))
      obtain ⟨hwindows, -, herror⟩ := s.storeDescriptorAt_limits d now
      rw [hstep]
      refine ⟨fun publisher => ?_, ?_⟩
      · rw [← window_checkRateLimit, window, window, hwindows, checkStore_of_valid hvalid,
          if_neg hskip]
        split_ifs <;> rfl
      · rw [RateRefused, StorageAnswer.stored.injEq, herror, checkStore_of_valid hvalid,
          if_neg hskip]
        split_ifs with hroom
        · simp [checkSequence_ne_rateLimited, hroom]
        · simp [hroom]
    · rw [hnone] at hstores
      cases hstores
    · rw [hnone] at hstores
      cases hstores
  uncharged := by
    intro s c hkeeps h
    by_cases hnone : c.stores = none
    · refine ⟨fun publisher => ?_, not_rateRefused_of_stores hnone⟩
      have hwindows : ((storageMachine RedbStorage).step s c).2.rateTimestamps =
          s.rateTimestamps := by
        cases c with
        | storeDescriptor => cases hnone
        | storeDescriptorAt => cases hnone
        | getDescriptors => rfl
        | getDescriptorsAt => rfl
        | evictExpired clock => exact (foldl_remove_limits (s.expired clock) s).1
        | evictExpiredAt now => exact (foldl_remove_limits (s.expired now) s).1
        | background e =>
          cases e with
          | reopen => exact absurd rfl hkeeps
          | setSkipRateLimit flag => rfl
      rw [window, hwindows, window]
    · rcases s.step_cases c with ⟨d, now, hstores, hstep⟩ | ⟨_, hnone', -, -⟩ | ⟨hnone', -⟩
      · obtain ⟨hwindows, -, herror⟩ := s.storeDescriptorAt_limits d now
        have hunchecked : (s.checkStore d now).2 = s ∧
            (s.checkStore d now).1 ≠ .error (.rateLimited RATE_LIMIT_PER_MINUTE) := by
          by_cases hvalid : d.ValidAt now
          · have hskip : s.skipRateLimit = true := by simpa using h d now hstores hvalid
            rw [checkStore_of_valid hvalid, if_pos hskip]
            exact ⟨rfl, s.checkSequence_ne_rateLimited d _⟩
          · rw [checkStore]
            cases hverdict : d.validate now with
            | error e => simp
            | ok => exact absurd (Descriptor.validate_eq_ok_iff.1 hverdict) hvalid
        rw [hstep]
        refine ⟨fun publisher => ?_, ?_⟩
        · rw [window, hwindows, hunchecked.1, window]
        · rw [RateRefused, StorageAnswer.stored.injEq, herror]
          exact hunchecked.2
      · exact absurd hnone' hnone
      · exact absurd hnone' hnone

end RedbStorage

/-! ## Both backends -/

/-- Along every run of either backend at non-decreasing times, of one process in the case of the
disk-backed store, the limit is the exact sliding window over what was recorded. -/
theorem store_limit_exact [Crypto] [Ciborium] [DescriptorCodec] :
    (∀ calls : List (StorageCall DescriptorStore), TimesOrdered calls →
      DescriptorStore.metered.Exact DescriptorStore.new calls) ∧
    (∀ calls : List (StorageCall RedbStorage), (∀ c ∈ calls, ¬ RedbStorage.Restarts c) →
      TimesOrdered calls → RedbStorage.metered.Exact RedbStorage.new calls) :=
  ⟨fun _ htimes => Metered.exact_run DescriptorStore.window_new (fun _ _ => trivial) htimes,
    fun _ hkeeps htimes => Metered.exact_run RedbStorage.window_new hkeeps htimes⟩

/-- Ten stores of one descriptor at one time. -/
def tenStores (S : Type) [DescriptorStorage S] : List (StorageCall S) :=
  List.replicate 10 (.storeDescriptorAt target 1700000000000000)

/-- A store while the flag is set, and ten after it is cleared. -/
def skippedAndTen [Crypto] [DescriptorCodec] : List (StorageCall RedbStorage) :=
  [.background (.setSkipRateLimit true), .storeDescriptorAt target 1700000000000000,
    .background (.setSkipRateLimit false)] ++ tenStores RedbStorage

/-- The eleventh store of a publisher at one time is refused by either backend; a store while the
flag of the disk-backed one is set is not among the ten. -/
theorem eleventh_refused :
    letI : Crypto := cryptoOf [target]
    letI : Ciborium := referenceCiborium
    letI : DescriptorCodec := wireCodec
    RateRefused ((storageMachine DescriptorStore).step
        ((storageMachine DescriptorStore).run DescriptorStore.new (tenStores DescriptorStore))
        (.storeDescriptorAt target 1700000000000000)).1 ∧
      RateRefused ((storageMachine RedbStorage).step
        ((storageMachine RedbStorage).run RedbStorage.new skippedAndTen)
        (.storeDescriptorAt target 1700000000000000)).1 := by
  let _ : Crypto := cryptoOf [target]
  let _ : Ciborium := referenceCiborium
  let _ : DescriptorCodec := wireCodec
  obtain ⟨hmemory, hredb⟩ := store_limit_exact
  have hvalid : target.ValidAt 1700000000000000 :=
    Descriptor.validate_eq_ok_iff.1 (by decide +kernel)
  constructor
  · have hexact := hmemory (tenStores DescriptorStore ++
      [.storeDescriptorAt target 1700000000000000]) (by
        simp [TimesOrdered, StorageCall.time, tenStores, List.replicate])
    have hiff := hexact.refused_iff (tenStores DescriptorStore)
      (.storeDescriptorAt target 1700000000000000) [] target 1700000000000000 rfl rfl hvalid
        (by decide +kernel)
    convert hiff.2 (by decide +kernel)
  · have hexact := hredb (skippedAndTen ++ [.storeDescriptorAt target 1700000000000000])
      (by simp [RedbStorage.Restarts, skippedAndTen, tenStores, List.replicate]) (by
        simp [TimesOrdered, StorageCall.time, skippedAndTen, tenStores, List.replicate])
    have hiff := hexact.refused_iff skippedAndTen (.storeDescriptorAt target 1700000000000000) []
      target 1700000000000000 rfl rfl hvalid (by decide +kernel)
    convert hiff.2 (by decide +kernel)

end MeshProtocol
