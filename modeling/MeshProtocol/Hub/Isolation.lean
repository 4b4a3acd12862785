import MeshProtocol.Core.Reference
import MeshProtocol.Hub.Redb
import MeshProtocol.Library.Unwinding

/-!
# Publishers that share the disk-backed store

All publishers share the four tables and the map of rate-limit windows.  A dedup key hashes the
publisher, the schema and the topic with nothing between them, but validation lets only publishers
with a 32-byte key pass, so the keys of two publishers hash different bytes
(`publisher_eq_of_dedupKey`) and no store of one touches a slot of the other.

`publishers_isolated`: without the store calls of one publisher, every other publisher's store calls
have the same outcomes and its descriptors are read at the same routing keys.
-/

namespace MeshProtocol

open Std Bytes

namespace RedbStorage

/-! ## Slots of different publishers -/

section Crypto

variable [Crypto]

/-- The bytes whose hash is the dedup key. -/
def dedupBytes (d : Descriptor) : List UInt8 :=
  identityBytes d.publisher ++ hashBytes d.schemaHash ++ utf8Bytes d.topic

/-- BLAKE3 does not collide on the dedup keys of a set of descriptors. -/
def NoSlotCollision (S : Set Descriptor) : Prop := Set.InjOn Crypto.blake3 (Set.image dedupBytes S)

/-- Validation forces the length of a publisher's key. -/
lemma length_identityBytes {d : Descriptor} (h : d.Authentic) :
    (identityBytes d.publisher).length = 33 := by
  obtain ⟨-, hlength, -⟩ := Identity.verify_eq_ok_iff.1 h.verified
  rw [identityBytes, List.length_cons, hlength]

/-- A slot has descriptors of one publisher only. -/
lemma publisher_eq_of_dedupKey {S : Set Descriptor} (hS : NoSlotCollision S) {d e : Descriptor}
    (hd : d ∈ S) (he : e ∈ S) (hda : d.Authentic) (hea : e.Authentic)
    (hkey : dedupKey d = dedupKey e) : d.publisher = e.publisher := by
  have hbytes : dedupBytes d = dedupBytes e :=
    hS ⟨d, hd, rfl⟩ ⟨e, he, rfl⟩ (Subtype.ext hkey)
  rw [dedupBytes, dedupBytes, List.append_assoc, List.append_assoc] at hbytes
  have hlength : (identityBytes d.publisher).length = (identityBytes e.publisher).length := by
    rw [length_identityBytes hda, length_identityBytes hea]
  exact identityBytes_injective (List.append_inj hbytes hlength).1

/-! ## The rate limiter -/

/-- The outcome of the checks. -/
lemma checkStore_fst (s : RedbStorage) (d : Descriptor) (now : UInt64) :
    (s.checkStore d now).1 = match d.validate now with
      | .error e => .error (.validationFailed e.message)
      | .ok () =>
        if s.allows d.publisher now then s.checkSequence d
        else .error (.rateLimited RATE_LIMIT_PER_MINUTE) := by
  obtain ⟨windows, hwindows⟩ := s.rateLimit_snd d.publisher now
  rw [checkStore, allows]
  cases d.validate now with
  | error e => rfl
  | ok u =>
    dsimp only
    rcases hlimit : (if s.skipRateLimit then (true, s) else s.checkRateLimit d.publisher now) with
      ⟨allowed, s'⟩
    rw [hlimit] at hwindows
    have hs' : s' = { s with rateTimestamps := windows } := hwindows
    cases allowed with
    | false => rfl
    | true =>
      rw [hs']
      rfl

/-- The checks record the attempt in the window of the publisher. -/
lemma checkStore_rateTimestamps (s : RedbStorage) (d : Descriptor) (now : UInt64) :
    (s.checkStore d now).2.rateTimestamps = match d.validate now with
      | .error _ => s.rateTimestamps
      | .ok () =>
        if s.skipRateLimit then s.rateTimestamps
        else s.rateTimestamps.insert (identityBytes d.publisher)
          (checkWindow (s.rateTimestamps.getD (identityBytes d.publisher) []) now).2 := by
  rw [checkStore]
  cases d.validate now with
  | error e => rfl
  | ok u =>
    dsimp only
    by_cases hskip : s.skipRateLimit = true
    · rw [if_pos hskip, if_pos hskip]
    · rw [if_neg hskip, if_neg hskip, checkRateLimit]
      dsimp only
      cases (checkWindow (s.rateTimestamps.getD (identityBytes d.publisher) []) now).1 with
      | false => rfl
      | true => rfl

end Crypto

section Codec

variable [Crypto] [DescriptorCodec]

lemma storeDescriptorAt_fst (s : RedbStorage) (d : Descriptor) (now : UInt64) :
    (s.storeDescriptorAt d now).1 = (s.checkStore d now).1 := by
  unfold storeDescriptorAt
  split <;> simp_all

/-- Writing the tables leaves the limiter alone. -/
lemma storeDescriptorAt_limiter (s : RedbStorage) (d : Descriptor) (now : UInt64) :
    (s.storeDescriptorAt d now).2.rateTimestamps = (s.checkStore d now).2.rateTimestamps ∧
      (s.storeDescriptorAt d now).2.skipRateLimit = s.skipRateLimit := by
  obtain ⟨windows, hwindows⟩ := s.checkStore_snd d now
  have hskip : (s.checkStore d now).2.skipRateLimit = s.skipRateLimit := by rw [hwindows]
  unfold storeDescriptorAt
  rcases hcheck : s.checkStore d now with ⟨e | ⟨⟩, s'⟩
  · rw [hcheck] at hskip
    exact ⟨rfl, hskip⟩
  · rw [hcheck] at hskip
    dsimp only [insertNew, removeOld]
    split
    · exact ⟨rfl, hskip⟩
    · exact ⟨rfl, hskip⟩

lemma evictExpiredAt_limiter (s : RedbStorage) (now : UInt64) :
    (s.evictExpiredAt now).rateTimestamps = s.rateTimestamps ∧
      (s.evictExpiredAt now).skipRateLimit = s.skipRateLimit := by
  rw [evictExpiredAt]
  generalize s.expired now = ds
  induction ds generalizing s with
  | nil => exact ⟨rfl, rfl⟩
  | cons d ds ih => exact ih (s.remove d)

/-! ## Two states -/

/-- The publisher of a descriptor is the given one. -/
def publishedBy (P : Identity) (d : Descriptor) : Bool := d.publisher = P

/-- What two states share when only one of them has seen the stores of a publisher: the flag, the
windows of the others, and the slots that the publisher does not fill. -/
structure AgreeApart (P : Identity) (S : Set Descriptor) (s s' : RedbStorage) : Prop where
  flag : s.skipRateLimit = s'.skipRateLimit
  windows : ∀ k, k ≠ identityBytes P → s.rateTimestamps[k]? = s'.rateTimestamps[k]?
  slots : ∃ slots, Stocks S s slots ∧ Stocks S s' (Slots.evict (publishedBy P) slots)

namespace AgreeApart

variable {P : Identity} {S : Set Descriptor} {s s' : RedbStorage}

lemma new : AgreeApart P S new new where
  flag := rfl
  windows _ _ := rfl
  slots := ⟨fun _ => none, stocks_new S, stocks_new S⟩

lemma getD_window (h : AgreeApart P S s s') {Q : Identity} (hQ : Q ≠ P) :
    s.rateTimestamps.getD (identityBytes Q) [] = s'.rateTimestamps.getD (identityBytes Q) [] := by
  rw [ExtTreeMap.getD_eq_getD_getElem?, ExtTreeMap.getD_eq_getD_getElem?,
    h.windows _ fun heq => hQ (identityBytes_inj.1 heq)]

/-- The other publishers' store calls have one outcome in both states. -/
lemma outcome (h : AgreeApart P S s s') (hS : NoSlotCollision S) {d : Descriptor} (hd : d ∈ S)
    (hP : d.publisher ≠ P) (now : UInt64) :
    (s.storeDescriptorAt d now).1 = (s'.storeDescriptorAt d now).1 := by
  rw [storeDescriptorAt_fst, storeDescriptorAt_fst, checkStore_fst, checkStore_fst]
  cases hvalidate : d.validate now with
  | error e => rfl
  | ok u =>
    have hauthentic := (Descriptor.validate_eq_ok_iff.1 hvalidate).authentic
    have hallows : s.allows d.publisher now = s'.allows d.publisher now := by
      simp only [allows, h.flag, checkRateLimit, h.getD_window hP]
      split <;> rfl
    obtain ⟨slots, hstocks, hstocks'⟩ := h.slots
    have hslot : Slots.evict (publishedBy P) slots (dedupKey d) = slots (dedupKey d) := by
      cases hold : slots (dedupKey d) with
      | none => simp [Slots.evict, hold]
      | some e =>
        have hpublisher := publisher_eq_of_dedupKey hS (hstocks.mem hold) hd
          (hstocks.authentic hold) hauthentic (hstocks.represents.key hold)
        refine Slots.evict_eq_some_iff.2 ⟨hold, ?_⟩
        rw [publishedBy, hpublisher]
        exact decide_eq_false hP
    have hsequence : s.checkSequence d = s'.checkSequence d := by
      rw [checkSequence, checkSequence, hstocks.represents.sequences,
        hstocks'.represents.sequences, hslot]
    dsimp only
    rw [hallows, hsequence]

/-- A store call of the publisher keeps the agreement, whatever it does. -/
lemma store_of_eq (h : AgreeApart P S s s') (hids : Descriptor.NoCollision S)
    (hS : NoSlotCollision S) {d : Descriptor} (hd : d ∈ S) (hP : d.publisher = P) (now : UInt64) :
    AgreeApart P S (s.storeDescriptorAt d now).2 s' := by
  obtain ⟨hwindows, hflag⟩ := s.storeDescriptorAt_limiter d now
  refine ⟨hflag.trans h.flag, ?_, ?_⟩
  · intro k hk
    rw [hwindows, checkStore_rateTimestamps, ← h.windows k hk]
    cases d.validate now with
    | error e => rfl
    | ok u =>
      dsimp only
      by_cases hskip : s.skipRateLimit = true
      · rw [if_pos hskip]
      · rw [if_neg hskip, ExtTreeMap.getElem?_insert, if_neg]
        rw [LawfulEqCmp.compare_eq_iff_eq, hP]
        exact Ne.symm hk
  · obtain ⟨slots, hstocks, hstocks'⟩ := h.slots
    cases s.storeDescriptorAt_cases d now with
    | inl hrefused =>
      obtain ⟨e, windows, heq, -⟩ := hrefused
      rw [heq]
      exact ⟨slots, hstocks.of_windows windows s.skipRateLimit, hstocks'⟩
    | inr hwritten =>
      obtain ⟨windows, heq, hcheck⟩ := hwritten
      have hauthentic := (checkStore_ok_iff.1 hcheck).1.authentic
      rw [heq]
      refine ⟨_, (hstocks.of_windows windows s.skipRateLimit).write hids hd hauthentic, ?_⟩
      rw [Slots.evict_put_of_true (p := publishedBy P) (decide_eq_true hP)]
      · exact hstocks'
      · intro e he
        refine decide_eq_true ?_
        rw [← hP]
        exact publisher_eq_of_dedupKey hS (hstocks.mem he) hd (hstocks.authentic he) hauthentic
          (hstocks.represents.key he)

/-- A store call of another publisher, made in both states, keeps the agreement. -/
lemma store_of_ne (h : AgreeApart P S s s') (hids : Descriptor.NoCollision S)
    (hS : NoSlotCollision S) {d : Descriptor} (hd : d ∈ S) (hP : d.publisher ≠ P) (now : UInt64) :
    AgreeApart P S (s.storeDescriptorAt d now).2 (s'.storeDescriptorAt d now).2 := by
  have houtcome := h.outcome hS hd hP now
  obtain ⟨hwindows, hflag⟩ := s.storeDescriptorAt_limiter d now
  obtain ⟨hwindows', hflag'⟩ := s'.storeDescriptorAt_limiter d now
  refine ⟨by rw [hflag, hflag', h.flag], ?_, ?_⟩
  · intro k hk
    rw [hwindows, hwindows', checkStore_rateTimestamps, checkStore_rateTimestamps, ← h.flag,
      ← h.getD_window hP]
    cases d.validate now with
    | error e => exact h.windows k hk
    | ok u =>
      dsimp only
      by_cases hskip : s.skipRateLimit = true
      · rw [if_pos hskip, if_pos hskip]
        exact h.windows k hk
      · rw [if_neg hskip, if_neg hskip, ExtTreeMap.getElem?_insert, ExtTreeMap.getElem?_insert,
          h.windows k hk]
  · obtain ⟨slots, hstocks, hstocks'⟩ := h.slots
    cases s.storeDescriptorAt_cases d now with
    | inl hrefused =>
      obtain ⟨e, windows, heq, -⟩ := hrefused
      cases s'.storeDescriptorAt_cases d now with
      | inl hrefused' =>
        obtain ⟨e', windows', heq', -⟩ := hrefused'
        rw [heq, heq']
        exact ⟨slots, hstocks.of_windows windows s.skipRateLimit,
          hstocks'.of_windows windows' s'.skipRateLimit⟩
      | inr hwritten' =>
        obtain ⟨windows', heq', -⟩ := hwritten'
        rw [heq, heq'] at houtcome
        cases houtcome
    | inr hwritten =>
      obtain ⟨windows, heq, hcheck⟩ := hwritten
      cases s'.storeDescriptorAt_cases d now with
      | inl hrefused' =>
        obtain ⟨e', windows', heq', -⟩ := hrefused'
        rw [heq, heq'] at houtcome
        cases houtcome
      | inr hwritten' =>
        obtain ⟨windows', heq', -⟩ := hwritten'
        have hauthentic := (checkStore_ok_iff.1 hcheck).1.authentic
        rw [heq, heq']
        refine ⟨_, (hstocks.of_windows windows s.skipRateLimit).write hids hd hauthentic, ?_⟩
        rw [Slots.evict_put_of_false (p := publishedBy P) slots (decide_eq_false hP)]
        exact (hstocks'.of_windows windows' s'.skipRateLimit).write hids hd hauthentic

lemma evict (h : AgreeApart P S s s') (now : UInt64) :
    AgreeApart P S (s.evictExpiredAt now) (s'.evictExpiredAt now) := by
  obtain ⟨hwindows, hflag⟩ := s.evictExpiredAt_limiter now
  obtain ⟨hwindows', hflag'⟩ := s'.evictExpiredAt_limiter now
  refine ⟨by rw [hflag, hflag', h.flag], ?_, ?_⟩
  · intro k hk
    rw [hwindows, hwindows']
    exact h.windows k hk
  · obtain ⟨slots, hstocks, hstocks'⟩ := h.slots
    refine ⟨_, hstocks.evict now, ?_⟩
    rw [Slots.evict_comm]
    exact hstocks'.evict now

/-- The other publishers' descriptors are read alike. -/
lemma read_iff (h : AgreeApart P S s s') {d : Descriptor} (hP : d.publisher ≠ P) {rk : Hash}
    {filters : Option FilterSet} {t : UInt64} :
    d ∈ s.getDescriptorsAt rk filters t ↔ d ∈ s'.getDescriptorsAt rk filters t := by
  obtain ⟨slots, hstocks, hstocks'⟩ := h.slots
  have hother : publishedBy P d = false := decide_eq_false hP
  rw [hstocks.represents.mem_getDescriptorsAt, hstocks'.represents.mem_getDescriptorsAt,
    Slots.evict_eq_some_iff, and_iff_left hother]

end AgreeApart

/-! ## Two runs -/

/-- The call asks to store a descriptor of the publisher. -/
def storesFor (P : Identity) (c : StorageCall RedbStorage) : Bool :=
  c.stores.any fun p => p.1.publisher = P

/-- A run without the store calls of a publisher. -/
def without (P : Identity) (calls : List (StorageCall RedbStorage)) :
    List (StorageCall RedbStorage) :=
  Machine.purge (storesFor P) calls

/-- The outcome of a store call of the publisher. -/
def outcomeFor (Q : Identity) (entry : StorageCall RedbStorage × StorageAnswer) :
    Option StorageAnswer :=
  if storesFor Q entry.1 then some entry.2 else none

/-- The outcomes of a publisher's store calls in a run, in order. -/
def outcomes (Q : Identity) (calls : List (StorageCall RedbStorage)) : List StorageAnswer :=
  ((storageMachine RedbStorage).trace new calls).filterMap (outcomeFor Q)

/-- The agreement is kept by every call, with the store calls of the publisher hidden. -/
lemma unwinds_agreeApart {P Q : Identity} (hne : P ≠ Q) {S : Set Descriptor}
    (hids : Descriptor.NoCollision S) (hS : NoSlotCollision S) :
    (storageMachine RedbStorage).Unwinds (storesFor P) (outcomeFor Q)
      (fun c => ∀ d now, c.stores = some (d, now) → d ∈ S) (AgreeApart P S) where
  hide := by
    intro s s' c h hc hhidden
    rcases s.step_cases c with ⟨d, now, hstores, hstep⟩ | ⟨now, hstores, -⟩ | ⟨hstores, -⟩
    · have hP : d.publisher = P := by simpa [storesFor, hstores] using hhidden
      rw [hstep]
      refine ⟨?_, h.store_of_eq hids hS (hc d now hstores) hP now⟩
      simp [outcomeFor, storesFor, hstores, hP, hne]
    · simp [storesFor, hstores] at hhidden
    · simp [storesFor, hstores] at hhidden
  keep := by
    intro s s' c h hc hvisible
    cases hstores : c.stores with
    | some p =>
      obtain ⟨d, now⟩ := p
      have hP : d.publisher ≠ P := by simpa [storesFor, hstores] using hvisible
      have hd := hc d now hstores
      have hstep : ∀ r : RedbStorage, (storageMachine RedbStorage).step r c =
          (.stored (r.storeDescriptorAt d now).1, (r.storeDescriptorAt d now).2) := by
        intro r
        cases c <;> cases hstores <;> rfl
      rw [hstep, hstep, h.outcome hS hd hP now]
      exact ⟨rfl, h.store_of_ne hids hS hd hP now⟩
    | none =>
      have hunseen : ∀ a, outcomeFor Q (c, a) = none := by
        intro a
        simp [outcomeFor, storesFor, hstores]
      rw [hunseen, hunseen]
      refine ⟨rfl, ?_⟩
      cases c with
      | storeDescriptor d clock => cases hstores
      | storeDescriptorAt d now => cases hstores
      | getDescriptors rk filters clock => exact h
      | getDescriptorsAt rk filters now => exact h
      | evictExpired clock => exact h.evict clock
      | evictExpiredAt now => exact h.evict now
      | background e =>
        obtain ⟨slots, hstocks, hstocks'⟩ := h.slots
        cases e with
        | reopen =>
          exact ⟨rfl, fun _ _ => rfl, slots, hstocks.of_windows ∅ false,
            hstocks'.of_windows ∅ false⟩
        | setSkipRateLimit flag =>
          exact ⟨rfl, h.windows, slots, hstocks.of_windows s.rateTimestamps flag,
            hstocks'.of_windows s'.rateTimestamps flag⟩

/-- Deleting a publisher's store calls from a run changes neither the outcomes of another
publisher's store calls nor which of its descriptors are read, at any moment of the run. -/
theorem publishers_isolated (calls : List (StorageCall RedbStorage))
    (hids : Descriptor.NoCollision {d | d ∈ submitted calls})
    (hslots : NoSlotCollision {d | d ∈ submitted calls}) (P Q : Identity) (hne : P ≠ Q) :
    outcomes Q calls = outcomes Q (without P calls) ∧
      ∀ pre, pre <+: calls → ∀ rk filters t d, d.publisher = Q →
        (d ∈ ((storageMachine RedbStorage).run new pre).getDescriptorsAt rk filters t ↔
          d ∈ ((storageMachine RedbStorage).run new (without P pre)).getDescriptorsAt
            rk filters t) := by
  have hunwinds := unwinds_agreeApart hne hids hslots
  have hallowed : ∀ c ∈ calls, ∀ d now, c.stores = some (d, now) → d ∈ {d | d ∈ submitted calls} :=
    fun c hc d now hstores => mem_submitted.2 ⟨c, hc, now, hstores⟩
  constructor
  · exact (hunwinds.purge_run .new hallowed).2
  · intro pre hpre rk filters t d hQ
    have hagree := (hunwinds.purge_run .new fun c hc => hallowed c (hpre.subset hc)).1
    exact hagree.read_iff (hQ ▸ hne.symm)

end Codec

/-! ## A run of two publishers -/

/-- A capability of the first publisher, under the routing key of `target`. -/
def neighbour : Descriptor where
  schemaHash := capabilitySchema
  topic := ""
  payload := []
  publisher := firstPublisher
  timestamp := 1700000000000000
  sequence := 1
  ttl := 3600
  routingKeys := [computeKey]
  id := hashOf 0x7a8a532a184985b3ddfc4e8732d87b268dc79d869c25ef7c6815cda940ce440c
  signature := beBytes 64
    0xbb9d498a5af2ff6b8a7fb2ba0cf27d098f6248a7932527df59c0dd5319183f4e8a51bcf7c7e2f106899075ac251875969eca8fe56364976a71b56386bb7f4509

/-- Stores of two publishers under one routing key, with an eviction. -/
def sharedRun [Crypto] [DescriptorCodec] : List (StorageCall RedbStorage) :=
  [.storeDescriptorAt target 1700000000000000, .storeDescriptorAt neighbour 1700000000000000,
    .storeDescriptorAt target 1700000000000000, .evictExpiredAt 1700000000000000]

theorem neighbour_unaffected :
    letI : Crypto := cryptoOf [target, neighbour]
    letI : DescriptorCodec := wireCodec
    outcomes firstPublisher sharedRun =
      outcomes firstPublisher (without secondPublisher sharedRun) ∧
      outcomes firstPublisher sharedRun = [.stored (.ok ())] := by
  let _ : Crypto := cryptoOf [target, neighbour]
  let _ : DescriptorCodec := wireCodec
  have hslots : ∀ d ∈ submitted sharedRun, ∀ e ∈ submitted sharedRun,
      Crypto.blake3 (dedupBytes d) = Crypto.blake3 (dedupBytes e) →
        dedupBytes d = dedupBytes e := by
    decide +kernel
  refine ⟨(publishers_isolated sharedRun (Descriptor.noCollision_of_list (by decide +kernel)) ?_
    secondPublisher firstPublisher (by decide)).1, by decide +kernel⟩
  rintro _ ⟨d, hd, rfl⟩ _ ⟨e, he, rfl⟩ heq
  exact hslots d hd e he heq

end RedbStorage

end MeshProtocol
