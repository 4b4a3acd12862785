import MeshProtocol.Core.Reference
import MeshProtocol.Dht.DescriptorStore
import MeshProtocol.Hub.Redb

/-!
# What the disk-backed store remembers

Two rules of the protocol are about what a store must remember: a slot's highest sequence, also
after the descriptor that had it is gone, and the ids that were revoked.  `RedbStorage` keeps the
first only as long as the descriptor, because eviction deletes the watermark row with the rest, and
it does not keep the second at all.  The results say exactly on which runs the rules hold
nevertheless.
-/

namespace MeshProtocol

open Std Bytes

namespace RedbStorage

/-! ## Watermarks -/

section Watermarks

variable [Crypto] [DescriptorCodec]

/-- No accepted descriptor is older than one accepted before it for the same slot. -/
def NoReplay (calls : List (StorageCall RedbStorage)) : Prop :=
  (accepted new calls).Pairwise fun d e => dedupKey d = dedupKey e → d.sequence ≤ e.sequence

/-- A descriptor that passes validation and the rate limit, while its slot has no watermark though a
newer version was accepted before. -/
structure Forgotten (pre : List (StorageCall RedbStorage)) (e : Descriptor) (now : UInt64) :
    Prop where
  valid : e.ValidAt now
  allowed : ((storageMachine RedbStorage).run new pre).allows e.publisher now = true
  unmarked : ((storageMachine RedbStorage).run new pre).sequences[dedupKey e]? = none
  superseded : ∃ d ∈ accepted new pre, dedupKey d = dedupKey e ∧ e.sequence < d.sequence

/-- No store of the run meets a forgotten watermark. -/
def NeverForgotten (calls : List (StorageCall RedbStorage)) : Prop :=
  ∀ pre c, pre ++ [c] <+: calls → ∀ e now, c.stores = some (e, now) → ¬ Forgotten pre e now

lemma getElem?_sequences_evictExpiredAt {s : RedbStorage} {now : UInt64} {k : List UInt8}
    {seq : UInt64} (h : (s.evictExpiredAt now).sequences[k]? = some seq) :
    s.sequences[k]? = some seq := by
  refine evictExpiredAt_reflects (P := fun s => s.sequences[k]? = some seq) ?_ h
  intro s d hrest
  rw [remove, ExtTreeMap.getElem?_erase] at hrest
  split_ifs at hrest
  exact hrest

/-- A store call is accepted exactly when the checks pass. -/
lemma acceptedBy_step {s : RedbStorage} {c : StorageCall RedbStorage} {d : Descriptor}
    {now : UInt64} (hstores : c.stores = some (d, now)) (e : Descriptor) :
    acceptedBy (c, ((storageMachine RedbStorage).step s c).1) = some e ↔
      e = d ∧ (s.checkStore d now).1 = .ok () := by
  rcases s.step_cases c with ⟨d', now', hstores', hstep⟩ | ⟨now', hnone, -⟩ | ⟨hnone, -⟩
  · obtain ⟨rfl, rfl⟩ := Prod.mk.inj (Option.some.inj (hstores'.symm.trans hstores))
    rcases s.storeDescriptorAt_cases d' now' with
      ⟨err, windows, heq, hcheck⟩ | ⟨windows, heq, hcheck⟩
    · simp [acceptedBy, hstep, heq, hcheck]
    · simp [acceptedBy, hstep, heq, hcheck, hstores, eq_comm]
  · rw [hstores] at hnone
    cases hnone
  · rw [hstores] at hnone
    cases hnone

/-- A watermark, as long as it is there, is the sequence of the last accepted descriptor. -/
theorem sequences_run {calls : List (StorageCall RedbStorage)} {k : List UInt8} {seq : UInt64}
    (h : ((storageMachine RedbStorage).run new calls).sequences[k]? = some seq) :
    ∃ d, Slots.latest dedupKey (accepted new calls) k = some d ∧ d.sequence = seq := by
  induction calls using List.reverseRecOn with
  | nil => simp [new] at h
  | append_singleton calls c ih =>
    rw [Machine.run_concat] at h
    rw [accepted_concat]
    rcases step_cases ((storageMachine RedbStorage).run new calls) c with
      ⟨d, now, hstores, hstep⟩ | ⟨now, hnone, -, hstep⟩ | ⟨hnone, -, windows, flag, hstep⟩
    · rcases storeDescriptorAt_cases ((storageMachine RedbStorage).run new calls) d now with
        ⟨err, windows, heq, -⟩ | ⟨windows, heq, -⟩
      · have hrejected : acceptedBy (c, ((storageMachine RedbStorage).step
            ((storageMachine RedbStorage).run new calls) c).1) = none := by
          simp [acceptedBy, hstep, heq]
        rw [hrejected, Option.toList_none, List.append_nil]
        rw [hstep, heq] at h
        exact ih h
      · have haccepted : acceptedBy (c, ((storageMachine RedbStorage).step
            ((storageMachine RedbStorage).run new calls) c).1) = some d := by
          simp [acceptedBy, hstep, heq, hstores]
        rw [haccepted, Option.toList_some, Slots.latest_concat]
        rw [hstep, heq, sequences_write, ExtTreeMap.getElem?_insert] at h
        by_cases hk : dedupKey d = k
        · rw [if_pos hk]
          rw [hk, if_pos compare_self, Option.some.injEq] at h
          exact ⟨d, rfl, h⟩
        · rw [if_neg hk]
          rw [if_neg fun hcmp => hk (LawfulEqCmp.eq_of_compare hcmp)] at h
          exact ih h
    · rw [hstep] at h
      simp only [acceptedBy, hnone, Option.map_none, ite_self, Option.toList_none,
        List.append_nil]
      exact ih (getElem?_sequences_evictExpiredAt h)
    · rw [hstep] at h
      simp only [acceptedBy, hnone, Option.map_none, ite_self, Option.toList_none,
        List.append_nil]
      exact ih h

/-- After a run without replays, the next accepted descriptor is no replay exactly when it does not
meet a forgotten watermark. -/
lemma noReplay_step {calls : List (StorageCall RedbStorage)} (h : NoReplay calls)
    (c : StorageCall RedbStorage) :
    (∀ e, acceptedBy (c, ((storageMachine RedbStorage).step
        ((storageMachine RedbStorage).run new calls) c).1) = some e →
      ∀ d ∈ accepted new calls, dedupKey d = dedupKey e → d.sequence ≤ e.sequence) ↔
    ∀ e now, c.stores = some (e, now) → ¬ Forgotten calls e now := by
  constructor
  · intro hnext e now hstores hforgotten
    obtain ⟨d, hd, hkey, hlt⟩ := hforgotten.superseded
    have hpasses := checkStore_ok_iff.2 ⟨hforgotten.valid, hforgotten.allowed, by
      simp [hforgotten.unmarked]⟩
    have hle := hnext e ((acceptedBy_step hstores e).2 ⟨rfl, hpasses⟩) d hd hkey
    exact absurd hlt (UInt64.not_lt.2 hle)
  · intro hnever e hacc d hd hkey
    have hstores : ∃ now, c.stores = some (e, now) := by
      unfold acceptedBy at hacc
      split_ifs at hacc
      obtain ⟨⟨e', now⟩, hstores, rfl⟩ := Option.map_eq_some_iff.1 hacc
      exact ⟨now, hstores⟩
    obtain ⟨now, hstores⟩ := hstores
    obtain ⟨hvalid, hallowed, hmark⟩ :=
      checkStore_ok_iff.1 ((acceptedBy_step hstores e).1 hacc).2
    by_contra hlt
    rcases hseq : ((storageMachine RedbStorage).run new calls).sequences[dedupKey e]? with _ | seq
    · exact hnever e now hstores ⟨hvalid, hallowed, hseq, d, hd, hkey, UInt64.not_le.1 hlt⟩
    · -- the watermark is the last accepted sequence, and the run so far only went up
      obtain ⟨last, hlast, rfl⟩ := sequences_run hseq
      rw [← hkey] at hlast
      have hle : d.sequence ≤ last.sequence := by
        rcases Slots.eq_or_rel_latest h hd hlast with rfl | hrel
        · exact UInt64.le_refl _
        · exact hrel (Slots.key_of_latest hlast).symm
      exact hlt (UInt64.le_trans hle (hmark _ hseq))

/-- A run accepts no replay exactly when no store of it meets a forgotten watermark. -/
theorem noReplay_iff_neverForgotten (calls : List (StorageCall RedbStorage)) :
    NoReplay calls ↔ NeverForgotten calls := by
  induction calls using List.reverseRecOn with
  | nil => simp [NoReplay, NeverForgotten, accepted]
  | append_singleton calls c ih =>
    have hnever : NeverForgotten (calls ++ [c]) ↔ NeverForgotten calls ∧
        ∀ e now, c.stores = some (e, now) → ¬ Forgotten calls e now := by
      constructor
      · intro h
        refine ⟨fun pre c' hpre => h pre c' (hpre.trans (List.prefix_append calls [c])), ?_⟩
        exact h calls c List.prefix_rfl
      · rintro ⟨hcalls, hlast⟩ pre c' hpre
        rcases List.prefix_concat_iff.1 hpre with heq | hpre
        · obtain ⟨rfl, hc⟩ := List.append_inj' heq rfl
          obtain rfl := List.singleton_inj.1 hc
          exact hlast
        · exact hcalls pre c' hpre
    have hreplay : NoReplay (calls ++ [c]) ↔ NoReplay calls ∧
        ∀ e, acceptedBy (c, ((storageMachine RedbStorage).step
            ((storageMachine RedbStorage).run new calls) c).1) = some e →
          ∀ d ∈ accepted new calls, dedupKey d = dedupKey e → d.sequence ≤ e.sequence := by
      rw [NoReplay, accepted_concat, List.pairwise_append]
      constructor
      · rintro ⟨hcalls, -, hnext⟩
        exact ⟨hcalls, fun e he d hd => hnext d hd e (by simp [he])⟩
      · rintro ⟨hcalls, hnext⟩
        refine ⟨hcalls, ?_, fun d hd e he => hnext e (by simpa using he) d hd⟩
        cases acceptedBy (c, ((storageMachine RedbStorage).step
          ((storageMachine RedbStorage).run new calls) c).1) <;> simp
    rw [hnever, hreplay, ← ih]
    exact and_congr_right fun h => noReplay_step h c

end Watermarks

/-- The next version of `target`, which lives a minute. -/
def shortLived : Descriptor where
  schemaHash := capabilitySchema
  topic := ""
  payload := []
  publisher := secondPublisher
  timestamp := 1700000000000000
  sequence := 2
  ttl := 60
  routingKeys := [computeKey]
  id := hashOf 0x81ff9d900f94a3d64075aa3bd7abc4cc6c44706451c4adcb6c67879857078cd1
  signature := beBytes 64
    0xe2ddfe77fd48ed725f99f6456e9864753807859a8de04a45e892127ebd7bea7944b316de5b119f3cdb81f1d58e3443e36431ba1e858ddea7dd5ea1e199e6ab09

/-- The older, longer-lived version is accepted again once the newer one has been evicted. -/
theorem shortLived_forgotten :
    letI : Crypto := cryptoOf [target, shortLived]
    letI : DescriptorCodec := wireCodec
    ∃ calls : List (StorageCall RedbStorage), TimesOrdered calls ∧ ¬ NoReplay calls := by
  let _ : Crypto := cryptoOf [target, shortLived]
  let _ : DescriptorCodec := wireCodec
  refine ⟨[.storeDescriptorAt shortLived 1700000000000000, .evictExpiredAt 1700000060000000,
    .storeDescriptorAt target 1700000060000000], ?_, ?_⟩
  · simp [TimesOrdered, StorageCall.time]
  · have haccepted : accepted new [.storeDescriptorAt shortLived 1700000000000000,
        .evictExpiredAt 1700000060000000, .storeDescriptorAt target 1700000060000000] =
          [shortLived, target] := by decide +kernel
    rw [NoReplay, haccepted]
    decide +kernel

/-! ## Revocations -/

section Revocations

variable [Crypto] [DescriptorCodec]

lemma Represents.descriptors_iff {s : RedbStorage} {slots : List UInt8 → Option Descriptor}
    (h : Represents s slots) {d : Descriptor} :
    s.descriptors[hashBytes d.id]? = some (DescriptorCodec.toCbor d) ↔
      slots (dedupKey d) = some d := by
  rw [h.descriptors]
  constructor
  · rintro ⟨k, e, he, -, hcbor⟩
    obtain rfl := toCbor_injective hcbor
    rwa [h.key he]
  · intro hd
    exact ⟨_, d, hd, rfl, rfl⟩

/-- A call answers with a list that has the descriptor. -/
def Shows (s : RedbStorage) (c : StorageCall RedbStorage) (d : Descriptor) : Prop :=
  ∃ ds, ((storageMachine RedbStorage).step s c).1 = .found ds ∧ d ∈ ds

/-- DESCRIPTORS holds the descriptor, and the read asks for it. -/
structure Asked (s : RedbStorage) (c : StorageCall RedbStorage) (d : Descriptor) (rk : Hash)
    (filters : Option FilterSet) (t : UInt64) : Prop where
  reads : c.reads = some (rk, filters, t)
  stored : s.descriptors[hashBytes d.id]? = some (DescriptorCodec.toCbor d)
  listed : rk ∈ d.routingKeys
  fresh : d.expiredAt t = false
  admitted : admitted filters d = true

/-- A read shows a descriptor exactly when it is stored and asked for. -/
lemma Represents.shows_iff {s : RedbStorage} {slots : List UInt8 → Option Descriptor}
    (h : Represents s slots) {c : StorageCall RedbStorage} {d : Descriptor} :
    Shows s c d ↔ ∃ rk filters t, Asked s c d rk filters t := by
  have hanswer : ∀ {rk filters t}, c.reads = some (rk, filters, t) →
      ((storageMachine RedbStorage).step s c).1 = .found (s.getDescriptorsAt rk filters t) := by
    intro rk filters t hreads
    cases c <;> simp_all [StorageCall.reads] <;> rfl
  have hreads : ∀ {ds}, ((storageMachine RedbStorage).step s c).1 = .found ds →
      ∃ rk filters t, c.reads = some (rk, filters, t) := by
    intro ds hfound
    cases c with
    | getDescriptors rk filters clock => exact ⟨rk, filters, clock, rfl⟩
    | getDescriptorsAt rk filters now => exact ⟨rk, filters, now, rfl⟩
    | storeDescriptor d clock => cases hfound
    | storeDescriptorAt d now => cases hfound
    | evictExpired clock => cases hfound
    | evictExpiredAt now => cases hfound
    | background e => cases hfound
  constructor
  · rintro ⟨ds, hfound, hd⟩
    obtain ⟨rk, filters, t, hread⟩ := hreads hfound
    rw [hanswer hread] at hfound
    cases hfound
    obtain ⟨hslot, hlisted, hfresh, hadmitted⟩ := h.mem_getDescriptorsAt.1 hd
    exact ⟨rk, filters, t, hread, h.descriptors_iff.2 hslot, hlisted, hfresh, hadmitted⟩
  · rintro ⟨rk, filters, t, hask⟩
    refine ⟨_, hanswer hask.reads, h.mem_getDescriptorsAt.2 ?_⟩
    exact ⟨h.descriptors_iff.1 hask.stored, hask.listed, hask.fresh, hask.admitted⟩

variable [Ciborium]

/-- The run accepted a revocation of the descriptor from its publisher. -/
def Revoked (calls : List (StorageCall RedbStorage)) (target : Descriptor) : Prop :=
  ∃ r ∈ accepted new calls, r.schemaHash = SCHEMA_HASH_CORE_REVOCATION ∧
    revocationTarget r.payload = .ok target.id ∧ r.publisher = target.publisher

/-- No read shows a descriptor whose revocation was accepted before. -/
def EnforcesRevocations (calls : List (StorageCall RedbStorage)) : Prop :=
  ∀ pre c, pre ++ [c] <+: calls → ∀ target, Revoked pre target →
    ¬ Shows ((storageMachine RedbStorage).run new pre) c target

/-- No read asks for a descriptor that is stored though its revocation was accepted before. -/
def RevokedNotAsked (calls : List (StorageCall RedbStorage)) : Prop :=
  ∀ pre c, pre ++ [c] <+: calls → ∀ target, Revoked pre target →
    ∀ rk filters t, ¬ Asked ((storageMachine RedbStorage).run new pre) c target rk filters t

/-- A run enforces the revocations it accepted exactly when no later read asks for a revoked
descriptor that is still, or again, stored: the store itself does nothing to enforce them. -/
theorem enforcesRevocations_iff {calls : List (StorageCall RedbStorage)}
    (hnc : Descriptor.NoCollision {d | d ∈ submitted calls}) :
    EnforcesRevocations calls ↔ RevokedNotAsked calls := by
  have hshows : ∀ pre c, pre ++ [c] <+: calls → ∀ target,
      Shows ((storageMachine RedbStorage).run new pre) c target ↔
        ∃ rk filters t, Asked ((storageMachine RedbStorage).run new pre) c target rk filters t := by
    intro pre c hpre target
    have hsub := submitted_mono ((List.prefix_append pre [c]).trans hpre)
    obtain ⟨slots, hstocks, -⟩ :=
      (slotView hnc).represents_run (stocks_new _) (fun d hd => hsub hd)
    exact hstocks.represents.shows_iff
  constructor
  · intro henforces pre c hpre target hrevoked rk filters t hasked
    exact henforces pre c hpre target hrevoked
      ((hshows pre c hpre target).2 ⟨rk, filters, t, hasked⟩)
  · intro hnot pre c hpre target hrevoked hshown
    obtain ⟨rk, filters, t, hasked⟩ := (hshows pre c hpre target).1 hshown
    exact hnot pre c hpre target hrevoked rk filters t hasked

end Revocations

/-- A run that accepts a revocation and never stores its target enforces it. -/
theorem absent_target_enforced :
    letI : Crypto := cryptoOf [target, ownRevocation]
    letI : Ciborium := referenceCiborium
    letI : DescriptorCodec := wireCodec
    EnforcesRevocations [.storeDescriptorAt ownRevocation 1700000000000000,
      .getDescriptorsAt computeKey none 1700000000000000] := by
  let _ : Crypto := cryptoOf [target, ownRevocation]
  let _ : Ciborium := referenceCiborium
  let _ : DescriptorCodec := wireCodec
  refine (enforcesRevocations_iff (Descriptor.noCollision_of_list (by decide +kernel))).2 ?_
  intro pre c hpre d hrevoked rk filters t hasked
  have hid : d.id = target.id := by
    obtain ⟨r, hr, -, hnames, -⟩ := hrevoked
    have hmem := submitted_mono ((List.prefix_append pre [c]).trans hpre)
      (accepted_subset_submitted new pre hr)
    obtain rfl : r = ownRevocation := by simpa [submitted, StorageCall.stores] using hmem
    have hpayload : revocationTarget ownRevocation.payload = .ok target.id := by decide +kernel
    rw [hpayload, Except.ok.injEq] at hnames
    exact hnames.symm
  have hstored := hasked.stored
  rw [hid] at hstored
  have hprefixes : ∀ pre' ∈ List.inits [StorageCall.storeDescriptorAt (S := RedbStorage)
        ownRevocation 1700000000000000, .getDescriptorsAt computeKey none 1700000000000000],
      ((storageMachine RedbStorage).run new pre').descriptors[hashBytes target.id]? = none := by
    decide +kernel
  rw [hprefixes pre ((List.mem_inits _ _).2 ((List.prefix_append pre [c]).trans hpre))] at hstored
  cases hstored

/-- A descriptor is served after its own publisher's revocation of it was accepted. -/
theorem ownRevocation_ignored :
    letI : Crypto := cryptoOf [target, ownRevocation]
    letI : Ciborium := referenceCiborium
    letI : DescriptorCodec := wireCodec
    ∃ calls : List (StorageCall RedbStorage), ¬ EnforcesRevocations calls := by
  let _ : Crypto := cryptoOf [target, ownRevocation]
  let _ : Ciborium := referenceCiborium
  let _ : DescriptorCodec := wireCodec
  refine ⟨[.storeDescriptorAt target 1700000000000000,
    .storeDescriptorAt ownRevocation 1700000000000000,
    .getDescriptorsAt computeKey none 1700000000000000], ?_⟩
  intro henforces
  refine henforces [.storeDescriptorAt target 1700000000000000,
    .storeDescriptorAt ownRevocation 1700000000000000]
    (.getDescriptorsAt computeKey none 1700000000000000) List.prefix_rfl target ?_ ?_
  · unfold Revoked
    decide +kernel
  · refine ⟨_, rfl, ?_⟩
    decide +kernel

end RedbStorage

end MeshProtocol
