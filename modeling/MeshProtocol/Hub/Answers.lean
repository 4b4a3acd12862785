import MeshProtocol.Dht.Filing
import MeshProtocol.Hub.Coherence

/-!
# One answer for each slot

Two descriptors of one slot never answer the same read.  In the disk-backed store this follows from
the dedup index alone: whatever is stored is what the index names for its slot (`Indexed`), also if
ids or slots collide.  The in-memory store files a descriptor once for each mention of a routing
key, and answers as often.
-/

namespace MeshProtocol

open Std Bytes

namespace RedbStorage

variable [DescriptorCodec] [Crypto]

/-- Every call keeps the index in step. -/
lemma Indexed.step {s : RedbStorage} (h : s.Indexed) (c : StorageCall RedbStorage) :
    ((storageMachine RedbStorage).step s c).2.Indexed := by
  rcases s.step_cases c with ⟨d, now, -, hstep⟩ | ⟨now, -, -, hstep⟩ |
    ⟨-, -, windows, flag, hstep⟩
  · rw [hstep]
    rcases s.storeDescriptorAt_cases d now with ⟨e, windows, heq, -⟩ | ⟨windows, heq, -⟩
    · rw [heq]
      exact h
    · rw [heq]
      have hwindows : ({ s with rateTimestamps := windows } : RedbStorage).Indexed := h
      exact hwindows.write d
  · rw [hstep]
    exact h.evictExpiredAt now
  · rw [hstep]
    exact h

theorem indexed_run (calls : List (StorageCall RedbStorage)) :
    ((storageMachine RedbStorage).run new calls).Indexed :=
  Machine.run_invariant (P := Indexed) indexed_new (fun _ c h => h.step c) calls

/-- The answers to a read belong to different slots. -/
lemma Indexed.nodup_read {s : RedbStorage} (h : s.Indexed) (rk : Hash) (filters : Option FilterSet)
    (t : UInt64) : ((s.getDescriptorsAt rk filters t).map dedupKey).Nodup := by
  have hrow : ∀ i d, s.descriptors[i]?.bind DescriptorCodec.fromCbor = some d →
      i = hashBytes d.id ∧ s.dedupIndex[dedupKey d]? = some i := by
    intro i d hd
    obtain ⟨b, hb, hdecoded⟩ := Option.bind_eq_some_iff.1 hd
    obtain ⟨e, hbe, hie, hslot⟩ := h i b hb
    rw [hbe, DescriptorCodec.fromCbor_toCbor, Option.some.injEq] at hdecoded
    subst hdecoded
    exact ⟨hie, hslot⟩
  -- the index gives the ids back from the slots
  refine List.Nodup.of_map (fun k => s.dedupIndex[k]?) ?_
  rw [List.map_map]
  refine List.Nodup.sublist ((List.filter_sublist).map _) ?_
  have hids := KeyOrder.PairSet.nodup_get s.byRoutingKey (hashBytes rk)
  generalize KeyOrder.PairSet.get s.byRoutingKey (hashBytes rk) = ids at hids
  rw [List.map_filterMap]
  refine hids.filterMap ?_
  intro i i' answer hi hi'
  obtain ⟨d, hd, rfl⟩ := Option.map_eq_some_iff.1 hi
  obtain ⟨d', hd', hsame⟩ := Option.map_eq_some_iff.1 hi'
  have hsame : s.dedupIndex[dedupKey d']? = s.dedupIndex[dedupKey d]? := hsame
  rw [(hrow i d hd).2, (hrow i' d' hd').2, Option.some.injEq] at hsame
  exact hsame.symm

end RedbStorage

/-! ## Both backends -/

/-- The answers to every read of the disk-backed store belong to different slots.  Those of the
in-memory store do at a time just when no descriptor that is filed, and neither revoked nor expired,
lists a routing key twice, so they do in every run that submits no such descriptor. -/
theorem one_answer_per_slot [Crypto] [Ciborium] [DescriptorCodec] :
    (∀ (calls : List (StorageCall DescriptorStore)) (t : UInt64),
      (∀ rk filters, ((((storageMachine DescriptorStore).run DescriptorStore.new
          calls).getDescriptorsAt rk filters t).map DedupKey.fromDescriptor).Nodup) ↔
        ∀ rk, ∀ d ∈ ((storageMachine DescriptorStore).run DescriptorStore.new calls).store.held rk,
          d.id ∉ ((storageMachine DescriptorStore).run DescriptorStore.new calls).revoked →
            d.expiredAt t = false → d.routingKeys.Nodup) ∧
    (∀ calls : List (StorageCall DescriptorStore),
      (∀ d ∈ submitted calls, d.routingKeys.Nodup) → ∀ rk filters t,
        ((((storageMachine DescriptorStore).run DescriptorStore.new calls).getDescriptorsAt rk
          filters t).map DedupKey.fromDescriptor).Nodup) ∧
    (∀ (calls : List (StorageCall RedbStorage)) (rk : Hash) (filters : Option FilterSet)
      (t : UInt64), ((((storageMachine RedbStorage).run RedbStorage.new calls).getDescriptorsAt rk
        filters t).map dedupKey).Nodup) := by
  refine ⟨fun calls t => ?_, fun calls hkeys rk filters t => ?_, fun calls rk filters t => ?_⟩
  · obtain ⟨slots, hcopies⟩ := DescriptorStore.copies_run calls
    exact hcopies.nodup_reads_iff t
  · obtain ⟨slots, hcopies⟩ := DescriptorStore.copies_run calls
    refine (hcopies.nodup_reads_iff t).2 (fun rk' d hd _ _ => ?_) rk filters
    exact hkeys d (DescriptorStore.held_run hd).1
  · exact (RedbStorage.indexed_run calls).nodup_read rk filters t

/-- A capability of the second publisher that lists its routing key twice. -/
def doubled : Descriptor where
  schemaHash := capabilitySchema
  topic := ""
  payload := []
  publisher := secondPublisher
  timestamp := 1700000000000000
  sequence := 1
  ttl := 3600
  routingKeys := [computeKey, computeKey]
  id := hashOf 0x850abb0cea75389a8fd244fc80f329ef55626947f384f26cbbf3b1bada993021
  signature := beBytes 64
    0x2b932daebc496570b8c45e08ea7c99dd9dc3583d78d46933b02a85cdc694537a585be0a98c468b69d8f26e28b6bbf980f832d9ada8515b729d22dfead30f7d0d

/-- A descriptor with one routing key is answered once. -/
theorem target_answered_once :
    letI : Crypto := cryptoOf [target]
    letI : Ciborium := referenceCiborium
    letI : DescriptorCodec := wireCodec
    ((((storageMachine DescriptorStore).run DescriptorStore.new
      [.storeDescriptorAt target 1700000000000000]).getDescriptorsAt computeKey none
        1700000000000000).map DedupKey.fromDescriptor).Nodup := by
  let _ : Crypto := cryptoOf [target]
  let _ : Ciborium := referenceCiborium
  let _ : DescriptorCodec := wireCodec
  refine one_answer_per_slot.2.1 _ ?_ computeKey none 1700000000000000
  intro d hd
  obtain rfl : d = target := by simpa [submitted, StorageCall.stores] using hd
  decide

/-- In the in-memory store, a descriptor that lists its routing key twice is answered twice. -/
theorem doubled_answered_twice :
    letI : Crypto := cryptoOf [doubled]
    letI : Ciborium := referenceCiborium
    ((storageMachine DescriptorStore).run DescriptorStore.new
        [.storeDescriptorAt doubled 1700000000000000]).getDescriptorsAt computeKey none
          1700000000000000 = [doubled, doubled] ∧
      ¬ ((((storageMachine DescriptorStore).run DescriptorStore.new
        [.storeDescriptorAt doubled 1700000000000000]).getDescriptorsAt computeKey none
          1700000000000000).map DedupKey.fromDescriptor).Nodup := by
  let _ : Crypto := cryptoOf [doubled]
  let _ : Ciborium := referenceCiborium
  have htwice : ((storageMachine DescriptorStore).run DescriptorStore.new
      [.storeDescriptorAt doubled 1700000000000000]).getDescriptorsAt computeKey none
        1700000000000000 = [doubled, doubled] := by decide +kernel
  refine ⟨htwice, ?_⟩
  rw [htwice]
  simp

end MeshProtocol
