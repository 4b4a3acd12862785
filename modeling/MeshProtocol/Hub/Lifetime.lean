import MeshProtocol.Core.Reference
import MeshProtocol.Dht.Revocations
import MeshProtocol.Hub.Redb

/-!
# How long an accepted descriptor is served

A descriptor may be stamped up to two minutes ahead of the node's clock.  Every expiry test takes
the earlier of the timestamp and the reader's own time for the start of the lifetime, so at the
moment of acceptance the lead counts for nothing; but the reader's time moves on to the timestamp,
and from then on the lifetime is counted from there.  The result says exactly which accepted
descriptors are gone after their lifetime, counted from acceptance.
-/

namespace MeshProtocol

open Std Bytes DescriptorStorage

/-! ## The lifetime counted from acceptance -/

/-- The descriptor's lifetime in microseconds. -/
def Descriptor.ttlMicros (d : Descriptor) : ℕ := d.ttl.toNat * 1000000

/-- From a state in which a descriptor has just been accepted at a time, no read after its lifetime
returns it, whatever is stored besides it and evicted up to then. -/
def NoBonus {S : Type} [DescriptorStorage S] (s : S) (d : Descriptor) (a : UInt64) : Prop :=
  ∀ later : List (StorageCall S), d ∉ submitted later →
    TimesOrdered (.storeDescriptorAt d a :: later) →
      ∀ (rk : Hash) (filters : Option FilterSet) (t : UInt64),
        (∀ now ∈ later.filterMap (·.time), now ≤ t) → a.toNat + d.ttlMicros ≤ t.toNat →
          d ∉ (getDescriptorsAt ((storageMachine S).run s later) rk filters t).1

/-- The timestamp is not ahead of the acceptance, or the end of the lifetime is beyond the range of
the clock, where the sum wraps around. -/
def LeadIsIdle (d : Descriptor) (a : UInt64) : Prop :=
  d.timestamp ≤ a ∨ 2 ^ 64 ≤ min d.timestamp.toNat (a.toNat + d.ttlMicros) + d.ttlMicros

lemma expiredAt_of_leadIsIdle {d : Descriptor} {a t : UInt64} (h : LeadIsIdle d a)
    (ht : a.toNat + d.ttlMicros ≤ t.toNat) : d.expiredAt t = true := by
  rw [Descriptor.expiredAt_iff]
  have hlt := t.toNat_lt
  have httl := d.ttl.toNat_lt
  unfold Descriptor.ttlMicros at ht
  rcases h with hstamp | hwraps
  · rw [UInt64.le_iff_toNat_le] at hstamp
    omega
  · unfold Descriptor.ttlMicros at hwraps
    omega

/-- Where the lead counts, the descriptor is not expired yet when its lifetime is over. -/
lemma exists_bonus {d : Descriptor} {a : UInt64} (httl : d.ttl ≠ 0) (h : ¬ LeadIsIdle d a) :
    ∃ t : UInt64, t.toNat = a.toNat + d.ttlMicros ∧ d.expiredAt t = false := by
  rw [LeadIsIdle, not_or, UInt64.le_iff_toNat_le, Nat.not_le, Nat.not_le] at h
  obtain ⟨hlead, hsum⟩ := h
  have hpos : 0 < d.ttl.toNat := by
    rw [Nat.pos_iff_ne_zero]
    exact fun h0 => httl (UInt32.toNat_inj.1 h0)
  unfold Descriptor.ttlMicros at hsum ⊢
  have hrange : a.toNat + d.ttl.toNat * 1000000 < 2 ^ 64 := by omega
  have htime : (UInt64.ofNat (a.toNat + d.ttl.toNat * 1000000)).toNat =
      a.toNat + d.ttl.toNat * 1000000 := UInt64.toNat_ofNat_of_lt' hrange
  refine ⟨_, htime, ?_⟩
  rw [← Bool.not_eq_true, Descriptor.expiredAt_iff, htime]
  omega

/-- A store from which a valid descriptor can be read until it expires drops it in time only if its
lead is idle. -/
lemma NoBonus.leadIsIdle [Crypto] {S : Type} [DescriptorStorage S] {s : S} {d : Descriptor}
    {a : UInt64} (h : NoBonus s d a) (hvalid : d.ValidAt a)
    (hread : ∀ rk ∈ d.routingKeys, ∀ t, d.expiredAt t = false →
      d ∈ (getDescriptorsAt s rk none t).1) : LeadIsIdle d a := by
  by_contra hlead
  obtain ⟨t, ht, hlive⟩ := exists_bonus hvalid.ttl_ne_zero hlead
  obtain ⟨rk, hrk⟩ := List.exists_mem_of_length_pos hvalid.inBounds.routingKeys_pos
  exact h [] List.not_mem_nil (by simp [TimesOrdered, StorageCall.time]) rk none t (by simp) ht.ge
    (hread rk hrk t hlive)

/-! ## The in-memory store -/

namespace DescriptorStore

variable [Crypto] [Ciborium]

/-- The descriptor's id is revoked, or the descriptor is a revocation of itself. -/
def Withheld (s : DescriptorStore) (d : Descriptor) : Prop :=
  d.id ∈ s.revoked ∨
    (d.schemaHash = SCHEMA_HASH_CORE_REVOCATION ∧ revocationTarget d.payload = .ok d.id)

/-- Processing that does not refuse the descriptor revokes what it names, and takes nothing else
out. -/
lemma process_withheld {s : DescriptorStore} {d : Descriptor} (hok : (s.process d).1 = .ok ()) :
    (d.id ∈ (s.process d).2.revoked ↔ s.Withheld d) ∧
      (¬ s.Withheld d → ∀ rk, d ∈ s.store.held rk → d ∈ (s.process d).2.store.held rk) := by
  unfold process at hok ⊢
  by_cases hschema : d.schemaHash = SCHEMA_HASH_CORE_REVOCATION
  · rw [if_pos hschema] at hok ⊢
    cases hresult : s.processRevocation d with
    | mk result s₁ =>
      rw [hresult] at hok
      cases result with
      | error e => cases hok
      | ok =>
        obtain ⟨id, kept, hid, rfl, hheld⟩ := processRevocation_ok hresult
        dsimp only at hok ⊢
        have hwithheld : s.Withheld d ↔ d.id ∈ s.revoked ∨ d.id = id := by
          rw [Withheld, hid, Except.ok.injEq, eq_comm (a := id)]
          exact or_congr_right (and_iff_right hschema)
        have hmem : d.id ∈ s.revoked.insert id ↔ s.Withheld d := by
          rw [hwithheld, ExtTreeSet.mem_insert, LawfulEqCmp.compare_eq_iff_eq, eq_comm (a := id)]
          exact or_comm
        have hkept : ¬ s.Withheld d → ∀ rk, d ∈ s.store.held rk → d ∈ kept.held rk := by
          intro hnot rk hd
          have hne : d.id ≠ id := fun heq => hnot (hwithheld.2 (.inr heq))
          rw [hheld]
          exact List.mem_filter.2 ⟨hd, by simpa using hne⟩
        split_ifs at hok ⊢ with hrotation
        · -- only where the two schema hashes are one
          obtain ⟨rot, -, heq⟩ := processKeyRotation_ok (Prod.ext hok rfl)
          simp only [heq]
          exact ⟨hmem, hkept⟩
        · exact ⟨hmem, hkept⟩
  · have hwithheld : s.Withheld d ↔ d.id ∈ s.revoked :=
      or_iff_left fun hrevocation => hschema hrevocation.1
    rw [if_neg hschema] at hok ⊢
    dsimp only at hok ⊢
    split_ifs at hok ⊢ with hrotation
    · obtain ⟨rot, -, heq⟩ := processKeyRotation_ok (Prod.ext hok rfl)
      simp only [heq]
      exact ⟨hwithheld.symm, fun _ _ hd => hd⟩
    · exact ⟨hwithheld.symm, fun _ _ hd => hd⟩

/-- An accepted descriptor can be read until it expires, unless it is withheld. -/
lemma accepted_iff {s : DescriptorStore} {d : Descriptor} {a : UInt64}
    (hok : (s.storeDescriptorAt d a).1 = .ok ()) :
    d.ValidAt a ∧ (d.id ∈ (s.storeDescriptorAt d a).2.revoked ↔ s.Withheld d) ∧
      (¬ s.Withheld d → ∀ rk ∈ d.routingKeys, d ∈ (s.storeDescriptorAt d a).2.store.held rk) := by
  rcases s.storeDescriptorAt_cases d a with ⟨e, windows, heq, -⟩ | ⟨windows, heq, hcheck⟩
  · rw [heq] at hok
    cases hok
  · rw [heq] at hok ⊢
    obtain ⟨hrevoked, hheld⟩ := process_withheld hok
    refine ⟨(checkStore_ok_iff.1 hcheck).1, hrevoked, fun hnot rk hrk => hheld hnot rk ?_⟩
    exact mem_held_replace.2 (.inr ⟨rfl, hrk⟩)

/-- An accepted descriptor is gone after its lifetime exactly if its lead is idle or it
is withheld. -/
lemma gone_iff {s : DescriptorStore} {d : Descriptor} {a : UInt64}
    (hok : (s.storeDescriptorAt d a).1 = .ok ()) :
    NoBonus (s.storeDescriptorAt d a).2 d a ↔ LeadIsIdle d a ∨ s.Withheld d := by
  obtain ⟨hvalid, hrevoked, hheld⟩ := accepted_iff hok
  constructor
  · intro hgone
    by_cases hwithheld : s.Withheld d
    · exact .inr hwithheld
    · refine .inl (hgone.leadIsIdle hvalid fun rk hrk t hlive => ?_)
      exact mem_getDescriptorsAt.2 ⟨hheld hwithheld rk hrk, mt hrevoked.1 hwithheld, hlive, rfl⟩
  · rintro (hlead | hwithheld) later - - rk filters t - ht hmem
    · have hlive := (mem_getDescriptorsAt.1 hmem).2.2.1
      rw [expiredAt_of_leadIsIdle hlead ht] at hlive
      cases hlive
    · exact hidden_of_revoked (hrevoked.2 hwithheld) later hmem rfl

end DescriptorStore

/-! ## The disk-backed store -/

namespace RedbStorage

variable [Crypto] [DescriptorCodec]

/-- What was just written is read at its routing keys until it expires. -/
lemma mem_getDescriptorsAt_write (s : RedbStorage) {d : Descriptor} {rk : Hash}
    (hrk : rk ∈ d.routingKeys) {t : UInt64} (ht : d.expiredAt t = false) :
    d ∈ ((s.removeOld d).insertNew d).getDescriptorsAt rk none t := by
  have hrow : (hashBytes rk, hashBytes d.id) ∈ ((s.removeOld d).insertNew d).byRoutingKey :=
    mem_enlist.2 (.inr ⟨rfl, List.mem_map_of_mem hrk⟩)
  have hget : ((s.removeOld d).insertNew d).descriptors[hashBytes d.id]? =
      some (DescriptorCodec.toCbor d) := ExtTreeMap.getElem?_insert_self
  rw [getDescriptorsAt, List.mem_filter]
  refine ⟨List.mem_filterMap.2 ⟨hashBytes d.id, KeyOrder.PairSet.mem_get.2 hrow, ?_⟩, ?_⟩
  · rw [hget, Option.bind_some, DescriptorCodec.fromCbor_toCbor]
  · rw [ht]
    rfl

/-- An accepted descriptor is gone after its lifetime exactly if its lead is idle. -/
lemma gone_iff {s : RedbStorage} {d : Descriptor} {a : UInt64}
    (hok : (s.storeDescriptorAt d a).1 = .ok ()) :
    NoBonus (s.storeDescriptorAt d a).2 d a ↔ LeadIsIdle d a := by
  rcases s.storeDescriptorAt_cases d a with ⟨e, windows, heq, -⟩ | ⟨windows, heq, hcheck⟩
  · rw [heq] at hok
    cases hok
  have hvalid := (checkStore_ok_iff.1 hcheck).1
  rw [heq]
  constructor
  · intro hgone
    exact hgone.leadIsIdle hvalid fun rk hrk t hlive => mem_getDescriptorsAt_write _ hrk hlive
  · intro hlead later _ _ rk filters t _ ht hmem
    have hlive : d ∈ _ ∧ (!d.expiredAt t && admitted filters d) = true := List.mem_filter.1 hmem
    rw [expiredAt_of_leadIsIdle hlead ht] at hlive
    exact absurd hlive.2 (by simp)

end RedbStorage

/-! ## Both backends -/

/-- In both backends, a descriptor accepted in any state is not read after its lifetime, counted
from the acceptance, exactly if its timestamp is not ahead of it; the in-memory store also keeps
back what is revoked. -/
theorem noBonus_iff [Crypto] [Ciborium] [DescriptorCodec] :
    (∀ (s : DescriptorStore) (d : Descriptor) (a : UInt64),
      (s.storeDescriptorAt d a).1 = .ok () →
        (NoBonus (s.storeDescriptorAt d a).2 d a ↔ LeadIsIdle d a ∨ s.Withheld d)) ∧
    ∀ (s : RedbStorage) (d : Descriptor) (a : UInt64),
      (s.storeDescriptorAt d a).1 = .ok () →
        (NoBonus (s.storeDescriptorAt d a).2 d a ↔ LeadIsIdle d a) :=
  ⟨fun _ _ _ => DescriptorStore.gone_iff, fun _ _ _ => RedbStorage.gone_iff⟩

/-- A descriptor stamped with the time it is accepted at is gone after its lifetime. -/
theorem target_gone :
    letI : Crypto := cryptoOf [target]
    letI : Ciborium := referenceCiborium
    letI : DescriptorCodec := wireCodec
    NoBonus (DescriptorStore.new.storeDescriptorAt target 1700000000000000).2 target
        1700000000000000 ∧
      NoBonus (RedbStorage.new.storeDescriptorAt target 1700000000000000).2 target
        1700000000000000 := by
  let _ : Crypto := cryptoOf [target]
  let _ : Ciborium := referenceCiborium
  let _ : DescriptorCodec := wireCodec
  have hlead : LeadIsIdle target 1700000000000000 := .inl (by decide)
  exact ⟨(noBonus_iff.1 _ _ _ (by decide +kernel)).2 (.inl hlead),
    (noBonus_iff.2 _ _ _ (by decide +kernel)).2 hlead⟩

/-- A version of `target` stamped two minutes ahead. -/
def stampedAhead : Descriptor where
  schemaHash := capabilitySchema
  topic := ""
  payload := []
  publisher := secondPublisher
  timestamp := 1700000120000000
  sequence := 1
  ttl := 3600
  routingKeys := [computeKey]
  id := hashOf 0xf8c38a7e4cf90212e71af491376cd5d19183712314a43835f13ca3934de20e46
  signature := beBytes 64
    0xe9ceab8e9bf2f3035939102c9dc40984d3eee751b321f234f969d9f8c09542ebf2060f544240e5d8321b914c70e278e566b871ba8b1499e737b2eb3429fa6901

/-- It is accepted, and both backends still return it when its lifetime is over. -/
theorem stampedAhead_served :
    letI : Crypto := cryptoOf [stampedAhead]
    letI : Ciborium := referenceCiborium
    letI : DescriptorCodec := wireCodec
    ((DescriptorStore.new.storeDescriptorAt stampedAhead 1700000000000000).1 = .ok () ∧
      ¬ NoBonus (DescriptorStore.new.storeDescriptorAt stampedAhead 1700000000000000).2 stampedAhead
        1700000000000000) ∧
    (RedbStorage.new.storeDescriptorAt stampedAhead 1700000000000000).1 = .ok () ∧
      ¬ NoBonus (RedbStorage.new.storeDescriptorAt stampedAhead 1700000000000000).2 stampedAhead
        1700000000000000 := by
  let _ : Crypto := cryptoOf [stampedAhead]
  let _ : Ciborium := referenceCiborium
  let _ : DescriptorCodec := wireCodec
  refine ⟨⟨by decide +kernel, fun hgone => ?_⟩, by decide +kernel, fun hgone => ?_⟩
  · exact hgone [] List.not_mem_nil (by simp [TimesOrdered, StorageCall.time]) computeKey none
      1700003600000000 (by simp) (by decide) (by decide +kernel)
  · exact hgone [] List.not_mem_nil (by simp [TimesOrdered, StorageCall.time]) computeKey none
      1700003600000000 (by simp) (by decide) (by decide +kernel)

end MeshProtocol
