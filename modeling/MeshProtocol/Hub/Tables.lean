import MeshProtocol.Core.Reference
import MeshProtocol.Hub.Redb

/-!
# The redb tables stay consistent

`RedbStorage` writes its four tables one after the other, recovers the keys of an old version by
decoding its stored bytes, and evicts in a loop.  After every call the tables are those of some
slots (`Represents`), from which follows what each table says about the others: the rows of the
multimap are the routing keys of the stored descriptors, and the dedup index and the sequences
have an entry for a slot exactly if a descriptor of it is stored.
-/

namespace MeshProtocol

open Std

namespace RedbStorage

section Tables

variable [DescriptorCodec]

/-- DESCRIPTORS has a descriptor under the id. -/
def Stored (s : RedbStorage) (id : List UInt8) (d : Descriptor) : Prop :=
  s.descriptors[id]?.bind DescriptorCodec.fromCbor = some d

variable [Crypto]

/-- The four tables agree. -/
structure TablesAgree (s : RedbStorage) : Prop where
  descriptors : ∀ id bytes, s.descriptors[id]? = some bytes →
    ∃ d, s.Stored id d ∧ hashBytes d.id = id
  byRoutingKey : ∀ rk id, (rk, id) ∈ s.byRoutingKey ↔
    ∃ d, s.Stored id d ∧ rk ∈ d.routingKeys.map hashBytes
  indexes : ∀ k id seq, s.dedupIndex[k]? = some id ∧ s.sequences[k]? = some seq ↔
    ∃ d, s.Stored id d ∧ dedupKey d = k ∧ d.sequence = seq
  /-- No entry of the dedup index dangles, -/
  dedupIndex : ∀ k id, s.dedupIndex[k]? = some id → ∃ d, s.Stored id d ∧ dedupKey d = k
  /-- and none of the sequences. -/
  sequences : ∀ k seq, s.sequences[k]? = some seq →
    ∃ id d, s.Stored id d ∧ dedupKey d = k ∧ d.sequence = seq
  /-- A slot holds at most one descriptor. -/
  slots : ∀ id id' d d', s.Stored id d → s.Stored id' d' → dedupKey d = dedupKey d' →
    id = id' ∧ d = d'

namespace Represents

variable {s : RedbStorage} {slots : List UInt8 → Option Descriptor}

/-- What is stored under an id is the descriptor of a slot with that id. -/
lemma stored_iff (h : Represents s slots) {id : List UInt8} {d : Descriptor} :
    s.Stored id d ↔ slots (dedupKey d) = some d ∧ id = hashBytes d.id := by
  constructor
  · intro hstored
    obtain ⟨bytes, hbytes, hd⟩ := Option.bind_eq_some_iff.1 hstored
    obtain ⟨k, e, he, rfl, rfl⟩ := (h.descriptors _ _).1 hbytes
    rw [DescriptorCodec.fromCbor_toCbor, Option.some.injEq] at hd
    subst hd
    rw [h.key he]
    exact ⟨he, rfl⟩
  · rintro ⟨hd, rfl⟩
    exact h.getElem?_descriptors hd

/-- Tables that represent slots agree. -/
theorem tablesAgree (h : Represents s slots) : s.TablesAgree := by
  -- a slot and what is stored for it
  have hslot : ∀ k d, slots k = some d ↔ s.Stored (hashBytes d.id) d ∧ dedupKey d = k := by
    intro k d
    constructor
    · intro hd
      exact ⟨h.getElem?_descriptors hd, h.key hd⟩
    · rintro ⟨hstored, rfl⟩
      exact (h.stored_iff.1 hstored).1
  have hid : ∀ id d, s.Stored id d → id = hashBytes d.id := fun id d hd => (h.stored_iff.1 hd).2
  refine ⟨?_, ?_, ?_, ?_, ?_, ?_⟩
  · intro id bytes hbytes
    obtain ⟨k, d, hd, rfl, -⟩ := (h.descriptors _ _).1 hbytes
    exact ⟨d, h.getElem?_descriptors hd, rfl⟩
  · intro rk id
    rw [h.rows]
    constructor
    · rintro ⟨k, d, hd, rfl, hlisted⟩
      exact ⟨d, h.getElem?_descriptors hd, hlisted⟩
    · rintro ⟨d, hstored, hlisted⟩
      obtain ⟨hd, rfl⟩ := h.stored_iff.1 hstored
      exact ⟨_, d, hd, rfl, hlisted⟩
  · intro k id seq
    rw [h.dedupIndex, h.sequences]
    constructor
    · rintro ⟨hindex, hseq⟩
      obtain ⟨d, hd, rfl⟩ := Option.map_eq_some_iff.1 hindex
      obtain ⟨e, he, rfl⟩ := Option.map_eq_some_iff.1 hseq
      rw [hd, Option.some.injEq] at he
      subst he
      obtain ⟨hstored, hkey⟩ := (hslot k d).1 hd
      exact ⟨d, hstored, hkey, rfl⟩
    · rintro ⟨d, hstored, rfl, rfl⟩
      obtain ⟨hd, rfl⟩ := h.stored_iff.1 hstored
      rw [hd]
      exact ⟨rfl, rfl⟩
  · intro k id hindex
    rw [h.dedupIndex] at hindex
    obtain ⟨d, hd, rfl⟩ := Option.map_eq_some_iff.1 hindex
    exact ⟨d, (hslot k d).1 hd⟩
  · intro k seq hseq
    rw [h.sequences] at hseq
    obtain ⟨d, hd, rfl⟩ := Option.map_eq_some_iff.1 hseq
    obtain ⟨hstored, hkey⟩ := (hslot k d).1 hd
    exact ⟨_, d, hstored, hkey, rfl⟩
  · intro id id' d d' hd hd' hkey
    obtain ⟨hslot_d, rfl⟩ := h.stored_iff.1 hd
    obtain ⟨hslot_d', rfl⟩ := h.stored_iff.1 hd'
    rw [hkey, hslot_d', Option.some.injEq] at hslot_d
    subst hslot_d
    exact ⟨rfl, rfl⟩

end Represents

/-- The tables agree in every state of a run, if BLAKE3 does not collide on the descriptors
submitted. -/
theorem tablesAgree_run {calls : List (StorageCall RedbStorage)}
    (hP : Descriptor.NoCollision {d | d ∈ submitted calls}) :
    ∀ pre, pre <+: calls → ((storageMachine RedbStorage).run new pre).TablesAgree := by
  intro pre hpre
  obtain ⟨slots, hstocks⟩ := stocks_run hP hpre
  exact hstocks.represents.tablesAgree

end Tables

/-- A run that stores a descriptor, stores it again, and evicts it. -/
theorem target_tablesAgree :
    letI : Crypto := cryptoOf [target]
    letI : DescriptorCodec := wireCodec
    ((storageMachine RedbStorage).run new
      [.storeDescriptorAt target 1700000000000000, .storeDescriptorAt target 1700000000000001,
        .evictExpiredAt 1700003600000000]).TablesAgree := by
  let _ : Crypto := cryptoOf [target]
  let _ : DescriptorCodec := wireCodec
  exact tablesAgree_run (Descriptor.noCollision_of_list (by decide +kernel)) _ List.prefix_rfl

end RedbStorage

end MeshProtocol
