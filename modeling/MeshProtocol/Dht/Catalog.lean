import MeshProtocol.Dht.DescriptorStore
import MeshProtocol.Dht.SlotView

/-!
# The in-memory store as slots

On descriptors that are neither revocations nor key rotations, the vectors of `DescriptorStore`
hold exactly one copy of each slot's descriptor for each mention of the routing key.
-/

namespace MeshProtocol

open Std

namespace DescriptorStore

/-- A descriptor that the in-memory store only stores: no revocation and no key rotation. -/
structure Plain [Crypto] (d : Descriptor) : Prop where
  notRevocation : d.schemaHash ≠ SCHEMA_HASH_CORE_REVOCATION
  notKeyRotation : d.schemaHash ≠ SCHEMA_HASH_CORE_KEY_ROTATION

/-- The routing-key map files the slots' descriptors, and nothing is revoked. -/
structure Files (s : DescriptorStore) (slots : DedupKey → Option Descriptor) : Prop where
  held : ∀ rk d, d ∈ s.store.held rk ↔
    slots (DedupKey.fromDescriptor d) = some d ∧ rk ∈ d.routingKeys
  revoked : ∀ id, id ∉ s.revoked

lemma files_new : Files new fun _ => none where
  held := by simp [new]
  revoked := by simp [new]

/-- The replacement of a slot's descriptor is a write to the slot. -/
lemma Files.replace {s : DescriptorStore} {slots : DedupKey → Option Descriptor}
    (h : Files s slots) (d : Descriptor) :
    Files (s.replace d) (Slots.put DedupKey.fromDescriptor slots d) where
  held rk e := by
    rw [mem_held_replace, h.held, Slots.put_eq_some_iff]
    constructor
    · rintro (⟨⟨hslot, hrk⟩, hne⟩ | ⟨rfl, hrk⟩)
      · exact ⟨.inr ⟨Ne.symm hne, hslot⟩, hrk⟩
      · exact ⟨.inl ⟨rfl, rfl⟩, hrk⟩
    · rintro ⟨⟨-, rfl⟩ | ⟨hne, hslot⟩, hrk⟩
      · exact .inr ⟨rfl, hrk⟩
      · exact .inl ⟨⟨hslot, hrk⟩, Ne.symm hne⟩
  revoked := h.revoked

lemma Files.evict {s : DescriptorStore} {slots : DedupKey → Option Descriptor}
    (h : Files s slots) (now : UInt64) :
    Files (s.evictExpiredAt now) (Slots.evict (·.expiredAt now) slots) where
  held rk d := by
    rw [mem_held_evictExpiredAt, h.held, Slots.evict_eq_some_iff]
    tauto
  revoked := h.revoked

variable [Crypto] [Ciborium]

/-- The in-memory store as slots, for descriptors without special processing. -/
def slotView : SlotView DescriptorStore DedupKey {d | Plain d} where
  key := DedupKey.fromDescriptor
  Represents := Files
  step s slots c h hplain := by
    rcases s.step_cases c with ⟨d, now, hstores, hstep⟩ | ⟨now, hstores, htime, hstep⟩ |
      ⟨hstores, hstep⟩
    · rcases s.storeDescriptorAt_cases d now with ⟨e, windows, heq, -⟩ | ⟨windows, heq, hcheck⟩
      · refine ⟨slots, .idle ?_, ?_⟩
        · simp [acceptedBy, hstep, heq]
        · rw [hstep, heq]
          exact ⟨h.held, h.revoked⟩
      · have hp := hplain d now hstores
        rw [process_of_plain hp.notRevocation hp.notKeyRotation] at heq
        have hfiles : Files { s with rateLimiter := windows } slots := ⟨h.held, h.revoked⟩
        refine ⟨_, .stored hstores ?_ (checkStore_ok_iff.1 hcheck).1, ?_⟩
        · rw [hstep, heq]
        · rw [hstep, heq]
          exact hfiles.replace d
    · refine ⟨_, .evicted hstores htime, ?_⟩
      rw [hstep]
      exact h.evict now
    · refine ⟨slots, .idle ?_, ?_⟩
      · simp [acceptedBy, hstores]
      · rw [hstep]
        exact h
  read s slots h rk filters t d := by
    have hread : d ∈ (DescriptorStorage.getDescriptorsAt s rk filters t).1 ↔
        d ∈ s.getDescriptorsAt rk filters t := Iff.rfl
    rw [hread, mem_getDescriptorsAt, h.held]
    have hrevoked := h.revoked d.id
    tauto

end DescriptorStore

end MeshProtocol
