import MeshProtocol.Core.Reference

/-!
# Content addressing

What the id of a descriptor commits to.  The canonical bytes are equal exactly for equal fields, so
a descriptor altered in any field no longer has the id it carries, and `validate` stops at its first
step, at every time and whatever the signature.
-/

namespace MeshProtocol

open Bytes

namespace Descriptor

lemma SameContent.canonicalBytes_eq {d e : Descriptor} (h : d.SameContent e) :
    d.canonicalBytes = e.canonicalBytes := by
  rw [canonicalBytes, h.schemaHash, h.topic, h.payload, h.publisher, h.timestamp, h.sequence, h.ttl,
    h.routingKeys, ← canonicalBytes]

lemma canonicalBytes_eq_iff {d e : Descriptor} :
    d.canonicalBytes = e.canonicalBytes ↔ d.SameContent e :=
  ⟨canonicalBytes_inj, SameContent.canonicalBytes_eq⟩

section Crypto

variable [Crypto]

/-- The content hash of a descriptor's own fields. -/
def contentId (d : Descriptor) : Hash :=
  computeId d.schemaHash d.topic d.payload d.publisher d.timestamp d.sequence d.ttl d.routingKeys

lemma contentId_eq_iff {d e : Descriptor} (hcollision : NoCollision {d, e}) :
    d.contentId = e.contentId ↔ d.SameContent e := by
  have hdigest : d.contentId = e.contentId ↔
      Crypto.blake3 d.canonicalBytes = Crypto.blake3 e.canonicalBytes := Hash.blake3_eq_iff
  rw [hdigest, ← canonicalBytes_eq_iff]
  exact hcollision.eq_iff ⟨d, by simp, rfl⟩ ⟨e, by simp, rfl⟩

/-- Step 1 of `validate`, with both ids in its error. -/
lemma validate_of_id_ne {d : Descriptor} (h : d.contentId ≠ d.id) (now : UInt64) :
    d.validate now = .error (.idMismatch d.id.toHex d.contentId.toHex) := if_pos h

/-- The canonical bytes determine the hashed fields; where BLAKE3 does not collide on the bytes of
two descriptors with different fields, their ids differ, and the second one with the id of the
first is refused. -/
theorem altered_rejected (d e : Descriptor) :
    (d.canonicalBytes = e.canonicalBytes ↔ d.SameContent e) ∧
      (NoCollision {d, e} → ¬ d.SameContent e → d.contentId ≠ e.contentId ∧
        (d.id = d.contentId → e.id = d.id → ∀ now, e.validate now =
          .error (.idMismatch e.id.toHex e.contentId.toHex))) := by
  refine ⟨canonicalBytes_eq_iff, fun hcollision haltered => ?_⟩
  have hne : d.contentId ≠ e.contentId := mt (contentId_eq_iff hcollision).1 haltered
  refine ⟨hne, fun hown hkept now => validate_of_id_ne ?_ now⟩
  rw [hkept, hown]
  exact hne.symm

end Crypto

end Descriptor

/-- `target` with a longer lifetime, as its publisher would publish it. -/
def prolonged : Descriptor where
  schemaHash := capabilitySchema
  topic := ""
  payload := []
  publisher := secondPublisher
  timestamp := 1700000000000000
  sequence := 1
  ttl := 86400
  routingKeys := [computeKey]
  id := hashOf 0x23e2aff5e1b5efeb7d3e59d1ddd4d10f4bdf0b0b26224333002cb8d450561294
  signature := beBytes 64
    0x0fe7a718c1f19a51ce81461569e7d87132649c91fa53a0c45f506f550a1d2204dedd875377b9194f1e0c9a240e9b4fa34717a95759520cf56a1b0b2dde41e406

/-- `target` with a longer lifetime, under the id and signature it had. -/
def prolongedTarget : Descriptor := { target with ttl := 86400 }

theorem prolongedTarget_rejected :
    letI := cryptoOf [target, prolonged]
    target.contentId ≠ prolongedTarget.contentId ∧
      prolongedTarget.validate 1700000000000000 = .error (.idMismatch target.id.toHex
        prolonged.id.toHex) := by
  let _ : Crypto := cryptoOf [target, prolonged]
  have hcollision : Descriptor.NoCollision {target, prolongedTarget} := by
    have h : Descriptor.NoCollision {d | d ∈ [target, prolongedTarget]} :=
      Descriptor.noCollision_of_list (by decide +kernel)
    refine h.mono fun d hd => ?_
    simpa using hd
  have haltered : ¬ target.SameContent prolongedTarget := fun h => absurd h.ttl (by decide)
  obtain ⟨hne, hrejected⟩ :=
    (Descriptor.altered_rejected target prolongedTarget).2 hcollision haltered
  have hown : target.id = target.contentId := by decide +kernel
  have hid : prolongedTarget.contentId = prolonged.id := by decide +kernel
  refine ⟨hne, ?_⟩
  rw [hrejected hown rfl, hid]
  rfl

end MeshProtocol
