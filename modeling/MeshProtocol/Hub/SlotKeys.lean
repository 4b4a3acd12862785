import MeshProtocol.Hub.Answers

/-!
# What the two stores take for a slot

The in-memory store compares publisher, schema and topic.  The disk-backed store hashes their bytes,
one after the other: a valid publisher has 33 of them, but nothing marks where the digest of the
schema ends and the topic begins, and `validate` leaves the length of that digest free.  So the two
stores agree on descriptors whose digests have one length, and a digest that is continued by the
topic takes the slot of another schema.
-/

namespace MeshProtocol

open Bytes

/-- The bytes that the disk-backed store hashes for a slot. -/
def slotInput (d : Descriptor) : List UInt8 :=
  identityBytes d.publisher ++ hashBytes d.schemaHash ++ utf8Bytes d.topic

/-- One publisher's schema and topic have the same bytes, divided at another place. -/
structure DividedElsewhere (d e : Descriptor) : Prop where
  publisher : d.publisher = e.publisher
  bytes : hashBytes d.schemaHash ++ utf8Bytes d.topic = hashBytes e.schemaHash ++ utf8Bytes e.topic
  length_ne : d.schemaHash.digest.length ≠ e.schemaHash.digest.length

/-- Publishers with keys of one length can be told apart in the bytes of a slot. -/
lemma slotInput_eq_iff {d e : Descriptor}
    (hlen : d.publisher.publicKey.length = e.publisher.publicKey.length) :
    slotInput d = slotInput e ↔ d.publisher = e.publisher ∧
      hashBytes d.schemaHash ++ utf8Bytes d.topic =
        hashBytes e.schemaHash ++ utf8Bytes e.topic := by
  rw [slotInput, slotInput, List.append_assoc, List.append_assoc]
  constructor
  · intro h
    have hbytes : (identityBytes d.publisher).length = (identityBytes e.publisher).length := by
      simp [identityBytes, hlen]
    obtain ⟨hpublisher, hrest⟩ := List.append_inj h hbytes
    exact ⟨identityBytes_inj.1 hpublisher, hrest⟩
  · rintro ⟨hpublisher, hrest⟩
    rw [hpublisher, hrest]

/-- Schema and topic can be told apart in their bytes if the digests have one length. -/
lemma fromDescriptor_eq_iff {d e : Descriptor} :
    DedupKey.fromDescriptor d = DedupKey.fromDescriptor e ↔ d.publisher = e.publisher ∧
      hashBytes d.schemaHash ++ utf8Bytes d.topic = hashBytes e.schemaHash ++ utf8Bytes e.topic ∧
      d.schemaHash.digest.length = e.schemaHash.digest.length := by
  rw [DedupKey.fromDescriptor, DedupKey.fromDescriptor, DedupKey.mk.injEq]
  constructor
  · rintro ⟨hpublisher, hschema, htopic⟩
    rw [hpublisher, hschema, htopic]
    exact ⟨rfl, rfl, rfl⟩
  · rintro ⟨hpublisher, hbytes, hlen⟩
    have hschema : (hashBytes d.schemaHash).length = (hashBytes e.schemaHash).length := by
      simp [hashBytes, hlen]
    obtain ⟨hschema, htopic⟩ := List.append_inj hbytes hschema
    exact ⟨hpublisher, hashBytes_inj.1 hschema, utf8Bytes_injective htopic⟩

section Crypto

variable [Crypto]

lemma dedupKey_eq_iff {d e : Descriptor} (h : Set.InjOn Crypto.blake3 {slotInput d, slotInput e}) :
    dedupKey d = dedupKey e ↔ slotInput d = slotInput e := by
  constructor
  · intro hkey
    exact h (.inl rfl) (.inr rfl) (Subtype.ext hkey)
  · intro hinput
    exact congrArg (fun bytes => (Crypto.blake3 bytes).val) hinput

/-- The stores agree on two valid descriptors except where schema and topic are
divided elsewhere. -/
lemma keys_agree_iff {d e : Descriptor} {t t' : UInt64} (hd : d.validate t = .ok ())
    (he : e.validate t' = .ok ()) (h : Set.InjOn Crypto.blake3 {slotInput d, slotInput e}) :
    (dedupKey d = dedupKey e ↔ DedupKey.fromDescriptor d = DedupKey.fromDescriptor e) ↔
      ¬ DividedElsewhere d e := by
  have hlen (d : Descriptor) (t : UInt64) (hd : d.validate t = .ok ()) :
      d.publisher.publicKey.length = 32 :=
    (Identity.verify_eq_ok_iff.1 (Descriptor.validate_eq_ok_iff.1 hd).authentic.verified).2.1
  rw [dedupKey_eq_iff h, slotInput_eq_iff ((hlen d t hd).trans (hlen e t' he).symm),
    fromDescriptor_eq_iff]
  constructor
  · rintro hagree ⟨hpublisher, hbytes, hne⟩
    exact hne (hagree.1 ⟨hpublisher, hbytes⟩).2.2
  · intro hdivided
    refine ⟨fun ⟨hpublisher, hbytes⟩ => ⟨hpublisher, hbytes, ?_⟩, fun ⟨hpublisher, hbytes, _⟩ =>
      ⟨hpublisher, hbytes⟩⟩
    by_contra hne
    exact hdivided ⟨hpublisher, hbytes, hne⟩

/-! ## Overwriting -/

variable [DescriptorCodec]

/-- In every run of the disk-backed store, storing the second descriptor leaves the first, if that
belongs to another slot, where it is. -/
def KeptApart (d e : Descriptor) : Prop :=
  ∀ (calls : List (StorageCall RedbStorage)) (now : UInt64),
    Descriptor.NoCollision {x | x = e ∨ x ∈ submitted calls} →
    ((storageMachine RedbStorage).run RedbStorage.new calls).Holds d →
    DedupKey.fromDescriptor d ≠ DedupKey.fromDescriptor e →
    (((storageMachine RedbStorage).run RedbStorage.new calls).storeDescriptorAt e now).2.Holds d

namespace RedbStorage

/-- A write leaves what is stored under another dedup key. -/
lemma Stocks.holds_store {P : Set Descriptor} (hP : Descriptor.NoCollision P) {s : RedbStorage}
    {slots : List UInt8 → Option Descriptor} (h : Stocks P s slots) {d e : Descriptor}
    {now : UInt64}
    (he : e ∈ P) (hheld : s.Holds d) (hkey : dedupKey d ≠ dedupKey e) :
    (s.storeDescriptorAt e now).2.Holds d := by
  rcases s.storeDescriptorAt_cases e now with ⟨_, windows, heq, -⟩ | ⟨windows, heq, hcheck⟩
  · rw [heq]
    exact hheld
  · have hvalid := (checkStore_ok_iff.1 hcheck).1
    obtain ⟨k, d', hslot, hid, hcbor⟩ := (h.represents.descriptors _ _).1 hheld
    obtain rfl := toCbor_injective hcbor
    obtain rfl := h.represents.key hslot
    have hwritten := (h.of_windows windows s.skipRateLimit).write hP he hvalid.authentic
    rw [heq]
    refine (hwritten.represents.descriptors _ _).2 ⟨dedupKey d, d, ?_, rfl, rfl⟩
    exact Slots.put_eq_some_iff.2 (.inr ⟨hkey.symm, hslot⟩)

end RedbStorage

lemma keptApart_of_agree {d e : Descriptor}
    (h : dedupKey d = dedupKey e ↔ DedupKey.fromDescriptor d = DedupKey.fromDescriptor e) :
    KeptApart d e := by
  intro calls now hcollision hheld hslots
  have hsub : ∀ x ∈ submitted calls, x ∈ {x | x = e ∨ x ∈ submitted calls} :=
    fun x hx => .inr hx
  obtain ⟨slots, hstocks, -⟩ :=
    (RedbStorage.slotView hcollision).represents_run (RedbStorage.stocks_new _) hsub
  exact hstocks.holds_store hcollision (.inl rfl) hheld (mt h.1 hslots)

/-- Where BLAKE3 does not collide on their slots, the two stores agree on what the slots of two
valid descriptors are, and the disk-backed one keeps both, exactly if schema and topic are not
divided elsewhere. -/
theorem slotKeys_agree_iff {d e : Descriptor} {t t' : UInt64} (hd : d.validate t = .ok ())
    (he : e.validate t' = .ok ()) (h : Set.InjOn Crypto.blake3 {slotInput d, slotInput e}) :
    ((dedupKey d = dedupKey e ↔ DedupKey.fromDescriptor d = DedupKey.fromDescriptor e) ∧
        KeptApart d e) ↔ ¬ DividedElsewhere d e := by
  rw [← keys_agree_iff hd he h]
  exact and_iff_left_of_imp keptApart_of_agree

end Crypto

/-- A capability and a revocation of one publisher are kept apart. -/
theorem target_revocation_kept_apart :
    letI : Crypto := cryptoOf [target, ownRevocation]
    letI : Ciborium := referenceCiborium
    letI : DescriptorCodec := wireCodec
    (dedupKey target = dedupKey ownRevocation ↔
      DedupKey.fromDescriptor target = DedupKey.fromDescriptor ownRevocation) ∧
      KeptApart target ownRevocation := by
  let _ : Crypto := cryptoOf [target, ownRevocation]
  let _ : Ciborium := referenceCiborium
  let _ : DescriptorCodec := wireCodec
  have hslots : Set.InjOn Crypto.blake3 {slotInput target, slotInput ownRevocation} := by
    have hdigests : ∀ bytes ∈ [slotInput target, slotInput ownRevocation],
        ∀ bytes' ∈ [slotInput target, slotInput ownRevocation],
          Crypto.blake3 bytes = Crypto.blake3 bytes' → bytes = bytes' := by
      decide +kernel
    intro bytes hbytes bytes' hbytes'
    exact hdigests bytes (by simpa using hbytes) bytes' (by simpa using hbytes')
  have htarget : target.validate 1700000000000000 = .ok () := by decide +kernel
  have hrevocation : ownRevocation.validate 1700000000000000 = .ok () := by decide +kernel
  refine (slotKeys_agree_iff htarget hrevocation hslots).2 ?_
  exact fun hdivided => hdivided.length_ne (by decide)

/-- A descriptor of the second publisher whose schema is the first 31 bytes of the capability
schema, and whose topic is the last. -/
def truncated : Descriptor where
  schemaHash := ⟨ALG_BLAKE3, capabilitySchema.digest.take 31⟩
  topic := "0"
  payload := []
  publisher := secondPublisher
  timestamp := 1700000000000000
  sequence := 1
  ttl := 3600
  routingKeys := [computeKey]
  id := hashOf 0x6eda5a533cce14ef03a589ce4a1d35067cd718a34b5ecd6f56f529eb8c80f1de
  signature := beBytes 64
    0x84a7e04ba8a3967b2d7ab067feeb62520a7f0e767d08a556b2d14e1da383fd7010f25fd3b20123394f727ef8a0fef59f44a55a274e1bdde0f26bd4b6e8e3e806

/-- It takes the slot of a capability. -/
theorem truncated_not_kept_apart :
    letI : Crypto := cryptoOf [target, truncated]
    letI : Ciborium := referenceCiborium
    letI : DescriptorCodec := wireCodec
    target.validate 1700000000000000 = .ok () ∧ truncated.validate 1700000000000000 = .ok () ∧
      ¬ ((dedupKey target = dedupKey truncated ↔
        DedupKey.fromDescriptor target = DedupKey.fromDescriptor truncated) ∧
          KeptApart target truncated) := by
  let _ : Crypto := cryptoOf [target, truncated]
  let _ : Ciborium := referenceCiborium
  let _ : DescriptorCodec := wireCodec
  refine ⟨by decide +kernel, by decide +kernel, ?_⟩
  rintro ⟨hagree, -⟩
  exact absurd (hagree.1 (by decide +kernel)) (by decide +kernel)

end MeshProtocol
