import MeshProtocol.Core.Reference
import MeshProtocol.Dht.DescriptorStore
import MeshProtocol.Library.Slots

/-!
# Who may revoke and who may rotate

A revocation should take effect only when it comes from the publisher of its target, a key rotation
only when it comes from the holder of the old key.  The in-memory store checks the first only when
the target is stored at that moment, and the second not at all.  The results here say on which runs
the two rules hold nevertheless.
-/

namespace MeshProtocol

open Std Bytes

namespace DescriptorStore

/-! ## Revocation -/

section Revocation

variable [Crypto] [Ciborium]

/-- A revocation that passes the store's checks while nothing with the id it names is stored: the
id is recorded with no publisher to compare with. -/
structure Unchecked (s : DescriptorStore) (r : Descriptor) (now : UInt64) (id : Hash) : Prop where
  schema : r.schemaHash = SCHEMA_HASH_CORE_REVOCATION
  target : revocationTarget r.payload = .ok id
  passes : (s.checkStore r now).1 = .ok ()
  absent : ∀ rk, ∀ d ∈ s.store.held rk, d.id ≠ id

/-- The newest accepted descriptor of its slot, not expired at `t`, that a read at `t` leaves out
because its id is in the revoked set. -/
structure Hidden (calls : List (StorageCall DescriptorStore)) (d : Descriptor) (t : UInt64) :
    Prop where
  newest : Slots.latest DedupKey.fromDescriptor (accepted new calls)
    (DedupKey.fromDescriptor d) = some d
  fresh : d.expiredAt t = false
  revoked : d.id ∈ ((storageMachine DescriptorStore).run new calls).revoked
  missing : ∃ rk ∈ d.routingKeys,
    d ∉ ((storageMachine DescriptorStore).run new calls).getDescriptorsAt rk none t

/-- Some submitted revocation names the descriptor and comes from its publisher. -/
def RevokedByPublisher (calls : List (StorageCall DescriptorStore)) (d : Descriptor) : Prop :=
  ∃ r ∈ submitted calls, r.schemaHash = SCHEMA_HASH_CORE_REVOCATION ∧
    revocationTarget r.payload = .ok d.id ∧ r.publisher = d.publisher

/-- Every revocation that is recorded unchecked comes from the publisher of every descriptor with
the id it names that passes the store's checks in the run. -/
def UncheckedFromPublishers (calls : List (StorageCall DescriptorStore)) : Prop :=
  ∀ pre c, pre ++ [c] <+: calls → ∀ r now id, c.stores = some (r, now) →
    ((storageMachine DescriptorStore).run new pre).Unchecked r now id →
      ∀ d, Passes calls d → d.id = id → r.publisher = d.publisher

/-- Authentic descriptors of a run with one id have one publisher. -/
lemma publisher_eq_of_id_eq {calls : List (StorageCall DescriptorStore)}
    (hnc : Descriptor.NoCollision {d | d ∈ submitted calls}) {d e : Descriptor}
    (hd : d ∈ submitted calls) (he : e ∈ submitted calls) (hdv : ∃ now, d.ValidAt now)
    (hev : ∃ now, e.ValidAt now) (hid : d.id = e.id) : d.publisher = e.publisher := by
  obtain ⟨_, hdv⟩ := hdv
  obtain ⟨_, hev⟩ := hev
  exact (hnc.sameContent hd he hdv.authentic hev.authentic hid).publisher

/-- When a store call revokes an id, and something with that id was stored before the call, then
the revocation's publisher is the publisher of some authentic descriptor with that id. -/
lemma Revokes.exists_publisher {calls pre : List (StorageCall DescriptorStore)}
    {c : StorageCall DescriptorStore} (hpre : pre ++ [c] <+: calls) {r : Descriptor}
    {now : UInt64} (hstores : c.stores = some (r, now))
    {windows : ExtTreeMap Identity (List UInt64)}
    (hvalid : r.ValidAt now) {id : Hash}
    (hrev : (({ (storageMachine DescriptorStore).run new pre with
      rateLimiter := windows } : DescriptorStore).replace r).Revokes r id)
    {rk : Hash} {e : Descriptor}
    (he : e ∈ ((storageMachine DescriptorStore).run new pre).store.held rk) (hid : e.id = id) :
    ∃ t ∈ submitted calls, (∃ now, t.ValidAt now) ∧ t.id = id ∧ r.publisher = t.publisher := by
  have hsub : submitted pre ⊆ submitted calls :=
    submitted_mono ((List.prefix_append pre [c]).trans hpre)
  obtain ⟨hes, -, hev⟩ := held_run he
  by_cases hkey : DedupKey.fromDescriptor e = DedupKey.fromDescriptor r
  · -- the revocation replaces the descriptor, so they share their publisher
    exact ⟨e, hsub hes, hev, hid, (congrArg DedupKey.publisher hkey).symm⟩
  · have hkept := mem_held_replace (s := { (storageMachine DescriptorStore).run new pre with
      rateLimiter := windows }) (d := r).2 (.inl ⟨he, hkey⟩)
    obtain ⟨t, ht⟩ := Option.ne_none_iff_exists'.1 (findById_ne_none hkept)
    rw [hid] at ht
    obtain ⟨htid, rk', htheld⟩ := findById_eq_some ht
    rcases mem_held_replace.1 htheld with ⟨htheld, -⟩ | ⟨rfl, -⟩
    · obtain ⟨hts, -, htv⟩ := held_run htheld
      exact ⟨t, hsub hts, htv, htid, hrev.authority t ht⟩
    · have hsubmitted : t ∈ submitted (pre ++ [c]) := mem_submitted.2 ⟨c, by simp, now, hstores⟩
      exact ⟨t, submitted_mono hpre hsubmitted, ⟨now, hvalid⟩, htid, rfl⟩

/-- On such runs every revoked id was named by a revocation from the publisher of whatever passes
the checks under it. -/
theorem revoked_run {calls : List (StorageCall DescriptorStore)}
    (hnc : Descriptor.NoCollision {d | d ∈ submitted calls})
    (hpub : UncheckedFromPublishers calls) {pre : List (StorageCall DescriptorStore)}
    (hpre : pre <+: calls) :
    ∀ id ∈ ((storageMachine DescriptorStore).run new pre).revoked, ∃ r ∈ submitted pre,
      r.schemaHash = SCHEMA_HASH_CORE_REVOCATION ∧ revocationTarget r.payload = .ok id ∧
        ∀ d, Passes calls d → d.id = id → r.publisher = d.publisher := by
  induction pre using List.reverseRecOn with
  | nil => simp [new]
  | append_singleton pre c ih =>
    have ih := ih ((List.prefix_append pre [c]).trans hpre)
    have hold : ∀ id ∈ ((storageMachine DescriptorStore).run new pre).revoked,
        ∃ r ∈ submitted (pre ++ [c]), r.schemaHash = SCHEMA_HASH_CORE_REVOCATION ∧
          revocationTarget r.payload = .ok id ∧
            ∀ d, Passes calls d → d.id = id → r.publisher = d.publisher := by
      intro id hid
      obtain ⟨r, hr, hrest⟩ := ih id hid
      exact ⟨r, submitted_mono (List.prefix_append pre [c]) hr, hrest⟩
    intro id hid
    rw [Machine.run_concat] at hid
    rcases step_cases ((storageMachine DescriptorStore).run new pre) c with
      ⟨r, now, hstores, hstep⟩ | ⟨now, -, -, hstep⟩ | ⟨-, hstep⟩
    · rw [hstep] at hid
      rcases storeDescriptorAt_cases ((storageMachine DescriptorStore).run new pre) r now with
        ⟨err, windows, heq, -⟩ | ⟨windows, heq, hcheck⟩
      · rw [heq] at hid
        exact hold id hid
      · rw [heq] at hid
        rcases (effect_process _ r).revoked id hid with hid | hrev
        · exact hold id hid
        · have hsubmitted : r ∈ submitted (pre ++ [c]) := mem_submitted.2 ⟨c, by simp, now, hstores⟩
          refine ⟨r, hsubmitted, hrev.schema, hrev.target, ?_⟩
          intro d hd hdid
          by_cases hheld : ∃ rk, ∃ e ∈ ((storageMachine DescriptorStore).run new pre).store.held rk,
              e.id = id
          · obtain ⟨rk, e, he, heid⟩ := hheld
            obtain ⟨t, hts, htv, htid, htpub⟩ :=
              hrev.exists_publisher hpre hstores (checkStore_ok_iff.1 hcheck).1 he heid
            rw [htpub]
            exact publisher_eq_of_id_eq hnc hts hd.submitted htv
              hd.valid (htid.trans hdid.symm)
          · refine hpub pre c hpre r now id hstores ⟨hrev.schema, hrev.target, hcheck, ?_⟩ d hd hdid
            intro rk e he heid
            exact hheld ⟨rk, e, he, heid⟩
    · rw [hstep] at hid
      exact hold id hid
    · rw [hstep] at hid
      exact hold id hid

/-- Where every unchecked revocation comes from the publisher of what passes the checks under the id
it names, no publisher hides another publisher's descriptor. -/
theorem hidden_revokedByPublisher {calls : List (StorageCall DescriptorStore)}
    (hnc : Descriptor.NoCollision {d | d ∈ submitted calls})
    (hpub : UncheckedFromPublishers calls) {pre : List (StorageCall DescriptorStore)}
    (hpre : pre <+: calls) {d : Descriptor} {t : UInt64} (hd : Hidden pre d t) :
    RevokedByPublisher pre d := by
  obtain ⟨r, hr, hschema, htarget, hall⟩ := revoked_run hnc hpub hpre d.id hd.revoked
  have hpasses := (accepted_passes (Slots.mem_of_latest hd.newest)).mono hpre
  exact ⟨r, hr, hschema, htarget, hall d hpasses rfl⟩

end Revocation

/-- A revocation of `target` by someone else than its publisher. -/
def foreignRevocation : Descriptor where
  schemaHash := revocationSchema
  topic := ""
  payload := revocationPayload
  publisher := firstPublisher
  timestamp := 1700000000000000
  sequence := 1
  ttl := 3600
  routingKeys := [computeKey]
  id := hashOf 0x26da1d0ffa27a5a70e4b856834b27cca5d662388f6c5dc0c28cb5e5e0c423747
  signature := beBytes 64
    0x3c9431d65620afc37f9df4415c52d5a31bc9210e55c57153c2af74fee5479cdf00e3ded6d0b7226a30ad3638f0bf8f3b763d6d3c8802c9136306b32fb7c1b60b

/-- A foreign revocation that arrives before its target hides the target for good. -/
theorem foreignRevocation_hides_target :
    letI : Crypto := cryptoOf [target, foreignRevocation]
    letI : Ciborium := referenceCiborium
    ∃ calls : List (StorageCall DescriptorStore), ∃ d t,
      Hidden calls d t ∧ ¬ RevokedByPublisher calls d := by
  let _ : Crypto := cryptoOf [target, foreignRevocation]
  let _ : Ciborium := referenceCiborium
  refine ⟨[.storeDescriptorAt foreignRevocation 1700000000000000,
    .storeDescriptorAt target 1700000000000000], target, 1700000000000000, ?_, ?_⟩
  · exact
      { newest := by decide +kernel
        fresh := by decide +kernel
        revoked := by decide +kernel
        missing := by decide +kernel }
  · unfold RevokedByPublisher
    decide +kernel

/-- A run in which the publisher revokes its own descriptor meets the condition. -/
theorem ownRevocation_hides_target :
    letI : Crypto := cryptoOf [target, ownRevocation]
    letI : Ciborium := referenceCiborium
    RevokedByPublisher [.storeDescriptorAt target 1700000000000000,
      .storeDescriptorAt ownRevocation 1700000000000000] target := by
  let _ : Crypto := cryptoOf [target, ownRevocation]
  let _ : Ciborium := referenceCiborium
  have hsame : ∀ d ∈ submitted [StorageCall.storeDescriptorAt (S := DescriptorStore) target
      1700000000000000, .storeDescriptorAt ownRevocation 1700000000000000],
      d.publisher = secondPublisher := by decide +kernel
  refine hidden_revokedByPublisher (t := 1700000000000000) ?_ ?_ List.prefix_rfl ?_
  · exact Descriptor.noCollision_of_list (by decide +kernel)
  · intro pre c hpre r now id hstores hunchecked d hd hid
    have hr := submitted_mono hpre (mem_submitted.2 ⟨c, by simp, now, hstores⟩)
    rw [hsame r hr, hsame d hd.submitted]
  · exact
      { newest := by decide +kernel
        fresh := by decide +kernel
        revoked := by decide +kernel
        missing := by decide +kernel }

/-! ## Key rotation -/

section Rotation

variable [Crypto] [Ciborium]

/-- A key rotation that the store records: it passes the checks, its payload declares the
succession, and the recorded succession of the old identity does not forbid it. -/
structure RecordsRotation (s : DescriptorStore) (r : Descriptor) (now : UInt64)
    (rot : KeyRotation) : Prop where
  schema : r.schemaHash = SCHEMA_HASH_CORE_KEY_ROTATION
  payload : keyRotation r.payload = .ok rot
  passes : (s.checkStore r now).1 = .ok ()
  follows : rot.Follows s.rotations[rot.oldIdentity]?

/-- The recorded successor of an old identity was written by an accepted key rotation whose
publisher's bytes are the old identity. -/
def WrittenByOldKey (calls : List (StorageCall DescriptorStore)) (old : List UInt8)
    (successor : Identity × UInt64) : Prop :=
  ∃ r ∈ accepted new calls, r.schemaHash = SCHEMA_HASH_CORE_KEY_ROTATION ∧
    keyRotation r.payload = .ok ⟨old, successor.1, successor.2⟩ ∧ identityBytes r.publisher = old

/-- Every recorded succession was written by the holder of the old key. -/
def RotationsByOldKeys (calls : List (StorageCall DescriptorStore)) : Prop :=
  ∀ old successor, ((storageMachine DescriptorStore).run new calls).rotations[old]? =
    some successor → WrittenByOldKey calls old successor

/-- Every key rotation that the store records comes from the old identity it names, or repeats the
succession that is recorded already. -/
def RotationsFromOldKeys (calls : List (StorageCall DescriptorStore)) : Prop :=
  ∀ pre c, pre ++ [c] <+: calls → ∀ r now rot, c.stores = some (r, now) →
    ((storageMachine DescriptorStore).run new pre).RecordsRotation r now rot →
      identityBytes r.publisher = rot.oldIdentity ∨
        ((storageMachine DescriptorStore).run new pre).rotations[rot.oldIdentity]? =
          some (rot.newIdentity, rot.rotationSeq)

lemma WrittenByOldKey.mono {pre calls : List (StorageCall DescriptorStore)} (hpre : pre <+: calls)
    {old : List UInt8} {successor : Identity × UInt64} (h : WrittenByOldKey pre old successor) :
    WrittenByOldKey calls old successor := by
  obtain ⟨r, hr, hrest⟩ := h
  exact ⟨r, accepted_mono new hpre hr, hrest⟩

/-- One call either leaves the recorded successions as they are, and is no accepted key rotation, or
is an accepted key rotation whose succession it records. -/
lemma rotations_step (s : DescriptorStore) (c : StorageCall DescriptorStore) :
    (((storageMachine DescriptorStore).step s c).2.rotations = s.rotations ∧
        ∀ r, acceptedBy (c, ((storageMachine DescriptorStore).step s c).1) = some r →
          r.schemaHash ≠ SCHEMA_HASH_CORE_KEY_ROTATION) ∨
      ∃ r now rot, c.stores = some (r, now) ∧ s.RecordsRotation r now rot ∧
        acceptedBy (c, ((storageMachine DescriptorStore).step s c).1) = some r ∧
        ((storageMachine DescriptorStore).step s c).2.rotations =
          s.rotations.insert rot.oldIdentity (rot.newIdentity, rot.rotationSeq) := by
  rcases s.step_cases c with ⟨r, now, hstores, hstep⟩ | ⟨now, hstores, -, hstep⟩ | ⟨hstores, hstep⟩
  · rcases s.storeDescriptorAt_cases r now with ⟨e, windows, heq, -⟩ | ⟨windows, heq, hcheck⟩
    · refine .inl ⟨by rw [hstep, heq], ?_⟩
      simp [acceptedBy, hstep, heq]
    · have heff := effect_process
        (({ s with rateLimiter := windows } : DescriptorStore).replace r) r
      rw [← heq] at heff
      by_cases hrecords : (s.storeDescriptorAt r now).1 = .ok () ∧
          r.schemaHash = SCHEMA_HASH_CORE_KEY_ROTATION
      · obtain ⟨rot, hrot⟩ := heff.recorded hrecords.1 hrecords.2
        refine .inr ⟨r, now, rot, hstores, ⟨hrecords.2, hrot.payload, hcheck, hrot.follows⟩, ?_, ?_⟩
        · simp [acceptedBy, hstep, hrecords.1, hstores]
        · rw [hstep]
          exact hrot.rotations
      · refine .inl ⟨?_, ?_⟩
        · rw [hstep]
          exact heff.unrecorded hrecords
        · intro r' hacc hschema
          simp only [acceptedBy, hstep, hstores, StorageAnswer.stored.injEq, Option.map_some,
            Option.ite_none_right_eq_some, Option.some.injEq] at hacc
          exact hrecords ⟨hacc.1, hacc.2 ▸ hschema⟩
  · refine .inl ⟨by rw [hstep]; rfl, ?_⟩
    simp [acceptedBy, hstores]
  · refine .inl ⟨by rw [hstep], ?_⟩
    simp [acceptedBy, hstores]

/-- The recorded succession is at or past every succession an accepted key rotation declared, and at
the same sequence it is the same. -/
theorem recorded_of_accepted {calls : List (StorageCall DescriptorStore)} {r : Descriptor}
    (hr : r ∈ accepted new calls) (hschema : r.schemaHash = SCHEMA_HASH_CORE_KEY_ROTATION)
    {rot : KeyRotation} (hrot : keyRotation r.payload = .ok rot) :
    ∃ identity seq, ((storageMachine DescriptorStore).run new calls).rotations[rot.oldIdentity]? =
      some (identity, seq) ∧ rot.rotationSeq ≤ seq ∧
        (rot.rotationSeq = seq → identity = rot.newIdentity) := by
  induction calls using List.reverseRecOn with
  | nil => simp [accepted] at hr
  | append_singleton calls c ih =>
    rw [accepted_concat, List.mem_append, Option.mem_toList] at hr
    rw [Machine.run_concat]
    rcases rotations_step ((storageMachine DescriptorStore).run new calls) c with
      ⟨hsame, hplain⟩ | ⟨r', now, rot', -, hrecords, hacc, hinsert⟩
    · rw [hsame]
      rcases hr with hr | hr
      · exact ih hr
      · exact absurd hschema (hplain r hr)
    · rw [hinsert, ExtTreeMap.getElem?_insert]
      rcases hr with hr | hr
      · obtain ⟨identity, seq, hget, hle, hsame⟩ := ih hr
        split_ifs with hcmp
        · have hold := LawfulEqCmp.eq_of_compare hcmp
          obtain ⟨hle', hsame'⟩ := hrecords.follows identity seq (by rw [hold]; exact hget)
          refine ⟨rot'.newIdentity, rot'.rotationSeq, rfl, UInt64.le_trans hle hle', ?_⟩
          intro hseq
          have hboth : seq = rot'.rotationSeq := UInt64.le_antisymm hle' (hseq ▸ hle)
          rw [← hsame' hboth.symm, hsame (hseq.trans hboth.symm)]
        · exact ⟨identity, seq, hget, hle, hsame⟩
      · rw [hacc, Option.some.injEq] at hr
        subst hr
        rw [hrecords.payload, Except.ok.injEq] at hrot
        subst hrot
        rw [if_pos compare_self]
        exact ⟨rot'.newIdentity, rot'.rotationSeq, rfl, UInt64.le_refl _, fun _ => rfl⟩

/-- Where every recorded key rotation comes from the old key, every recorded succession was written
by the holder of the old key. -/
theorem rotationsByOldKeys_of_fromOldKeys {calls : List (StorageCall DescriptorStore)}
    (hfrom : RotationsFromOldKeys calls) {pre : List (StorageCall DescriptorStore)}
    (hpre : pre <+: calls) : RotationsByOldKeys pre := by
  induction pre using List.reverseRecOn with
  | nil => simp [RotationsByOldKeys, new]
  | append_singleton pre c ih =>
    have hstart := List.prefix_append pre [c]
    have ih := ih (hstart.trans hpre)
    intro old successor hget
    rw [Machine.run_concat] at hget
    rcases rotations_step ((storageMachine DescriptorStore).run new pre) c with
      ⟨hsame, -⟩ | ⟨r, now, rot, hstores, hrecords, hacc, hinsert⟩
    · rw [hsame] at hget
      exact (ih old successor hget).mono hstart
    · rw [hinsert, ExtTreeMap.getElem?_insert] at hget
      split_ifs at hget with hcmp
      · obtain rfl := LawfulEqCmp.eq_of_compare hcmp
        obtain rfl := Option.some.inj hget
        rcases hfrom pre c hpre r now rot hstores hrecords with hown | hsame
        · refine ⟨r, ?_, hrecords.schema, hrecords.payload, hown⟩
          rw [accepted_concat, hacc]
          simp
        · exact (ih rot.oldIdentity _ hsame).mono hstart
      · exact (ih old successor hget).mono hstart

/-- A key rotation that the store records is accepted, unless the two special schemas are one. -/
lemma RecordsRotation.step {s : DescriptorStore} {r : Descriptor} {now : UInt64} {rot : KeyRotation}
    (h : s.RecordsRotation r now rot)
    (hdistinct : SCHEMA_HASH_CORE_REVOCATION ≠ SCHEMA_HASH_CORE_KEY_ROTATION)
    {c : StorageCall DescriptorStore} (hstores : c.stores = some (r, now)) :
    acceptedBy (c, ((storageMachine DescriptorStore).step s c).1) = some r ∧
      ((storageMachine DescriptorStore).step s c).2.rotations =
        s.rotations.insert rot.oldIdentity (rot.newIdentity, rot.rotationSeq) := by
  rcases s.step_cases c with ⟨r', now', hstores', hstep⟩ | ⟨now', hnone, -⟩ | ⟨hnone, -⟩
  · obtain ⟨rfl, rfl⟩ := Prod.mk.inj (Option.some.inj (hstores'.symm.trans hstores))
    rcases s.storeDescriptorAt_cases r' now' with ⟨e, -, -, hcheck⟩ | ⟨windows, heq, -⟩
    · rw [h.passes] at hcheck
      cases hcheck
    · have hrev : r'.schemaHash ≠ SCHEMA_HASH_CORE_REVOCATION := by
        rw [h.schema]
        exact hdistinct.symm
      rw [process, if_neg hrev] at heq
      dsimp only at heq
      have hrecorded := processKeyRotation_of_follows
        (s := ({ s with rateLimiter := windows } : DescriptorStore).replace r') h.payload h.follows
      rw [if_pos h.schema, hrecorded] at heq
      rw [hstep, heq]
      exact ⟨by simp [acceptedBy, hstores], rfl⟩
  · rw [hstores] at hnone
    cases hnone
  · rw [hstores] at hnone
    cases hnone

/-- Where every recorded succession was always written by the holder of the old key, every recorded
key rotation came from the old key or repeated what was recorded. -/
theorem rotationsFromOldKeys_of_byOldKeys
    (hdistinct : SCHEMA_HASH_CORE_REVOCATION ≠ SCHEMA_HASH_CORE_KEY_ROTATION)
    {calls : List (StorageCall DescriptorStore)}
    (hby : ∀ pre, pre <+: calls → RotationsByOldKeys pre) : RotationsFromOldKeys calls := by
  intro pre c hpre r now rot hstores hrecords
  obtain ⟨hacc, hinsert⟩ := hrecords.step hdistinct hstores
  have hget : ((storageMachine DescriptorStore).run new (pre ++ [c])).rotations[rot.oldIdentity]? =
      some (rot.newIdentity, rot.rotationSeq) := by
    rw [Machine.run_concat, hinsert, ExtTreeMap.getElem?_insert, if_pos compare_self]
  obtain ⟨r', hr', hschema', hrot', hown⟩ := hby _ hpre _ _ hget
  rw [accepted_concat, hacc, List.mem_append] at hr'
  rcases hr' with hr' | hr'
  · -- an earlier rotation declared this succession: it must still be the recorded one
    right
    obtain ⟨identity, seq, hrecorded, hle, hsame⟩ := recorded_of_accepted hr' hschema' hrot'
    obtain ⟨hle', -⟩ := hrecords.follows identity seq hrecorded
    obtain rfl : rot.rotationSeq = seq := UInt64.le_antisymm hle hle'
    rw [hrecorded, hsame rfl]
  · left
    obtain rfl : r' = r := by simpa using hr'
    exact hown

/-- The recorded successions of every state of a run were written by the holders of the old keys
exactly when each recorded key rotation comes from the old key, or repeats what is recorded. -/
theorem rotationsByOldKeys_iff
    (hdistinct : SCHEMA_HASH_CORE_REVOCATION ≠ SCHEMA_HASH_CORE_KEY_ROTATION)
    (calls : List (StorageCall DescriptorStore)) :
    (∀ pre, pre <+: calls → RotationsByOldKeys pre) ↔ RotationsFromOldKeys calls := by
  constructor
  · exact rotationsFromOldKeys_of_byOldKeys hdistinct
  · intro hfrom pre hpre
    exact rotationsByOldKeys_of_fromOldKeys hfrom hpre

end Rotation

/-! A rotation of the second publisher's key to the first publisher's, signed by either. -/

/-- The payload of the rotation. -/
def rotationPayload : List UInt8 :=
  Cbor.encode (.map [
    (.text "old_identity", .bytes (identityBytes secondPublisher)),
    (.text "new_identity", .bytes (identityBytes firstPublisher)),
    (.text "rotation_seq", .integer 1)])

def foreignRotation : Descriptor where
  schemaHash := keyRotationSchema
  topic := ""
  payload := rotationPayload
  publisher := firstPublisher
  timestamp := 1700000000000000
  sequence := 1
  ttl := 3600
  routingKeys := [computeKey]
  id := hashOf 0x217a93757da852423e1c6f2658542d147a7e81647880d017fe7bb887127c8c34
  signature := beBytes 64
    0xdbdd62b64b237135b649e3356eeb14e1e3c99d27ef03769bb01c6bef2c60ec0578304c423a46a64a81ae5caa899c9320c33cc095f1b03f478fa8b4729e29370a

/-- A rotation signed by anyone is recorded. -/
theorem foreignRotation_recorded :
    letI : Crypto := cryptoOf [foreignRotation]
    letI : Ciborium := referenceCiborium
    ∃ calls : List (StorageCall DescriptorStore), ¬ RotationsByOldKeys calls := by
  let _ : Crypto := cryptoOf [foreignRotation]
  let _ : Ciborium := referenceCiborium
  refine ⟨[.storeDescriptorAt foreignRotation 1700000000000000], ?_⟩
  intro hall
  have hwritten := hall (identityBytes secondPublisher) (firstPublisher, 1) (by decide +kernel)
  revert hwritten
  unfold WrittenByOldKey
  decide +kernel

def ownRotation : Descriptor where
  schemaHash := keyRotationSchema
  topic := ""
  payload := rotationPayload
  publisher := secondPublisher
  timestamp := 1700000000000000
  sequence := 1
  ttl := 3600
  routingKeys := [computeKey]
  id := hashOf 0x6e6872765c6ccd78a25f81c77f6c5b54d75dae8c23ff994a4ad6a19039de5448
  signature := beBytes 64
    0x58cfcde0cdad6d18a359c4afe8b141cde50d18bd959f75b27072d5437905139c1cf089c52c085ce0693d812ae0c574e9abb813154a412e5581ae4c64b6b89905

/-- A run in which the holder of the old key rotates it meets the condition. -/
theorem ownRotation_recorded :
    letI : Crypto := cryptoOf [ownRotation]
    letI : Ciborium := referenceCiborium
    RotationsByOldKeys [.storeDescriptorAt ownRotation 1700000000000000] := by
  let _ : Crypto := cryptoOf [ownRotation]
  let _ : Ciborium := referenceCiborium
  refine (rotationsByOldKeys_iff (by decide +kernel) _).2 ?_ _ List.prefix_rfl
  intro pre c hpre r now rot hstores hrecords
  have hr := submitted_mono hpre (mem_submitted.2 ⟨c, by simp, now, hstores⟩)
  obtain rfl : r = ownRotation := by simpa [submitted, StorageCall.stores] using hr
  have hpayload : keyRotation ownRotation.payload =
      .ok ⟨identityBytes secondPublisher, firstPublisher, 1⟩ := by decide +kernel
  left
  rw [hrecords.payload, Except.ok.injEq] at hpayload
  rw [hpayload]
  rfl

end DescriptorStore

end MeshProtocol
