import MeshProtocol.Dht.DescriptorStore

/-!
# Storing a descriptor again

Replication sends one descriptor to the same node once for each of its routing keys.  A store that
has taken the descriptor is settled on it: it serves the descriptor, and every later attempt to
store it, accepted or not, leaves it so.
-/

namespace MeshProtocol

open Std

namespace DescriptorStore

/-- How many live descriptors of other slots a store serves at a routing key. -/
def rivals (s : DescriptorStore) (d : Descriptor) (rk : Hash) (now : UInt64) : ℕ :=
  (s.store.held rk).countP fun e =>
    DedupKey.fromDescriptor e ≠ DedupKey.fromDescriptor d ∧ e.id ∉ s.revoked ∧
      e.expiredAt now = false

/-! ## Successful processing -/

lemma held_replace (s : DescriptorStore) (d : Descriptor) (rk : Hash) :
    (s.replace d).store.held rk =
      ((s.store.held rk).filter fun e => DedupKey.fromDescriptor e ≠ DedupKey.fromDescriptor d) ++
        List.replicate (d.routingKeys.count rk) d := by
  rw [replace, Buckets.held_file, Buckets.held_retain]

section Crypto

variable [Crypto] [Ciborium] {s s' : DescriptorStore} {d : Descriptor} {now : UInt64}

/-- What a store holds after it has processed a descriptor with success. -/
structure Processed (s : DescriptorStore) (d : Descriptor) (keep : Descriptor → Bool)
    (s' : DescriptorStore) : Prop where
  held : ∀ rk, s'.store.held rk = (s.store.held rk).filter keep
  dropped : ∀ e, keep e = false → e.id ∈ s'.revoked
  revoked : ∀ id ∈ s.revoked, id ∈ s'.revoked
  sequences : s'.sequences = s.sequences
  revocation : d.schemaHash = SCHEMA_HASH_CORE_REVOCATION → ∃ target,
    revocationTarget d.payload = .ok target ∧ target ∈ s'.revoked ∧
      ∀ e, e.id = target → keep e = false
  rotation : d.schemaHash = SCHEMA_HASH_CORE_KEY_ROTATION → ∃ rot,
    keyRotation d.payload = .ok rot ∧
      s'.rotations[rot.oldIdentity]? = some (rot.newIdentity, rot.rotationSeq)

/-- Processing that succeeds is a revocation that succeeds and then a key rotation that does. -/
lemma process_ok_iff : s.process d = (.ok (), s') ↔ ∃ s₁,
    (if d.schemaHash = SCHEMA_HASH_CORE_REVOCATION then s.processRevocation d else (.ok (), s)) =
        (.ok (), s₁) ∧
      (if d.schemaHash = SCHEMA_HASH_CORE_KEY_ROTATION then s₁.processKeyRotation d
        else (.ok (), s₁)) = (.ok (), s') := by
  unfold process
  generalize (if d.schemaHash = SCHEMA_HASH_CORE_REVOCATION then s.processRevocation d
    else (.ok (), s)) = out
  obtain ⟨e | ⟨⟩, s₁⟩ := out
  · simp
  · simp

lemma process_ok (h : s.process d = (.ok (), s')) : ∃ keep, s.Processed d keep s' := by
  obtain ⟨s₁, hrev, hrot⟩ := process_ok_iff.1 h
  -- what the revocation leaves
  have hfirst : ∃ keep, (∀ rk, s₁.store.held rk = (s.store.held rk).filter keep) ∧
      (∀ e, keep e = false → e.id ∈ s₁.revoked) ∧ (∀ id ∈ s.revoked, id ∈ s₁.revoked) ∧
      s₁.sequences = s.sequences ∧ (d.schemaHash = SCHEMA_HASH_CORE_REVOCATION → ∃ target,
        revocationTarget d.payload = .ok target ∧ target ∈ s₁.revoked ∧
          ∀ e, e.id = target → keep e = false) := by
    split_ifs at hrev with hschema
    · obtain ⟨target, kept, htarget, rfl, hkept⟩ := processRevocation_ok hrev
      have hmem : target ∈ s.revoked.insert target := ExtTreeSet.mem_insert_self
      refine ⟨fun e => e.id ≠ target, hkept, ?_, fun id hid => ExtTreeSet.mem_insert.2 (.inr hid),
        rfl, fun _ => ⟨target, htarget, hmem, ?_⟩⟩
      · intro e he
        obtain rfl : e.id = target := by simpa using he
        exact hmem
      · rintro e rfl
        simp
    · obtain ⟨-, rfl⟩ := Prod.mk.inj hrev
      refine ⟨fun _ => true, fun rk => (List.filter_true _).symm, ?_, fun id hid => hid, rfl,
        fun heq => absurd heq hschema⟩
      rintro e ⟨⟩
  obtain ⟨keep, hheld, hdropped, hrevoked, hsequences, hrevocation⟩ := hfirst
  refine ⟨keep, ?_⟩
  -- the rotation touches the successions only
  split_ifs at hrot with hschema
  · obtain ⟨rot, hpayload, rfl⟩ := processKeyRotation_ok hrot
    exact ⟨hheld, hdropped, hrevoked, hsequences, hrevocation,
      fun _ => ⟨rot, hpayload, ExtTreeMap.getElem?_insert_self⟩⟩
  · obtain ⟨-, rfl⟩ := Prod.mk.inj hrot
    exact ⟨hheld, hdropped, hrevoked, hsequences, hrevocation, fun heq => absurd heq hschema⟩

/-! ## Settled stores -/

/-- The store takes a descriptor at a time: the call succeeds and does not leave the descriptor
revoked. -/
structure Takes (s : DescriptorStore) (d : Descriptor) (now : UInt64) : Prop where
  stored : (s.storeDescriptorAt d now).1 = .ok ()
  notRevoked : d.id ∉ (s.storeDescriptorAt d now).2.revoked

/-- The store has taken a descriptor. -/
structure Settled (s : DescriptorStore) (d : Descriptor) : Prop where
  held : ∀ rk ∈ d.routingKeys, d ∈ s.store.held rk
  notRevoked : d.id ∉ s.revoked
  watermark : s.sequences[DedupKey.fromDescriptor d]? = some d.sequence
  once : ∀ rk, (s.store.held rk).countP
    (fun e => DedupKey.fromDescriptor e = DedupKey.fromDescriptor d) ≤ d.routingKeys.count rk
  revocation : d.schemaHash = SCHEMA_HASH_CORE_REVOCATION → ∃ target,
    revocationTarget d.payload = .ok target ∧ target ≠ d.id ∧
      ∀ rk, ∀ e ∈ s.store.held rk, e.id ≠ target
  rotation : d.schemaHash = SCHEMA_HASH_CORE_KEY_ROTATION → ∃ rot,
    keyRotation d.payload = .ok rot ∧
      s.rotations[rot.oldIdentity]? = some (rot.newIdentity, rot.rotationSeq)

/-- Replacing the slot's versions and processing with success settles the store. -/
lemma settled_of_process {keep : Descriptor → Bool}
    (h : (s.replace d).Processed d keep s') (hid : d.id ∉ s'.revoked) : s'.Settled d where
  held rk hrk := by
    have hkeep : keep d = true := by
      by_contra hdropped
      exact hid (h.dropped d (Bool.eq_false_of_not_eq_true hdropped))
    rw [h.held, List.mem_filter]
    exact ⟨mem_held_replace.2 (.inr ⟨rfl, hrk⟩), hkeep⟩
  notRevoked := hid
  watermark := by
    rw [h.sequences]
    exact ExtTreeMap.getElem?_insert_self
  once rk := by
    have hcount : ((s.replace d).store.held rk).countP
        (fun e => DedupKey.fromDescriptor e = DedupKey.fromDescriptor d) =
          d.routingKeys.count rk := by
      rw [held_replace, List.countP_append, List.countP_filter, List.countP_replicate]
      simp
    rw [h.held, ← hcount]
    exact List.filter_sublist.countP_le
  revocation hschema := by
    obtain ⟨target, htarget, hmem, hgone⟩ := h.revocation hschema
    refine ⟨target, htarget, ?_, ?_⟩
    · rintro rfl
      exact hid hmem
    · intro rk e he heq
      rw [h.held, List.mem_filter, hgone e heq] at he
      exact absurd he.2 (by decide)
  rotation := h.rotation

/-- and adds no rivals. -/
lemma rivals_of_process {keep : Descriptor → Bool} (h : (s.replace d).Processed d keep s')
    (rk : Hash) (now : UInt64) : s'.rivals d rk now ≤ s.rivals d rk now := by
  let other : Descriptor → Bool := fun e =>
    DedupKey.fromDescriptor e ≠ DedupKey.fromDescriptor d ∧ e.id ∉ s.revoked ∧
      e.expiredAt now = false
  have hrevoked : ∀ id ∈ s.revoked, id ∈ s'.revoked := h.revoked
  calc s'.rivals d rk now
      ≤ (s'.store.held rk).countP other := by
        refine List.countP_mono_left fun e _ he => ?_
        simp only [other, decide_eq_true_eq] at he ⊢
        exact ⟨he.1, fun hmem => he.2.1 (hrevoked _ hmem), he.2.2⟩
    _ ≤ ((s.replace d).store.held rk).countP other := by
        rw [h.held]
        exact List.filter_sublist.countP_le
    _ ≤ (s.store.held rk).countP other := by
        have hself : other d = false := by simp [other]
        rw [held_replace, List.countP_append, List.countP_replicate, if_neg (by simp [hself]),
          add_zero]
        exact List.filter_sublist.countP_le
    _ = s.rivals d rk now := rfl

/-- A store that takes a descriptor is settled on it afterwards. -/
theorem Takes.settled (h : s.Takes d now) : (s.storeDescriptorAt d now).2.Settled d ∧
    ∀ rk t, (s.storeDescriptorAt d now).2.rivals d rk t ≤ s.rivals d rk t := by
  obtain ⟨hstored, hid⟩ := h
  rcases s.storeDescriptorAt_cases d now with ⟨e, windows, heq, -⟩ | ⟨windows, heq, -⟩
  · rw [heq] at hstored
    cases hstored
  · rw [heq] at hstored hid ⊢
    obtain ⟨keep, hprocessed⟩ := process_ok (Prod.ext hstored rfl)
    -- the windows do not matter to the rivals
    have hrivals := rivals_of_process hprocessed
    exact ⟨settled_of_process hprocessed hid, fun rk t => hrivals rk t⟩

/-- A store has nothing against a descriptor: no newer version of its slot, its ID not revoked, no
target of another publisher if it is a revocation, and no fork or newer succession if it is a key
rotation. -/
structure Unopposed (s : DescriptorStore) (d : Descriptor) : Prop where
  notStale : ∀ seq, s.sequences[DedupKey.fromDescriptor d]? = some seq → seq ≤ d.sequence
  notRevoked : d.id ∉ s.revoked
  revocation : d.schemaHash = SCHEMA_HASH_CORE_REVOCATION → ∃ target,
    revocationTarget d.payload = .ok target ∧ target ≠ d.id ∧
      ∀ rk, ∀ e ∈ s.store.held rk, e.id = target → d.publisher = e.publisher
  rotation : d.schemaHash = SCHEMA_HASH_CORE_KEY_ROTATION → ∃ rot,
    keyRotation d.payload = .ok rot ∧ rot.Follows s.rotations[rot.oldIdentity]?

/-- Processing what replaced its slot unopposed succeeds. -/
lemma Unopposed.process (h : s.Unopposed d) :
    ∃ s', (s.replace d).process d = (.ok (), s') ∧ d.id ∉ s'.revoked := by
  -- a revocation finds no target, or one of its publisher's
  obtain ⟨s₁, hrevocation, hid, hrotations⟩ : ∃ s₁ : DescriptorStore,
      (if d.schemaHash = SCHEMA_HASH_CORE_REVOCATION then (s.replace d).processRevocation d
        else (.ok (), s.replace d)) = (.ok (), s₁) ∧ d.id ∉ s₁.revoked ∧
      s₁.rotations = s.rotations := by
    by_cases hschema : d.schemaHash = SCHEMA_HASH_CORE_REVOCATION
    · obtain ⟨target, htarget, hne, hown⟩ := h.revocation hschema
      have hrevoked : d.id ∉ s.revoked.insert target := by
        rw [ExtTreeSet.mem_insert]
        rintro (heq | hmem)
        · exact hne (LawfulEqCmp.eq_of_compare heq)
        · exact h.notRevoked hmem
      rw [if_pos hschema, processRevocation, htarget]
      dsimp only
      split
      case h_1 e hfind =>
        obtain ⟨hid, rk, hmem⟩ := findById_eq_some hfind
        have hpublisher : d.publisher = e.publisher := by
          rcases mem_held_replace.1 hmem with ⟨hold, -⟩ | ⟨rfl, -⟩
          · exact hown rk e hold hid
          · exact absurd hid.symm hne
        rw [if_neg (not_not.2 hpublisher)]
        exact ⟨_, rfl, hrevoked, rfl⟩
      case h_2 => exact ⟨_, rfl, hrevoked, rfl⟩
    · rw [if_neg hschema]
      exact ⟨s.replace d, rfl, h.notRevoked, rfl⟩
  -- a key rotation follows the recorded succession
  obtain ⟨s₂, hrotation, hrevoked⟩ : ∃ s₂ : DescriptorStore,
      (if d.schemaHash = SCHEMA_HASH_CORE_KEY_ROTATION then s₁.processKeyRotation d
        else (.ok (), s₁)) = (.ok (), s₂) ∧ s₂.revoked = s₁.revoked := by
    by_cases hschema : d.schemaHash = SCHEMA_HASH_CORE_KEY_ROTATION
    · obtain ⟨rot, hrot, hfollows⟩ := h.rotation hschema
      rw [← hrotations] at hfollows
      rw [if_pos hschema, processKeyRotation_of_follows hrot hfollows]
      exact ⟨_, rfl, rfl⟩
    · rw [if_neg hschema]
      exact ⟨s₁, rfl, rfl⟩
  refine ⟨s₂, process_ok_iff.2 ⟨s₁, hrevocation, hrotation⟩, ?_⟩
  rw [hrevoked]
  exact hid

/-- A store without anything against a descriptor takes it once the checks let it pass. -/
theorem Unopposed.takes (h : s.Unopposed d) (hcheck : (s.checkStore d now).1 = .ok ()) :
    s.Takes d now := by
  rcases s.storeDescriptorAt_cases d now with ⟨e, -, -, hrefused⟩ | ⟨windows, heq, -⟩
  · rw [hcheck] at hrefused
    cases hrefused
  · have hwindows : ({ s with rateLimiter := windows } : DescriptorStore).Unopposed d :=
      ⟨h.notStale, h.notRevoked, h.revocation, h.rotation⟩
    obtain ⟨s', hprocess, hid⟩ := hwindows.process
    rw [hprocess] at heq
    refine ⟨?_, ?_⟩
    · rw [heq]
    · rw [heq]
      exact hid

/-- Nor has a settled store anything against its descriptor. -/
lemma Settled.unopposed (h : s.Settled d) : s.Unopposed d where
  notStale seq hseq := by
    rw [h.watermark] at hseq
    obtain rfl := Option.some.inj hseq
    exact UInt64.le_refl _
  notRevoked := h.notRevoked
  revocation hschema := by
    obtain ⟨target, htarget, hne, hgone⟩ := h.revocation hschema
    exact ⟨target, htarget, hne, fun rk e he hid => absurd hid (hgone rk e he)⟩
  rotation hschema := by
    obtain ⟨rot, hrot, hrecorded⟩ := h.rotation hschema
    refine ⟨rot, hrot, ?_⟩
    rw [hrecorded]
    intro identity seq hsome
    obtain ⟨rfl, rfl⟩ := Prod.mk.inj (Option.some.inj hsome)
    exact ⟨UInt64.le_refl _, fun _ => rfl⟩

/-- A settled store stays settled when it is sent the descriptor again, accepted or not. -/
theorem Settled.storeDescriptorAt (h : s.Settled d) (now : UInt64) :
    (s.storeDescriptorAt d now).2.Settled d ∧
      ∀ rk t, (s.storeDescriptorAt d now).2.rivals d rk t ≤ s.rivals d rk t := by
  rcases s.storeDescriptorAt_cases d now with ⟨e, windows, heq, -⟩ | ⟨-, -, hcheck⟩
  · rw [heq]
    exact ⟨⟨h.held, h.notRevoked, h.watermark, h.once, h.revocation, h.rotation⟩, fun _ _ => le_rfl⟩
  · exact (h.unopposed.takes hcheck).settled

/-! ## Reading a settled store -/

/-- A settled store serves the descriptor while it is live. -/
lemma Settled.mem_getDescriptorsAt (h : s.Settled d) {rk : Hash} (hrk : rk ∈ d.routingKeys)
    (hlive : d.expiredAt now = false) : d ∈ s.getDescriptorsAt rk none now :=
  DescriptorStore.mem_getDescriptorsAt.2 ⟨h.held rk hrk, h.notRevoked, hlive, rfl⟩

/-- What a settled store serves at a key is the rivals, and the descriptor once for each time it
lists the key. -/
lemma Settled.length_getDescriptorsAt_le (h : s.Settled d) (rk : Hash) (now : UInt64) :
    (s.getDescriptorsAt rk none now).length ≤
      s.rivals d rk now + d.routingKeys.count rk := by
  let same : Descriptor → Bool := fun e => DedupKey.fromDescriptor e = DedupKey.fromDescriptor d
  let served := s.getDescriptorsAt rk none now
  have hsplit : served.length = served.countP (fun e => !same e) + served.countP same := by
    rw [List.length_eq_countP_add_countP same, add_comm]
    simp only [Bool.not_eq_true, Bool.decide_eq_false]
  have hrivals : served.countP (fun e => !same e) = s.rivals d rk now := by
    simp only [served, getDescriptorsAt, List.countP_filter, rivals]
    refine List.countP_congr fun e _ => ?_
    simp [same, admitted, ← ExtTreeSet.contains_iff_mem]
  have hself : served.countP same ≤ d.routingKeys.count rk :=
    List.filter_sublist.countP_le.trans (h.once rk)
  calc served.length = s.rivals d rk now + served.countP same := by rw [hsplit, hrivals]
    _ ≤ s.rivals d rk now + d.routingKeys.count rk := Nat.add_le_add_left hself _

end Crypto

end DescriptorStore

end MeshProtocol
