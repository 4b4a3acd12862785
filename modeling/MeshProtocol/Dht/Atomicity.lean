import MeshProtocol.Core.Reference
import MeshProtocol.Dht.DescriptorStore

/-!
# What a rejected store leaves behind

A store call of the in-memory store that fails in its checks changes nothing but the rate-limit
windows.  One that fails later, on a malformed payload or on the authority of a revocation or key
rotation, fails after the sequence tracker was advanced and the slot was replaced.  The clean-up of
these exits takes the new descriptor out again, or does not, and never puts the old one back.

`rejected_store_unchanged_iff` says in which states such a call changes nothing that can be seen.
-/

namespace MeshProtocol

open Std Bytes KeyOrder

namespace DescriptorStore

/-! ## What is seen of a store -/

/-- The descriptors at a routing key that are not revoked, expired or not. -/
def visible (s : DescriptorStore) (rk : Hash) : List Descriptor :=
  (s.store.held rk).filter fun d => !s.revoked.contains d.id

/-- Two stores with the same reads, sequences, revocations and rotations. -/
structure SameView (s s' : DescriptorStore) : Prop where
  reads : ∀ rk filters t, s'.getDescriptorsAt rk filters t = s.getDescriptorsAt rk filters t
  sequences : s'.sequences = s.sequences
  revoked : s'.revoked = s.revoked
  rotations : s'.rotations = s.rotations

lemma getDescriptorsAt_eq_visible (s : DescriptorStore) (rk : Hash) (filters : Option FilterSet)
    (t : UInt64) : s.getDescriptorsAt rk filters t =
      (s.visible rk).filter fun d => !d.expiredAt t && admitted filters d := by
  rw [getDescriptorsAt, visible, List.filter_filter]
  refine List.filter_congr fun d _ => ?_
  rw [Bool.and_assoc, Bool.and_comm]

/-- At time zero nothing with a lifetime has expired, so an unfiltered read shows all that is
visible. -/
lemma getDescriptorsAt_zero {s : DescriptorStore} {rk : Hash}
    (h : ∀ d ∈ s.store.held rk, d.expiredAt 0 = false) :
    s.getDescriptorsAt rk none 0 = s.visible rk := by
  rw [getDescriptorsAt_eq_visible, List.filter_eq_self]
  intro d hd
  simp [h d (List.mem_filter.1 hd).1]

lemma SameView.of_visible {s s' : DescriptorStore} (hvisible : ∀ rk, s'.visible rk = s.visible rk)
    (hsequences : s'.sequences = s.sequences) (hrevoked : s'.revoked = s.revoked)
    (hrotations : s'.rotations = s.rotations) : SameView s s' where
  reads rk filters t := by
    rw [getDescriptorsAt_eq_visible, getDescriptorsAt_eq_visible, hvisible]
  sequences := hsequences
  revoked := hrevoked
  rotations := hrotations

end DescriptorStore

namespace Descriptor

variable [Crypto]

lemma ValidAt.expiredAt_zero {d : Descriptor} {now : UInt64} (h : d.ValidAt now) :
    d.expiredAt 0 = false := by
  cases hzero : d.expiredAt 0 with
  | false => rfl
  | true =>
    have hlater := h.expiredAt_mono (UInt64.zero_le : 0 ≤ now) hzero
    rw [h.fresh] at hlater
    cases hlater

end Descriptor

namespace DescriptorStore

/-! ## The two kinds of failures after the checks -/

section Ciborium

variable [Crypto] [Ciborium]

/-- A revocation or key rotation whose payload is not well formed. -/
def Malformed (d : Descriptor) : Prop :=
  (d.schemaHash = SCHEMA_HASH_CORE_REVOCATION ∧ ∃ e, revocationTarget d.payload = .error e) ∨
    (d.schemaHash = SCHEMA_HASH_CORE_KEY_ROTATION ∧ ∃ e, keyRotation d.payload = .error e)

omit [Crypto] in
/-- A refused revocation has a malformed payload, and is left where it is, or no authority, and is
taken out again. -/
lemma processRevocation_error {s : DescriptorStore} {r : Descriptor} {e : StoreError}
    (h : (s.processRevocation r).1 = .error e) :
    ((∃ e', revocationTarget r.payload = .error e') ∧ (s.processRevocation r).2 = s) ∨
      ((∃ id, revocationTarget r.payload = .ok id) ∧
        (s.processRevocation r).2 = s.retain fun d => d.id ≠ r.id) := by
  unfold processRevocation at h ⊢
  cases htarget : revocationTarget r.payload with
  | error e' => exact .inl ⟨⟨e', rfl⟩, rfl⟩
  | ok id =>
    rw [htarget] at h
    dsimp only at h ⊢
    cases hfind : s.findById id with
    | none =>
      rw [hfind] at h
      cases h
    | some target =>
      rw [hfind] at h
      dsimp only at h ⊢
      by_cases hpub : r.publisher ≠ target.publisher
      · rw [if_pos hpub]
        exact .inr ⟨⟨id, rfl⟩, rfl⟩
      · rw [if_neg hpub] at h
        cases h

omit [Crypto] in
/-- A refused key rotation has a malformed payload, and is left where it is, or does not follow the
recorded one, and is taken out again. -/
lemma processKeyRotation_error {s : DescriptorStore} {r : Descriptor} {e : StoreError}
    (h : (s.processKeyRotation r).1 = .error e) :
    ((∃ e', keyRotation r.payload = .error e') ∧ (s.processKeyRotation r).2 = s) ∨
      ((∃ rot, keyRotation r.payload = .ok rot) ∧
        (s.processKeyRotation r).2 = s.retain fun d => d.id ≠ r.id) := by
  unfold processKeyRotation at h ⊢
  cases hrot : keyRotation r.payload with
  | error e' => exact .inl ⟨⟨e', rfl⟩, rfl⟩
  | ok rot =>
    rw [hrot] at h
    dsimp only at h ⊢
    refine .inr ⟨⟨rot, rfl⟩, ?_⟩
    cases hold : s.rotations[rot.oldIdentity]? with
    | none =>
      rw [hold] at h
      cases h
    | some existing =>
      obtain ⟨existingIdentity, existingSeq⟩ := existing
      rw [hold] at h
      dsimp only at h ⊢
      by_cases hfork : rot.rotationSeq = existingSeq ∧ existingIdentity ≠ rot.newIdentity
      · rw [if_pos hfork]
      · rw [if_neg hfork] at h ⊢
        by_cases hstale : rot.rotationSeq < existingSeq
        · rw [if_pos hstale]
        · rw [if_neg hstale] at h
          cases h

/-- A revocation is processed as one, and not as a key rotation too. -/
lemma process_of_revocation {s : DescriptorStore} {d : Descriptor}
    (hrev : d.schemaHash = SCHEMA_HASH_CORE_REVOCATION)
    (hdistinct : SCHEMA_HASH_CORE_REVOCATION ≠ SCHEMA_HASH_CORE_KEY_ROTATION) :
    s.process d = s.processRevocation d := by
  have hrot : d.schemaHash ≠ SCHEMA_HASH_CORE_KEY_ROTATION := hrev ▸ hdistinct
  unfold process
  rw [if_pos hrev]
  cases s.processRevocation d with
  | mk result s' =>
    cases result with
    | error e => rfl
    | ok => exact if_neg hrot

lemma process_of_rotation {s : DescriptorStore} {d : Descriptor}
    (hrev : d.schemaHash ≠ SCHEMA_HASH_CORE_REVOCATION)
    (hrot : d.schemaHash = SCHEMA_HASH_CORE_KEY_ROTATION) :
    s.process d = s.processKeyRotation d := by
  unfold process
  rw [if_neg hrev]
  exact if_pos hrot

/-- Processing that fails leaves the store as it is, if the payload is malformed, or takes the
descriptor out again. -/
lemma process_error (hdistinct : SCHEMA_HASH_CORE_REVOCATION ≠ SCHEMA_HASH_CORE_KEY_ROTATION)
    {s : DescriptorStore} {d : Descriptor} {e : StoreError} (h : (s.process d).1 = .error e) :
    (Malformed d ∧ (s.process d).2 = s) ∨
      (¬ Malformed d ∧ (s.process d).2 = s.retain fun e => e.id ≠ d.id) := by
  by_cases hrev : d.schemaHash = SCHEMA_HASH_CORE_REVOCATION
  · have hrot : d.schemaHash ≠ SCHEMA_HASH_CORE_KEY_ROTATION := hrev ▸ hdistinct
    rw [process_of_revocation hrev hdistinct] at h ⊢
    cases processRevocation_error h with
    | inl hmalformed => exact .inl ⟨.inl ⟨hrev, hmalformed.1⟩, hmalformed.2⟩
    | inr hrefused =>
      obtain ⟨⟨id, hid⟩, heq⟩ := hrefused
      refine .inr ⟨?_, heq⟩
      rintro (⟨-, e', he'⟩ | ⟨hschema, -⟩)
      · rw [hid] at he'
        cases he'
      · exact hrot hschema
  · by_cases hrot : d.schemaHash = SCHEMA_HASH_CORE_KEY_ROTATION
    · rw [process_of_rotation hrev hrot] at h ⊢
      cases processKeyRotation_error h with
      | inl hmalformed => exact .inl ⟨.inr ⟨hrot, hmalformed.1⟩, hmalformed.2⟩
      | inr hrefused =>
        obtain ⟨⟨rot, hok⟩, heq⟩ := hrefused
        refine .inr ⟨?_, heq⟩
        rintro (⟨hschema, -⟩ | ⟨-, e', he'⟩)
        · exact hrev hschema
        · rw [hok] at he'
          cases he'
    · rw [process_of_plain hrev hrot] at h
      cases h

/-! ## Rejected stores -/

omit [Crypto] [Ciborium] in
lemma visible_retain (s : DescriptorStore) (p : Descriptor → Bool) (rk : Hash) :
    (s.retain p).visible rk = (s.visible rk).filter p := by
  simp only [visible, retain, Buckets.held_retain, List.filter_filter]
  refine List.filter_congr fun d _ => ?_
  exact Bool.and_comm _ _

omit [Crypto] [Ciborium] in
/-- The replacement drops the slot's descriptors and appends the new one. -/
lemma visible_replace (s : DescriptorStore) (d : Descriptor) (rk : Hash) :
    (s.replace d).visible rk =
      ((s.visible rk).filter fun e => DedupKey.fromDescriptor e ≠ DedupKey.fromDescriptor d) ++
        (List.replicate (d.routingKeys.count rk) d).filter fun e => !s.revoked.contains e.id := by
  simp only [visible, replace, Buckets.held_file, Buckets.held_retain, List.filter_append,
    List.filter_filter]
  congr 1
  refine List.filter_congr fun e _ => ?_
  exact Bool.and_comm _ _

/-- The states in which a store call of a descriptor that fails after the checks changes nothing:
the watermark of its slot is the descriptor's own sequence, and the slot shows what the call leaves
in it.  After a malformed payload that is the descriptor at the end of its routing keys (nothing, if
its id is revoked), otherwise it is nothing. -/
structure NoTrace (s : DescriptorStore) (d : Descriptor) : Prop where
  watermark : s.sequences[DedupKey.fromDescriptor d]? = some d.sequence
  malformed : Malformed d → ∀ rk, s.visible rk =
    ((s.visible rk).filter fun e => DedupKey.fromDescriptor e ≠ DedupKey.fromDescriptor d) ++
      (List.replicate (d.routingKeys.count rk) d).filter fun e => !s.revoked.contains e.id
  refused : ¬ Malformed d → ∀ rk, ∀ e ∈ s.visible rk,
    DedupKey.fromDescriptor e ≠ DedupKey.fromDescriptor d ∧ e.id ≠ d.id

/-- What the reads show once the processing has failed. -/
lemma visible_process_error
    (hdistinct : SCHEMA_HASH_CORE_REVOCATION ≠ SCHEMA_HASH_CORE_KEY_ROTATION)
    {s : DescriptorStore} {d : Descriptor} {e : StoreError}
    (h : ((s.replace d).process d).1 = .error e) :
    (∀ rk, ((s.replace d).process d).2.visible rk = s.visible rk) ↔
      (Malformed d → ∀ rk, s.visible rk =
        ((s.visible rk).filter fun e => DedupKey.fromDescriptor e ≠ DedupKey.fromDescriptor d) ++
          (List.replicate (d.routingKeys.count rk) d).filter fun e => !s.revoked.contains e.id) ∧
      (¬ Malformed d → ∀ rk, ∀ e ∈ s.visible rk,
        DedupKey.fromDescriptor e ≠ DedupKey.fromDescriptor d ∧ e.id ≠ d.id) := by
  cases process_error hdistinct h with
  | inl hleft =>
    obtain ⟨hmalformed, heq⟩ := hleft
    rw [heq]
    simp only [visible_replace, hmalformed, not_true_eq_false, false_implies, forall_const,
      and_true]
    exact forall_congr' fun rk => eq_comm
  | inr htaken =>
    obtain ⟨hwell, heq⟩ := htaken
    have hown : ∀ rk, ((List.replicate (d.routingKeys.count rk) d).filter
        fun e => !s.revoked.contains e.id).filter (fun e => e.id ≠ d.id) = [] := by
      intro rk
      rw [List.filter_eq_nil_iff]
      intro e he
      rw [List.eq_of_mem_replicate (List.mem_filter.1 he).1]
      simp
    rw [heq]
    simp only [visible_retain, visible_replace, List.filter_append, hown, List.append_nil,
      List.filter_filter, List.filter_eq_self, hwell, not_false_eq_true, false_implies,
      forall_const, true_and, Bool.and_eq_true, decide_eq_true_eq]
    exact forall_congr' fun rk => forall₂_congr fun e _ => and_comm

lemma revoked_process_error
    (hdistinct : SCHEMA_HASH_CORE_REVOCATION ≠ SCHEMA_HASH_CORE_KEY_ROTATION)
    {s : DescriptorStore} {d : Descriptor} {e : StoreError} (h : (s.process d).1 = .error e) :
    (s.process d).2.revoked = s.revoked := by
  cases process_error hdistinct h with
  | inl hleft => rw [hleft.2]
  | inr htaken =>
    rw [htaken.2]
    rfl

/-- The calls that are rejected and change nothing that can be seen: those that the checks reject,
and those that leave no trace. -/
def Harmless (s : DescriptorStore) (d : Descriptor) (now : UInt64) : Prop :=
  (d.ValidAt now → s.allows d.publisher now = true →
    ∃ seq, s.sequences[DedupKey.fromDescriptor d]? = some seq ∧ d.sequence < seq) ∨ s.NoTrace d

omit [Ciborium] in
/-- What the checks reject is not valid, or refused by the rate limit, or older than its slot. -/
lemma checkStore_refused {s : DescriptorStore} {d : Descriptor} {now : UInt64} {e : StoreError}
    (h : (s.checkStore d now).1 = .error e) (hvalid : d.ValidAt now)
    (hallows : s.allows d.publisher now = true) :
    ∃ seq, s.sequences[DedupKey.fromDescriptor d]? = some seq ∧ d.sequence < seq := by
  by_contra hnone
  have hok : (s.checkStore d now).1 = .ok () := by
    refine checkStore_ok_iff.2 ⟨hvalid, hallows, fun seq hseq => ?_⟩
    exact UInt64.not_lt.1 fun hlt => hnone ⟨seq, hseq, hlt⟩
  rw [hok] at h
  cases h

/-- Failed processing changes nothing that can be seen exactly if it leaves no trace. -/
lemma sameView_process_iff
    (hdistinct : SCHEMA_HASH_CORE_REVOCATION ≠ SCHEMA_HASH_CORE_KEY_ROTATION)
    {s s' : DescriptorStore} {windows : ExtTreeMap Identity (List UInt64)} {d : Descriptor}
    {e : StoreError}
    (hs' : (({ s with rateLimiter := windows } : DescriptorStore).replace d).process d =
      (.error e, s'))
    (hheld : ∀ rk, ∀ e ∈ s.store.held rk, e.expiredAt 0 = false)
    (hheld' : ∀ rk, ∀ e ∈ s'.store.held rk, e.expiredAt 0 = false) :
    SameView s s' ↔ s.NoTrace d := by
  have hrejected : ((({ s with rateLimiter := windows } : DescriptorStore).replace d).process d).1 =
      .error e := by rw [hs']
  have heffect := effect_process
    (({ s with rateLimiter := windows } : DescriptorStore).replace d) d
  have hvisible := visible_process_error hdistinct hrejected
  have hrevoked := revoked_process_error hdistinct hrejected
  have hrotations := heffect.unrecorded fun hok => by
    rw [hrejected] at hok
    cases hok.1
  have hsequences := heffect.sequences
  rw [hs'] at hvisible hrevoked hrotations hsequences
  constructor
  · intro hsame
    have hreads : ∀ rk, s'.visible rk = s.visible rk := by
      intro rk
      rw [← getDescriptorsAt_zero (hheld' rk), ← getDescriptorsAt_zero (hheld rk), hsame.reads]
    obtain ⟨hmalformed, hrefused⟩ := hvisible.1 hreads
    refine ⟨?_, hmalformed, hrefused⟩
    rw [hsame.sequences] at hsequences
    rw [hsequences]
    exact ExtTreeMap.getElem?_insert_self
  · intro htrace
    have hwatermark : s.sequences.insert (DedupKey.fromDescriptor d) d.sequence = s.sequences :=
      insert_getElem? htrace.watermark
    exact SameView.of_visible (hvisible.2 ⟨htrace.malformed, htrace.refused⟩)
      (hsequences.trans hwatermark) hrevoked hrotations

/-- A rejected store call changes nothing that can be seen exactly if its checks reject it, or the
store shows beforehand what it leaves behind. -/
theorem rejected_store_unchanged_iff
    (hdistinct : SCHEMA_HASH_CORE_REVOCATION ≠ SCHEMA_HASH_CORE_KEY_ROTATION)
    (calls : List (StorageCall DescriptorStore)) (d : Descriptor) (now : UInt64) (e : StoreError)
    (hrejected : (((storageMachine DescriptorStore).run new calls).storeDescriptorAt d now).1 =
      .error e) :
    SameView ((storageMachine DescriptorStore).run new calls)
        (((storageMachine DescriptorStore).run new calls).storeDescriptorAt d now).2 ↔
      Harmless ((storageMachine DescriptorStore).run new calls) d now := by
  have hheld : ∀ rk, ∀ e ∈ ((storageMachine DescriptorStore).run new calls).store.held rk,
      e.expiredAt 0 = false := by
    intro rk e he
    obtain ⟨-, -, now, hvalid⟩ := held_run he
    exact hvalid.expiredAt_zero
  generalize (storageMachine DescriptorStore).run new calls = s at hrejected hheld ⊢
  cases s.storeDescriptorAt_cases d now with
  | inl hchecks =>
    obtain ⟨e', windows, heq, hcheck⟩ := hchecks
    have hsame : SameView s (s.storeDescriptorAt d now).2 := by
      rw [heq]
      exact SameView.of_visible (fun _ => rfl) rfl rfl rfl
    exact iff_of_true hsame (.inl (checkStore_refused hcheck))
  | inr hlater =>
    obtain ⟨windows, heq, hcheck⟩ := hlater
    obtain ⟨hvalid, hallows, hseq⟩ := checkStore_ok_iff.1 hcheck
    have hheld' :
        ∀ rk, ∀ e ∈ (s.storeDescriptorAt d now).2.store.held rk, e.expiredAt 0 = false := by
      intro rk e he
      cases mem_held_storeDescriptorAt he with
      | inl hold => exact hheld rk e hold
      | inr hnew =>
        obtain ⟨rfl, -, hvalid⟩ := hnew
        exact hvalid.expiredAt_zero
    rw [sameView_process_iff hdistinct (heq.symm.trans (Prod.ext hrejected rfl)) hheld hheld']
    -- a store that passes the checks is harmless only without a trace
    refine ⟨.inr, fun hharmless => ?_⟩
    cases hharmless with
    | inl hstale =>
      obtain ⟨seq, hwatermark, hlt⟩ := hstale hvalid hallows
      exact absurd (hseq seq hwatermark) (UInt64.not_le.2 hlt)
    | inr htrace => exact htrace

end Ciborium

/-- A revocation whose payload is an empty map. -/
def untargetedRevocation : Descriptor where
  schemaHash := revocationSchema
  topic := ""
  payload := [0xA0]
  publisher := secondPublisher
  timestamp := 1700000000000000
  sequence := 1
  ttl := 3600
  routingKeys := [computeKey]
  id := hashOf 0x37e687dae3f2b718f10792a566af969f9ab9e51f5f3b58e94c47d7b9ff59408e
  signature := beBytes 64
    0x450d858d3d0c81eb39ecc6c6037a8f93521c325e96f20ccc0bb3996425162f1c8ac30215eea0bc5267a2a8716360ee35b532e4bcef320a20217d44d2df2d610c

/-- `target` and its successor are stored. -/
def succession [Crypto] [Ciborium] : List (StorageCall DescriptorStore) :=
  [.storeDescriptorAt target 1700000000000000, .storeDescriptorAt moved 1700000000000000]

/-- `target` is stored, and the malformed revocation is rejected. -/
def failedRevocation [Crypto] [Ciborium] : List (StorageCall DescriptorStore) :=
  [.storeDescriptorAt target 1700000000000000,
    .storeDescriptorAt untargetedRevocation 1700000000000000]

/-- A version that comes after its successor changes nothing, and neither does the malformed
revocation the second time. -/
theorem replayed_stores_unchanged :
    letI : Crypto := cryptoOf [target, moved, untargetedRevocation]
    letI : Ciborium := referenceCiborium
    SameView ((storageMachine DescriptorStore).run new succession)
        (((storageMachine DescriptorStore).run new succession).storeDescriptorAt target
          1700000000000000).2 ∧
      SameView ((storageMachine DescriptorStore).run new failedRevocation)
        (((storageMachine DescriptorStore).run new failedRevocation).storeDescriptorAt
          untargetedRevocation 1700000000000000).2 := by
  let _ : Crypto := cryptoOf [target, moved, untargetedRevocation]
  let _ : Ciborium := referenceCiborium
  have hdistinct : SCHEMA_HASH_CORE_REVOCATION ≠ SCHEMA_HASH_CORE_KEY_ROTATION := by
    decide +kernel
  constructor
  · refine (rejected_store_unchanged_iff hdistinct succession target 1700000000000000
      (.staleDescriptor 1 2) (by decide +kernel)).2 (.inl fun _ _ => ?_)
    exact ⟨moved.sequence, by decide +kernel, by decide⟩
  · have hmalformed : Malformed untargetedRevocation := by
      refine .inl ⟨rfl, .validationFailed "revocation payload missing target_id", ?_⟩
      decide +kernel
    refine (rejected_store_unchanged_iff hdistinct failedRevocation untargetedRevocation
      1700000000000000 (.validationFailed "revocation payload missing target_id")
      (by decide +kernel)).2 (.inr ?_)
    refine ⟨by decide +kernel, fun _ rk => ?_, fun h => absurd hmalformed h⟩
    by_cases hrk : rk = computeKey
    · rw [hrk]
      decide +kernel
    · have hkeys : ∀ d ∈ submitted failedRevocation, d.routingKeys = [computeKey] := by decide
      have hnone : ((storageMachine DescriptorStore).run new failedRevocation).visible rk = [] := by
        refine List.eq_nil_iff_forall_not_mem.2 fun d hd => hrk ?_
        obtain ⟨hd, hlisted, -⟩ := held_run (List.mem_filter.1 hd).1
        rw [hkeys d hd] at hlisted
        exact List.mem_singleton.1 hlisted
      have hcount : untargetedRevocation.routingKeys.count rk = 0 :=
        List.count_eq_zero.2 fun hmem => hrk (List.mem_singleton.1 hmem)
      rw [hnone, hcount]
      rfl

/-- The rejected revocation is served, and the watermark of its slot is set. -/
theorem untargetedRevocation_served :
    letI : Crypto := cryptoOf [untargetedRevocation]
    letI : Ciborium := referenceCiborium
    (new.storeDescriptorAt untargetedRevocation 1700000000000000).1 =
        .error (.validationFailed "revocation payload missing target_id") ∧
      ¬ SameView new (new.storeDescriptorAt untargetedRevocation 1700000000000000).2 := by
  let _ : Crypto := cryptoOf [untargetedRevocation]
  let _ : Ciborium := referenceCiborium
  refine ⟨by decide +kernel, fun hsame => ?_⟩
  have hbefore : new.getDescriptorsAt computeKey none 1700000000000000 = [] := by decide +kernel
  have hafter : (new.storeDescriptorAt untargetedRevocation 1700000000000000).2.getDescriptorsAt
      computeKey none 1700000000000000 = [untargetedRevocation] := by decide +kernel
  have hreads := hsame.reads computeKey none 1700000000000000
  rw [hbefore, hafter] at hreads
  cases hreads

end DescriptorStore

end MeshProtocol
