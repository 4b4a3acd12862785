import MeshProtocol.Core.Reference
import MeshProtocol.Dht.DescriptorStore
import MeshProtocol.Library.Watermark

/-!
# Revocations in any order

The effect of a revocation is cumulative, but a revocation is a descriptor like any other: all of a
publisher's revocations with one topic share a slot, and one that arrives after another with a
greater sequence is stale.  A stale revocation is refused before it is looked at, so its target
stays.

`revocations_hide_targets`: of a publisher's revocations of its own descriptors, stored in some
order, exactly those that are not stale when they arrive take effect, and what they name stays
hidden whatever happens later.
-/

namespace MeshProtocol

open Bytes

namespace DescriptorStore

section Ciborium

variable [Crypto] [Ciborium]

/-- Stores some descriptors one after the other, all at one time. -/
def storeAll (s : DescriptorStore) (ds : List Descriptor) (now : UInt64) : DescriptorStore :=
  (storageMachine DescriptorStore).run s (ds.map fun d => .storeDescriptorAt d now)

lemma storeAll_concat (s : DescriptorStore) (ds : List Descriptor) (d : Descriptor) (now : UInt64) :
    s.storeAll (ds ++ [d]) now = ((s.storeAll ds now).storeDescriptorAt d now).2 := by
  rw [storeAll, List.map_append, Machine.run_append]
  rfl

/-! ## One store -/

/-- The watermarks of the slots. -/
def marks (s : DescriptorStore) (k : DedupKey) : Option ℕ := s.sequences[k]?.map UInt64.toNat

omit [Crypto] [Ciborium] in
lemma passes_marks {s : DescriptorStore} {k : DedupKey} {seq : UInt64} :
    Watermark.Passes s.marks k seq.toNat ↔ ∀ m, s.sequences[k]? = some m → m ≤ seq := by
  rw [Watermark.Passes, marks]
  cases s.sequences[k]? with
  | none => simp
  | some m => simp [UInt64.le_iff_toNat_le]

/-- A descriptor that gets as far as the sequence check raises the watermark of its slot. -/
lemma marks_storeDescriptorAt {s : DescriptorStore} {d : Descriptor} {now : UInt64}
    (hvalid : d.ValidAt now) (hallows : s.allows d.publisher now = true) :
    (s.storeDescriptorAt d now).2.marks =
      Watermark.raise s.marks (DedupKey.fromDescriptor d, d.sequence.toNat) := by
  unfold Watermark.raise
  cases s.storeDescriptorAt_cases d now with
  | inl hrefused =>
    obtain ⟨e, windows, heq, hcheck⟩ := hrefused
    rw [heq, if_neg]
    · rfl
    · intro hpasses
      have hok := checkStore_ok_iff.2 ⟨hvalid, hallows, passes_marks.1 hpasses⟩
      rw [hok] at hcheck
      cases hcheck
  | inr hstored =>
    obtain ⟨windows, heq, hcheck⟩ := hstored
    rw [if_pos (passes_marks.2 (checkStore_ok_iff.1 hcheck).2.2), heq]
    funext k
    rw [marks, (effect_process _ d).sequences]
    by_cases hk : DedupKey.fromDescriptor d = k
    · subst hk
      simp [replace]
    · simp [replace, Std.ExtTreeMap.getElem?_insert, Std.LawfulEqCmp.compare_eq_iff_eq, hk,
        Function.update_of_ne (Ne.symm hk), marks]

omit [Crypto] in
/-- A well-formed revocation with authority over what the store holds under the named id takes
effect. -/
lemma processRevocation_of_authority {s : DescriptorStore} {r : Descriptor} {id : Hash}
    (hid : revocationTarget r.payload = .ok id)
    (hauth : ∀ d, s.findById id = some d → d.publisher = r.publisher) :
    (s.processRevocation r).2.revoked = s.revoked.insert id := by
  cases s.processRevocation_cases r with
  | inl hrefused =>
    obtain ⟨e, kept, -, heq⟩ := hrefused
    unfold processRevocation at heq ⊢
    rw [hid] at heq ⊢
    dsimp only at heq ⊢
    cases hfind : s.findById id with
    | none => rfl
    | some d =>
      dsimp only
      rw [if_neg (not_not.2 (hauth d hfind).symm)]
  | inr heffect =>
    obtain ⟨id', kept, hid', -, -, heq⟩ := heffect
    rw [hid, Except.ok.injEq] at hid'
    rw [heq, hid']

/-- The processing of a key rotation, where the two special schemas are one, revokes nothing. -/
lemma revoked_process {s : DescriptorStore} {r : Descriptor}
    (hschema : r.schemaHash = SCHEMA_HASH_CORE_REVOCATION) :
    (s.process r).2.revoked = (s.processRevocation r).2.revoked := by
  unfold process
  rw [if_pos hschema]
  cases s.processRevocation r with
  | mk result s' =>
    cases result with
    | error e => rfl
    | ok =>
      dsimp only
      split_ifs
      · exact s'.revoked_processKeyRotation r
      · rfl

/-- A valid revocation with authority revokes its target, unless it is stale. -/
lemma mem_revoked_storeDescriptorAt {s : DescriptorStore} {r : Descriptor} {now : UInt64}
    {id : Hash} (hvalid : r.ValidAt now) (hallows : s.allows r.publisher now = true)
    (hschema : r.schemaHash = SCHEMA_HASH_CORE_REVOCATION)
    (hid : revocationTarget r.payload = .ok id)
    (hauth : ∀ rk d, d ∈ (s.replace r).store.held rk → d.id = id → d.publisher = r.publisher)
    (id' : Hash) :
    id' ∈ (s.storeDescriptorAt r now).2.revoked ↔ id' ∈ s.revoked ∨
      (Watermark.Passes s.marks (DedupKey.fromDescriptor r) r.sequence.toNat ∧ id' = id) := by
  cases s.storeDescriptorAt_cases r now with
  | inl hrefused =>
    obtain ⟨e, windows, heq, hcheck⟩ := hrefused
    have hstale : ¬ Watermark.Passes s.marks (DedupKey.fromDescriptor r) r.sequence.toNat := by
      intro hpasses
      have hok := checkStore_ok_iff.2 ⟨hvalid, hallows, passes_marks.1 hpasses⟩
      rw [hok] at hcheck
      cases hcheck
    rw [heq]
    simp [hstale]
  | inr hstored =>
    obtain ⟨windows, heq, hcheck⟩ := hstored
    have hpasses := passes_marks.2 (checkStore_ok_iff.1 hcheck).2.2
    have hrevoked := processRevocation_of_authority hid (s :=
      ({ s with rateLimiter := windows } : DescriptorStore).replace r) (by
        intro d hfind
        obtain ⟨hdid, rk, hheld⟩ := findById_eq_some hfind
        exact hauth rk d hheld hdid)
    rw [heq, revoked_process hschema, hrevoked, Std.ExtTreeSet.mem_insert,
      Std.LawfulEqCmp.compare_eq_iff_eq]
    simp only [hpasses, true_and, eq_comm (a := id)]
    exact or_comm

/-! ## Runs -/

lemma revoked_process_of_mem {s : DescriptorStore} {d : Descriptor} {id : Hash}
    (h : id ∈ s.revoked) : id ∈ (s.process d).2.revoked := by
  by_cases hschema : d.schemaHash = SCHEMA_HASH_CORE_REVOCATION
  · rw [revoked_process hschema]
    cases s.processRevocation_cases d with
    | inl hrefused =>
      obtain ⟨e, kept, -, heq⟩ := hrefused
      rw [heq]
      exact h
    | inr heffect =>
      obtain ⟨id', kept, -, -, -, heq⟩ := heffect
      rw [heq]
      exact Std.ExtTreeSet.mem_insert.2 (.inr h)
  · unfold process
    rw [if_neg hschema]
    dsimp only
    split_ifs
    · rwa [revoked_processKeyRotation]
    · exact h

/-- A call never takes an id out of the revoked ones. -/
lemma revoked_step (s : DescriptorStore) (c : StorageCall DescriptorStore) {id : Hash}
    (h : id ∈ s.revoked) : id ∈ ((storageMachine DescriptorStore).step s c).2.revoked := by
  rcases s.step_cases c with ⟨d, now, -, hstep⟩ | ⟨now, -, -, hstep⟩ | ⟨-, hstep⟩
  · rw [hstep]
    rcases s.storeDescriptorAt_cases d now with ⟨e, windows, heq, -⟩ | ⟨windows, heq, -⟩
    · rw [heq]
      exact h
    · rw [heq]
      exact revoked_process_of_mem h
  · rw [hstep]
    exact h
  · rw [hstep]
    exact h

/-- What is revoked is never read again. -/
lemma hidden_of_revoked {s : DescriptorStore} {id : Hash} (h : id ∈ s.revoked)
    (later : List (StorageCall DescriptorStore)) {rk : Hash} {filters : Option FilterSet}
    {t : UInt64} {d : Descriptor}
    (hd : d ∈ ((storageMachine DescriptorStore).run s later).getDescriptorsAt rk filters t) :
    d.id ≠ id := by
  have hrevoked : id ∈ ((storageMachine DescriptorStore).run s later).revoked :=
    Machine.run_invariant (P := fun s : DescriptorStore => id ∈ s.revoked) h
      (fun s c hs => s.revoked_step c hs) later
  rintro rfl
  exact (mem_getDescriptorsAt.1 hd).2.1 hrevoked

/-- The rate limit lets every one of the stores pass. -/
def Unlimited (s : DescriptorStore) (ds : List Descriptor) (now : UInt64) : Prop :=
  ∀ pre d, pre ++ [d] <+: ds → (s.storeAll pre now).allows d.publisher now = true

lemma Unlimited.of_concat {s : DescriptorStore} {ds : List Descriptor} {d : Descriptor}
    {now : UInt64} (h : s.Unlimited (ds ++ [d]) now) : s.Unlimited ds now := by
  intro pre e hpre
  exact h pre e (hpre.trans (List.prefix_append ds [d]))

/-- The watermarks after some stores. -/
lemma marks_storeAll {s : DescriptorStore} {ds : List Descriptor} {now : UInt64}
    (hvalid : ∀ d ∈ ds, d.ValidAt now) (hlimit : s.Unlimited ds now) :
    (s.storeAll ds now).marks =
      (ds.map fun d => (DedupKey.fromDescriptor d, d.sequence.toNat)).foldl Watermark.raise
        s.marks := by
  induction ds using List.reverseRecOn with
  | nil => rfl
  | append_singleton ds d ih =>
    have hold := ih (fun e he => hvalid e (List.mem_append_left _ he)) hlimit.of_concat
    rw [storeAll_concat, marks_storeDescriptorAt (hvalid d (by simp))
      (hlimit ds d List.prefix_rfl), hold, List.map_append, List.foldl_append]
    rfl

/-- A revocation by a publisher of a descriptor of its own, as far as descriptors are known that a
store can accept at any time. -/
structure RevokesOwn (known : List Descriptor) (publisher : Identity) (r : Descriptor) : Prop where
  schema : r.schemaHash = SCHEMA_HASH_CORE_REVOCATION
  publisher_eq : r.publisher = publisher
  target : ∃ id, revocationTarget r.payload = .ok id ∧
    ∀ d ∈ known, (∃ time, d.ValidAt time) → d.id = id → d.publisher = publisher

/-- A revocation that is not stale when it arrives after some others in a store: neither the
watermark of its slot nor an earlier one with its topic is greater. -/
def InTime (s : DescriptorStore) (earlier : List Descriptor) (r : Descriptor) : Prop :=
  (∀ seq, s.sequences[DedupKey.fromDescriptor r]? = some seq → seq ≤ r.sequence) ∧
    ∀ r' ∈ earlier, r'.topic = r.topic → r'.sequence ≤ r.sequence

/-- The revocations that are in time are those that pass the watermark. -/
lemma passes_storeAll_iff {s : DescriptorStore} {known pre : List Descriptor} {r : Descriptor}
    {publisher : Identity} {now : UInt64} (hvalid : ∀ d ∈ pre, d.ValidAt now)
    (hlimit : s.Unlimited pre now) (hpre : ∀ d ∈ pre, RevokesOwn known publisher d)
    (hr : RevokesOwn known publisher r) :
    Watermark.Passes (s.storeAll pre now).marks (DedupKey.fromDescriptor r) r.sequence.toNat ↔
      s.InTime pre r := by
  rw [marks_storeAll hvalid hlimit, Watermark.passes_foldl_raise, passes_marks, InTime,
    List.forall_mem_map]
  refine and_congr_right fun _ => forall₂_congr fun r' hr' => ?_
  have hslot : DedupKey.fromDescriptor r' = DedupKey.fromDescriptor r ↔ r'.topic = r.topic := by
    simp [DedupKey.fromDescriptor, (hpre r' hr').publisher_eq, hr.publisher_eq,
      (hpre r' hr').schema, hr.schema]
  rw [hslot, UInt64.le_iff_toNat_le]

/-- What is filed after some more stores was submitted, or is among these, and was valid then. -/
lemma held_storeAll {calls : List (StorageCall DescriptorStore)} {ds : List Descriptor}
    {now : UInt64} {rk : Hash} {d : Descriptor}
    (h : d ∈ (((storageMachine DescriptorStore).run new calls).storeAll ds now).store.held rk) :
    d ∈ submitted calls ++ ds ∧ ∃ time, d.ValidAt time := by
  rw [storeAll, ← Machine.run_append] at h
  obtain ⟨hsubmitted, -, hvalid⟩ := held_run h
  rw [submitted, List.filterMap_append, List.mem_append, ← submitted] at hsubmitted
  refine ⟨?_, hvalid⟩
  rw [List.mem_append]
  refine hsubmitted.imp_right fun hmem => ?_
  simpa [StorageCall.stores] using hmem

/-- What is revoked after some revocations. -/
lemma mem_revoked_storeAll {calls : List (StorageCall DescriptorStore)} {known rs : List Descriptor}
    (hknown : submitted calls ++ rs ⊆ known) {publisher : Identity} {now : UInt64}
    (hvalid : ∀ r ∈ rs, r.ValidAt now) (hown : ∀ r ∈ rs, RevokesOwn known publisher r)
    (hlimit : ((storageMachine DescriptorStore).run new calls).Unlimited rs now) (id : Hash) :
    id ∈ (((storageMachine DescriptorStore).run new calls).storeAll rs now).revoked ↔
      id ∈ ((storageMachine DescriptorStore).run new calls).revoked ∨
        ∃ pre r, pre ++ [r] <+: rs ∧ ((storageMachine DescriptorStore).run new calls).InTime pre r ∧
          revocationTarget r.payload = .ok id := by
  induction rs using List.reverseRecOn with
  | nil => simp [storeAll]
  | append_singleton rs r ih =>
    have hold : ∀ r' ∈ rs, r' ∈ rs ++ [r] := fun r' hr' => List.mem_append_left _ hr'
    have hbefore := ih (fun d hd => hknown (by simp only [List.mem_append] at hd ⊢; tauto))
      (fun r' hr' => hvalid r' (hold r' hr')) (fun r' hr' => hown r' (hold r' hr')) hlimit.of_concat
    have hr := hown r (by simp)
    obtain ⟨target, htarget, hpublisher⟩ := hr.target
    have hauth : ∀ rk d, d ∈ ((((storageMachine DescriptorStore).run new calls).storeAll rs
        now).replace r).store.held rk → d.id = target → d.publisher = r.publisher := by
      intro rk d hd hid
      rw [hr.publisher_eq]
      cases mem_held_replace.1 hd with
      | inl hheld =>
        obtain ⟨hmem, hvalid'⟩ := held_storeAll hheld.1
        refine hpublisher d (hknown ?_) hvalid' hid
        simp only [List.mem_append] at hmem ⊢
        tauto
      | inr hnew =>
        rw [hnew.1]
        exact hr.publisher_eq
    have hstep := mem_revoked_storeDescriptorAt (hvalid r (by simp))
      (hlimit rs r List.prefix_rfl) hr.schema htarget hauth id
    have hpasses := passes_storeAll_iff (fun r' hr' => hvalid r' (hold r' hr')) hlimit.of_concat
      (fun r' hr' => hown r' (hold r' hr')) hr
    have hnamed : revocationTarget r.payload = .ok id ↔ id = target := by
      rw [htarget, Except.ok.injEq, eq_comm]
    rw [storeAll_concat, hstep, hbefore, hpasses, Machine.exists_step_concat_iff, hnamed, or_assoc]

/-- Of a publisher's revocations of its own descriptors, stored in some order at one time, those
that are not stale when they arrive revoke their targets, and these are hidden from every later
read. -/
theorem revocations_hide_targets (calls : List (StorageCall DescriptorStore))
    (rs : List Descriptor) (publisher : Identity) (now : UInt64) (hvalid : ∀ r ∈ rs, r.ValidAt now)
    (hown : ∀ r ∈ rs, RevokesOwn (submitted calls ++ rs) publisher r)
    (hlimit : ((storageMachine DescriptorStore).run new calls).Unlimited rs now) :
    (∀ id, id ∈ (((storageMachine DescriptorStore).run new calls).storeAll rs now).revoked ↔
      id ∈ ((storageMachine DescriptorStore).run new calls).revoked ∨
        ∃ pre r, pre ++ [r] <+: rs ∧ ((storageMachine DescriptorStore).run new calls).InTime pre r ∧
          revocationTarget r.payload = .ok id) ∧
      ∀ pre r id, pre ++ [r] <+: rs →
        ((storageMachine DescriptorStore).run new calls).InTime pre r →
        revocationTarget r.payload = .ok id → ∀ later rk filters t d,
          d ∈ ((storageMachine DescriptorStore).run
            (((storageMachine DescriptorStore).run new calls).storeAll rs now)
            later).getDescriptorsAt rk filters t → d.id ≠ id := by
  have hrevoked := mem_revoked_storeAll (List.Subset.refl _) hvalid hown hlimit
  refine ⟨hrevoked, ?_⟩
  intro pre r id hpre htime hid later rk filters t d hd
  exact hidden_of_revoked ((hrevoked id).2 (.inr ⟨pre, r, hpre, htime, hid⟩)) later hd

end Ciborium

/-! Two capabilities of one publisher, and a revocation of each. -/

/-- Another capability of the second publisher. -/
def secondTarget : Descriptor where
  schemaHash := capabilitySchema
  topic := "second"
  payload := []
  publisher := secondPublisher
  timestamp := 1700000000000000
  sequence := 1
  ttl := 3600
  routingKeys := [computeKey]
  id := hashOf 0x0c6aa49ce58069e5b3f084fa40f35b6fd596c7f2ab8d64be8c391d258a072953
  signature := beBytes 64
    0xd783620c950d85e2c6c8c5988469d7be2196f39acb118eb9e5996a5aaeee01fcae06c8c91aa5e9e44219258e7ccfd73fe8c866359efe6bc9b6c006f66fd7900b

/-- The revocation of `target` with sequence 2. -/
def laterRevocation : Descriptor where
  schemaHash := revocationSchema
  topic := ""
  payload := revocationPayload
  publisher := secondPublisher
  timestamp := 1700000000000000
  sequence := 2
  ttl := 3600
  routingKeys := [computeKey]
  id := hashOf 0xf8fdb6006c50bcf041e5392d7946960b1824ee32eaba565f9be937837aee7646
  signature := beBytes 64
    0x22e12a9d415b816aa1e9210077ac7c7b3614e15bff53a49ec638f81714747b235b265218bf47728b0f147e47bcc948b7a7e197c5b32748dd23d2d1472e588507

/-- The revocation of `secondTarget` with sequence 1. -/
def earlierRevocation : Descriptor where
  schemaHash := revocationSchema
  topic := ""
  payload := Cbor.encode (.map [(.text "target_id", .bytes (hashBytes secondTarget.id))])
  publisher := secondPublisher
  timestamp := 1700000000000000
  sequence := 1
  ttl := 3600
  routingKeys := [computeKey]
  id := hashOf 0x3f4fb946636dffc7ac88ea6db4a7ee9578c1e0b345d46d025e8b428fcd1a7719
  signature := beBytes 64
    0xcd6b6c3d735efb23ddfeaf575b275156fc28d7e9e3a39a6b47b8bb5a0608b7038630c2d6716181afbc01439f5191fc8032670583a6bf4b08150f4eade7bdd80a

/-- The two capabilities are stored. -/
def twoTargets [Crypto] [Ciborium] : List (StorageCall DescriptorStore) :=
  [.storeDescriptorAt target 1700000000000000, .storeDescriptorAt secondTarget 1700000000000000]

lemma revokesOwn_of_publisher [Crypto] [Ciborium] {known : List Descriptor} {r : Descriptor}
    (hknown : ∀ d ∈ known, d.publisher = secondPublisher)
    (hschema : r.schemaHash = SCHEMA_HASH_CORE_REVOCATION) (hmem : r ∈ known) {id : Hash}
    (hid : revocationTarget r.payload = .ok id) : RevokesOwn known secondPublisher r where
  schema := hschema
  publisher_eq := hknown r hmem
  target := ⟨id, hid, fun d hd _ _ => hknown d hd⟩

section Orders

/-- The cryptography of the two capabilities and their revocations. -/
@[reducible] def fourCrypto : Crypto :=
  cryptoOf [target, secondTarget, laterRevocation, earlierRevocation]

variable {first second : Descriptor}

/-- In both orders all of them are valid and revoke descriptors of their publisher. -/
lemma revocations_own
    (h : [first, second] = [earlierRevocation, laterRevocation] ∨
      [first, second] = [laterRevocation, earlierRevocation]) :
    letI : Crypto := fourCrypto
    letI : Ciborium := referenceCiborium
    (∀ r ∈ [first, second], r.ValidAt 1700000000000000) ∧
      ∀ r ∈ [first, second],
        RevokesOwn (submitted twoTargets ++ [first, second]) secondPublisher r := by
  let _ : Crypto := fourCrypto
  let _ : Ciborium := referenceCiborium
  have hvalid : ∀ r ∈ [earlierRevocation, laterRevocation],
      r.validate 1700000000000000 = .ok () := by decide +kernel
  have hschema : ∀ r ∈ [earlierRevocation, laterRevocation],
      r.schemaHash = SCHEMA_HASH_CORE_REVOCATION := by decide +kernel
  have htarget : ∀ r ∈ [earlierRevocation, laterRevocation],
      revocationTarget r.payload = .ok target.id ∨
        revocationTarget r.payload = .ok secondTarget.id := by decide +kernel
  have hknown : ∀ d ∈ submitted twoTargets ++ [earlierRevocation, laterRevocation],
      d.publisher = secondPublisher := by decide +kernel
  have hmem : ∀ r, r ∈ [first, second] ↔ r ∈ [earlierRevocation, laterRevocation] := by
    intro r
    cases h with
    | inl hordered => rw [hordered]
    | inr hswapped =>
      rw [hswapped]
      simp [or_comm]
  refine ⟨fun r hr => Descriptor.validate_eq_ok_iff.1 (hvalid r ((hmem r).1 hr)), fun r hr => ?_⟩
  have hall : ∀ d ∈ submitted twoTargets ++ [first, second], d.publisher = secondPublisher := by
    intro d hd
    rw [List.mem_append, hmem d, ← List.mem_append] at hd
    exact hknown d hd
  have hr' := (hmem r).1 hr
  cases htarget r hr' with
  | inl hid =>
    exact revokesOwn_of_publisher hall (hschema r hr') (List.mem_append_right _ hr) hid
  | inr hid =>
    exact revokesOwn_of_publisher hall (hschema r hr') (List.mem_append_right _ hr) hid

end Orders

/-- In the order of their sequences both revocations take effect. -/
theorem ordered_revocations_hide :
    letI : Crypto := fourCrypto
    letI : Ciborium := referenceCiborium
    target.id ∈ (((storageMachine DescriptorStore).run new twoTargets).storeAll
        [earlierRevocation, laterRevocation] 1700000000000000).revoked ∧
      secondTarget.id ∈ (((storageMachine DescriptorStore).run new twoTargets).storeAll
        [earlierRevocation, laterRevocation] 1700000000000000).revoked := by
  let _ : Crypto := fourCrypto
  let _ : Ciborium := referenceCiborium
  obtain ⟨hvalid, hown⟩ := revocations_own (.inl rfl)
  have hlimit : ((storageMachine DescriptorStore).run new twoTargets).Unlimited
      [earlierRevocation, laterRevocation] 1700000000000000 := by
    intro pre d hpre
    rcases Machine.step_of_pair hpre with ⟨rfl, rfl⟩ | ⟨rfl, rfl⟩
    · decide +kernel
    · decide +kernel
  have hmark : ∀ r ∈ [earlierRevocation, laterRevocation],
      ((storageMachine DescriptorStore).run new twoTargets).sequences[DedupKey.fromDescriptor r]? =
        none := by decide +kernel
  have hall := (revocations_hide_targets twoTargets [earlierRevocation, laterRevocation]
    secondPublisher 1700000000000000 hvalid hown hlimit).1
  refine ⟨(hall _).2 (.inr ⟨[earlierRevocation], laterRevocation, List.prefix_rfl, ⟨?_, ?_⟩, ?_⟩),
    (hall _).2 (.inr ⟨[], earlierRevocation, by simp, ⟨?_, by simp⟩, ?_⟩)⟩
  · simp [hmark laterRevocation]
  · decide +kernel
  · decide +kernel
  · simp [hmark earlierRevocation]
  · decide +kernel

/-- In the other order the second revocation is stale, and its target is still served. -/
theorem reordered_revocation_lost :
    letI : Crypto := fourCrypto
    letI : Ciborium := referenceCiborium
    (∀ r ∈ [laterRevocation, earlierRevocation], r.ValidAt 1700000000000000) ∧
      (∀ r ∈ [laterRevocation, earlierRevocation], RevokesOwn
        (submitted twoTargets ++ [laterRevocation, earlierRevocation]) secondPublisher r) ∧
      ((storageMachine DescriptorStore).run new twoTargets).Unlimited
        [laterRevocation, earlierRevocation] 1700000000000000 ∧
      revocationTarget earlierRevocation.payload = .ok secondTarget.id ∧
      secondTarget ∈ (((storageMachine DescriptorStore).run new twoTargets).storeAll
        [laterRevocation, earlierRevocation] 1700000000000000).getDescriptorsAt computeKey none
          1700000000000000 := by
  let _ : Crypto := fourCrypto
  let _ : Ciborium := referenceCiborium
  obtain ⟨hvalid, hown⟩ := revocations_own (.inr rfl)
  refine ⟨hvalid, hown, ?_, by decide +kernel, by decide +kernel⟩
  intro pre d hpre
  rcases Machine.step_of_pair hpre with ⟨rfl, rfl⟩ | ⟨rfl, rfl⟩
  · decide +kernel
  · decide +kernel

end DescriptorStore

end MeshProtocol
