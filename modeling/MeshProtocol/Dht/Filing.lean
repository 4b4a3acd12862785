import MeshProtocol.Core.Reference
import MeshProtocol.Dht.DescriptorStore
import MeshProtocol.Library.Slots

/-!
# Watermarks and copies in the in-memory store

The in-memory store keeps two maps in step: the watermark of each slot, and the vectors the slot's
descriptor is filed in.  A store call moves the watermark first and may take descriptors out again
afterwards; it never files another one.  So the watermark of a slot is the sequence of what is filed
for it (`watermark_tight`), and a slot has one descriptor, of which a vector holds one copy for each
time the descriptor lists the routing key (`copies_run`).
-/

namespace MeshProtocol

open Std

namespace DescriptorStore

section Processing

variable [Ciborium]

lemma thinned_processRevocation (s : DescriptorStore) (r : Descriptor) :
    (s.processRevocation r).2.store.Thinned s.store := by
  unfold processRevocation
  cases revocationTarget r.payload with
  | error e => exact .refl _
  | ok target =>
    dsimp only
    cases s.findById target with
    | none => exact .refl _
    | some d =>
      dsimp only
      split_ifs
      · exact Buckets.retain_thinned _ _
      · exact (Buckets.dropEmpty_thinned _).trans (Buckets.retain_thinned _ _)

lemma thinned_processKeyRotation (s : DescriptorStore) (r : Descriptor) :
    (s.processKeyRotation r).2.store.Thinned s.store := by
  unfold processKeyRotation
  cases keyRotation r.payload with
  | error e => exact .refl _
  | ok rot =>
    dsimp only
    cases s.rotations[rot.oldIdentity]? with
    | none => exact .refl _
    | some existing =>
      dsimp only
      split_ifs
      · exact Buckets.retain_thinned _ _
      · exact Buckets.retain_thinned _ _
      · exact .refl _

variable [Crypto]

/-- Processing only takes descriptors out, wherever they are filed. -/
lemma thinned_process (s : DescriptorStore) (d : Descriptor) :
    (s.process d).2.store.Thinned s.store := by
  unfold process
  have hfirst : (if d.schemaHash = SCHEMA_HASH_CORE_REVOCATION then s.processRevocation d
      else (.ok (), s)).2.store.Thinned s.store := by
    split_ifs
    · exact s.thinned_processRevocation d
    · exact .refl _
  split
  case h_1 e s₁ heq =>
    rw [heq] at hfirst
    exact hfirst
  case h_2 s₁ heq =>
    rw [heq] at hfirst
    split_ifs
    · exact (s₁.thinned_processKeyRotation d).trans hfirst
    · exact hfirst

end Processing

/-! ## The watermark -/

/-- The descriptors filed have the watermark of their slot as their sequence. -/
def Tight (s : DescriptorStore) : Prop :=
  ∀ rk d, d ∈ s.store.held rk → s.sequences[DedupKey.fromDescriptor d]? = some d.sequence

/-- Every watermark of the first state is still there in the second, and is no lower. -/
def Raised (s s' : DescriptorStore) : Prop :=
  ∀ (k : DedupKey) (seq : UInt64), s.sequences[k]? = some seq →
    ∃ seq', s'.sequences[k]? = some seq' ∧ seq ≤ seq'

lemma Raised.of_eq {s s' : DescriptorStore} (h : s'.sequences = s.sequences) : Raised s s' := by
  intro k seq hseq
  exact ⟨seq, h ▸ hseq, UInt64.le_refl seq⟩

lemma Raised.trans {s s' s'' : DescriptorStore} (h : Raised s s') (h' : Raised s' s'') :
    Raised s s'' := by
  intro k seq hseq
  obtain ⟨seq', hseq', hle⟩ := h k seq hseq
  obtain ⟨seq'', hseq'', hle'⟩ := h' k seq' hseq'
  exact ⟨seq'', hseq'', UInt64.le_trans hle hle'⟩

/-- A table with fewer entries and the same watermarks. -/
lemma Tight.of_within {s s' : DescriptorStore} (h : s.Tight) (hwithin : s'.store.Within s.store)
    (hseq : s'.sequences = s.sequences) : s'.Tight := by
  intro rk d hd
  rw [hseq]
  exact h rk d (hwithin rk d hd)

lemma Tight.replace {s : DescriptorStore} (h : s.Tight) (d : Descriptor) : (s.replace d).Tight := by
  intro rk e he
  change (s.sequences.insert (DedupKey.fromDescriptor d) d.sequence)[_]? = _
  rw [ExtTreeMap.getElem?_insert]
  rcases mem_held_replace.1 he with ⟨hheld, hne⟩ | ⟨rfl, -⟩
  · rw [if_neg fun hcmp => hne (LawfulEqCmp.eq_of_compare hcmp).symm]
    exact h rk e hheld
  · rw [if_pos compare_self]

lemma raised_replace {s : DescriptorStore} {d : Descriptor}
    (h : ∀ seq, s.sequences[DedupKey.fromDescriptor d]? = some seq → seq ≤ d.sequence) :
    Raised s (s.replace d) := by
  intro k seq hseq
  change ∃ seq', (s.sequences.insert (DedupKey.fromDescriptor d) d.sequence)[k]? = some seq' ∧ _
  rw [ExtTreeMap.getElem?_insert]
  by_cases hk : DedupKey.fromDescriptor d = k
  · subst hk
    rw [if_pos compare_self]
    exact ⟨_, rfl, h seq hseq⟩
  · rw [if_neg fun hcmp => hk (LawfulEqCmp.eq_of_compare hcmp)]
    exact ⟨seq, hseq, UInt64.le_refl seq⟩

variable [Crypto] [Ciborium]

/-- A store call, whatever it answers, keeps the watermarks tight and never lowers one. -/
lemma watermark_storeDescriptorAt {s : DescriptorStore} (h : s.Tight) (d : Descriptor)
    (now : UInt64) :
    (s.storeDescriptorAt d now).2.Tight ∧ Raised s (s.storeDescriptorAt d now).2 := by
  rcases s.storeDescriptorAt_cases d now with ⟨e, windows, heq, -⟩ | ⟨windows, heq, hcheck⟩
  · rw [heq]
    exact ⟨h, .of_eq rfl⟩
  · rw [heq]
    have heffect := effect_process
      (({ s with rateLimiter := windows } : DescriptorStore).replace d) d
    have htight : ({ s with rateLimiter := windows } : DescriptorStore).Tight := h
    refine ⟨(htight.replace d).of_within heffect.within heffect.sequences, ?_⟩
    have hraised : Raised s (({ s with rateLimiter := windows } : DescriptorStore).replace d) :=
      raised_replace (checkStore_ok_iff.1 hcheck).2.2
    exact hraised.trans (.of_eq heffect.sequences)

/-- Nor does any other call. -/
lemma watermark_step {s : DescriptorStore} (h : s.Tight) (c : StorageCall DescriptorStore) :
    ((storageMachine DescriptorStore).step s c).2.Tight ∧
      Raised s ((storageMachine DescriptorStore).step s c).2 := by
  rcases s.step_cases c with ⟨d, now, -, hstep⟩ | ⟨now, -, -, hstep⟩ | ⟨-, hstep⟩
  · rw [hstep]
    exact watermark_storeDescriptorAt h d now
  · rw [hstep]
    have hwithin : (s.evictExpiredAt now).store.Within s.store :=
      (Buckets.dropEmpty_within _).trans (Buckets.retain_within _ _)
    exact ⟨h.of_within hwithin rfl, .of_eq rfl⟩
  · rw [hstep]
    exact ⟨h, .of_eq rfl⟩

lemma tight_run (calls : List (StorageCall DescriptorStore)) :
    ((storageMachine DescriptorStore).run new calls).Tight := by
  refine Machine.run_invariant (P := Tight) ?_ (fun s c h => (watermark_step h c).1) calls
  simp [Tight, new]

lemma raised_run (calls more : List (StorageCall DescriptorStore)) :
    Raised ((storageMachine DescriptorStore).run new calls)
      ((storageMachine DescriptorStore).run new (calls ++ more)) := by
  induction more using List.reverseRecOn with
  | nil => exact .of_eq (by rw [List.append_nil])
  | append_singleton more c ih =>
    rw [← List.append_assoc, Machine.run_concat]
    exact ih.trans (watermark_step (tight_run _) c).2

/-- In every run no watermark is ever removed or lowered, and what is filed has the watermark of its
slot as its sequence. -/
theorem watermark_tight (calls : List (StorageCall DescriptorStore)) :
    (∀ (more : List (StorageCall DescriptorStore)) (k : DedupKey) (seq : UInt64),
      ((storageMachine DescriptorStore).run new calls).sequences[k]? = some seq →
        ∃ seq', ((storageMachine DescriptorStore).run new (calls ++ more)).sequences[k]? =
          some seq' ∧ seq ≤ seq') ∧
    ∀ (rk : Hash) (d : Descriptor),
      d ∈ ((storageMachine DescriptorStore).run new calls).store.held rk →
      ((storageMachine DescriptorStore).run new calls).sequences[DedupKey.fromDescriptor d]? =
        some d.sequence :=
  ⟨fun more => raised_run calls more, tight_run calls⟩

omit [Crypto] [Ciborium] in
/-- After one store, the watermark is the sequence of what is filed. -/
theorem target_watermark :
    letI : Crypto := cryptoOf [target]
    letI : Ciborium := referenceCiborium
    ((storageMachine DescriptorStore).run new
      [.storeDescriptorAt target 1700000000000000]).sequences[DedupKey.fromDescriptor target]? =
        some target.sequence := by
  let _ : Crypto := cryptoOf [target]
  let _ : Ciborium := referenceCiborium
  exact (watermark_tight [.storeDescriptorAt target 1700000000000000]).2 computeKey target
    (by decide +kernel)

/-! ## Copies -/

omit [Crypto] [Ciborium]

/-- A slot's descriptor is filed in a vector once for each time it lists the vector's key, and no
other descriptor of the slot is filed. -/
structure Copies (s : DescriptorStore) (slots : DedupKey → Option Descriptor) : Prop where
  key : ∀ {k d}, slots k = some d → DedupKey.fromDescriptor d = k
  held : ∀ rk k, (s.store.held rk).filter (fun e => DedupKey.fromDescriptor e = k) =
    (slots k).elim [] fun d => List.replicate (d.routingKeys.count rk) d

lemma copies_new : Copies new fun _ => none where
  key := by simp
  held := by simp [new]

namespace Copies

variable {s s' : DescriptorStore} {slots : DedupKey → Option Descriptor}

/-- What is filed is what the slots hold. -/
lemma mem_held_iff (h : s.Copies slots) {rk : Hash} {d : Descriptor} :
    d ∈ s.store.held rk ↔ slots (DedupKey.fromDescriptor d) = some d ∧ rk ∈ d.routingKeys := by
  have hmem : d ∈ s.store.held rk ↔ d ∈ (s.store.held rk).filter
      (fun e => DedupKey.fromDescriptor e = DedupKey.fromDescriptor d) := by
    rw [List.mem_filter]
    simp
  rw [hmem, h.held]
  cases hslot : slots (DedupKey.fromDescriptor d) with
  | none => simp
  | some e =>
    rw [Option.elim_some, List.mem_replicate, ← Nat.pos_iff_ne_zero, List.count_pos_iff,
      Option.some.injEq]
    constructor
    · rintro ⟨hrk, rfl⟩
      exact ⟨rfl, hrk⟩
    · rintro ⟨rfl, hrk⟩
      exact ⟨hrk, rfl⟩

/-- Taking descriptors out empties their slots. -/
lemma of_thinned (h : s.Copies slots) (hthinned : s'.store.Thinned s.store) :
    ∃ slots', s'.Copies slots' := by
  obtain ⟨p, hp⟩ := hthinned
  refine ⟨fun k => (slots k).filter p, fun {k d} hd => ?_, fun rk k => ?_⟩
  · exact h.key (Option.filter_eq_some_iff.1 hd).1
  · rw [hp, List.filter_comm, h.held]
    cases slots k with
    | none => rfl
    | some d =>
      rw [Option.elim_some, List.filter_replicate]
      by_cases hd : p d = true
      · simp [Option.filter, hd]
      · simp [Option.filter, hd]

/-- The replacement of a slot's descriptor files as many copies of the new one as it lists keys. -/
lemma replace (h : s.Copies slots) (d : Descriptor) :
    (s.replace d).Copies (Slots.put DedupKey.fromDescriptor slots d) where
  key := by
    intro k e he
    rcases Slots.put_eq_some_iff.1 he with ⟨hk, rfl⟩ | ⟨-, he⟩
    · exact hk
    · exact h.key he
  held rk k := by
    change List.filter _ (Buckets.held (Buckets.file (Buckets.retain s.store _) _ _) _) = _
    rw [Buckets.held_file, Buckets.held_retain, List.filter_append, List.filter_comm, h.held,
      List.filter_replicate]
    by_cases hk : DedupKey.fromDescriptor d = k
    · subst hk
      -- the older version has the slot's key, so the filter drops it
      have hold : ((slots (DedupKey.fromDescriptor d)).elim []
          fun d => List.replicate (d.routingKeys.count rk) d).filter
            (fun e => decide (DedupKey.fromDescriptor e ≠ DedupKey.fromDescriptor d)) = [] := by
        cases hslot : slots (DedupKey.fromDescriptor d) with
        | none => rfl
        | some e => simp [h.key hslot]
      rw [hold]
      simp [Slots.put]
    · have hother : ((slots k).elim []
          fun d => List.replicate (d.routingKeys.count rk) d).filter
            (fun e => decide (DedupKey.fromDescriptor e ≠ DedupKey.fromDescriptor d)) =
          (slots k).elim [] fun d => List.replicate (d.routingKeys.count rk) d := by
        cases hslot : slots k with
        | none => rfl
        | some e => simp [h.key hslot, Ne.symm hk]
      rw [hother]
      simp [Slots.put, Function.update_of_ne (Ne.symm hk), hk]

end Copies

variable [Crypto] [Ciborium]

/-- Every call leaves a slot one descriptor at most. -/
lemma copies_step {s : DescriptorStore} (h : ∃ slots, s.Copies slots)
    (c : StorageCall DescriptorStore) :
    ∃ slots, ((storageMachine DescriptorStore).step s c).2.Copies slots := by
  obtain ⟨slots, h⟩ := h
  rcases s.step_cases c with ⟨d, now, -, hstep⟩ | ⟨now, -, -, hstep⟩ | ⟨-, hstep⟩
  · rw [hstep]
    rcases s.storeDescriptorAt_cases d now with ⟨e, windows, heq, -⟩ | ⟨windows, heq, -⟩
    · rw [heq]
      exact ⟨slots, h.key, h.held⟩
    · rw [heq]
      have hwindows : ({ s with rateLimiter := windows } : DescriptorStore).Copies slots :=
        ⟨h.key, h.held⟩
      exact (hwindows.replace d).of_thinned (thinned_process _ d)
  · rw [hstep]
    have hthinned : (s.evictExpiredAt now).store.Thinned s.store :=
      (Buckets.dropEmpty_thinned _).trans (Buckets.retain_thinned _ _)
    exact h.of_thinned hthinned
  · rw [hstep]
    exact ⟨slots, h⟩

theorem copies_run (calls : List (StorageCall DescriptorStore)) :
    ∃ slots, ((storageMachine DescriptorStore).run new calls).Copies slots :=
  Machine.run_invariant (P := fun s => ∃ slots, Copies s slots) ⟨_, copies_new⟩
    (fun _ c h => copies_step h c) calls

/-! ## Reads -/

omit [Crypto] [Ciborium]

/-- Among the answers to a read, those of one slot are copies of one descriptor, one for each time
it lists the key. -/
lemma Copies.count_read {s : DescriptorStore} {slots : DedupKey → Option Descriptor}
    (h : s.Copies slots) {rk : Hash} {filters : Option FilterSet} {t : UInt64} {d : Descriptor}
    (hd : d ∈ s.getDescriptorsAt rk filters t) :
    ((s.getDescriptorsAt rk filters t).map DedupKey.fromDescriptor).count
      (DedupKey.fromDescriptor d) = d.routingKeys.count rk := by
  obtain ⟨hheld, hvisible⟩ := List.mem_filter.1 hd
  obtain ⟨hslot, -⟩ := h.mem_held_iff.1 hheld
  have hsame : (s.getDescriptorsAt rk filters t).filter
      (fun e => DedupKey.fromDescriptor e = DedupKey.fromDescriptor d) =
        List.replicate (d.routingKeys.count rk) d := by
    rw [getDescriptorsAt, List.filter_comm, h.held, hslot, Option.elim_some, List.filter_replicate,
      if_pos hvisible]
  have hcount := congrArg List.length hsame
  rw [List.length_replicate, ← List.countP_eq_length_filter] at hcount
  rw [List.count, List.countP_map, ← hcount]
  exact List.countP_congr fun e _ => by simp

/-- At a time, the answers to every read belong to different slots just when no descriptor that is
filed, and neither revoked nor expired, lists a routing key twice. -/
theorem Copies.nodup_reads_iff {s : DescriptorStore} {slots : DedupKey → Option Descriptor}
    (h : s.Copies slots) (t : UInt64) :
    (∀ rk filters, ((s.getDescriptorsAt rk filters t).map DedupKey.fromDescriptor).Nodup) ↔
      ∀ rk, ∀ d ∈ s.store.held rk, d.id ∉ s.revoked → d.expiredAt t = false →
        d.routingKeys.Nodup := by
  constructor
  · intro hnodup rk d hheld hrevoked hfresh
    rw [List.nodup_iff_count_le_one]
    intro rk'
    by_cases hrk' : rk' ∈ d.routingKeys
    · -- the descriptor is shown under each of its keys
      have hd' : d ∈ s.getDescriptorsAt rk' none t := mem_getDescriptorsAt.2
        ⟨h.mem_held_iff.2 ⟨(h.mem_held_iff.1 hheld).1, hrk'⟩, hrevoked, hfresh, rfl⟩
      rw [← h.count_read hd']
      exact List.nodup_iff_count_le_one.1 (hnodup rk' none) _
    · rw [List.count_eq_zero_of_not_mem hrk']
      exact Nat.zero_le 1
  · intro hkeys rk filters
    rw [List.nodup_iff_count_le_one]
    intro k
    by_cases hk : k ∈ (s.getDescriptorsAt rk filters t).map DedupKey.fromDescriptor
    · obtain ⟨d, hd, rfl⟩ := List.mem_map.1 hk
      rw [h.count_read hd]
      obtain ⟨hheld, hrevoked, hfresh, -⟩ := mem_getDescriptorsAt.1 hd
      exact List.nodup_iff_count_le_one.1 (hkeys rk d hheld hrevoked hfresh) rk
    · rw [List.count_eq_zero_of_not_mem hk]
      exact Nat.zero_le 1

end DescriptorStore

end MeshProtocol
