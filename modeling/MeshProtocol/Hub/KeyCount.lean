import MeshProtocol.Dht.Atomicity
import MeshProtocol.Hub.Redb

/-!
# How many routing keys there are

`routing_key_count` is to be the number of routing keys with stored descriptors.  The in-memory
store answers with the number of its buckets, some of which may be empty: a descriptor that
replaces one with other routing keys leaves their buckets behind, until an eviction or an
accepted revocation drops them.  The disk-backed store answers with the length of its multimap,
which counts a routing key once for each descriptor under it.

`routingKeyCount_right_iff` says in which runs of either store the count is right throughout.
-/

namespace MeshProtocol

open Std Bytes

/-- The count of a store is right: it is the number of routing keys under which something is
held, and it is positive exactly if some routing key has descriptors. -/
def CountsKeys {S : Type} [DescriptorStorage S] (holds : Hash → Descriptor → Prop) (s : S) : Prop :=
  DescriptorStorage.routingKeyCount s = {rk | ∃ d, holds rk d}.ncard ∧
    (0 < DescriptorStorage.routingKeyCount s ↔
      ∃ rk, DescriptorStorage.hasDescriptors s rk = true)

/-- A count that is right is positive for the right reason. -/
lemma countsKeys_iff {S : Type} [DescriptorStorage S] {holds : Hash → Descriptor → Prop} {s : S}
    (hfinite : {rk | ∃ d, holds rk d}.Finite)
    (hhas : ∀ rk, DescriptorStorage.hasDescriptors s rk = true ↔ ∃ d, holds rk d) :
    CountsKeys holds s ↔
      DescriptorStorage.routingKeyCount s = {rk | ∃ d, holds rk d}.ncard := by
  refine and_iff_left_of_imp fun hcount => ?_
  rw [hcount, Set.ncard_pos hfinite]
  simp only [hhas]
  rfl

/-! ## The in-memory store -/

namespace DescriptorStore

variable [Crypto] [Ciborium]

/-- A descriptor is held at a routing key. -/
def HoldsAt (s : DescriptorStore) (rk : Hash) (d : Descriptor) : Prop := d ∈ s.store.held rk

omit [Crypto] [Ciborium] in
lemma holdsAt_iff_held {s : DescriptorStore} {rk : Hash} :
    (∃ d, s.HoldsAt rk d) ↔ s.store.held rk ≠ [] :=
  ⟨fun ⟨_, hd⟩ => List.ne_nil_of_mem hd, List.exists_mem_of_ne_nil _⟩

/-- The in-memory count is right exactly if no bucket is empty. -/
lemma countsKeys_iff_filled (s : DescriptorStore) :
    CountsKeys s.HoldsAt s ↔ s.store.Filled := by
  have hkeys : {rk | ∃ d, s.HoldsAt rk d} = {rk | s.store.held rk ≠ []} := by
    ext rk
    exact holdsAt_iff_held
  rw [countsKeys_iff, hkeys, ← Buckets.size_eq_ncard_iff]
  · rfl
  · rw [hkeys]
    exact (Buckets.finite_keys s.store).subset fun rk hrk => Buckets.mem_of_held hrk
  · intro rk
    rw [holdsAt_iff_held]
    change (!(s.store.held rk).isEmpty) = true ↔ _
    simp

/-- A revocation of a stored descriptor by its publisher, which drops all empty buckets. -/
def Sweeps (s : DescriptorStore) (d : Descriptor) : Prop :=
  d.schemaHash = SCHEMA_HASH_CORE_REVOCATION ∧ ∃ id target,
    revocationTarget d.payload = .ok id ∧ s.findById id = some target ∧
      d.publisher = target.publisher

/-- A descriptor that is taken out again once it is stored: a revocation of a descriptor of another
publisher, or a key rotation that does not follow the recorded one. -/
def TakenBack (s : DescriptorStore) (d : Descriptor) : Prop :=
  (d.schemaHash = SCHEMA_HASH_CORE_REVOCATION ∧ ∃ id target,
    revocationTarget d.payload = .ok id ∧ s.findById id = some target ∧
      d.publisher ≠ target.publisher) ∨
  (d.schemaHash = SCHEMA_HASH_CORE_KEY_ROTATION ∧ ∃ rot, keyRotation d.payload = .ok rot ∧
    ¬ rot.Follows s.rotations[rot.oldIdentity]?)

lemma store_processRevocation (s : DescriptorStore) {d : Descriptor}
    (hschema : d.schemaHash = SCHEMA_HASH_CORE_REVOCATION)
    (hdistinct : SCHEMA_HASH_CORE_REVOCATION ≠ SCHEMA_HASH_CORE_KEY_ROTATION) :
    (s.Sweeps d ∧ ∃ id, (s.processRevocation d).2.store =
        (s.store.retain fun e => e.id ≠ id).dropEmpty) ∨
      (¬ s.Sweeps d ∧ s.TakenBack d ∧
        (s.processRevocation d).2.store = s.store.retain fun e => e.id ≠ d.id) ∨
      (¬ s.Sweeps d ∧ ¬ s.TakenBack d ∧ (s.processRevocation d).2.store = s.store) := by
  have hrot : d.schemaHash ≠ SCHEMA_HASH_CORE_KEY_ROTATION := hschema ▸ hdistinct
  unfold processRevocation
  cases htarget : revocationTarget d.payload with
  | error e => simp [Sweeps, TakenBack, htarget, hrot]
  | ok id =>
    dsimp only
    cases hfind : s.findById id with
    | none => simp [Sweeps, TakenBack, htarget, hfind, hrot]
    | some target =>
      dsimp only
      by_cases hpub : d.publisher = target.publisher
      · rw [if_neg (not_not.2 hpub)]
        exact .inl ⟨⟨hschema, id, target, htarget, hfind, hpub⟩, id, rfl⟩
      · rw [if_pos hpub]
        refine .inr (.inl ⟨?_, .inl ⟨hschema, id, target, htarget, hfind, hpub⟩, rfl⟩)
        simp [Sweeps, htarget, hfind, hpub]

lemma store_processKeyRotation (s : DescriptorStore) {d : Descriptor}
    (hschema : d.schemaHash = SCHEMA_HASH_CORE_KEY_ROTATION)
    (hdistinct : SCHEMA_HASH_CORE_REVOCATION ≠ SCHEMA_HASH_CORE_KEY_ROTATION) :
    (s.TakenBack d ∧ (s.processKeyRotation d).2.store = s.store.retain fun e => e.id ≠ d.id) ∨
      (¬ s.TakenBack d ∧ (s.processKeyRotation d).2.store = s.store) := by
  have hrev : d.schemaHash ≠ SCHEMA_HASH_CORE_REVOCATION := hschema ▸ hdistinct.symm
  cases hrot : keyRotation d.payload with
  | error e =>
    refine .inr ⟨by simp [TakenBack, hrot, hrev], ?_⟩
    simp [processKeyRotation, hrot]
  | ok rot =>
    have htaken : s.TakenBack d ↔ ¬ rot.Follows s.rotations[rot.oldIdentity]? := by
      simp [TakenBack, hrot, hschema, hdistinct.symm]
    rw [htaken, not_not]
    by_cases hfollows : rot.Follows s.rotations[rot.oldIdentity]?
    · rw [processKeyRotation_of_follows hrot hfollows]
      exact .inr ⟨hfollows, rfl⟩
    · refine .inl ⟨hfollows, ?_⟩
      cases hresult : (s.processKeyRotation d).1 with
      | error e =>
        rcases processKeyRotation_error hresult with ⟨⟨e', he'⟩, -⟩ | ⟨-, heq⟩
        · rw [hrot] at he'
          cases he'
        · rw [heq]
          rfl
      | ok u =>
        rcases s.processKeyRotation_cases d with ⟨e, kept, -, heq⟩ | ⟨rot', hrot', hfollows', -⟩
        · rw [heq] at hresult
          cases hresult
        · rw [hrot] at hrot'
          obtain rfl := Except.ok.inj hrot'
          exact absurd hfollows' hfollows

/-- What processing leaves of the buckets. -/
lemma store_process (s : DescriptorStore) (d : Descriptor)
    (hdistinct : SCHEMA_HASH_CORE_REVOCATION ≠ SCHEMA_HASH_CORE_KEY_ROTATION) :
    (s.Sweeps d ∧ ∃ id, (s.process d).2.store =
        (s.store.retain fun e => e.id ≠ id).dropEmpty) ∨
      (¬ s.Sweeps d ∧ s.TakenBack d ∧
        (s.process d).2.store = s.store.retain fun e => e.id ≠ d.id) ∨
      (¬ s.Sweeps d ∧ ¬ s.TakenBack d ∧ (s.process d).2.store = s.store) := by
  by_cases hrev : d.schemaHash = SCHEMA_HASH_CORE_REVOCATION
  · rw [process_of_revocation hrev hdistinct]
    exact s.store_processRevocation hrev hdistinct
  · have hnever : ¬ s.Sweeps d := fun h => hrev h.1
    by_cases hrot : d.schemaHash = SCHEMA_HASH_CORE_KEY_ROTATION
    · rw [process_of_rotation hrev hrot]
      exact .inr ((s.store_processKeyRotation hrot hdistinct).imp (⟨hnever, ·⟩) (⟨hnever, ·⟩))
    · rw [process_of_plain hrev hrot]
      refine .inr (.inr ⟨hnever, ?_, rfl⟩)
      rintro (⟨h, -⟩ | ⟨h, -⟩)
      · exact hrev h
      · exact hrot h

/-- A store that fills every bucket: it sweeps the empty ones out, or every routing key that is
in use or listed by the descriptor holds the descriptor, if that is not taken out again, or one
of another slot. -/
def Refills (s : DescriptorStore) (d : Descriptor) : Prop :=
  (s.replace d).Sweeps d ∨ ∀ rk, rk ∈ s.store ∨ rk ∈ d.routingKeys →
    (rk ∈ d.routingKeys ∧ ¬ (s.replace d).TakenBack d) ∨
      ∃ e, s.HoldsAt rk e ∧ DedupKey.fromDescriptor e ≠ DedupKey.fromDescriptor d ∧
        ((s.replace d).TakenBack d → e.id ≠ d.id)

omit [Crypto] [Ciborium] in
lemma mem_replace {s : DescriptorStore} {d : Descriptor} {rk : Hash} :
    rk ∈ (s.replace d).store ↔ rk ∈ s.store ∨ rk ∈ d.routingKeys := by
  rw [replace, Buckets.mem_file, Buckets.mem_retain]

/-- Storing a descriptor leaves no bucket empty exactly if it refills them. -/
lemma filled_process_iff (s : DescriptorStore) (d : Descriptor)
    (hdistinct : SCHEMA_HASH_CORE_REVOCATION ≠ SCHEMA_HASH_CORE_KEY_ROTATION) :
    ((s.replace d).process d).2.store.Filled ↔ s.Refills d := by
  rcases (s.replace d).store_process d hdistinct with
    ⟨hsweeps, id, heq⟩ | ⟨hnot, htaken, heq⟩ | ⟨hnot, hkept, heq⟩
  · rw [heq]
    exact iff_of_true (Buckets.filled_dropEmpty _) (.inl hsweeps)
  · -- the descriptor itself does not fill a bucket
    simp only [heq, Refills, hnot, htaken, false_or, not_true_eq_false, and_false, forall_const,
      Buckets.Filled, Buckets.mem_retain, mem_replace]
    refine forall₂_congr fun rk _ => ?_
    rw [Buckets.held_retain]
    constructor
    · intro hne
      obtain ⟨e, he⟩ := List.exists_mem_of_ne_nil _ hne
      obtain ⟨hheld, hid⟩ := List.mem_filter.1 he
      rcases mem_held_replace.1 hheld with ⟨hold, hslot⟩ | ⟨rfl, -⟩
      · exact ⟨e, hold, hslot, of_decide_eq_true hid⟩
      · exact absurd rfl (of_decide_eq_true hid)
    · rintro ⟨e, hold, hslot, hid⟩
      have hheld := mem_held_replace.2 (.inl ⟨hold, hslot⟩)
      exact List.ne_nil_of_mem (List.mem_filter.2 ⟨hheld, decide_eq_true hid⟩)
  · simp only [heq, Refills, hnot, hkept, false_or, not_false_eq_true, and_true, false_implies,
      Buckets.Filled, mem_replace]
    refine forall₂_congr fun rk _ => ?_
    rw [← holdsAt_iff_held]
    constructor
    · rintro ⟨e, he⟩
      rcases mem_held_replace.1 he with ⟨hold, hslot⟩ | ⟨-, hlisted⟩
      · exact .inr ⟨e, hold, hslot⟩
      · exact .inl hlisted
    · rintro (hlisted | ⟨e, hold, hslot⟩)
      · exact ⟨d, mem_held_replace.2 (.inr ⟨rfl, hlisted⟩)⟩
      · exact ⟨e, mem_held_replace.2 (.inl ⟨hold, hslot⟩)⟩

/-- In a run from the empty store the count is right throughout exactly if every store that
passes the checks refills the buckets. -/
theorem countsKeys_run_iff
    (hdistinct : SCHEMA_HASH_CORE_REVOCATION ≠ SCHEMA_HASH_CORE_KEY_ROTATION)
    (calls : List (StorageCall DescriptorStore)) :
    (∀ pre, pre <+: calls → CountsKeys (HoldsAt ((storageMachine DescriptorStore).run new pre))
        ((storageMachine DescriptorStore).run new pre)) ↔
      ∀ pre c, pre ++ [c] <+: calls → ∀ d now, c.stores = some (d, now) →
        (((storageMachine DescriptorStore).run new pre).checkStore d now).1 = .ok () →
        ((storageMachine DescriptorStore).run new pre).Refills d := by
  simp only [countsKeys_iff_filled]
  refine Machine.always_iff (P := fun pre =>
    ((storageMachine DescriptorStore).run new pre).store.Filled) Buckets.filled_empty ?_
  intro pre c hpre hfilled
  rw [Machine.run_concat]
  generalize (storageMachine DescriptorStore).run new pre = s at hfilled ⊢
  rcases s.step_cases c with ⟨d, now, hstores, hstep⟩ | ⟨now, hstores, -, hstep⟩ | ⟨hstores, hstep⟩
  · rw [hstep]
    dsimp only
    rcases s.storeDescriptorAt_cases d now with ⟨e, windows, heq, hcheck⟩ | ⟨windows, heq, hcheck⟩
    · rw [heq, StorageCall.forall_stores_iff hstores, hcheck]
      exact iff_of_true hfilled fun hok => by cases hok
    · rw [heq, StorageCall.forall_stores_iff hstores, filled_process_iff _ d hdistinct]
      exact (imp_iff_right hcheck).symm
  · rw [hstep]
    exact iff_of_true (Buckets.filled_dropEmpty _) (StorageCall.forall_stores_of_none hstores)
  · rw [hstep]
    exact iff_of_true hfilled (StorageCall.forall_stores_of_none hstores)

end DescriptorStore

/-! ## The disk-backed store -/

namespace RedbStorage

variable [Crypto] [DescriptorCodec]

/-- No routing key leads to descriptors of two slots. -/
def Unshared (s : RedbStorage) : Prop :=
  ∀ rk d e, s.HoldsAt rk d → s.HoldsAt rk e → dedupKey d = dedupKey e

section Represents

variable {s : RedbStorage} {slots : List UInt8 → Option Descriptor}

lemma exists_row_iff (h : Represents s slots) (rk : Hash) :
    (∃ id, (hashBytes rk, id) ∈ s.byRoutingKey) ↔ ∃ d, s.HoldsAt rk d := by
  constructor
  · rintro ⟨id, hid⟩
    obtain ⟨k, d, hd, rfl, -⟩ := (h.rows _ _).1 hid
    exact ⟨d, _, hid, h.getElem?_descriptors hd⟩
  · rintro ⟨d, id, hid, -⟩
    exact ⟨id, hid⟩

/-- The keys of the multimap are the routing keys with descriptors. -/
lemma keys_eq_image (h : Represents s slots) :
    {r | ∃ id, (r, id) ∈ s.byRoutingKey} = hashBytes '' {rk | ∃ d, s.HoldsAt rk d} := by
  ext r
  constructor
  · rintro ⟨id, hid⟩
    obtain ⟨k, d, -, -, hlisted⟩ := (h.rows _ _).1 hid
    obtain ⟨rk, -, rfl⟩ := List.mem_map.1 hlisted
    exact ⟨rk, (exists_row_iff h rk).1 ⟨id, hid⟩, rfl⟩
  · rintro ⟨rk, hrk, rfl⟩
    exact (exists_row_iff h rk).2 hrk

lemma finite_holdsAt (h : Represents s slots) : {rk | ∃ d, s.HoldsAt rk d}.Finite := by
  apply Set.Finite.of_finite_image (f := hashBytes) _ hashBytes_injective.injOn
  rw [← keys_eq_image h]
  refine ((KeyOrder.PairSet.finite_pairs s.byRoutingKey).image Prod.fst).subset ?_
  rintro r ⟨id, hid⟩
  exact ⟨(r, id), hid, rfl⟩

lemma hasDescriptors_iff (h : Represents s slots) (rk : Hash) :
    DescriptorStorage.hasDescriptors s rk = true ↔ ∃ d, s.HoldsAt rk d := by
  rw [← exists_row_iff h]
  change (!(KeyOrder.PairSet.get s.byRoutingKey (hashBytes rk)).isEmpty) = true ↔ _
  rw [Bool.not_eq_true', List.isEmpty_eq_false_iff]
  constructor
  · intro hne
    obtain ⟨id, hid⟩ := List.exists_mem_of_ne_nil _ hne
    exact ⟨id, KeyOrder.PairSet.mem_get.1 hid⟩
  · rintro ⟨id, hid⟩
    exact List.ne_nil_of_mem (KeyOrder.PairSet.mem_get.2 hid)

/-- The disk-backed count is right exactly if no routing key is shared. -/
lemma countsKeys_iff_unshared (h : Represents s slots) :
    CountsKeys s.HoldsAt s ↔ s.Unshared := by
  rw [countsKeys_iff (finite_holdsAt h) (hasDescriptors_iff h),
    ← Set.ncard_image_of_injective _ hashBytes_injective, ← keys_eq_image h]
  change s.byRoutingKey.size = _ ↔ _
  rw [KeyOrder.PairSet.size_eq_ncard_iff]
  constructor
  · rintro hone rk d e ⟨i, hi, hd⟩ ⟨j, hj, he⟩
    rw [hone _ _ _ hi hj, he, Option.some.injEq] at hd
    rw [hd]
  · intro hunshared r i j hi hj
    obtain ⟨k, d, hd, rfl, hlisted⟩ := (h.rows _ _).1 hi
    obtain ⟨k', e, he, rfl, -⟩ := (h.rows _ _).1 hj
    obtain ⟨rk, -, rfl⟩ := List.mem_map.1 hlisted
    have hsame := hunshared rk d e ⟨_, hi, h.getElem?_descriptors hd⟩
      ⟨_, hj, h.getElem?_descriptors he⟩
    rw [h.key hd, h.key he] at hsame
    rw [hsame, he, Option.some.injEq] at hd
    rw [hd]

end Represents

/-- A descriptor lists a routing key that leads to a descriptor of another slot. -/
def SharesKey (s : RedbStorage) (d : Descriptor) : Prop :=
  ∃ rk e, s.HoldsAt rk e ∧ rk ∈ d.routingKeys ∧ dedupKey e ≠ dedupKey d

/-- Writing a descriptor leaves no routing key shared exactly if it shares none. -/
lemma unshared_write_iff {P : Set Descriptor} (hP : Descriptor.NoCollision P) {s : RedbStorage}
    {slots : List UInt8 → Option Descriptor} (h : Stocks P s slots) (hunshared : s.Unshared)
    {d : Descriptor} (hd : d ∈ P) (hauthentic : d.Authentic) :
    ((s.removeOld d).insertNew d).Unshared ↔ ¬ s.SharesKey d := by
  have hholds : ∀ rk e, ((s.removeOld d).insertNew d).HoldsAt rk e ↔
      (e = d ∧ rk ∈ d.routingKeys) ∨ (s.HoldsAt rk e ∧ dedupKey e ≠ dedupKey d) := by
    intro rk e
    rw [(h.write hP hd hauthentic).represents.holdsAt_iff, h.represents.holdsAt_iff,
      Slots.put_eq_some_iff]
    constructor
    · rintro ⟨⟨-, rfl⟩ | ⟨hother, he⟩, hlisted⟩
      · exact .inl ⟨rfl, hlisted⟩
      · exact .inr ⟨⟨he, hlisted⟩, hother.symm⟩
    · rintro (⟨rfl, hlisted⟩ | ⟨⟨he, hlisted⟩, hother⟩)
      · exact ⟨.inl ⟨rfl, rfl⟩, hlisted⟩
      · exact ⟨.inr ⟨hother.symm, he⟩, hlisted⟩
  constructor
  · rintro hafter ⟨rk, e, he, hlisted, hother⟩
    apply hother
    exact hafter rk e d ((hholds rk e).2 (.inr ⟨he, hother⟩))
      ((hholds rk d).2 (.inl ⟨rfl, hlisted⟩))
  · intro hnone rk e e' he he'
    rcases (hholds rk e).1 he with ⟨rfl, hlisted⟩ | ⟨hold, hother⟩
    · rcases (hholds rk e').1 he' with ⟨rfl, -⟩ | ⟨hold', hother'⟩
      · rfl
      · exact absurd ⟨rk, e', hold', hlisted, hother'⟩ hnone
    · rcases (hholds rk e').1 he' with ⟨rfl, hlisted'⟩ | ⟨hold', -⟩
      · exact absurd ⟨rk, e, hold, hlisted', hother⟩ hnone
      · exact hunshared rk e e' hold hold'

lemma Unshared.evictExpiredAt {P : Set Descriptor} {s : RedbStorage}
    {slots : List UInt8 → Option Descriptor} (h : Stocks P s slots) (hunshared : s.Unshared)
    (now : UInt64) : (s.evictExpiredAt now).Unshared := by
  have hheld : ∀ {rk d}, (s.evictExpiredAt now).HoldsAt rk d → s.HoldsAt rk d := by
    intro rk d hd
    obtain ⟨hslot, hlisted⟩ := (h.evict now).represents.holdsAt_iff.1 hd
    exact h.represents.holdsAt_iff.2 ⟨(Slots.evict_eq_some_iff.1 hslot).1, hlisted⟩
  exact fun rk d e hd he => hunshared rk d e (hheld hd) (hheld he)

/-- In a run from an empty database the count is right throughout exactly if no descriptor that
passes the checks shares a routing key with a stored one of another slot. -/
theorem countsKeys_run_iff {calls : List (StorageCall RedbStorage)}
    (hP : Descriptor.NoCollision {d | d ∈ submitted calls}) :
    (∀ pre, pre <+: calls → CountsKeys (HoldsAt ((storageMachine RedbStorage).run new pre))
        ((storageMachine RedbStorage).run new pre)) ↔
      ∀ pre c, pre ++ [c] <+: calls → ∀ d now, c.stores = some (d, now) →
        (((storageMachine RedbStorage).run new pre).checkStore d now).1 = .ok () →
        ¬ ((storageMachine RedbStorage).run new pre).SharesKey d := by
  have hcounts : ∀ pre, pre <+: calls →
      (CountsKeys (HoldsAt ((storageMachine RedbStorage).run new pre))
          ((storageMachine RedbStorage).run new pre) ↔
        ((storageMachine RedbStorage).run new pre).Unshared) := by
    intro pre hpre
    obtain ⟨slots, hstocks⟩ := stocks_run hP hpre
    exact countsKeys_iff_unshared hstocks.represents
  rw [forall₂_congr hcounts]
  refine Machine.always_iff (P := fun pre => ((storageMachine RedbStorage).run new pre).Unshared)
    ?_ fun pre c hpre hunshared => ?_
  · rintro rk d e ⟨id, hid, -⟩
    simp [new] at hid
  obtain ⟨slots, hstocks⟩ := stocks_run hP ((List.prefix_append pre [c]).trans hpre)
  rw [Machine.run_concat]
  generalize (storageMachine RedbStorage).run new pre = s at hunshared hstocks ⊢
  rcases s.step_cases c with ⟨d, now, hstores, heq⟩ | ⟨now, hstores, -, heq⟩ |
    ⟨hstores, -, windows, flag, heq⟩
  · rw [heq]
    dsimp only
    rcases s.storeDescriptorAt_cases d now with ⟨e, windows, heq, hcheck⟩ | ⟨windows, heq, hcheck⟩
    · rw [heq, StorageCall.forall_stores_iff hstores, hcheck]
      exact iff_of_true hunshared fun hok => by cases hok
    · have hd : d ∈ {d | d ∈ submitted calls} :=
        submitted_mono hpre (mem_submitted.2 ⟨c, by simp, now, hstores⟩)
      have hauthentic := (checkStore_ok_iff.1 hcheck).1.authentic
      rw [heq, StorageCall.forall_stores_iff hstores, unshared_write_iff hP
        (hstocks.of_windows windows s.skipRateLimit) hunshared hd hauthentic]
      exact (imp_iff_right hcheck).symm
  · rw [heq]
    exact iff_of_true (hunshared.evictExpiredAt hstocks now)
      (StorageCall.forall_stores_of_none hstores)
  · rw [heq]
    exact iff_of_true hunshared (StorageCall.forall_stores_of_none hstores)

end RedbStorage

/-! ## Both stores -/

/-- The count of the in-memory store is right throughout a run exactly if every store that passes
the checks refills the buckets, that of the disk-backed one exactly if no descriptor that passes
the checks lists a routing key of a stored one of another slot. -/
theorem routingKeyCount_right_iff [Crypto] [Ciborium] [DescriptorCodec]
    (hdistinct : SCHEMA_HASH_CORE_REVOCATION ≠ SCHEMA_HASH_CORE_KEY_ROTATION) :
    (∀ calls : List (StorageCall DescriptorStore),
      (∀ pre, pre <+: calls →
        CountsKeys (DescriptorStore.HoldsAt ((storageMachine DescriptorStore).run .new pre))
          ((storageMachine DescriptorStore).run .new pre)) ↔
        ∀ pre c, pre ++ [c] <+: calls → ∀ d now, c.stores = some (d, now) →
          (((storageMachine DescriptorStore).run .new pre).checkStore d now).1 = .ok () →
          ((storageMachine DescriptorStore).run .new pre).Refills d) ∧
      ∀ calls : List (StorageCall RedbStorage),
        Descriptor.NoCollision {d | d ∈ submitted calls} →
        ((∀ pre, pre <+: calls →
          CountsKeys (RedbStorage.HoldsAt ((storageMachine RedbStorage).run .new pre))
            ((storageMachine RedbStorage).run .new pre)) ↔
          ∀ pre c, pre ++ [c] <+: calls → ∀ d now, c.stores = some (d, now) →
            (((storageMachine RedbStorage).run .new pre).checkStore d now).1 = .ok () →
            ¬ ((storageMachine RedbStorage).run .new pre).SharesKey d) :=
  ⟨DescriptorStore.countsKeys_run_iff hdistinct, fun _ hP => RedbStorage.countsKeys_run_iff hP⟩

/-- `target`, its revocation, and its next version at another routing key, in an order in which the
buckets in memory stay filled. -/
def sweptRun [Crypto] [Ciborium] : List (StorageCall DescriptorStore) :=
  [.storeDescriptorAt target 1700000000000000, .storeDescriptorAt ownRevocation 1700000000000000,
    .storeDescriptorAt moved 1700000000000000]

/-- The same descriptors, in an order in which no two share a routing key on disk. -/
def unsharedRun [Crypto] [DescriptorCodec] : List (StorageCall RedbStorage) :=
  [.storeDescriptorAt target 1700000000000000, .storeDescriptorAt moved 1700000000000000,
    .storeDescriptorAt ownRevocation 1700000000000000]

/-- In memory each of the descriptors fills the buckets again that it empties. -/
lemma refills_sweptRun :
    letI : Crypto := cryptoOf [target, moved, ownRevocation]
    letI : Ciborium := referenceCiborium
    ∀ pre c, pre ++ [c] <+: sweptRun → ∀ d now, c.stores = some (d, now) →
      ((storageMachine DescriptorStore).run .new pre).Refills d := by
  let _ : Crypto := cryptoOf [target, moved, ownRevocation]
  let _ : Ciborium := referenceCiborium
  have hkept (s : DescriptorStore) (d : Descriptor) (hd : d.schemaHash = capabilitySchema) :
      ¬ s.TakenBack d := by
    have hother : capabilitySchema ≠ SCHEMA_HASH_CORE_REVOCATION ∧
        capabilitySchema ≠ SCHEMA_HASH_CORE_KEY_ROTATION := by decide +kernel
    rintro (⟨hschema, -⟩ | ⟨hschema, -⟩)
    · exact hother.1 (hd.symm.trans hschema)
    · exact hother.2 (hd.symm.trans hschema)
  intro pre c hpre d now hstores
  have hsteps : pre ++ [c] <+: sweptRun.take 2 ++ [_] := hpre
  rcases Machine.step_of_concat hsteps with hpair | ⟨rfl, rfl⟩
  · rcases Machine.step_of_pair hpair with ⟨rfl, rfl⟩ | ⟨rfl, rfl⟩
    · obtain ⟨rfl, -⟩ := Prod.mk.inj (Option.some.inj hstores)
      exact .inr fun rk hrk => .inl ⟨hrk.resolve_left (by simp [DescriptorStore.new]),
        hkept _ target rfl⟩
    · obtain ⟨rfl, -⟩ := Prod.mk.inj (Option.some.inj hstores)
      exact .inl ⟨rfl, target.id, target, by decide +kernel, by decide +kernel, rfl⟩
  · obtain ⟨rfl, -⟩ := Prod.mk.inj (Option.some.inj hstores)
    refine .inr fun rk hrk => ?_
    by_cases hnew : rk ∈ moved.routingKeys
    · exact .inl ⟨hnew, hkept _ moved rfl⟩
    · have hkeys : ((storageMachine DescriptorStore).run .new (sweptRun.take 2)).store.keys =
          [computeKey] := by decide +kernel
      have hmem := ExtTreeMap.mem_keys.2 (hrk.resolve_right hnew)
      rw [hkeys] at hmem
      obtain rfl := List.mem_singleton.1 hmem
      have hheld : ownRevocation ∈ ((storageMachine DescriptorStore).run .new
          (sweptRun.take 2)).store.held computeKey := by decide +kernel
      exact .inr ⟨ownRevocation, hheld, by decide +kernel,
        fun htaken => absurd htaken (hkept _ moved rfl)⟩

/-- On disk each of the descriptors has its routing key to itself. -/
lemma not_sharesKey_unsharedRun :
    letI : Crypto := cryptoOf [target, moved, ownRevocation]
    letI : DescriptorCodec := wireCodec
    ∀ pre c, pre ++ [c] <+: unsharedRun → ∀ d now, c.stores = some (d, now) →
      ¬ ((storageMachine RedbStorage).run .new pre).SharesKey d := by
  let _ : Crypto := cryptoOf [target, moved, ownRevocation]
  let _ : DescriptorCodec := wireCodec
  intro pre c hpre d now hstores
  rintro ⟨rk, e, ⟨id, hrow, he⟩, hlisted, hother⟩
  have hsteps : pre ++ [c] <+: unsharedRun.take 2 ++ [_] := hpre
  rcases Machine.step_of_concat hsteps with hpair | ⟨rfl, rfl⟩
  · rcases Machine.step_of_pair hpair with ⟨rfl, rfl⟩ | ⟨rfl, rfl⟩
    · simp [RedbStorage.new] at hrow
    · obtain ⟨rfl, -⟩ := Prod.mk.inj (Option.some.inj hstores)
      have htable : ∀ row ∈ ((storageMachine RedbStorage).run .new
          (unsharedRun.take 1)).descriptors.toList,
          DescriptorCodec.fromCbor row.2 = some target := by
        decide +kernel
      obtain ⟨bytes, hbytes, hdecoded⟩ := Option.bind_eq_some_iff.1 he
      have hrow := htable _ (ExtTreeMap.mem_toList_iff_getElem?_eq_some.2 hbytes)
      obtain rfl := Option.some.inj (hdecoded.symm.trans hrow)
      have hslot : dedupKey target = dedupKey moved := by decide +kernel
      exact hother hslot
  · obtain ⟨rfl, -⟩ := Prod.mk.inj (Option.some.inj hstores)
    have hrows : (((storageMachine RedbStorage).run .new
        (unsharedRun.take 2)).byRoutingKey.toList.any fun row =>
          row.1 = hashBytes computeKey) = false := by decide +kernel
    obtain rfl := List.mem_singleton.1 hlisted
    exact List.any_eq_false.1 hrows _ (ExtTreeSet.mem_toList.2 hrow) (decide_eq_true rfl)

/-- The counts are right throughout both runs. -/
theorem revoked_and_moved_counted :
    letI : Crypto := cryptoOf [target, moved, ownRevocation]
    letI : Ciborium := referenceCiborium
    letI : DescriptorCodec := wireCodec
    (∀ pre, pre <+: sweptRun →
      CountsKeys (DescriptorStore.HoldsAt ((storageMachine DescriptorStore).run .new pre))
        ((storageMachine DescriptorStore).run .new pre)) ∧
      ∀ pre, pre <+: unsharedRun →
        CountsKeys (RedbStorage.HoldsAt ((storageMachine RedbStorage).run .new pre))
          ((storageMachine RedbStorage).run .new pre) := by
  let _ : Crypto := cryptoOf [target, moved, ownRevocation]
  let _ : Ciborium := referenceCiborium
  let _ : DescriptorCodec := wireCodec
  obtain ⟨hmemory, hredb⟩ := routingKeyCount_right_iff (by decide +kernel)
  constructor
  · exact (hmemory _).2 fun pre c hpre d now hstores _ => refills_sweptRun pre c hpre d now hstores
  · refine (hredb _ (Descriptor.noCollision_of_list (by decide +kernel))).2 ?_
    exact fun pre c hpre d now hstores _ => not_sharesKey_unsharedRun pre c hpre d now hstores

/-- `target`, replaced in memory by its next version at another routing key. -/
def replacedTarget [Crypto] [Ciborium] : DescriptorStore :=
  (storageMachine DescriptorStore).run .new
    [.storeDescriptorAt target 1700000000000000, .storeDescriptorAt moved 1700000000000000]

/-- Two descriptors of one publisher under one routing key. -/
def sharedKey [Crypto] [DescriptorCodec] : List (StorageCall RedbStorage) :=
  [.storeDescriptorAt target 1700000000000000, .storeDescriptorAt ownRevocation 1700000000000000]

/-- The next version of `target` leaves an empty bucket in memory, and two descriptors under one
routing key are two rows on disk. -/
theorem counts_go_wrong :
    letI : Crypto := cryptoOf [target, moved, ownRevocation]
    letI : Ciborium := referenceCiborium
    letI : DescriptorCodec := wireCodec
    ¬ CountsKeys replacedTarget.HoldsAt replacedTarget ∧
      ¬ CountsKeys ((storageMachine RedbStorage).run .new sharedKey).HoldsAt
        ((storageMachine RedbStorage).run .new sharedKey) := by
  let _ : Crypto := cryptoOf [target, moved, ownRevocation]
  let _ : Ciborium := referenceCiborium
  let _ : DescriptorCodec := wireCodec
  constructor
  · intro hcounts
    have hfilled := (DescriptorStore.countsKeys_iff_filled _).1 hcounts computeKey (by
      decide +kernel)
    revert hfilled
    decide +kernel
  · intro hcounts
    have hP : Descriptor.NoCollision {d | d ∈ submitted sharedKey} :=
      Descriptor.noCollision_of_list (by decide +kernel)
    obtain ⟨slots, hstocks⟩ := RedbStorage.stocks_run hP List.prefix_rfl
    have hone := (RedbStorage.countsKeys_iff_unshared hstocks.represents).1 hcounts computeKey
      target ownRevocation ⟨hashBytes target.id, by decide +kernel, by decide +kernel⟩
      ⟨hashBytes ownRevocation.id, by decide +kernel, by decide +kernel⟩
    revert hone
    decide +kernel

end MeshProtocol
