import MeshProtocol.Core.Reference
import MeshProtocol.Dht.DescriptorStore
import MeshProtocol.Hub.Redb

/-!
# Another version with the same sequence

A slot takes a descriptor unless its sequence is below the watermark.  Both backends compare nothing
else, so of two versions with one sequence the slot has whichever came last, and a version that was
superseded by one with its own sequence can be put back by storing it again.

`stored_version_kept_iff`: what is in a slot stays there, and another version is rejected, exactly
if the sequence of the other version is smaller, or it is not valid, or the rate limit refuses it.
-/

namespace MeshProtocol

open Std Bytes

/-! ## The in-memory store -/

namespace DescriptorStore

/-- A descriptor is filed under some routing key. -/
def Current (s : DescriptorStore) (d : Descriptor) : Prop := ∃ rk, d ∈ s.store.held rk

section Ciborium

variable [Crypto] [Ciborium]

/-- What is in a slot has its watermark for a sequence. -/
lemma watermark_of_current {calls : List (StorageCall DescriptorStore)} {d : Descriptor}
    (h : ((storageMachine DescriptorStore).run new calls).Current d) :
    ((storageMachine DescriptorStore).run new calls).sequences[DedupKey.fromDescriptor d]? =
      some d.sequence := by
  induction calls using List.reverseRecOn with
  | nil =>
    obtain ⟨rk, hd⟩ := h
    simp [new] at hd
  | append_singleton calls c ih =>
    rw [Machine.run_concat] at h ⊢
    generalize (storageMachine DescriptorStore).run new calls = s at h ih ⊢
    obtain ⟨rk, hd⟩ := h
    rcases s.step_cases c with ⟨e, now, -, hstep⟩ | ⟨now, -, -, hstep⟩ | ⟨-, hstep⟩
    · rw [hstep] at hd ⊢
      rcases s.storeDescriptorAt_cases e now with ⟨err, windows, heq, -⟩ | ⟨windows, heq, -⟩
      · rw [heq] at hd ⊢
        exact ih ⟨rk, hd⟩
      · rw [heq] at hd ⊢
        have heffect := effect_process (({ s with rateLimiter := windows } :
          DescriptorStore).replace e) e
        dsimp only
        rw [heffect.sequences]
        cases mem_held_replace.1 (heffect.within rk d hd) with
        | inl hother =>
          obtain ⟨hheld, hne⟩ := hother
          rw [replace, ExtTreeMap.getElem?_insert, if_neg]
          · exact ih ⟨rk, hheld⟩
          · rw [LawfulEqCmp.compare_eq_iff_eq]
            exact Ne.symm hne
        | inr hnew =>
          obtain ⟨rfl, -⟩ := hnew
          exact ExtTreeMap.getElem?_insert_self
    · rw [hstep] at hd ⊢
      exact ih ⟨rk, (mem_held_evictExpiredAt.1 hd).1⟩
    · rw [hstep] at hd ⊢
      exact ih ⟨rk, hd⟩

/-- A store call is rejected and leaves a stored descriptor in place. -/
def Keeps (s : DescriptorStore) (d e : Descriptor) (now : UInt64) : Prop :=
  (∃ err, (s.storeDescriptorAt e now).1 = .error err) ∧ (s.storeDescriptorAt e now).2.Current d

lemma keeps_iff {s : DescriptorStore} {d e : Descriptor} {now : UInt64} (hcurrent : s.Current d)
    (hmark : s.sequences[DedupKey.fromDescriptor d]? = some d.sequence)
    (hkey : DedupKey.fromDescriptor e = DedupKey.fromDescriptor d) (hid : e.id ≠ d.id) :
    s.Keeps d e now ↔
      e.sequence < d.sequence ∨ ¬ (e.ValidAt now ∧ s.allows e.publisher now = true) := by
  rw [← hkey] at hmark
  have hpasses := s.checkStore_marked_iff now hmark
  cases s.storeDescriptorAt_cases e now with
  | inl hrefused =>
    obtain ⟨err, windows, heq, hcheck⟩ := hrefused
    have hkept : s.Keeps d e now := by
      rw [Keeps, heq]
      exact ⟨⟨err, rfl⟩, hcurrent⟩
    refine iff_of_true hkept ?_
    by_contra hnot
    rw [hpasses.2 hnot] at hcheck
    cases hcheck
  | inr hstored =>
    obtain ⟨windows, heq, hcheck⟩ := hstored
    refine iff_of_false ?_ (hpasses.1 hcheck)
    rintro ⟨-, rk, hd⟩
    rw [heq] at hd
    cases mem_held_replace.1 ((effect_process _ e).within rk d hd) with
    | inl hother => exact hother.2 hkey.symm
    | inr hnew => exact hid (by rw [hnew.1])

end Ciborium

end DescriptorStore

/-! ## The disk-backed store -/

namespace RedbStorage

section Crypto

variable [Crypto] [DescriptorCodec]

/-- The dedup index names a descriptor for its slot, and the descriptor is in the table. -/
structure Current (s : RedbStorage) (d : Descriptor) : Prop where
  index : s.dedupIndex[dedupKey d]? = some (hashBytes d.id)
  table : s.descriptors[hashBytes d.id]? = some (DescriptorCodec.toCbor d)

/-- What is in a slot has its watermark for a sequence. -/
lemma watermark_of_current {calls : List (StorageCall RedbStorage)}
    (hcollision : Descriptor.NoCollision {d | d ∈ submitted calls}) {d : Descriptor}
    (h : ((storageMachine RedbStorage).run new calls).Current d) :
    ((storageMachine RedbStorage).run new calls).sequences[dedupKey d]? = some d.sequence := by
  have hsubmitted : ∀ d ∈ submitted calls, d ∈ {d | d ∈ submitted calls} := fun d hd => hd
  obtain ⟨slots, hstocks, -⟩ := (slotView hcollision).represents_run (stocks_new _) hsubmitted
  have hrepresents : Represents _ slots := hstocks.represents
  obtain ⟨k, d', hslot, -, hcbor⟩ := (hrepresents.descriptors _ _).1 h.table
  obtain rfl := toCbor_injective hcbor
  rw [hrepresents.sequences, hrepresents.key hslot, hslot, Option.map_some]

/-- A store call is rejected and leaves a stored descriptor in place. -/
def Keeps (s : RedbStorage) (d e : Descriptor) (now : UInt64) : Prop :=
  (∃ err, (s.storeDescriptorAt e now).1 = .error err) ∧ (s.storeDescriptorAt e now).2.Current d

lemma keeps_iff {s : RedbStorage} {d e : Descriptor} {now : UInt64} (hcurrent : s.Current d)
    (hmark : s.sequences[dedupKey d]? = some d.sequence) (hkey : dedupKey e = dedupKey d)
    (hid : e.id ≠ d.id) :
    s.Keeps d e now ↔
      e.sequence < d.sequence ∨ ¬ (e.ValidAt now ∧ s.allows e.publisher now = true) := by
  rw [← hkey] at hmark
  have hpasses := s.checkStore_marked_iff now hmark
  cases s.storeDescriptorAt_cases e now with
  | inl hrefused =>
    obtain ⟨err, windows, heq, hcheck⟩ := hrefused
    have hkept : s.Keeps d e now := by
      rw [Keeps, heq]
      exact ⟨⟨err, rfl⟩, hcurrent.index, hcurrent.table⟩
    refine iff_of_true hkept ?_
    by_contra hnot
    rw [hpasses.2 hnot] at hcheck
    cases hcheck
  | inr hstored =>
    obtain ⟨windows, heq, hcheck⟩ := hstored
    refine iff_of_false ?_ (hpasses.1 hcheck)
    rintro ⟨-, hindex, -⟩
    rw [heq, insertNew, ← hkey, ExtTreeMap.getElem?_insert_self, Option.some.injEq] at hindex
    exact hid (hashBytes_inj.1 hindex)

end Crypto

end RedbStorage

/-! ## Both backends -/

/-- In every state of every run, another version of a stored descriptor is rejected and leaves it in
place exactly if its sequence is smaller, or it is not valid, or the rate limit refuses it. -/
theorem stored_version_kept_iff [Crypto] [Ciborium] [DescriptorCodec] :
    (∀ (calls : List (StorageCall DescriptorStore)) (d e : Descriptor) (now : UInt64),
      ((storageMachine DescriptorStore).run DescriptorStore.new calls).Current d →
      DedupKey.fromDescriptor e = DedupKey.fromDescriptor d → e.id ≠ d.id →
        (((storageMachine DescriptorStore).run DescriptorStore.new calls).Keeps d e now ↔
          e.sequence < d.sequence ∨ ¬ (e.ValidAt now ∧
            ((storageMachine DescriptorStore).run DescriptorStore.new calls).allows e.publisher
              now = true))) ∧
    ∀ calls : List (StorageCall RedbStorage), Descriptor.NoCollision {d | d ∈ submitted calls} →
      ∀ (d e : Descriptor) (now : UInt64),
        ((storageMachine RedbStorage).run RedbStorage.new calls).Current d →
        dedupKey e = dedupKey d → e.id ≠ d.id →
          (((storageMachine RedbStorage).run RedbStorage.new calls).Keeps d e now ↔
            e.sequence < d.sequence ∨ ¬ (e.ValidAt now ∧
              ((storageMachine RedbStorage).run RedbStorage.new calls).allows e.publisher
                now = true)) := by
  constructor
  · intro calls d e now hcurrent hkey hid
    exact DescriptorStore.keeps_iff hcurrent
      (DescriptorStore.watermark_of_current hcurrent) hkey hid
  · intro calls hcollision d e now hcurrent hkey hid
    exact RedbStorage.keeps_iff hcurrent
      (RedbStorage.watermark_of_current hcollision hcurrent) hkey hid

/-- A version, then its successor. -/
def succeeded (S : Type) [DescriptorStorage S] : List (StorageCall S) :=
  [.storeDescriptorAt target 1700000000000000, .storeDescriptorAt moved 1700000000000000]

/-- Both backends reject a version once its successor is stored. -/
theorem succeeded_target_rejected :
    letI : Crypto := cryptoOf [target, moved]
    letI : Ciborium := referenceCiborium
    letI : DescriptorCodec := wireCodec
    ((storageMachine DescriptorStore).run .new (succeeded _)).Keeps moved target
        1700000000000000 ∧
      ((storageMachine RedbStorage).run .new (succeeded _)).Keeps moved target
        1700000000000000 := by
  let _ : Crypto := cryptoOf [target, moved]
  let _ : Ciborium := referenceCiborium
  let _ : DescriptorCodec := wireCodec
  have holder : target.sequence < moved.sequence := by decide
  obtain ⟨hmemory, hredb⟩ := stored_version_kept_iff
  refine ⟨(hmemory _ moved target _ ⟨hubKey, ?_⟩ ?_ ?_).2 (.inl holder),
    (hredb _ ?_ moved target _ ⟨?_, ?_⟩ ?_ ?_).2 (.inl holder)⟩
  · decide +kernel
  · decide +kernel
  · decide +kernel
  · exact Descriptor.noCollision_of_list (by decide +kernel)
  · decide +kernel
  · decide +kernel
  · decide +kernel
  · decide +kernel

/-- Another version of `target` with its sequence. -/
def revised : Descriptor where
  schemaHash := capabilitySchema
  topic := ""
  payload := []
  publisher := secondPublisher
  timestamp := 1700000000000000
  sequence := 1
  ttl := 7200
  routingKeys := [computeKey]
  id := hashOf 0xd3e5833d990c9755597c147dd8b0e1d7fe55e63bd479cc096485e6e3041c60e8
  signature := beBytes 64
    0xa2d9c706b73b68f086b8a77c07d5ec1f6d617a0673e39d40493d9be99755af527a48382284d7ece99fc7c69c9f00de12504d29314236e68fb8155635e4974205

/-- A version, then the other one, then the first one again. -/
def replayed (S : Type) [DescriptorStorage S] : List (StorageCall S) :=
  [.storeDescriptorAt target 1700000000000000, .storeDescriptorAt revised 1700000000000000,
    .storeDescriptorAt target 1700000000000000]

/-- The version with the same sequence replaces the stored one, and the superseded version replaces
it in turn. -/
theorem revised_replaces_target :
    letI : Crypto := cryptoOf [target, revised]
    letI : Ciborium := referenceCiborium
    letI : DescriptorCodec := wireCodec
    (target.sequence = revised.sequence ∧ target.id ≠ revised.id ∧
      DedupKey.fromDescriptor revised = DedupKey.fromDescriptor target ∧
      dedupKey revised = dedupKey target) ∧
    (((storageMachine DescriptorStore).run .new ((replayed _).take 1)).Current target ∧
      ¬ ((storageMachine DescriptorStore).run .new ((replayed _).take 1)).Keeps target revised
        1700000000000000 ∧
      ((storageMachine DescriptorStore).run .new ((replayed _).take 2)).Current revised ∧
      ¬ ((storageMachine DescriptorStore).run .new ((replayed _).take 2)).Keeps revised target
        1700000000000000) ∧
    ((storageMachine RedbStorage).run .new ((replayed _).take 1)).Current target ∧
      ¬ ((storageMachine RedbStorage).run .new ((replayed _).take 1)).Keeps target revised
        1700000000000000 ∧
      ((storageMachine RedbStorage).run .new ((replayed _).take 2)).Current revised ∧
      ¬ ((storageMachine RedbStorage).run .new ((replayed _).take 2)).Keeps revised target
        1700000000000000 := by
  let _ : Crypto := cryptoOf [target, revised]
  let _ : Ciborium := referenceCiborium
  let _ : DescriptorCodec := wireCodec
  refine ⟨by decide +kernel, ⟨⟨computeKey, by decide +kernel⟩, ?_, ⟨computeKey, by decide +kernel⟩,
    ?_⟩, ⟨by decide +kernel, by decide +kernel⟩, ?_, ⟨by decide +kernel, by decide +kernel⟩, ?_⟩
  · rintro ⟨⟨err, herr⟩, -⟩
    have hok : (((storageMachine DescriptorStore).run .new
        ((replayed _).take 1)).storeDescriptorAt revised 1700000000000000).1 = .ok () := by
      decide +kernel
    rw [hok] at herr
    cases herr
  · rintro ⟨⟨err, herr⟩, -⟩
    have hok : (((storageMachine DescriptorStore).run .new
        ((replayed _).take 2)).storeDescriptorAt target 1700000000000000).1 = .ok () := by
      decide +kernel
    rw [hok] at herr
    cases herr
  · rintro ⟨⟨err, herr⟩, -⟩
    have hok : (((storageMachine RedbStorage).run .new
        ((replayed _).take 1)).storeDescriptorAt revised 1700000000000000).1 = .ok () := by
      decide +kernel
    rw [hok] at herr
    cases herr
  · rintro ⟨⟨err, herr⟩, -⟩
    have hok : (((storageMachine RedbStorage).run .new
        ((replayed _).take 2)).storeDescriptorAt target 1700000000000000).1 = .ok () := by
      decide +kernel
    rw [hok] at herr
    cases herr

end MeshProtocol
