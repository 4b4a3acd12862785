import MeshProtocol.Core.Reference
import MeshProtocol.Dht.Catalog
import MeshProtocol.Dht.Crowding
import MeshProtocol.Hub.Cache
import MeshProtocol.Hub.Redb

/-!
# What the backends serve

The results that hold of every backend: nothing forged is ever returned, and, for the two backends
that answer from their own tables, a read returns exactly the last accepted descriptors of their
slots.
-/

namespace MeshProtocol

open DescriptorStorage

section Crypto

variable [Crypto]

/-! ## Filters -/

instance [DescriptorCodec] : FilteredReads RedbStorage where
  filtered s rk filters clock := by
    change s.getDescriptorsAt rk filters clock =
      (s.getDescriptorsAt rk none clock).filter (admitted filters)
    simp [RedbStorage.getDescriptorsAt, List.filter_filter, Bool.and_comm]

omit [Crypto] in
/-- The cache filters what it has for a key, or has just loaded. -/
instance {S : Type} [DescriptorStorage S] : FilteredReads (CachedStorage S) where
  filtered c rk filters clock := by
    change (c.load rk clock).1.filter (admitted filters) =
      ((c.load rk clock).1.filter (admitted none)).filter (admitted filters)
    simp [List.filter_filter]

/-! ## Authenticity -/

/-- A descriptor that was stored, is authentic and within bounds, and lists the routing key. -/
structure Genuine (stored : List Descriptor) (rk : Hash) (d : Descriptor) : Prop where
  submitted : d ∈ stored
  authentic : d.Authentic
  inBounds : d.InBounds
  listed : rk ∈ d.routingKeys

/-- A read at the routing key in the given state returns the descriptor. -/
def Returned {S : Type} [DescriptorStorage S] (s : S) (rk : Hash) (d : Descriptor) : Prop :=
  ∃ filters t, d ∈ (getDescriptors s rk filters t).1 ∨ d ∈ (getDescriptorsAt s rk filters t).1

lemma Genuine.mono {stored stored' : List Descriptor} {rk : Hash} {d : Descriptor}
    (h : Genuine stored rk d) (hsub : stored ⊆ stored') : Genuine stored' rk d :=
  ⟨hsub h.submitted, h.authentic, h.inBounds, h.listed⟩

/-- A run of the in-memory store returns genuine descriptors only. -/
theorem DescriptorStore.genuine_of_returned [Ciborium] {calls : List (StorageCall DescriptorStore)}
    {rk : Hash} {d : Descriptor}
    (h : Returned ((storageMachine DescriptorStore).run new calls) rk d) :
    Genuine (submitted calls) rk d := by
  obtain ⟨filters, t, hd⟩ := h
  have hd : d ∈ ((storageMachine DescriptorStore).run new calls).getDescriptorsAt rk filters t :=
    hd.elim id id
  obtain ⟨hsub, hlisted, now, hvalid⟩ := held_run (mem_getDescriptorsAt.1 hd).1
  exact ⟨hsub, hvalid.authentic, hvalid.inBounds, hlisted⟩

/-- A run of the disk-backed store returns genuine descriptors only. -/
theorem RedbStorage.genuine_of_returned [DescriptorCodec] {calls : List (StorageCall RedbStorage)}
    (hnc : Descriptor.NoCollision {d | d ∈ submitted calls}) {rk : Hash} {d : Descriptor}
    (h : Returned ((storageMachine RedbStorage).run new calls) rk d) :
    Genuine (submitted calls) rk d := by
  obtain ⟨filters, t, hd⟩ := h
  have hd : d ∈ ((storageMachine RedbStorage).run new calls).getDescriptorsAt rk filters t :=
    hd.elim id id
  obtain ⟨slots, hstocks, hslots⟩ :=
    (slotView hnc).represents_run (stocks_new _) fun d hd => hd
  obtain ⟨hslot, hlisted, -⟩ := hstocks.represents.mem_getDescriptorsAt.1 hd
  obtain ⟨hsub, now, hvalid⟩ := hslots _ d hslot
  exact ⟨hsub, hvalid.authentic, hvalid.inBounds, hlisted⟩

/-- A cache over a backend that returns genuine descriptors only returns genuine descriptors
only. -/
theorem CachedStorage.genuine_of_returned {S : Type} [DescriptorStorage S] {s : S}
    {calls : List (StorageCall (CachedStorage S))}
    (hinner : ∀ inner : List (StorageCall S), submitted inner ⊆ submitted calls → ∀ rk d,
      Returned ((storageMachine S).run s inner) rk d → Genuine (submitted inner) rk d)
    {rk : Hash} {d : Descriptor}
    (h : Returned ((storageMachine (CachedStorage S)).run (new s) calls) rk d) :
    Genuine (submitted calls) rk d := by
  obtain ⟨inner, hsub, hstate, hcache⟩ := exists_inner_run s calls
  have hsubset : submitted inner ⊆ submitted calls := by
    rw [hsub]
    exact List.Subset.refl _
  generalize (storageMachine (CachedStorage S)).run (new s) calls = c at h hstate hcache
  obtain ⟨filters, t, hd | hd⟩ := h
  · have hall : d ∈ (c.load rk t).1 := (List.mem_filter.1 hd).1
    unfold load at hall
    rcases hget : c.cache[hashBytes rk]? with _ | cached
    · rw [hget] at hall
      have hgen := hinner inner hsubset rk d ⟨none, t, .inl (hstate ▸ hall)⟩
      rwa [hsub] at hgen
    · rw [hget] at hall
      obtain ⟨pre, hpre, rk', clock, hkey, rfl⟩ := hcache hget
      obtain rfl := hashBytes_inj.1 hkey
      have hsubpre := List.Subset.trans (submitted_mono hpre) hsubset
      exact (hinner pre hsubpre rk d ⟨none, clock, .inl hall⟩).mono hsubpre
  · have hgen := hinner inner hsubset rk d ⟨filters, t, .inr (hstate ▸ hd)⟩
    rwa [hsub] at hgen

/-- Nothing forged is ever served: whatever a read returns in a state that any run of a backend
reaches was stored, is authentic, lists the routing key and obeys the bounds. -/
theorem backends_serve_genuine [Ciborium] [DescriptorCodec] :
    (∀ (calls : List (StorageCall DescriptorStore)) (rk : Hash) (d : Descriptor),
      Returned ((storageMachine DescriptorStore).run DescriptorStore.new calls) rk d →
        Genuine (submitted calls) rk d) ∧
    (∀ calls : List (StorageCall RedbStorage),
      Descriptor.NoCollision {d | d ∈ submitted calls} → ∀ (rk : Hash) (d : Descriptor),
        Returned ((storageMachine RedbStorage).run RedbStorage.new calls) rk d →
          Genuine (submitted calls) rk d) ∧
    (∀ calls : List (StorageCall (CachedStorage RedbStorage)),
      Descriptor.NoCollision {d | d ∈ submitted calls} → ∀ (rk : Hash) (d : Descriptor),
        Returned ((storageMachine (CachedStorage RedbStorage)).run
            (CachedStorage.new RedbStorage.new) calls) rk d →
          Genuine (submitted calls) rk d) := by
  refine ⟨fun calls rk d h => DescriptorStore.genuine_of_returned h,
    fun calls hnc rk d h => RedbStorage.genuine_of_returned hnc h, ?_⟩
  intro calls hnc rk d h
  refine CachedStorage.genuine_of_returned ?_ h
  intro inner hsub rk d h
  exact RedbStorage.genuine_of_returned (Descriptor.NoCollision.mono hnc fun d hd => hsub hd) h

end Crypto

/-- Each backend returns the one descriptor it was given, which is genuine. -/
theorem target_genuine :
    letI : Crypto := cryptoOf [target]
    letI : Ciborium := referenceCiborium
    letI : DescriptorCodec := wireCodec
    Genuine (submitted [StorageCall.storeDescriptorAt (S := DescriptorStore) target
        1700000000000000]) computeKey target ∧
      Genuine (submitted [StorageCall.storeDescriptorAt (S := RedbStorage) target
        1700000000000000]) computeKey target ∧
      Genuine (submitted [StorageCall.storeDescriptor (S := CachedStorage RedbStorage) target
        1700000000000000]) computeKey target := by
  let _ : Crypto := cryptoOf [target]
  let _ : Ciborium := referenceCiborium
  let _ : DescriptorCodec := wireCodec
  obtain ⟨hmemory, hredb, hcached⟩ := backends_serve_genuine
  refine ⟨hmemory _ computeKey target ⟨none, 1700000000000000, .inr ?_⟩,
    hredb _ ?_ computeKey target ⟨none, 1700000000000000, .inr ?_⟩,
    hcached _ ?_ computeKey target ⟨none, 1700000000000000, .inl ?_⟩⟩
  · decide +kernel
  · exact Descriptor.noCollision_of_list (by decide +kernel)
  · decide +kernel
  · exact Descriptor.noCollision_of_list (by decide +kernel)
  · decide +kernel

/-! ## The reference map -/

section ReferenceMap

variable [Crypto]

/-- Both backends refine one map: after any run at non-decreasing times, of descriptors that need
no special processing, a read at a later time returns exactly the last accepted descriptors of their
slots that list the routing key, have not expired and pass the filters. -/
theorem backends_read_latest [Ciborium] [DescriptorCodec] :
    (∀ calls : List (StorageCall DescriptorStore),
      (∀ d ∈ submitted calls, DescriptorStore.Plain d) → TimesOrdered calls →
      ∀ (rk : Hash) (filters : Option FilterSet) (t : UInt64), lastTime calls ≤ t →
        ∀ d, d ∈ (getDescriptorsAt ((storageMachine DescriptorStore).run DescriptorStore.new calls)
            rk filters t).1 ↔
          Slots.latest DedupKey.fromDescriptor (accepted DescriptorStore.new calls)
              (DedupKey.fromDescriptor d) = some d ∧
            rk ∈ d.routingKeys ∧ d.expiredAt t = false ∧ admitted filters d = true) ∧
    (∀ calls : List (StorageCall RedbStorage),
      Descriptor.NoCollision {d | d ∈ submitted calls} → TimesOrdered calls →
      ∀ (rk : Hash) (filters : Option FilterSet) (t : UInt64), lastTime calls ≤ t →
        ∀ d, d ∈ (getDescriptorsAt ((storageMachine RedbStorage).run RedbStorage.new calls)
            rk filters t).1 ↔
          Slots.latest dedupKey (accepted RedbStorage.new calls) (dedupKey d) = some d ∧
            rk ∈ d.routingKeys ∧ d.expiredAt t = false ∧ admitted filters d = true) := by
  constructor
  · intro calls hplain htimes rk filters t ht d
    exact DescriptorStore.slotView.mem_read_iff DescriptorStore.files_new hplain htimes rk filters
      ht d
  · intro calls hnc htimes rk filters t ht d
    exact (RedbStorage.slotView hnc).mem_read_iff (RedbStorage.stocks_new _) (fun d hd => hd)
      htimes rk filters ht d

end ReferenceMap

/-- Both backends, after storing one descriptor, return it. -/
theorem target_read :
    letI : Crypto := cryptoOf [target]
    letI : Ciborium := referenceCiborium
    letI : DescriptorCodec := wireCodec
    target ∈ (getDescriptorsAt ((storageMachine DescriptorStore).run DescriptorStore.new
        [.storeDescriptorAt target 1700000000000000]) computeKey none 1700000001000000).1 ∧
      target ∈ (getDescriptorsAt ((storageMachine RedbStorage).run RedbStorage.new
        [.storeDescriptorAt target 1700000000000000]) computeKey none 1700000001000000).1 := by
  let _ : Crypto := cryptoOf [target]
  let _ : Ciborium := referenceCiborium
  let _ : DescriptorCodec := wireCodec
  obtain ⟨hmemory, hredb⟩ := backends_read_latest
  refine ⟨(hmemory _ ?_ ?_ computeKey none 1700000001000000 ?_ target).2 ?_,
    (hredb _ ?_ ?_ computeKey none 1700000001000000 ?_ target).2 ?_⟩
  · intro d hd
    obtain rfl : d = target := by simpa [submitted, StorageCall.stores] using hd
    exact ⟨by decide +kernel, by decide +kernel⟩
  · simp [TimesOrdered, StorageCall.time]
  · decide +kernel
  · decide +kernel
  · exact Descriptor.noCollision_of_list (by decide +kernel)
  · simp [TimesOrdered, StorageCall.time]
  · decide +kernel
  · decide +kernel

end MeshProtocol
