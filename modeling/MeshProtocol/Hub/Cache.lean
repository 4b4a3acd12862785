import MeshProtocol.Dht.Storage
import MeshProtocol.Library.Buckets

/-!
# The hot cache (`mesh-hub/src/storage/mod.rs`)

`CachedStorage` keeps the unfiltered answers of a backend by routing key.  The cache library `moka`
is third-party code, modelled as a map that returns what was last inserted under a key and may drop
an entry at any time, which is a background event here.
-/

namespace MeshProtocol

open Std DescriptorStorage

/-- A cache of descriptor lists over a backend. -/
structure CachedStorage (S : Type) where
  inner : S
  cache : ExtTreeMap (List UInt8) (List Descriptor)

/-- A dropped cache entry, or an event of the backend. -/
inductive CachedStorage.Event (E : Type) where
  | drop (key : List UInt8)
  | inner (e : E)

namespace CachedStorage

variable {S : Type}

/-- An empty cache over a backend. -/
def new (inner : S) : CachedStorage S := ⟨inner, ∅⟩

/-- Invalidates the entries of some routing keys. -/
def invalidate (cache : ExtTreeMap (List UInt8) (List Descriptor)) (routingKeys : List Hash) :
    ExtTreeMap (List UInt8) (List Descriptor) :=
  routingKeys.foldl (fun cache rk => cache.erase (hashBytes rk)) cache

/-- What a store does after the backend's own: it invalidates the descriptor's routing keys if the
backend accepted it. -/
def afterStore (c : CachedStorage S) (d : Descriptor) :
    StoreResult × S → StoreResult × CachedStorage S
  | (.error e, inner) => (.error e, { c with inner := inner })
  | (.ok (), inner) => (.ok (), ⟨inner, invalidate c.cache d.routingKeys⟩)

variable [DescriptorStorage S]

/-- The unfiltered answer at a routing key, from the cache or loaded into it. -/
def load (c : CachedStorage S) (routingKey : Hash) (clock : UInt64) :
    List Descriptor × CachedStorage S :=
  match c.cache[hashBytes routingKey]? with
  | some cached => (cached, c)
  | none =>
    let (loaded, inner) := getDescriptors c.inner routingKey none clock
    (loaded, ⟨inner, c.cache.insert (hashBytes routingKey) loaded⟩)

instance : DescriptorStorage (CachedStorage S) where
  Event := Event (DescriptorStorage.Event S)
  storeDescriptor c d clock := c.afterStore d (storeDescriptor c.inner d clock)
  storeDescriptorAt c d now := c.afterStore d (storeDescriptorAt c.inner d now)
  getDescriptors c rk filters clock :=
    let (all, c) := c.load rk clock
    (all.filter (admitted filters), c)
  getDescriptorsAt c rk filters now :=
    let (ds, inner) := getDescriptorsAt c.inner rk filters now
    (ds, { c with inner := inner })
  evictExpired c clock := ⟨evictExpired c.inner clock, ∅⟩
  evictExpiredAt c now := ⟨evictExpiredAt c.inner now, ∅⟩
  hasDescriptors c rk :=
    match c.cache[hashBytes rk]? with
    | some cached => !cached.isEmpty
    | none => hasDescriptors c.inner rk
  descriptorCount c := descriptorCount c.inner
  routingKeyCount c := routingKeyCount c.inner
  background c
    | .drop key => { c with cache := c.cache.erase key }
    | .inner e => { c with inner := background c.inner e }

/-! ## Runs -/

/-- A cache entry is what the backend answered at some point of its run. -/
def Loaded (s : S) (calls : List (StorageCall S)) (key : List UInt8) (ds : List Descriptor) :
    Prop :=
  ∃ pre, pre <+: calls ∧ ∃ rk clock, key = hashBytes rk ∧
    ds = (getDescriptors ((storageMachine S).run s pre) rk none clock).1

lemma Loaded.mono {s : S} {calls calls' : List (StorageCall S)} {key : List UInt8}
    {ds : List Descriptor} (h : Loaded s calls key ds) (hcalls : calls <+: calls') :
    Loaded s calls' key ds := by
  obtain ⟨pre, hpre, hrest⟩ := h
  exact ⟨pre, hpre.trans hcalls, hrest⟩

omit [DescriptorStorage S] in
lemma getElem?_invalidate {cache : ExtTreeMap (List UInt8) (List Descriptor)}
    {routingKeys : List Hash} {key : List UInt8} {ds : List Descriptor} :
    (invalidate cache routingKeys)[key]? = some ds ↔
      cache[key]? = some ds ∧ key ∉ routingKeys.map hashBytes := by
  induction routingKeys generalizing cache with
  | nil => simp [invalidate]
  | cons rk routingKeys ih =>
    rw [invalidate, List.foldl_cons, ← invalidate, ih, ExtTreeMap.getElem?_erase, List.map_cons,
      List.mem_cons, not_or]
    by_cases hkey : hashBytes rk = key
    · rw [if_pos (by rw [hkey]; exact compare_self)]
      constructor
      · rintro ⟨hnone, -⟩
        cases hnone
      · rintro ⟨-, hne, -⟩
        exact absurd hkey.symm hne
    · rw [if_neg fun hcmp => hkey (LawfulEqCmp.eq_of_compare hcmp)]
      exact and_congr_right fun _ => ⟨fun h => ⟨fun heq => hkey heq.symm, h⟩, And.right⟩

/-- An invalidated cache has no entries. -/
lemma not_mem_cleared {key : List UInt8} {ds : List Descriptor} :
    ¬ (∅ : ExtTreeMap (List UInt8) (List Descriptor))[key]? = some ds := by
  simp

omit [DescriptorStorage S] in
/-- A store takes over the backend's state and adds nothing to the cache. -/
lemma afterStore_snd (c : CachedStorage S) (d : Descriptor) (out : StoreResult × S) :
    (c.afterStore d out).2.inner = out.2 ∧
      ∀ {key : List UInt8} {ds}, (c.afterStore d out).2.cache[key]? = some ds →
        c.cache[key]? = some ds := by
  rcases out with ⟨e | ⟨⟩, inner⟩
  · exact ⟨rfl, id⟩
  · exact ⟨rfl, fun hget => (getElem?_invalidate.1 hget).1⟩

/-- Reading through the cache either changes nothing, or asks the backend and keeps its answer. -/
lemma load_snd (c : CachedStorage S) (rk : Hash) (clock : UInt64) :
    (c.load rk clock).2 = c ∨
      (c.load rk clock).2 = ⟨(getDescriptors c.inner rk none clock).2,
        c.cache.insert (hashBytes rk) (getDescriptors c.inner rk none clock).1⟩ := by
  unfold load
  rcases c.cache[hashBytes rk]? with _ | cached
  · exact .inr rfl
  · exact .inl rfl

/-- A call of the cached backend makes at most one call of the backend, which stores the same
descriptor, and at most one new cache entry, the backend's answer to a read. -/
lemma inner_step (c : CachedStorage S) (call : StorageCall (CachedStorage S)) :
    ∃ calls : List (StorageCall S), submitted calls = (call.stores.map Prod.fst).toList ∧
      ((storageMachine (CachedStorage S)).step c call).2.inner =
        (storageMachine S).run c.inner calls ∧
      ∀ {key : List UInt8} {ds},
        ((storageMachine (CachedStorage S)).step c call).2.cache[key]? = some ds →
          c.cache[key]? = some ds ∨
            ∃ rk clock, key = hashBytes rk ∧ ds = (getDescriptors c.inner rk none clock).1 := by
  cases call with
  | storeDescriptor d clock =>
    obtain ⟨hinner, hcache⟩ := c.afterStore_snd d (storeDescriptor c.inner d clock)
    exact ⟨[.storeDescriptor d clock], rfl, hinner, fun h => .inl (hcache h)⟩
  | storeDescriptorAt d now =>
    obtain ⟨hinner, hcache⟩ := c.afterStore_snd d (storeDescriptorAt c.inner d now)
    exact ⟨[.storeDescriptorAt d now], rfl, hinner, fun h => .inl (hcache h)⟩
  | getDescriptors rk filters clock =>
    have hstep : ((storageMachine (CachedStorage S)).step c
      (.getDescriptors rk filters clock)).2 = (c.load rk clock).2 := rfl
    rw [hstep]
    rcases c.load_snd rk clock with heq | heq
    · rw [heq]
      exact ⟨[], rfl, rfl, .inl⟩
    · rw [heq]
      refine ⟨[.getDescriptors rk none clock], rfl, rfl, ?_⟩
      intro key ds hget
      rw [ExtTreeMap.getElem?_insert] at hget
      split_ifs at hget with hkey
      · obtain rfl := LawfulEqCmp.eq_of_compare hkey
        exact .inr ⟨rk, clock, rfl, (Option.some.inj hget).symm⟩
      · exact .inl hget
  | getDescriptorsAt rk filters now =>
    exact ⟨[.getDescriptorsAt rk filters now], rfl, rfl, .inl⟩
  | evictExpired clock =>
    exact ⟨[.evictExpired clock], rfl, rfl, fun hget => absurd hget not_mem_cleared⟩
  | evictExpiredAt now =>
    exact ⟨[.evictExpiredAt now], rfl, rfl, fun hget => absurd hget not_mem_cleared⟩
  | background e =>
    cases e with
    | drop key =>
      refine ⟨[], rfl, rfl, ?_⟩
      intro key' ds hget
      left
      have hget : (c.cache.erase key)[key']? = some ds := hget
      rw [ExtTreeMap.getElem?_erase] at hget
      split_ifs at hget
      exact hget
    | inner e => exact ⟨[.background e], rfl, rfl, .inl⟩

/-- Behind every run of the cached backend is a run of the backend that stores the same
descriptors, and whose answers fill the cache. -/
theorem exists_inner_run (s : S) (calls : List (StorageCall (CachedStorage S))) :
    ∃ inner : List (StorageCall S), submitted inner = submitted calls ∧
      ((storageMachine (CachedStorage S)).run (new s) calls).inner =
        (storageMachine S).run s inner ∧
      ∀ {key : List UInt8} {ds},
        ((storageMachine (CachedStorage S)).run (new s) calls).cache[key]? = some ds →
          Loaded s inner key ds := by
  induction calls using List.reverseRecOn with
  | nil => exact ⟨[], rfl, rfl, fun h => by simp [new] at h⟩
  | append_singleton calls call ih =>
    obtain ⟨inner, hsub, hinner, hcache⟩ := ih
    obtain ⟨more, hsub', hinner', hcache'⟩ :=
      inner_step ((storageMachine (CachedStorage S)).run (new s) calls) call
    refine ⟨inner ++ more, ?_, ?_, ?_⟩
    · rw [submitted_concat, ← hsub, ← hsub', submitted, List.filterMap_append, ← submitted,
        ← submitted]
    · rw [Machine.run_concat, hinner', hinner, Machine.run_append]
    · intro key ds hget
      rw [Machine.run_concat] at hget
      rcases hcache' hget with hold | ⟨rk, clock, hkey, hds⟩
      · exact (hcache hold).mono (List.prefix_append inner more)
      · exact ⟨inner, List.prefix_append inner more, rk, clock, hkey, by rw [hds, hinner]⟩

end CachedStorage

end MeshProtocol
