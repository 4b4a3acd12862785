import MeshProtocol.Core.Reference
import MeshProtocol.Hub.Cache
import MeshProtocol.Hub.Redb

/-!
# What the hot cache serves

The hub reads through `CachedStorage` over `RedbStorage`.  An entry of the cache is what the
database answered when the entry was filled; it goes when a stored descriptor lists its key, and
when expired descriptors are evicted.  The database moves on meanwhile in two ways the cache is not
told about: a new version of a descriptor that does not list the key, and the passage of time.  The
results say exactly on which runs nothing of the kind is served.
-/

namespace MeshProtocol

open Std Bytes DescriptorStorage

/-! ## The tables behind the cache -/

namespace RedbStorage

variable [Crypto] [DescriptorCodec]

omit [Crypto] in
/-- The descriptor is in the table, under its id. -/
def Holds (s : RedbStorage) (d : Descriptor) : Prop :=
  s.descriptors[hashBytes d.id]? = some (DescriptorCodec.toCbor d)

omit [Crypto] in
/-- The tables list the descriptor at the routing key. -/
structure Lists (s : RedbStorage) (rk : Hash) (d : Descriptor) : Prop where
  row : (hashBytes rk, hashBytes d.id) ∈ s.byRoutingKey
  holds : s.Holds d

/-- Every row of DESCRIPTORS is a descriptor under its id, which the dedup index has for
its slot. -/
def Indexed (s : RedbStorage) : Prop :=
  ∀ i b, s.descriptors[i]? = some b → ∃ d, b = DescriptorCodec.toCbor d ∧ i = hashBytes d.id ∧
    s.dedupIndex[dedupKey d]? = some i

lemma indexed_new : Indexed new := by
  intro i b h
  simp [new] at h

lemma Indexed.dedupIndex {s : RedbStorage} (h : s.Indexed) {d : Descriptor} (hd : s.Holds d) :
    s.dedupIndex[dedupKey d]? = some (hashBytes d.id) := by
  obtain ⟨e, hcbor, -, hindex⟩ := h _ _ hd
  obtain rfl := toCbor_injective hcbor
  exact hindex

/-- A read returns what the tables list at the key, live and admitted by the filters. -/
lemma Indexed.mem_getDescriptorsAt {s : RedbStorage} (h : s.Indexed) {rk : Hash}
    {filters : Option FilterSet} {t : UInt64} {d : Descriptor} :
    d ∈ s.getDescriptorsAt rk filters t ↔ s.Lists rk d ∧ d.expiredAt t = false ∧
      admitted filters d = true := by
  have hjoin : d ∈ (KeyOrder.PairSet.get s.byRoutingKey (hashBytes rk)).filterMap
      (fun id => s.descriptors[id]?.bind DescriptorCodec.fromCbor) ↔ s.Lists rk d := by
    rw [List.mem_filterMap]
    constructor
    · rintro ⟨i, hi, hrow⟩
      obtain ⟨b, hb, hcbor⟩ := Option.bind_eq_some_iff.1 hrow
      obtain ⟨e, rfl, rfl, -⟩ := h i b hb
      rw [DescriptorCodec.fromCbor_toCbor, Option.some.injEq] at hcbor
      subst hcbor
      exact ⟨KeyOrder.PairSet.mem_get.1 hi, hb⟩
    · rintro ⟨hlisted, hholds⟩
      refine ⟨hashBytes d.id, KeyOrder.PairSet.mem_get.2 hlisted, ?_⟩
      rw [show s.descriptors[hashBytes d.id]? = _ from hholds, Option.bind_some,
        DescriptorCodec.fromCbor_toCbor]
  rw [getDescriptorsAt, List.mem_filter, hjoin, Bool.and_eq_true, Bool.not_eq_true']

lemma dedupIndex_write (s : RedbStorage) (d : Descriptor) :
    ((s.removeOld d).insertNew d).dedupIndex =
      s.dedupIndex.insert (dedupKey d) (hashBytes d.id) := by
  rw [removeOld]
  rcases s.dedupIndex[dedupKey d]? with _ | oldId <;> rfl

/-- A write puts the descriptor in its row and deletes the row the dedup index had for its slot. -/
lemma getElem?_descriptors_write {s : RedbStorage} {d : Descriptor} {i b : List UInt8} :
    ((s.removeOld d).insertNew d).descriptors[i]? = some b ↔
      (i = hashBytes d.id ∧ b = DescriptorCodec.toCbor d) ∨
        (i ≠ hashBytes d.id ∧ s.dedupIndex[dedupKey d]? ≠ some i ∧ s.descriptors[i]? = some b) := by
  have hold : (s.removeOld d).descriptors[i]? = some b ↔
      s.dedupIndex[dedupKey d]? ≠ some i ∧ s.descriptors[i]? = some b := by
    rw [removeOld]
    rcases s.dedupIndex[dedupKey d]? with _ | oldId
    · simp
    · simp only [ExtTreeMap.getElem?_erase, LawfulEqCmp.compare_eq_iff_eq]
      split_ifs with heq <;> simp [heq]
  simp only [insertNew, ExtTreeMap.getElem?_insert, LawfulEqCmp.compare_eq_iff_eq]
  by_cases hi : hashBytes d.id = i
  · simp [hi, eq_comm]
  · rw [if_neg hi, hold]
    simp [Ne.symm hi]

lemma Indexed.write {s : RedbStorage} (h : s.Indexed) (d : Descriptor) :
    ((s.removeOld d).insertNew d).Indexed := by
  intro i b hb
  rw [dedupIndex_write]
  rcases getElem?_descriptors_write.1 hb with ⟨rfl, rfl⟩ | ⟨-, hother, hrow⟩
  · exact ⟨d, rfl, rfl, ExtTreeMap.getElem?_insert_self⟩
  · obtain ⟨e, hcbor, hi, hindex⟩ := h i b hrow
    have hkey : dedupKey d ≠ dedupKey e := fun heq => hother (heq ▸ hindex)
    refine ⟨e, hcbor, hi, ?_⟩
    rw [ExtTreeMap.getElem?_insert, if_neg fun hcmp => hkey (LawfulEqCmp.eq_of_compare hcmp)]
    exact hindex

/-- Removing descriptors that the dedup index has for their slots keeps the rest indexed. -/
lemma Indexed.foldl_remove {s : RedbStorage} (h : s.Indexed) (ds : List Descriptor)
    (hds : ∀ d ∈ ds, ∀ i, s.dedupIndex[dedupKey d]? = some i → i = hashBytes d.id) :
    (ds.foldl remove s).Indexed := by
  induction ds generalizing s with
  | nil => exact h
  | cons d ds ih =>
    have hindex : ∀ k, (s.remove d).dedupIndex[k]? =
        if dedupKey d = k then none else s.dedupIndex[k]? := by
      intro k
      simp only [remove, ExtTreeMap.getElem?_erase, LawfulEqCmp.compare_eq_iff_eq]
    refine ih ?_ ?_
    · intro i b hb
      simp only [remove, ExtTreeMap.getElem?_erase, LawfulEqCmp.compare_eq_iff_eq] at hb
      split_ifs at hb with hi
      obtain ⟨e, hcbor, hie, hrow⟩ := h i b hb
      have hkey : dedupKey d ≠ dedupKey e := fun heq =>
        hi (hds d List.mem_cons_self i (heq ▸ hrow)).symm
      exact ⟨e, hcbor, hie, by rw [hindex, if_neg hkey, hrow]⟩
    · intro e he i hi
      rw [hindex] at hi
      split_ifs at hi
      exact hds e (List.mem_cons_of_mem d he) i hi

lemma Indexed.evictExpiredAt {s : RedbStorage} (h : s.Indexed) (now : UInt64) :
    (s.evictExpiredAt now).Indexed := by
  refine h.foldl_remove _ fun d hd i hi => ?_
  obtain ⟨⟨j, b⟩, hrow, hcbor⟩ := List.mem_filterMap.1 (List.mem_filter.1 hd).1
  have hb := ExtTreeMap.mem_toList_iff_getElem?_eq_some.1 hrow
  obtain ⟨e, rfl, rfl, hindex⟩ := h j b hb
  rw [DescriptorCodec.fromCbor_toCbor, Option.some.injEq] at hcbor
  subst hcbor
  rw [hindex, Option.some.injEq] at hi
  exact hi.symm

lemma getElem?_descriptors_evictExpiredAt {s : RedbStorage} {now : UInt64} {i b : List UInt8}
    (h : (s.evictExpiredAt now).descriptors[i]? = some b) : s.descriptors[i]? = some b := by
  refine evictExpiredAt_reflects (P := fun s => s.descriptors[i]? = some b) ?_ h
  intro s d hrest
  rw [remove, ExtTreeMap.getElem?_erase] at hrest
  split_ifs at hrest
  exact hrest

end RedbStorage

/-! ## One call -/

namespace CachedStorage

section Runs

variable [Crypto] [DescriptorCodec]

/-- The hub's storage after a run from the empty one. -/
def after (calls : List (StorageCall (CachedStorage RedbStorage))) : CachedStorage RedbStorage :=
  (storageMachine (CachedStorage RedbStorage)).run (new RedbStorage.new) calls

/-- The answer and the state of one more call. -/
def call (c : CachedStorage RedbStorage) (sc : StorageCall (CachedStorage RedbStorage)) :
    StorageAnswer × CachedStorage RedbStorage :=
  (storageMachine (CachedStorage RedbStorage)).step c sc

/-- The call stores the descriptor, and the store returns `Ok`. -/
def Accepts (c : CachedStorage RedbStorage) (sc : StorageCall (CachedStorage RedbStorage))
    (d : Descriptor) : Prop :=
  acceptedBy (sc, (c.call sc).1) = some d

/-- The call takes the entry at a routing key out of the cache. -/
def Invalidates (c : CachedStorage RedbStorage) (sc : StorageCall (CachedStorage RedbStorage))
    (rk : Hash) : Prop :=
  (∃ d, c.Accepts sc d ∧ rk ∈ d.routingKeys) ∨
    (∃ now, sc = .evictExpired now ∨ sc = .evictExpiredAt now) ∨
    sc = .background (.drop (hashBytes rk))

lemma after_concat (calls : List (StorageCall (CachedStorage RedbStorage)))
    (sc : StorageCall (CachedStorage RedbStorage)) :
    after (calls ++ [sc]) = ((after calls).call sc).2 := by
  rw [after, Machine.run_concat]
  rfl

/-- A store that is refused touches the rate-limit windows only; one that is accepted writes the
tables and invalidates the descriptor's routing keys. -/
lemma store_cases (c : CachedStorage RedbStorage) {sc : StorageCall (CachedStorage RedbStorage)}
    {d : Descriptor} {now : UInt64} (hstores : sc.stores = some (d, now)) :
    ((∀ e, ¬ c.Accepts sc e) ∧ ∃ windows,
        (c.call sc).2 = { c with inner := { c.inner with rateTimestamps := windows } }) ∨
      (c.Accepts sc d ∧ ∃ windows, (c.call sc).2 =
        ⟨(({ c.inner with rateTimestamps := windows } : RedbStorage).removeOld d).insertNew d,
          invalidate c.cache d.routingKeys⟩) := by
  have hcall : c.call sc = (.stored (c.afterStore d (c.inner.storeDescriptorAt d now)).1,
      (c.afterStore d (c.inner.storeDescriptorAt d now)).2) := by
    cases sc <;> cases hstores <;> rfl
  rcases c.inner.storeDescriptorAt_cases d now with ⟨e, windows, heq, -⟩ | ⟨windows, heq, -⟩
  · rw [heq] at hcall
    refine .inl ⟨fun e haccepts => ?_, windows, by rw [hcall]; rfl⟩
    rw [Accepts, acceptedBy, hcall] at haccepts
    simp [afterStore] at haccepts
  · rw [heq] at hcall
    refine .inr ⟨?_, windows, by rw [hcall]; rfl⟩
    have haccepted : acceptedBy (sc, .stored (.ok ())) = sc.stores.map Prod.fst := if_pos rfl
    rw [Accepts, hcall]
    exact haccepted.trans (by rw [hstores]; rfl)

lemma not_accepts_of_stores {c : CachedStorage RedbStorage}
    {sc : StorageCall (CachedStorage RedbStorage)} (h : sc.stores = none) (d : Descriptor) :
    ¬ c.Accepts sc d := by
  intro haccepts
  rw [Accepts, acceptedBy, h] at haccepts
  simp at haccepts

lemma Accepts.eq {c : CachedStorage RedbStorage} {sc : StorageCall (CachedStorage RedbStorage)}
    {d e : Descriptor} (hd : c.Accepts sc d) (he : c.Accepts sc e) : d = e :=
  Option.some.inj (hd.symm.trans he)

/-- What a call does to the tables: a write, an eviction, or nothing. -/
theorem inner_cases (c : CachedStorage RedbStorage)
    (sc : StorageCall (CachedStorage RedbStorage)) :
    (∃ d windows, c.Accepts sc d ∧ (c.call sc).2.inner =
        (({ c.inner with rateTimestamps := windows } : RedbStorage).removeOld d).insertNew d) ∨
      (∃ now, (∀ d, ¬ c.Accepts sc d) ∧ (c.call sc).2.inner = c.inner.evictExpiredAt now) ∨
      ∃ windows flag, (∀ d, ¬ c.Accepts sc d) ∧
        (c.call sc).2.inner =
          { c.inner with rateTimestamps := windows, skipRateLimit := flag } := by
  rcases hstores : sc.stores with _ | ⟨d, now⟩
  · have hnone : ∀ d, ¬ c.Accepts sc d := not_accepts_of_stores hstores
    cases sc with
    | storeDescriptor d clock => cases hstores
    | storeDescriptorAt d now => cases hstores
    | getDescriptors rk filters t =>
      refine .inr (.inr ⟨c.inner.rateTimestamps, c.inner.skipRateLimit, hnone, ?_⟩)
      rcases c.load_snd rk t with heq | heq
      · exact congrArg CachedStorage.inner heq
      · exact (congrArg CachedStorage.inner heq).trans rfl
    | getDescriptorsAt rk filters t => exact .inr (.inr ⟨_, _, hnone, rfl⟩)
    | evictExpired clock => exact .inr (.inl ⟨clock, hnone, rfl⟩)
    | evictExpiredAt now => exact .inr (.inl ⟨now, hnone, rfl⟩)
    | background e =>
      cases e with
      | drop key => exact .inr (.inr ⟨_, _, hnone, rfl⟩)
      | inner e => cases e with
        | reopen => exact .inr (.inr ⟨_, _, hnone, rfl⟩)
        | setSkipRateLimit flag => exact .inr (.inr ⟨_, _, hnone, rfl⟩)
  · rcases c.store_cases hstores with ⟨hnone, windows, heq⟩ | ⟨haccepts, windows, heq⟩
    · exact .inr (.inr ⟨windows, c.inner.skipRateLimit, hnone, by rw [heq]⟩)
    · exact .inl ⟨d, windows, haccepts, by rw [heq]⟩

/-- An invalidated entry is gone. -/
lemma Invalidates.getElem?_call {c : CachedStorage RedbStorage}
    {sc : StorageCall (CachedStorage RedbStorage)} {rk : Hash} (h : c.Invalidates sc rk) :
    (c.call sc).2.cache[hashBytes rk]? = none := by
  rcases h with ⟨d, haccepts, hrk⟩ | ⟨now, rfl | rfl⟩ | rfl
  · rcases hstores : sc.stores with _ | ⟨d', now⟩
    · exact absurd haccepts (not_accepts_of_stores hstores d)
    · rcases c.store_cases hstores with ⟨hnone, -⟩ | ⟨haccepts', windows, heq⟩
      · exact absurd haccepts (hnone d)
      · obtain rfl := haccepts.eq haccepts'
        rw [heq, Option.eq_none_iff_forall_ne_some]
        intro loaded hget
        exact (getElem?_invalidate.1 hget).2 (List.mem_map_of_mem hrk)
  · exact ExtTreeMap.getElem?_empty
  · exact ExtTreeMap.getElem?_empty
  · exact ExtTreeMap.getElem?_erase_self

/-- What is not invalidated, and not read, stays as it is. -/
lemma getElem?_call_of_kept {c : CachedStorage RedbStorage}
    {sc : StorageCall (CachedStorage RedbStorage)} {rk : Hash} (h : ¬ c.Invalidates sc rk)
    (hread : ∀ rk filters t, sc ≠ .getDescriptors rk filters t) :
    (c.call sc).2.cache[hashBytes rk]? = c.cache[hashBytes rk]? := by
  rcases hstores : sc.stores with _ | ⟨d, now⟩
  · cases sc with
    | storeDescriptor d clock => cases hstores
    | storeDescriptorAt d now => cases hstores
    | getDescriptors rk filters t => exact absurd rfl (hread rk filters t)
    | getDescriptorsAt rk filters t => rfl
    | evictExpired clock => exact absurd (.inr (.inl ⟨clock, .inl rfl⟩)) h
    | evictExpiredAt now => exact absurd (.inr (.inl ⟨now, .inr rfl⟩)) h
    | background e =>
      cases e with
      | drop key =>
        have hkey : key ≠ hashBytes rk := by
          rintro rfl
          exact h (.inr (.inr rfl))
        have hcall : (c.call (.background (.drop key))).2.cache = c.cache.erase key := rfl
        rw [hcall, ExtTreeMap.getElem?_erase,
          if_neg fun hcmp => hkey (LawfulEqCmp.eq_of_compare hcmp)]
      | inner e => rfl
  · rcases c.store_cases hstores with ⟨-, windows, heq⟩ | ⟨haccepts, windows, heq⟩
    · rw [heq]
    · have hother : hashBytes rk ∉ d.routingKeys.map hashBytes := by
        intro hmem
        obtain ⟨rk', hrk', heq⟩ := List.mem_map.1 hmem
        exact h (.inl ⟨d, haccepts, hashBytes_inj.1 heq ▸ hrk'⟩)
      rw [heq]
      ext loaded
      rw [getElem?_invalidate]
      exact and_iff_left hother

/-- A read fills the entry it does not find. -/
lemma getElem?_load {c : CachedStorage RedbStorage} {rk rk' : Hash} {t : UInt64}
    {loaded : List Descriptor} :
    (c.load rk' t).2.cache[hashBytes rk]? = some loaded ↔
      c.cache[hashBytes rk]? = some loaded ∨
        (c.cache[hashBytes rk]? = none ∧ rk' = rk ∧
          loaded = c.inner.getDescriptorsAt rk none t) := by
  rw [load]
  rcases hcached : c.cache[hashBytes rk']? with _ | cached
  · have hget :
      (c.cache.insert (hashBytes rk') (c.inner.getDescriptorsAt rk' none t))[hashBytes rk]?
        = if rk' = rk then some (c.inner.getDescriptorsAt rk' none t)
          else c.cache[hashBytes rk]? := by
      simp only [ExtTreeMap.getElem?_insert, LawfulEqCmp.compare_eq_iff_eq, hashBytes_inj]
    refine (iff_of_eq (congrArg (· = some loaded) hget)).trans ?_
    by_cases heq : rk' = rk
    · subst heq
      simp [hcached, eq_comm]
    · simp [heq]
  · refine ⟨.inl, ?_⟩
    rintro (hget | ⟨hnone, rfl, -⟩)
    · exact hget
    · rw [hcached] at hnone
      cases hnone

/-- What a call does to the cache: an entry stays unless it is invalidated, and a read that finds
none fills it with the answer of the database. -/
theorem getElem?_cache_call {c : CachedStorage RedbStorage}
    {sc : StorageCall (CachedStorage RedbStorage)} {rk : Hash} {loaded : List Descriptor} :
    (c.call sc).2.cache[hashBytes rk]? = some loaded ↔
      (c.cache[hashBytes rk]? = some loaded ∧ ¬ c.Invalidates sc rk) ∨
        (c.cache[hashBytes rk]? = none ∧ ∃ filters t, sc = .getDescriptors rk filters t ∧
          loaded = c.inner.getDescriptorsAt rk none t) := by
  by_cases hread : ∃ rk' filters t, sc = .getDescriptors rk' filters t
  · obtain ⟨rk', filters, t, rfl⟩ := hread
    have hvalid : ¬ c.Invalidates (.getDescriptors rk' filters t) rk := by
      rintro (⟨d, haccepts, -⟩ | ⟨now, h | h⟩ | h)
      · exact not_accepts_of_stores rfl d haccepts
      · cases h
      · cases h
      · cases h
    refine getElem?_load.trans (or_congr (and_iff_left hvalid).symm (and_congr_right fun _ => ?_))
    constructor
    · rintro ⟨rfl, hloaded⟩
      exact ⟨filters, t, rfl, hloaded⟩
    · rintro ⟨filters', t', heq, hloaded⟩
      cases heq
      exact ⟨rfl, hloaded⟩
  · have hother : ∀ rk filters t, sc ≠ .getDescriptors rk filters t := fun rk filters t heq =>
      hread ⟨rk, filters, t, heq⟩
    have hnofill : ¬ (c.cache[hashBytes rk]? = none ∧ ∃ filters t,
        sc = .getDescriptors rk filters t ∧ loaded = c.inner.getDescriptorsAt rk none t) := by
      rintro ⟨-, filters, t, heq, -⟩
      exact hother rk filters t heq
    rw [or_iff_left hnofill]
    by_cases hinvalid : c.Invalidates sc rk
    · rw [hinvalid.getElem?_call]
      exact iff_of_false (by simp) fun h => h.2 hinvalid
    · rw [getElem?_call_of_kept hinvalid hother]
      exact (and_iff_left hinvalid).symm

/-! ## Runs -/

lemma indexed_after (calls : List (StorageCall (CachedStorage RedbStorage))) :
    (after calls).inner.Indexed := by
  refine Machine.run_invariant (P := fun c : CachedStorage RedbStorage => c.inner.Indexed)
    RedbStorage.indexed_new (fun c sc h => ?_) calls
  have hcall : ((storageMachine (CachedStorage RedbStorage)).step c sc).2 = (c.call sc).2 := rfl
  rw [hcall]
  rcases c.inner_cases sc with ⟨d, windows, -, heq⟩ | ⟨now, -, heq⟩ | ⟨windows, flag, -, heq⟩
  · rw [heq]
    exact RedbStorage.Indexed.write (s := { c.inner with rateTimestamps := windows }) h d
  · rw [heq]
    exact h.evictExpiredAt now
  · rw [heq]
    exact h

/-- What is in the table after a call that did not store it was there before, and the call wrote
another slot. -/
lemma holds_of_call {c : CachedStorage RedbStorage} (h : c.inner.Indexed)
    {sc : StorageCall (CachedStorage RedbStorage)} {d : Descriptor} (hnot : ¬ c.Accepts sc d)
    (hd : (c.call sc).2.inner.Holds d) :
    c.inner.Holds d ∧ ∀ e, c.Accepts sc e → dedupKey e ≠ dedupKey d := by
  rcases c.inner_cases sc with ⟨e, windows, haccepts, heq⟩ | ⟨now, hnone, heq⟩ |
    ⟨windows, flag, hnone, heq⟩
  · rw [heq] at hd
    rcases RedbStorage.getElem?_descriptors_write.1 hd with ⟨-, hcbor⟩ | ⟨-, hother, hrow⟩
    · exact absurd (RedbStorage.toCbor_injective hcbor ▸ haccepts) hnot
    · refine ⟨hrow, fun e' he' hkey => hother ?_⟩
      obtain rfl := haccepts.eq he'
      rw [hkey]
      exact h.dedupIndex hrow
  · rw [heq] at hd
    exact ⟨RedbStorage.getElem?_descriptors_evictExpiredAt hd, fun e he => absurd he (hnone e)⟩
  · rw [heq] at hd
    exact ⟨hd, fun e he => absurd he (hnone e)⟩

/-- A read answers from its entry, or else from the database. -/
lemma mem_getDescriptors {c : CachedStorage RedbStorage} {rk : Hash} {filters : Option FilterSet}
    {t : UInt64} {d : Descriptor} :
    d ∈ (getDescriptors c rk filters t).1 ↔ admitted filters d = true ∧
      ((∃ cached, c.cache[hashBytes rk]? = some cached ∧ d ∈ cached) ∨
        (c.cache[hashBytes rk]? = none ∧ d ∈ c.inner.getDescriptorsAt rk none t)) := by
  have hread : (getDescriptors c rk filters t).1 = (c.load rk t).1.filter (admitted filters) := rfl
  rw [hread, List.mem_filter, and_comm, load]
  refine and_congr_right fun _ => ?_
  rcases c.cache[hashBytes rk]? with _ | cached
  · simp [getDescriptors]
  · simp

/-! ## Replaced versions -/

/-- The call stores a version with another id over a stored one. -/
structure Replaces (c : CachedStorage RedbStorage)
    (sc : StorageCall (CachedStorage RedbStorage)) (old d : Descriptor) : Prop where
  held : c.inner.Holds old
  accepts : c.Accepts sc d
  key : dedupKey d = dedupKey old
  id : d.id ≠ old.id

/-- The version was replaced at some point of the run, and has not been stored again since. -/
def Superseded (calls : List (StorageCall (CachedStorage RedbStorage))) (old : Descriptor) : Prop :=
  Machine.Since (fun pre sc => ∃ d, (after pre).Replaces sc old d)
    (fun pre sc => (after pre).Accepts sc old) calls

/-- In every state of the run, no read returns a superseded version. -/
def NeverResurrects (calls : List (StorageCall (CachedStorage RedbStorage))) : Prop :=
  ∀ pre, pre <+: calls → ∀ old, Superseded pre old → ∀ rk filters t,
    old ∉ (getDescriptors (after pre) rk filters t).1

/-- Whenever a version is replaced, the entries that the new version does not invalidate are without
it. -/
def UncachedElsewhere (calls : List (StorageCall (CachedStorage RedbStorage))) : Prop :=
  ∀ pre sc, pre ++ [sc] <+: calls → ∀ old d, (after pre).Replaces sc old d → ∀ rk cached,
    rk ∉ d.routingKeys → (after pre).cache[hashBytes rk]? = some cached → old ∉ cached

lemma Replaces.superseded {calls : List (StorageCall (CachedStorage RedbStorage))}
    {sc : StorageCall (CachedStorage RedbStorage)} {old d : Descriptor}
    (h : (after calls).Replaces sc old d) : Superseded (calls ++ [sc]) old := by
  unfold Superseded
  exact Machine.since_concat_iff.2 (.inl ⟨d, h⟩)

/-- A superseded version is neither in the table nor in the cache, as long as no replaced version is
left behind in it. -/
lemma gone_of_superseded {calls : List (StorageCall (CachedStorage RedbStorage))}
    (h : UncachedElsewhere calls) {old : Descriptor} (hold : Superseded calls old) :
    ¬ (after calls).inner.Holds old ∧
      ∀ rk cached, (after calls).cache[hashBytes rk]? = some cached → old ∉ cached := by
  induction calls using List.reverseRecOn with
  | nil => exact absurd hold Machine.not_since_nil
  | append_singleton calls sc ih =>
    have hindexed := indexed_after calls
    have hearlier : UncachedElsewhere calls := fun pre sc' hpre =>
      h pre sc' (hpre.trans (List.prefix_append calls [sc]))
    rw [after_concat]
    rcases Machine.since_concat_iff.1 hold with ⟨d, hreplaces⟩ | ⟨hbefore, hnot⟩
    · have hnot : ¬ (after calls).Accepts sc old := fun haccepts =>
        hreplaces.id (congrArg Descriptor.id (hreplaces.accepts.eq haccepts))
      refine ⟨fun hholds => ?_, fun rk cached hget => ?_⟩
      · exact (holds_of_call hindexed hnot hholds).2 d hreplaces.accepts hreplaces.key
      · rcases getElem?_cache_call.1 hget with ⟨hget, hvalid⟩ | ⟨-, filters, t, rfl, -⟩
        · refine h calls sc List.prefix_rfl old d hreplaces rk cached (fun hrk => ?_) hget
          exact hvalid (.inl ⟨d, hreplaces.accepts, hrk⟩)
        · exact absurd hreplaces.accepts (not_accepts_of_stores rfl d)
    · obtain ⟨htable, hcache⟩ := ih hearlier hbefore
      refine ⟨fun hholds => htable (holds_of_call hindexed hnot hholds).1, fun rk cached hget => ?_⟩
      rcases getElem?_cache_call.1 hget with ⟨hget, -⟩ | ⟨-, filters, t, -, rfl⟩
      · exact hcache rk cached hget
      · exact fun hmem => htable (hindexed.mem_getDescriptorsAt.1 hmem).1.holds

/-- No read of a run returns a superseded version exactly if, whenever a version is replaced, no
entry at a routing key that the new version does not list has it. -/
theorem neverResurrects_iff (calls : List (StorageCall (CachedStorage RedbStorage))) :
    NeverResurrects calls ↔ UncachedElsewhere calls := by
  constructor
  · intro h pre sc hpre old d hreplaces rk cached hrk hget hmem
    refine h (pre ++ [sc]) hpre old hreplaces.superseded rk none 0
      (mem_getDescriptors.2 ⟨rfl, .inl ?_⟩)
    refine ⟨cached, ?_, hmem⟩
    rw [after_concat]
    refine getElem?_cache_call.2 (.inl ⟨hget, ?_⟩)
    rintro (⟨e, haccepts, hlists⟩ | ⟨now, rfl | rfl⟩ | rfl)
    · exact hrk (hreplaces.accepts.eq haccepts ▸ hlists)
    · exact not_accepts_of_stores rfl d hreplaces.accepts
    · exact not_accepts_of_stores rfl d hreplaces.accepts
    · exact not_accepts_of_stores rfl d hreplaces.accepts
  · intro h pre hpre old hold rk filters t hmem
    have hpast : UncachedElsewhere pre := fun pre' sc hpre' => h pre' sc (hpre'.trans hpre)
    obtain ⟨htable, hcache⟩ := gone_of_superseded hpast hold
    rcases (mem_getDescriptors.1 hmem).2 with ⟨cached, hget, hcached⟩ | ⟨-, hread⟩
    · exact hcache rk cached hget hcached
    · exact htable ((indexed_after pre).mem_getDescriptorsAt.1 hread).1.holds

/-! ## Expired descriptors -/

omit [Crypto] [DescriptorCodec] in
/-- The lifetime, counted from the timestamp or the time of the read, whichever is earlier, ends
after the read. -/
def LiveAt (d : Descriptor) (t : UInt64) : Prop :=
  t.toNat < min d.timestamp.toNat t.toNat + d.ttl.toNat * 1000000

/-- A read found no entry at the routing key, loaded the given answer of the database, and nothing
has invalidated the entry since. -/
def Filled (calls : List (StorageCall (CachedStorage RedbStorage))) (rk : Hash)
    (loaded : List Descriptor) : Prop :=
  Machine.Since (fun pre sc => (after pre).cache[hashBytes rk]? = none ∧ ∃ filters t,
      sc = .getDescriptors rk filters t ∧ loaded = (after pre).inner.getDescriptorsAt rk none t)
    (fun pre sc => (after pre).Invalidates sc rk) calls

/-- The cache has what was filled in and not invalidated since. -/
theorem getElem?_cache_after {calls : List (StorageCall (CachedStorage RedbStorage))} {rk : Hash}
    {loaded : List Descriptor} :
    (after calls).cache[hashBytes rk]? = some loaded ↔ Filled calls rk loaded := by
  induction calls using List.reverseRecOn with
  | nil => exact iff_of_false (by simp [after, new]) Machine.not_since_nil
  | append_singleton calls sc ih =>
    rw [after_concat, getElem?_cache_call, ih, or_comm]
    unfold Filled
    rw [Machine.since_concat_iff]

/-- Every descriptor that a read of the run returns is live at the time of the read. -/
def ReadsLive (calls : List (StorageCall (CachedStorage RedbStorage))) : Prop :=
  ∀ pre rk filters t, pre ++ [.getDescriptors rk filters t] <+: calls →
    ∀ d ∈ (getDescriptors (after pre) rk filters t).1, LiveAt d t

/-- Every read of the run returns what the database would return at the time. -/
def ReadsSound (calls : List (StorageCall (CachedStorage RedbStorage))) : Prop :=
  ∀ pre rk filters t, pre ++ [.getDescriptors rk filters t] <+: calls →
    ∀ d ∈ (getDescriptors (after pre) rk filters t).1,
      d ∈ (after pre).inner.getDescriptorsAt rk filters t

/-- No read that finds an entry comes so late that a descriptor loaded into it, which the filters
admit, has reached the end of its lifetime. -/
def ReadInTime (calls : List (StorageCall (CachedStorage RedbStorage))) : Prop :=
  ∀ pre rk filters t, pre ++ [.getDescriptors rk filters t] <+: calls →
    ∀ loaded, Filled pre rk loaded → ∀ d ∈ loaded, admitted filters d = true → LiveAt d t

/-- No read that finds an entry has a descriptor in it, admitted by the filters, that has expired or
that the tables no longer list at the key. -/
def ReadCurrent (calls : List (StorageCall (CachedStorage RedbStorage))) : Prop :=
  ∀ pre rk filters t, pre ++ [.getDescriptors rk filters t] <+: calls →
    ∀ loaded, Filled pre rk loaded → ∀ d ∈ loaded, admitted filters d = true →
      d.expiredAt t = false ∧ (after pre).inner.Lists rk d

omit [Crypto] [DescriptorCodec] in
lemma liveAt_of_not_expired {d : Descriptor} {t : UInt64} (h : d.expiredAt t = false) :
    LiveAt d t := by
  have hsum : ¬ (min d.timestamp.toNat t.toNat + d.ttl.toNat * 1000000) % 2 ^ 64 ≤ t.toNat :=
    fun hle => absurd (Descriptor.expiredAt_iff.2 hle) (by rw [h]; exact Bool.false_ne_true)
  exact (Nat.not_le.1 hsum).trans_le (Nat.mod_le _ _)

/-- Reads return a property of the descriptors the database would return exactly if every entry they
find has it. -/
lemma reads_iff
    {P : CachedStorage RedbStorage → Hash → Option FilterSet → UInt64 → Descriptor → Prop}
    (hdatabase : ∀ c : CachedStorage RedbStorage, c.inner.Indexed → ∀ rk filters t d,
      d ∈ c.inner.getDescriptorsAt rk none t → admitted filters d = true → P c rk filters t d)
    (calls : List (StorageCall (CachedStorage RedbStorage))) :
    (∀ pre rk filters t, pre ++ [.getDescriptors rk filters t] <+: calls →
        ∀ d ∈ (getDescriptors (after pre) rk filters t).1, P (after pre) rk filters t d) ↔
      ∀ pre rk filters t, pre ++ [.getDescriptors rk filters t] <+: calls →
        ∀ loaded, Filled pre rk loaded → ∀ d ∈ loaded, admitted filters d = true →
          P (after pre) rk filters t d := by
  constructor
  · intro h pre rk filters t hpre loaded hfilled d hd hadmitted
    refine h pre rk filters t hpre d (mem_getDescriptors.2 ⟨hadmitted, .inl ⟨loaded, ?_, hd⟩⟩)
    exact getElem?_cache_after.2 hfilled
  · intro h pre rk filters t hpre d hd
    obtain ⟨hadmitted, ⟨loaded, hget, hloaded⟩ | ⟨-, hread⟩⟩ := mem_getDescriptors.1 hd
    · exact h pre rk filters t hpre loaded (getElem?_cache_after.1 hget) d hloaded hadmitted
    · exact hdatabase (after pre) (indexed_after pre) rk filters t d hread hadmitted

/-- Every read of a run returns live descriptors exactly if none that finds an entry comes after the
end of the lifetime of a descriptor loaded into it; and every read returns what the database would
return exactly if moreover the tables still list what was loaded. -/
theorem readsLive_iff (calls : List (StorageCall (CachedStorage RedbStorage))) :
    (ReadsLive calls ↔ ReadInTime calls) ∧ (ReadsSound calls ↔ ReadCurrent calls) := by
  constructor
  · refine reads_iff (P := fun _ _ _ t d => LiveAt d t) (fun c h rk filters t d hd _ => ?_) calls
    exact liveAt_of_not_expired (h.mem_getDescriptorsAt.1 hd).2.1
  · have hlisted : ∀ pre rk filters t (d : Descriptor), admitted filters d = true →
        (d ∈ (after pre).inner.getDescriptorsAt rk filters t ↔
          d.expiredAt t = false ∧ (after pre).inner.Lists rk d) := by
      intro pre rk filters t d hadmitted
      rw [(indexed_after pre).mem_getDescriptorsAt, and_comm, and_assoc]
      exact and_congr_right fun _ => and_iff_right hadmitted
    have hsound := reads_iff
      (P := fun c rk filters t d => d ∈ c.inner.getDescriptorsAt rk filters t)
      (fun c h rk filters t d hd hadmitted => h.mem_getDescriptorsAt.2
        ⟨(h.mem_getDescriptorsAt.1 hd).1, (h.mem_getDescriptorsAt.1 hd).2.1, hadmitted⟩) calls
    refine hsound.trans ?_
    constructor
    · intro h pre rk filters t hpre loaded hfilled d hd hadmitted
      exact (hlisted pre rk filters t d hadmitted).1
        (h pre rk filters t hpre loaded hfilled d hd hadmitted)
    · intro h pre rk filters t hpre loaded hfilled d hd hadmitted
      exact (hlisted pre rk filters t d hadmitted).2
        (h pre rk filters t hpre loaded hfilled d hd hadmitted)

end Runs

/-- A read before the move leaves the old version in the cache for the reads after it. -/
theorem moved_target_served :
    letI : Crypto := cryptoOf [target, moved]
    letI : DescriptorCodec := wireCodec
    ∃ calls, TimesOrdered calls ∧ ¬ NeverResurrects calls := by
  let _ : Crypto := cryptoOf [target, moved]
  let _ : DescriptorCodec := wireCodec
  refine ⟨[.storeDescriptor target 1700000000000000,
    .getDescriptors computeKey none 1700000000000000,
    .storeDescriptor moved 1700000000000000], by simp [TimesOrdered, StorageCall.time], fun h => ?_⟩
  refine h _ List.prefix_rfl target ?_ computeKey none 1700000000000000 (by decide +kernel)
  have hreplaces : (after [.storeDescriptor target 1700000000000000,
      .getDescriptors computeKey none 1700000000000000]).Replaces
        (.storeDescriptor moved 1700000000000000) target moved := by
    refine ⟨?_, ?_, ?_, ?_⟩
    · unfold RedbStorage.Holds
      decide +kernel
    · unfold Accepts
      decide +kernel
    · decide +kernel
    · decide +kernel
  exact hreplaces.superseded

/-- A read at the end of the lifetime finds the entry that a read at its beginning filled. -/
theorem expired_target_served :
    letI : Crypto := cryptoOf [target]
    letI : DescriptorCodec := wireCodec
    ¬ ReadsLive [.storeDescriptor target 1700000000000000,
      .getDescriptors computeKey none 1700000000000000,
      .getDescriptors computeKey none 1700003600000000] := by
  let _ : Crypto := cryptoOf [target]
  let _ : DescriptorCodec := wireCodec
  intro h
  have hlive := h [.storeDescriptor target 1700000000000000,
    .getDescriptors computeKey none 1700000000000000] computeKey none 1700003600000000
    List.prefix_rfl target (by decide +kernel)
  unfold LiveAt at hlive
  exact absurd hlive (by decide +kernel)

end CachedStorage

end MeshProtocol
