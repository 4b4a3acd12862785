import MeshProtocol.Core.Wire
import MeshProtocol.Dht.SlotView
import MeshProtocol.Library.KeyOrder

/-!
# The disk-backed store (`mesh-hub/src/storage/redb.rs`)

`RedbStorage` keeps four redb tables: descriptors by id, ids by routing key (a multimap), the id
stored for each dedup key, and the sequence watermark of each dedup key.  The rate-limit windows
live in memory.  A redb transaction commits as a whole and is modelled as one step; errors of the
database itself are left out, so a call ends in one of the outcomes the code decides on.
-/

namespace MeshProtocol

open Std Bytes

/-- Disk-backed descriptor storage using redb. -/
structure RedbStorage where
  /-- DESCRIPTORS: id bytes to CBOR. -/
  descriptors : ExtTreeMap (List UInt8) (List UInt8)
  /-- BY_ROUTING_KEY: routing key bytes to id bytes, a multimap. -/
  byRoutingKey : KeyOrder.PairSet (List UInt8) (List UInt8)
  /-- DEDUP_INDEX: dedup key to id bytes. -/
  dedupIndex : ExtTreeMap (List UInt8) (List UInt8)
  /-- SEQUENCES: dedup key to sequence. -/
  sequences : ExtTreeMap (List UInt8) UInt64
  rateTimestamps : ExtTreeMap (List UInt8) (List UInt64)
  /-- When set, per-publisher rate limits are bypassed. -/
  skipRateLimit : Bool

/-- What can happen to the store between calls: the process restarts and opens the database again,
or the owner sets the public flag. -/
inductive RedbStorage.Event where
  | reopen
  | setSkipRateLimit (flag : Bool)
deriving DecidableEq, Repr

/-- The dedup key of a descriptor: the hash of publisher, schema and topic, concatenated. -/
def dedupKey [Crypto] (d : Descriptor) : List UInt8 :=
  (Crypto.blake3 (identityBytes d.publisher ++ hashBytes d.schemaHash ++ utf8Bytes d.topic)).val

namespace RedbStorage

/-- A database with empty tables, just opened. -/
def new : RedbStorage := ⟨∅, ∅, ∅, ∅, ∅, false⟩

/-- Opens the database again: the tables persist, the in-memory fields start afresh. -/
def reopen (s : RedbStorage) : RedbStorage :=
  { s with rateTimestamps := ∅, skipRateLimit := false }

/-- Removes the multimap rows of an id under the given routing keys. -/
def unlist (rows : KeyOrder.PairSet (List UInt8) (List UInt8)) (id : List UInt8)
    (routingKeys : List Hash) : KeyOrder.PairSet (List UInt8) (List UInt8) :=
  routingKeys.foldl (fun rows rk => rows.erase (hashBytes rk, id)) rows

/-- Inserts the multimap rows of an id under the given routing keys. -/
def enlist (rows : KeyOrder.PairSet (List UInt8) (List UInt8)) (id : List UInt8)
    (routingKeys : List Hash) : KeyOrder.PairSet (List UInt8) (List UInt8) :=
  routingKeys.foldl (fun rows rk => rows.insert (hashBytes rk, id)) rows

/-- Checks a publisher's window, recording the attempt if it is allowed. -/
def checkRateLimit (s : RedbStorage) (publisher : Identity) (nowMicros : UInt64) :
    Bool × RedbStorage :=
  let key := identityBytes publisher
  let (allowed, window) := checkWindow (s.rateTimestamps.getD key []) nowMicros
  (allowed, { s with rateTimestamps := s.rateTimestamps.insert key window })

/-- Whether the rate limit lets a publisher's store pass; internal operations skip it. -/
def allows (s : RedbStorage) (publisher : Identity) (nowMicros : UInt64) : Bool :=
  (if s.skipRateLimit then (true, s) else s.checkRateLimit publisher nowMicros).1

section Crypto

variable [Crypto]

/-- The sequence check against the watermark of the descriptor's slot. -/
def checkSequence (s : RedbStorage) (d : Descriptor) : StoreResult :=
  match s.sequences[dedupKey d]? with
  | some currentSeq =>
    if d.sequence < currentSeq then .error (.staleDescriptor d.sequence currentSeq) else .ok ()
  | none => .ok ()

/-- The checks made before a store writes: validation, rate limit (skipped for internal
operations), and the sequence watermark. -/
def checkStore (s : RedbStorage) (d : Descriptor) (nowMicros : UInt64) :
    StoreResult × RedbStorage :=
  match d.validate nowMicros with
  | .error e => (.error (.validationFailed e.message), s)
  | .ok () =>
    match if s.skipRateLimit then (true, s) else s.checkRateLimit d.publisher nowMicros with
    | (false, s) => (.error (.rateLimited RATE_LIMIT_PER_MINUTE), s)
    | (true, s) => (s.checkSequence d, s)

variable [DescriptorCodec]

/-- Removes the version that the dedup index names for the descriptor's slot. -/
def removeOld (s : RedbStorage) (d : Descriptor) : RedbStorage :=
  match s.dedupIndex[dedupKey d]? with
  | none => s
  | some oldId =>
    let oldRoutingKeys :=
      ((s.descriptors[oldId]?.bind DescriptorCodec.fromCbor).map Descriptor.routingKeys).getD []
    { s with
      byRoutingKey := unlist s.byRoutingKey oldId oldRoutingKeys
      descriptors := s.descriptors.erase oldId }

/-- Writes the descriptor to the four tables. -/
def insertNew (s : RedbStorage) (d : Descriptor) : RedbStorage :=
  let id := hashBytes d.id
  { s with
    descriptors := s.descriptors.insert id (DescriptorCodec.toCbor d)
    byRoutingKey := enlist s.byRoutingKey id d.routingKeys
    dedupIndex := s.dedupIndex.insert (dedupKey d) id
    sequences := s.sequences.insert (dedupKey d) d.sequence }

/-- Stores a descriptor after validation. -/
def storeDescriptorAt (s : RedbStorage) (d : Descriptor) (nowMicros : UInt64) :
    StoreResult × RedbStorage :=
  match s.checkStore d nowMicros with
  | (.error e, s) => (.error e, s)
  | (.ok (), s) => (.ok (), (s.removeOld d).insertNew d)

omit [Crypto] in
/-- The descriptors at a routing key, joined through their ids, that have not expired and pass the
filters. -/
def getDescriptorsAt (s : RedbStorage) (routingKey : Hash) (filters : Option FilterSet)
    (nowMicros : UInt64) : List Descriptor :=
  ((KeyOrder.PairSet.get s.byRoutingKey (hashBytes routingKey)).filterMap fun id =>
    s.descriptors[id]?.bind DescriptorCodec.fromCbor).filter fun d =>
      !d.expiredAt nowMicros && admitted filters d

/-- Removes a descriptor from all four tables. -/
def remove (s : RedbStorage) (d : Descriptor) : RedbStorage :=
  { s with
    descriptors := s.descriptors.erase (hashBytes d.id)
    byRoutingKey := unlist s.byRoutingKey (hashBytes d.id) d.routingKeys
    dedupIndex := s.dedupIndex.erase (dedupKey d)
    sequences := s.sequences.erase (dedupKey d) }

omit [Crypto] in
/-- The stored descriptors that have expired. -/
def expired (s : RedbStorage) (nowMicros : UInt64) : List Descriptor :=
  (s.descriptors.toList.filterMap fun kv => DescriptorCodec.fromCbor kv.2).filter
    fun d => d.expiredAt nowMicros

omit [Crypto] in
/-- All non-expired descriptors in the store, in the order of the table. -/
def allDescriptors (s : RedbStorage) (nowMicros : UInt64) : List Descriptor :=
  (s.descriptors.toList.filterMap fun kv => DescriptorCodec.fromCbor kv.2).filter
    fun d => !d.expiredAt nowMicros

/-- Collects the expired descriptors, then removes each. -/
def evictExpiredAt (s : RedbStorage) (nowMicros : UInt64) : RedbStorage :=
  (s.expired nowMicros).foldl remove s

instance : DescriptorStorage RedbStorage where
  Event := Event
  storeDescriptor := storeDescriptorAt
  storeDescriptorAt := storeDescriptorAt
  getDescriptors s rk filters clock := (s.getDescriptorsAt rk filters clock, s)
  getDescriptorsAt s rk filters now := (s.getDescriptorsAt rk filters now, s)
  evictExpired := evictExpiredAt
  evictExpiredAt := evictExpiredAt
  hasDescriptors s rk := !(KeyOrder.PairSet.get s.byRoutingKey (hashBytes rk)).isEmpty
  descriptorCount s := s.descriptors.size
  routingKeyCount s := s.byRoutingKey.size
  background s
    | .reopen => s.reopen
    | .setSkipRateLimit flag => { s with skipRateLimit := flag }

end Crypto

/-! ## Multimap rows -/

lemma mem_unlist {rows : KeyOrder.PairSet (List UInt8) (List UInt8)} {id : List UInt8}
    {routingKeys : List Hash} {p : List UInt8 × List UInt8} :
    p ∈ unlist rows id routingKeys ↔
      p ∈ rows ∧ ¬ (p.2 = id ∧ p.1 ∈ routingKeys.map hashBytes) := by
  induction routingKeys generalizing rows with
  | nil => simp [unlist]
  | cons rk routingKeys ih =>
    rw [unlist, List.foldl_cons, ← unlist, ih, KeyOrder.PairSet.mem_erase, List.map_cons,
      List.mem_cons, ne_eq, Prod.ext_iff]
    tauto

lemma mem_enlist {rows : KeyOrder.PairSet (List UInt8) (List UInt8)} {id : List UInt8}
    {routingKeys : List Hash} {p : List UInt8 × List UInt8} :
    p ∈ enlist rows id routingKeys ↔
      p ∈ rows ∨ (p.2 = id ∧ p.1 ∈ routingKeys.map hashBytes) := by
  induction routingKeys generalizing rows with
  | nil => simp [enlist]
  | cons rk routingKeys ih =>
    rw [enlist, List.foldl_cons, ← enlist, ih, KeyOrder.PairSet.mem_insert, List.map_cons,
      List.mem_cons, Prod.ext_iff]
    tauto

/-! ## The tables as slots -/

section Tables

variable [DescriptorCodec]

lemma toCbor_injective : Function.Injective DescriptorCodec.toCbor := by
  intro d e h
  have hd := DescriptorCodec.fromCbor_toCbor d
  rw [h, DescriptorCodec.fromCbor_toCbor] at hd
  exact (Option.some.inj hd).symm

/-- A routing key leads to a descriptor: there is a row from the key to the id it is stored
under. -/
def HoldsAt (s : RedbStorage) (rk : Hash) (d : Descriptor) : Prop :=
  ∃ id, (hashBytes rk, id) ∈ s.byRoutingKey ∧
    s.descriptors[id]?.bind DescriptorCodec.fromCbor = some d

variable [Crypto]

/-- The four tables say the same as one descriptor for each dedup key. -/
structure Represents (s : RedbStorage) (slots : List UInt8 → Option Descriptor) : Prop where
  key : ∀ {k d}, slots k = some d → dedupKey d = k
  descriptors : ∀ i b, s.descriptors[i]? = some b ↔
    ∃ k d, slots k = some d ∧ i = hashBytes d.id ∧ b = DescriptorCodec.toCbor d
  rows : ∀ r i, (r, i) ∈ s.byRoutingKey ↔
    ∃ k d, slots k = some d ∧ i = hashBytes d.id ∧ r ∈ d.routingKeys.map hashBytes
  dedupIndex : ∀ k, s.dedupIndex[k]? = (slots k).map fun d => hashBytes d.id
  sequences : ∀ k, s.sequences[k]? = (slots k).map Descriptor.sequence

lemma represents_new : Represents new fun _ => none where
  key := by simp
  descriptors := by simp [new]
  rows := by simp [new]
  dedupIndex := by simp [new]
  sequences := by simp [new]

/-- The listing of the store has one descriptor for each slot. -/
lemma Represents.nodup_allDescriptors {s : RedbStorage} {slots : List UInt8 → Option Descriptor}
    (h : Represents s slots) (now : UInt64) :
    ((s.allDescriptors now).map dedupKey).Nodup ∧
      ∀ d ∈ s.allDescriptors now, slots (dedupKey d) = some d := by
  have hrow : ∀ kv ∈ s.descriptors.toList, ∀ d, DescriptorCodec.fromCbor kv.2 = some d →
      slots (dedupKey d) = some d ∧ kv.1 = hashBytes d.id := by
    rintro ⟨i, b⟩ hkv d hread
    obtain ⟨k, e, hslot, hid, rfl⟩ :=
      (h.descriptors i b).1 (ExtTreeMap.mem_toList_iff_getElem?_eq_some.1 hkv)
    rw [DescriptorCodec.fromCbor_toCbor] at hread
    obtain rfl := Option.some.inj hread
    rw [h.key hslot]
    exact ⟨hslot, hid⟩
  constructor
  · have hdistinct := s.descriptors.distinct_keys_toList
    rw [List.Nodup, List.pairwise_map]
    refine List.Pairwise.filter _ (List.pairwise_filterMap.2 ?_)
    refine hdistinct.imp_of_mem fun hkv hkv' hne d hd e he heq => hne ?_
    obtain ⟨hslot, hid⟩ := hrow _ hkv d hd
    obtain ⟨hslot', hid'⟩ := hrow _ hkv' e he
    rw [heq, hslot', Option.some.injEq] at hslot
    rw [hid, hid', hslot]
    exact LawfulEqCmp.compare_eq_iff_eq.2 rfl
  · intro d hd
    obtain ⟨kv, hkv, hread⟩ := List.mem_filterMap.1 (List.mem_of_mem_filter hd)
    exact (hrow kv hkv d hread).1

namespace Represents

variable {s : RedbStorage} {slots : List UInt8 → Option Descriptor}

/-- The id index makes ids unique among the slots. -/
lemma eq_of_id (h : Represents s slots) {k k' : List UInt8} {d d' : Descriptor}
    (hd : slots k = some d) (hd' : slots k' = some d') (hid : d.id = d'.id) : d = d' := by
  have hget := (h.descriptors (hashBytes d.id) _).2 ⟨k, d, hd, rfl, rfl⟩
  have hget' := (h.descriptors (hashBytes d.id) _).2 ⟨k', d', hd', by rw [hid], rfl⟩
  rw [hget, Option.some.injEq] at hget'
  exact toCbor_injective hget'

lemma key_eq_of_id (h : Represents s slots) {k k' : List UInt8} {d d' : Descriptor}
    (hd : slots k = some d) (hd' : slots k' = some d') (hid : d.id = d'.id) : k = k' := by
  rw [← h.key hd, ← h.key hd', h.eq_of_id hd hd' hid]

lemma getElem?_descriptors (h : Represents s slots) {k : List UInt8} {d : Descriptor}
    (hd : slots k = some d) :
    s.descriptors[hashBytes d.id]?.bind DescriptorCodec.fromCbor = some d := by
  rw [(h.descriptors _ _).2 ⟨k, d, hd, rfl, rfl⟩, Option.bind_some,
    DescriptorCodec.fromCbor_toCbor]

/-- What a routing key leads to are the descriptors in the slots that list it. -/
lemma holdsAt_iff (h : Represents s slots) {rk : Hash} {d : Descriptor} :
    s.HoldsAt rk d ↔ slots (dedupKey d) = some d ∧ rk ∈ d.routingKeys := by
  constructor
  · rintro ⟨id, hid, hd⟩
    obtain ⟨k, e, he, rfl, hrk⟩ := (h.rows _ _).1 hid
    rw [h.getElem?_descriptors he, Option.some.injEq] at hd
    subst hd
    obtain ⟨rk', hrk', heq⟩ := List.mem_map.1 hrk
    rw [h.key he]
    exact ⟨he, hashBytes_inj.1 heq ▸ hrk'⟩
  · rintro ⟨hd, hrk⟩
    refine ⟨hashBytes d.id, ?_, h.getElem?_descriptors hd⟩
    rw [h.rows]
    exact ⟨_, d, hd, rfl, List.mem_map_of_mem hrk⟩

/-- A read shows the descriptors in the slots that list the key and pass the filters. -/
lemma mem_getDescriptorsAt (h : Represents s slots) {rk : Hash} {filters : Option FilterSet}
    {t : UInt64} {d : Descriptor} :
    d ∈ s.getDescriptorsAt rk filters t ↔
      slots (dedupKey d) = some d ∧ rk ∈ d.routingKeys ∧ d.expiredAt t = false ∧
        admitted filters d = true := by
  have hjoin : d ∈ (KeyOrder.PairSet.get s.byRoutingKey (hashBytes rk)).filterMap
        (fun id => s.descriptors[id]?.bind DescriptorCodec.fromCbor) ↔
      slots (dedupKey d) = some d ∧ rk ∈ d.routingKeys := by
    simp only [List.mem_filterMap, KeyOrder.PairSet.mem_get]
    exact h.holdsAt_iff
  simp only [getDescriptorsAt, List.mem_filter, hjoin, Bool.and_eq_true, Bool.not_eq_true']
  tauto

/-- Removing a descriptor empties its slot. -/
lemma remove (h : Represents s slots) {d : Descriptor}
    (hd : ∀ e, slots (dedupKey d) = some e → e = d)
    (hid : ∀ k e, slots k = some e → e.id = d.id → k = dedupKey d) :
    Represents (s.remove d) (Function.update slots (dedupKey d) none) := by
  have hother : ∀ k e, Function.update slots (dedupKey d) none k = some e ↔
      slots k = some e ∧ e.id ≠ d.id := by
    intro k e
    by_cases hk : k = dedupKey d
    · subst hk
      simp only [Function.update_self, reduceCtorEq, false_iff, not_and, not_not]
      intro he
      rw [hd e he]
    · rw [Function.update_of_ne hk]
      constructor
      · intro he
        exact ⟨he, fun heid => hk (hid k e he heid)⟩
      · exact And.left
  refine ⟨?_, ?_, ?_, ?_, ?_⟩
  · intro k e he
    exact h.key ((hother k e).1 he).1
  · intro i b
    simp only [RedbStorage.remove, ExtTreeMap.getElem?_erase, LawfulEqCmp.compare_eq_iff_eq,
      hother]
    by_cases hi : hashBytes d.id = i
    · rw [if_pos hi]
      constructor
      · intro hnone
        cases hnone
      · rintro ⟨k, e, ⟨-, hne⟩, rfl, -⟩
        exact absurd (hashBytes_inj.1 hi).symm hne
    · rw [if_neg hi, h.descriptors]
      constructor
      · rintro ⟨k, e, he, rfl, rfl⟩
        exact ⟨k, e, ⟨he, fun heid => hi (by rw [heid])⟩, rfl, rfl⟩
      · rintro ⟨k, e, ⟨he, -⟩, rfl, rfl⟩
        exact ⟨k, e, he, rfl, rfl⟩
  · intro r i
    simp only [RedbStorage.remove, mem_unlist, h.rows, hother]
    constructor
    · rintro ⟨⟨k, e, he, rfl, hr⟩, hnot⟩
      refine ⟨k, e, ⟨he, fun heid => hnot ⟨by rw [heid], ?_⟩⟩, rfl, hr⟩
      rw [← hd e (hid k e he heid ▸ he)]
      exact hr
    · rintro ⟨k, e, ⟨he, hne⟩, rfl, hr⟩
      refine ⟨⟨k, e, he, rfl, hr⟩, ?_⟩
      rintro ⟨heq, -⟩
      exact hne (hashBytes_inj.1 heq)
  · intro k
    simp only [RedbStorage.remove, ExtTreeMap.getElem?_erase, LawfulEqCmp.compare_eq_iff_eq]
    by_cases hk : dedupKey d = k
    · subst hk
      simp
    · rw [if_neg hk, Function.update_of_ne (Ne.symm hk), h.dedupIndex]
  · intro k
    simp only [RedbStorage.remove, ExtTreeMap.getElem?_erase, LawfulEqCmp.compare_eq_iff_eq]
    by_cases hk : dedupKey d = k
    · subst hk
      simp
    · rw [if_neg hk, Function.update_of_ne (Ne.symm hk), h.sequences]

/-- Inserting a descriptor into its empty slot fills it. -/
lemma insertNew (h : Represents s slots) {d : Descriptor} (hempty : slots (dedupKey d) = none)
    (hid : ∀ k e, slots k = some e → e.id = d.id → k = dedupKey d) :
    Represents (s.insertNew d) (Slots.put dedupKey slots d) := by
  have hfresh : ∀ k e, slots k = some e → e.id ≠ d.id ∧ dedupKey d ≠ k := by
    intro k e he
    have hk : dedupKey d ≠ k := by
      rintro rfl
      rw [hempty] at he
      cases he
    exact ⟨fun heid => hk (hid k e he heid).symm, hk⟩
  refine ⟨?_, ?_, ?_, ?_, ?_⟩
  · intro k e he
    rcases Slots.put_eq_some_iff.1 he with ⟨hk, rfl⟩ | ⟨-, he⟩
    · exact hk
    · exact h.key he
  · intro i b
    simp only [RedbStorage.insertNew, ExtTreeMap.getElem?_insert, LawfulEqCmp.compare_eq_iff_eq,
      Slots.put_eq_some_iff]
    by_cases hi : hashBytes d.id = i
    · rw [if_pos hi, Option.some.injEq]
      constructor
      · rintro rfl
        exact ⟨dedupKey d, d, .inl ⟨rfl, rfl⟩, hi.symm, rfl⟩
      · rintro ⟨k, e, ⟨-, rfl⟩ | ⟨-, he⟩, hie, rfl⟩
        · rfl
        · exact absurd (hashBytes_inj.1 (hi.trans hie)).symm (hfresh k e he).1
    · rw [if_neg hi, h.descriptors]
      constructor
      · rintro ⟨k, e, he, rfl, rfl⟩
        exact ⟨k, e, .inr ⟨(hfresh k e he).2, he⟩, rfl, rfl⟩
      · rintro ⟨k, e, ⟨-, rfl⟩ | ⟨-, he⟩, rfl, rfl⟩
        · exact absurd rfl hi
        · exact ⟨k, e, he, rfl, rfl⟩
  · intro r i
    simp only [RedbStorage.insertNew, mem_enlist, h.rows, Slots.put_eq_some_iff]
    constructor
    · rintro (⟨k, e, he, rfl, hr⟩ | ⟨rfl, hr⟩)
      · exact ⟨k, e, .inr ⟨(hfresh k e he).2, he⟩, rfl, hr⟩
      · exact ⟨dedupKey d, d, .inl ⟨rfl, rfl⟩, rfl, hr⟩
    · rintro ⟨k, e, ⟨-, rfl⟩ | ⟨-, he⟩, rfl, hr⟩
      · exact .inr ⟨rfl, hr⟩
      · exact .inl ⟨k, e, he, rfl, hr⟩
  · intro k
    simp only [RedbStorage.insertNew, ExtTreeMap.getElem?_insert, LawfulEqCmp.compare_eq_iff_eq]
    by_cases hk : dedupKey d = k
    · subst hk
      simp [Slots.put]
    · rw [if_neg hk, h.dedupIndex, Slots.put, Function.update_of_ne (Ne.symm hk)]
  · intro k
    simp only [RedbStorage.insertNew, ExtTreeMap.getElem?_insert, LawfulEqCmp.compare_eq_iff_eq]
    by_cases hk : dedupKey d = k
    · subst hk
      simp [Slots.put]
    · rw [if_neg hk, h.sequences, Slots.put, Function.update_of_ne (Ne.symm hk)]

/-- Dropping the old version and inserting the new one writes the slot. -/
lemma write (h : Represents s slots) {d : Descriptor}
    (hid : ∀ k e, slots k = some e → e.id = d.id → k = dedupKey d) :
    Represents ((s.removeOld d).insertNew d) (Slots.put dedupKey slots d) := by
  rcases hslot : slots (dedupKey d) with _ | old
  · have hindex := h.dedupIndex (dedupKey d)
    rw [hslot, Option.map_none] at hindex
    rw [removeOld, hindex]
    exact h.insertNew hslot hid
  · have hkey := h.key hslot
    have hindex := h.dedupIndex (dedupKey d)
    rw [hslot, Option.map_some] at hindex
    have hcleared := h.remove (d := old) (by
      intro e he
      rw [hkey, hslot] at he
      exact (Option.some.inj he).symm) (by
      intro k e he heid
      rw [hkey]
      exact h.key_eq_of_id he hslot heid)
    rw [hkey] at hcleared
    have hnew := hcleared.insertNew (d := d) (by simp) (by
      intro k e he heid
      by_cases hk : k = dedupKey d
      · exact hk
      · rw [Function.update_of_ne hk] at he
        exact hid k e he heid)
    have hsame : (s.removeOld d).insertNew d = (s.remove old).insertNew d := by
      rw [removeOld, hindex]
      dsimp only
      rw [h.getElem?_descriptors hslot]
      simp only [RedbStorage.insertNew, RedbStorage.remove, hkey, KeyOrder.insert_erase_self,
        Option.map_some, Option.getD_some]
    have hput : Slots.put dedupKey (Function.update slots (dedupKey d) none) d =
        Slots.put dedupKey slots d := by
      simp [Slots.put]
    rwa [hsame, ← hput]

/-- Removing several descriptors empties their slots. -/
lemma foldl_remove (h : Represents s slots) (ds : List Descriptor)
    (hd : ∀ d ∈ ds, ∀ k e, slots k = some e → (k = dedupKey d ∨ e.id = d.id) → e = d) :
    Represents (ds.foldl RedbStorage.remove s)
      fun k => if k ∈ ds.map dedupKey then none else slots k := by
  induction ds generalizing s slots with
  | nil => simpa using h
  | cons d ds ih =>
    have hstep := h.remove (d := d) (fun e he => hd d (by simp) _ e he (.inl rfl)) (by
      intro k e he heid
      rw [← h.key he, hd d (by simp) k e he (.inr heid)])
    have hrest := ih hstep (by
      intro d' hd' k e he
      by_cases hk : k = dedupKey d
      · subst hk
        simp at he
      · rw [Function.update_of_ne hk] at he
        exact hd d' (by simp [hd']) k e he)
    have hslots : (fun k => if k ∈ ds.map dedupKey then none
          else Function.update slots (dedupKey d) none k) =
        fun k => if k ∈ (d :: ds).map dedupKey then none else slots k := by
      funext k
      by_cases hk : k = dedupKey d
      · subst hk
        simp
      · simp [hk]
    rwa [hslots] at hrest

lemma mem_expired (h : Represents s slots) {now : UInt64} {d : Descriptor} :
    d ∈ s.expired now ↔ slots (dedupKey d) = some d ∧ d.expiredAt now = true := by
  rw [expired, List.mem_filter, List.mem_filterMap]
  refine and_congr_left fun _ => ?_
  constructor
  · rintro ⟨⟨i, b⟩, hib, hd⟩
    have hget := ExtTreeMap.mem_toList_iff_getElem?_eq_some.1 hib
    obtain ⟨k, e, he, -, rfl⟩ := (h.descriptors i b).1 hget
    rw [DescriptorCodec.fromCbor_toCbor, Option.some.injEq] at hd
    subst hd
    rwa [h.key he]
  · intro hd
    refine ⟨(hashBytes d.id, DescriptorCodec.toCbor d), ?_, DescriptorCodec.fromCbor_toCbor d⟩
    exact ExtTreeMap.mem_toList_iff_getElem?_eq_some.2
      ((h.descriptors _ _).2 ⟨_, d, hd, rfl, rfl⟩)

/-- Eviction empties the slots of the expired descriptors. -/
lemma evictExpiredAt (h : Represents s slots) (now : UInt64) :
    Represents (s.evictExpiredAt now) (Slots.evict (·.expiredAt now) slots) := by
  have hfold := h.foldl_remove (s.expired now) (by
    intro d hd k e he hor
    have hslot := (h.mem_expired.1 hd).1
    rcases hor with rfl | hid
    · rw [hslot, Option.some.injEq] at he
      exact he.symm
    · exact h.eq_of_id he hslot hid)
  have hslots : (fun k => if k ∈ (s.expired now).map dedupKey then none else slots k) =
      Slots.evict (·.expiredAt now) slots := by
    funext k
    rcases hk : slots k with _ | d
    · simp [Slots.evict, hk]
    · have hexpired : k ∈ (s.expired now).map dedupKey ↔ d.expiredAt now = true := by
        rw [List.mem_map]
        constructor
        · rintro ⟨e, he, rfl⟩
          obtain ⟨hslot, hexp⟩ := h.mem_expired.1 he
          rw [hk, Option.some.injEq] at hslot
          rwa [hslot]
        · intro hexp
          exact ⟨d, h.mem_expired.2 ⟨(h.key hk).symm ▸ hk, hexp⟩, h.key hk⟩
      by_cases hexp : d.expiredAt now = true
      · rw [if_pos (hexpired.2 hexp)]
        simp [Slots.evict, hk, Option.filter, hexp]
      · rw [if_neg fun hmem => hexp (hexpired.1 hmem)]
        simp [Slots.evict, hk, Option.filter, hexp]
  rwa [hslots] at hfold

end Represents

/-! ## Store calls and runs -/

lemma Represents.of_windows {s : RedbStorage} {slots : List UInt8 → Option Descriptor}
    (h : Represents s slots) (windows : ExtTreeMap (List UInt8) (List UInt64)) (flag : Bool) :
    Represents { s with rateTimestamps := windows, skipRateLimit := flag } slots :=
  ⟨h.key, h.descriptors, h.rows, h.dedupIndex, h.sequences⟩

end Tables

/-- The rate limit touches the windows only. -/
lemma rateLimit_snd (s : RedbStorage) (publisher : Identity) (now : UInt64) :
    ∃ windows, (if s.skipRateLimit then (true, s) else s.checkRateLimit publisher now).2 =
      { s with rateTimestamps := windows } := by
  by_cases hskip : s.skipRateLimit = true
  · exact ⟨s.rateTimestamps, by rw [if_pos hskip]⟩
  · rw [if_neg hskip]
    exact ⟨_, rfl⟩

/-- Whatever the checks answer, they touch the rate-limit windows only. -/
lemma checkStore_snd [Crypto] (s : RedbStorage) (d : Descriptor) (now : UInt64) :
    ∃ windows, (s.checkStore d now).2 = { s with rateTimestamps := windows } := by
  obtain ⟨windows, hwindows⟩ := s.rateLimit_snd d.publisher now
  unfold checkStore
  rcases d.validate now with e | u
  · exact ⟨s.rateTimestamps, rfl⟩
  · refine ⟨windows, ?_⟩
    dsimp only
    rcases hlimit : (if s.skipRateLimit then (true, s) else s.checkRateLimit d.publisher now) with
      ⟨_ | _, s'⟩ <;> simpa [hlimit] using hwindows

lemma checkSequence_ok_iff [Crypto] {s : RedbStorage} {d : Descriptor} :
    s.checkSequence d = .ok () ↔
      ∀ seq, s.sequences[dedupKey d]? = some seq → seq ≤ d.sequence := by
  rw [checkSequence]
  rcases s.sequences[dedupKey d]? with _ | seq
  · simp
  · dsimp only
    by_cases hstale : d.sequence < seq
    · simp [hstale]
    · simpa [hstale] using UInt64.not_lt.1 hstale

/-- A descriptor passes the checks when it is valid, the rate limit lets it pass, and it is not
older than its slot's watermark. -/
lemma checkStore_ok_iff [Crypto] {s : RedbStorage} {d : Descriptor} {now : UInt64} :
    (s.checkStore d now).1 = .ok () ↔
      d.ValidAt now ∧ s.allows d.publisher now = true ∧
        ∀ seq, s.sequences[dedupKey d]? = some seq → seq ≤ d.sequence := by
  obtain ⟨windows, hwindows⟩ := s.rateLimit_snd d.publisher now
  rw [← Descriptor.validate_eq_ok_iff, checkStore, allows]
  rcases d.validate now with e | ⟨⟩
  · simp
  · dsimp only
    rcases hlimit : (if s.skipRateLimit then (true, s) else s.checkRateLimit d.publisher now) with
      ⟨_ | _, s'⟩
    · simp
    · rw [hlimit] at hwindows
      have hs' : s' = { s with rateTimestamps := windows } := hwindows
      simp [checkSequence_ok_iff, hs']

/-- In a slot with a watermark, the checks refuse what is older, and what they would
refuse anyway. -/
lemma checkStore_marked_iff [Crypto] (s : RedbStorage) {d : Descriptor} (now : UInt64)
    {seq : UInt64}
    (hmark : s.sequences[dedupKey d]? = some seq) :
    (s.checkStore d now).1 = .ok () ↔
      ¬ (d.sequence < seq ∨ ¬ (d.ValidAt now ∧ s.allows d.publisher now = true)) := by
  simp only [checkStore_ok_iff, hmark, Option.some.injEq, forall_eq', not_or, not_not,
    UInt64.not_lt]
  exact ⟨fun ⟨hvalid, hallows, hseq⟩ => ⟨hseq, hvalid, hallows⟩,
    fun ⟨hseq, hvalid, hallows⟩ => ⟨hvalid, hallows, hseq⟩⟩

variable [Crypto]

/-- What holds only of a store it held of before the descriptor was removed, held before the
eviction. -/
lemma evictExpiredAt_reflects [DescriptorCodec] {P : RedbStorage → Prop}
    (hremove : ∀ s d, P (remove s d) → P s) {s : RedbStorage} {now : UInt64}
    (h : P (s.evictExpiredAt now)) : P s := by
  rw [evictExpiredAt] at h
  generalize s.expired now = ds at h
  induction ds generalizing s with
  | nil => exact h
  | cons d ds ih => exact hremove s d (ih h)

/-- Authentic descriptors with one id belong to one slot. -/
lemma dedupKey_eq_of_id {P : Set Descriptor} (hP : Descriptor.NoCollision P) {d e : Descriptor}
    (hd : d ∈ P) (he : e ∈ P) (hda : d.Authentic) (hea : e.Authentic) (hid : d.id = e.id) :
    dedupKey d = dedupKey e := by
  have hsame := hP.sameContent hd he hda hea hid
  rw [dedupKey, dedupKey, hsame.publisher, hsame.schemaHash, hsame.topic]

variable [DescriptorCodec]

/-- A write sets the watermark of the descriptor's slot. -/
lemma sequences_write (s : RedbStorage) (d : Descriptor) :
    ((s.removeOld d).insertNew d).sequences = s.sequences.insert (dedupKey d) d.sequence := by
  rw [removeOld]
  rcases s.dedupIndex[dedupKey d]? with _ | oldId <;> rfl

/-- A store call refuses the descriptor, touching nothing but the rate-limit windows, or it writes
the tables. -/
theorem storeDescriptorAt_cases (s : RedbStorage) (d : Descriptor) (now : UInt64) :
    (∃ e windows, s.storeDescriptorAt d now = (.error e, { s with rateTimestamps := windows }) ∧
        (s.checkStore d now).1 = .error e) ∨
      ∃ windows, s.storeDescriptorAt d now = (.ok (),
          (({ s with rateTimestamps := windows } : RedbStorage).removeOld d).insertNew d) ∧
        (s.checkStore d now).1 = .ok () := by
  obtain ⟨windows, hwindows⟩ := s.checkStore_snd d now
  unfold storeDescriptorAt
  rcases hcheck : s.checkStore d now with ⟨e | ⟨⟩, s'⟩
  · rw [hcheck] at hwindows
    exact .inl ⟨e, windows, by rw [← hwindows], rfl⟩
  · rw [hcheck] at hwindows
    refine .inr ⟨windows, ?_, rfl⟩
    rw [← hwindows]

/-- A call of the disk-backed store stores a descriptor, evicts, or leaves the tables as
they are. -/
theorem step_cases (s : RedbStorage) (c : StorageCall RedbStorage) :
    (∃ d now, c.stores = some (d, now) ∧
      (storageMachine RedbStorage).step s c =
        (.stored (s.storeDescriptorAt d now).1, (s.storeDescriptorAt d now).2)) ∨
      (∃ now, c.stores = none ∧ c.time = some now ∧
        (storageMachine RedbStorage).step s c = (.done, s.evictExpiredAt now)) ∨
      (c.stores = none ∧ c.time = none ∧ ∃ windows flag,
        ((storageMachine RedbStorage).step s c).2 =
          { s with rateTimestamps := windows, skipRateLimit := flag }) := by
  cases c with
  | storeDescriptor d clock => exact .inl ⟨d, clock, rfl, rfl⟩
  | storeDescriptorAt d now => exact .inl ⟨d, now, rfl, rfl⟩
  | getDescriptors rk filters clock => exact .inr (.inr ⟨rfl, rfl, _, _, rfl⟩)
  | getDescriptorsAt rk filters now => exact .inr (.inr ⟨rfl, rfl, _, _, rfl⟩)
  | evictExpired clock => exact .inr (.inl ⟨clock, rfl, rfl, rfl⟩)
  | evictExpiredAt now => exact .inr (.inl ⟨now, rfl, rfl, rfl⟩)
  | background e =>
    cases e with
    | reopen => exact .inr (.inr ⟨rfl, rfl, _, _, rfl⟩)
    | setSkipRateLimit flag => exact .inr (.inr ⟨rfl, rfl, _, _, rfl⟩)

/-! ## The store as slots -/

/-- The tables represent slots that hold authentic descriptors of a given set. -/
structure Stocks (P : Set Descriptor) (s : RedbStorage) (slots : List UInt8 → Option Descriptor) :
    Prop where
  represents : Represents s slots
  mem : ∀ {k d}, slots k = some d → d ∈ P
  authentic : ∀ {k d}, slots k = some d → d.Authentic

lemma stocks_new (P : Set Descriptor) : Stocks P new fun _ => none where
  represents := represents_new
  mem := by simp
  authentic := by simp

lemma Stocks.of_windows {P : Set Descriptor} {s : RedbStorage}
    {slots : List UInt8 → Option Descriptor} (h : Stocks P s slots)
    (windows : ExtTreeMap (List UInt8) (List UInt64)) (flag : Bool) :
    Stocks P { s with rateTimestamps := windows, skipRateLimit := flag } slots :=
  ⟨h.represents.of_windows windows flag, h.mem, h.authentic⟩

/-- Writing an authentic descriptor to the tables writes its slot. -/
lemma Stocks.write {P : Set Descriptor} (hP : Descriptor.NoCollision P) {s : RedbStorage}
    {slots : List UInt8 → Option Descriptor} (h : Stocks P s slots) {d : Descriptor} (hd : d ∈ P)
    (hauthentic : d.Authentic) :
    Stocks P ((s.removeOld d).insertNew d) (Slots.put dedupKey slots d) := by
  refine ⟨h.represents.write ?_, ?_, ?_⟩
  · intro k e he hid
    rw [← h.represents.key he]
    exact dedupKey_eq_of_id hP (h.mem he) hd (h.authentic he) hauthentic hid
  · intro k e he
    rcases Slots.put_eq_some_iff.1 he with ⟨-, rfl⟩ | ⟨-, he⟩
    · exact hd
    · exact h.mem he
  · intro k e he
    rcases Slots.put_eq_some_iff.1 he with ⟨-, rfl⟩ | ⟨-, he⟩
    · exact hauthentic
    · exact h.authentic he

lemma Stocks.evict {P : Set Descriptor} {s : RedbStorage} {slots : List UInt8 → Option Descriptor}
    (h : Stocks P s slots) (now : UInt64) :
    Stocks P (s.evictExpiredAt now) (Slots.evict (·.expiredAt now) slots) where
  represents := h.represents.evictExpiredAt now
  mem he := h.mem (Slots.evict_eq_some_iff.1 he).1
  authentic he := h.authentic (Slots.evict_eq_some_iff.1 he).1

/-- A call writes a slot, evicts the expired ones, or leaves the slots as they are. -/
lemma Stocks.step {P : Set Descriptor} (hP : Descriptor.NoCollision P) {s : RedbStorage}
    {slots : List UInt8 → Option Descriptor} (h : Stocks P s slots) (c : StorageCall RedbStorage)
    (hc : ∀ d now, c.stores = some (d, now) → d ∈ P) :
    ∃ slots', SlotStep dedupKey slots c ((storageMachine RedbStorage).step s c).1 slots' ∧
      Stocks P ((storageMachine RedbStorage).step s c).2 slots' := by
  rcases s.step_cases c with ⟨d, now, hstores, hstep⟩ | ⟨now, hstores, htime, hstep⟩ |
    ⟨hstores, -, windows, flag, hstep⟩
  · rcases s.storeDescriptorAt_cases d now with ⟨e, windows, heq, -⟩ | ⟨windows, heq, hcheck⟩
    · refine ⟨slots, .idle ?_, ?_⟩
      · simp [acceptedBy, hstep, heq]
      · rw [hstep, heq]
        exact h.of_windows windows s.skipRateLimit
    · have hvalid := (checkStore_ok_iff.1 hcheck).1
      refine ⟨_, .stored hstores (by rw [hstep, heq]) hvalid, ?_⟩
      rw [hstep, heq]
      exact (h.of_windows windows s.skipRateLimit).write hP (hc d now hstores) hvalid.authentic
  · refine ⟨_, .evicted hstores htime, ?_⟩
    rw [hstep]
    exact h.evict now
  · refine ⟨slots, .idle ?_, ?_⟩
    · simp [acceptedBy, hstores]
    · rw [hstep]
      exact h.of_windows windows flag

/-- The disk-backed store as slots, for descriptors on which BLAKE3 does not collide. -/
def slotView {P : Set Descriptor} (hP : Descriptor.NoCollision P) :
    SlotView RedbStorage (List UInt8) P where
  key := dedupKey
  Represents := Stocks P
  step _ _ c h hc := h.step hP c hc
  read _ _ h _ _ _ _ := h.represents.mem_getDescriptorsAt

/-- Every state of a run has slots, which hold authentic descriptors that the run submits. -/
lemma stocks_run {calls pre : List (StorageCall RedbStorage)}
    (hP : Descriptor.NoCollision {d | d ∈ submitted calls}) (hpre : pre <+: calls) :
    ∃ slots, Stocks {d | d ∈ submitted calls} ((storageMachine RedbStorage).run new pre) slots := by
  have hsubmitted : ∀ d ∈ submitted pre, d ∈ {d | d ∈ submitted calls} :=
    fun d hd => submitted_mono hpre hd
  obtain ⟨slots, hstocks, -⟩ := (slotView hP).represents_run (stocks_new _) hsubmitted
  exact ⟨slots, hstocks⟩

end RedbStorage

end MeshProtocol
