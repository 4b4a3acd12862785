import MeshProtocol.Core.Reference
import MeshProtocol.Core.Signing
import MeshProtocol.Hub.Coherence

/-!
# Seeding (`mesh-hub/src/seeding.rs`)

A hub fills its own storage from a list of services: for each entry it creates a descriptor whose
topic is the entry's type and whose sequence is 1, and stores it past the rate limit.  It reports
how many stores returned `Ok`.

The dedup key of such a descriptor depends on the entry's type alone, and a slot takes an equal
sequence.  So a later entry of a type replaces an earlier one, which stays counted: the seeding
keeps what it reports exactly if no two entries that the storage takes have one slot (`kept_iff`).

`serde_json` is third-party code, and its values are a parameter.
-/

namespace MeshProtocol

open Std Bytes DescriptorStorage

/-! ## Seed entries -/

/-- `serde_json`, with its type of values. -/
class SerdeJson (Value : Type) where
  /-- `Value::String`. -/
  string : String → Value
  /-- The entries of a `Value::Object`, in the order of its keys. -/
  object : Value → Option (List (String × Value))
  /-- `to_vec` of a map, given by its entries in the order of its keys; `none` is an error. -/
  toVec : List (String × Value) → Option (List UInt8)

/-- A `serde_json::Map`, which orders its keys by their bytes. -/
abbrev JsonMap (Value : Type) := ExtTreeMap String Value (compareOn utf8Bytes)

/-- A service entry from the seed file. -/
structure SeedEntry (Value : Type) where
  type : String
  endpoint : String
  params : Option Value

namespace SeedEntry

variable {Value : Type} [SerdeJson Value]

/-- The payload of an entry: its type, its endpoint, and the parameters on top of them.  An entry
without parameters goes through `json!`, which writes the same two keys. -/
def payload (entry : SeedEntry Value) : List UInt8 :=
  let map : JsonMap Value := ∅
  let map := map.insert "type" (SerdeJson.string entry.type)
  let map := map.insert "endpoint" (SerdeJson.string entry.endpoint)
  let map :=
    match entry.params.bind SerdeJson.object with
    | some p => p.foldl (fun (map : JsonMap Value) (k, v) => map.insert k v) map
    | none => map
  (SerdeJson.toVec map.toList).getD []

variable [Crypto]

/-- The descriptor a seeding creates for an entry. -/
def descriptor (entry : SeedEntry Value) (keypair : Keypair) (now : UInt64) : Option Descriptor :=
  Descriptor.create keypair (schemaHash "core/capability") entry.type entry.payload now 1 3600
    (hierarchicalRoutingKeys entry.type)

end SeedEntry

namespace RedbStorage

variable [Crypto]

/-- With the rate limit off, a store is refused for what the descriptor is and for its slot's
watermark only. -/
lemma checkStore_ok_iff_of_skip {s : RedbStorage} (hskip : s.skipRateLimit = true) {d : Descriptor}
    {t : UInt64} :
    (s.checkStore d t).1 = .ok () ↔ d.validate t = .ok () ∧ s.checkSequence d = .ok () := by
  have hallows : s.allows d.publisher t = true := by
    rw [allows, if_pos hskip]
  rw [checkStore_ok_iff, checkSequence_ok_iff, Descriptor.validate_eq_ok_iff]
  exact and_congr_right fun _ => and_iff_right hallows

/-- A write lets the sequence it wrote pass in its slot, and changes no other watermark. -/
lemma checkSequence_write [DescriptorCodec] {s : RedbStorage} {d e : Descriptor}
    (hseq : d.sequence = e.sequence) :
    ((s.removeOld d).insertNew d).checkSequence e = .ok () ↔
      dedupKey d = dedupKey e ∨ s.checkSequence e = .ok () := by
  rw [checkSequence_ok_iff, checkSequence_ok_iff, sequences_write]
  simp only [ExtTreeMap.getElem?_insert, LawfulEqCmp.compare_eq_iff_eq]
  by_cases hkey : dedupKey d = dedupKey e
  · simp [hkey, hseq]
  · simp [hkey]

/-- The table has the descriptors of the slots. -/
lemma Represents.holds_iff [DescriptorCodec] {s : RedbStorage}
    {slots : List UInt8 → Option Descriptor} (h : Represents s slots) {d : Descriptor} :
    s.Holds d ↔ slots (dedupKey d) = some d := by
  rw [Holds, h.descriptors]
  constructor
  · rintro ⟨k, e, he, -, hcbor⟩
    obtain rfl := toCbor_injective hcbor
    rwa [h.key he]
  · intro hd
    exact ⟨_, d, hd, rfl, rfl⟩

end RedbStorage

namespace CachedStorage

section Seeding

variable {Value : Type} [SerdeJson Value] [Crypto] [DescriptorCodec]

omit [SerdeJson Value] [Crypto] [DescriptorCodec] in
/-- Sets the flag by which the storage skips its rate limit. -/
def setSkipRateLimit (c : CachedStorage RedbStorage) (flag : Bool) : CachedStorage RedbStorage :=
  { c with inner := { c.inner with skipRateLimit := flag } }

/-- Creates and stores the descriptor of one entry, counting what becomes of it.  The entry comes
with the clock reading that its store makes. -/
def seedEntry (keypair : Keypair) (now : UInt64) (state : (ℕ × ℕ) × CachedStorage RedbStorage)
    (entry : SeedEntry Value × UInt64) : (ℕ × ℕ) × CachedStorage RedbStorage :=
  let ((ok, fail), c) := state
  match entry.1.descriptor keypair now with
  | some d =>
    match storeDescriptor c d entry.2 with
    | (.ok (), c) => ((ok + 1, fail), c)
    | (.error _, c) => ((ok, fail + 1), c)
  | none => ((ok, fail + 1), c)

/-- Seeds the storage with descriptors built from the entries, past the rate limit, and reports how
many stores succeeded and how many entries failed. -/
def seedNow (c : CachedStorage RedbStorage) (keypair : Keypair) (now : UInt64)
    (entries : List (SeedEntry Value × UInt64)) : (ℕ × ℕ) × CachedStorage RedbStorage :=
  let (report, c) := entries.foldl (seedEntry keypair now) ((0, 0), c.setSkipRateLimit true)
  (report, c.setSkipRateLimit false)

/-! ## Seeding as a run -/

/-- The stores of a seeding. -/
def seedCalls (keypair : Keypair) (now : UInt64) (entries : List (SeedEntry Value × UInt64)) :
    List (StorageCall (CachedStorage RedbStorage)) :=
  entries.filterMap fun entry =>
    (entry.1.descriptor keypair now).map (.storeDescriptor · entry.2)

/-- The storage after the stores of a seeding, the rate limit still off. -/
def seeded (c : CachedStorage RedbStorage) (keypair : Keypair) (now : UInt64)
    (entries : List (SeedEntry Value × UInt64)) : CachedStorage RedbStorage :=
  (storageMachine (CachedStorage RedbStorage)).run (c.setSkipRateLimit true)
    (seedCalls keypair now entries)

/-- The descriptors whose stores returned `Ok`, in order. -/
def seedsStored (c : CachedStorage RedbStorage) (keypair : Keypair) (now : UInt64)
    (entries : List (SeedEntry Value × UInt64)) : List Descriptor :=
  accepted (c.setSkipRateLimit true) (seedCalls keypair now entries)

lemma seedCalls_concat (keypair : Keypair) (now : UInt64)
    (entries : List (SeedEntry Value × UInt64)) (entry : SeedEntry Value × UInt64) :
    seedCalls keypair now (entries ++ [entry]) = seedCalls keypair now entries ++
      ((entry.1.descriptor keypair now).map (.storeDescriptor · entry.2)).toList := by
  rw [seedCalls, List.filterMap_append, ← seedCalls]
  cases hd : entry.1.descriptor keypair now <;> simp [hd]

lemma seeded_concat (c : CachedStorage RedbStorage) (keypair : Keypair) (now : UInt64)
    (entries : List (SeedEntry Value × UInt64)) (entry : SeedEntry Value × UInt64) :
    c.seeded keypair now (entries ++ [entry]) =
      match entry.1.descriptor keypair now with
      | some d => ((c.seeded keypair now entries).call (.storeDescriptor d entry.2)).2
      | none => c.seeded keypair now entries := by
  rw [seeded, seedCalls_concat]
  cases entry.1.descriptor keypair now with
  | none => simp [seeded]
  | some d => rw [Option.map_some, Option.toList_some, Machine.run_concat]; rfl

lemma seedsStored_concat (c : CachedStorage RedbStorage) (keypair : Keypair) (now : UInt64)
    (entries : List (SeedEntry Value × UInt64)) (entry : SeedEntry Value × UInt64) :
    c.seedsStored keypair now (entries ++ [entry]) = c.seedsStored keypair now entries ++
      ((entry.1.descriptor keypair now).bind fun d =>
        let sc := .storeDescriptor d entry.2
        acceptedBy (sc, ((c.seeded keypair now entries).call sc).1)).toList := by
  rw [seedsStored, seedCalls_concat]
  cases entry.1.descriptor keypair now with
  | none => simp [seedsStored]
  | some d => rw [Option.map_some, Option.toList_some, accepted_concat]; rfl

/-- What the loop has counted and stored is what its stores accepted and left. -/
theorem foldl_seedEntry (c : CachedStorage RedbStorage) (keypair : Keypair) (now : UInt64)
    (entries : List (SeedEntry Value × UInt64)) :
    ∃ fail, (c.seedsStored keypair now entries).length + fail = entries.length ∧
      entries.foldl (seedEntry keypair now) ((0, 0), c.setSkipRateLimit true) =
        (((c.seedsStored keypair now entries).length, fail), c.seeded keypair now entries) := by
  induction entries using List.reverseRecOn with
  | nil => exact ⟨0, rfl, rfl⟩
  | append_singleton entries entry ih =>
    obtain ⟨fail, hlength, hloop⟩ := ih
    rw [List.foldl_append, hloop, List.foldl_cons, List.foldl_nil, seedEntry, seeded_concat,
      seedsStored_concat, List.length_append, List.length_append]
    cases entry.1.descriptor keypair now with
    | none => exact ⟨fail + 1, by simp [← hlength, Nat.add_assoc], by simp⟩
    | some d =>
      generalize hc : c.seeded keypair now entries = c'
      have hcall : c'.call (.storeDescriptor d entry.2) =
        (.stored (storeDescriptor c' d entry.2).1, (storeDescriptor c' d entry.2).2) := rfl
      dsimp only [Option.bind_some]
      rw [hcall]
      rcases storeDescriptor c' d entry.2 with ⟨e | ⟨⟩, c''⟩
      · refine ⟨fail + 1, ?_, ?_⟩
        · simp [acceptedBy, ← hlength, Nat.add_assoc]
        · simp [acceptedBy]
      · refine ⟨fail, ?_, ?_⟩
        · simp [acceptedBy, StorageCall.stores, ← hlength, Nat.add_right_comm]
        · simp [acceptedBy, StorageCall.stores]

/-- A seeding reports how many stores succeeded; all other entries failed. -/
lemma seedNow_eq (c : CachedStorage RedbStorage) (keypair : Keypair) (now : UInt64)
    (entries : List (SeedEntry Value × UInt64)) :
    c.seedNow keypair now entries =
      (((c.seedsStored keypair now entries).length,
          entries.length - (c.seedsStored keypair now entries).length),
        (c.seeded keypair now entries).setSkipRateLimit false) := by
  obtain ⟨fail, hlength, hloop⟩ := foldl_seedEntry c keypair now entries
  rw [seedNow, hloop, ← hlength, Nat.add_sub_cancel_left]

/-! ## What the storage takes -/

/-- The descriptor of an entry, if it is created, valid when it is stored, and not older than the
watermark of its slot. -/
def storable (s : RedbStorage) (keypair : Keypair) (now : UInt64)
    (entry : SeedEntry Value × UInt64) : Option Descriptor :=
  (entry.1.descriptor keypair now).filter fun d =>
    d.validate entry.2 = .ok () ∧ s.checkSequence d = .ok ()

/-- The storage during a seeding: its slots hold what the seeding has stored so far and, elsewhere,
what they held before; what a slot's watermark lets pass is as before. -/
structure SeededWith (P : Set Descriptor) (s : RedbStorage) (slots : List UInt8 → Option Descriptor)
    (stored : List Descriptor) (c : CachedStorage RedbStorage) : Prop where
  stocks : c.inner.Stocks P (stored.foldl (Slots.put dedupKey) slots)
  skip : c.inner.skipRateLimit = true
  uncached : ∀ d ∈ stored, ∀ rk ∈ d.routingKeys, c.cache[hashBytes rk]? = none
  marks : ∀ d : Descriptor, d.sequence = 1 →
    (c.inner.checkSequence d = .ok () ↔ s.checkSequence d = .ok ())

lemma call_storeDescriptor (c : CachedStorage RedbStorage) (d : Descriptor) (t : UInt64) :
    c.call (.storeDescriptor d t) = (.stored (c.afterStore d (c.inner.storeDescriptorAt d t)).1,
      (c.afterStore d (c.inner.storeDescriptorAt d t)).2) := rfl

namespace SeededWith

variable {P : Set Descriptor} {s : RedbStorage} {slots : List UInt8 → Option Descriptor}
  {stored : List Descriptor} {c : CachedStorage RedbStorage} {d : Descriptor} {t : UInt64}

/-- A store that passes the checks writes its slot. -/
lemma taken (h : SeededWith P s slots stored c) (hP : Descriptor.NoCollision P) (hd : d ∈ P)
    (hseq : d.sequence = 1) (hvalid : d.validate t = .ok ()) (hmark : s.checkSequence d = .ok ()) :
    c.Accepts (.storeDescriptor d t) d ∧
      SeededWith P s slots (stored ++ [d]) (c.call (.storeDescriptor d t)).2 := by
  have hcheck : (c.inner.checkStore d t).1 = .ok () :=
    (RedbStorage.checkStore_ok_iff_of_skip h.skip).2 ⟨hvalid, (h.marks d hseq).2 hmark⟩
  rcases c.inner.storeDescriptorAt_cases d t with ⟨e, windows, -, hrefused⟩ | ⟨windows, heq, -⟩
  · rw [hcheck] at hrefused
    cases hrefused
  · rw [Accepts, call_storeDescriptor, heq]
    refine ⟨rfl, ?_, ?_, ?_, ?_⟩
    · rw [List.foldl_append]
      exact (h.stocks.of_windows windows c.inner.skipRateLimit).write hP hd
        (Descriptor.validate_eq_ok_iff.1 hvalid).authentic
    · change ((({ c.inner with rateTimestamps := windows } : RedbStorage).removeOld d).insertNew
        d).skipRateLimit = true
      rw [RedbStorage.insertNew, RedbStorage.removeOld]
      split <;> exact h.skip
    · intro e he rk hrk
      rw [Option.eq_none_iff_forall_ne_some]
      intro cached hcached
      obtain ⟨hold, hother⟩ := getElem?_invalidate.1 hcached
      rcases List.mem_append.1 he with he | he
      · rw [h.uncached e he rk hrk] at hold
        cases hold
      · rw [List.mem_singleton.1 he] at hrk
        exact hother (List.mem_map_of_mem hrk)
    · intro e heseq
      refine (RedbStorage.checkSequence_write (hseq.trans heseq.symm)).trans ?_
      refine (or_congr_right (h.marks e heseq)).trans (or_iff_right_of_imp fun hkey => ?_)
      rw [RedbStorage.checkSequence_ok_iff, ← hkey, heseq, ← hseq]
      exact RedbStorage.checkSequence_ok_iff.1 hmark

/-- A store that does not pass the checks leaves the slots as they are. -/
lemma refused (h : SeededWith P s slots stored c) (hseq : d.sequence = 1)
    (hchecks : ¬ (d.validate t = .ok () ∧ s.checkSequence d = .ok ())) :
    acceptedBy (StorageCall.storeDescriptor (S := CachedStorage RedbStorage) d t,
        (c.call (.storeDescriptor d t)).1) = none ∧
      SeededWith P s slots stored (c.call (.storeDescriptor d t)).2 := by
  have hcheck : (c.inner.checkStore d t).1 ≠ .ok () := by
    rw [ne_eq, RedbStorage.checkStore_ok_iff_of_skip h.skip, h.marks d hseq]
    exact hchecks
  rcases c.inner.storeDescriptorAt_cases d t with ⟨e, windows, heq, -⟩ | ⟨windows, -, hwritten⟩
  · rw [call_storeDescriptor, heq]
    refine ⟨by simp [afterStore, acceptedBy], ?_, h.skip, h.uncached, h.marks⟩
    exact h.stocks.of_windows windows c.inner.skipRateLimit
  · exact absurd hwritten hcheck

end SeededWith

/-- A seeding stores the storable descriptors, one after the other. -/
theorem seededWith_seeded {P : Set Descriptor} (hP : Descriptor.NoCollision P)
    {c : CachedStorage RedbStorage} {slots : List UInt8 → Option Descriptor}
    (hstocks : c.inner.Stocks P slots) {keypair : Keypair} {now : UInt64}
    {entries : List (SeedEntry Value × UInt64)}
    (hcreated : ∀ entry ∈ entries, ∀ d, entry.1.descriptor keypair now = some d → d ∈ P) :
    c.seedsStored keypair now entries = entries.filterMap (storable c.inner keypair now) ∧
      SeededWith P c.inner slots (c.seedsStored keypair now entries)
        (c.seeded keypair now entries) := by
  induction entries using List.reverseRecOn with
  | nil =>
    exact ⟨rfl, hstocks.of_windows c.inner.rateTimestamps true, rfl,
      fun d hd => absurd hd List.not_mem_nil, fun d _ => Iff.rfl⟩
  | append_singleton entries entry ih =>
    obtain ⟨hstored, hseeded⟩ := ih fun e he => hcreated e (List.mem_append_left _ he)
    rw [seedsStored_concat, seeded_concat, List.filterMap_append, ← hstored, List.filterMap_cons,
      List.filterMap_nil, storable]
    cases hd : entry.1.descriptor keypair now with
    | none => simpa using hseeded
    | some d =>
      have hmem : d ∈ P := hcreated entry (by simp) d hd
      have hseq : d.sequence = 1 := (Descriptor.createdWith_of_create hd).sequence
      by_cases hchecks : d.validate entry.2 = .ok () ∧ c.inner.checkSequence d = .ok ()
      · obtain ⟨haccepts, hnext⟩ := hseeded.taken hP hmem hseq hchecks.1 hchecks.2
        rw [Accepts] at haccepts
        simpa [haccepts, hchecks, Option.filter] using hnext
      · obtain ⟨hnone, hnext⟩ := hseeded.refused (t := entry.2) hseq hchecks
        simpa [hnone, hchecks, Option.filter] using hnext

/-! ## What a seeding keeps -/

/-- Every store that a seeding counts is still there when it returns: as many different descriptors
as it reports, each in the tables and returned at the routing key of its entry's type until it
expires; and the seeding has put nothing else there. -/
structure KeepsSeeds (c : CachedStorage RedbStorage) (keypair : Keypair) (now : UInt64)
    (entries : List (SeedEntry Value × UInt64)) : Prop where
  counted : (c.seedNow keypair now entries).1.1 = (c.seedsStored keypair now entries).length
  distinct : (c.seedsStored keypair now entries).Nodup
  present : ∀ d ∈ c.seedsStored keypair now entries,
    (c.seedNow keypair now entries).2.inner.Holds d
  retrievable : ∀ entry ∈ entries, ∀ d ∈ c.seedsStored keypair now entries,
    entry.1.descriptor keypair now = some d → ∀ t, d.expiredAt t = false →
      d ∈ (getDescriptors (c.seedNow keypair now entries).2 (routingKey entry.1.type) none t).1
  nothingElse : ∀ d, (c.seedNow keypair now entries).2.inner.Holds d →
    d ∈ c.seedsStored keypair now entries ∨ c.inner.Holds d

/-- The slot of the descriptors that a seeding creates for a type. -/
def seedSlot (keypair : Keypair) (type : String) : List UInt8 :=
  (Crypto.blake3 (identityBytes keypair.identity ++ hashBytes (schemaHash "core/capability") ++
    utf8Bytes type)).val

/-- No two of the entries that the storage takes have one slot. -/
def SlotsApart (c : CachedStorage RedbStorage) (keypair : Keypair) (now : UInt64)
    (entries : List (SeedEntry Value × UInt64)) : Prop :=
  entries.Pairwise fun a b => (storable c.inner keypair now a).isSome →
    (storable c.inner keypair now b).isSome →
      seedSlot keypair a.1.type ≠ seedSlot keypair b.1.type

omit [DescriptorCodec] in
lemma dedupKey_of_descriptor {entry : SeedEntry Value} {keypair : Keypair} {now : UInt64}
    {d : Descriptor} (h : entry.descriptor keypair now = some d) :
    dedupKey d = seedSlot keypair entry.type := by
  have hd := Descriptor.createdWith_of_create h
  rw [dedupKey, seedSlot, hd.publisher, hd.schemaHash, hd.topic]

omit [DescriptorCodec] in
/-- What is storable was created for its entry. -/
lemma descriptor_of_storable {s : RedbStorage} {keypair : Keypair} {now : UInt64}
    {entry : SeedEntry Value × UInt64} {d : Descriptor}
    (h : storable s keypair now entry = some d) : entry.1.descriptor keypair now = some d :=
  (Option.filter_eq_some_iff.1 h).1

omit [DescriptorCodec] in
/-- The slots of a list's storable descriptors are apart just when their dedup keys differ. -/
lemma slotsApart_iff {c : CachedStorage RedbStorage} {keypair : Keypair} {now : UInt64}
    {entries : List (SeedEntry Value × UInt64)} :
    c.SlotsApart keypair now entries ↔
      ((entries.filterMap (storable c.inner keypair now)).map dedupKey).Nodup := by
  rw [List.Nodup, List.pairwise_map, List.pairwise_filterMap]
  refine List.Pairwise.iff fun a b => ?_
  constructor
  · intro hapart d hd e he hkey
    rw [dedupKey_of_descriptor (descriptor_of_storable hd),
      dedupKey_of_descriptor (descriptor_of_storable he)] at hkey
    exact hapart (Option.isSome_of_mem hd) (Option.isSome_of_mem he) hkey
  · intro hkeys ha hb
    obtain ⟨d, hd⟩ := Option.isSome_iff_exists.1 ha
    obtain ⟨e, he⟩ := Option.isSome_iff_exists.1 hb
    rw [← dedupKey_of_descriptor (descriptor_of_storable hd),
      ← dedupKey_of_descriptor (descriptor_of_storable he)]
    exact hkeys d hd e he

section Slots

variable {P : Set Descriptor} (hP : Descriptor.NoCollision P) {c : CachedStorage RedbStorage}
  {slots : List UInt8 → Option Descriptor} (hstocks : c.inner.Stocks P slots) {keypair : Keypair}
  {now : UInt64} {entries : List (SeedEntry Value × UInt64)}
  (hcreated : ∀ entry ∈ entries, ∀ d, entry.1.descriptor keypair now = some d → d ∈ P)

include hP hstocks hcreated

lemma stocks_seedNow : (c.seedNow keypair now entries).2.inner.Stocks P
    ((c.seedsStored keypair now entries).foldl (Slots.put dedupKey) slots) := by
  have hseeded := (seededWith_seeded hP hstocks hcreated).2
  rw [seedNow_eq]
  exact hseeded.stocks.of_windows (c.seeded keypair now entries).inner.rateTimestamps false

/-- Afterwards a slot holds the last descriptor stored in it, or what it held before. -/
lemma holds_seedNow_iff {d : Descriptor} :
    (c.seedNow keypair now entries).2.inner.Holds d ↔
      (Slots.latest dedupKey (c.seedsStored keypair now entries) (dedupKey d)).or
        (slots (dedupKey d)) = some d := by
  rw [(stocks_seedNow hP hstocks hcreated).represents.holds_iff, Slots.foldl_put]

/-- What was stored and is still there is returned at the routing keys it lists. -/
lemma mem_getDescriptors_seedNow {d : Descriptor} (hd : d ∈ c.seedsStored keypair now entries)
    (hpresent : (c.seedNow keypair now entries).2.inner.Holds d) {rk : Hash}
    (hrk : rk ∈ d.routingKeys) {t : UInt64} (hfresh : d.expiredAt t = false) :
    d ∈ (getDescriptors (c.seedNow keypair now entries).2 rk none t).1 := by
  have hafter := (stocks_seedNow hP hstocks hcreated).represents
  have hread := hafter.mem_getDescriptorsAt.2
    ⟨hafter.holds_iff.1 hpresent, hrk, hfresh, admitted_none d⟩
  refine mem_getDescriptors.2 ⟨admitted_none d, .inr ⟨?_, hread⟩⟩
  rw [seedNow_eq]
  exact (seededWith_seeded hP hstocks hcreated).2.uncached d hd rk hrk

/-- A seeding keeps what it reports just when each stored descriptor is the last of its slot. -/
lemma keepsSeeds_iff_latest :
    c.KeepsSeeds keypair now entries ↔ (c.seedsStored keypair now entries).Nodup ∧
      ∀ d ∈ c.seedsStored keypair now entries,
        Slots.latest dedupKey (c.seedsStored keypair now entries) (dedupKey d) = some d := by
  have hholds : ∀ {d}, _ ↔ _ := fun {d} => holds_seedNow_iff hP hstocks hcreated (d := d)
  constructor
  · intro hkept
    refine ⟨hkept.distinct, fun d hd => ?_⟩
    obtain ⟨last, hlast⟩ : ∃ last, Slots.latest dedupKey (c.seedsStored keypair now entries)
      (dedupKey d) = some last := Slots.exists_latest hd
    have hpresent := hholds.1 (hkept.present d hd)
    rwa [hlast, Option.some_or, ← hlast] at hpresent
  · rintro ⟨hnodup, hlast⟩
    have hpresent : ∀ d ∈ c.seedsStored keypair now entries,
        (c.seedNow keypair now entries).2.inner.Holds d := by
      intro d hd
      rw [hholds, hlast d hd, Option.some_or]
    refine ⟨by rw [seedNow_eq], hnodup, hpresent, ?_, ?_⟩
    · intro entry hentry d hd hcreate t hfresh
      refine mem_getDescriptors_seedNow hP hstocks hcreated hd (hpresent d hd) ?_ hfresh
      rw [(Descriptor.createdWith_of_create hcreate).routingKeys]
      exact routingKey_mem_hierarchicalRoutingKeys entry.1.type
    · intro d hd
      have hslot := hholds.1 hd
      rcases hlatest : Slots.latest dedupKey (c.seedsStored keypair now entries) (dedupKey d) with
        _ | last
      · rw [hlatest, Option.none_or] at hslot
        exact .inr (hstocks.represents.holds_iff.2 hslot)
      · rw [hlatest, Option.some_or, Option.some.injEq] at hslot
        exact .inl (hslot ▸ Slots.mem_of_latest hlatest)

end Slots

/-- The stores of a seeding submit the descriptors it creates. -/
lemma mem_submitted_seedCalls {keypair : Keypair} {now : UInt64}
    {entries : List (SeedEntry Value × UInt64)} {entry : SeedEntry Value × UInt64}
    (hentry : entry ∈ entries) {d : Descriptor} (hd : entry.1.descriptor keypair now = some d) :
    d ∈ submitted (seedCalls keypair now entries) := by
  refine mem_submitted.2 ⟨.storeDescriptor d entry.2, ?_, entry.2, rfl⟩
  exact List.mem_filterMap.2 ⟨entry, hentry, by rw [hd]; rfl⟩

/-- After any run of the hub's storage, a seeding keeps what it reports exactly if no two of the
entries that the storage takes have one slot. -/
theorem keepsSeeds_iff (calls : List (StorageCall (CachedStorage RedbStorage))) (keypair : Keypair)
    (now : UInt64) (entries : List (SeedEntry Value × UInt64))
    (hnc : Descriptor.NoCollision {d | d ∈ submitted (calls ++ seedCalls keypair now entries)}) :
    (after calls).KeepsSeeds keypair now entries ↔
      (after calls).SlotsApart keypair now entries := by
  have hsub : ∀ d, d ∈ submitted (calls ++ seedCalls keypair now entries) ↔
      d ∈ submitted calls ∨ d ∈ submitted (seedCalls keypair now entries) := by
    intro d
    rw [submitted, List.filterMap_append, ← submitted, ← submitted, List.mem_append]
  obtain ⟨inner, hinner, hstate, -⟩ := exists_inner_run RedbStorage.new calls
  have hP :
      ∀ d ∈ submitted inner, d ∈ {d | d ∈ submitted (calls ++ seedCalls keypair now entries)} :=
    fun d hd => (hsub d).2 (.inl (hinner ▸ hd))
  obtain ⟨slots, hrepresents, -⟩ :=
    (RedbStorage.slotView hnc).represents_run (RedbStorage.stocks_new _) hP
  have hstocks : (after calls).inner.Stocks _ slots := hstate ▸ hrepresents
  have hcreated : ∀ entry ∈ entries, ∀ d, entry.1.descriptor keypair now = some d →
      d ∈ {d | d ∈ submitted (calls ++ seedCalls keypair now entries)} := fun entry hentry d hd =>
    (hsub d).2 (.inr (mem_submitted_seedCalls hentry hd))
  rw [keepsSeeds_iff_latest hnc hstocks hcreated, ← Slots.nodup_map_key_iff, slotsApart_iff,
    (seededWith_seeded hnc hstocks hcreated).1]

end Seeding

/-! ## The seed file of the repository

The first three entries of `tools/seed-network/seed-data-us-east.json`; the first two have one type.
-/

/-- The JSON values of the seed file: strings, and objects of strings. -/
inductive PlainJson where
  | string (s : String)
  | object (entries : List (String × String))

namespace PlainJson

/-- A string without characters to escape, in quotes. -/
def quoted (s : String) : List UInt8 := 0x22 :: utf8Bytes s ++ [0x22]

/-- A map as `serde_json` writes it: the entries between braces, separated by commas. -/
def braced (entries : List (String × List UInt8)) : List UInt8 :=
  0x7b :: [0x2c].intercalate (entries.map fun (k, v) => quoted k ++ 0x3a :: v) ++ [0x7d]

def toVec : PlainJson → List UInt8
  | .string s => quoted s
  | .object entries => braced (entries.map fun (k, v) => (k, quoted v))

instance : SerdeJson PlainJson where
  string := .string
  object
    | .string _ => none
    | .object entries => some (entries.map fun (k, v) => (k, .string v))
  toVec entries := some (braced (entries.map fun (k, v) => (k, v.toVec)))

end PlainJson

def duckDuckGo : SeedEntry PlainJson where
  type := "data/search/web"
  endpoint := "https://api.duckduckgo.com/"
  params := some (.object [("auth", "none"), ("docs", "https://api.duckduckgo.com/api"),
    ("format", "json"), ("name", "DuckDuckGo Instant Answer")])

def wikipedia : SeedEntry PlainJson where
  type := "data/search/web"
  endpoint := "https://en.wikipedia.org/w/api.php"
  params := some (.object [("auth", "none"),
    ("docs", "https://www.mediawiki.org/wiki/API:Main_page"),
    ("format", "json"), ("name", "Wikipedia")])

def openMeteo : SeedEntry PlainJson where
  type := "data/weather/current"
  endpoint := "https://api.open-meteo.com/v1/forecast"
  params := some (.object [("auth", "none"), ("docs", "https://open-meteo.com/en/docs"),
    ("name", "Open-Meteo")])

def searchKeys : List Hash := [
  hashOf 0x503b926a60b7cbb41a51cbd15e6dbba9f07ac2ca9e21f8b44e40892a5267054d,
  hashOf 0x6b2a2955eabf07c85f6e1737cd13f4176f1a04bc5fc81f57957517bfb67dac5b,
  hashOf 0x8f7719aaf1f0ffea6b282288904a383b4d494dd01f10eea0e65d0244dae71688]

def weatherKeys : List Hash := [
  hashOf 0x503b926a60b7cbb41a51cbd15e6dbba9f07ac2ca9e21f8b44e40892a5267054d,
  hashOf 0x119e0c9f1785aa7fa662fa8c521987813162ae50dba7da93d1d0c54d446e7566,
  hashOf 0x9e0c1880d14d9a720dc55dfa4812310075e5d32703a32a93be575e88daab147e]

/-- An entry with what the first publisher makes of it: the routing keys, the id and the signature
of its descriptor. -/
structure SignedSeed where
  entry : SeedEntry PlainJson
  routingKeys : List Hash
  id : ℕ
  signature : ℕ

/-- The canonical bytes of the descriptor. -/
def SignedSeed.bytes (seed : SignedSeed) : List UInt8 :=
  Descriptor.canonicalCborBytes capabilitySchema seed.entry.type seed.entry.payload firstPublisher
    1700000000000000 1 3600 seed.routingKeys

def signedSeeds : List SignedSeed := [
  { entry := duckDuckGo
    routingKeys := searchKeys
    id := 0x1df5a31180561a75becd1a4efb4e7af8a22e47e4b6d4e499d04ad9bbcdf7cfc5
    signature :=
      0x803dc87dfad9d4dc96e4e3be5945d52ddceed8f2f61da4c986d0f608b72f14935973d6617f3fdcb977595501bff930e2241307e3cdc593b4c8d5aefa847a9202 },
  { entry := wikipedia
    routingKeys := searchKeys
    id := 0x6bb93f3b77d4342080771c691ec663f13ef5f933b93df2baa38910c50b16c515
    signature :=
      0x0b32be60cb7e0b66a6268d3a858b0aec25740886606bc04518d00255a31451cd940ececb7bf741770b4da4e5818c5bab05729d031367a413be618453f76bd50b },
  { entry := openMeteo
    routingKeys := weatherKeys
    id := 0x6b72991e906fa85153aa27ded0e90859230bb6baf62ebc1c7aa09f79bea789cb
    signature :=
      0x917d9564d20426a07e570f0b1bf37630f867fdaff1073969337d4706ea02bf8231e4c47af361e7e7ea890d3f256b78cdb4249fd6e1725404d35012e160021d01 }]

/-- The digests of the routing keys and of the slots of the three entries. -/
def seedDigests : List (List UInt8 × ℕ) := [
  (utf8Bytes "mesh:route:data",
    0x503b926a60b7cbb41a51cbd15e6dbba9f07ac2ca9e21f8b44e40892a5267054d),
  (utf8Bytes "mesh:route:data/search",
    0x6b2a2955eabf07c85f6e1737cd13f4176f1a04bc5fc81f57957517bfb67dac5b),
  (utf8Bytes "mesh:route:data/search/web",
    0x8f7719aaf1f0ffea6b282288904a383b4d494dd01f10eea0e65d0244dae71688),
  (utf8Bytes "mesh:route:data/weather",
    0x119e0c9f1785aa7fa662fa8c521987813162ae50dba7da93d1d0c54d446e7566),
  (utf8Bytes "mesh:route:data/weather/current",
    0x9e0c1880d14d9a720dc55dfa4812310075e5d32703a32a93be575e88daab147e),
  (slotBytes firstPublisher capabilitySchema ++ utf8Bytes "data/search/web",
    0xffeebb06fd658b75c931622a8978004cb78a2b929f23e2659fe56df6c6e18a9b),
  (slotBytes firstPublisher capabilitySchema ++ utf8Bytes "data/weather/current",
    0x250f3bc6d7328528e07216f823bfde7fa83c1e4060f993f9ab8fb4acc8a4eee0)]

/-- The digests and the signatures of a seeding at `1700000000000000` with the three entries. -/
@[reducible] def seedCrypto : Crypto :=
  tableCrypto
    ((knownDigests ++ seedDigests ++ signedSeeds.map fun seed => (seed.bytes, seed.id)).map
      fun (bytes, digest) => (bytes, digestOf digest))
    (signedSeeds.map fun seed =>
      (firstPublisher.publicKey, (digestOf seed.id).val, beBytes 64 seed.signature))

/-- The keypair with the secret key `0101…01`, as far as it signs the three descriptors. -/
def firstKeypair : Keypair where
  verifyingKey := ⟨firstPublisher.publicKey, by decide⟩
  signatureOf message :=
    let seed := signedSeeds.find? fun seed => message = (digestOf seed.id).val
    ⟨beBytes 64 (seed.elim 0 SignedSeed.signature), length_beBytes 64 _⟩

/-- Two entries of the seed file with different types are both kept. -/
theorem two_types_kept :
    letI : Crypto := seedCrypto
    letI : DescriptorCodec := wireCodec
    (after []).KeepsSeeds firstKeypair 1700000000000000
      [(duckDuckGo, 1700000000000001), (openMeteo, 1700000000000002)] := by
  let _ : Crypto := seedCrypto
  let _ : DescriptorCodec := wireCodec
  refine (keepsSeeds_iff [] firstKeypair 1700000000000000
    [(duckDuckGo, 1700000000000001), (openMeteo, 1700000000000002)] ?_).2 ?_
  · exact Descriptor.noCollision_of_list (by decide +kernel)
  · unfold SlotsApart
    decide +kernel

/-- The first two entries of the seed file have one type.  Both stores return `Ok`, and the second
replaces the first. -/
theorem shared_type_replaced :
    letI : Crypto := seedCrypto
    letI : DescriptorCodec := wireCodec
    ((after []).seedNow firstKeypair 1700000000000000
        [(duckDuckGo, 1700000000000001), (wikipedia, 1700000000000002)]).1 = (2, 0) ∧
      ¬ (after []).KeepsSeeds firstKeypair 1700000000000000
        [(duckDuckGo, 1700000000000001), (wikipedia, 1700000000000002)] := by
  let _ : Crypto := seedCrypto
  let _ : DescriptorCodec := wireCodec
  refine ⟨by decide +kernel, fun h => ?_⟩
  have hpresent := h.present
  unfold RedbStorage.Holds at hpresent
  revert hpresent
  decide +kernel

end CachedStorage

end MeshProtocol
