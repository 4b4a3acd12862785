import MeshProtocol.Dht.Storage
import MeshProtocol.Library.Buckets

/-!
# The in-memory store (`mesh-dht/src/storage.rs`)

`DescriptorStore` files each accepted descriptor under its routing keys, replaces the older version
of its dedup slot, and reacts to revocations and key rotations.

A store call is a chain of checks (`checkStore`), the replacement of the slot (`replace`), and the
processing of the two special schemas (`process`).  What each part changes is said once here, and
the results about runs use these lemmas.
-/

namespace MeshProtocol

open Std

/-! ## Payloads -/

/-- `u64::try_from` on a CBOR integer. -/
def asU64 (v : Cbor.Value) : Option UInt64 := (v.asNat (2 ^ 64)).map UInt64.ofNat

/-- Schema hash for `core/revocation`. -/
def SCHEMA_HASH_CORE_REVOCATION [Crypto] : Hash := schemaHash "core/revocation"

/-- Schema hash for `core/key-rotation`. -/
def SCHEMA_HASH_CORE_KEY_ROTATION [Crypto] : Hash := schemaHash "core/key-rotation"

/-- The descriptor id a revocation's payload names. -/
def revocationTarget [Ciborium] (payload : List UInt8) : Except StoreError Hash :=
  match Ciborium.fromReader payload with
  | .error e => .error (.validationFailed ("invalid revocation payload: " ++ e))
  | .ok value =>
    match value.asMap.bind (Cbor.findField · "target_id" Cbor.Value.asBytes) with
    | none => .error (.validationFailed "revocation payload missing target_id")
    | some (algorithm :: b :: digest) => .ok ⟨algorithm, b :: digest⟩
    | some _ => .error (.validationFailed "target_id too short")

/-- The fields of a key-rotation payload. -/
structure KeyRotation where
  oldIdentity : List UInt8
  newIdentity : Identity
  rotationSeq : UInt64
deriving DecidableEq, Repr

/-- The recorded succession does not keep a rotation from being recorded: it is not newer, and not a
fork at the same sequence. -/
def KeyRotation.Follows (r : KeyRotation) (existing : Option (Identity × UInt64)) : Prop :=
  ∀ identity seq, existing = some (identity, seq) →
    seq ≤ r.rotationSeq ∧ (r.rotationSeq = seq → identity = r.newIdentity)

/-- The succession a key rotation's payload declares. -/
def keyRotation [Ciborium] (payload : List UInt8) : Except StoreError KeyRotation :=
  match Ciborium.fromReader payload with
  | .error e => .error (.validationFailed ("invalid key-rotation payload: " ++ e))
  | .ok value =>
    match value.asMap with
    | none => .error (.validationFailed "key-rotation payload is not a map")
    | some map =>
      match Cbor.findField map "old_identity" Cbor.Value.asBytes with
      | none => .error (.validationFailed "key-rotation missing old_identity")
      | some oldIdentity =>
        match Cbor.findField map "new_identity" Cbor.Value.asBytes with
        | none => .error (.validationFailed "key-rotation missing new_identity")
        | some newIdentity =>
          match Cbor.findField map "rotation_seq" asU64 with
          | none => .error (.validationFailed "key-rotation missing rotation_seq")
          | some rotationSeq =>
            match newIdentity with
            | algorithm :: b :: key => .ok ⟨oldIdentity, ⟨algorithm, b :: key⟩, rotationSeq⟩
            | _ => .error (.validationFailed "new_identity too short")

/-! ## The store -/

/-- A descriptor slot: one publisher, one schema, one topic. -/
structure DedupKey where
  publisher : Identity
  schemaHash : Hash
  topic : String
deriving DecidableEq, Repr

namespace DedupKey

/-- The slot a descriptor belongs to. -/
def fromDescriptor (d : Descriptor) : DedupKey := ⟨d.publisher, d.schemaHash, d.topic⟩

/-- Slots compared field by field. -/
def cmp : DedupKey → DedupKey → Ordering :=
  compareLex (compareOn publisher) (compareLex (compareOn schemaHash) (compareOn topic))

instance : Ord DedupKey := ⟨cmp⟩

instance : TransOrd DedupKey :=
  inferInstanceAs (TransCmp
    (compareLex (compareOn publisher) (compareLex (compareOn schemaHash) (compareOn topic))))

instance : LawfulEqOrd DedupKey where
  eq_of_compare {k l} h := by
    have hfields : compare k.publisher l.publisher = .eq ∧
        compare k.schemaHash l.schemaHash = .eq ∧ compare k.topic l.topic = .eq := by
      change cmp k l = .eq at h
      simpa only [cmp, compareLex, compareOn, Ordering.then_eq_eq] using h
    obtain ⟨hpub, hschema, htopic⟩ := hfields
    rcases k with ⟨p, sh, t⟩
    rcases l with ⟨p', sh', t'⟩
    obtain rfl : p = p' := LawfulEqCmp.eq_of_compare hpub
    obtain rfl : sh = sh' := LawfulEqCmp.eq_of_compare hschema
    obtain rfl : t = t' := LawfulEqCmp.eq_of_compare htopic
    rfl

end DedupKey

/-- In-memory descriptor storage for the DHT node. -/
structure DescriptorStore where
  /-- Descriptors by routing key. -/
  store : Buckets Hash Descriptor
  /-- The highest sequence seen per slot. -/
  sequences : ExtTreeMap DedupKey UInt64
  /-- Per-publisher rate-limit windows. -/
  rateLimiter : ExtTreeMap Identity (List UInt64)
  /-- Revoked descriptor ids. -/
  revoked : ExtTreeSet Hash
  /-- Key successions: old identity bytes to new identity and rotation sequence. -/
  rotations : ExtTreeMap (List UInt8) (Identity × UInt64)

namespace DescriptorStore

/-- The empty store. -/
def new : DescriptorStore := ⟨∅, ∅, ∅, ∅, ∅⟩

/-- `retain` over all routing keys at once. -/
def retain (s : DescriptorStore) (p : Descriptor → Bool) : DescriptorStore :=
  { s with store := s.store.retain p }

/-- The checks before the sequence tracker is touched: validation, rate limit, staleness. -/
def checkStore [Crypto] (s : DescriptorStore) (d : Descriptor) (nowMicros : UInt64) :
    StoreResult × DescriptorStore :=
  match d.validate nowMicros with
  | .error e => (.error (.validationFailed e.message), s)
  | .ok () =>
    let (allowed, window) := checkWindow (s.rateLimiter.getD d.publisher []) nowMicros
    let s := { s with rateLimiter := s.rateLimiter.insert d.publisher window }
    if allowed = false then (.error (.rateLimited RATE_LIMIT_PER_MINUTE), s)
    else
      match s.sequences[DedupKey.fromDescriptor d]? with
      | some currentSeq =>
        if d.sequence < currentSeq then (.error (.staleDescriptor d.sequence currentSeq), s)
        else (.ok (), s)
      | none => (.ok (), s)

/-- Whether a publisher's window has room for another store. -/
def allows (s : DescriptorStore) (publisher : Identity) (nowMicros : UInt64) : Bool :=
  (checkWindow (s.rateLimiter.getD publisher []) nowMicros).1

/-- Updates the sequence tracker, drops the slot's older versions from all routing keys, and files
the descriptor under each of its own. -/
def replace (s : DescriptorStore) (d : Descriptor) : DescriptorStore :=
  let dedupKey := DedupKey.fromDescriptor d
  { s with
    sequences := s.sequences.insert dedupKey d.sequence
    store := (s.store.retain fun e => DedupKey.fromDescriptor e ≠ dedupKey).file d.routingKeys d }

/-- A stored descriptor with the given id.  The source takes the first one in the iteration order
of a hash map; the model takes the order of the keys. -/
def findById (s : DescriptorStore) (id : Hash) : Option Descriptor :=
  s.store.entries.find? fun d => d.id = id

/-- Verifies a revocation's authority and revokes its target. -/
def processRevocation [Ciborium] (s : DescriptorStore) (revocation : Descriptor) :
    StoreResult × DescriptorStore :=
  match revocationTarget revocation.payload with
  | .error e => (.error e, s)
  | .ok targetId =>
    match s.findById targetId with
    | some target =>
      if revocation.publisher ≠ target.publisher then
        -- the revocation itself is stored already, and is taken out again
        (.error .revocationPublisherMismatch, s.retain fun d => d.id ≠ revocation.id)
      else
        let kept := (s.store.retain fun d => d.id ≠ targetId).dropEmpty
        (.ok (), { s with revoked := s.revoked.insert targetId, store := kept })
    -- no target: the revocation may have arrived first
    | none => (.ok (), { s with revoked := s.revoked.insert targetId })

/-- Checks a key rotation against the recorded one and records it. -/
def processKeyRotation [Ciborium] (s : DescriptorStore) (rotation : Descriptor) :
    StoreResult × DescriptorStore :=
  match keyRotation rotation.payload with
  | .error e => (.error e, s)
  | .ok r =>
    let recorded :=
      { s with rotations := s.rotations.insert r.oldIdentity (r.newIdentity, r.rotationSeq) }
    match s.rotations[r.oldIdentity]? with
    | none => (.ok (), recorded)
    | some (existingIdentity, existingSeq) =>
      if r.rotationSeq = existingSeq ∧ existingIdentity ≠ r.newIdentity then
        (.error .rotationForkDetected, s.retain fun d => d.id ≠ rotation.id)
      else if r.rotationSeq < existingSeq then
        (.error (.staleRotation r.rotationSeq existingSeq), s.retain fun d => d.id ≠ rotation.id)
      else (.ok (), recorded)

section Crypto

variable [Crypto] [Ciborium]

/-- The processing of revocations and key rotations that follows the replacement. -/
def process (s : DescriptorStore) (d : Descriptor) : StoreResult × DescriptorStore :=
  match if d.schemaHash = SCHEMA_HASH_CORE_REVOCATION then s.processRevocation d
    else (.ok (), s) with
  | (.error e, s) => (.error e, s)
  | (.ok (), s) =>
    if d.schemaHash = SCHEMA_HASH_CORE_KEY_ROTATION then s.processKeyRotation d else (.ok (), s)

/-- Stores a descriptor after validation. -/
def storeDescriptorAt (s : DescriptorStore) (d : Descriptor) (nowMicros : UInt64) :
    StoreResult × DescriptorStore :=
  match s.checkStore d nowMicros with
  | (.error e, s) => (.error e, s)
  | (.ok (), s) => (s.replace d).process d

end Crypto

/-- The descriptors at a routing key that are neither revoked nor expired and pass the filters. -/
def getDescriptorsAt (s : DescriptorStore) (routingKey : Hash) (filters : Option FilterSet)
    (nowMicros : UInt64) : List Descriptor :=
  (s.store.held routingKey).filter fun d =>
    !s.revoked.contains d.id && !d.expiredAt nowMicros && admitted filters d

/-- Removes all expired descriptors. -/
def evictExpiredAt (s : DescriptorStore) (nowMicros : UInt64) : DescriptorStore :=
  { s with store := (s.store.retain fun d => !d.expiredAt nowMicros).dropEmpty }

instance [Crypto] [Ciborium] : DescriptorStorage DescriptorStore where
  Event := Empty
  storeDescriptor := storeDescriptorAt
  storeDescriptorAt := storeDescriptorAt
  getDescriptors s rk filters clock := (s.getDescriptorsAt rk filters clock, s)
  getDescriptorsAt s rk filters now := (s.getDescriptorsAt rk filters now, s)
  evictExpired := evictExpiredAt
  evictExpiredAt := evictExpiredAt
  hasDescriptors s rk := !(s.store.held rk).isEmpty
  descriptorCount s := (s.store.toList.map fun kv => kv.2.length).sum
  routingKeyCount s := s.store.size
  background s _ := s

/-! ## What each part changes -/

lemma mem_getDescriptorsAt {s : DescriptorStore} {rk : Hash} {filters : Option FilterSet}
    {now : UInt64} {d : Descriptor} :
    d ∈ s.getDescriptorsAt rk filters now ↔
      d ∈ s.store.held rk ∧ d.id ∉ s.revoked ∧ d.expiredAt now = false ∧
        admitted filters d = true := by
  simp [getDescriptorsAt, and_assoc, ← ExtTreeSet.contains_iff_mem]

lemma mem_held_evictExpiredAt {s : DescriptorStore} {rk : Hash} {now : UInt64} {d : Descriptor} :
    d ∈ (s.evictExpiredAt now).store.held rk ↔
      d ∈ s.store.held rk ∧ d.expiredAt now = false := by
  simp [evictExpiredAt]

lemma mem_held_replace {s : DescriptorStore} {d e : Descriptor} {rk : Hash} :
    e ∈ (s.replace d).store.held rk ↔
      (e ∈ s.store.held rk ∧ DedupKey.fromDescriptor e ≠ DedupKey.fromDescriptor d) ∨
        (e = d ∧ rk ∈ d.routingKeys) := by
  simp [replace, Buckets.mem_held_file]

lemma findById_eq_some {s : DescriptorStore} {id : Hash} {d : Descriptor}
    (h : s.findById id = some d) : d.id = id ∧ ∃ rk, d ∈ s.store.held rk := by
  refine ⟨by simpa using List.find?_some h, ?_⟩
  exact Buckets.mem_entries.1 (List.mem_of_find?_eq_some h)

lemma findById_ne_none {s : DescriptorStore} {rk : Hash} {d : Descriptor}
    (h : d ∈ s.store.held rk) : s.findById d.id ≠ none := by
  intro hnone
  have hall := List.find?_eq_none.1 hnone d (Buckets.mem_entries.2 ⟨rk, h⟩)
  simp at hall

section Crypto

variable [Crypto]

/-- Whatever the checks answer, they touch the rate-limit windows only. -/
lemma checkStore_snd (s : DescriptorStore) (d : Descriptor) (now : UInt64) :
    ∃ windows, (s.checkStore d now).2 = { s with rateLimiter := windows } := by
  unfold checkStore
  cases d.validate now with
  | error e => exact ⟨_, rfl⟩
  | ok =>
    refine ⟨s.rateLimiter.insert d.publisher
      (checkWindow (s.rateLimiter.getD d.publisher []) now).2, ?_⟩
    dsimp only
    split_ifs
    · rfl
    · rcases s.sequences[DedupKey.fromDescriptor d]? with _ | currentSeq
      · rfl
      · dsimp only
        split_ifs <;> rfl

/-- A descriptor passes the checks when it is valid, its publisher's window has room, and it is not
older than its slot's watermark. -/
lemma checkStore_ok_iff {s : DescriptorStore} {d : Descriptor} {now : UInt64} :
    (s.checkStore d now).1 = .ok () ↔
      d.ValidAt now ∧ s.allows d.publisher now = true ∧
        ∀ seq, s.sequences[DedupKey.fromDescriptor d]? = some seq → seq ≤ d.sequence := by
  rw [← Descriptor.validate_eq_ok_iff, checkStore, allows]
  cases d.validate now with
  | error e => simp
  | ok =>
    dsimp only
    cases (checkWindow (s.rateLimiter.getD d.publisher []) now).1 with
    | false => simp
    | true =>
      cases s.sequences[DedupKey.fromDescriptor d]? with
      | none => simp
      | some currentSeq =>
        by_cases hstale : d.sequence < currentSeq
        · simp [hstale]
        · simpa [hstale] using UInt64.not_lt.1 hstale

/-- In a slot with a watermark, the checks refuse what is older, and what they would
refuse anyway. -/
lemma checkStore_marked_iff (s : DescriptorStore) {d : Descriptor} (now : UInt64) {seq : UInt64}
    (hmark : s.sequences[DedupKey.fromDescriptor d]? = some seq) :
    (s.checkStore d now).1 = .ok () ↔
      ¬ (d.sequence < seq ∨ ¬ (d.ValidAt now ∧ s.allows d.publisher now = true)) := by
  simp only [checkStore_ok_iff, hmark, Option.some.injEq, forall_eq', not_or, not_not,
    UInt64.not_lt]
  exact ⟨fun ⟨hvalid, hallows, hseq⟩ => ⟨hseq, hvalid, hallows⟩,
    fun ⟨hseq, hvalid, hallows⟩ => ⟨hvalid, hallows, hseq⟩⟩

end Crypto

section Ciborium

variable [Ciborium]

/-- A revocation is refused, or it names a target over which, as far as the store can tell, its
publisher has authority. -/
lemma processRevocation_cases (s : DescriptorStore) (r : Descriptor) :
    (∃ e kept, kept.Within s.store ∧ s.processRevocation r = (.error e, { s with store := kept })) ∨
      ∃ target kept, revocationTarget r.payload = .ok target ∧
        (∀ d, s.findById target = some d → r.publisher = d.publisher) ∧
        kept.Within s.store ∧
        s.processRevocation r =
          (.ok (), { s with revoked := s.revoked.insert target, store := kept }) := by
  unfold processRevocation
  rcases revocationTarget r.payload with e | target
  · exact .inl ⟨e, s.store, Buckets.Within.refl _, rfl⟩
  · dsimp only
    rcases hfind : s.findById target with _ | d
    · refine .inr ⟨target, s.store, rfl, ?_, Buckets.Within.refl _, rfl⟩
      simp [hfind]
    · by_cases hpub : r.publisher = d.publisher
      · refine .inr ⟨target, _, rfl, ?_, ?_, if_neg (not_not.2 hpub)⟩
        · simpa [hfind] using hpub
        · exact (Buckets.dropEmpty_within _).trans (Buckets.retain_within _ _)
      · exact .inl ⟨_, _, Buckets.retain_within _ _, if_pos hpub⟩

/-- A key rotation is refused, or it follows the recorded succession and replaces it. -/
lemma processKeyRotation_cases (s : DescriptorStore) (r : Descriptor) :
    (∃ e kept, kept.Within s.store ∧
      s.processKeyRotation r = (.error e, { s with store := kept })) ∨
      ∃ rot, keyRotation r.payload = .ok rot ∧ rot.Follows s.rotations[rot.oldIdentity]? ∧
        s.processKeyRotation r = (.ok (), { s with
          rotations := s.rotations.insert rot.oldIdentity
            (rot.newIdentity, rot.rotationSeq) }) := by
  unfold processKeyRotation
  rcases keyRotation r.payload with e | rot
  · exact .inl ⟨e, s.store, Buckets.Within.refl _, rfl⟩
  · dsimp only
    rcases hold : s.rotations[rot.oldIdentity]? with _ | ⟨existingIdentity, existingSeq⟩
    · refine .inr ⟨rot, rfl, ?_, rfl⟩
      simp [KeyRotation.Follows, hold]
    · dsimp only
      split_ifs with hfork hstale
      · exact .inl ⟨_, _, Buckets.retain_within _ _, rfl⟩
      · exact .inl ⟨_, _, Buckets.retain_within _ _, rfl⟩
      · refine .inr ⟨rot, rfl, ?_, rfl⟩
        intro identity seq heq
        rw [hold, Option.some.injEq, Prod.mk.injEq] at heq
        obtain ⟨rfl, rfl⟩ := heq
        refine ⟨UInt64.not_lt.1 hstale, fun hseq => ?_⟩
        by_contra hne
        exact hfork ⟨hseq, hne⟩

/-- A well-formed rotation that follows the recorded succession is not refused. -/
lemma processKeyRotation_of_follows {s : DescriptorStore} {r : Descriptor} {rot : KeyRotation}
    (hrot : keyRotation r.payload = .ok rot)
    (hfollows : rot.Follows s.rotations[rot.oldIdentity]?) :
    s.processKeyRotation r = (.ok (), { s with
      rotations := s.rotations.insert rot.oldIdentity (rot.newIdentity, rot.rotationSeq) }) := by
  unfold processKeyRotation
  rw [hrot]
  dsimp only
  rcases hold : s.rotations[rot.oldIdentity]? with _ | ⟨existingIdentity, existingSeq⟩
  · rfl
  · obtain ⟨hle, hsame⟩ := hfollows existingIdentity existingSeq hold
    dsimp only
    rw [if_neg, if_neg]
    · exact UInt64.not_lt.2 hle
    · rintro ⟨hseq, hne⟩
      exact hne (hsame hseq)

/-- A revocation that succeeds revokes the id it names and drops what is filed with that id. -/
lemma processRevocation_ok {s s' : DescriptorStore} {r : Descriptor}
    (h : s.processRevocation r = (.ok (), s')) :
    ∃ target kept, revocationTarget r.payload = .ok target ∧
      s' = { s with revoked := s.revoked.insert target, store := kept } ∧
      ∀ rk, kept.held rk = (s.store.held rk).filter fun e => e.id ≠ target := by
  unfold processRevocation at h
  split at h
  case h_1 => cases h
  case h_2 target htarget =>
    split at h
    case h_1 d hfind =>
      split_ifs at h
      · cases h
      · obtain ⟨-, rfl⟩ := Prod.mk.inj h
        refine ⟨target, _, htarget, rfl, fun rk => ?_⟩
        rw [Buckets.held_dropEmpty, Buckets.held_retain]
    case h_2 hfind =>
      obtain ⟨-, rfl⟩ := Prod.mk.inj h
      refine ⟨target, s.store, htarget, rfl, fun rk => ?_⟩
      -- nothing with the target's id is filed
      refine (List.filter_eq_self.2 fun e he => ?_).symm
      have hne : e.id ≠ target := by
        rintro rfl
        exact findById_ne_none he hfind
      simpa using hne

/-- A key rotation that succeeds records the successor. -/
lemma processKeyRotation_ok {s s' : DescriptorStore} {r : Descriptor}
    (h : s.processKeyRotation r = (.ok (), s')) :
    ∃ rot, keyRotation r.payload = .ok rot ∧ s' = { s with
      rotations := s.rotations.insert rot.oldIdentity (rot.newIdentity, rot.rotationSeq) } := by
  rcases s.processKeyRotation_cases r with ⟨e, kept, -, heq⟩ | ⟨rot, hrot, -, heq⟩
  · rw [heq] at h
    cases h
  · rw [heq] at h
    exact ⟨rot, hrot, (Prod.mk.inj h).2.symm⟩

/-! ## The effect of a store call -/

lemma rotations_processRevocation (s : DescriptorStore) (r : Descriptor) :
    (s.processRevocation r).2.rotations = s.rotations := by
  rcases s.processRevocation_cases r with ⟨e, kept, -, heq⟩ | ⟨id, kept, -, -, -, heq⟩ <;> rw [heq]

lemma revoked_processKeyRotation (s : DescriptorStore) (r : Descriptor) :
    (s.processKeyRotation r).2.revoked = s.revoked := by
  rcases s.processKeyRotation_cases r with ⟨e, kept, -, heq⟩ | ⟨rot, -, -, heq⟩ <;> rw [heq]

variable [Crypto]

/-- A revocation of an id that the store finds no fault with. -/
structure Revokes (s : DescriptorStore) (r : Descriptor) (id : Hash) : Prop where
  schema : r.schemaHash = SCHEMA_HASH_CORE_REVOCATION
  target : revocationTarget r.payload = .ok id
  authority : ∀ d, s.findById id = some d → r.publisher = d.publisher

/-- The recorded rotations after a key rotation that follows them was recorded. -/
structure Records (s : DescriptorStore) (r : Descriptor) (rot : KeyRotation)
    (s' : DescriptorStore) : Prop where
  payload : keyRotation r.payload = .ok rot
  follows : rot.Follows s.rotations[rot.oldIdentity]?
  rotations : s'.rotations =
    s.rotations.insert rot.oldIdentity (rot.newIdentity, rot.rotationSeq)

/-- What processing a descriptor does to the store around it. -/
structure ProcessEffect (s : DescriptorStore) (d : Descriptor) (result : StoreResult)
    (s' : DescriptorStore) : Prop where
  within : s'.store.Within s.store
  sequences : s'.sequences = s.sequences
  revoked : ∀ id ∈ s'.revoked, id ∈ s.revoked ∨ s.Revokes d id
  recorded : result = .ok () → d.schemaHash = SCHEMA_HASH_CORE_KEY_ROTATION →
    ∃ rot, s.Records d rot s'
  unrecorded : ¬ (result = .ok () ∧ d.schemaHash = SCHEMA_HASH_CORE_KEY_ROTATION) →
    s'.rotations = s.rotations

/-- What processing a revocation does, as far as it concerns revocations. -/
lemma effect_processRevocation {s : DescriptorStore} {r : Descriptor}
    (hschema : r.schemaHash = SCHEMA_HASH_CORE_REVOCATION) :
    (s.processRevocation r).2.store.Within s.store ∧
      (s.processRevocation r).2.sequences = s.sequences ∧
      ∀ id ∈ (s.processRevocation r).2.revoked, id ∈ s.revoked ∨ s.Revokes r id := by
  rcases s.processRevocation_cases r with ⟨e, kept, hkept, heq⟩ | ⟨id, kept, hid, hauth, hkept, heq⟩
  · rw [heq]
    exact ⟨hkept, rfl, fun _ => .inl⟩
  · rw [heq]
    refine ⟨hkept, rfl, ?_⟩
    intro id' hmem
    rcases ExtTreeSet.mem_insert.1 hmem with hcmp | hmem
    · obtain rfl := LawfulEqCmp.eq_of_compare hcmp
      exact .inr ⟨hschema, hid, hauth⟩
    · exact .inl hmem

/-- What processing a key rotation does. -/
lemma effect_processKeyRotation {s : DescriptorStore} {r : Descriptor}
    (hschema : r.schemaHash = SCHEMA_HASH_CORE_KEY_ROTATION) :
    ProcessEffect s r (s.processKeyRotation r).1 (s.processKeyRotation r).2 := by
  rcases s.processKeyRotation_cases r with ⟨e, kept, hkept, heq⟩ | ⟨rot, hrot, hfollows, heq⟩
  · rw [heq]
    exact
      { within := hkept
        sequences := rfl
        revoked := fun _ => .inl
        recorded := fun h => by cases h
        unrecorded := fun _ => rfl }
  · rw [heq]
    exact
      { within := Buckets.Within.refl _
        sequences := rfl
        revoked := fun _ => .inl
        recorded := fun _ _ => ⟨rot, hrot, hfollows, rfl⟩
        unrecorded := fun h => absurd ⟨rfl, hschema⟩ h }

/-- What processing does, whichever of the two special schemas the descriptor has. -/
theorem effect_process (s : DescriptorStore) (d : Descriptor) :
    ProcessEffect s d (s.process d).1 (s.process d).2 := by
  unfold process
  by_cases hrev : d.schemaHash = SCHEMA_HASH_CORE_REVOCATION
  · have heff := effect_processRevocation hrev (s := s)
    have hrots := s.rotations_processRevocation d
    rw [if_pos hrev]
    generalize s.processRevocation d = out at heff hrots ⊢
    rcases out with ⟨e | ⟨⟩, s₁⟩
    · exact
        { within := heff.1
          sequences := heff.2.1
          revoked := heff.2.2
          recorded := fun h => by cases h
          unrecorded := fun _ => hrots }
    · dsimp only at heff hrots ⊢
      split_ifs with hrot
      · -- only where the two schema hashes are one
        have heff₁ := effect_processKeyRotation hrot (s := s₁)
        exact
          { within := heff₁.within.trans heff.1
            sequences := heff₁.sequences.trans heff.2.1
            revoked := by
              rw [revoked_processKeyRotation]
              exact heff.2.2
            recorded := by
              intro hok hschema
              obtain ⟨rot, hrec⟩ := heff₁.recorded hok hschema
              exact ⟨rot, hrec.payload, hrots ▸ hrec.follows, hrots ▸ hrec.rotations⟩
            unrecorded := fun h => (heff₁.unrecorded h).trans hrots }
      · exact
          { within := heff.1
            sequences := heff.2.1
            revoked := heff.2.2
            recorded := fun _ h => absurd h hrot
            unrecorded := fun _ => hrots }
  · rw [if_neg hrev]
    dsimp only
    split_ifs with hrot
    · exact effect_processKeyRotation hrot
    · exact
        { within := Buckets.Within.refl _
          sequences := rfl
          revoked := fun _ => .inl
          recorded := fun _ h => absurd h hrot
          unrecorded := fun _ => rfl }

/-- Descriptors of the other schemas need no processing. -/
lemma process_of_plain {s : DescriptorStore} {d : Descriptor}
    (hrev : d.schemaHash ≠ SCHEMA_HASH_CORE_REVOCATION)
    (hrot : d.schemaHash ≠ SCHEMA_HASH_CORE_KEY_ROTATION) : s.process d = (.ok (), s) := by
  simp [process, hrev, hrot]

/-- A store call refuses the descriptor, touching nothing but the rate-limit windows, or it
replaces the slot of a valid descriptor that is not stale and then processes it. -/
theorem storeDescriptorAt_cases (s : DescriptorStore) (d : Descriptor) (now : UInt64) :
    (∃ e windows, s.storeDescriptorAt d now = (.error e, { s with rateLimiter := windows }) ∧
        (s.checkStore d now).1 = .error e) ∨
      ∃ windows, s.storeDescriptorAt d now =
          (({ s with rateLimiter := windows } : DescriptorStore).replace d).process d ∧
        (s.checkStore d now).1 = .ok () := by
  obtain ⟨windows, hwindows⟩ := s.checkStore_snd d now
  unfold storeDescriptorAt
  rcases hcheck : s.checkStore d now with ⟨e | ⟨⟩, s'⟩
  · rw [hcheck] at hwindows
    exact .inl ⟨e, windows, by rw [← hwindows], rfl⟩
  · rw [hcheck] at hwindows
    refine .inr ⟨windows, ?_, rfl⟩
    rw [← hwindows]

/-! ## Runs -/

/-- A call of the in-memory store stores a descriptor, evicts, or leaves the store as it is. -/
theorem step_cases (s : DescriptorStore) (c : StorageCall DescriptorStore) :
    (∃ d now, c.stores = some (d, now) ∧
      (storageMachine DescriptorStore).step s c =
        (.stored (s.storeDescriptorAt d now).1, (s.storeDescriptorAt d now).2)) ∨
      (∃ now, c.stores = none ∧ c.time = some now ∧
        (storageMachine DescriptorStore).step s c = (.done, s.evictExpiredAt now)) ∨
      (c.stores = none ∧ ((storageMachine DescriptorStore).step s c).2 = s) := by
  cases c with
  | storeDescriptor d clock => exact .inl ⟨d, clock, rfl, rfl⟩
  | storeDescriptorAt d now => exact .inl ⟨d, now, rfl, rfl⟩
  | getDescriptors rk filters clock => exact .inr (.inr ⟨rfl, rfl⟩)
  | getDescriptorsAt rk filters now => exact .inr (.inr ⟨rfl, rfl⟩)
  | evictExpired clock => exact .inr (.inl ⟨clock, rfl, rfl, rfl⟩)
  | evictExpiredAt now => exact .inr (.inl ⟨now, rfl, rfl, rfl⟩)
  | background e => exact .inr (.inr ⟨rfl, rfl⟩)

/-- What a store call files is the descriptor it was given, valid, under its own routing keys. -/
lemma mem_held_storeDescriptorAt {s : DescriptorStore} {d e : Descriptor} {now : UInt64} {rk : Hash}
    (h : e ∈ (s.storeDescriptorAt d now).2.store.held rk) :
    e ∈ s.store.held rk ∨ (e = d ∧ rk ∈ d.routingKeys ∧ d.ValidAt now) := by
  rcases s.storeDescriptorAt_cases d now with ⟨_, _, heq, -⟩ | ⟨windows, heq, hcheck⟩
  · rw [heq] at h
    exact .inl h
  · rw [heq] at h
    have hreplaced := (effect_process _ d).within rk e h
    rcases mem_held_replace.1 hreplaced with ⟨hheld, -⟩ | ⟨rfl, hrk⟩
    · exact .inl hheld
    · exact .inr ⟨rfl, hrk, (checkStore_ok_iff.1 hcheck).1⟩

/-- What is filed under a routing key lists it, was submitted, and was valid when it was. -/
theorem held_run {calls : List (StorageCall DescriptorStore)} {rk : Hash} {d : Descriptor}
    (h : d ∈ ((storageMachine DescriptorStore).run new calls).store.held rk) :
    d ∈ submitted calls ∧ rk ∈ d.routingKeys ∧ ∃ now, d.ValidAt now := by
  induction calls using List.reverseRecOn with
  | nil => simp [new] at h
  | append_singleton calls c ih =>
    have hsub : submitted calls ⊆ submitted (calls ++ [c]) :=
      submitted_mono (List.prefix_append _ _)
    rw [Machine.run_concat] at h
    rcases step_cases ((storageMachine DescriptorStore).run new calls) c with
      ⟨e, now, hstores, hstep⟩ | ⟨now, -, -, hstep⟩ | ⟨-, hstep⟩
    · rw [hstep] at h
      rcases mem_held_storeDescriptorAt h with hheld | ⟨rfl, hrk, hvalid⟩
      · obtain ⟨hd, hlisted⟩ := ih hheld
        exact ⟨hsub hd, hlisted⟩
      · exact ⟨mem_submitted.2 ⟨c, by simp, now, hstores⟩, hrk, now, hvalid⟩
    · rw [hstep] at h
      obtain ⟨hd, hlisted⟩ := ih (mem_held_evictExpiredAt.1 h).1
      exact ⟨hsub hd, hlisted⟩
    · rw [hstep] at h
      obtain ⟨hd, hlisted⟩ := ih h
      exact ⟨hsub hd, hlisted⟩

/-- A run stores a descriptor that passes the checks in the state it is submitted to. -/
def Passes (calls : List (StorageCall DescriptorStore)) (d : Descriptor) : Prop :=
  ∃ pre c now, pre ++ [c] <+: calls ∧ c.stores = some (d, now) ∧
    (((storageMachine DescriptorStore).run new pre).checkStore d now).1 = .ok ()

lemma Passes.submitted {calls : List (StorageCall DescriptorStore)} {d : Descriptor}
    (h : Passes calls d) : d ∈ submitted calls := by
  obtain ⟨pre, c, now, hpre, hstores, -⟩ := h
  exact submitted_mono hpre (mem_submitted.2 ⟨c, by simp, now, hstores⟩)

lemma Passes.valid {calls : List (StorageCall DescriptorStore)} {d : Descriptor}
    (h : Passes calls d) : ∃ now, d.ValidAt now := by
  obtain ⟨pre, c, now, -, -, hcheck⟩ := h
  exact ⟨now, (checkStore_ok_iff.1 hcheck).1⟩

lemma Passes.mono {pre calls : List (StorageCall DescriptorStore)} {d : Descriptor}
    (h : Passes pre d) (hpre : pre <+: calls) : Passes calls d := by
  obtain ⟨pre', c, now, hpre', hrest⟩ := h
  exact ⟨pre', c, now, hpre'.trans hpre, hrest⟩

/-- What is accepted passed the checks. -/
theorem accepted_passes {calls : List (StorageCall DescriptorStore)} {d : Descriptor}
    (h : d ∈ accepted new calls) : Passes calls d := by
  induction calls using List.reverseRecOn with
  | nil => simp [accepted] at h
  | append_singleton calls c ih =>
    rw [accepted_concat, List.mem_append, Option.mem_toList] at h
    rcases h with h | h
    · exact (ih h).mono (List.prefix_append calls [c])
    · rcases step_cases ((storageMachine DescriptorStore).run new calls) c with
        ⟨e, now, hstores, hstep⟩ | ⟨now, hstores, -, hstep⟩ | ⟨hstores, -⟩
      · rcases storeDescriptorAt_cases ((storageMachine DescriptorStore).run new calls) e now with
          ⟨err, windows, heq, -⟩ | ⟨-, -, hcheck⟩
        · simp [acceptedBy, hstep, heq] at h
        · rw [hstep] at h
          simp only [acceptedBy, hstores, Option.map_some, Option.ite_none_right_eq_some,
            Option.some.injEq] at h
          rw [← h.2]
          exact ⟨calls, c, now, List.prefix_rfl, hstores, hcheck⟩
      · simp [acceptedBy, hstores] at h
      · simp [acceptedBy, hstores] at h

end Ciborium

end DescriptorStore

end MeshProtocol
