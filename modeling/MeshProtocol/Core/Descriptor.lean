import MeshProtocol.Library.Cbor
import MeshProtocol.Library.Checks
import MeshProtocol.Core.Hash
import Mathlib.Data.UInt

/-!
# Descriptors (`mesh-core/src/descriptor.rs`)

The descriptor envelope, its content hash over a canonical CBOR map, and `validate`, the checks a
node makes before it stores or serves a descriptor.

`u64` arithmetic wraps, as in the release builds the repository deploys; what a reader needs is
that expiry, once reached, stays reached (`expiredAt_mono`), which holds with the wrap-around.

The content hash determines the content: the canonical bytes are the encoding of a CBOR item whose
shape is fixed, so equal bytes mean equal fields (`canonicalCborBytes_inj`).  BLAKE3 enters only
through `NoCollision`, which says that among the byte strings of a given set no two share a digest.
-/

namespace MeshProtocol

open Bytes

/-! ## Bounds -/

/-- Maximum payload size in bytes. -/
def MAX_PAYLOAD_SIZE : ℕ := 65536

/-- Maximum topic length in bytes. -/
def MAX_TOPIC_SIZE : ℕ := 255

/-- Maximum number of routing keys per descriptor. -/
def MAX_ROUTING_KEYS : ℕ := 8

/-- Maximum clock skew tolerance in seconds. -/
def MAX_CLOCK_SKEW_SECS : UInt64 := 120

/-- Minimum TTL in seconds. -/
def MIN_TTL_SECS : UInt32 := 60

/-- Maximum TTL in seconds. -/
def MAX_TTL_SECS : UInt32 := 86400

/-! ## The envelope -/

/-- Every vector and string among a descriptor's fields is shorter than the address space, as every
vector and string of a running program is. -/
def FieldsFit (schemaHash : Hash) (topic : String) (payload : List UInt8) (publisher : Identity)
    (routingKeys : List Hash) (id : Hash) (signature : List UInt8) : Prop :=
  schemaHash.digest.length < 2 ^ 64 ∧ (utf8Bytes topic).length < 2 ^ 64 ∧
    payload.length < 2 ^ 64 ∧ publisher.publicKey.length < 2 ^ 64 ∧ routingKeys.length < 2 ^ 64 ∧
    (∀ rk ∈ routingKeys, rk.digest.length < 2 ^ 64) ∧ id.digest.length < 2 ^ 64 ∧
    signature.length < 2 ^ 64

instance (schemaHash : Hash) (topic : String) (payload : List UInt8) (publisher : Identity)
    (routingKeys : List Hash) (id : Hash) (signature : List UInt8) :
    Decidable (FieldsFit schemaHash topic payload publisher routingKeys id signature) :=
  inferInstanceAs (Decidable (_ ∧ _))

/-- The descriptor envelope. -/
structure Descriptor where
  /-- Content-hash of the schema this payload conforms to. -/
  schemaHash : Hash
  /-- Publisher-chosen descriptor slot. -/
  topic : String
  /-- Opaque payload, interpreted according to the schema. -/
  payload : List UInt8
  /-- Who published this descriptor. -/
  publisher : Identity
  /-- Microseconds since the Unix epoch. -/
  timestamp : UInt64
  /-- Monotonic per publisher, for ordering. -/
  sequence : UInt64
  /-- Seconds until expiry. -/
  ttl : UInt32
  /-- DHT key ranges where this should be stored. -/
  routingKeys : List Hash
  /-- BLAKE3 of the canonical CBOR of all fields above. -/
  id : Hash
  /-- Signature over `id.digest` by the publisher's private key. -/
  signature : List UInt8
  fit : FieldsFit schemaHash topic payload publisher routingKeys id signature := by decide
deriving DecidableEq

/-! ## Content addressing -/

/-- A hash as the canonical form writes it: an array of algorithm and digest. -/
def Hash.toValue (h : Hash) : Cbor.Value :=
  .array [.integer h.algorithm.toNat, .bytes h.digest]

/-- An identity as the canonical form writes it: an array of algorithm and public key. -/
def Identity.toValue (i : Identity) : Cbor.Value :=
  .array [.integer i.algorithm.toNat, .bytes i.publicKey]

namespace Descriptor

/-- The CBOR map the content hash is taken over, its keys in the order of RFC 8949 §4.2.1. -/
def canonicalValue (schemaHash : Hash) (topic : String) (payload : List UInt8)
    (publisher : Identity) (timestamp sequence : UInt64) (ttl : UInt32)
    (routingKeys : List Hash) : Cbor.Value :=
  .map [
    (.text "ttl", .integer ttl.toNat),
    (.text "topic", .text topic),
    (.text "payload", .bytes payload),
    (.text "sequence", .integer sequence.toNat),
    (.text "publisher", publisher.toValue),
    (.text "timestamp", .integer timestamp.toNat),
    (.text "schema_hash", schemaHash.toValue),
    (.text "routing_keys", .array (routingKeys.map Hash.toValue))]

/-- The canonical CBOR bytes for content-hashing. -/
def canonicalCborBytes (schemaHash : Hash) (topic : String) (payload : List UInt8)
    (publisher : Identity) (timestamp sequence : UInt64) (ttl : UInt32)
    (routingKeys : List Hash) : List UInt8 :=
  Cbor.encode
    (canonicalValue schemaHash topic payload publisher timestamp sequence ttl routingKeys)

/-- The content hash of a descriptor's fields.  The source's `Result` is always `Ok`. -/
def computeId [Crypto] (schemaHash : Hash) (topic : String) (payload : List UInt8)
    (publisher : Identity) (timestamp sequence : UInt64) (ttl : UInt32)
    (routingKeys : List Hash) : Hash :=
  Hash.blake3
    (canonicalCborBytes schemaHash topic payload publisher timestamp sequence ttl routingKeys)

/-- The canonical bytes of a descriptor's own fields. -/
def canonicalBytes (d : Descriptor) : List UInt8 :=
  canonicalCborBytes d.schemaHash d.topic d.payload d.publisher d.timestamp d.sequence d.ttl
    d.routingKeys

/-- Equality of the hashed fields; only `id` and `signature` may differ. -/
structure SameContent (d e : Descriptor) : Prop where
  schemaHash : d.schemaHash = e.schemaHash
  topic : d.topic = e.topic
  payload : d.payload = e.payload
  publisher : d.publisher = e.publisher
  timestamp : d.timestamp = e.timestamp
  sequence : d.sequence = e.sequence
  ttl : d.ttl = e.ttl
  routingKeys : d.routingKeys = e.routingKeys

end Descriptor

lemma Hash.toValue_injective : Function.Injective Hash.toValue := by
  rintro ⟨a, d⟩ ⟨a', d'⟩ h
  simpa [Hash.toValue, UInt8.toNat_inj] using h

lemma Identity.toValue_injective : Function.Injective Identity.toValue := by
  rintro ⟨a, k⟩ ⟨a', k'⟩ h
  simpa [Identity.toValue, UInt8.toNat_inj] using h

lemma Hash.fits_toValue {h : Hash} (hfit : h.digest.length < 2 ^ 64) : Cbor.Fits h.toValue := by
  have halg := h.algorithm.toNat_lt
  simp only [Hash.toValue, Cbor.Fits, Cbor.FitsAll, List.length_cons, List.length_nil,
    and_true]
  omega

lemma Identity.fits_toValue {i : Identity} (hfit : i.publicKey.length < 2 ^ 64) :
    Cbor.Fits i.toValue := by
  have halg := i.algorithm.toNat_lt
  simp only [Identity.toValue, Cbor.Fits, Cbor.FitsAll, List.length_cons, List.length_nil,
    and_true]
  omega

namespace Descriptor

lemma fits_canonicalValue (d : Descriptor) :
    Cbor.Fits (canonicalValue d.schemaHash d.topic d.payload d.publisher d.timestamp d.sequence
      d.ttl d.routingKeys) := by
  obtain ⟨hschema, htopic, hpayload, hkey, hcount, hrks, -, -⟩ := d.fit
  have hts := d.timestamp.toNat_lt
  have hseq := d.sequence.toNat_lt
  have httl := d.ttl.toNat_lt
  have hkeys : Cbor.FitsAll (d.routingKeys.map Hash.toValue) := by
    rw [Cbor.fitsAll_iff]
    intro v hv
    obtain ⟨rk, hrk, rfl⟩ := List.mem_map.1 hv
    exact Hash.fits_toValue (hrks rk hrk)
  have hnames : ∀ s ∈ ["ttl", "topic", "payload", "sequence", "publisher", "timestamp",
      "schema_hash", "routing_keys"], (utf8Bytes s).length < 2 ^ 64 := by decide
  simp only [List.mem_cons, List.not_mem_nil, or_false, forall_eq_or_imp, forall_eq] at hnames
  simp only [canonicalValue, Cbor.Fits, Cbor.FitsEntries, Cbor.FitsEntry, List.length_cons,
    List.length_nil, List.length_map, hkeys, Hash.fits_toValue hschema,
    Identity.fits_toValue hkey, hnames, and_true, true_and]
  omega

/-- The canonical bytes determine every hashed field. -/
theorem canonicalBytes_inj {d e : Descriptor} (h : d.canonicalBytes = e.canonicalBytes) :
    d.SameContent e := by
  have hvalue := Cbor.encode_injOn (fits_canonicalValue d) (fits_canonicalValue e) h
  simp only [canonicalValue, Cbor.Value.map.injEq, List.cons.injEq, Prod.mk.injEq,
    Cbor.Value.integer.injEq, Cbor.Value.text.injEq, Cbor.Value.bytes.injEq,
    Cbor.Value.array.injEq, true_and, and_true, Int.natCast_inj] at hvalue
  obtain ⟨httl, htopic, hpayload, hseq, hpub, hts, hschema, hrks⟩ := hvalue
  exact
    { schemaHash := Hash.toValue_injective hschema
      topic := htopic
      payload := hpayload
      publisher := Identity.toValue_injective hpub
      timestamp := UInt64.toNat_inj.1 hts
      sequence := UInt64.toNat_inj.1 hseq
      ttl := UInt32.toNat_inj.1 httl
      routingKeys := List.map_injective_iff.2 Hash.toValue_injective hrks }

/-- No two of the given descriptors have different canonical bytes with one BLAKE3 digest. -/
def NoCollision [Crypto] (S : Set Descriptor) : Prop :=
  Set.InjOn Crypto.blake3 (canonicalBytes '' S)

/-! ## Expiry -/

/-- `std::cmp::min` on `u64`. -/
def cmpMin (a b : UInt64) : UInt64 := if a ≤ b then a else b

lemma toNat_cmpMin (a b : UInt64) : (cmpMin a b).toNat = min a.toNat b.toNat := by
  unfold cmpMin
  split_ifs with h <;> rw [UInt64.le_iff_toNat_le] at h <;> omega

/-- The expiry test `effective_start + ttl_micros <= now_micros`, with
`effective_start = min(timestamp, now_micros)`, as `validate`, the reads and the evictions all
make it. -/
def expiredAt (d : Descriptor) (nowMicros : UInt64) : Bool :=
  let effectiveStart := cmpMin d.timestamp nowMicros
  let ttlMicros := d.ttl.toUInt64 * 1000000
  effectiveStart + ttlMicros ≤ nowMicros

lemma expiredAt_iff {d : Descriptor} {now : UInt64} :
    d.expiredAt now = true ↔
      (min d.timestamp.toNat now.toNat + d.ttl.toNat * 1000000) % 2 ^ 64 ≤ now.toNat := by
  have httl : d.ttl.toNat * 1000000 < 2 ^ 64 := by
    have := d.ttl.toNat_lt
    omega
  have hmicros : (1000000 : UInt64).toNat = 1000000 := rfl
  simp only [expiredAt, decide_eq_true_eq, UInt64.le_iff_toNat_le, UInt64.toNat_add,
    toNat_cmpMin, UInt64.toNat_mul, UInt32.toNat_toUInt64, hmicros, Nat.mod_eq_of_lt httl]

/-- A descriptor with a positive lifetime that is expired at some time is expired at every later
time, also where the sum wraps around. -/
theorem expiredAt_mono {d : Descriptor} (httl : d.ttl ≠ 0) {t t' : UInt64} (htt' : t ≤ t')
    (h : d.expiredAt t = true) : d.expiredAt t' = true := by
  rw [expiredAt_iff] at h ⊢
  have hpos : 0 < d.ttl.toNat := by
    rw [Nat.pos_iff_ne_zero]
    intro h0
    exact httl (UInt32.toNat_inj.1 h0)
  have hlt := d.ttl.toNat_lt
  have ht := t.toNat_lt
  have ht' := t'.toNat_lt
  have hts := d.timestamp.toNat_lt
  have hle : t.toNat ≤ t'.toNat := UInt64.le_iff_toNat_le.1 htt'
  omega

/-! ## Validation -/

/-- Steps 1-7 of descriptor validation.  Step 8, the sequence check, is the storage's. -/
def validate [Crypto] (d : Descriptor) (nowMicros : UInt64) : Except MeshError Unit :=
  -- Step 1: recompute the id from the declared fields
  let computedId := computeId d.schemaHash d.topic d.payload d.publisher d.timestamp d.sequence
    d.ttl d.routingKeys
  if computedId ≠ d.id then .error (.idMismatch d.id.toHex computedId.toHex)
  else do
    -- Step 2: verify the signature
    d.publisher.verify d.id.digest d.signature
    -- Step 3: expiry
    if d.expiredAt nowMicros then .error .expired
    -- Step 4: timestamp not too far in the future
    else if d.timestamp > nowMicros + MAX_CLOCK_SKEW_SECS * 1000000 then
      .error (.timestampFuture MAX_CLOCK_SKEW_SECS)
    else if d.ttl < MIN_TTL_SECS ∨ d.ttl > MAX_TTL_SECS then
      .error (.invalidTtl d.ttl MIN_TTL_SECS MAX_TTL_SECS)
    -- Step 5: between one and eight routing keys
    else if d.routingKeys.isEmpty then
      .error (.invalidRoutingKeys "routing_keys must not be empty")
    else if d.routingKeys.length > MAX_ROUTING_KEYS then
      .error (.invalidRoutingKeys ("too many routing keys: " ++ toString d.routingKeys.length ++
        " (max " ++ toString MAX_ROUTING_KEYS ++ ")"))
    -- Step 6: payload size
    else if d.payload.length > MAX_PAYLOAD_SIZE then
      .error (.payloadTooLarge d.payload.length MAX_PAYLOAD_SIZE)
    -- Step 7: topic length
    else if (utf8Bytes d.topic).length > MAX_TOPIC_SIZE then
      .error (.topicTooLong (utf8Bytes d.topic).length MAX_TOPIC_SIZE)
    else .ok ()

/-- The id is the hash of the content, and the publisher signed it. -/
structure Authentic [Crypto] (d : Descriptor) : Prop where
  id_eq : d.id = Hash.blake3 d.canonicalBytes
  verified : d.publisher.verify d.id.digest d.signature = .ok ()

/-- The bounds of `validate` that do not depend on the time. -/
structure InBounds (d : Descriptor) : Prop where
  ttl_ge : MIN_TTL_SECS ≤ d.ttl
  ttl_le : d.ttl ≤ MAX_TTL_SECS
  routingKeys_pos : 1 ≤ d.routingKeys.length
  routingKeys_le : d.routingKeys.length ≤ MAX_ROUTING_KEYS
  payload_le : d.payload.length ≤ MAX_PAYLOAD_SIZE
  topic_le : (utf8Bytes d.topic).length ≤ MAX_TOPIC_SIZE

/-- What `validate` checks at a given time. -/
structure ValidAt [Crypto] (d : Descriptor) (nowMicros : UInt64) : Prop where
  authentic : d.Authentic
  inBounds : d.InBounds
  fresh : d.expiredAt nowMicros = false
  notFuture : d.timestamp ≤ nowMicros + MAX_CLOCK_SKEW_SECS * 1000000

section Crypto

variable [Crypto]

theorem validate_eq_ok_iff {d : Descriptor} {now : UInt64} :
    d.validate now = .ok () ↔ d.ValidAt now := by
  have hid : computeId d.schemaHash d.topic d.payload d.publisher d.timestamp d.sequence d.ttl
      d.routingKeys = d.id ↔ d.id = Hash.blake3 d.canonicalBytes := eq_comm
  have hempty : d.routingKeys.isEmpty = false ↔ 1 ≤ d.routingKeys.length := by
    cases d.routingKeys <;> simp
  simp only [validate, Checks.ite_error_eq_ok, Checks.bind_eq_ok, ne_eq, not_not, hid,
    Bool.not_eq_true, hempty, not_or, not_lt, gt_iff_lt, and_true]
  constructor
  · rintro ⟨hid, _, hver, hfresh, hfuture, ⟨hge, hle⟩, hpos, hkeys, hpayload, htopic⟩
    exact ⟨⟨hid, hver⟩, ⟨UInt32.not_lt.1 hge, UInt32.not_lt.1 hle, hpos, hkeys, hpayload, htopic⟩,
      hfresh, UInt64.not_lt.1 hfuture⟩
  · rintro ⟨⟨hid, hver⟩, ⟨hge, hle, hpos, hkeys, hpayload, htopic⟩, hfresh, hfuture⟩
    exact ⟨hid, (), hver, hfresh, UInt64.not_lt.2 hfuture,
      ⟨UInt32.not_lt.2 hge, UInt32.not_lt.2 hle⟩, hpos, hkeys, hpayload, htopic⟩

lemma ValidAt.ttl_ne_zero {d : Descriptor} {now : UInt64} (h : d.ValidAt now) : d.ttl ≠ 0 := by
  intro h0
  exact absurd (h0 ▸ h.inBounds.ttl_ge) (by decide)

/-- Once a descriptor that was valid at some time is expired, it stays expired. -/
lemma ValidAt.expiredAt_mono {d : Descriptor} {now t t' : UInt64} (h : d.ValidAt now)
    (htt' : t ≤ t') (hexp : d.expiredAt t = true) : d.expiredAt t' = true :=
  Descriptor.expiredAt_mono h.ttl_ne_zero htt' hexp

lemma NoCollision.mono {S T : Set Descriptor} (h : NoCollision T) (hST : S ⊆ T) : NoCollision S :=
  Set.InjOn.mono (Set.image_mono hST) h

/-- Whether a list of descriptors has a collision can be decided. -/
lemma noCollision_of_list {ds : List Descriptor}
    (h : ∀ d ∈ ds, ∀ e ∈ ds, Crypto.blake3 d.canonicalBytes = Crypto.blake3 e.canonicalBytes →
      d.canonicalBytes = e.canonicalBytes) : NoCollision {d | d ∈ ds} := by
  rintro _ ⟨d, hd, rfl⟩ _ ⟨e, he, rfl⟩ heq
  exact h d hd e he heq

/-- Authentic descriptors with one id have one content, when BLAKE3 does not collide on them. -/
theorem NoCollision.sameContent {S : Set Descriptor} (hS : NoCollision S) {d e : Descriptor}
    (hd : d ∈ S) (he : e ∈ S) (hda : d.Authentic) (hea : e.Authentic) (hid : d.id = e.id) :
    d.SameContent e := by
  refine canonicalBytes_inj (hS ⟨d, hd, rfl⟩ ⟨e, he, rfl⟩ ?_)
  rw [← Hash.blake3_eq_iff, ← hda.id_eq, ← hea.id_eq, hid]

end Crypto

end Descriptor

end MeshProtocol
