import MeshProtocol.Core.Descriptor

/-!
# The wire form of descriptors

`to_cbor` and `from_cbor` go through `serde` and `ciborium`, which are third-party code.  The model
takes them as a codec that reads back what it writes (`DescriptorCodec`).  The codec that the
derived implementations give is written out as `wireCodec`: a struct is a map from field names to
values, and a byte vector is an array of integers.
-/

namespace MeshProtocol

open Bytes

/-- `to_cbor` and `from_cbor` at type `Descriptor`, which read back what they write. -/
class DescriptorCodec where
  toCbor : Descriptor → List UInt8
  fromCbor : List UInt8 → Option Descriptor
  fromCbor_toCbor : ∀ d, fromCbor (toCbor d) = some d

namespace Wire

/-! ## Writing -/

/-- A byte vector: an array of integers. -/
def bytes (bs : List UInt8) : Cbor.Value := .array (bs.map fun b => .integer b.toNat)

/-- A tagged byte vector, as both hashes and identities are. -/
def tagged (bytesField : String) (algorithm : UInt8) (bs : List UInt8) : Cbor.Value :=
  .map [(.text "algorithm", .integer algorithm.toNat), (.text bytesField, bytes bs)]

def hash (h : Hash) : Cbor.Value := tagged "digest" h.algorithm h.digest

def identity (i : Identity) : Cbor.Value := tagged "public_key" i.algorithm i.publicKey

/-- The fields of a descriptor, under their names. -/
def descriptorFields (d : Descriptor) : List (Cbor.Value × Cbor.Value) :=
  [ (.text "schema_hash", hash d.schemaHash),
    (.text "topic", .text d.topic),
    (.text "payload", bytes d.payload),
    (.text "publisher", identity d.publisher),
    (.text "timestamp", .integer d.timestamp.toNat),
    (.text "sequence", .integer d.sequence.toNat),
    (.text "ttl", .integer d.ttl.toNat),
    (.text "routing_keys", .array (d.routingKeys.map hash)),
    (.text "id", hash d.id),
    (.text "signature", bytes d.signature)]

def descriptor (d : Descriptor) : Cbor.Value := .map (descriptorFields d)

/-! ## Reading -/

def readU8 (v : Cbor.Value) : Option UInt8 := (v.asNat (2 ^ 8)).map UInt8.ofNat

def readU32 (v : Cbor.Value) : Option UInt32 := (v.asNat (2 ^ 32)).map UInt32.ofNat

def readU64 (v : Cbor.Value) : Option UInt64 := (v.asNat (2 ^ 64)).map UInt64.ofNat

def readBytes (v : Cbor.Value) : Option (List UInt8) := v.asArray.bind (·.mapM readU8)

def readTagged {α : Type} (bytesField : String) (make : UInt8 → List UInt8 → α) (v : Cbor.Value) :
    Option α := do
  let entries ← v.asMap
  let algorithm ← Cbor.findField entries "algorithm" readU8
  let bs ← Cbor.findField entries bytesField readBytes
  return make algorithm bs

def readHash : Cbor.Value → Option Hash := readTagged "digest" Hash.mk

def readIdentity : Cbor.Value → Option Identity := readTagged "public_key" Identity.mk

def readDescriptor (v : Cbor.Value) : Option Descriptor :=
  v.asMap.bind fun entries =>
  (Cbor.findField entries "schema_hash" readHash).bind fun schemaHash =>
  (Cbor.findField entries "topic" Cbor.Value.asText).bind fun topic =>
  (Cbor.findField entries "payload" readBytes).bind fun payload =>
  (Cbor.findField entries "publisher" readIdentity).bind fun publisher =>
  (Cbor.findField entries "timestamp" readU64).bind fun timestamp =>
  (Cbor.findField entries "sequence" readU64).bind fun sequence =>
  (Cbor.findField entries "ttl" readU32).bind fun ttl =>
  (Cbor.findField entries "routing_keys" fun v => v.asArray.bind (·.mapM readHash)).bind
    fun routingKeys =>
  (Cbor.findField entries "id" readHash).bind fun id =>
  (Cbor.findField entries "signature" readBytes).bind fun signature =>
    if fit : FieldsFit schemaHash topic payload publisher routingKeys id signature then
      some ⟨schemaHash, topic, payload, publisher, timestamp, sequence, ttl, routingKeys, id,
        signature, fit⟩
    else none

/-! ## Reading back what was written -/

lemma readU8_integer (b : UInt8) : readU8 (.integer b.toNat) = some b := by
  rw [readU8, Cbor.Value.asNat_integer b.toNat_lt, Option.map_some, UInt8.ofNat_toNat]

lemma readU32_integer (n : UInt32) : readU32 (.integer n.toNat) = some n := by
  rw [readU32, Cbor.Value.asNat_integer n.toNat_lt, Option.map_some, UInt32.ofNat_toNat]

lemma readU64_integer (n : UInt64) : readU64 (.integer n.toNat) = some n := by
  rw [readU64, Cbor.Value.asNat_integer n.toNat_lt, Option.map_some, UInt64.ofNat_toNat]

/-- Reading a list of items that were written one by one. -/
lemma mapM_map {α : Type} {write : α → Cbor.Value} {read : Cbor.Value → Option α}
    (h : ∀ a, read (write a) = some a) (as : List α) : (as.map write).mapM read = some as := by
  induction as with
  | nil => rfl
  | cons a as ih => simp [h, ih]

lemma readBytes_bytes (bs : List UInt8) : readBytes (bytes bs) = some bs :=
  mapM_map readU8_integer bs

lemma readTagged_tagged {α : Type} {bytesField : String} (hfield : "algorithm" ≠ bytesField)
    (make : UInt8 → List UInt8 → α) (algorithm : UInt8) (bs : List UInt8) :
    readTagged bytesField make (tagged bytesField algorithm bs) = some (make algorithm bs) := by
  simp only [readTagged, tagged, Cbor.Value.asMap, Option.bind_eq_bind, Option.bind_some,
    Cbor.findField_self (readU8_integer algorithm), Cbor.findField_of_ne hfield,
    Cbor.findField_self (readBytes_bytes bs), pure]

lemma readHash_hash (h : Hash) : readHash (hash h) = some h :=
  readTagged_tagged (by decide) Hash.mk _ _

lemma readIdentity_identity (i : Identity) : readIdentity (identity i) = some i :=
  readTagged_tagged (by decide) Identity.mk _ _

theorem readDescriptor_descriptor (d : Descriptor) : readDescriptor (descriptor d) = some d := by
  have hkeys := mapM_map readHash_hash d.routingKeys
  have hschema :
      Cbor.findField (descriptorFields d) "schema_hash" readHash = some d.schemaHash := by
    simp [Cbor.findField, descriptorFields, Cbor.Value.asText, readHash_hash]
  have htopic : Cbor.findField (descriptorFields d) "topic" Cbor.Value.asText = some d.topic := by
    simp [Cbor.findField, descriptorFields, Cbor.Value.asText]
  have hpayload : Cbor.findField (descriptorFields d) "payload" readBytes = some d.payload := by
    simp [Cbor.findField, descriptorFields, Cbor.Value.asText, readBytes_bytes]
  have hpublisher : Cbor.findField (descriptorFields d) "publisher" readIdentity =
      some d.publisher := by
    simp [Cbor.findField, descriptorFields, Cbor.Value.asText, readIdentity_identity]
  have htimestamp : Cbor.findField (descriptorFields d) "timestamp" readU64 = some d.timestamp := by
    simp [Cbor.findField, descriptorFields, Cbor.Value.asText, readU64_integer]
  have hsequence : Cbor.findField (descriptorFields d) "sequence" readU64 = some d.sequence := by
    simp [Cbor.findField, descriptorFields, Cbor.Value.asText, readU64_integer]
  have httl : Cbor.findField (descriptorFields d) "ttl" readU32 = some d.ttl := by
    simp [Cbor.findField, descriptorFields, Cbor.Value.asText, readU32_integer]
  have hroutingKeys : Cbor.findField (descriptorFields d) "routing_keys"
      (fun v => v.asArray.bind (·.mapM readHash)) = some d.routingKeys := by
    simp [Cbor.findField, descriptorFields, Cbor.Value.asText, Cbor.Value.asArray, hkeys]
  have hid : Cbor.findField (descriptorFields d) "id" readHash = some d.id := by
    simp [Cbor.findField, descriptorFields, Cbor.Value.asText, readHash_hash]
  have hsignature : Cbor.findField (descriptorFields d) "signature" readBytes =
      some d.signature := by
    simp [Cbor.findField, descriptorFields, Cbor.Value.asText, readBytes_bytes]
  unfold readDescriptor
  rw [descriptor, Cbor.Value.asMap, Option.bind_some, hschema, Option.bind_some, htopic,
    Option.bind_some, hpayload,
    Option.bind_some, hpublisher, Option.bind_some, htimestamp, Option.bind_some, hsequence,
    Option.bind_some, httl, Option.bind_some, hroutingKeys, Option.bind_some, hid,
    Option.bind_some, hsignature, Option.bind_some]
  exact dif_pos d.fit

/-! ## The written items fit -/

lemma fits_bytes {bs : List UInt8} (h : bs.length < 2 ^ 64) : Cbor.Fits (bytes bs) := by
  refine ⟨by simpa using h, Cbor.fitsAll_iff.2 ?_⟩
  intro v hv
  obtain ⟨b, -, rfl⟩ := List.mem_map.1 hv
  have hb := b.toNat_lt
  simp only [Cbor.Fits]
  omega

lemma fits_tagged {bytesField : String} (hfield : (utf8Bytes bytesField).length < 2 ^ 64)
    (algorithm : UInt8) {bs : List UInt8} (h : bs.length < 2 ^ 64) :
    Cbor.Fits (tagged bytesField algorithm bs) := by
  have halg := algorithm.toNat_lt
  have hname : (utf8Bytes "algorithm").length < 2 ^ 64 := by decide
  simp only [tagged, Cbor.Fits, Cbor.FitsEntries, Cbor.FitsEntry, List.length_cons,
    List.length_nil, fits_bytes h, hname, hfield, and_true, true_and]
  omega

lemma fits_hash {h : Hash} (hfit : h.digest.length < 2 ^ 64) : Cbor.Fits (hash h) :=
  fits_tagged (by decide) _ hfit

lemma fits_identity {i : Identity} (hfit : i.publicKey.length < 2 ^ 64) : Cbor.Fits (identity i) :=
  fits_tagged (by decide) _ hfit

theorem fits_descriptor (d : Descriptor) : Cbor.Fits (descriptor d) := by
  obtain ⟨hschema, htopic, hpayload, hkey, hcount, hrks, hid, hsig⟩ := d.fit
  have hts := d.timestamp.toNat_lt
  have hseq := d.sequence.toNat_lt
  have httl := d.ttl.toNat_lt
  have hkeys : Cbor.FitsAll (d.routingKeys.map hash) := by
    rw [Cbor.fitsAll_iff]
    intro v hv
    obtain ⟨rk, hrk, rfl⟩ := List.mem_map.1 hv
    exact fits_hash (hrks rk hrk)
  have hnames : ∀ s ∈ ["schema_hash", "topic", "payload", "publisher", "timestamp", "sequence",
      "ttl", "routing_keys", "id", "signature"], (utf8Bytes s).length < 2 ^ 64 := by decide
  simp only [List.mem_cons, List.not_mem_nil, or_false, forall_eq_or_imp, forall_eq] at hnames
  simp only [descriptor, descriptorFields, Cbor.Fits, Cbor.FitsEntries, Cbor.FitsEntry,
    List.length_cons,
    List.length_nil, List.length_map, hkeys, fits_hash hschema, fits_identity hkey, fits_hash hid,
    fits_bytes hpayload, fits_bytes hsig, hnames, and_true, true_and]
  omega

end Wire

/-- The codec of the derived implementations. -/
@[reducible] def wireCodec : DescriptorCodec where
  toCbor d := Cbor.encode (Wire.descriptor d)
  fromCbor bytes := (Cbor.fromBytes bytes).bind Wire.readDescriptor
  fromCbor_toCbor d := by
    rw [Cbor.fromBytes_encode (Wire.fits_descriptor d), Option.bind_some,
      Wire.readDescriptor_descriptor]

end MeshProtocol
