import MeshProtocol.Library.Bytes
import MeshProtocol.Library.KeyOrder

/-!
# Hashes and identities (`mesh-core/src/hash.rs`, `identity.rs`)

A hash is an algorithm byte followed by digest bytes; an identity is an algorithm byte followed by
public-key bytes.  Neither struct ties the length of the bytes to the algorithm, and both are
decoded from the wire as they come, so the model leaves the length free too.

BLAKE3, Ed25519 and base58 are third-party code.  They enter as the operations of `Crypto`; the
one thing fixed here is what their types fix, that a BLAKE3 digest has 32 bytes.  Where a result
needs BLAKE3 not to collide, it says so about the byte strings of the run at hand.
-/

namespace MeshProtocol

open Bytes Std

/-! ## Third-party cryptography -/

/-- The output of BLAKE3: 32 bytes. -/
abbrev Digest := { bytes : List UInt8 // bytes.length = 32 }

/-- The cryptographic operations the crates import. -/
class Crypto where
  /-- `blake3::hash`. -/
  blake3 : List UInt8 → Digest
  /-- Whether a 32-byte Ed25519 key parses and verifies a 64-byte signature over a message. -/
  ed25519Verify : (publicKey message signature : List UInt8) → Bool
  /-- `bs58::encode(bytes).into_string()`. -/
  base58 : List UInt8 → String

/-! ## `hash.rs` -/

/-- Algorithm ID for BLAKE3. -/
def ALG_BLAKE3 : UInt8 := 0x03

/-- A hash value: algorithm tag and digest bytes. -/
structure Hash where
  algorithm : UInt8
  digest : List UInt8
deriving DecidableEq, Repr

/-- The two lowercase hex digits of a byte. -/
def hexByte (b : UInt8) : List Char :=
  [Nat.digitChar (b.toNat / 16), Nat.digitChar (b.toNat % 16)]

/-- `hex::encode`. -/
def hexEncode (bytes : List UInt8) : String := String.ofList (bytes.flatMap hexByte)

namespace Hash

variable [Crypto]

/-- The BLAKE3 hash of the given bytes. -/
def blake3 (data : List UInt8) : Hash := ⟨ALG_BLAKE3, (Crypto.blake3 data).val⟩

/-- The hex-encoded digest. -/
def toHex (h : Hash) : String := hexEncode h.digest

@[simp] lemma blake3_algorithm (data : List UInt8) : (blake3 data).algorithm = ALG_BLAKE3 := rfl

@[simp] lemma length_blake3_digest (data : List UInt8) : (blake3 data).digest.length = 32 :=
  (Crypto.blake3 data).property

lemma blake3_eq_iff {a b : List UInt8} :
    blake3 a = blake3 b ↔ Crypto.blake3 a = Crypto.blake3 b := by
  simp [blake3, Subtype.ext_iff]

end Hash

/-- `hash_bytes`: the algorithm byte followed by the digest. -/
def hashBytes (h : Hash) : List UInt8 := h.algorithm :: h.digest

lemma hashBytes_injective : Function.Injective hashBytes := by
  rintro ⟨a, d⟩ ⟨a', d'⟩ h
  simpa [hashBytes] using h

@[simp] lemma hashBytes_inj {h k : Hash} : hashBytes h = hashBytes k ↔ h = k :=
  hashBytes_injective.eq_iff

instance : Ord Hash := ⟨compareOn hashBytes⟩

instance : TransOrd Hash := inferInstanceAs (TransCmp (compareOn hashBytes))

instance : LawfulEqOrd Hash := KeyOrder.lawfulEqCmp_compareOn hashBytes_injective

/-- `schema_hash`: the hash `BLAKE3("mesh:schema:<name>")` of a well-known schema. -/
def schemaHash [Crypto] (name : String) : Hash := Hash.blake3 (utf8Bytes ("mesh:schema:" ++ name))

/-- `routing_key`: the DHT key `BLAKE3("mesh:route:<type>")` of a capability type (`routing.rs`). -/
def routingKey [Crypto] (typeString : String) : Hash :=
  Hash.blake3 (utf8Bytes ("mesh:route:" ++ typeString))

/-! ## `identity.rs` -/

/-- Algorithm ID for Ed25519 signatures. -/
def ALG_ED25519 : UInt8 := 0x01

/-- A public identity: algorithm tag and public key bytes. -/
structure Identity where
  algorithm : UInt8
  publicKey : List UInt8
deriving DecidableEq, Repr

/-- `identity_bytes`: the algorithm byte followed by the public key. -/
def identityBytes (i : Identity) : List UInt8 := i.algorithm :: i.publicKey

lemma identityBytes_injective : Function.Injective identityBytes := by
  rintro ⟨a, k⟩ ⟨a', k'⟩ h
  simpa [identityBytes] using h

@[simp] lemma identityBytes_inj {i j : Identity} : identityBytes i = identityBytes j ↔ i = j :=
  identityBytes_injective.eq_iff

instance : Ord Identity := ⟨compareOn identityBytes⟩

instance : TransOrd Identity := inferInstanceAs (TransCmp (compareOn identityBytes))

instance : LawfulEqOrd Identity := KeyOrder.lawfulEqCmp_compareOn identityBytes_injective

/-- Errors of the `mesh-core` operations modelled here (`error.rs`). -/
inductive MeshError where
  | idMismatch (expected actual : String)
  | invalidSignature
  | expired
  | timestampFuture (maxSkewSecs : UInt64)
  | invalidRoutingKeys (reason : String)
  | payloadTooLarge (size max : ℕ)
  | topicTooLong (size max : ℕ)
  | invalidTtl (ttl min max : UInt32)
  | unknownAlgorithm (algorithm : UInt8)
deriving DecidableEq, Repr

/-- The `#[error(...)]` texts. -/
def MeshError.message : MeshError → String
  | .idMismatch expected actual =>
    "descriptor id mismatch: expected " ++ expected ++ ", got " ++ actual
  | .invalidSignature => "invalid signature"
  | .expired => "descriptor expired"
  | .timestampFuture maxSkewSecs =>
    "descriptor timestamp too far in future (>" ++ toString maxSkewSecs ++ "s ahead)"
  | .invalidRoutingKeys reason => "invalid routing keys: " ++ reason
  | .payloadTooLarge size max =>
    "payload too large: " ++ toString size ++ " bytes (max " ++ toString max ++ ")"
  | .topicTooLong size max =>
    "topic too long: " ++ toString size ++ " bytes (max " ++ toString max ++ ")"
  | .invalidTtl ttl min max =>
    "invalid ttl: " ++ toString ttl ++ "s (must be " ++ toString min ++ "-" ++ toString max ++ "s)"
  | .unknownAlgorithm algorithm =>
    "unknown signature algorithm: 0x" ++ hexEncode [algorithm]

namespace Identity

variable [Crypto]

/-- The DID of an identity: `did:mesh:z<base58btc(algorithm || public key)>`. -/
def did (i : Identity) : String := "did:mesh:z" ++ Crypto.base58 (identityBytes i)

/-- Verifies a signature over a message with this identity's public key. -/
def verify (i : Identity) (message signature : List UInt8) : Except MeshError Unit :=
  if i.algorithm = ALG_ED25519 then
    if i.publicKey.length ≠ 32 then .error .invalidSignature
    else if signature.length ≠ 64 then .error .invalidSignature
    else if Crypto.ed25519Verify i.publicKey message signature then .ok ()
    else .error .invalidSignature
  else .error (.unknownAlgorithm i.algorithm)

/-- The DHT node ID of an identity: `BLAKE3(public_key)`. -/
def nodeId (i : Identity) : Hash := Hash.blake3 i.publicKey

lemma verify_eq_ok_iff {i : Identity} {message signature : List UInt8} :
    i.verify message signature = .ok () ↔
      i.algorithm = ALG_ED25519 ∧ i.publicKey.length = 32 ∧ signature.length = 64 ∧
        Crypto.ed25519Verify i.publicKey message signature = true := by
  unfold verify
  split_ifs <;> simp_all

@[simp] lemma length_nodeId_digest (i : Identity) : i.nodeId.digest.length = 32 :=
  Hash.length_blake3_digest _

end Identity

end MeshProtocol
