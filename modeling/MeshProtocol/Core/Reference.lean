import MeshProtocol.Core.Message

/-!
# Reference instances

`Crypto` is a parameter of the model.  To run the model on concrete messages one needs concrete
values, and for finitely many messages a table of BLAKE3 digests and of valid Ed25519 signatures is
enough: on the messages of its table `tableCrypto` answers what the real functions answer.
Base58 is short enough to be written out.  `ciborium` is represented by the decoder of the CBOR
library, which reads the items this model writes.
-/

namespace MeshProtocol

open Bytes

/-- The digest with the given big-endian value. -/
def digestOf (n : ℕ) : Digest := ⟨beBytes 32 n, length_beBytes 32 n⟩

/-- The base58 alphabet of Bitcoin. -/
def base58Alphabet : List Char :=
  "123456789ABCDEFGHJKLMNPQRSTUVWXYZabcdefghijkmnopqrstuvwxyz".toList

/-- The base58 digits of a number, most significant first; each step takes one unit of fuel. -/
def base58Digits : ℕ → ℕ → List Char
  | 0, _ => []
  | _ + 1, 0 => []
  | fuel + 1, n => base58Digits fuel (n / 58) ++ [base58Alphabet.getD (n % 58) '1']

/-- Base58: a `1` for each leading zero byte, then the digits of the rest. -/
def base58Encode (bytes : List UInt8) : String :=
  let zeros := (bytes.takeWhile (· = 0)).length
  String.ofList (List.replicate zeros '1' ++ base58Digits (2 * bytes.length) (beNat bytes))

/-- Cryptography on the messages of a table: BLAKE3 digests of byte strings, and Ed25519 signatures
with their public keys and messages. -/
@[reducible] def tableCrypto (digests : List (List UInt8 × Digest))
    (signatures : List (List UInt8 × List UInt8 × List UInt8)) : Crypto where
  blake3 data := (digests.lookup data).getD (digestOf 0)
  ed25519Verify publicKey message signature :=
    signatures.contains (publicKey, message, signature)
  base58 := base58Encode

example : base58Encode (0x01 :: beBytes 32
    0x8a88e3dd7409f195fd52db2d3cba5d72ca6709bf1d94121bf3748801b40f6f5c) =
      "TZ6hZA8FqG1H8PDWqZw5P82o2zWooN8rZwdyTFiLwPoR" := by decide +kernel

/-- `ciborium` on the items this model writes. -/
@[reducible] def referenceCiborium : Ciborium where
  fromReader bytes :=
    match Cbor.fromBytes bytes with
    | some value => .ok value
    | none => .error "Syntax(0)"

/-! ## Concrete values -/

/-- A BLAKE3 hash with the given digest. -/
def hashOf (n : ℕ) : Hash := ⟨ALG_BLAKE3, (digestOf n).val⟩

def capabilitySchema : Hash :=
  hashOf 0xbd40bb81f07d1e149cc709b581a4c52af445f6a203d7ab32e284a0b3ffcfb330

def revocationSchema : Hash :=
  hashOf 0x459b5ecfb3c4a059771b319b694713a0f131345bc4cff0ff1346405982f95026

def keyRotationSchema : Hash :=
  hashOf 0x0d8f83c9ac5e4afcb7b02ae364ad9c391348fecb1f7aa8df0d3d749ff290ce6c

/-- The routing key of `compute`. -/
def computeKey : Hash :=
  hashOf 0x5f018ea0521ff05d0e18d582690642872ebed45afcd93eb82515dba44dc30547

/-- The routing key of `infrastructure/hub`. -/
def hubKey : Hash :=
  hashOf 0x9aa87e5ac141cb2739522d9a62ee704d5798304cc935e8af33956f4e0e3b307e

/-- The identity with the secret key `0101…01`. -/
def firstPublisher : Identity :=
  ⟨ALG_ED25519, beBytes 32 0x8a88e3dd7409f195fd52db2d3cba5d72ca6709bf1d94121bf3748801b40f6f5c⟩

/-- The identity with the secret key `0202…02`. -/
def secondPublisher : Identity :=
  ⟨ALG_ED25519, beBytes 32 0x8139770ea87d175f56a35466c34c7ecccb8d8a91b4ee37a25df60f5b8fc9b394⟩

/-- The identity with the secret key `0303…03`. -/
def thirdPublisher : Identity :=
  ⟨ALG_ED25519, beBytes 32 0xed4928c628d1c2c6eae90338905995612959273a5c63f93636c14614ac8737d1⟩

/-- The slot bytes that the disk-backed store hashes, for the empty topic. -/
def slotBytes (publisher : Identity) (schema : Hash) : List UInt8 :=
  identityBytes publisher ++ hashBytes schema

/-- The digests of schema names, a routing key, slots and public keys. -/
def knownDigests : List (List UInt8 × ℕ) := [
  (utf8Bytes "mesh:schema:core/capability", beNat capabilitySchema.digest),
  (utf8Bytes "mesh:schema:core/revocation", beNat revocationSchema.digest),
  (utf8Bytes "mesh:schema:core/key-rotation", beNat keyRotationSchema.digest),
  (utf8Bytes "mesh:route:infrastructure/hub", beNat hubKey.digest),
  (slotBytes firstPublisher capabilitySchema,
    0x641cb0a0d1429d941f434e502f30de7883feeb7e0e58a9d72484ce8dd9f3e3ca),
  (slotBytes secondPublisher capabilitySchema,
    0x86d416496017f1f90738acd76e2102d42ed621a78c30f01f1c1d998be60bacc0),
  (slotBytes secondPublisher revocationSchema,
    0x9fc9c41ed4d2aff7b29cacf20ef08bd6d262dc04a40328528944815b0889bb44),
  (slotBytes thirdPublisher capabilitySchema,
    0x566fd451a14568c6d6c0ea1243938af0b946b14bbc04de19e57aca2b3fa31f3b),
  (firstPublisher.publicKey,
    0x83561adb398fd87f8e7ed8331bff2fcb945733cc3012879cb9fab07928667062),
  (secondPublisher.publicKey,
    0x1eed29b1654fbca94617004d7969dfc4652b1f30a7a8b771c34800155483380b),
  (thirdPublisher.publicKey,
    0x9c380d6efec2ec39321d87d0424fea838f752a84b097c7131dff67cdff291ef1)]

/-- The table of the given genuine descriptors: each has its id as its digest, and its signature is
valid. -/
@[reducible] def cryptoOf (ds : List Descriptor) : Crypto :=
  tableCrypto
    ((knownDigests ++ ds.map fun d => (d.canonicalBytes, beNat d.id.digest)).map
      fun (bytes, digest) => (bytes, digestOf digest))
    (ds.map fun d => (d.publisher.publicKey, d.id.digest, d.signature))

/-- A capability of the second publisher. -/
def target : Descriptor where
  schemaHash := capabilitySchema
  topic := ""
  payload := []
  publisher := secondPublisher
  timestamp := 1700000000000000
  sequence := 1
  ttl := 3600
  routingKeys := [computeKey]
  id := hashOf 0x022a8cf64fba098fcc7c41bc49f9b17f26f46d8938df4a0391ae41e26978266e
  signature := beBytes 64
    0x2fa9ac61e6deb11d6381632602be5f5e93ddb61f2574e724bcc57e1f86642d3f71b17db13dea59c41928f227db90a7b39620cbbd84a9b83760349bcb74f08f0b

/-- The next version of `target`, at another routing key. -/
def moved : Descriptor where
  schemaHash := capabilitySchema
  topic := ""
  payload := []
  publisher := secondPublisher
  timestamp := 1700000000000000
  sequence := 2
  ttl := 3600
  routingKeys := [hubKey]
  id := hashOf 0xfd542a10cc134f053e847716512c27698f776155ac1a36d7e61e1366a89f28cd
  signature := beBytes 64
    0xb388d7b16dc30362b9b845111f9e093d4a54b374623f46a521d8e937078adbe5830efd2c5bb521e5b9c80ab7774fe56479387824ec99460b864a87c6be53950f

/-- The payload of a revocation of `target`. -/
def revocationPayload : List UInt8 :=
  Cbor.encode (.map [(.text "target_id", .bytes (hashBytes target.id))])

/-- The revocation of `target` by its publisher. -/
def ownRevocation : Descriptor where
  schemaHash := revocationSchema
  topic := ""
  payload := revocationPayload
  publisher := secondPublisher
  timestamp := 1700000000000000
  sequence := 1
  ttl := 3600
  routingKeys := [computeKey]
  id := hashOf 0xafd363c1688c99484110b67679d84d0c02bff7ec3d1e3fc91f8661ee93907448
  signature := beBytes 64
    0x99a394384129415891d3a6457cb268cfe1746d1e5ffd1271a0a680bc094629c319111713dd239316c34d8b8521146aff73bc23845c0f9a5d6e18ff557e79950a

end MeshProtocol
