import MeshProtocol.Core.Descriptor

/-!
# Making descriptors (`mesh-core/src/identity.rs`, `routing.rs`, `descriptor.rs`)

The publisher's side: a keypair, the routing keys of a capability path, and `Descriptor::create`.

`ed25519_dalek::SigningKey` is third-party code.  What a publisher uses of it is its public key and
the signature it makes for a message, which is deterministic.
-/

namespace MeshProtocol

open Bytes

/-- An Ed25519 keypair for signing operations. -/
structure Keypair where
  /-- `verifying_key().to_bytes()`. -/
  verifyingKey : { bytes : List UInt8 // bytes.length = 32 }
  /-- `sign(message).to_bytes()`. -/
  signatureOf : List UInt8 → { bytes : List UInt8 // bytes.length = 64 }

namespace Keypair

/-- The public identity of a keypair. -/
def identity (keypair : Keypair) : Identity := ⟨ALG_ED25519, keypair.verifyingKey.val⟩

/-- Signs a message, returning the signature bytes. -/
def sign (keypair : Keypair) (message : List UInt8) : List UInt8 :=
  (keypair.signatureOf message).val

end Keypair

section Crypto

variable [Crypto]

/-! ## Routing keys of a capability path -/

/-- The routing keys of a capability path and of the paths above it, the broadest first. -/
def hierarchicalRoutingKeys (typePath : String) : List Hash :=
  let parts := typePath.toList.splitOn '/'
  (List.range parts.length).map fun i =>
    routingKey (String.ofList (['/'].intercalate (parts.take (i + 1))))

/-- The last of the routing keys is the path's own. -/
lemma routingKey_mem_hierarchicalRoutingKeys (typePath : String) :
    routingKey typePath ∈ hierarchicalRoutingKeys typePath := by
  have hparts : 0 < (typePath.toList.splitOn '/').length :=
    List.length_pos_iff.2 (List.splitOn_ne_nil _ _)
  refine List.mem_map.2 ⟨(typePath.toList.splitOn '/').length - 1, ?_, ?_⟩
  · exact List.mem_range.2 (by omega)
  · rw [Nat.sub_add_cancel hparts, List.take_length, List.intercalate_splitOn, String.ofList_toList]

/-! ## Signed descriptors -/

namespace Descriptor

/-- Creates a descriptor, computing its id and signing it.  The source's `Result` is always `Ok`;
here the result is `none` for fields that do not fit into an address space. -/
def create (keypair : Keypair) (schemaHash : Hash) (topic : String) (payload : List UInt8)
    (timestamp sequence : UInt64) (ttl : UInt32) (routingKeys : List Hash) : Option Descriptor :=
  let publisher := keypair.identity
  let id := computeId schemaHash topic payload publisher timestamp sequence ttl routingKeys
  let signature := keypair.sign id.digest
  if fit : FieldsFit schemaHash topic payload publisher routingKeys id signature then
    some ⟨schemaHash, topic, payload, publisher, timestamp, sequence, ttl, routingKeys, id,
      signature, fit⟩
  else none

/-- What a created descriptor takes from the arguments of its creation. -/
structure CreatedWith (d : Descriptor) (keypair : Keypair) (schemaHash : Hash) (topic : String)
    (sequence : UInt64) (routingKeys : List Hash) : Prop where
  publisher : d.publisher = keypair.identity
  schemaHash : d.schemaHash = schemaHash
  topic : d.topic = topic
  sequence : d.sequence = sequence
  routingKeys : d.routingKeys = routingKeys

lemma createdWith_of_create {keypair : Keypair} {schemaHash : Hash} {topic : String}
    {payload : List UInt8} {timestamp sequence : UInt64} {ttl : UInt32} {routingKeys : List Hash}
    {d : Descriptor}
    (h : create keypair schemaHash topic payload timestamp sequence ttl routingKeys = some d) :
    d.CreatedWith keypair schemaHash topic sequence routingKeys := by
  obtain ⟨fit, hd⟩ := Option.dite_none_right_eq_some.1 h
  cases hd
  exact ⟨rfl, rfl, rfl, rfl, rfl⟩

end Descriptor

end Crypto

end MeshProtocol
