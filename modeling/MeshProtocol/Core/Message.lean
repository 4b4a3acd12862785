import MeshProtocol.Core.Descriptor

/-!
# Protocol messages (`mesh-core/src/message.rs`)

The four requests, their four answers, and the records they are made of.

The CBOR library `ciborium` is third-party code: what it makes of a byte string is the parameter
`Ciborium`.
-/

namespace MeshProtocol

/-- `ciborium::from_reader` at type `Value`: the parsed item, or the text of the parse error. -/
class Ciborium where
  fromReader : List UInt8 → Except String Cbor.Value

/-- A node's network address. -/
structure NodeAddr where
  protocol : String
  address : String
deriving DecidableEq, Repr

/-- A QUIC node address from an address string. -/
def NodeAddr.quic (address : String) : NodeAddr := ⟨"quic", address⟩

/-- Information about a known node. -/
structure NodeInfo where
  identity : Identity
  addr : NodeAddr
  /-- Last successful contact, in microseconds since the epoch. -/
  lastSeen : UInt64
deriving DecidableEq, Repr

/-- Optional filters for FIND_VALUE requests. -/
structure FilterSet where
  schemaHash : Option Hash
  minTimestamp : Option UInt64
  publisher : Option Identity
deriving DecidableEq, Repr

/-- PING: liveness check. -/
structure Ping where
  sender : Identity
  senderAddr : NodeAddr
deriving DecidableEq, Repr

/-- STORE: store a descriptor. -/
structure Store where
  sender : Identity
  senderAddr : NodeAddr
  descriptor : Descriptor
deriving DecidableEq

/-- FIND_NODE: find nodes closest to a key. -/
structure FindNode where
  sender : Identity
  senderAddr : NodeAddr
  target : Hash
deriving DecidableEq, Repr

/-- FIND_VALUE: find descriptors at a key. -/
structure FindValue where
  sender : Identity
  senderAddr : NodeAddr
  key : Hash
  maxResults : UInt16
  filters : Option FilterSet
deriving DecidableEq, Repr

/-- PONG: liveness confirmation. -/
structure Pong where
  sender : Identity
  senderAddr : NodeAddr
  /-- What the sender's address looks like from the answering side. -/
  observedAddr : NodeAddr
deriving DecidableEq, Repr

/-- STORE_ACK: acknowledge storage. -/
structure StoreAck where
  stored : Bool
  reason : Option String
deriving DecidableEq, Repr

/-- FIND_NODE_RESULT: the closest nodes. -/
structure FindNodeResult where
  nodes : List NodeInfo
deriving DecidableEq, Repr

/-- FIND_VALUE_RESULT: descriptors or closer nodes. -/
structure FindValueResult where
  descriptors : Option (List Descriptor)
  nodes : Option (List NodeInfo)
deriving DecidableEq

/-- A request message, as a node decodes it from a frame. -/
inductive Request where
  | ping (ping : Ping)
  | store (store : Store)
  | findNode (findNode : FindNode)
  | findValue (findValue : FindValue)
deriving DecidableEq

/-- The identity a request claims to come from. -/
def Request.sender : Request → Identity
  | .ping p => p.sender
  | .store s => s.sender
  | .findNode f => f.sender
  | .findValue f => f.sender

/-- The address a request claims to come from. -/
def Request.senderAddr : Request → NodeAddr
  | .ping p => p.senderAddr
  | .store s => s.senderAddr
  | .findNode f => f.senderAddr
  | .findValue f => f.senderAddr

/-- An answer to a request. -/
inductive Response where
  | pong (pong : Pong)
  | storeAck (ack : StoreAck)
  | findNodeResult (result : FindNodeResult)
  | findValueResult (result : FindValueResult)
deriving DecidableEq

/-- The tests every read makes for the filters of a request, field by field. -/
def FilterSet.admits (f : FilterSet) (d : Descriptor) : Bool :=
  f.schemaHash.all (fun sh => d.schemaHash = sh) &&
    f.minTimestamp.all (fun minTs => !decide (d.timestamp < minTs)) &&
    f.publisher.all (fun pubId => d.publisher = pubId)

/-- A read without filters lets every descriptor pass. -/
def admitted (filters : Option FilterSet) (d : Descriptor) : Bool := filters.all (·.admits d)

@[simp] lemma admitted_none (d : Descriptor) : admitted none d = true := rfl

end MeshProtocol
