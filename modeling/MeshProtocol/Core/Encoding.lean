import MeshProtocol.Core.Frame
import MeshProtocol.Core.Message
import MeshProtocol.Core.Wire
import MeshProtocol.Library.CborLength

/-!
# The wire form of messages (`mesh-core/src/message.rs`)

What `to_cbor` writes for each message: a struct is a map from field names to values, and an
optional field that is `None` is left out.  The bytes an answer takes are counted by the lengths of
its texts and byte vectors.

What `from_cbor` makes of the body of a request is the parameter `RequestCodec`; `wireRequests`
reads what is written here.
-/

namespace MeshProtocol

open Cbor

namespace Wire

/-! ## Writing -/

def nodeAddr (a : NodeAddr) : Value :=
  .map [(.text "protocol", .text a.protocol), (.text "address", .text a.address)]

def nodeInfo (n : NodeInfo) : Value :=
  .map [(.text "identity", identity n.identity), (.text "addr", nodeAddr n.addr),
    (.text "last_seen", .integer n.lastSeen.toNat)]

/-- A field with `skip_serializing_if = "Option::is_none"`. -/
def optional {α : Type} (name : String) (write : α → Value) : Option α → List (Value × Value)
  | none => []
  | some a => [(.text name, write a)]

def filterSet (f : FilterSet) : Value :=
  .map (optional "schema_hash" hash f.schemaHash ++
    optional "min_timestamp" (fun t : UInt64 => .integer t.toNat) f.minTimestamp ++
    optional "publisher" identity f.publisher)

def ping (p : Ping) : Value :=
  .map [(.text "sender", identity p.sender), (.text "sender_addr", nodeAddr p.senderAddr)]

def store (s : Store) : Value :=
  .map [(.text "sender", identity s.sender), (.text "sender_addr", nodeAddr s.senderAddr),
    (.text "descriptor", descriptor s.descriptor)]

def findNode (f : FindNode) : Value :=
  .map [(.text "sender", identity f.sender), (.text "sender_addr", nodeAddr f.senderAddr),
    (.text "target", hash f.target)]

def findValue (f : FindValue) : Value :=
  .map ([(.text "sender", identity f.sender), (.text "sender_addr", nodeAddr f.senderAddr),
    (.text "key", hash f.key), (.text "max_results", .integer f.maxResults.toNat)] ++
    optional "filters" filterSet f.filters)

def pong (p : Pong) : Value :=
  .map [(.text "sender", identity p.sender), (.text "sender_addr", nodeAddr p.senderAddr),
    (.text "observed_addr", nodeAddr p.observedAddr)]

def storeAck (a : StoreAck) : Value :=
  .map ((.text "stored", .bool a.stored) :: optional "reason" .text a.reason)

def findNodeResult (r : FindNodeResult) : Value :=
  .map [(.text "nodes", .array (r.nodes.map nodeInfo))]

def findValueResult (r : FindValueResult) : Value :=
  .map (optional "descriptors" (fun ds => .array (ds.map descriptor)) r.descriptors ++
    optional "nodes" (fun ns => .array (ns.map nodeInfo)) r.nodes)

/-! ## Reading requests -/

def readU16 (v : Value) : Option UInt16 := (v.asNat (2 ^ 16)).map UInt16.ofNat

def readNodeAddr (v : Value) : Option NodeAddr := do
  let entries ← v.asMap
  let protocol ← findField entries "protocol" Value.asText
  let address ← findField entries "address" Value.asText
  return ⟨protocol, address⟩

/-- An optional field may be absent, and then it is `None`. -/
def readOptional {α : Type} (entries : List (Value × Value)) (name : String)
    (read : Value → Option α) : Option (Option α) :=
  if entries.any fun (k, _) => k.asText = some name then (findField entries name read).map some
  else some none

def readFilterSet (v : Value) : Option FilterSet := do
  let entries ← v.asMap
  let schemaHash ← readOptional entries "schema_hash" readHash
  let minTimestamp ← readOptional entries "min_timestamp" readU64
  let publisher ← readOptional entries "publisher" readIdentity
  return ⟨schemaHash, minTimestamp, publisher⟩

def readPing (v : Value) : Option Ping := do
  let entries ← v.asMap
  let sender ← findField entries "sender" readIdentity
  let senderAddr ← findField entries "sender_addr" readNodeAddr
  return ⟨sender, senderAddr⟩

def readStore (v : Value) : Option Store := do
  let entries ← v.asMap
  let sender ← findField entries "sender" readIdentity
  let senderAddr ← findField entries "sender_addr" readNodeAddr
  let d ← findField entries "descriptor" readDescriptor
  return ⟨sender, senderAddr, d⟩

def readFindNode (v : Value) : Option FindNode := do
  let entries ← v.asMap
  let sender ← findField entries "sender" readIdentity
  let senderAddr ← findField entries "sender_addr" readNodeAddr
  let target ← findField entries "target" readHash
  return ⟨sender, senderAddr, target⟩

def readFindValue (v : Value) : Option FindValue := do
  let entries ← v.asMap
  let sender ← findField entries "sender" readIdentity
  let senderAddr ← findField entries "sender_addr" readNodeAddr
  let key ← findField entries "key" readHash
  let maxResults ← findField entries "max_results" readU16
  let filters ← readOptional entries "filters" readFilterSet
  return ⟨sender, senderAddr, key, maxResults, filters⟩

lemma readNodeAddr_nodeAddr (a : NodeAddr) : readNodeAddr (nodeAddr a) = some a := by
  simp [readNodeAddr, nodeAddr, Value.asMap, findField, Value.asText]

lemma readPing_ping (p : Ping) : readPing (ping p) = some p := by
  simp [readPing, ping, Value.asMap, findField, Value.asText, readIdentity_identity,
    readNodeAddr_nodeAddr]

lemma readStore_store (s : Store) : readStore (store s) = some s := by
  simp [readStore, store, Value.asMap, findField, Value.asText, readIdentity_identity,
    readNodeAddr_nodeAddr, readDescriptor_descriptor]

lemma readFindNode_findNode (f : FindNode) : readFindNode (findNode f) = some f := by
  simp [readFindNode, findNode, Value.asMap, findField, Value.asText, readIdentity_identity,
    readNodeAddr_nodeAddr, readHash_hash]

/-- None of the entries has the given key. -/
def Lacks (entries : List (Value × Value)) (name : String) : Prop :=
  ∀ e ∈ entries, e.1.asText ≠ some name

lemma lacks_optional {α : Type} {key name : String} (h : key ≠ name) (write : α → Value)
    (o : Option α) : Lacks (optional key write o) name := by
  intro e he
  cases o with
  | none => cases he
  | some a =>
    obtain rfl := List.mem_singleton.1 he
    simpa [Value.asText] using h

lemma Lacks.append {l l' : List (Value × Value)} {name : String} (h : Lacks l name)
    (h' : Lacks l' name) : Lacks (l ++ l') name := by
  intro e he
  rcases List.mem_append.1 he with hl | hl'
  · exact h e hl
  · exact h' e hl'

lemma findField_of_lacks {α : Type} {entries : List (Value × Value)} {name : String}
    (h : Lacks entries name) (rest : List (Value × Value)) (read : Value → Option α) :
    findField (entries ++ rest) name read = findField rest name read := by
  induction entries with
  | nil => rfl
  | cons e entries ih =>
    obtain ⟨hkey, hothers⟩ := List.forall_mem_cons.1 h
    obtain ⟨k, v⟩ := e
    have hskip : (if k.asText = some name then read v else none) = none := if_neg hkey
    rw [← ih hothers, List.cons_append, findField, List.findSome?_cons]
    simp only [hskip]
    rfl

/-- An optional field is read back among others. -/
lemma readOptional_optional {α : Type} {name : String} {write : α → Value}
    {read : Value → Option α} (hread : ∀ a, read (write a) = some a)
    {before after : List (Value × Value)} (hbefore : Lacks before name) (hafter : Lacks after name)
    (o : Option α) :
    readOptional (before ++ (optional name write o ++ after)) name read = some o := by
  cases o with
  | none =>
    have hnone : (before ++ (optional name write none ++ after)).any
        (fun (k, _) => k.asText = some name) = false := by
      rw [List.any_eq_false]
      intro e he
      simpa using hbefore.append hafter e he
    rw [readOptional, hnone]
    rfl
  | some a =>
    have hsome : (before ++ (optional name write (some a) ++ after)).any
        (fun (k, _) => k.asText = some name) = true := by
      rw [List.any_eq_true]
      exact ⟨(.text name, write a), by simp [optional], by simp [Value.asText]⟩
    rw [readOptional, if_pos hsome, findField_of_lacks hbefore]
    exact congrArg (Option.map some) (findField_self (hread a) after)

lemma readFilterSet_filterSet (f : FilterSet) : readFilterSet (filterSet f) = some f := by
  let schema := optional "schema_hash" hash f.schemaHash
  let timestamp := optional "min_timestamp" (fun t : UInt64 => .integer t.toNat) f.minTimestamp
  let publisher := optional "publisher" identity f.publisher
  have hschema : readOptional (schema ++ (timestamp ++ publisher)) "schema_hash" readHash =
      some f.schemaHash :=
    readOptional_optional readHash_hash (List.forall_mem_nil _)
      ((lacks_optional (by decide) _ _).append (lacks_optional (by decide) _ _)) f.schemaHash
  have htimestamp : readOptional (schema ++ (timestamp ++ publisher)) "min_timestamp" readU64 =
      some f.minTimestamp :=
    readOptional_optional readU64_integer (lacks_optional (by decide) _ _)
      (lacks_optional (by decide) _ _) f.minTimestamp
  have hpublisher : readOptional (schema ++ (timestamp ++ publisher)) "publisher" readIdentity =
      some f.publisher := by
    have hbefore : Lacks (schema ++ timestamp) "publisher" :=
      (lacks_optional (by decide) _ _).append (lacks_optional (by decide) _ _)
    have h := readOptional_optional readIdentity_identity hbefore
      (List.forall_mem_nil _) f.publisher
    rwa [List.append_nil, List.append_assoc] at h
  rw [readFilterSet, filterSet, List.append_assoc]
  simp only [Value.asMap, Option.bind_eq_bind, Option.bind_some, schema, timestamp, publisher] at *
  rw [hschema, htimestamp, hpublisher]
  rfl

lemma readU16_integer (n : UInt16) : readU16 (.integer n.toNat) = some n := by
  have hlt : n.toNat < 2 ^ 16 := n.toNat_lt
  have hread : Value.asNat (2 ^ 16) (.integer n.toNat) = some n.toNat := Value.asNat_integer hlt
  unfold readU16
  rw [hread, Option.map_some, UInt16.ofNat_toNat]

lemma readFindValue_findValue (f : FindValue) : readFindValue (findValue f) = some f := by
  obtain ⟨sender, senderAddr, key, maxResults, filters⟩ := f
  cases filters <;>
    simp [readFindValue, findValue, optional, readOptional, Value.asMap, findField, Value.asText,
      readIdentity_identity, readNodeAddr_nodeAddr, readHash_hash, readU16_integer,
      readFilterSet_filterSet]

/-! ## Requests fit -/

/-- The texts of an address are shorter than the address space. -/
def AddrFits (a : NodeAddr) : Prop :=
  (Bytes.utf8Bytes a.protocol).length < 2 ^ 64 ∧ (Bytes.utf8Bytes a.address).length < 2 ^ 64

lemma fits_nodeAddr {a : NodeAddr} (h : AddrFits a) : Fits (nodeAddr a) := by
  obtain ⟨hprotocol, haddress⟩ := h
  have hnames : ∀ s ∈ ["protocol", "address"], (Bytes.utf8Bytes s).length < 2 ^ 64 := by decide
  simp only [List.mem_cons, List.not_mem_nil, or_false, forall_eq_or_imp, forall_eq] at hnames
  simp only [nodeAddr, Fits, FitsEntries, FitsEntry, List.length_cons, List.length_nil, hprotocol,
    haddress, hnames, and_true]
  decide

lemma fits_ping {p : Ping} (hkey : p.sender.publicKey.length < 2 ^ 64)
    (haddr : AddrFits p.senderAddr) : Fits (ping p) := by
  have hnames : ∀ s ∈ ["sender", "sender_addr"], (Bytes.utf8Bytes s).length < 2 ^ 64 := by decide
  simp only [List.mem_cons, List.not_mem_nil, or_false, forall_eq_or_imp, forall_eq] at hnames
  simp only [ping, Fits, FitsEntries, FitsEntry, List.length_cons, List.length_nil,
    fits_identity hkey, fits_nodeAddr haddr, hnames, and_true]
  decide

lemma fits_findNode {f : FindNode} (hkey : f.sender.publicKey.length < 2 ^ 64)
    (haddr : AddrFits f.senderAddr) (htarget : f.target.digest.length < 2 ^ 64) :
    Fits (findNode f) := by
  have hnames : ∀ s ∈ ["sender", "sender_addr", "target"], (Bytes.utf8Bytes s).length < 2 ^ 64 := by
    decide
  simp only [List.mem_cons, List.not_mem_nil, or_false, forall_eq_or_imp, forall_eq] at hnames
  simp only [findNode, Fits, FitsEntries, FitsEntry, List.length_cons, List.length_nil,
    fits_identity hkey, fits_nodeAddr haddr, fits_hash htarget, hnames, and_true]
  decide

end Wire

/-! ## Bodies -/

/-- `from_cbor` at the types of the requests. -/
class RequestCodec where
  ping : List UInt8 → Option Ping
  store : List UInt8 → Option Store
  findNode : List UInt8 → Option FindNode
  findValue : List UInt8 → Option FindValue

/-- The reader of the requests that are written here. -/
@[reducible] def wireRequests : RequestCodec where
  ping body := (fromBytes body).bind Wire.readPing
  store body := (fromBytes body).bind Wire.readStore
  findNode body := (fromBytes body).bind Wire.readFindNode
  findValue body := (fromBytes body).bind Wire.readFindValue

/-- The request in a frame, decoded as the message of its type. -/
def decodeRequest [RequestCodec] (frame : Frame) : Option Request :=
  if frame.msgType = MSG_PING then (RequestCodec.ping frame.body).map .ping
  else if frame.msgType = MSG_STORE then (RequestCodec.store frame.body).map .store
  else if frame.msgType = MSG_FIND_NODE then (RequestCodec.findNode frame.body).map .findNode
  else if frame.msgType = MSG_FIND_VALUE then (RequestCodec.findValue frame.body).map .findValue
  else none

lemma decodeRequest_ping [RequestCodec] (msgId : Vector UInt8 16) (body : List UInt8) :
    decodeRequest (.new MSG_PING msgId body) = (RequestCodec.ping body).map .ping := rfl

lemma decodeRequest_findNode [RequestCodec] (msgId : Vector UInt8 16) (body : List UInt8) :
    decodeRequest (.new MSG_FIND_NODE msgId body) =
      (RequestCodec.findNode body).map .findNode := rfl

lemma wireRequests_ping {p : Ping} (h : Fits (Wire.ping p)) :
    wireRequests.ping (encode (Wire.ping p)) = some p := by
  change (fromBytes (encode (Wire.ping p))).bind Wire.readPing = some p
  rw [fromBytes_encode h, Option.bind_some, Wire.readPing_ping]

lemma wireRequests_findNode {f : FindNode} (h : Fits (Wire.findNode f)) :
    wireRequests.findNode (encode (Wire.findNode f)) = some f := by
  change (fromBytes (encode (Wire.findNode f))).bind Wire.readFindNode = some f
  rw [fromBytes_encode h, Option.bind_some, Wire.readFindNode_findNode]

namespace Response

/-- The type of the frame of an answer. -/
def msgType : Response → UInt8
  | .pong _ => MSG_PONG
  | .storeAck _ => MSG_STORE_ACK
  | .findNodeResult _ => MSG_FIND_NODE_RESULT
  | .findValueResult _ => MSG_FIND_VALUE_RESULT

/-- `to_cbor` of an answer. -/
def toCbor : Response → List UInt8
  | .pong p => encode (Wire.pong p)
  | .storeAck a => encode (Wire.storeAck a)
  | .findNodeResult r => encode (Wire.findNodeResult r)
  | .findValueResult r => encode (Wire.findValueResult r)

end Response

/-! ## How long they are -/

/-- The encoded length of a byte vector: each byte is an integer of its own. -/
def bytesLength (bs : List UInt8) : ℕ :=
  headLength bs.length + (bs.map fun b => headLength b.toNat).sum

def Hash.encodedLength (h : Hash) : ℕ :=
  18 + headLength h.algorithm.toNat + bytesLength h.digest

def Identity.encodedLength (i : Identity) : ℕ :=
  22 + headLength i.algorithm.toNat + bytesLength i.publicKey

def NodeAddr.encodedLength (a : NodeAddr) : ℕ :=
  18 + textLength a.protocol + textLength a.address

def NodeInfo.encodedLength (n : NodeInfo) : ℕ :=
  25 + n.identity.encodedLength + n.addr.encodedLength + headLength n.lastSeen.toNat

def Descriptor.encodedLength (d : Descriptor) : ℕ :=
  86 + d.schemaHash.encodedLength + textLength d.topic + bytesLength d.payload +
    d.publisher.encodedLength + headLength d.timestamp.toNat + headLength d.sequence.toNat +
    headLength d.ttl.toNat + headLength d.routingKeys.length +
    (d.routingKeys.map Hash.encodedLength).sum + d.id.encodedLength + bytesLength d.signature

namespace Wire

lemma length_bytes (bs : List UInt8) : (encode (bytes bs)).length = bytesLength bs := by
  have hbyte : ∀ b : UInt8, (encode (.integer b.toNat)).length = headLength b.toNat := fun b =>
    length_encode_natCast b.toNat
  exact length_encode_array hbyte bs

lemma length_hash (h : Hash) : (encode (hash h)).length = h.encodedLength := by
  have hnames : textLength "algorithm" = 10 ∧ textLength "digest" = 7 := by decide
  simp [hash, tagged, length_bytes, hnames, headLength_of_lt, Hash.encodedLength]
  omega

lemma length_identity (i : Identity) : (encode (identity i)).length = i.encodedLength := by
  have hnames : textLength "algorithm" = 10 ∧ textLength "public_key" = 11 := by decide
  simp [identity, tagged, length_bytes, hnames, headLength_of_lt, Identity.encodedLength]
  omega

lemma length_nodeAddr (a : NodeAddr) : (encode (nodeAddr a)).length = a.encodedLength := by
  have hnames : textLength "protocol" = 9 ∧ textLength "address" = 8 := by decide
  simp [nodeAddr, hnames, headLength_of_lt, NodeAddr.encodedLength]
  omega

lemma length_nodeInfo (n : NodeInfo) : (encode (nodeInfo n)).length = n.encodedLength := by
  have hnames :
      textLength "identity" = 9 ∧ textLength "addr" = 5 ∧ textLength "last_seen" = 10 := by
    decide
  simp [nodeInfo, hnames, length_identity, length_nodeAddr, headLength_of_lt,
    NodeInfo.encodedLength]
  omega

lemma length_descriptor (d : Descriptor) : (encode (descriptor d)).length = d.encodedLength := by
  have hnames : textLength "schema_hash" = 12 ∧ textLength "topic" = 6 ∧ textLength "payload" = 8 ∧
      textLength "publisher" = 10 ∧ textLength "timestamp" = 10 ∧ textLength "sequence" = 9 ∧
      textLength "ttl" = 4 ∧ textLength "routing_keys" = 13 ∧ textLength "id" = 3 ∧
      textLength "signature" = 10 := by decide
  have hkeys := length_encode_array length_hash d.routingKeys
  simp [descriptor, descriptorFields, hnames, length_hash, length_identity, length_bytes, hkeys,
    headLength_of_lt, Descriptor.encodedLength]
  omega

lemma length_ping (p : Ping) :
    (encode (ping p)).length = 20 + p.sender.encodedLength + p.senderAddr.encodedLength := by
  have hnames : textLength "sender" = 7 ∧ textLength "sender_addr" = 12 := by decide
  simp [ping, hnames, length_identity, length_nodeAddr, headLength_of_lt]
  omega

lemma length_findNode (f : FindNode) :
    (encode (findNode f)).length = 27 + f.sender.encodedLength + f.senderAddr.encodedLength +
      f.target.encodedLength := by
  have hnames : textLength "sender" = 7 ∧ textLength "sender_addr" = 12 ∧
      textLength "target" = 7 := by decide
  simp [findNode, hnames, length_identity, length_nodeAddr, length_hash, headLength_of_lt]
  omega

lemma length_pong (p : Pong) :
    (encode (pong p)).length = 34 + p.sender.encodedLength + p.senderAddr.encodedLength +
      p.observedAddr.encodedLength := by
  have hnames : textLength "sender" = 7 ∧ textLength "sender_addr" = 12 ∧
      textLength "observed_addr" = 14 := by decide
  simp [pong, hnames, length_identity, length_nodeAddr, headLength_of_lt]
  omega

/-- The acknowledgement of a refused store. -/
lemma length_storeAck_refused (reason : String) :
    (encode (storeAck ⟨false, some reason⟩)).length = 16 + textLength reason := by
  have hnames : textLength "stored" = 7 ∧ textLength "reason" = 7 := by decide
  simp [storeAck, optional, hnames, headLength_of_lt]
  omega

lemma length_findNodeResult (nodes : List NodeInfo) :
    (encode (findNodeResult ⟨nodes⟩)).length =
      7 + headLength nodes.length + (nodes.map NodeInfo.encodedLength).sum := by
  have hname : textLength "nodes" = 6 := by decide
  have hnodes := length_encode_array length_nodeInfo nodes
  simp [findNodeResult, hname, hnodes, headLength_of_lt]
  omega

lemma length_findValueResult_nodes (nodes : List NodeInfo) :
    (encode (findValueResult ⟨none, some nodes⟩)).length =
      7 + headLength nodes.length + (nodes.map NodeInfo.encodedLength).sum :=
  length_findNodeResult nodes

lemma length_findValueResult_descriptors (ds : List Descriptor) :
    (encode (findValueResult ⟨some ds, none⟩)).length =
      13 + headLength ds.length + (ds.map Descriptor.encodedLength).sum := by
  have hname : textLength "descriptors" = 12 := by decide
  have hds := length_encode_array length_descriptor ds
  simp [findValueResult, optional, hname, hds, headLength_of_lt]
  omega

end Wire

end MeshProtocol
