import MeshProtocol.Core.Encoding
import MeshProtocol.Library.CborPrefix

/-!
# Reading messages back (`mesh-core/src/message.rs`)

What `from_cbor` makes of the body of an answer is the parameter `ResponseCodec`, as it is
`RequestCodec` for a request.  `LawfulCodecs` is what the code relies on in both: a message is read
back from what was written for it, and no message is read from a part of that.  The codecs of the
derived implementations are lawful.
-/

namespace MeshProtocol

open Cbor

namespace Wire

/-! ## Reading answers -/

def readBool : Value → Option Bool
  | .bool b => some b
  | _ => none

def readList {α : Type} (read : Value → Option α) (v : Value) : Option (List α) :=
  v.asArray.bind (·.mapM read)

def readNodeInfo (v : Value) : Option NodeInfo := do
  let entries ← v.asMap
  let identity ← findField entries "identity" readIdentity
  let addr ← findField entries "addr" readNodeAddr
  let lastSeen ← findField entries "last_seen" readU64
  return ⟨identity, addr, lastSeen⟩

def readPong (v : Value) : Option Pong := do
  let entries ← v.asMap
  let sender ← findField entries "sender" readIdentity
  let senderAddr ← findField entries "sender_addr" readNodeAddr
  let observedAddr ← findField entries "observed_addr" readNodeAddr
  return ⟨sender, senderAddr, observedAddr⟩

def readStoreAck (v : Value) : Option StoreAck := do
  let entries ← v.asMap
  let stored ← findField entries "stored" readBool
  let reason ← readOptional entries "reason" Value.asText
  return ⟨stored, reason⟩

def readFindNodeResult (v : Value) : Option FindNodeResult := do
  let entries ← v.asMap
  let nodes ← findField entries "nodes" (readList readNodeInfo)
  return ⟨nodes⟩

def readFindValueResult (v : Value) : Option FindValueResult := do
  let entries ← v.asMap
  let descriptors ← readOptional entries "descriptors" (readList readDescriptor)
  let nodes ← readOptional entries "nodes" (readList readNodeInfo)
  return ⟨descriptors, nodes⟩

lemma readList_array {α : Type} {write : α → Value} {read : Value → Option α}
    (h : ∀ a, read (write a) = some a) (as : List α) :
    readList read (.array (as.map write)) = some as := mapM_map h as

lemma readNodeInfo_nodeInfo (n : NodeInfo) : readNodeInfo (nodeInfo n) = some n := by
  simp [readNodeInfo, nodeInfo, Value.asMap, findField, Value.asText, readIdentity_identity,
    readNodeAddr_nodeAddr, readU64_integer]

lemma readPong_pong (p : Pong) : readPong (pong p) = some p := by
  simp [readPong, pong, Value.asMap, findField, Value.asText, readIdentity_identity,
    readNodeAddr_nodeAddr]

lemma readStoreAck_storeAck (a : StoreAck) : readStoreAck (storeAck a) = some a := by
  have hreason : readOptional ((.text "stored", .bool a.stored) :: optional "reason" .text a.reason)
      "reason" Value.asText = some a.reason := by
    have hbefore : Lacks [(.text "stored", .bool a.stored)] "reason" := by
      intro e he
      obtain rfl := List.mem_singleton.1 he
      simp [Value.asText]
    have htext : ∀ t, Value.asText (Value.text t) = some t := fun _ => rfl
    have h := readOptional_optional htext hbefore (List.forall_mem_nil _) a.reason
    rwa [List.append_nil] at h
  have hbool : readBool (.bool a.stored) = some a.stored := rfl
  have hstored : findField ((.text "stored", .bool a.stored) :: optional "reason" .text a.reason)
      "stored" readBool = some a.stored := findField_self hbool _
  simp only [readStoreAck, storeAck, Value.asMap, Option.bind_eq_bind, Option.bind_some, hstored,
    hreason]
  rfl

lemma readFindNodeResult_findNodeResult (r : FindNodeResult) :
    readFindNodeResult (findNodeResult r) = some r := by
  have hnodes : findField [(.text "nodes", .array (r.nodes.map nodeInfo))] "nodes"
      (readList readNodeInfo) = some r.nodes :=
    findField_self (readList_array readNodeInfo_nodeInfo r.nodes) []
  simp only [readFindNodeResult, findNodeResult, Value.asMap, Option.bind_eq_bind,
    Option.bind_some, hnodes]
  rfl

lemma readFindValueResult_findValueResult (r : FindValueResult) :
    readFindValueResult (findValueResult r) = some r := by
  let descriptors := optional "descriptors" (fun ds => .array (ds.map descriptor)) r.descriptors
  let nodes := optional "nodes" (fun ns => .array (ns.map nodeInfo)) r.nodes
  have hdescriptors : readOptional (descriptors ++ nodes) "descriptors" (readList readDescriptor) =
      some r.descriptors :=
    readOptional_optional (readList_array readDescriptor_descriptor) (List.forall_mem_nil _)
      (lacks_optional (by decide) _ _) r.descriptors
  have hnodes : readOptional (descriptors ++ nodes) "nodes" (readList readNodeInfo) =
      some r.nodes := by
    have hbefore : Lacks descriptors "nodes" := lacks_optional (by decide) _ _
    have h := readOptional_optional (readList_array readNodeInfo_nodeInfo) hbefore
      (List.forall_mem_nil _) r.nodes
    rwa [List.append_nil] at h
  rw [readFindValueResult, findValueResult]
  simp only [Value.asMap, Option.bind_eq_bind, Option.bind_some, descriptors, nodes] at *
  rw [hdescriptors, hnodes]
  rfl

/-! ## The integers of messages fit -/

lemma numbersFit_natCast {n bound : ℕ} (h : n < bound) (hbound : bound ≤ 2 ^ 64) :
    NumbersFit (.integer n) := by
  show -2 ^ 64 ≤ (n : ℤ) ∧ (n : ℤ) < 2 ^ 64
  omega

lemma numbersFit_u64 (n : UInt64) : NumbersFit (.integer n.toNat) :=
  numbersFit_natCast n.toNat_lt le_rfl

lemma numbersFit_array {α : Type} {write : α → Value} (h : ∀ a, NumbersFit (write a))
    (as : List α) : NumbersFit (.array (as.map write)) := by
  apply numbersFitAll_iff.2
  intro v hv
  obtain ⟨a, -, rfl⟩ := List.mem_map.1 hv
  exact h a

lemma numbersFit_optional {α : Type} {name : String} {write : α → Value}
    (h : ∀ a, NumbersFit (write a)) (o : Option α) :
    NumbersFitEntries (optional name write o) := by
  cases o with
  | none => trivial
  | some a => exact ⟨⟨trivial, h a⟩, trivial⟩

lemma numbersFit_bytes (bs : List UInt8) : NumbersFit (bytes bs) :=
  numbersFit_array (fun b => numbersFit_natCast b.toNat_lt (by decide)) bs

lemma numbersFit_tagged (bytesField : String) (algorithm : UInt8) (bs : List UInt8) :
    NumbersFit (tagged bytesField algorithm bs) :=
  ⟨⟨trivial, numbersFit_natCast algorithm.toNat_lt (by decide)⟩,
    ⟨trivial, numbersFit_bytes bs⟩, trivial⟩

lemma numbersFit_hash (h : Hash) : NumbersFit (hash h) := numbersFit_tagged _ _ _

lemma numbersFit_identity (i : Identity) : NumbersFit (identity i) := numbersFit_tagged _ _ _

lemma numbersFit_nodeAddr (a : NodeAddr) : NumbersFit (nodeAddr a) :=
  ⟨⟨trivial, trivial⟩, ⟨trivial, trivial⟩, trivial⟩

lemma numbersFit_nodeInfo (n : NodeInfo) : NumbersFit (nodeInfo n) :=
  ⟨⟨trivial, numbersFit_identity _⟩, ⟨trivial, numbersFit_nodeAddr _⟩,
    ⟨trivial, numbersFit_u64 _⟩, trivial⟩

lemma numbersFit_descriptor (d : Descriptor) : NumbersFit (descriptor d) :=
  ⟨⟨trivial, numbersFit_hash _⟩, ⟨trivial, trivial⟩, ⟨trivial, numbersFit_bytes _⟩,
    ⟨trivial, numbersFit_identity _⟩, ⟨trivial, numbersFit_u64 _⟩, ⟨trivial, numbersFit_u64 _⟩,
    ⟨trivial, numbersFit_natCast d.ttl.toNat_lt (by decide)⟩,
    ⟨trivial, numbersFit_array numbersFit_hash _⟩, ⟨trivial, numbersFit_hash _⟩,
    ⟨trivial, numbersFit_bytes _⟩, trivial⟩

lemma numbersFit_filterSet (f : FilterSet) : NumbersFit (filterSet f) :=
  numbersFitEntries_append.2 ⟨numbersFitEntries_append.2
    ⟨numbersFit_optional numbersFit_hash _, numbersFit_optional numbersFit_u64 _⟩,
    numbersFit_optional numbersFit_identity _⟩

lemma numbersFit_ping (p : Ping) : NumbersFit (ping p) :=
  ⟨⟨trivial, numbersFit_identity _⟩, ⟨trivial, numbersFit_nodeAddr _⟩, trivial⟩

lemma numbersFit_store (s : Store) : NumbersFit (store s) :=
  ⟨⟨trivial, numbersFit_identity _⟩, ⟨trivial, numbersFit_nodeAddr _⟩,
    ⟨trivial, numbersFit_descriptor _⟩, trivial⟩

lemma numbersFit_findNode (f : FindNode) : NumbersFit (findNode f) :=
  ⟨⟨trivial, numbersFit_identity _⟩, ⟨trivial, numbersFit_nodeAddr _⟩,
    ⟨trivial, numbersFit_hash _⟩, trivial⟩

lemma numbersFit_findValue (f : FindValue) : NumbersFit (findValue f) :=
  numbersFitEntries_append.2 ⟨⟨⟨trivial, numbersFit_identity _⟩, ⟨trivial, numbersFit_nodeAddr _⟩,
    ⟨trivial, numbersFit_hash _⟩,
    ⟨trivial, numbersFit_natCast f.maxResults.toNat_lt (by decide)⟩, trivial⟩,
    numbersFit_optional numbersFit_filterSet _⟩

lemma numbersFit_pong (p : Pong) : NumbersFit (pong p) :=
  ⟨⟨trivial, numbersFit_identity _⟩, ⟨trivial, numbersFit_nodeAddr _⟩,
    ⟨trivial, numbersFit_nodeAddr _⟩, trivial⟩

lemma numbersFit_storeAck (a : StoreAck) : NumbersFit (storeAck a) :=
  have htext : ∀ t, NumbersFit (.text t) := fun _ => trivial
  ⟨⟨trivial, trivial⟩, numbersFit_optional htext _⟩

lemma numbersFit_findNodeResult (r : FindNodeResult) : NumbersFit (findNodeResult r) :=
  ⟨⟨trivial, numbersFit_array numbersFit_nodeInfo _⟩, trivial⟩

lemma numbersFit_findValueResult (r : FindValueResult) : NumbersFit (findValueResult r) :=
  numbersFitEntries_append.2 ⟨numbersFit_optional (numbersFit_array numbersFit_descriptor) _,
    numbersFit_optional (numbersFit_array numbersFit_nodeInfo) _⟩

end Wire

/-! ## Codecs -/

/-- `from_cbor` at the types of the answers. -/
class ResponseCodec where
  pong : List UInt8 → Option Pong
  storeAck : List UInt8 → Option StoreAck
  findNodeResult : List UInt8 → Option FindNodeResult
  findValueResult : List UInt8 → Option FindValueResult

/-- The reader of the answers that are written in `Wire`. -/
@[reducible] def wireResponses : ResponseCodec where
  pong body := (fromBytes body).bind Wire.readPong
  storeAck body := (fromBytes body).bind Wire.readStoreAck
  findNodeResult body := (fromBytes body).bind Wire.readFindNodeResult
  findValueResult body := (fromBytes body).bind Wire.readFindValueResult

/-- The answer in a frame, decoded as the message of its type. -/
def decodeResponse [ResponseCodec] (frame : Frame) : Option Response :=
  if frame.msgType = MSG_PONG then (ResponseCodec.pong frame.body).map .pong
  else if frame.msgType = MSG_STORE_ACK then (ResponseCodec.storeAck frame.body).map .storeAck
  else if frame.msgType = MSG_FIND_NODE_RESULT then
    (ResponseCodec.findNodeResult frame.body).map .findNodeResult
  else if frame.msgType = MSG_FIND_VALUE_RESULT then
    (ResponseCodec.findValueResult frame.body).map .findValueResult
  else none

namespace Request

/-- The type of the frame of a request. -/
def msgType : Request → UInt8
  | .ping _ => MSG_PING
  | .store _ => MSG_STORE
  | .findNode _ => MSG_FIND_NODE
  | .findValue _ => MSG_FIND_VALUE

/-- `to_cbor` of a request. -/
def toCbor : Request → List UInt8
  | .ping p => encode (Wire.ping p)
  | .store s => encode (Wire.store s)
  | .findNode f => encode (Wire.findNode f)
  | .findValue f => encode (Wire.findValue f)

end Request

/-- A message is read back from what was written for it, and none is read from a part of that.  No
encoding takes up the address space. -/
structure ReadsBack {α : Type} (write : α → Value) (read : List UInt8 → Option α) : Prop where
  whole : ∀ a, (encode (write a)).length < 2 ^ 64 → read (encode (write a)) = some a
  part : ∀ a, (encode (write a)).length < 2 ^ 64 → ∀ front rest,
    encode (write a) = front ++ rest → rest ≠ [] → read front = none

/-- What the code relies on in `serde` and `ciborium`. -/
class LawfulCodecs [RequestCodec] [ResponseCodec] : Prop where
  ping : ReadsBack Wire.ping RequestCodec.ping
  store : ReadsBack Wire.store RequestCodec.store
  findNode : ReadsBack Wire.findNode RequestCodec.findNode
  findValue : ReadsBack Wire.findValue RequestCodec.findValue
  pong : ReadsBack Wire.pong ResponseCodec.pong
  storeAck : ReadsBack Wire.storeAck ResponseCodec.storeAck
  findNodeResult : ReadsBack Wire.findNodeResult ResponseCodec.findNodeResult
  findValueResult : ReadsBack Wire.findValueResult ResponseCodec.findValueResult

/-- A reader of whole items is one. -/
lemma readsBack_fromBytes {α : Type} {write : α → Value} {read : Value → Option α}
    (hread : ∀ a, read (write a) = some a) (hnumbers : ∀ a, NumbersFit (write a)) :
    ReadsBack write fun body => (fromBytes body).bind read where
  whole a hlen := by
    rw [fromBytes_encode (fits_of_length _ (hnumbers a) hlen), Option.bind_some, hread]
  part a hlen front rest hparts hrest := by
    rw [fromBytes_cut (fits_of_length _ (hnumbers a) hlen) hparts hrest]
    rfl

/-- The codecs of the derived implementations are lawful. -/
lemma lawful_wire :
    letI : RequestCodec := wireRequests
    letI : ResponseCodec := wireResponses
    LawfulCodecs :=
  letI : RequestCodec := wireRequests
  letI : ResponseCodec := wireResponses
  { ping := readsBack_fromBytes Wire.readPing_ping Wire.numbersFit_ping
    store := readsBack_fromBytes Wire.readStore_store Wire.numbersFit_store
    findNode := readsBack_fromBytes Wire.readFindNode_findNode Wire.numbersFit_findNode
    findValue := readsBack_fromBytes Wire.readFindValue_findValue Wire.numbersFit_findValue
    pong := readsBack_fromBytes Wire.readPong_pong Wire.numbersFit_pong
    storeAck := readsBack_fromBytes Wire.readStoreAck_storeAck Wire.numbersFit_storeAck
    findNodeResult := readsBack_fromBytes Wire.readFindNodeResult_findNodeResult
      Wire.numbersFit_findNodeResult
    findValueResult := readsBack_fromBytes Wire.readFindValueResult_findValueResult
      Wire.numbersFit_findValueResult }

/-! ## Reading frames -/

variable [RequestCodec] [ResponseCodec] [LawfulCodecs]

namespace Request

/-- A request is read back from its frame. -/
lemma decode_whole (r : Request) (hlen : r.toCbor.length < 2 ^ 64) {frame : Frame}
    (htype : frame.msgType = r.msgType) (hbody : frame.body = r.toCbor) :
    decodeRequest frame = some r := by
  rw [decodeRequest, htype, hbody]
  cases r with
  | ping p => exact congrArg (Option.map _) (LawfulCodecs.ping.whole p hlen)
  | store s => exact congrArg (Option.map _) (LawfulCodecs.store.whole s hlen)
  | findNode f => exact congrArg (Option.map _) (LawfulCodecs.findNode.whole f hlen)
  | findValue f => exact congrArg (Option.map _) (LawfulCodecs.findValue.whole f hlen)

/-- No request is read from a part of its body. -/
lemma decode_part (r : Request) (hlen : r.toCbor.length < 2 ^ 64) {frame : Frame}
    (htype : frame.msgType = r.msgType) {rest : List UInt8} (hbody : r.toCbor = frame.body ++ rest)
    (hrest : rest ≠ []) : decodeRequest frame = none := by
  rw [decodeRequest, htype]
  cases r with
  | ping p => exact congrArg (Option.map _) (LawfulCodecs.ping.part p hlen _ _ hbody hrest)
  | store s => exact congrArg (Option.map _) (LawfulCodecs.store.part s hlen _ _ hbody hrest)
  | findNode f => exact congrArg (Option.map _) (LawfulCodecs.findNode.part f hlen _ _ hbody hrest)
  | findValue f =>
    exact congrArg (Option.map _) (LawfulCodecs.findValue.part f hlen _ _ hbody hrest)

end Request

namespace Response

/-- An answer is read back from its frame. -/
lemma decode_whole (r : Response) (hlen : r.toCbor.length < 2 ^ 64) {frame : Frame}
    (htype : frame.msgType = r.msgType) (hbody : frame.body = r.toCbor) :
    decodeResponse frame = some r := by
  rw [decodeResponse, htype, hbody]
  cases r with
  | pong p => exact congrArg (Option.map _) (LawfulCodecs.pong.whole p hlen)
  | storeAck a => exact congrArg (Option.map _) (LawfulCodecs.storeAck.whole a hlen)
  | findNodeResult r => exact congrArg (Option.map _) (LawfulCodecs.findNodeResult.whole r hlen)
  | findValueResult r =>
    exact congrArg (Option.map _) (LawfulCodecs.findValueResult.whole r hlen)

/-- No answer is read from a part of its body. -/
lemma decode_part (r : Response) (hlen : r.toCbor.length < 2 ^ 64) {frame : Frame}
    (htype : frame.msgType = r.msgType) {rest : List UInt8} (hbody : r.toCbor = frame.body ++ rest)
    (hrest : rest ≠ []) : decodeResponse frame = none := by
  rw [decodeResponse, htype]
  cases r with
  | pong p => exact congrArg (Option.map _) (LawfulCodecs.pong.part p hlen _ _ hbody hrest)
  | storeAck a => exact congrArg (Option.map _) (LawfulCodecs.storeAck.part a hlen _ _ hbody hrest)
  | findNodeResult r =>
    exact congrArg (Option.map _) (LawfulCodecs.findNodeResult.part r hlen _ _ hbody hrest)
  | findValueResult r =>
    exact congrArg (Option.map _) (LawfulCodecs.findValueResult.part r hlen _ _ hbody hrest)

end Response

end MeshProtocol
