import MeshProtocol.Core.Encoding
import MeshProtocol.Dht.Availability
import MeshProtocol.Transport.Connection
import Mathlib.Algebra.Order.BigOperators.Group.List

/-!
# Answers on the wire (`mesh-node/src/main.rs`)

A node serves what arrives on its streams: `recv_frame`, `from_cbor`, the handler, `to_cbor`, and a
response frame.  `recv_frame` refuses a body of more than `MAX_FRAME_BODY` bytes, and nothing keeps
a node from writing one: an address is echoed and handed on however long it is, and the descriptors
of an answer add up.

The results say exactly which requests, in which states, are answered within the limit, in terms of
the lengths of what the answer is made of.
-/

namespace MeshProtocol

open Cbor

/-- The bytes a TLS peer writes to a stream, and the time they are served at. -/
structure Arrival where
  stream : List UInt8
  peerIdentity : Option Identity
  clock : UInt64

/-- The request in an arrival, if `recv_frame` accepts the frame and its body decodes. -/
def Arrival.request [RequestCodec] (a : Arrival) : Option Request :=
  match recvFrame a.stream with
  | some (.ok frame) => decodeRequest frame
  | _ => none

/-- An answer that names up to `K` nodes. -/
lemma length_nodes {nodes : List NodeInfo} (h : nodes.length ≤ K) :
    7 + headLength nodes.length + (nodes.map NodeInfo.encodedLength).sum =
      8 + (nodes.map NodeInfo.encodedLength).sum := by
  have hlt : nodes.length < 24 := h.trans_lt (by decide)
  rw [headLength_of_lt hlt]

namespace DhtNode

variable [Crypto] {S H : Type}

/-! ## Serving -/

section Serve

variable [RequestCodec] [DescriptorStorage S] [ProtocolHook H]

/-- Serves an arrival; one that is no frame, or whose body is no request, gets no answer. -/
def serve (n : DhtNode S H) (a : Arrival) : Option (Option Frame × DhtNode S H) :=
  match recvFrame a.stream with
  | none => none
  | some (.error _) => some (none, n)
  | some (.ok frame) =>
    match decodeRequest frame with
    | none => some (none, n)
    | some request =>
      (n.dispatchRequest request a.peerIdentity a.clock).map fun (response, n) =>
        (response.map fun r => frame.response r.msgType r.toCbor, n)

/-- The frames a node answers along a run, which ends early where a handler panics. -/
def answers (n : DhtNode S H) : List Arrival → List Frame
  | [] => []
  | a :: arrivals =>
    match n.serve a with
    | none => []
    | some (answer, n) => answer.toList ++ n.answers arrivals

end Serve

/-! ## When an answer fits -/

/-- The routing table once the sender of a request has been entered. -/
def heard (n : DhtNode S H) (sender : Identity) (senderAddr : NodeAddr) (clock : UInt64) :
    Option RoutingTable :=
  (n.routingTable.addNode ⟨sender, senderAddr, clock⟩).map Prod.snd

/-- A PONG fits if the two addresses it names are short enough. -/
def PongFits (n : DhtNode S H) (ping : Ping) : Prop :=
  34 + n.identity.encodedLength + n.addr.encodedLength + ping.senderAddr.encodedLength ≤
    MAX_FRAME_BODY

/-- A FIND_NODE_RESULT fits if the entries nearest to the target, and the node's own if there is
room for it, are short enough together. -/
def FoundNodesFit (n : DhtNode S H) (f : FindNode) (clock : UInt64) : Prop :=
  ∀ table nodes, n.heard f.sender f.senderAddr clock = some table →
    table.closestNodes f.target K = some nodes →
    8 + (nodes.map NodeInfo.encodedLength).sum +
      (if nodes.length < K then NodeInfo.encodedLength ⟨n.identity, n.addr, clock⟩ else 0) ≤
        MAX_FRAME_BODY

section Storage

variable [DescriptorStorage S]

/-- The descriptors a FIND_VALUE is answered with: as many of those stored as the client asks for
and the configuration allows. -/
def offered (n : DhtNode S H) (f : FindValue) (clock : UInt64) : List Descriptor :=
  (DescriptorStorage.getDescriptors n.store f.key f.filters clock).1.take
    (min f.maxResults.toNat n.config.maxFindValueResults.toNat)

variable [ProtocolHook H]

/-- The hooks or the storage refuse a descriptor with a reason. -/
def RefusesStore (n : DhtNode S H) (d : Descriptor) (clock : UInt64) (reason : String) : Prop :=
  (∃ hooks, n.hooks = some hooks ∧ (ProtocolHook.preStore hooks d clock).1 = .error reason) ∨
    (∀ hooks, n.hooks = some hooks → (ProtocolHook.preStore hooks d clock).1 = .ok ()) ∧
      ∃ e, (DescriptorStorage.storeDescriptor n.store d clock).1 = .error e ∧ e.message = reason

/-- A STORE_ACK fits if the reason for a refusal is short enough. -/
def AckFits (n : DhtNode S H) (s : Store) (clock : UInt64) : Prop :=
  ∀ reason, n.RefusesStore s.descriptor clock reason → 16 + textLength reason ≤ MAX_FRAME_BODY

/-- A FIND_VALUE_RESULT fits if the hooks refuse the query, or if the descriptors, or without any
the entries nearest to the key, are short enough together. -/
def FoundValuesFit (n : DhtNode S H) (f : FindValue) (clock : UInt64) : Prop :=
  n.RefusesQuery f.key clock ∨
    (n.HasDescriptors f clock ∧ 13 + headLength (n.offered f clock).length +
      ((n.offered f clock).map Descriptor.encodedLength).sum ≤ MAX_FRAME_BODY) ∨
    (¬ n.HasDescriptors f clock ∧ ∀ table nodes, n.heard f.sender f.senderAddr clock = some table →
      table.closestNodes f.key K = some nodes →
      8 + (nodes.map NodeInfo.encodedLength).sum ≤ MAX_FRAME_BODY)

/-- The answer to a request fits. -/
def AnswerFits (n : DhtNode S H) (clock : UInt64) : Request → Prop
  | .ping ping => n.PongFits ping
  | .store s => n.AckFits s clock
  | .findNode f => n.FoundNodesFit f clock
  | .findValue f => n.FoundValuesFit f clock

variable [RequestCodec]

/-- Along a run, the answer to every request that is bound to its sender fits. -/
def AnswersFit (n : DhtNode S H) : List Arrival → Prop
  | [] => True
  | a :: arrivals =>
    match n.serve a with
    | none => True
    | some (_, n') =>
      (∀ request, a.request = some request → a.peerIdentity = some request.sender →
        n.AnswerFits a.clock request) ∧ n'.AnswersFit arrivals

end Storage

/-! ## How long each answer is -/

/-- Hearing a sender enters it into the routing table and leaves everything else. -/
lemma updateRoutingTable_heard {n n' : DhtNode S H} {sender : Identity} {senderAddr : NodeAddr}
    {clock : UInt64} (h : n.updateRoutingTable sender senderAddr clock = some n') :
    n.heard sender senderAddr clock = some n'.routingTable ∧ n'.identity = n.identity ∧
      n'.addr = n.addr ∧ n'.config = n.config := by
  obtain ⟨hidentity, haddr, -, hconfig, -, result, hadd⟩ := learned_of_learn h
  exact ⟨congrArg (Option.map Prod.snd) hadd, hidentity, haddr, hconfig⟩

/-- No node of a routing table is the local node. -/
lemma identity_ne_of_mem (n : DhtNode S H) {e : NodeInfo} (he : e ∈ n.routingTable.allNodes) :
    e.identity ≠ n.identity := by
  intro hid
  obtain ⟨i, hbucket, -⟩ := RoutingTable.mem_bucket_of_mem he
  have hlocal : bucketFor n.routingTable.localId e.identity.nodeId = some none := by
    rw [n.localId_eq, bucketFor_eq_none_iff, hid]
  rw [hlocal] at hbucket
  cases hbucket

lemma handlePing_length {n n' : DhtNode S H} {ping : Ping} {clock : UInt64} {pong : Pong}
    (h : n.handlePing ping clock = some (pong, n')) :
    (Response.pong pong).toCbor.length ≤ MAX_FRAME_BODY ↔ n.PongFits ping := by
  obtain ⟨n₁, hn₁, hrest⟩ := Option.bind_eq_some_iff.1 h
  obtain ⟨-, hidentity, haddr, -⟩ := updateRoutingTable_heard hn₁
  obtain ⟨rfl, -⟩ := Prod.mk.inj (Option.some.inj hrest)
  rw [Response.toCbor, Wire.length_pong, hidentity, haddr, PongFits]

lemma handleFindNode_length {n n' : DhtNode S H} {f : FindNode} {clock : UInt64}
    {result : FindNodeResult} (h : n.handleFindNode f clock = some (result, n')) :
    (Response.findNodeResult result).toCbor.length ≤ MAX_FRAME_BODY ↔ n.FoundNodesFit f clock := by
  obtain ⟨n₁, hn₁, hrest⟩ := Option.bind_eq_some_iff.1 h
  obtain ⟨hheard, hidentity, haddr, -⟩ := updateRoutingTable_heard hn₁
  obtain ⟨nodes, hnodes, hlast⟩ := Option.bind_eq_some_iff.1 hrest
  obtain ⟨hsub, hcount⟩ := RoutingTable.closestNodes_bounded hnodes
  have hothers : ∀ e ∈ nodes, e.identity ≠ n₁.identity := fun e he =>
    n₁.identity_ne_of_mem (hsub he)
  obtain ⟨rfl, -⟩ := Prod.mk.inj (Option.some.inj hlast)
  have hfits : n.FoundNodesFit f clock ↔ 8 + (nodes.map NodeInfo.encodedLength).sum +
      (if nodes.length < K then NodeInfo.encodedLength ⟨n.identity, n.addr, clock⟩ else 0) ≤
        MAX_FRAME_BODY := by
    constructor
    · intro hfits
      exact hfits _ _ hheard hnodes
    · intro hfits table nodes' htable hnodes'
      obtain rfl := Option.some.inj (hheard.symm.trans htable)
      obtain rfl := Option.some.inj (hnodes.symm.trans hnodes')
      exact hfits
  rw [hfits, Response.toCbor, ← hidentity, ← haddr, Wire.length_findNodeResult]
  by_cases hroom : nodes.length < K
  · rw [if_pos ⟨hothers, hroom⟩, if_pos hroom]
    have hone : (nodes ++ [(⟨n₁.identity, n₁.addr, clock⟩ : NodeInfo)]).length ≤ K := by
      rw [List.length_append]
      exact hroom
    rw [length_nodes hone, List.map_append, List.sum_append, List.map_singleton,
      List.sum_singleton, add_assoc]
  · rw [if_neg (fun h => hroom h.2), if_neg hroom, length_nodes hcount, add_zero]

section Storage

variable [DescriptorStorage S] [ProtocolHook H]

/-- What the acknowledgement says if the hooks let the descriptor pass. -/
lemma storeAccepted_ack (n : DhtNode S H) (d : Descriptor) (clock : UInt64) :
    ((n.storeAccepted d clock).1 = ⟨true, none⟩ ∨
        ∃ reason, (n.storeAccepted d clock).1 = ⟨false, some reason⟩) ∧
      ∀ reason, (n.storeAccepted d clock).1.reason = some reason ↔
        ∃ e, (DescriptorStorage.storeDescriptor n.store d clock).1 = .error e ∧
          e.message = reason := by
  unfold storeAccepted
  split
  case h_1 store heq =>
    refine ⟨.inl rfl, fun reason => ?_⟩
    simp [heq]
  case h_2 e store heq =>
    refine ⟨.inr ⟨e.message, rfl⟩, fun reason => ?_⟩
    simp [heq]

/-- A STORE is acknowledged, or refused with the reason the hooks or the storage give. -/
lemma handleStore_ack {n n' : DhtNode S H} {s : Store} {clock : UInt64} {ack : StoreAck}
    (h : n.handleStore s clock = some (ack, n')) :
    (ack = ⟨true, none⟩ ∨ ∃ reason, ack = ⟨false, some reason⟩) ∧
      ∀ reason, n.RefusesStore s.descriptor clock reason ↔ ack.reason = some reason := by
  obtain ⟨n₁, hn₁, hcases⟩ := handleStore_cases h
  obtain ⟨hstore, hsame, -⟩ := updateRoutingTable_cases hn₁
  unfold RefusesStore
  rw [← hsame, ← hstore]
  rcases hcases with ⟨hhooks, haccepted⟩ | ⟨hooks, reason, hooks', hhooks, hpre, rfl, -⟩ |
    ⟨hooks, hooks', hhooks, hpre, haccepted⟩
  · obtain rfl : _ = ack := congrArg Prod.fst haccepted
    obtain ⟨hack, hreason⟩ := n₁.storeAccepted_ack s.descriptor clock
    refine ⟨hack, fun reason => ?_⟩
    rw [hreason, hhooks]
    simp
  · refine ⟨.inr ⟨reason, rfl⟩, fun reason' => ?_⟩
    rw [hhooks]
    simp [hpre]
  · let hooked : DhtNode S H := { n₁ with hooks := some hooks' }
    obtain rfl : (hooked.storeAccepted s.descriptor clock).1 = ack := congrArg Prod.fst haccepted
    obtain ⟨hack, hreason⟩ := hooked.storeAccepted_ack s.descriptor clock
    refine ⟨hack, fun reason => ?_⟩
    rw [hreason, hhooks]
    simp [hpre, hooked]

lemma handleStore_length {n n' : DhtNode S H} {s : Store} {clock : UInt64} {ack : StoreAck}
    (h : n.handleStore s clock = some (ack, n')) :
    (Response.storeAck ack).toCbor.length ≤ MAX_FRAME_BODY ↔ n.AckFits s clock := by
  obtain ⟨hack, hrefuses⟩ := handleStore_ack h
  simp only [AckFits, hrefuses]
  rcases hack with rfl | ⟨reason, rfl⟩
  · have hlength : (Response.storeAck ⟨true, none⟩).toCbor.length ≤ MAX_FRAME_BODY := by decide
    simp [hlength]
  · rw [Response.toCbor, Wire.length_storeAck_refused]
    simp

lemma findAccepted_length {n n₁ n' : DhtNode S H} {f : FindValue} {clock : UInt64}
    {result : FindValueResult} (hstore : n₁.store = n.store) (hconfig : n₁.config = n.config)
    (hheard : n.heard f.sender f.senderAddr clock = some n₁.routingTable)
    (hquery : ¬ n.RefusesQuery f.key clock) (h : n₁.findAccepted f clock = some (result, n')) :
    (Response.findValueResult result).toCbor.length ≤ MAX_FRAME_BODY ↔
      n.FoundValuesFit f clock := by
  obtain ⟨result', hresult, hrest⟩ := Option.bind_eq_some_iff.1 h
  obtain ⟨rfl, -⟩ := Prod.mk.inj (Option.some.inj hrest)
  unfold FoundValuesFit
  rcases findResult_cases hresult with ⟨hds, rfl⟩ | ⟨hds, nodes, hnodes, rfl⟩
  · have hhas : n.HasDescriptors f clock := by
      rw [HasDescriptors, ← hstore]
      exact hds
    rw [Response.toCbor, Wire.length_findValueResult_descriptors]
    simp only [hquery, hhas, false_or, true_and, not_true, false_and, or_false, offered, hstore,
      hconfig]
    rfl
  · have hhas : ¬ n.HasDescriptors f clock := by
      rw [HasDescriptors, ← hstore, not_not]
      exact hds
    obtain ⟨-, hcount⟩ := RoutingTable.closestNodes_bounded hnodes
    rw [Response.toCbor, Wire.length_findValueResult_nodes, length_nodes hcount]
    simp only [hquery, hhas, false_or, true_and, not_false_eq_true, false_and]
    constructor
    · intro hfits table nodes' htable hnodes'
      obtain rfl := Option.some.inj (hheard.symm.trans htable)
      obtain rfl := Option.some.inj (hnodes.symm.trans hnodes')
      exact hfits
    · intro hfits
      exact hfits _ _ hheard hnodes

lemma handleFindValue_length {n n' : DhtNode S H} {f : FindValue} {clock : UInt64}
    {result : FindValueResult} (h : n.handleFindValue f clock = some (result, n')) :
    (Response.findValueResult result).toCbor.length ≤ MAX_FRAME_BODY ↔
      n.FoundValuesFit f clock := by
  rcases handleFindValue_answer h with ⟨hquery, rfl⟩ |
    ⟨hquery, n₁, n₂, hn₁, htable, hstore, hconfig, haccepted⟩
  · have hlength : (Response.findValueResult ⟨none, none⟩).toCbor.length ≤ MAX_FRAME_BODY := by
      decide
    exact ⟨fun _ => .inl hquery, fun _ => hlength⟩
  · obtain ⟨hheard, -⟩ := updateRoutingTable_heard hn₁
    rw [← htable] at hheard
    exact findAccepted_length hstore hconfig hheard hquery haccepted

/-- The answer to a request is within the limit exactly if it fits. -/
theorem dispatchRequest_length {n n' : DhtNode S H} {request : Request}
    {peerIdentity : Option Identity} {clock : UInt64} {response : Option Response}
    (h : n.dispatchRequest request peerIdentity clock = some (response, n')) :
    (∀ r, response = some r → r.toCbor.length ≤ MAX_FRAME_BODY) ↔
      (peerIdentity = some request.sender → n.AnswerFits clock request) := by
  rcases dispatchRequest_cases h with ⟨hdropped, rfl, -⟩ | ⟨hsender, hanswer⟩
  · simp [hdropped]
  · rw [hsender, eq_self, true_imp_iff]
    cases request with
    | ping ping =>
      obtain ⟨pong, hpong, rfl⟩ := hanswer
      simpa [AnswerFits] using handlePing_length hpong
    | store s =>
      obtain ⟨ack, hack, rfl⟩ := hanswer
      simpa [AnswerFits] using handleStore_length hack
    | findNode f =>
      obtain ⟨result, hresult, rfl⟩ := hanswer
      simpa [AnswerFits] using handleFindNode_length hresult
    | findValue f =>
      obtain ⟨result, hresult, rfl⟩ := hanswer
      simpa [AnswerFits] using handleFindValue_length hresult

/-! ## Runs -/

variable [RequestCodec]

/-- One step: the answer is within the limit exactly if the request's answer fits. -/
lemma serve_length {n n' : DhtNode S H} {a : Arrival} {answer : Option Frame}
    (h : n.serve a = some (answer, n')) :
    (∀ frame, answer = some frame → frame.body.length ≤ MAX_FRAME_BODY) ↔
      ∀ request, a.request = some request → a.peerIdentity = some request.sender →
        n.AnswerFits a.clock request := by
  unfold serve at h
  unfold Arrival.request
  split at h
  case h_1 => cases h
  case h_2 e hframe =>
    obtain ⟨rfl, -⟩ := Prod.mk.inj (Option.some.inj h)
    simp [hframe]
  case h_3 frame hframe =>
    rw [hframe]
    cases hrequest : decodeRequest frame with
    | none =>
      rw [hrequest] at h
      obtain ⟨rfl, -⟩ := Prod.mk.inj (Option.some.inj h)
      simp [hrequest]
    | some request =>
      rw [hrequest] at h
      obtain ⟨⟨response, n₁⟩, hdispatch, heq⟩ := Option.map_eq_some_iff.1 h
      obtain ⟨rfl, -⟩ := Prod.mk.inj heq
      have hstep := dispatchRequest_length hdispatch
      cases response with
      | none => simpa [hrequest] using hstep
      | some r => simpa [hrequest, Frame.response] using hstep

lemma serve_wellFormed {n n' : DhtNode S H} {a : Arrival} {answer : Frame}
    (h : n.serve a = some (some answer, n')) : answer.WellFormed := by
  unfold serve at h
  split at h
  case h_1 => cases h
  case h_2 => cases h
  case h_3 frame hframe =>
    split at h
    case h_1 => cases h
    case h_2 request hrequest =>
      obtain ⟨⟨response, n₁⟩, -, heq⟩ := Option.map_eq_some_iff.1 h
      obtain ⟨r, -, rfl⟩ := Option.map_eq_some_iff.1 (Prod.mk.inj heq).1
      exact frame.wellFormed_response r.msgType r.toCbor

/-- Every frame a node answers along a run is one of the protocol. -/
lemma wellFormed_of_mem_answers {n : DhtNode S H} {arrivals : List Arrival} {frame : Frame}
    (h : frame ∈ n.answers arrivals) : frame.WellFormed := by
  induction arrivals generalizing n with
  | nil => cases h
  | cons a arrivals ih =>
    rw [answers] at h
    split at h
    case h_1 => cases h
    case h_2 answer n' hserve =>
      rcases List.mem_append.1 h with hfirst | hrest
      · obtain rfl := Option.mem_toList.1 hfirst
        exact serve_wellFormed hserve
      · exact ih hrest

lemma answers_length_iff (n : DhtNode S H) (arrivals : List Arrival) :
    (∀ frame ∈ n.answers arrivals, frame.body.length ≤ MAX_FRAME_BODY) ↔
      n.AnswersFit arrivals := by
  induction arrivals generalizing n with
  | nil => simp [answers, AnswersFit]
  | cons a arrivals ih =>
    rw [answers, AnswersFit]
    cases hserve : n.serve a with
    | none => simp
    | some result =>
      obtain ⟨answer, n'⟩ := result
      dsimp only
      rw [← ih n', ← serve_length hserve]
      simp only [List.mem_append, Option.mem_toList, or_imp, forall_and]

/-- Along any run of any node, every answer is short enough to be received exactly if the answer of
every step fits. -/
theorem answers_received_iff (n : DhtNode S H) (arrivals : List Arrival) :
    (∀ frame ∈ n.answers arrivals, frame.body.length ≤ MAX_FRAME_BODY ∧ frame.Received) ↔
      n.AnswersFit arrivals := by
  rw [← answers_length_iff]
  constructor
  · intro h frame hframe
    exact (h frame hframe).1
  · intro h frame hframe
    exact ⟨h frame hframe, (Frame.received_iff (wellFormed_of_mem_answers hframe)).2
      (h frame hframe)⟩

end Storage

end DhtNode

/-! ## An address that fits into a request only -/

lemma Arrival.request_of_frame [RequestCodec] {f : Frame} (hf : f.WellFormed)
    (hlen : f.body.length ≤ MAX_FRAME_BODY) (peerIdentity : Option Identity) (clock : UInt64) :
    (⟨f.toBytes, peerIdentity, clock⟩ : Arrival).request = decodeRequest f := by
  have hreceived : recvFrame f.toBytes = some (.ok f) := (Frame.received_iff hf).2 hlen
  rw [request, hreceived]

section

variable [Crypto] [RequestCodec] {S H : Type} [DescriptorStorage S] [ProtocolHook H]

lemma DhtNode.serve_of_request (n : DhtNode S H) {a : Arrival} {request : Request}
    (h : a.request = some request) :
    ∃ frame : Frame, n.serve a =
      (n.dispatchRequest request a.peerIdentity a.clock).map fun (response, n) =>
        (response.map fun r => frame.response r.msgType r.toCbor, n) := by
  unfold Arrival.request at h
  split at h
  case h_1 frame hframe =>
    refine ⟨frame, ?_⟩
    rw [serve, hframe]
    simp only [h]
  case h_2 => cases h

/-- A PING is always answered, and its sender heard. -/
lemma DhtNode.serve_ping (n : DhtNode S H) {a : Arrival} {ping : Ping}
    (h : a.request = some (.ping ping)) (hpeer : a.peerIdentity = some ping.sender) :
    ∃ answer n', n.serve a = some (answer, n') ∧
      n.heard ping.sender ping.senderAddr a.clock = some n'.routingTable ∧
      n'.identity = n.identity := by
  obtain ⟨frame, hserve⟩ := n.serve_of_request h
  obtain ⟨n', hn'⟩ := Option.isSome_iff_exists.1
    (n.learn_isSome ⟨ping.sender, ping.senderAddr, a.clock⟩)
  obtain ⟨hheard, hidentity, -⟩ := updateRoutingTable_heard hn'
  have hbinding : verifySenderBinding (Request.ping ping).sender a.peerIdentity = .ok () :=
    verifySenderBinding_eq_ok_iff.2 hpeer
  have hping : n.handlePing ping a.clock = some (⟨n'.identity, n'.addr, ping.senderAddr⟩, n') := by
    have hupdate : n.updateRoutingTable ping.sender ping.senderAddr a.clock = some n' := hn'
    rw [handlePing, hupdate]
    rfl
  rw [hserve, dispatchRequest, hbinding]
  dsimp only
  rw [hping]
  exact ⟨_, n', rfl, hheard, hidentity⟩

end

/-- A node of a few entries keeps those of others when it hears a sender. -/
lemma DhtNode.mem_heard [Crypto] {S H : Type} {n : DhtNode S H} {sender : Identity}
    {senderAddr : NodeAddr} {clock : UInt64} {table : RoutingTable}
    (h : n.heard sender senderAddr clock = some table)
    (hsender : sender.nodeId ≠ n.identity.nodeId) (hfew : n.routingTable.allNodes.length < K)
    {e : NodeInfo} :
    e ∈ table.allNodes ↔ e = ⟨sender, senderAddr, clock⟩ ∨
      (e ∈ n.routingTable.allNodes ∧ e.identity ≠ sender) := by
  obtain ⟨⟨result, table'⟩, hadd, rfl⟩ := Option.map_eq_some_iff.1 h
  have hsome := RoutingTable.bucketFor_isSome n.identity.nodeId
    (Identity.length_nodeId_digest _).ge sender
  obtain ⟨bucket, hbucket⟩ := Option.isSome_iff_exists.1 hsome
  cases bucket with
  | none => exact absurd (bucketFor_eq_none_iff.1 hbucket) hsender
  | some i =>
    rw [← n.localId_eq] at hbucket
    exact RoutingTable.mem_allNodes_addNode hadd hbucket
      (.inr ((n.routingTable.length_bucket_le i).trans_lt hfew))

lemma DhtNode.length_heard_le [Crypto] {S H : Type} {n : DhtNode S H} {sender : Identity}
    {senderAddr : NodeAddr} {clock : UInt64} {table : RoutingTable}
    (h : n.heard sender senderAddr clock = some table) :
    table.allNodes.length ≤ n.routingTable.allNodes.length + 1 := by
  obtain ⟨⟨result, table'⟩, hadd, rfl⟩ := Option.map_eq_some_iff.1 h
  exact RoutingTable.length_addNode_le hadd

/-- A FIND_NODE that is answered within the limit names no entry that is longer. -/
lemma DhtNode.FoundNodesFit.encodedLength_le [Crypto] {S H : Type} {n : DhtNode S H} {f : FindNode}
    {clock : UInt64} (h : n.FoundNodesFit f clock) {table : RoutingTable}
    (hheard : n.heard f.sender f.senderAddr clock = some table)
    (hfew : table.allNodes.length ≤ K) (htarget : 32 ≤ f.target.digest.length) {e : NodeInfo}
    (he : e ∈ table.allNodes) : 8 + e.encodedLength ≤ MAX_FRAME_BODY := by
  obtain ⟨nodes, hnodes⟩ := Option.isSome_iff_exists.1
    ((RoutingTable.closestNodes_isSome_iff (t := table) K).2 (.inr htarget))
  have hmem : e ∈ nodes := (RoutingTable.closestNodes_perm hnodes hfew).mem_iff.2 he
  have hsum : e.encodedLength ≤ (nodes.map NodeInfo.encodedLength).sum :=
    List.le_sum_of_mem (List.mem_map_of_mem hmem)
  have hfits := h table nodes hheard hnodes
  omega

/-- A node without entries answers a FIND_NODE after a PING with the entry of the PING's sender, and
that may be too long. -/
lemma DhtNode.not_answersFit_of_ping [Crypto] [RequestCodec] {S H : Type} [DescriptorStorage S]
    [ProtocolHook H] {n : DhtNode S H} {p : Ping} {f : FindNode} {a₁ a₂ : Arrival}
    (hping : a₁.request = some (.ping p)) (hpeer₁ : a₁.peerIdentity = some p.sender)
    (hlook : a₂.request = some (.findNode f)) (hpeer₂ : a₂.peerIdentity = some f.sender)
    (hempty : n.routingTable.allNodes = []) (hp : p.sender.nodeId ≠ n.identity.nodeId)
    (hf : f.sender.nodeId ≠ n.identity.nodeId) (hpf : p.sender ≠ f.sender)
    (htarget : 32 ≤ f.target.digest.length)
    (hlong : MAX_FRAME_BODY <
      8 + NodeInfo.encodedLength ⟨p.sender, p.senderAddr, a₁.clock⟩) :
    ¬ n.AnswersFit [a₁, a₂] := by
  obtain ⟨answer, n₁, hserve₁, hheard₁, hidentity⟩ := n.serve_ping hping hpeer₁
  have hentry : ⟨p.sender, p.senderAddr, a₁.clock⟩ ∈ n₁.routingTable.allNodes :=
    (mem_heard hheard₁ hp (by rw [hempty]; decide)).2 (.inl rfl)
  have hone : n₁.routingTable.allNodes.length ≤ 1 := by
    have hle := length_heard_le hheard₁
    rwa [hempty] at hle
  -- the FIND_NODE is answered
  obtain ⟨⟨response, n₂⟩, hdispatch⟩ := Option.isSome_iff_exists.1
    ((n₁.dispatchRequest_isSome_iff (.findNode f) a₂.peerIdentity a₂.clock).2
      fun _ => .inr htarget)
  obtain ⟨frame, hserve₂⟩ := n₁.serve_of_request hlook
  rw [hdispatch] at hserve₂
  intro hanswers
  rw [AnswersFit, hserve₁] at hanswers
  obtain ⟨-, hanswers⟩ := hanswers
  rw [AnswersFit, hserve₂] at hanswers
  have hfits : n₁.FoundNodesFit f a₂.clock := hanswers.1 _ hlook hpeer₂
  -- and names the entry
  obtain ⟨n₃, hn₃⟩ := Option.isSome_iff_exists.1
    (n₁.learn_isSome ⟨f.sender, f.senderAddr, a₂.clock⟩)
  obtain ⟨hheard₃, -⟩ := updateRoutingTable_heard hn₃
  have hsender : f.sender.nodeId ≠ n₁.identity.nodeId := by rwa [hidentity]
  have hkept : ⟨p.sender, p.senderAddr, a₁.clock⟩ ∈ n₃.routingTable.allNodes :=
    (mem_heard hheard₃ hsender (hone.trans_lt (by decide))).2 (.inr ⟨hentry, hpf⟩)
  have hfew : n₃.routingTable.allNodes.length ≤ K :=
    (length_heard_le hheard₃).trans (by unfold K; omega)
  exact absurd (hfits.encodedLength_le hheard₃ hfew htarget hkept) (not_le.2 hlong)

/-- An address of the given number of digits. -/
def digitsAddress (n : ℕ) : NodeAddr := .quic (String.ofList (List.replicate n '1'))

def longPing (n : ℕ) : Ping := ⟨secondPublisher, digitsAddress n⟩

/-- A third node asks for the nodes near a key. -/
def lookFor : FindNode := ⟨thirdPublisher, .quic "198.51.100.3:4433", computeKey⟩

def longPingFrame (n : ℕ) : Frame :=
  .new MSG_PING (.replicate 16 0) (encode (Wire.ping (longPing n)))

def lookForFrame : Frame := .new MSG_FIND_NODE (.replicate 16 0) (encode (Wire.findNode lookFor))

/-- The PING, and then the FIND_NODE. -/
def longAddressRun (n : ℕ) : List Arrival :=
  [⟨(longPingFrame n).toBytes, some secondPublisher, 1700000000000000⟩,
    ⟨lookForFrame.toBytes, some thirdPublisher, 1700000000000000⟩]

lemma encodedLength_digitsAddress (n : ℕ) :
    (digitsAddress n).encodedLength = 23 + (headLength n + n) := by
  have hprotocol : textLength "quic" = 5 := by decide
  have haddress : textLength (String.ofList (List.replicate n '1')) = headLength n + n := by
    rw [textLength, length_utf8Bytes_replicate (by decide)]
  rw [NodeAddr.encodedLength, digitsAddress, NodeAddr.quic, hprotocol, haddress]

lemma length_longPing (n : ℕ) : (longPingFrame n).body.length = 129 + (headLength n + n) := by
  have hlength : (longPingFrame n).body.length =
      20 + secondPublisher.encodedLength + (digitsAddress n).encodedLength :=
    Wire.length_ping (longPing n)
  have hsecond : secondPublisher.encodedLength = 86 := by decide
  rw [hlength, hsecond, encodedLength_digitsAddress]
  omega

lemma fits_longPing {n : ℕ} (h : n < 2 ^ 64) : Fits (Wire.ping (longPing n)) := by
  have hkey : secondPublisher.publicKey.length < 2 ^ 64 := by decide
  have hprotocol : (Bytes.utf8Bytes "quic").length < 2 ^ 64 := by decide
  have haddress : (Bytes.utf8Bytes (String.ofList (List.replicate n '1'))).length = n :=
    length_utf8Bytes_replicate (by decide) n
  exact Wire.fits_ping hkey ⟨hprotocol, haddress.trans_lt h⟩

lemma length_lookFor : lookForFrame.body.length ≤ MAX_FRAME_BODY := by
  have hlength : lookForFrame.body.length = 27 + lookFor.sender.encodedLength +
      lookFor.senderAddr.encodedLength + lookFor.target.encodedLength :=
        Wire.length_findNode lookFor
  rw [hlength]
  decide

lemma fits_lookFor : Fits (Wire.findNode lookFor) := by
  apply Wire.fits_findNode
  · decide
  · exact ⟨by decide, by decide⟩
  · decide

/-- What the two arrivals ask for, if the PING is short enough to be received. -/
lemma requests_longAddressRun {n : ℕ} (h : 129 + (headLength n + n) ≤ MAX_FRAME_BODY) :
    letI : RequestCodec := wireRequests
    (longAddressRun n).map Arrival.request =
      [some (.ping (longPing n)), some (.findNode lookFor)] := by
  let _ : RequestCodec := wireRequests
  have hlt : n < 2 ^ 64 := by
    have hmax : MAX_FRAME_BODY < 2 ^ 64 := by decide
    omega
  have hping : decodeRequest (longPingFrame n) = some (.ping (longPing n)) := by
    rw [longPingFrame, decodeRequest_ping, wireRequests_ping (fits_longPing hlt), Option.map_some]
  have hlook : decodeRequest lookForFrame = some (.findNode lookFor) := by
    rw [lookForFrame, decodeRequest_findNode, wireRequests_findNode fits_lookFor, Option.map_some]
  have hlength : (longPingFrame n).body.length ≤ MAX_FRAME_BODY := (length_longPing n).trans_le h
  rw [longAddressRun, List.map_cons, List.map_singleton,
    Arrival.request_of_frame ⟨rfl, rfl⟩ hlength,
    Arrival.request_of_frame ⟨rfl, rfl⟩ length_lookFor, hping, hlook]

section

variable [Crypto] [Ciborium]

/-- A node that has heard the PING answers the FIND_NODE with more than the requester receives. -/
lemma answers_longAddressRun [RequestCodec] {n : ℕ}
    (hrequests : (longAddressRun n).map Arrival.request =
      [some (.ping (longPing n)), some (.findNode lookFor)])
    (hsecond : secondPublisher.nodeId ≠ firstPublisher.nodeId)
    (hthird : thirdPublisher.nodeId ≠ firstPublisher.nodeId)
    (hlong : MAX_FRAME_BODY < 151 + (headLength n + n)) :
    (∀ a ∈ longAddressRun n, ∃ request, a.request = some request ∧
        a.peerIdentity = some request.sender) ∧
      ∃ frame ∈ freshNode.answers (longAddressRun n),
        MAX_FRAME_BODY < frame.body.length ∧ ¬ frame.Received := by
  simp only [longAddressRun, List.map_cons, List.map_nil, List.cons.injEq, and_true] at hrequests
  obtain ⟨hping, hlook⟩ := hrequests
  constructor
  · simp only [longAddressRun, List.forall_mem_cons]
    exact ⟨⟨_, hping, rfl⟩, ⟨_, hlook, rfl⟩, List.forall_mem_nil _⟩
  · by_contra hnone
    have hshort : ∀ frame ∈ freshNode.answers (longAddressRun n),
        frame.body.length ≤ MAX_FRAME_BODY := by
      intro frame hframe
      by_contra hexceeds
      refine hnone ⟨frame, hframe, not_le.1 hexceeds, fun hreceived => hexceeds ?_⟩
      exact (Frame.received_iff (DhtNode.wellFormed_of_mem_answers hframe)).1 hreceived
    rw [DhtNode.answers_length_iff] at hshort
    have hentry : MAX_FRAME_BODY <
        8 + NodeInfo.encodedLength ⟨secondPublisher, digitsAddress n, 1700000000000000⟩ := by
      have hidentity : secondPublisher.encodedLength = 86 := by decide
      have htime : headLength (1700000000000000 : UInt64).toNat = 9 := by decide
      rw [NodeInfo.encodedLength, encodedLength_digitsAddress]
      dsimp only
      rw [hidentity, htime]
      omega
    have hdistinct : secondPublisher ≠ thirdPublisher := by decide
    have htarget : 32 ≤ computeKey.digest.length := by decide
    have hempty : freshNode.routingTable.allNodes = [] := RoutingTable.allNodes_new _
    exact DhtNode.not_answersFit_of_ping hping rfl hlook rfl hempty hsecond hthird hdistinct htarget
      hentry hshort

end

/-- The address is as long as a PING of its sender has room for. -/
theorem longAddress_not_received :
    letI : Crypto := cryptoOf []
    letI : Ciborium := referenceCiborium
    letI : RequestCodec := wireRequests
    (∀ a ∈ longAddressRun 1048442, ∃ request, a.request = some request ∧
        a.peerIdentity = some request.sender) ∧
      ∃ frame ∈ freshNode.answers (longAddressRun 1048442),
        MAX_FRAME_BODY < frame.body.length ∧ ¬ frame.Received := by
  let _ : Crypto := cryptoOf []
  let _ : Ciborium := referenceCiborium
  let _ : RequestCodec := wireRequests
  apply answers_longAddressRun
  · apply requests_longAddressRun
    decide
  · decide +kernel
  · decide +kernel
  · decide

end MeshProtocol
