import MeshProtocol.Core.Reference
import MeshProtocol.Dht.Node

/-!
# Which requests a node survives

`xor_distance` documents that both hashes must have 32-byte digests.  Node IDs have, but the target
of a FIND_NODE and the key of a FIND_VALUE come from the wire as they are, and no handler checks
them. The handlers panic exactly when such a hash is too short and is compared with the nodes known:
`handlers_return_iff`.
-/

namespace MeshProtocol

section Crypto

variable [Crypto]

lemma Identity.nodeId_eq_iff_take {i j : Identity} :
    i.nodeId.digest.take 32 = j.nodeId.digest.take 32 ↔ i.nodeId = j.nodeId := by
  rw [List.take_of_length_le (Identity.length_nodeId_digest i).le,
    List.take_of_length_le (Identity.length_nodeId_digest j).le]
  simp [Identity.nodeId, Hash.blake3]

/-- Only the local node has no bucket. -/
lemma bucketFor_eq_none_iff {i j : Identity} :
    bucketFor i.nodeId j.nodeId = some none ↔ j.nodeId = i.nodeId := by
  have hsome := RoutingTable.bucketFor_isSome i.nodeId (Identity.length_nodeId_digest i).ge j
  rw [bucketFor, Option.isSome_map] at hsome
  obtain ⟨d, hd⟩ := Option.isSome_iff_exists.1 hsome
  rw [bucketFor, hd, Option.map_some, Option.some.injEq, bucketIndex_eq_none_iff hd,
    Identity.nodeId_eq_iff_take, eq_comm]

namespace DhtNode

variable {S H : Type}

/-- Once the sender is heard, the table holds two nodes or more, so that finding the closest ones
compares distances. -/
def Compares (n : DhtNode S H) (sender : Identity) : Prop :=
  2 ≤ n.routingTable.othersCount sender + if sender.nodeId = n.nodeId then 0 else 1

/-- Hearing a sender changes the routing table only, and leaves two nodes in it or not. -/
lemma updateRoutingTable_eq (n : DhtNode S H) (sender : Identity) (senderAddr : NodeAddr)
    (clock : UInt64) :
    ∃ n', n.updateRoutingTable sender senderAddr clock = some n' ∧ n'.store = n.store ∧
      n'.hooks = n.hooks ∧ (n'.routingTable.allNodes.length ≤ 1 ↔ ¬ n.Compares sender) := by
  obtain ⟨n', hn'⟩ := Option.isSome_iff_exists.1 (n.learn_isSome ⟨sender, senderAddr, clock⟩)
  obtain ⟨hstore, hhooks, result, hadd⟩ := updateRoutingTable_cases hn'
  refine ⟨n', hn', hstore, hhooks, ?_⟩
  rw [RoutingTable.length_addNode_le_one_iff hadd, n.localId_eq, Compares, nodeId]
  simp only [bucketFor_eq_none_iff]
  omega

/-! ## Each handler -/

lemma handlePing_isSome (n : DhtNode S H) (ping : Ping) (clock : UInt64) :
    (n.handlePing ping clock).isSome := by
  obtain ⟨n', hn', -⟩ := n.updateRoutingTable_eq ping.sender ping.senderAddr clock
  rw [handlePing, hn']
  rfl

/-- A node can answer a FIND_NODE if it need not compare distances, or if the target has the bytes
that the comparison reads. -/
def CanFindNode (n : DhtNode S H) (findNode : FindNode) : Prop :=
  ¬ n.Compares findNode.sender ∨ 32 ≤ findNode.target.digest.length

lemma handleFindNode_isSome_iff (n : DhtNode S H) (findNode : FindNode) (clock : UInt64) :
    (n.handleFindNode findNode clock).isSome ↔ n.CanFindNode findNode := by
  obtain ⟨n', hn', -, -, hcompares⟩ :=
    n.updateRoutingTable_eq findNode.sender findNode.senderAddr clock
  rw [CanFindNode, ← hcompares, ← RoutingTable.closestNodes_isSome_iff K,
    handleFindNode, hn']
  cases hclosest : n'.routingTable.closestNodes findNode.target K <;> simp [hclosest]

variable [DescriptorStorage S] [ProtocolHook H]

lemma handleStore_isSome (n : DhtNode S H) (storeReq : Store) (clock : UInt64) :
    (n.handleStore storeReq clock).isSome := by
  obtain ⟨n', hn', -⟩ := n.updateRoutingTable_eq storeReq.sender storeReq.senderAddr clock
  rw [handleStore, hn']
  cases hhooks : n'.hooks with
  | none => simp [hhooks]
  | some hooks =>
    cases hpre : ProtocolHook.preStore hooks storeReq.descriptor clock with
    | mk verdict hooks' => cases verdict <;> simp [hhooks, hpre]

/-- The hooks refuse a query. -/
def RefusesQuery (n : DhtNode S H) (key : Hash) (clock : UInt64) : Prop :=
  ∃ hooks reason, n.hooks = some hooks ∧
    (ProtocolHook.preQuery hooks key clock).1 = .error reason

/-- Storage has descriptors for a request. -/
def HasDescriptors (n : DhtNode S H) (findValue : FindValue) (clock : UInt64) : Prop :=
  (DescriptorStorage.getDescriptors n.store findValue.key findValue.filters clock).1 ≠ []

lemma findAccepted_isSome_iff (n : DhtNode S H) (findValue : FindValue) (clock : UInt64) :
    (n.findAccepted findValue clock).isSome ↔ n.HasDescriptors findValue clock ∨
      n.routingTable.allNodes.length ≤ 1 ∨ 32 ≤ findValue.key.digest.length := by
  rw [← RoutingTable.closestNodes_isSome_iff K, findAccepted, HasDescriptors]
  rcases DescriptorStorage.getDescriptors n.store findValue.key findValue.filters clock with
    ⟨_ | ⟨d, ds⟩, store⟩
  · cases hclosest : n.routingTable.closestNodes findValue.key K <;> simp [findResult, hclosest]
  · simp [findResult]

/-- Hooks that refuse a FIND_VALUE leave its answer empty.  Otherwise it is answered from the store
once its sender is heard. -/
lemma handleFindValue_answer {n n' : DhtNode S H} {findValue : FindValue} {clock : UInt64}
    {result : FindValueResult} (h : n.handleFindValue findValue clock = some (result, n')) :
    (n.RefusesQuery findValue.key clock ∧ result = ⟨none, none⟩) ∨
      (¬ n.RefusesQuery findValue.key clock ∧ ∃ n₁ n₂ : DhtNode S H,
        n.updateRoutingTable findValue.sender findValue.senderAddr clock = some n₁ ∧
        n₂.routingTable = n₁.routingTable ∧ n₂.store = n.store ∧ n₂.config = n.config ∧
        n₂.findAccepted findValue clock = some (result, n')) := by
  obtain ⟨n₁, hn₁, hcases⟩ := handleFindValue_cases h
  obtain ⟨hstore, hhooks, -⟩ := updateRoutingTable_cases hn₁
  have hconfig := (learned_of_learn hn₁).config
  rw [RefusesQuery, ← hhooks]
  rcases hcases with ⟨hnone, haccepted⟩ | ⟨hooks, reason, hooks', hsome, hverdict, hresult, -⟩ |
    ⟨hooks, hooks', hsome, hverdict, haccepted⟩
  · refine .inr ⟨?_, n₁, n₁, hn₁, rfl, hstore, hconfig, haccepted⟩
    rw [hnone]
    rintro ⟨hooks, -, ⟨⟩, -⟩
  · exact .inl ⟨⟨hooks, reason, hsome, by rw [hverdict]⟩, hresult⟩
  · refine .inr ⟨?_, n₁, { n₁ with hooks := some hooks' }, hn₁, rfl, hstore, hconfig, haccepted⟩
    rw [hsome]
    rintro ⟨_, reason, ⟨⟩, hrefused⟩
    rw [hverdict] at hrefused
    cases hrefused

/-- A node can answer a FIND_VALUE if it answers without looking for nodes, or as for FIND_NODE. -/
def CanFindValue (n : DhtNode S H) (findValue : FindValue) (clock : UInt64) : Prop :=
  n.RefusesQuery findValue.key clock ∨ n.HasDescriptors findValue clock ∨
    ¬ n.Compares findValue.sender ∨ 32 ≤ findValue.key.digest.length

lemma handleFindValue_isSome_iff (n : DhtNode S H) (findValue : FindValue) (clock : UInt64) :
    (n.handleFindValue findValue clock).isSome ↔ n.CanFindValue findValue clock := by
  obtain ⟨n', hn', hstore, hhooks, hcompares⟩ :=
    n.updateRoutingTable_eq findValue.sender findValue.senderAddr clock
  have hsame : n'.HasDescriptors findValue clock ↔ n.HasDescriptors findValue clock := by
    rw [HasDescriptors, HasDescriptors, hstore]
  rw [CanFindValue, ← hcompares, ← hsame, handleFindValue, hn']
  simp only [RefusesQuery, ← hhooks]
  cases hhook : n'.hooks with
  | none => simp [hhook, findAccepted_isSome_iff]
  | some hooks =>
    cases hpre : ProtocolHook.preQuery hooks findValue.key clock with
    | mk verdict hooks' =>
      cases verdict with
      | error reason => simp [hhook, hpre]
      | ok =>
        simp only [Option.bind_eq_bind, Option.bind_some, hhook, hpre, findAccepted_isSome_iff,
          HasDescriptors, Option.some.injEq]
        simp [hpre]

/-! ## Runs -/

/-- A node survives a request unless the request is bound to the TLS peer and cannot be answered. -/
def CanAnswer (n : DhtNode S H) (clock : UInt64) : Request → Prop
  | .ping _ => True
  | .store _ => True
  | .findNode findNode => n.CanFindNode findNode
  | .findValue findValue => n.CanFindValue findValue clock

lemma dispatchRequest_isSome_iff (n : DhtNode S H) (request : Request)
    (peerIdentity : Option Identity) (clock : UInt64) :
    (n.dispatchRequest request peerIdentity clock).isSome ↔
      (peerIdentity = some request.sender → n.CanAnswer clock request) := by
  rw [← verifySenderBinding_eq_ok_iff]
  unfold dispatchRequest
  cases verifySenderBinding request.sender peerIdentity with
  | error reason => simp
  | ok =>
    rw [eq_self, true_imp_iff]
    cases request with
    | ping ping => simp [CanAnswer, handlePing_isSome]
    | store storeReq => simp [CanAnswer, handleStore_isSome]
    | findNode findNode => simp [CanAnswer, handleFindNode_isSome_iff]
    | findValue findValue => simp [CanAnswer, handleFindValue_isSome_iff]

/-- Only a request can make a node panic. -/
def CanTake (n : DhtNode S H) : Step S → Prop
  | .request request peerIdentity clock =>
    peerIdentity = some request.sender → n.CanAnswer clock request
  | .learn _ => True
  | .storage _ => True

lemma step_isSome_iff (n : DhtNode S H) (s : Step S) : (n.step s).isSome ↔ n.CanTake s := by
  cases s with
  | request request peerIdentity clock =>
    rw [step, Option.isSome_map, dispatchRequest_isSome_iff, CanTake]
  | learn node => simp [step, CanTake, learn_isSome]
  | storage call => simp [step, CanTake]

/-- Every step of a run meets the condition at the node that takes it. -/
def CanTakeAll (n : DhtNode S H) : List (Step S) → Prop
  | [] => True
  | s :: steps => n.CanTake s ∧ ∀ n', n.step s = some n' → n'.CanTakeAll steps

lemma run_isSome_iff (n : DhtNode S H) (steps : List (Step S)) :
    (n.run steps).isSome ↔ n.CanTakeAll steps := by
  induction steps generalizing n with
  | nil => simp [run, CanTakeAll]
  | cons s steps ih =>
    rw [run, CanTakeAll, ← step_isSome_iff]
    cases hstep : n.step s with
    | none => simp
    | some n' => simp [ih]

/-- At any node, FIND_NODE and FIND_VALUE return a result exactly when the hash to look for is long
enough or is not compared with anything; and a run gets through exactly when each request of it is
answered so. -/
theorem handlers_return_iff (n : DhtNode S H) :
    (∀ findNode clock, (n.handleFindNode findNode clock).isSome ↔ n.CanFindNode findNode) ∧
      (∀ findValue clock,
        (n.handleFindValue findValue clock).isSome ↔ n.CanFindValue findValue clock) ∧
      ∀ steps, (n.run steps).isSome ↔ n.CanTakeAll steps :=
  ⟨n.handleFindNode_isSome_iff, n.handleFindValue_isSome_iff, n.run_isSome_iff⟩

end DhtNode

end Crypto

/-! ## A request that kills a node -/

/-- A node that has answered nothing yet. -/
def freshNode [Crypto] : DhtNode DescriptorStore NoOpHook :=
  .withStore firstPublisher (.quic "198.51.100.1:4433") {} .new

/-- A hash without digest bytes. -/
def emptyHash : Hash := ⟨ALG_BLAKE3, []⟩

/-- A ping by one client. -/
def firstContact : Request := .ping ⟨secondPublisher, .quic "198.51.100.2:4433"⟩

/-- Another client asks for the nodes near an empty hash, or for the descriptors there. -/
def emptyFindNode : FindNode := ⟨thirdPublisher, .quic "198.51.100.3:4433", emptyHash⟩
def emptyFindValue : FindValue := ⟨thirdPublisher, .quic "198.51.100.3:4433", emptyHash, 20, none⟩

/-- After one ping both requests panic, although their sender is the TLS peer. -/
theorem emptyHash_panics :
    letI : Crypto := cryptoOf []
    letI : Ciborium := referenceCiborium
    ∃ n : DhtNode DescriptorStore NoOpHook,
      freshNode.run [.request firstContact (some secondPublisher) 0] = some n ∧
        verifySenderBinding emptyFindNode.sender (some thirdPublisher) = .ok () ∧
        n.handleFindNode emptyFindNode 0 = none ∧ n.handleFindValue emptyFindValue 0 = none := by
  let _ : Crypto := cryptoOf []
  let _ : Ciborium := referenceCiborium
  have hrun : (freshNode.run [.request firstContact (some secondPublisher) 0]).isSome := by
    decide +kernel
  obtain ⟨n, hn⟩ := Option.isSome_iff_exists.1 hrun
  refine ⟨n, hn, rfl, ?_, ?_⟩
  · have hnone : ((freshNode.run [.request firstContact (some secondPublisher) 0]).bind
        fun n => n.handleFindNode emptyFindNode 0).isNone := by decide +kernel
    rw [hn] at hnone
    exact Option.isNone_iff_eq_none.1 hnone
  · have hnone : ((freshNode.run [.request firstContact (some secondPublisher) 0]).bind
        fun n => n.handleFindValue emptyFindValue 0).isNone := by decide +kernel
    rw [hn] at hnone
    exact Option.isNone_iff_eq_none.1 hnone

end MeshProtocol
