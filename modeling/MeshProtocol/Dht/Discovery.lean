import MeshProtocol.Core.Encoding
import MeshProtocol.Core.Reference
import MeshProtocol.Dht.Lookup

/-!
# What a lookup returns (`mesh-dht/src/node.rs`, `mesh-client/src/lib.rs`)

A lookup collects what its peers answer.  `lookupValue_recorded` says that it returns all of it and
nothing else, in the order of the answers, and `authentic_iff` what follows for the application:
what it is handed is as good as the answers are.
-/

namespace MeshProtocol

/-! ## Recorded answers -/

/-- A transport that keeps the requests sent through it, with their answers. -/
structure Recorded (τ : Type) where
  transport : τ
  exchanges : List (NodeAddr × Request × Option Response)

instance {τ : Type} [Transport τ] : Transport (Recorded τ) where
  sendRequest r addr request :=
    let (response, t) := Transport.sendRequest r.transport addr request
    (response, ⟨t, r.exchanges ++ [(addr, request, response)]⟩)
  noReply r := Transport.noReply r.transport

/-- The descriptors that a request was answered with. -/
def found : Option Response → List Descriptor
  | some (.findValueResult result) => result.descriptors.getD []
  | _ => []

/-- The descriptors of each answer. -/
def answers (exchanges : List (NodeAddr × Request × Option Response)) : List (List Descriptor) :=
  exchanges.map fun exchange => found exchange.2.2

lemma flatten_answers_cons {addr : NodeAddr} {request : Request} {response : Option Response}
    {exchanges : List (NodeAddr × Request × Option Response)} :
    (answers ((addr, request, response) :: exchanges)).flatten =
      found response ++ (answers exchanges).flatten := rfl

lemma found_of_not_value {response : Option Response}
    (h : ∀ result, response ≠ some (.findValueResult result)) : found response = [] := by
  unfold found
  split
  case h_1 result => exact absurd rfl (h result)
  case h_2 => rfl

lemma sendRequest_recorded {τ : Type} [Transport τ] {t t' : τ} {addr : NodeAddr} {request : Request}
    {response : Option Response} (h : Transport.sendRequest t addr request = (response, t'))
    (log : List (NodeAddr × Request × Option Response)) :
    Transport.sendRequest (Recorded.mk t log) addr request =
      (response, ⟨t', log ++ [(addr, request, response)]⟩) := by
  change ((Transport.sendRequest t addr request).1,
    Recorded.mk (Transport.sendRequest t addr request).2
      (log ++ [(addr, request, (Transport.sendRequest t addr request).1)])) = _
  rw [h]

namespace DhtNode

variable [Crypto] {S H τ : Type} [Transport τ]

lemma queryNodes_recorded {key : Hash} {nodes : List NodeInfo} : ∀ {n n' : DhtNode S H} {t t' : τ}
    {ds : List Descriptor} {newNodes : List NodeInfo},
    n.queryNodes t key nodes = some (ds, newNodes, n', t') → ∀ log, ∃ exchanges,
      n.queryNodes (Recorded.mk t log) key nodes =
        some (ds, newNodes, n', ⟨t', log ++ exchanges⟩) ∧ (answers exchanges).flatten = ds := by
  induction nodes with
  | nil =>
    intro n n' t t' ds newNodes h log
    obtain ⟨rfl, rfl, rfl, rfl⟩ := h
    exact ⟨[], by simp [queryNodes], rfl⟩
  | cons node nodes ih =>
    intro n n' t t' ds newNodes h log
    rcases hsend : Transport.sendRequest t node.addr (n.valueRequest key) with ⟨response, t₁⟩
    have hrecord := sendRequest_recorded hsend log
    rw [queryNodes] at h ⊢
    rw [hsend] at h
    rw [hrecord]
    dsimp only at h ⊢
    split at h
    case h_1 result =>
      obtain ⟨n₁, hlearn, h⟩ := Option.bind_eq_some_iff.1 h
      obtain ⟨⟨ds₁, newNodes₁, n₂, t₂⟩, hrest, h⟩ := Option.bind_eq_some_iff.1 h
      obtain ⟨rfl, rfl, rfl, rfl⟩ := h
      obtain ⟨exchanges, hquery, hds⟩ := ih hrest
        (log ++ [(node.addr, n.valueRequest key, some (.findValueResult result))])
      refine ⟨(node.addr, n.valueRequest key, some (.findValueResult result)) :: exchanges, ?_, ?_⟩
      · rw [hlearn, Option.bind_eq_bind, Option.bind_some, hquery, List.append_assoc]
        rfl
      · rw [flatten_answers_cons, hds]
        rfl
    case h_2 hother =>
      obtain ⟨exchanges, hquery, hds⟩ := ih h (log ++ [(node.addr, n.valueRequest key, response)])
      refine ⟨(node.addr, n.valueRequest key, response) :: exchanges, ?_, ?_⟩
      · rw [hquery, List.append_assoc]
        rfl
      · rw [flatten_answers_cons, hds, found_of_not_value hother, List.nil_append]

lemma broadcast_recorded {key : Hash} {n : DhtNode S H} {nodes : List NodeInfo} : ∀ {t t' : τ}
    {ds : List Descriptor}, n.broadcast t key nodes = (ds, t') → ∀ log, ∃ exchanges,
      n.broadcast (Recorded.mk t log) key nodes = (ds, ⟨t', log ++ exchanges⟩) ∧
        (answers exchanges).flatten = ds := by
  induction nodes with
  | nil =>
    intro t t' ds h log
    obtain ⟨rfl, rfl⟩ := h
    exact ⟨[], by simp [broadcast], rfl⟩
  | cons node nodes ih =>
    intro t t' ds h log
    rcases hsend : Transport.sendRequest t node.addr (n.valueRequest key) with ⟨response, t₁⟩
    have hrecord := sendRequest_recorded hsend log
    rw [broadcast] at h ⊢
    rw [hsend] at h
    rw [hrecord]
    dsimp only at h ⊢
    split at h
    case h_1 result =>
      split_ifs at h with hempty
      · obtain ⟨exchanges, hrest, hds⟩ := ih h
          (log ++ [(node.addr, n.valueRequest key, some (.findValueResult result))])
        refine ⟨(node.addr, n.valueRequest key, some (.findValueResult result)) :: exchanges, ?_,
          ?_⟩
        · rw [if_pos hempty, hrest, List.append_assoc]
          rfl
        · have hnone : found (some (.findValueResult result)) = [] := List.isEmpty_iff.1 hempty
          rw [flatten_answers_cons, hds, hnone, List.nil_append]
      · obtain ⟨rfl, rfl⟩ := Prod.mk.inj h
        refine ⟨[(node.addr, n.valueRequest key, some (.findValueResult result))], ?_, ?_⟩
        · rw [if_neg hempty]
        · simp [answers, found]
    case h_2 hother =>
      obtain ⟨exchanges, hrest, hds⟩ := ih h (log ++ [(node.addr, n.valueRequest key, response)])
      refine ⟨(node.addr, n.valueRequest key, response) :: exchanges, ?_, ?_⟩
      · rw [hrest, List.append_assoc]
        rfl
      · rw [flatten_answers_cons, hds, found_of_not_value hother, List.nil_append]

lemma lookupLoop_recorded {alpha : ℕ} {key : Hash} {fuel : ℕ} : ∀ {n n' : DhtNode S H} {t t' : τ}
    {candidates : List NodeInfo} {queried : List Hash} {ds : List Descriptor},
    lookupLoop alpha key fuel n t candidates queried = some (ds, n', t') → ∀ log, ∃ exchanges,
      lookupLoop alpha key fuel n (Recorded.mk t log) candidates queried =
        some (ds, n', ⟨t', log ++ exchanges⟩) ∧ (answers exchanges).flatten = ds := by
  induction fuel with
  | zero =>
    intro n n' t t' candidates queried ds h
    cases h
  | succ fuel ih =>
    intro n n' t t' candidates queried ds h log
    rw [lookupLoop] at h ⊢
    by_cases hempty : ((candidates.filter fun c => c.identity.nodeId ∉ queried).take alpha).isEmpty
    · rw [if_pos hempty] at h ⊢
      obtain ⟨rfl, rfl, rfl⟩ := h
      exact ⟨[], by simp, rfl⟩
    · rw [if_neg hempty] at h ⊢
      obtain ⟨⟨collected, newNodes, n₁, t₁⟩, hquery, h⟩ := Option.bind_eq_some_iff.1 h
      obtain ⟨exchanges, hrecord, hcollected⟩ := queryNodes_recorded hquery log
      rw [hrecord, Option.bind_eq_bind, Option.bind_some]
      dsimp only at h ⊢
      by_cases hnothing : newNodes.isEmpty ∧ collected.isEmpty
      · rw [if_pos hnothing] at h ⊢
        obtain ⟨rfl, rfl, rfl⟩ := h
        exact ⟨exchanges, rfl, hcollected.trans (List.isEmpty_iff.1 hnothing.2)⟩
      · rw [if_neg hnothing] at h ⊢
        obtain ⟨sorted, hsort, h⟩ := Option.bind_eq_some_iff.1 h
        rw [hsort, Option.bind_eq_bind, Option.bind_some]
        by_cases hfound : ¬ collected.isEmpty
        · rw [if_pos hfound] at h ⊢
          obtain ⟨rfl, rfl, rfl⟩ := h
          exact ⟨exchanges, rfl, hcollected⟩
        · rw [if_neg hfound] at h ⊢
          -- an iteration that goes on has received no descriptors
          obtain ⟨later, hloop, hds⟩ := ih h (log ++ exchanges)
          refine ⟨exchanges ++ later, ?_, ?_⟩
          · rw [hloop, List.append_assoc]
          · have hnone : (answers exchanges).flatten = [] := by
              rw [hcollected]
              exact List.isEmpty_iff.1 (not_not.1 hfound)
            rw [answers, List.map_append, List.flatten_append, ← answers, ← answers, hnone, hds,
              List.nil_append]

/-- A lookup returns the descriptors of the answers it receives: all of them, in their order. -/
theorem lookupValue_recorded {alpha fuel : ℕ} {n n' : DhtNode S H} {t t' : τ} {key : Hash}
    {ds : List Descriptor} (h : n.lookupValue alpha fuel t key = some (ds, n', t')) :
    ∃ exchanges, n.lookupValue alpha fuel (Recorded.mk t []) key =
      some (ds, n', ⟨t', exchanges⟩) ∧ (answers exchanges).flatten = ds := by
  obtain ⟨initial, hinitial, h⟩ := Option.bind_eq_some_iff.1 h
  obtain ⟨⟨collected, n₁, t₁⟩, hloop, h⟩ := Option.bind_eq_some_iff.1 h
  obtain ⟨exchanges, hrecord, hcollected⟩ := lookupLoop_recorded hloop []
  rw [lookupValue, hinitial, Option.bind_eq_bind, Option.bind_some, hrecord, Option.bind_eq_bind,
    Option.bind_some, List.nil_append]
  dsimp only at h ⊢
  split_ifs at h ⊢ with hnone
  · rcases hbroadcast : n₁.broadcast t₁ key n₁.routingTable.allNodes with ⟨descriptors, t₂⟩
    rw [hbroadcast] at h
    obtain ⟨rfl, rfl, rfl⟩ := h
    obtain ⟨later, hlater, hds⟩ := broadcast_recorded hbroadcast exchanges
    refine ⟨exchanges ++ later, ?_, ?_⟩
    · rw [hlater]
      rfl
    · rw [answers, List.map_append, List.flatten_append, ← answers, ← answers, hcollected,
        List.isEmpty_iff.1 hnone.1, hds, List.nil_append]
  · obtain ⟨rfl, rfl, rfl⟩ := h
    exact ⟨exchanges, rfl, hcollected⟩

end DhtNode

/-! ## Authentic results -/

/-- The descriptors are valid at the given time and list the key, and no two have the same id. -/
structure Authentic [Crypto] (key : Hash) (now : UInt64) (ds : List Descriptor) : Prop where
  valid : ∀ d ∈ ds, d.validate now = .ok ()
  relevant : ∀ d ∈ ds, key ∈ d.routingKeys
  distinct : (ds.map Descriptor.id).Nodup

/-- No peer answered with a descriptor that is invalid at the given time or does not list the key,
no answer repeats an id, and no two answers share one. -/
structure HonestAnswers [Crypto] (key : Hash) (now : UInt64)
    (exchanges : List (NodeAddr × Request × Option Response)) : Prop where
  each : ∀ answer ∈ answers exchanges, ∀ d ∈ answer, d.validate now = .ok () ∧ key ∈ d.routingKeys
  unrepeated : ∀ answer ∈ answers exchanges, (answer.map Descriptor.id).Nodup
  unshared : (answers exchanges).Pairwise fun answer answer' =>
    ∀ d ∈ answer, ∀ d' ∈ answer', d.id ≠ d'.id

lemma authentic_iff [Crypto] {key : Hash} {now : UInt64}
    {exchanges : List (NodeAddr × Request × Option Response)} :
    Authentic key now (answers exchanges).flatten ↔ HonestAnswers key now exchanges := by
  have hdistinct : ((answers exchanges).flatten.map Descriptor.id).Nodup ↔
      (∀ answer ∈ answers exchanges, (answer.map Descriptor.id).Nodup) ∧
        (answers exchanges).Pairwise fun answer answer' =>
          ∀ d ∈ answer, ∀ d' ∈ answer', d.id ≠ d'.id := by
    rw [List.map_flatten, List.nodup_flatten, List.forall_mem_map, List.pairwise_map]
    refine and_congr_right fun _ => List.Pairwise.iff fun answer answer' => ?_
    rw [List.disjoint_left]
    constructor
    · intro h d hd d' hd' heq
      exact h (List.mem_map_of_mem hd) (heq ▸ List.mem_map_of_mem hd')
    · intro h id hid hid'
      obtain ⟨d, hd, rfl⟩ := List.mem_map.1 hid
      obtain ⟨d', hd', heq⟩ := List.mem_map.1 hid'
      exact h d hd d' hd' heq.symm
  constructor
  · intro h
    refine ⟨fun answer hanswer d hd => ?_, (hdistinct.1 h.distinct).1, (hdistinct.1 h.distinct).2⟩
    have hmem : d ∈ (answers exchanges).flatten := List.mem_flatten.2 ⟨answer, hanswer, hd⟩
    exact ⟨h.valid d hmem, h.relevant d hmem⟩
  · intro h
    refine ⟨fun d hd => ?_, fun d hd => ?_, hdistinct.2 ⟨h.unrepeated, h.unshared⟩⟩
    · obtain ⟨answer, hanswer, hmem⟩ := List.mem_flatten.1 hd
      exact (h.each answer hanswer d hmem).1
    · obtain ⟨answer, hanswer, hmem⟩ := List.mem_flatten.1 hd
      exact (h.each answer hanswer d hmem).2

/-! ## The client -/

/-- A client: a node with a store in memory, and its transport. -/
structure MeshClient [Crypto] (τ : Type) where
  node : DhtNode DescriptorStore NoOpHook
  transport : τ

/-- Errors of a client: the transport's and the codec's, and an answer of another type. -/
inductive ClientError where
  | transport
  | codec
  | unexpectedResponse (msgType : UInt8)
deriving DecidableEq, Repr

/-- The error of a client that expects a type of message and is brought none.  It looks at the type
of a frame before it decodes the body. -/
def NoReply.clientError (expected : UInt8) : NoReply → ClientError
  | .transport => .transport
  | .undecodable msgType => if msgType = expected then .codec else .unexpectedResponse msgType

namespace MeshClient

variable [Crypto] {τ : Type} [Transport τ]

/-- `discover`: an iterative lookup only, with the default α of 3. -/
def discover (fuel : ℕ) (c : MeshClient τ) (routingKey : Hash) :
    Option (List Descriptor × MeshClient τ) := do
  let (results, node, transport) ← c.node.lookupValue 3 fuel c.transport routingKey
  return (results, ⟨node, transport⟩)

/-- `query_node`: sends a FIND_VALUE to a node, without the DHT's routing. -/
def queryNode (c : MeshClient τ) (routingKey : Hash) (target : NodeAddr) :
    Except ClientError (List Descriptor) × MeshClient τ :=
  let request : Request := .findValue ⟨c.node.identity, c.node.addr, routingKey, 100, none⟩
  let (response, transport) := Transport.sendRequest c.transport target request
  match response with
  | none =>
    let noReply := Transport.noReply c.transport target request
    (.error (noReply.clientError MSG_FIND_VALUE_RESULT), { c with transport })
  | some (.findValueResult result) => (.ok (result.descriptors.getD []), { c with transport })
  | some other => (.error (.unexpectedResponse other.msgType), { c with transport })

/-- `discover_from`: a lookup that falls back to asking the given node. -/
def discoverFrom (fuel : ℕ) (c : MeshClient τ) (routingKey : Hash) (target : NodeAddr) :
    Option (Except ClientError (List Descriptor) × MeshClient τ) := do
  let (results, c) ← c.discover fuel routingKey
  if ¬ results.isEmpty then return (.ok results, c)
  return c.queryNode routingKey target

/-- The client with a transport that keeps the answers. -/
def recording (c : MeshClient τ) : MeshClient (Recorded τ) := ⟨c.node, ⟨c.transport, []⟩⟩

lemma queryNode_recorded {c c' : MeshClient τ} {routingKey : Hash} {target : NodeAddr}
    {ds : List Descriptor} (h : c.queryNode routingKey target = (.ok ds, c'))
    (log : List (NodeAddr × Request × Option Response)) : ∃ exchange,
      (MeshClient.mk c.node (Recorded.mk c.transport log)).queryNode routingKey target =
        (.ok ds, ⟨c'.node, ⟨c'.transport, log ++ [exchange]⟩⟩) ∧ found exchange.2.2 = ds := by
  rcases hsend : Transport.sendRequest c.transport target
    (.findValue ⟨c.node.identity, c.node.addr, routingKey, 100, none⟩) with ⟨response, t⟩
  have hrecord := sendRequest_recorded hsend log
  rw [queryNode] at h ⊢
  rw [hsend] at h
  rw [hrecord]
  dsimp only at h ⊢
  split at h
  case h_2 result =>
    obtain ⟨hds, rfl⟩ := Prod.mk.inj h
    exact ⟨_, congrArg (·, _) (congrArg Except.ok (Except.ok.inj hds)), Except.ok.inj hds⟩
  all_goals cases (Prod.mk.inj h).1

/-- Nor does a lookup with a fallback return anything but the descriptors of its answers. -/
lemma discoverFrom_recorded {fuel : ℕ} {c c' : MeshClient τ} {routingKey : Hash} {target : NodeAddr}
    {ds : List Descriptor} (h : c.discoverFrom fuel routingKey target = some (.ok ds, c')) :
    ∃ exchanges, c.recording.discoverFrom fuel routingKey target =
      some (.ok ds, ⟨c'.node, ⟨c'.transport, exchanges⟩⟩) ∧ (answers exchanges).flatten = ds := by
  obtain ⟨⟨_, c₁⟩, hdiscover, h⟩ := Option.bind_eq_some_iff.1 h
  obtain ⟨⟨results, node, transport⟩, hlookup, heq⟩ := Option.bind_eq_some_iff.1 hdiscover
  obtain ⟨rfl, rfl⟩ := Prod.mk.inj (Option.some.inj heq)
  obtain ⟨exchanges, hrecord, hresults⟩ := DhtNode.lookupValue_recorded hlookup
  have hstart : c.recording.discover fuel routingKey =
      some (results, ⟨node, ⟨transport, exchanges⟩⟩) := by
    rw [discover, recording, hrecord]
    rfl
  rw [discoverFrom, hstart, Option.bind_eq_bind, Option.bind_some]
  dsimp only at h ⊢
  by_cases hempty : ¬ results.isEmpty
  · rw [if_pos hempty] at h ⊢
    obtain ⟨hds, rfl⟩ := Prod.mk.inj (Option.some.inj h)
    obtain rfl := Except.ok.inj hds
    exact ⟨exchanges, rfl, hresults⟩
  · rw [if_neg hempty] at h ⊢
    obtain ⟨exchange, hquery, hds⟩ := queryNode_recorded (Option.some.inj h) exchanges
    refine ⟨exchanges ++ [exchange], congrArg some hquery, ?_⟩
    rw [answers, List.map_append, List.flatten_append, ← answers, hresults,
      List.isEmpty_iff.1 (not_not.1 hempty), List.nil_append, List.map_singleton,
      List.flatten_singleton, hds]

end MeshClient

/-- A lookup returns descriptors that are valid and list the key, no two with one id, exactly if the
peers that were asked answered with such descriptors; and so do the two ways to discover. -/
theorem discovery_authentic_iff [Crypto] {τ : Type} [Transport τ] (clock : τ → UInt64)
    (key : Hash) :
    (∀ (S H : Type) (n n' : DhtNode S H) (alpha fuel : ℕ) (t t' : τ) (ds : List Descriptor),
      n.lookupValue alpha fuel t key = some (ds, n', t') →
      ∃ exchanges,
        n.lookupValue alpha fuel (Recorded.mk t []) key = some (ds, n', ⟨t', exchanges⟩) ∧
        (Authentic key (clock t') ds ↔ HonestAnswers key (clock t') exchanges)) ∧
    (∀ (fuel : ℕ) (c c' : MeshClient τ) (ds : List Descriptor),
      c.discover fuel key = some (ds, c') →
      ∃ exchanges, c.recording.discover fuel key =
          some (ds, ⟨c'.node, ⟨c'.transport, exchanges⟩⟩) ∧
        (Authentic key (clock c'.transport) ds ↔
          HonestAnswers key (clock c'.transport) exchanges)) ∧
    ∀ (fuel : ℕ) (c c' : MeshClient τ) (target : NodeAddr) (ds : List Descriptor),
      c.discoverFrom fuel key target = some (.ok ds, c') →
      ∃ exchanges, c.recording.discoverFrom fuel key target =
          some (.ok ds, ⟨c'.node, ⟨c'.transport, exchanges⟩⟩) ∧
        (Authentic key (clock c'.transport) ds ↔
          HonestAnswers key (clock c'.transport) exchanges) := by
  refine ⟨?_, ?_, ?_⟩
  · intro S H n n' alpha fuel t t' ds h
    obtain ⟨exchanges, hrecord, rfl⟩ := DhtNode.lookupValue_recorded h
    exact ⟨exchanges, hrecord, authentic_iff⟩
  · intro fuel c c' ds h
    obtain ⟨⟨_, node, transport⟩, hlookup, heq⟩ := Option.bind_eq_some_iff.1 h
    obtain ⟨rfl, rfl⟩ := Prod.mk.inj (Option.some.inj heq)
    obtain ⟨exchanges, hrecord, rfl⟩ := DhtNode.lookupValue_recorded hlookup
    refine ⟨exchanges, ?_, authentic_iff⟩
    rw [MeshClient.discover, MeshClient.recording, hrecord]
    rfl
  · intro fuel c c' target ds h
    obtain ⟨exchanges, hrecord, rfl⟩ := MeshClient.discoverFrom_recorded h
    exact ⟨exchanges, hrecord, authentic_iff⟩

/-! ## Three ways to answer -/

/-- Peers that always give the same answer, by their address. -/
structure Scripted where
  descriptors : NodeAddr → List Descriptor

instance : Transport Scripted where
  sendRequest peers addr _ := (some (.findValueResult ⟨some (peers.descriptors addr), none⟩), peers)

/-- Where the second and the third publisher are. -/
def secondAddr : NodeAddr := .quic "198.51.100.2:4433"
def thirdAddr : NodeAddr := .quic "198.51.100.3:4433"

/-- A client that knows the second and the third publisher. -/
def clientOf [Crypto] (peers : Scripted) : Option (MeshClient Scripted) := do
  let n ← DhtNode.learn (.withStore firstPublisher (.quic "198.51.100.1:4433") {} .new)
    ⟨secondPublisher, secondAddr, 0⟩
  let n ← n.learn ⟨thirdPublisher, thirdAddr, 0⟩
  return ⟨n, peers⟩

/-- A descriptor for another routing key, which nobody signed. -/
def strayTarget : Descriptor :=
  { target with routingKeys := [hubKey], signature := [], fit := by decide }

/-- One of the two peers has the descriptor, or both have it. -/
def oneHolder : Scripted := ⟨fun addr => if addr = secondAddr then [target] else []⟩
def twoHolders : Scripted := ⟨fun _ => [target]⟩

/-- One peer answers with a stray descriptor. -/
def oneForger : Scripted := ⟨fun addr => if addr = secondAddr then [strayTarget] else []⟩

/-- A single holder's descriptor is authentic. -/
theorem oneHolder_authentic :
    letI : Crypto := cryptoOf [target]
    ∃ client client' : MeshClient Scripted, clientOf oneHolder = some client ∧
      client.discover 1 computeKey = some ([target], client') ∧
      Authentic computeKey 1700000000000000 [target] := by
  let _ : Crypto := cryptoOf [target]
  have hsome : (clientOf oneHolder).isSome := by decide +kernel
  obtain ⟨client, hclient⟩ := Option.isSome_iff_exists.1 hsome
  have hfound : ((clientOf oneHolder).bind fun client => client.discover 1 computeKey).map
      Prod.fst = some [target] := by decide +kernel
  have hanswers : ((clientOf oneHolder).bind fun client =>
      client.recording.discover 1 computeKey).map (fun r => answers r.2.transport.exchanges) =
        some [[target], []] := by decide +kernel
  rw [hclient, Option.bind_some] at hfound hanswers
  obtain ⟨⟨_, client'⟩, hdiscover, rfl⟩ := Option.map_eq_some_iff.1 hfound
  obtain ⟨exchanges, hrecord, hiff⟩ := (discovery_authentic_iff
    (fun _ : Scripted => 1700000000000000) computeKey).2.1 1 client client' _ hdiscover
  rw [hrecord, Option.map_some, Option.some.injEq] at hanswers
  refine ⟨client, client', hclient, hdiscover, hiff.2 ⟨?_, ?_, ?_⟩⟩
  · rw [hanswers]
    decide +kernel
  · rw [hanswers]
    decide +kernel
  · rw [hanswers]
    decide +kernel

/-- Two holders make the lookup return the descriptor twice, and a forger has its own returned. -/
theorem unchecked_answers_returned :
    letI : Crypto := cryptoOf [target]
    (((clientOf twoHolders).bind fun client => client.discover 1 computeKey).map Prod.fst =
        some [target, target] ∧ ¬ Authentic computeKey 1700000000000000 [target, target]) ∧
      ((clientOf oneForger).bind fun client => client.discover 1 computeKey).map Prod.fst =
        some [strayTarget] ∧
      strayTarget.validate 1700000000000000 ≠ .ok () ∧ computeKey ∉ strayTarget.routingKeys := by
  let _ : Crypto := cryptoOf [target]
  have hrepeated : ¬ ([target, target].map Descriptor.id).Nodup := by decide +kernel
  exact ⟨⟨by decide +kernel, fun h => hrepeated h.distinct⟩, by decide +kernel, by decide +kernel,
    by decide +kernel⟩

end MeshProtocol
