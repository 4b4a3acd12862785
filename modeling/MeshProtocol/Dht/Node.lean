import MeshProtocol.Dht.DescriptorStore
import MeshProtocol.Dht.Routing

/-!
# DHT node (`mesh-dht/src/node.rs`, `hooks.rs`)

A node ties together a routing table, a storage backend and the handlers of the four requests.
A handler is `Option`-valued: `none` is a panic, which only an index out of bounds can cause.
The clock readings a handler makes are one argument.

The node's keypair and the lookups it makes on its own behalf are left out; what lookups do to the
routing table is `learn`.
-/

namespace MeshProtocol

variable [Crypto]

/-! ## Sender binding -/

/-- Verify that a message's sender is the TLS-authenticated peer. -/
def verifySenderBinding (msgSender : Identity) (peerIdentity : Option Identity) :
    Except String Unit :=
  match peerIdentity with
  | some peerId =>
    if msgSender ≠ peerId then
      .error ("sender-TLS binding failed: message claims " ++ msgSender.did ++
        " but TLS cert is " ++ peerId.did)
    else .ok ()
  | none =>
    .error ("sender-TLS binding failed: no peer identity available for sender " ++ msgSender.did)

/-- Only the peer itself is accepted as the sender. -/
lemma verifySenderBinding_eq_ok_iff {msgSender : Identity} {peerIdentity : Option Identity} :
    verifySenderBinding msgSender peerIdentity = .ok () ↔ peerIdentity = some msgSender := by
  unfold verifySenderBinding
  cases peerIdentity with
  | none => simp
  | some peerId =>
    by_cases h : msgSender = peerId
    · simp [h]
    · simp [h, Ne.symm h]

/-! ## Hooks -/

/-- Hooks for policy on DHT operations, with states `H`; the default hooks accept everything. -/
class ProtocolHook (H : Type) where
  /-- Called before storing a descriptor; an error rejects it. -/
  preStore : H → Descriptor → (clock : UInt64) → Except String Unit × H := fun h _ _ => (.ok (), h)
  /-- Called after a descriptor is stored. -/
  postStore : H → Descriptor → H := fun h _ => h
  /-- Called before a query; an error rejects it. -/
  preQuery : H → Hash → (clock : UInt64) → Except String Unit × H := fun h _ _ => (.ok (), h)
  /-- Called after query results are produced. -/
  postQuery : H → Hash → (resultCount : ℕ) → H := fun h _ _ => h

/-- Hooks that do nothing. -/
structure NoOpHook where

instance : ProtocolHook NoOpHook where

/-! ## The node -/

/-- Configuration of a node. -/
structure DhtConfig where
  /-- Maximum descriptors to return for a FIND_VALUE response. -/
  maxFindValueResults : UInt16 := 20

/-- A DHT node: identity, address, routing table, storage, configuration and hooks. -/
structure DhtNode (S H : Type) where
  identity : Identity
  addr : NodeAddr
  routingTable : RoutingTable
  store : S
  config : DhtConfig
  hooks : Option H
  localId_eq : routingTable.localId = identity.nodeId

namespace DhtNode

variable {S H : Type}

/-- A node with the given storage and without hooks. -/
def withStore (identity : Identity) (addr : NodeAddr) (config : DhtConfig) (store : S) :
    DhtNode S H where
  identity := identity
  addr := addr
  routingTable := .new identity.nodeId
  store := store
  config := config
  hooks := none
  localId_eq := rfl

/-- The node with hooks attached. -/
def withHooks (n : DhtNode S H) (hooks : H) : DhtNode S H := { n with hooks := some hooks }

/-- This node's DHT ID. -/
def nodeId (n : DhtNode S H) : Hash := n.identity.nodeId

/-- Adds a node to the routing table.  A full bucket keeps its least-recently-seen node and discards
the candidate. -/
def learn (n : DhtNode S H) (node : NodeInfo) : Option (DhtNode S H) :=
  match h : n.routingTable.addNode node with
  | none => none
  | some (_, table) =>
    some { n with
      routingTable := table
      localId_eq := (RoutingTable.localId_of_addNode h).trans n.localId_eq }

/-- Adds or updates the sender of a message in the routing table. -/
def updateRoutingTable (n : DhtNode S H) (sender : Identity) (senderAddr : NodeAddr)
    (clock : UInt64) : Option (DhtNode S H) :=
  n.learn ⟨sender, senderAddr, clock⟩

/-! ## Handlers -/

/-- Handle a PING request. -/
def handlePing (n : DhtNode S H) (ping : Ping) (clock : UInt64) :
    Option (Pong × DhtNode S H) := do
  let n ← n.updateRoutingTable ping.sender ping.senderAddr clock
  return (⟨n.identity, n.addr, ping.senderAddr⟩, n)

/-- Handle a FIND_NODE request: up to `K` closest nodes, with this node among them if it fits. -/
def handleFindNode (n : DhtNode S H) (findNode : FindNode) (clock : UInt64) :
    Option (FindNodeResult × DhtNode S H) := do
  let n ← n.updateRoutingTable findNode.sender findNode.senderAddr clock
  let nodes ← n.routingTable.closestNodes findNode.target K
  let selfInfo : NodeInfo := ⟨n.identity, n.addr, clock⟩
  let nodes :=
    if (∀ node ∈ nodes, node.identity ≠ n.identity) ∧ nodes.length < K then nodes ++ [selfInfo]
    else nodes
  return (⟨nodes⟩, n)

/-- The answer to a FIND_VALUE request for which storage has the given descriptors. -/
def findResult (n : DhtNode S H) (findValue : FindValue) (descriptors : List Descriptor) :
    Option FindValueResult :=
  if descriptors.isEmpty then
    -- no descriptors: the closest nodes instead
    (n.routingTable.closestNodes findValue.key K).map fun nodes => ⟨none, some nodes⟩
  else
    -- the number the client asks for, capped by the configuration
    let max := min findValue.maxResults.toNat n.config.maxFindValueResults.toNat
    some ⟨some (descriptors.take max), none⟩

variable [DescriptorStorage S] [ProtocolHook H]

/-- The store of a STORE request, once the hooks let it pass. -/
def storeAccepted (n : DhtNode S H) (d : Descriptor) (clock : UInt64) : StoreAck × DhtNode S H :=
  match DescriptorStorage.storeDescriptor n.store d clock with
  | (.ok (), store) =>
    (⟨true, none⟩, { n with store, hooks := n.hooks.map (ProtocolHook.postStore · d) })
  | (.error e, store) => (⟨false, some e.message⟩, { n with store })

/-- Handle a STORE request. -/
def handleStore (n : DhtNode S H) (storeReq : Store) (clock : UInt64) :
    Option (StoreAck × DhtNode S H) := do
  let n ← n.updateRoutingTable storeReq.sender storeReq.senderAddr clock
  match n.hooks with
  | none => return n.storeAccepted storeReq.descriptor clock
  | some hooks =>
    match ProtocolHook.preStore hooks storeReq.descriptor clock with
    | (.error reason, hooks) => return (⟨false, some reason⟩, { n with hooks := some hooks })
    | (.ok (), hooks) =>
      return storeAccepted { n with hooks := some hooks } storeReq.descriptor clock

/-- The lookup of a FIND_VALUE request, once the hooks let it pass. -/
def findAccepted (n : DhtNode S H) (findValue : FindValue) (clock : UInt64) :
    Option (FindValueResult × DhtNode S H) := do
  let (descriptors, store) :=
    DescriptorStorage.getDescriptors n.store findValue.key findValue.filters clock
  let result ← n.findResult findValue descriptors
  let count := result.descriptors.elim 0 List.length
  let hooks := n.hooks.map (ProtocolHook.postQuery · findValue.key count)
  return (result, { n with store, hooks })

/-- Handle a FIND_VALUE request. -/
def handleFindValue (n : DhtNode S H) (findValue : FindValue) (clock : UInt64) :
    Option (FindValueResult × DhtNode S H) := do
  let n ← n.updateRoutingTable findValue.sender findValue.senderAddr clock
  match n.hooks with
  | none => n.findAccepted findValue clock
  | some hooks =>
    match ProtocolHook.preQuery hooks findValue.key clock with
    | (.error _, hooks) => return (⟨none, none⟩, { n with hooks := some hooks })
    | (.ok (), hooks) => findAccepted { n with hooks := some hooks } findValue clock

/-! ## Requests -/

/-- Answers a request (`dispatch_request` of `mesh-node/src/main.rs`); one whose sender is not the
TLS peer gets no answer. -/
def dispatchRequest (n : DhtNode S H) (request : Request) (peerIdentity : Option Identity)
    (clock : UInt64) : Option (Option Response × DhtNode S H) :=
  match verifySenderBinding request.sender peerIdentity with
  | .error _ => some (none, n)
  | .ok () =>
    match request with
    | .ping ping => (n.handlePing ping clock).map fun (pong, n) => (some (.pong pong), n)
    | .store storeReq =>
      (n.handleStore storeReq clock).map fun (ack, n) => (some (.storeAck ack), n)
    | .findNode findNode =>
      (n.handleFindNode findNode clock).map fun (result, n) => (some (.findNodeResult result), n)
    | .findValue findValue =>
      (n.handleFindValue findValue clock).map fun (result, n) => (some (.findValueResult result), n)

/-- What happens to a node: a request, a node heard of in a lookup, or a use of the storage by the
node itself, such as evicting what has expired. -/
inductive Step (S : Type) [DescriptorStorage S] where
  | request (request : Request) (peerIdentity : Option Identity) (clock : UInt64)
  | learn (node : NodeInfo)
  | storage (call : StorageCall S)

/-- The node after a step, unless the step panics. -/
def step (n : DhtNode S H) : Step S → Option (DhtNode S H)
  | .request request peerIdentity clock =>
    (n.dispatchRequest request peerIdentity clock).map Prod.snd
  | .learn node => n.learn node
  | .storage call => some { n with store := ((storageMachine S).step n.store call).2 }

/-- The node after a run, unless a step panics. -/
def run (n : DhtNode S H) : List (Step S) → Option (DhtNode S H)
  | [] => some n
  | s :: steps => (n.step s).bind (·.run steps)

/-! ## What a request does -/

omit [DescriptorStorage S] [ProtocolHook H] in
/-- A node can always take a sender into its table. -/
lemma learn_isSome (n : DhtNode S H) (node : NodeInfo) : (n.learn node).isSome := by
  have hlocal : 32 ≤ n.routingTable.localId.digest.length := by
    rw [n.localId_eq, Identity.length_nodeId_digest]
  have hsome := RoutingTable.addNode_isSome hlocal node
  unfold learn
  split
  case h_1 hnone =>
    rw [hnone] at hsome
    cases hsome
  case h_2 => rfl

/-- A node is entered into the routing table, and everything else is as it was. -/
structure Learned (n : DhtNode S H) (node : NodeInfo) (n' : DhtNode S H) : Prop where
  identity : n'.identity = n.identity
  addr : n'.addr = n.addr
  store : n'.store = n.store
  config : n'.config = n.config
  hooks : n'.hooks = n.hooks
  table : ∃ result, n.routingTable.addNode node = some (result, n'.routingTable)

omit [DescriptorStorage S] [ProtocolHook H] in
lemma learned_of_learn {n n' : DhtNode S H} {node : NodeInfo} (h : n.learn node = some n') :
    n.Learned node n' := by
  unfold learn at h
  split at h
  case h_1 => cases h
  case h_2 result table hadd =>
    obtain rfl := Option.some.inj h
    exact ⟨rfl, rfl, rfl, rfl, rfl, result, hadd⟩

omit [DescriptorStorage S] [ProtocolHook H] in
/-- Hearing a sender changes the routing table only. -/
lemma updateRoutingTable_cases {n n' : DhtNode S H} {sender : Identity} {senderAddr : NodeAddr}
    {clock : UInt64} (h : n.updateRoutingTable sender senderAddr clock = some n') :
    n'.store = n.store ∧ n'.hooks = n.hooks ∧ ∃ result,
      n.routingTable.addNode ⟨sender, senderAddr, clock⟩ = some (result, n'.routingTable) := by
  have hlearned := learned_of_learn h
  exact ⟨hlearned.store, hlearned.hooks, hlearned.table⟩

omit [DescriptorStorage S] [ProtocolHook H] in
/-- A PING does no more than hear its sender. -/
lemma handlePing_cases {n n' : DhtNode S H} {ping : Ping} {clock : UInt64} {pong : Pong}
    (h : n.handlePing ping clock = some (pong, n')) :
    n.updateRoutingTable ping.sender ping.senderAddr clock = some n' ∧
      pong = ⟨n'.identity, n'.addr, ping.senderAddr⟩ := by
  obtain ⟨n₁, hn₁, hrest⟩ := Option.bind_eq_some_iff.1 h
  obtain ⟨rfl, rfl⟩ := Prod.mk.inj (Option.some.inj hrest)
  exact ⟨hn₁, rfl⟩

omit [DescriptorStorage S] [ProtocolHook H] in
/-- Nor does a FIND_NODE. -/
lemma handleFindNode_cases {n n' : DhtNode S H} {findNode : FindNode} {clock : UInt64}
    {result : FindNodeResult} (h : n.handleFindNode findNode clock = some (result, n')) :
    n.updateRoutingTable findNode.sender findNode.senderAddr clock = some n' := by
  obtain ⟨n₁, hn₁, hrest⟩ := Option.bind_eq_some_iff.1 h
  obtain ⟨nodes, -, hlast⟩ := Option.bind_eq_some_iff.1 hrest
  obtain ⟨-, rfl⟩ := Prod.mk.inj (Option.some.inj hlast)
  exact hn₁

/-- Once its sender is heard, a STORE is accepted where there are no hooks; hooks refuse it or let
it pass. -/
lemma handleStore_cases {n n' : DhtNode S H} {storeReq : Store} {clock : UInt64} {ack : StoreAck}
    (h : n.handleStore storeReq clock = some (ack, n')) :
    ∃ n₁, n.updateRoutingTable storeReq.sender storeReq.senderAddr clock = some n₁ ∧
      ((n₁.hooks = none ∧ n₁.storeAccepted storeReq.descriptor clock = (ack, n')) ∨
        (∃ hooks reason hooks', n₁.hooks = some hooks ∧
          ProtocolHook.preStore hooks storeReq.descriptor clock = (.error reason, hooks') ∧
          ack = ⟨false, some reason⟩ ∧ n' = { n₁ with hooks := some hooks' }) ∨
        ∃ hooks hooks', n₁.hooks = some hooks ∧
          ProtocolHook.preStore hooks storeReq.descriptor clock = (.ok (), hooks') ∧
          storeAccepted { n₁ with hooks := some hooks' } storeReq.descriptor clock =
            (ack, n')) := by
  obtain ⟨n₁, hn₁, hrest⟩ := Option.bind_eq_some_iff.1 h
  refine ⟨n₁, hn₁, ?_⟩
  cases hhooks : n₁.hooks with
  | none =>
    simp only [hhooks] at hrest
    exact .inl ⟨rfl, Option.some.inj hrest⟩
  | some hooks =>
    cases hverdict : ProtocolHook.preStore hooks storeReq.descriptor clock with
    | mk verdict hooks' =>
      cases verdict with
      | error reason =>
        simp only [hhooks, hverdict] at hrest
        obtain ⟨rfl, rfl⟩ := Prod.mk.inj (Option.some.inj hrest)
        exact .inr (.inl ⟨hooks, reason, hooks', rfl, hverdict, rfl, rfl⟩)
      | ok =>
        simp only [hhooks, hverdict] at hrest
        exact .inr (.inr ⟨hooks, hooks', rfl, hverdict, Option.some.inj hrest⟩)

omit [DescriptorStorage S] [ProtocolHook H] in
/-- A FIND_VALUE is answered with descriptors if there are any, and with nodes otherwise. -/
lemma findResult_cases {n : DhtNode S H} {f : FindValue} {ds : List Descriptor}
    {result : FindValueResult} (h : n.findResult f ds = some result) :
    (ds ≠ [] ∧
        result = ⟨some (ds.take (min f.maxResults.toNat n.config.maxFindValueResults.toNat)),
          none⟩) ∨
      (ds = [] ∧ ∃ nodes, n.routingTable.closestNodes f.key K = some nodes ∧
        result = ⟨none, some nodes⟩) := by
  cases ds with
  | nil =>
    obtain ⟨nodes, hnodes, rfl⟩ := Option.map_eq_some_iff.1 h
    exact .inr ⟨rfl, nodes, hnodes, rfl⟩
  | cons d ds =>
    obtain rfl := Option.some.inj h
    exact .inl ⟨List.cons_ne_nil d ds, rfl⟩

/-- Once its sender is heard, a FIND_VALUE is accepted where there are no hooks; hooks refuse it or
let it pass. -/
lemma handleFindValue_cases {n n' : DhtNode S H} {findValue : FindValue} {clock : UInt64}
    {result : FindValueResult} (h : n.handleFindValue findValue clock = some (result, n')) :
    ∃ n₁, n.updateRoutingTable findValue.sender findValue.senderAddr clock = some n₁ ∧
      ((n₁.hooks = none ∧ n₁.findAccepted findValue clock = some (result, n')) ∨
        (∃ hooks reason hooks', n₁.hooks = some hooks ∧
          ProtocolHook.preQuery hooks findValue.key clock = (.error reason, hooks') ∧
          result = ⟨none, none⟩ ∧ n' = { n₁ with hooks := some hooks' }) ∨
        ∃ hooks hooks', n₁.hooks = some hooks ∧
          ProtocolHook.preQuery hooks findValue.key clock = (.ok (), hooks') ∧
          findAccepted { n₁ with hooks := some hooks' } findValue clock = some (result, n')) := by
  obtain ⟨n₁, hn₁, hrest⟩ := Option.bind_eq_some_iff.1 h
  refine ⟨n₁, hn₁, ?_⟩
  cases hhooks : n₁.hooks with
  | none =>
    simp only [hhooks] at hrest
    exact .inl ⟨rfl, hrest⟩
  | some hooks =>
    cases hverdict : ProtocolHook.preQuery hooks findValue.key clock with
    | mk verdict hooks' =>
      cases verdict with
      | error reason =>
        simp only [hhooks, hverdict] at hrest
        obtain ⟨rfl, rfl⟩ := Prod.mk.inj (Option.some.inj hrest)
        exact .inr (.inl ⟨hooks, reason, hooks', rfl, hverdict, rfl, rfl⟩)
      | ok =>
        simp only [hhooks, hverdict] at hrest
        exact .inr (.inr ⟨hooks, hooks', rfl, hverdict, hrest⟩)

/-- A request is dropped if its sender is not the TLS peer, and goes to the handler of its type
otherwise. -/
lemma dispatchRequest_cases {n n' : DhtNode S H} {request : Request}
    {peerIdentity : Option Identity} {clock : UInt64} {response : Option Response}
    (h : n.dispatchRequest request peerIdentity clock = some (response, n')) :
    (peerIdentity ≠ some request.sender ∧ response = none ∧ n' = n) ∨
      (peerIdentity = some request.sender ∧
        match request with
        | .ping ping => ∃ pong, n.handlePing ping clock = some (pong, n') ∧
            response = some (.pong pong)
        | .store storeReq => ∃ ack, n.handleStore storeReq clock = some (ack, n') ∧
            response = some (.storeAck ack)
        | .findNode findNode => ∃ result, n.handleFindNode findNode clock = some (result, n') ∧
            response = some (.findNodeResult result)
        | .findValue findValue => ∃ result, n.handleFindValue findValue clock = some (result, n') ∧
            response = some (.findValueResult result)) := by
  unfold dispatchRequest at h
  split at h
  case h_1 e hbinding =>
    obtain ⟨rfl, rfl⟩ := Prod.mk.inj (Option.some.inj h)
    refine .inl ⟨fun hsender => ?_, rfl, rfl⟩
    rw [verifySenderBinding_eq_ok_iff.2 hsender] at hbinding
    cases hbinding
  case h_2 hbinding =>
    refine .inr ⟨verifySenderBinding_eq_ok_iff.1 hbinding, ?_⟩
    cases request <;>
      · obtain ⟨⟨answer, n₁⟩, hanswer, heq⟩ := Option.map_eq_some_iff.1 h
        obtain ⟨rfl, rfl⟩ := Prod.mk.inj heq
        exact ⟨answer, hanswer, rfl⟩

/-! ## Hooks along requests -/

/-- A property of hooks that their own calls keep. -/
structure HookInvariant (P : H → Prop) : Prop where
  preStore : ∀ {h} d clock, P h → P (ProtocolHook.preStore h d clock).2
  postStore : ∀ {h} d, P h → P (ProtocolHook.postStore h d)
  preQuery : ∀ {h} key clock, P h → P (ProtocolHook.preQuery h key clock).2
  postQuery : ∀ {h} key count, P h → P (ProtocolHook.postQuery h key count)

/-- The node has hooks with a property. -/
def Hooked (n : DhtNode S H) (P : H → Prop) : Prop := ∃ hooks, n.hooks = some hooks ∧ P hooks

variable {P : H → Prop}

lemma hooked_storeAccepted (hP : HookInvariant P) {n : DhtNode S H} (hn : n.Hooked P)
    (d : Descriptor) (clock : UInt64) : (n.storeAccepted d clock).2.Hooked P := by
  obtain ⟨hooks, hhooks, hp⟩ := hn
  unfold storeAccepted
  split
  · exact ⟨_, by rw [hhooks, Option.map_some], hP.postStore d hp⟩
  · exact ⟨hooks, hhooks, hp⟩

/-- A STORE keeps the property, and is stored only if the hooks let it pass. -/
lemma handleStore_hooked (hP : HookInvariant P) {n n' : DhtNode S H} {hooks : H}
    (hhooks : n.hooks = some hooks) (hp : P hooks) {storeReq : Store} {clock : UInt64}
    {ack : StoreAck} (h : n.handleStore storeReq clock = some (ack, n')) :
    n'.Hooked P ∧ (ack.stored = true →
      (ProtocolHook.preStore hooks storeReq.descriptor clock).1 = .ok ()) := by
  obtain ⟨n₁, hn₁, hcases⟩ := handleStore_cases h
  have hsame : n₁.hooks = some hooks := (updateRoutingTable_cases hn₁).2.1.trans hhooks
  have hpre := hP.preStore storeReq.descriptor clock hp
  rcases hcases with ⟨hnone, -⟩ | ⟨_, reason, hooks', hsome, hverdict, rfl, rfl⟩ |
    ⟨_, hooks', hsome, hverdict, haccepted⟩
  · rw [hsame] at hnone
    cases hnone
  · obtain rfl := Option.some.inj (hsame.symm.trans hsome)
    rw [hverdict] at hpre
    exact ⟨⟨hooks', rfl, hpre⟩, fun hstored => by cases hstored⟩
  · obtain rfl := Option.some.inj (hsame.symm.trans hsome)
    rw [hverdict] at hpre
    obtain rfl : _ = n' := congrArg Prod.snd haccepted
    exact ⟨hooked_storeAccepted hP ⟨hooks', rfl, hpre⟩ _ _, fun _ => by rw [hverdict]⟩

lemma findAccepted_hooked (hP : HookInvariant P) {n n' : DhtNode S H} (hn : n.Hooked P)
    {findValue : FindValue} {clock : UInt64} {result : FindValueResult}
    (h : n.findAccepted findValue clock = some (result, n')) : n'.Hooked P := by
  obtain ⟨hooks, hhooks, hp⟩ := hn
  obtain ⟨result', -, hrest⟩ := Option.bind_eq_some_iff.1 h
  obtain rfl : _ = n' := congrArg Prod.snd (Option.some.inj hrest)
  exact ⟨_, by rw [hhooks, Option.map_some], hP.postQuery _ _ hp⟩

lemma handleFindValue_hooked (hP : HookInvariant P) {n n' : DhtNode S H} (hn : n.Hooked P)
    {findValue : FindValue} {clock : UInt64} {result : FindValueResult}
    (h : n.handleFindValue findValue clock = some (result, n')) : n'.Hooked P := by
  obtain ⟨hooks, hhooks, hp⟩ := hn
  obtain ⟨n₁, hn₁, hcases⟩ := handleFindValue_cases h
  have hsame : n₁.hooks = some hooks := (updateRoutingTable_cases hn₁).2.1.trans hhooks
  have hpre := hP.preQuery findValue.key clock hp
  rcases hcases with ⟨hnone, -⟩ | ⟨_, reason, hooks', hsome, hverdict, -, rfl⟩ |
    ⟨_, hooks', hsome, hverdict, haccepted⟩
  · rw [hsame] at hnone
    cases hnone
  · obtain rfl := Option.some.inj (hsame.symm.trans hsome)
    rw [hverdict] at hpre
    exact ⟨hooks', rfl, hpre⟩
  · obtain rfl := Option.some.inj (hsame.symm.trans hsome)
    rw [hverdict] at hpre
    exact findAccepted_hooked hP ⟨hooks', rfl, hpre⟩ haccepted

/-- Answering a request keeps the property. -/
theorem dispatchRequest_hooked (hP : HookInvariant P) {n n' : DhtNode S H} (hn : n.Hooked P)
    {request : Request} {peerIdentity : Option Identity} {clock : UInt64}
    {response : Option Response}
    (h : n.dispatchRequest request peerIdentity clock = some (response, n')) : n'.Hooked P := by
  rcases dispatchRequest_cases h with ⟨-, -, rfl⟩ | ⟨-, hhandled⟩
  · exact hn
  · obtain ⟨hooks, hhooks, hp⟩ := hn
    cases request with
    | ping ping =>
      obtain ⟨pong, hpong, -⟩ := hhandled
      have hheard := updateRoutingTable_cases (handlePing_cases hpong).1
      exact ⟨hooks, hheard.2.1.trans hhooks, hp⟩
    | store storeReq =>
      obtain ⟨ack, hack, -⟩ := hhandled
      exact (handleStore_hooked hP hhooks hp hack).1
    | findNode findNode =>
      obtain ⟨result, hresult, -⟩ := hhandled
      have hheard := updateRoutingTable_cases (handleFindNode_cases hresult)
      exact ⟨hooks, hheard.2.1.trans hhooks, hp⟩
    | findValue findValue =>
      obtain ⟨result, hresult, -⟩ := hhandled
      exact handleFindValue_hooked hP ⟨hooks, hhooks, hp⟩ hresult

end DhtNode

end MeshProtocol
