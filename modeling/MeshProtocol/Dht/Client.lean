import MeshProtocol.Core.Signing
import MeshProtocol.Dht.Discovery
import MeshProtocol.Dht.Simulation

/-!
# The client (`mesh-client/src/lib.rs`)

A client joins through seeds, publishes, discovers and pings.  A run of a client is a list of calls
(`MeshClient.machine`), between which the world may change; a call that panics ends it.
-/

namespace MeshProtocol

open Simulation

namespace MeshClient

variable [Crypto] [Ciborium] {τ : Type} [Transport τ]

/-- `bootstrap`. -/
def bootstrap (clock : τ → UInt64) (c : MeshClient τ) (seeds : List NodeAddr) :
    Option (ℕ × MeshClient τ) := do
  let (discovered, node, transport) ← c.node.bootstrap clock c.transport seeds
  return (discovered, ⟨node, transport⟩)

/-- The direct STORE that `publish` falls back to. -/
def storeAt (c : MeshClient τ) (d : Descriptor) (target : NodeAddr) :
    Except ClientError StoreAck × MeshClient τ :=
  let request : Request := .store ⟨c.node.identity, c.node.addr, d⟩
  let (response, transport) := Transport.sendRequest c.transport target request
  match response with
  | none =>
    let noReply := Transport.noReply c.transport target request
    (.error (noReply.clientError MSG_STORE_ACK), { c with transport })
  | some (.storeAck ack) => (.ok ack, { c with transport })
  | some other => (.error (.unexpectedResponse other.msgType), { c with transport })

/-- `publish`: replicates a descriptor, or stores it at the given node if that reached none. -/
def publish (clock : τ → UInt64) (c : MeshClient τ) (d : Descriptor) (target : NodeAddr) :
    Option (Except ClientError StoreAck × MeshClient τ) := do
  let (stored, node, transport) ← c.node.iterativeStore 3 clock c.transport d
  if stored > 0 then return (.ok ⟨true, none⟩, ⟨node, transport⟩)
  return storeAt ⟨node, transport⟩ d target

/-- `ping`. -/
def ping (c : MeshClient τ) (addr : NodeAddr) : Except ClientError Pong × MeshClient τ :=
  let request : Request := .ping ⟨c.node.identity, c.node.addr⟩
  let (response, transport) := Transport.sendRequest c.transport addr request
  match response with
  | none =>
    let noReply := Transport.noReply c.transport addr request
    (.error (noReply.clientError MSG_PONG), { c with transport })
  | some (.pong pong) => (.ok pong, { c with transport })
  | some other => (.error (.unexpectedResponse other.msgType), { c with transport })

/-- The payload of a capability: a map with its keys in order. -/
def capabilityPayload (capType endpoint : String) (params : Option String) : List UInt8 :=
  Cbor.encode (.map ((.text "endpoint", .text endpoint) :: Wire.optional "params" .text params ++
    [(.text "type", .text capType)]))

/-- `publish_capability`, with the key pair of the client. -/
def publishCapability (clock : τ → UInt64) (c : MeshClient τ) (keypair : Keypair)
    (capType endpoint : String) (params : Option String) (target : NodeAddr) :
    Option (Except ClientError StoreAck × MeshClient τ) := do
  let d ← Descriptor.create keypair (schemaHash "core/capability") capType
    (capabilityPayload capType endpoint params) (clock c.transport) 1 3600
    (hierarchicalRoutingKeys capType)
  c.publish clock d target

/-! ## Runs -/

/-- What is asked of a client, and what happens to the world meanwhile.  The fuel of a lookup is the
number of rounds it is given. -/
inductive Call (ε : Type) where
  | bootstrap (seeds : List NodeAddr)
  | publish (d : Descriptor) (target : NodeAddr)
  | publishCapability (keypair : Keypair) (capType endpoint : String) (params : Option String)
    (target : NodeAddr)
  | discover (fuel : ℕ) (routingKey : Hash)
  | discoverFrom (fuel : ℕ) (routingKey : Hash) (target : NodeAddr)
  | queryNode (routingKey : Hash) (target : NodeAddr)
  | ping (addr : NodeAddr)
  | world (event : ε)

/-- What a call returns. -/
inductive Outcome where
  | discovered (count : ℕ)
  | published (result : Except ClientError StoreAck)
  | found (result : Except ClientError (List Descriptor))
  | pong (result : Except ClientError Pong)
  | nothing

/-- A call and the client after it; `none` if the call panics, or has too little fuel. -/
def call {ε : Type} (clock : τ → UInt64) (world : τ → ε → τ) (c : MeshClient τ) :
    Call ε → Option (Outcome × MeshClient τ)
  | .bootstrap seeds => (c.bootstrap clock seeds).map fun (count, c) => (.discovered count, c)
  | .publish d target => (c.publish clock d target).map fun (result, c) => (.published result, c)
  | .publishCapability keypair capType endpoint params target =>
    (c.publishCapability clock keypair capType endpoint params target).map
      fun (result, c) => (.published result, c)
  | .discover fuel key => (c.discover fuel key).map fun (found, c) => (.found (.ok found), c)
  | .discoverFrom fuel key target =>
    (c.discoverFrom fuel key target).map fun (result, c) => (.found result, c)
  | .queryNode key target =>
    let (result, c) := c.queryNode key target
    some (.found result, c)
  | .ping addr =>
    let (result, c) := c.ping addr
    some (.pong result, c)
  | .world event => some (.nothing, { c with transport := world c.transport event })

/-- A client as a machine; it is gone after a panic. -/
def machine {ε : Type} (clock : τ → UInt64) (world : τ → ε → τ) :
    Machine (Option (MeshClient τ)) (Call ε) (Option Outcome) where
  step c input :=
    match c.bind fun c => c.call clock world input with
    | none => (none, none)
    | some (outcome, c) => (some outcome, some c)

/-! ## Clients over transports that answer alike -/

section Alike

variable {σ : Type} [Transport σ] {clock : τ → UInt64} {clock' : σ → UInt64} {R : τ → σ → Prop}

/-- Clients with the same node and related transports. -/
structure Twins (R : τ → σ → Prop) (c : MeshClient τ) (c' : MeshClient σ) : Prop where
  node : c.node = c'.node
  transport : R c.transport c'.transport

/-- The same result from two clients, which stay twins. -/
def SameResult {β : Type} (R : τ → σ → Prop) (p : β × MeshClient τ) (q : β × MeshClient σ) : Prop :=
  p.1 = q.1 ∧ Twins R p.2 q.2

variable {c : MeshClient τ} {c' : MeshClient σ}

omit [Ciborium] in
lemma bootstrap_simulated (h : AnswerAlike clock clock' R) (hc : Twins R c c')
    (seeds : List NodeAddr) :
    Option.Rel (SameResult R) (c.bootstrap clock seeds) (c'.bootstrap clock' seeds) := by
  obtain ⟨node, transport⟩ := c
  obtain ⟨_, transport'⟩ := c'
  obtain ⟨rfl, htransport⟩ := hc
  refine rel_bind (DhtNode.bootstrap_simulated h seeds htransport) ?_
  rintro ⟨count, n, t⟩ ⟨_, _, s⟩ ⟨rfl, rfl, hts⟩
  exact .some ⟨rfl, rfl, hts⟩

omit [Ciborium] in
lemma storeAt_simulated (h : AnswerAlike clock clock' R) (hc : Twins R c c') (d : Descriptor)
    (target : NodeAddr) : SameResult R (c.storeAt d target) (c'.storeAt d target) := by
  obtain ⟨node, transport⟩ := c
  obtain ⟨_, transport'⟩ := c'
  obtain ⟨rfl, htransport⟩ := hc
  obtain ⟨resp, t, s, ht, hs, hts⟩ :=
    h.send htransport target (.store ⟨node.identity, node.addr, d⟩)
  have hnone := h.noReply htransport target (.store ⟨node.identity, node.addr, d⟩)
  rw [storeAt, storeAt]
  dsimp only
  rw [ht] at hnone ⊢
  rw [hs]
  dsimp only
  split
  · rw [hnone rfl]
    exact ⟨rfl, rfl, hts⟩
  · exact ⟨rfl, rfl, hts⟩
  · exact ⟨rfl, rfl, hts⟩

lemma publish_simulated (h : AnswerAlike clock clock' R) (hc : Twins R c c') (d : Descriptor)
    (target : NodeAddr) :
    Option.Rel (SameResult R) (c.publish clock d target) (c'.publish clock' d target) := by
  obtain ⟨node, transport⟩ := c
  obtain ⟨_, transport'⟩ := c'
  obtain ⟨rfl, htransport⟩ := hc
  refine rel_bind (DhtNode.iterativeStore_simulated h htransport 3 d) ?_
  rintro ⟨stored, n, t⟩ ⟨_, _, s⟩ ⟨rfl, rfl, hts⟩
  dsimp only
  split
  · exact .some ⟨rfl, rfl, hts⟩
  · exact .some (storeAt_simulated h ⟨rfl, hts⟩ d target)

lemma publishCapability_simulated (h : AnswerAlike clock clock' R) (hc : Twins R c c')
    (keypair : Keypair) (capType endpoint : String) (params : Option String) (target : NodeAddr) :
    Option.Rel (SameResult R) (c.publishCapability clock keypair capType endpoint params target)
      (c'.publishCapability clock' keypair capType endpoint params target) := by
  rw [publishCapability, publishCapability, h.time hc.transport]
  exact rel_bind_same _ fun d => publish_simulated h hc d target

omit [Ciborium] in
lemma discover_simulated (h : AnswerAlike clock clock' R) (hc : Twins R c c') (fuel : ℕ)
    (key : Hash) :
    Option.Rel (SameResult R) (c.discover fuel key) (c'.discover fuel key) := by
  obtain ⟨node, transport⟩ := c
  obtain ⟨_, transport'⟩ := c'
  obtain ⟨rfl, htransport⟩ := hc
  refine rel_bind (DhtNode.lookupValue_simulated h htransport 3 fuel) ?_
  rintro ⟨results, n, t⟩ ⟨_, _, s⟩ ⟨rfl, rfl, hts⟩
  exact .some ⟨rfl, rfl, hts⟩

omit [Ciborium] in
lemma queryNode_simulated (h : AnswerAlike clock clock' R) (hc : Twins R c c') (key : Hash)
    (target : NodeAddr) : SameResult R (c.queryNode key target) (c'.queryNode key target) := by
  obtain ⟨node, transport⟩ := c
  obtain ⟨_, transport'⟩ := c'
  obtain ⟨rfl, htransport⟩ := hc
  obtain ⟨resp, t, s, ht, hs, hts⟩ := h.send htransport target
    (.findValue ⟨node.identity, node.addr, key, 100, none⟩)
  have hnone := h.noReply htransport target
    (.findValue ⟨node.identity, node.addr, key, 100, none⟩)
  rw [queryNode, queryNode]
  dsimp only
  rw [ht] at hnone ⊢
  rw [hs]
  dsimp only
  split
  · rw [hnone rfl]
    exact ⟨rfl, rfl, hts⟩
  · exact ⟨rfl, rfl, hts⟩
  · exact ⟨rfl, rfl, hts⟩

omit [Ciborium] in
lemma discoverFrom_simulated (h : AnswerAlike clock clock' R) (hc : Twins R c c') (fuel : ℕ)
    (key : Hash) (target : NodeAddr) :
    Option.Rel (SameResult R) (c.discoverFrom fuel key target)
      (c'.discoverFrom fuel key target) := by
  refine rel_bind (discover_simulated h hc fuel key) ?_
  rintro ⟨results, c₁⟩ ⟨_, c₁'⟩ ⟨rfl, hc₁⟩
  dsimp only
  split
  · exact .some ⟨rfl, hc₁⟩
  · exact .some (queryNode_simulated h hc₁ key target)

omit [Ciborium] in
lemma ping_simulated (h : AnswerAlike clock clock' R) (hc : Twins R c c') (addr : NodeAddr) :
    SameResult R (c.ping addr) (c'.ping addr) := by
  obtain ⟨node, transport⟩ := c
  obtain ⟨_, transport'⟩ := c'
  obtain ⟨rfl, htransport⟩ := hc
  obtain ⟨resp, t, s, ht, hs, hts⟩ := h.send htransport addr (.ping ⟨node.identity, node.addr⟩)
  have hnone := h.noReply htransport addr (.ping ⟨node.identity, node.addr⟩)
  rw [ping, ping]
  dsimp only
  rw [ht] at hnone ⊢
  rw [hs]
  dsimp only
  split
  · rw [hnone rfl]
    exact ⟨rfl, rfl, hts⟩
  · exact ⟨rfl, rfl, hts⟩
  · exact ⟨rfl, rfl, hts⟩

variable {ε : Type} {world : τ → ε → τ} {world' : σ → ε → σ}

lemma call_simulated (h : AnswerAlike clock clock' R)
    (hworld : ∀ {t s}, R t s → ∀ event, R (world t event) (world' s event)) (hc : Twins R c c')
    (input : Call ε) :
    Option.Rel (SameResult R) (c.call clock world input) (c'.call clock' world' input) := by
  have hmap {β : Type} (make : β → Outcome) {o : Option (β × MeshClient τ)}
      {o' : Option (β × MeshClient σ)} (hrel : Option.Rel (SameResult R) o o') :
      Option.Rel (SameResult R) (o.map fun (b, c) => (make b, c))
        (o'.map fun (b, c) => (make b, c)) := by
    cases hrel with
    | none => exact .none
    | some hpq => exact .some ⟨congrArg make hpq.1, hpq.2⟩
  cases input with
  | bootstrap seeds => exact hmap _ (bootstrap_simulated h hc seeds)
  | publish d target => exact hmap _ (publish_simulated h hc d target)
  | publishCapability keypair capType endpoint params target =>
    exact hmap _ (publishCapability_simulated h hc keypair capType endpoint params target)
  | discover fuel key =>
    exact hmap (fun found => .found (.ok found)) (discover_simulated h hc fuel key)
  | discoverFrom fuel key target => exact hmap _ (discoverFrom_simulated h hc fuel key target)
  | queryNode key target =>
    obtain ⟨hresult, htwins⟩ := queryNode_simulated h hc key target
    exact .some ⟨congrArg Outcome.found hresult, htwins⟩
  | ping addr =>
    obtain ⟨hresult, htwins⟩ := ping_simulated h hc addr
    exact .some ⟨congrArg Outcome.pong hresult, htwins⟩
  | world event => exact .some ⟨rfl, hc.node, hworld hc.transport event⟩

/-- Over transports that answer alike, and that the world changes alike, no run of a client can tell
one from the other. -/
lemma machine_simulates (h : AnswerAlike clock clock' R)
    (hworld : ∀ {t s}, R t s → ∀ event, R (world t event) (world' s event)) :
    Machine.Simulates (machine clock world) (machine clock' world') (Option.Rel (Twins R)) := by
  intro c c' hc input
  have hcall : Option.Rel (SameResult R) (c.bind fun c => c.call clock world input)
      (c'.bind fun c => c.call clock' world' input) :=
    rel_bind hc fun c c' hc => call_simulated h hworld hc input
  rw [machine, machine]
  dsimp only
  generalize (c.bind fun c => c.call clock world input) = o at hcall
  generalize (c'.bind fun c => c.call clock' world' input) = o' at hcall
  cases hcall with
  | none => exact ⟨rfl, .none⟩
  | some hpq => exact ⟨congrArg some hpq.1, .some hpq.2⟩

end Alike

end MeshClient

end MeshProtocol
