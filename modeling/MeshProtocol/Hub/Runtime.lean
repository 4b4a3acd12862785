import MeshProtocol.Hub.Cache
import MeshProtocol.Hub.Peering
import MeshProtocol.Hub.Policy
import MeshProtocol.Hub.Redb

/-!
# Requests to a hub (`mesh-hub/src/lib.rs`)

A hub is a DHT node over the cached disk-backed store, with the hub's hook, and, if peering is
enabled, the hubs it knows as peers.  `handleProtocolRequest` first finds out whether the sender is
a peer; a peer's STORE goes to storage without the checks of the hook.  It gives up its locks in
between, so a request that has been checked waits until it is handled, and others may come first.

`none` is a panic of a handler, after which the mutex around the node is poisoned and the hub
answers nothing any more.
-/

namespace MeshProtocol

open DescriptorStorage

/-- The hub's DHT node. -/
abbrev HubDhtNode [Crypto] := DhtNode (CachedStorage RedbStorage) HubProtocolHook

section Crypto

variable [Crypto]

/-- Routing key for `infrastructure/hub`, where hubs advertise themselves. -/
def ROUTING_KEY_INFRASTRUCTURE_HUB : Hash := routingKey "infrastructure/hub"

/-- A request after the pre-check, which has found out whether its sender is a peer hub. -/
structure CheckedRequest where
  request : Request
  peerIdentity : Option Identity
  isPeerHub : Bool
deriving DecidableEq

/-- A hub; `peers` is there if peering is enabled. -/
structure Hub (κ : Type) where
  node : HubDhtNode
  peers : Option (Peers κ)
  /-- The requests whose tasks wait for the lock around the node. -/
  waiting : List CheckedRequest

namespace Hub

variable {κ : Type}

/-- `HubBuilder::build`: a hub with its policy and rate limits on top of its storage. -/
def build (identity : Identity) (addr : NodeAddr) (policy : PolicyConfig)
    (tenantManager : TenantManager) (rateLimit : RateLimitConfig) (storage : RedbStorage)
    (peers : Option (Peers κ)) : Hub κ where
  node := (DhtNode.withStore identity addr {} (CachedStorage.new storage)).withHooks
    ⟨policy, tenantManager, .new rateLimit, 0⟩
  peers := peers
  waiting := []

variable [DescriptorCodec]

/-- The advertisements the hub finds in its own storage. -/
def hubDescs (hub : Hub κ) (clock : UInt64) : List Descriptor × CachedStorage RedbStorage :=
  getDescriptors hub.node.store ROUTING_KEY_INFRASTRUCTURE_HUB none clock

/-- Looks for an advertisement of an identity, and registers the identity as a peer if there is one
and it is not known yet. -/
def recognize (hub : Hub κ) (peers : Peers κ) (pid : Identity) (clock : UInt64) : Bool × Hub κ :=
  let found := hub.hubDescs clock
  let hub := { hub with node := { hub.node with store := found.2 } }
  if ∃ d ∈ found.1, d.publisher.did = pid.did then
    (true, { hub with peers := some (peers.register pid.did) })
  else (false, hub)

/-- Whether the TLS peer is a peer hub: a connected peer, or one with an advertisement. -/
def isPeerHub (hub : Hub κ) (peerIdentity : Option Identity) (clock : UInt64) : Bool × Hub κ :=
  match hub.peers, peerIdentity with
  | some peers, some pid =>
    if peers[pid.did]?.any (·.status = .connected) then (true, hub)
    else hub.recognize peers pid clock
  | _, _ => (false, hub)

/-- The pre-check leaves the requests that wait alone. -/
@[simp]
lemma waiting_isPeerHub (hub : Hub κ) (peerIdentity : Option Identity) (clock : UInt64) :
    (hub.isPeerHub peerIdentity clock).2.waiting = hub.waiting := by
  unfold isPeerHub
  split
  · split_ifs
    · rfl
    · dsimp only [recognize]
      split_ifs <;> rfl
  · rfl

/-- The STORE of a peer hub: written to storage without hooks and rate limits. -/
def storeForPeer (hub : Hub κ) (storeReq : Store) (clock : UInt64) : StoreAck × Hub κ :=
  let setSkip (store : CachedStorage RedbStorage) (flag : Bool) : CachedStorage RedbStorage :=
    { store with inner := { store.inner with skipRateLimit := flag } }
  let (result, store) := storeDescriptor (setSkip hub.node.store true) storeReq.descriptor clock
  let ack : StoreAck :=
    match result with
    | .ok () => ⟨true, none⟩
    | .error e => ⟨false, some e.message⟩
  (ack, { hub with node := { hub.node with store := setSkip store false } })

/-- Answers a request after the pre-check.  Apart from a peer's STORE, it does what the dispatch of
an ordinary node does. -/
def handleChecked (hub : Hub κ) (request : Request) (peerIdentity : Option Identity)
    (isPeerHub : Bool) (clock : UInt64) : Option (Option Response × Hub κ) :=
  match request, isPeerHub with
  | .store storeReq, true =>
    match verifySenderBinding storeReq.sender peerIdentity with
    | .error _ => some (none, hub)
    | .ok () =>
      let (ack, hub) := hub.storeForPeer storeReq clock
      some (some (.storeAck ack), hub)
  | request, _ =>
    (hub.node.dispatchRequest request peerIdentity clock).map fun (response, node) =>
      (response, { hub with node })

/-- A request that is not taken for a peer's is dispatched as by an ordinary node. -/
@[simp]
lemma handleChecked_false (hub : Hub κ) (request : Request) (peerIdentity : Option Identity)
    (clock : UInt64) :
    hub.handleChecked request peerIdentity false clock =
      (hub.node.dispatchRequest request peerIdentity clock).map fun (response, node) =>
        (response, { hub with node }) := by
  cases request with
  | ping | store | findNode | findValue => rfl

/-- Handling a request changes the node only. -/
lemma frame_handleChecked {hub hub' : Hub κ} {request : Request} {peerIdentity : Option Identity}
    {isPeerHub : Bool} {clock : UInt64} {response : Option Response}
    (h : hub.handleChecked request peerIdentity isPeerHub clock = some (response, hub')) :
    hub'.peers = hub.peers ∧ hub'.waiting = hub.waiting := by
  unfold handleChecked at h
  split at h
  · split at h
    · obtain ⟨-, rfl⟩ := Prod.mk.inj (Option.some.inj h)
      exact ⟨rfl, rfl⟩
    · obtain ⟨-, rfl⟩ := Prod.mk.inj (Option.some.inj h)
      exact ⟨rfl, rfl⟩
  · obtain ⟨⟨response', node⟩, -, heq⟩ := Option.map_eq_some_iff.1 h
    obtain ⟨-, rfl⟩ := Prod.mk.inj heq
    exact ⟨rfl, rfl⟩

/-- Answers a request that nothing comes in between, with the clock readings of the pre-check and of
the handling. -/
def handleProtocolRequest (hub : Hub κ) (request : Request) (peerIdentity : Option Identity)
    (checkedAt clock : UInt64) : Option (Option Response × Hub κ) :=
  let (isPeerHub, hub) := hub.isPeerHub peerIdentity checkedAt
  hub.handleChecked request peerIdentity isPeerHub clock

/-- The pre-check of a request, which then waits for the lock around the node. -/
def receive (hub : Hub κ) (request : Request) (peerIdentity : Option Identity) (clock : UInt64) :
    Hub κ :=
  let (isPeerHub, hub) := hub.isPeerHub peerIdentity clock
  { hub with waiting := hub.waiting ++ [⟨request, peerIdentity, isPeerHub⟩] }

/-- Answers one of the requests that wait. -/
def handleWaiting (hub : Hub κ) (i : ℕ) (clock : UInt64) : Option (Option Response × Hub κ) :=
  match hub.waiting[i]? with
  | none => some (none, hub)
  | some checked =>
    { hub with waiting := hub.waiting.eraseIdx i }.handleChecked checked.request
      checked.peerIdentity checked.isPeerHub clock

/-- Handling one of the requests that wait: there is no such one, or it is handled. -/
lemma handleWaiting_cases {hub hub' : Hub κ} {i : ℕ} {clock : UInt64} {response : Option Response}
    (h : hub.handleWaiting i clock = some (response, hub')) :
    (hub.waiting[i]? = none ∧ response = none ∧ hub' = hub) ∨
      ∃ checked, hub.waiting[i]? = some checked ∧
        { hub with waiting := hub.waiting.eraseIdx i }.handleChecked checked.request
          checked.peerIdentity checked.isPeerHub clock = some (response, hub') := by
  unfold handleWaiting at h
  split at h
  · rename_i hnone
    obtain ⟨rfl, rfl⟩ := Prod.mk.inj (Option.some.inj h)
    exact .inl ⟨hnone, rfl, rfl⟩
  · rename_i checked hchecked
    exact .inr ⟨checked, hchecked, h⟩

/-! ## Runs -/

/-- What happens to a hub: a request comes in, one that waits is handled, the hub itself uses the
storage (eviction, its own advertisement, a dropped cache entry), the operator changes the tenants,
or the monotonic clock ticks. -/
inductive Step where
  | request (request : Request) (peerIdentity : Option Identity) (clock : UInt64)
  | handle (i : ℕ) (clock : UInt64)
  | storage (call : StorageCall (CachedStorage RedbStorage))
  | tenants (tenantManager : TenantManager)
  | tick (instant : ℕ)

/-- The hub after a step; `none` once a handler has panicked. -/
def step : Option (Hub κ) → Step → Option Response × Option (Hub κ)
  | none, _ => (none, none)
  | some hub, .request request peerIdentity clock =>
    (none, some (hub.receive request peerIdentity clock))
  | some hub, .handle i clock =>
    match hub.handleWaiting i clock with
    | none => (none, none)
    | some (response, hub) => (response, some hub)
  | some hub, .storage call =>
    let store := ((storageMachine (CachedStorage RedbStorage)).step hub.node.store call).2
    (none, some { hub with node := { hub.node with store } })
  | some hub, .tenants tenantManager =>
    let hooks := hub.node.hooks.map fun hook => { hook with tenantManager }
    (none, some { hub with node := { hub.node with hooks } })
  | some hub, .tick instant =>
    let hooks := hub.node.hooks.map fun hook => { hook with instant }
    (none, some { hub with node := { hub.node with hooks } })

/-- The hub as a machine. -/
def machine (κ : Type) : Machine (Option (Hub κ)) Step (Option Response) := ⟨step⟩

end Hub

end Crypto

end MeshProtocol
