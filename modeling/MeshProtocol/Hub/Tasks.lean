import MeshProtocol.Hub.Seeding
import MeshProtocol.Hub.PeerManager

/-!
# The tasks of a hub (`mesh-hub/src/lib.rs`, `peering.rs`)

`HubRuntime::run` starts the listener and, beside it, tasks that each go on in a loop of their own:
eviction, the hub's own advertisement, seeding, discovery, gossip, and the health check.  What a
task does while it holds a lock is one step here, and the steps of different tasks come in any order
(`HubRuntime.machine`).  Discovery gives up its lock between looking for hubs, deciding on one and
connecting to it, so these are three steps, with what it carries between them in the state.  So are
the pre-check of a request and its handling two, and the contacts with the seeds one each.  A gossip
round is one step with the listing it starts from, though it gives up the lock in between.

The cleanup of the rate limiter is left out: it changes the outcome of no check.
-/

namespace MeshProtocol

open DescriptorStorage

/-! ## Hub advertisements -/

/-- Hub metadata included in the self-advertisement payload. -/
structure HubMetadata where
  maxDescriptors : UInt64
  regions : List String
  endpoint : String
deriving DecidableEq, Repr

/-- `to_cbor` and `from_cbor` at type `HubMetadata`. -/
class HubMetadataCodec where
  toCbor : HubMetadata → List UInt8
  fromCbor : List UInt8 → Option HubMetadata

namespace Wire

def hubMetadata (m : HubMetadata) : Cbor.Value :=
  .map [(.text "max_descriptors", .integer m.maxDescriptors.toNat),
    (.text "regions", .array (m.regions.map .text)), (.text "endpoint", .text m.endpoint)]

def readTexts (v : Cbor.Value) : Option (List String) := v.asArray.bind (·.mapM Cbor.Value.asText)

def readHubMetadata (v : Cbor.Value) : Option HubMetadata := do
  let entries ← v.asMap
  let maxDescriptors ← Cbor.findField entries "max_descriptors" readU64
  let regions ← Cbor.findField entries "regions" readTexts
  let endpoint ← Cbor.findField entries "endpoint" Cbor.Value.asText
  return ⟨maxDescriptors, regions, endpoint⟩

end Wire

/-- The codec of the derived implementations. -/
@[reducible] def wireMetadata : HubMetadataCodec where
  toCbor m := Cbor.encode (Wire.hubMetadata m)
  fromCbor bytes := (Cbor.fromBytes bytes).bind Wire.readHubMetadata

/-- An endpoint such as "quic://host:port" or "host:port" as a node address. -/
def endpointToNodeAddr (endpoint : String) : NodeAddr :=
  let scheme := "quic://".toList
  .quic (String.ofList
    (if scheme.isPrefixOf endpoint.toList then endpoint.toList.drop scheme.length
    else endpoint.toList))

section Crypto

variable [Crypto]

/-- Routing key for the `infrastructure` namespace. -/
def ROUTING_KEY_INFRASTRUCTURE : Hash := routingKey "infrastructure"

/-- Schema hash for `infrastructure/hub`, the descriptor of a hub service. -/
def SCHEMA_HASH_INFRA_HUB : Hash := schemaHash "infrastructure/hub"

variable [HubMetadataCodec]

/-- The signed advertisement of a hub; its sequence is the time in seconds. -/
def selfAdvertisementDescriptor (keypair : Keypair) (metadata : HubMetadata) (now : UInt64) :
    Option Descriptor :=
  Descriptor.create keypair SCHEMA_HASH_INFRA_HUB "hub" (HubMetadataCodec.toCbor metadata) now
    (now / 1000000) 3600 [ROUTING_KEY_INFRASTRUCTURE, ROUTING_KEY_INFRASTRUCTURE_HUB]

/-- The hubs that some descriptors advertise, this hub excepted; a payload that is no hub metadata
is passed over. -/
def discoverPeersFromDescriptors (hubIdentity : Identity) (descriptors : List Descriptor) :
    List (Identity × NodeAddr × HubMetadata) :=
  descriptors.filterMap fun d =>
    if d.publisher.did = hubIdentity.did then none
    else
      (HubMetadataCodec.fromCbor d.payload).map fun metadata =>
        (d.publisher, endpointToNodeAddr metadata.endpoint, metadata)

end Crypto

/-! ## The runtime -/

namespace DhtNode

variable [Crypto] {S H : Type}

/-- The node with another store. -/
abbrev putStore (n : DhtNode S H) (store : S) : DhtNode S H := { n with store }

/-- The node with its hooks changed, if it has any. -/
abbrev mapHooks (n : DhtNode S H) (f : H → H) : DhtNode S H := { n with hooks := n.hooks.map f }

end DhtNode

/-- A running hub: its node and peers, and what its tasks keep. -/
structure HubRuntime [Crypto] (κ : Type) where
  hub : PeeredHub κ
  keypair : Keypair
  metadata : HubMetadata
  /-- The hubs that the discovery task has found and has not come to yet. -/
  discovered : List (Identity × NodeAddr × HubMetadata)
  /-- The hub that the discovery task has decided to connect to. -/
  candidate : Option (Identity × NodeAddr)
  /-- The seeds that `bootstrap_from_seeds` has not come to yet. -/
  seedPeers : List String

/-- What of a hub's configuration its tasks use, peering being enabled. -/
structure HubConfig where
  listenAddr : String := "0.0.0.0:4433"
  policy : PolicyConfig := {}
  rateLimit : RateLimitConfig := {}
  seedPeers : List String := []
  maxPeers : ℕ := 50
  outboundAllowlist : List String := []
  maxDescriptors : UInt64 := 1000000
  regions : List String := []

/-- `HubBuilder::build`: a hub that opens its database, before its tasks have done anything. -/
def HubRuntime.build [Crypto] {κ : Type} (config : HubConfig) (keypair : Keypair)
    (tenantManager : TenantManager) (disk : RedbStorage) : HubRuntime κ :=
  let addr := NodeAddr.quic config.listenAddr
  let hub : Hub κ := .build keypair.identity addr config.policy tenantManager config.rateLimit
    disk.reopen none
  { hub := .start keypair.identity addr config.maxPeers config.outboundAllowlist hub.node
    keypair := keypair
    metadata := ⟨config.maxDescriptors, config.regions, "quic://" ++ config.listenAddr⟩
    discovered := []
    candidate := none
    seedPeers := config.seedPeers }

/-- One step of a task, with what the network and the clock bring to it. -/
inductive HubTask (κ Value : Type) where
  /-- A request comes in. -/
  | request (request : Request) (peerIdentity : Option Identity) (clock : UInt64)
  /-- One of the requests that wait is handled. -/
  | handle (i : ℕ) (clock : UInt64)
  /-- A request whose body does not decode. -/
  | malformed (peerIdentity : Option Identity) (clock : UInt64)
  /-- `bootstrap_from_seeds` contacts the next seed. -/
  | seedPeer (reply : SeedReply κ)
  | healthCheck (outcomes : String → PingOutcome)
  | gossip (clock : UInt64) (answered : String → ℕ → Bool)
  /-- `run_discovery` reads the advertisements. -/
  | discover (clock : UInt64)
  /-- `run_discovery` decides whether to connect to the next hub. -/
  | consider
  /-- `run_discovery` connects to the hub it has decided on. -/
  | connect (dial : Except String κ)
  /-- `publish_self_advertisement`, when the peer manager is not locked. -/
  | advertise (now clock : UInt64)
  /-- `seed_now`. -/
  | seed (now : UInt64) (entries : List (SeedEntry Value × UInt64))
  | evict (clock : UInt64)
  /-- The cache drops an entry. -/
  | dropCached (key : List UInt8)
  /-- The operator changes the tenants. -/
  | tenants (tenantManager : TenantManager)
  /-- The monotonic clock ticks. -/
  | tick (instant : ℕ)

/-- What a step sends to the outside. -/
inductive HubOutput (κ : Type) where
  | response (response : Response)
  /-- A STORE to the peer with a DID. -/
  | store (did : String) (connection : κ) (msg : Store)
  /-- An attempt to connect to an address. -/
  | dial (address : SocketAddr)
deriving DecidableEq

/-- The address a call of `connect_to_peer` dials, if it gets that far. -/
def PeerManager.dialTarget [Crypto] [SocketAddrParser] {κ : Type} (pm : PeerManager κ)
    (identity : Identity) (addr : NodeAddr) : Option SocketAddr :=
  if pm.maxPeers ≤ pm.connectedPeerCount then none
  else if pm.alreadyConnected identity.did then none
  else (validateOutboundAddr addr.address pm.outboundAllowlist).toOption

namespace HubRuntime

section Steps

variable [Crypto] [DescriptorCodec] {κ : Type}

/-- Changes the node, unless the lock around it is poisoned. -/
def mapNode (rt : HubRuntime κ) (f : HubDhtNode → HubDhtNode) : HubRuntime κ :=
  { rt with hub := { rt.hub with node := rt.hub.node.map f } }

/-- `publish_self_advertisement`: the hub stores its advertisement as a STORE of its own. -/
def publishSelfAdvertisement [HubMetadataCodec] (rt : HubRuntime κ) (now clock : UInt64) :
    HubRuntime κ :=
  match selfAdvertisementDescriptor rt.keypair rt.metadata now with
  | none => rt
  | some d =>
    { rt with
      hub := { rt.hub with
        node := rt.hub.node.bind fun node =>
          (node.handleStore (rt.hub.pm.storeMsg d) clock).map Prod.snd } }

/-- `run_discovery`, up to the list of hubs.  The task is a loop, so it looks again only when it has
dealt with what it found before. -/
def lookForHubs [HubMetadataCodec] (rt : HubRuntime κ) (clock : UInt64) : HubRuntime κ :=
  match rt.discovered, rt.candidate, rt.hub.node with
  | [], none, some node =>
    let (found, store) := (rt.hub.toHub node).hubDescs clock
    { rt with
      hub := { rt.hub with node := some (node.putStore store) }
      discovered := discoverPeersFromDescriptors rt.hub.pm.hubIdentity found }
  | _, _, _ => rt

/-- The next hub becomes the candidate if it is not known, or known as disconnected. -/
def considerNext (rt : HubRuntime κ) : HubRuntime κ :=
  match rt.candidate, rt.discovered with
  | none, (identity, addr, _) :: rest =>
    let shouldConnect := rt.hub.pm.peers[identity.did]?.all (·.status = .disconnected)
    { rt with
      discovered := rest
      candidate := if shouldConnect then some (identity, addr) else none }
  | _, _ => rt

variable [SocketAddrParser]

/-- Connects to the candidate. -/
def connectCandidate (rt : HubRuntime κ) (dial : Except String κ) :
    List (HubOutput κ) × HubRuntime κ :=
  match rt.candidate with
  | none => ([], rt)
  | some (identity, addr) =>
    ((rt.hub.pm.dialTarget identity addr).toList.map .dial,
      { rt with
        hub := (rt.hub.step (.connect identity addr dial)).2
        candidate := none })

/-- `bootstrap_from_seeds`, from one seed to the next. -/
def contactSeed (rt : HubRuntime κ) (reply : SeedReply κ) : List (HubOutput κ) × HubRuntime κ :=
  match rt.seedPeers with
  | [] => ([], rt)
  | address :: rest =>
    ((validateOutboundAddr address rt.hub.pm.outboundAllowlist).toOption.toList.map .dial,
      { rt with
        hub := (rt.hub.step (.seed { reply with address })).2
        seedPeers := rest })

variable [HubMetadataCodec] {Value : Type} [SerdeJson Value]

/-- What a step of a task sends, and the hub after it. -/
def step (rt : HubRuntime κ) : HubTask κ Value → List (HubOutput κ) × HubRuntime κ
  | .request request peerIdentity clock =>
    ([], { rt with hub := (rt.hub.step (.request request peerIdentity clock)).2 })
  | .handle i clock =>
    ((rt.hub.handleWaiting i clock).1.toList.map .response,
      { rt with hub := (rt.hub.step (.handle i clock)).2 })
  | .malformed peerIdentity clock =>
    ([], { rt with hub := (rt.hub.step (.malformed peerIdentity clock)).2 })
  | .seedPeer reply => rt.contactSeed reply
  | .healthCheck outcomes => ([], { rt with hub := (rt.hub.step (.healthCheck outcomes)).2 })
  | .gossip clock answered =>
    let (sent, hub) := rt.hub.step (.gossip clock answered)
    (sent.map fun (did, connection, msg) => .store did connection msg, { rt with hub })
  | .discover clock => ([], rt.lookForHubs clock)
  | .consider => ([], rt.considerNext)
  | .connect dial => rt.connectCandidate dial
  | .advertise now clock => ([], rt.publishSelfAdvertisement now clock)
  | .seed now entries =>
    ([], rt.mapNode fun node =>
      node.putStore (CachedStorage.seedNow node.store rt.keypair now entries).2)
  | .evict clock =>
    ([], rt.mapNode fun node => node.putStore (evictExpired node.store clock))
  | .dropCached key =>
    ([], rt.mapNode fun node =>
      node.putStore (background node.store (CachedStorage.Event.drop key)))
  | .tenants tenantManager =>
    ([], rt.mapNode fun node =>
      node.mapHooks fun hook => { hook with tenantManager })
  | .tick instant => ([], rt.mapNode fun node => node.mapHooks fun hook => { hook with instant })

/-- A running hub as a machine. -/
def machine (κ Value : Type) [SerdeJson Value] :
    Machine (HubRuntime κ) (HubTask κ Value) (List (HubOutput κ)) := ⟨step⟩

/-! ### What the tasks change -/

variable (Value) (rt : HubRuntime κ)

lemma step_seedPeer (reply : SeedReply κ) :
    (rt.step (.seedPeer reply : HubTask κ Value)).2 = rt ∨ ∃ address rest,
      rt.seedPeers = address :: rest ∧ (rt.step (.seedPeer reply : HubTask κ Value)).2 =
        { rt with
          hub := rt.hub.bootstrapFromSeed { reply with address }
          seedPeers := rest } := by
  change (rt.contactSeed reply).2 = rt ∨ ∃ address rest, _ ∧ (rt.contactSeed reply).2 = _
  unfold contactSeed
  cases hseeds : rt.seedPeers with
  | nil => exact .inl rfl
  | cons address rest => exact .inr ⟨address, rest, rfl, rfl⟩

lemma step_discover (clock : UInt64) :
    ∃ node discovered, (rt.step (.discover clock : HubTask κ Value)).2 =
      { rt with hub := { rt.hub with node }, discovered } := by
  change ∃ node discovered, rt.lookForHubs clock =
    { rt with hub := { rt.hub with node }, discovered }
  unfold lookForHubs
  split
  · exact ⟨_, _, rfl⟩
  · exact ⟨rt.hub.node, rt.discovered, rfl⟩

lemma step_consider :
    ∃ discovered candidate, (rt.step (.consider : HubTask κ Value)).2 =
      { rt with discovered, candidate } := by
  change ∃ discovered candidate, rt.considerNext = { rt with discovered, candidate }
  unfold considerNext
  split
  · exact ⟨_, _, rfl⟩
  · exact ⟨rt.discovered, rt.candidate, rfl⟩

lemma step_connect (dial : Except String κ) :
    (rt.step (.connect dial : HubTask κ Value)).2 = rt ∨ ∃ identity addr,
      rt.candidate = some (identity, addr) ∧ (rt.step (.connect dial : HubTask κ Value)).2 =
        { rt with
          hub := { rt.hub with pm := (rt.hub.pm.connectToPeer identity addr dial).2 }
          candidate := none } := by
  change (rt.connectCandidate dial).2 = rt ∨ ∃ identity addr, _ ∧ (rt.connectCandidate dial).2 = _
  unfold connectCandidate
  cases hcandidate : rt.candidate with
  | none => exact .inl rfl
  | some candidate => exact .inr ⟨candidate.1, candidate.2, rfl, rfl⟩

lemma step_advertise (now clock : UInt64) :
    ∃ node, (rt.step (.advertise now clock : HubTask κ Value)).2 =
      { rt with hub := { rt.hub with node } } := by
  change ∃ node, rt.publishSelfAdvertisement now clock = { rt with hub := { rt.hub with node } }
  unfold publishSelfAdvertisement
  split
  · exact ⟨rt.hub.node, rfl⟩
  · exact ⟨_, rfl⟩

end Steps

end HubRuntime

end MeshProtocol
