import MeshProtocol.Hub.Network
import MeshProtocol.Hub.Runtime
import MeshProtocol.Library.Census

/-!
# The peer manager (`mesh-hub/src/peering.rs`, `lib.rs`)

What a hub does with its peers, each operation as one step: it connects to the publisher of an
advertisement, contacts a seed, registers a hub that connected by itself, checks the health of its
peers, and sends them its descriptors.  The answers of the network are arguments: what a dial
ends in, and what comes back for a request.  The pre-check of a request holds the peers, but gives
them up before the request is handled, so these are two steps.  A gossip round is one, with the
listing it starts from.

A connection is of a type `κ` that knows the identity in the certificate of its other end.
-/

namespace MeshProtocol

open Std DescriptorStorage

/-- `MeshConnection::peer_mesh_identity`. -/
class MeshConnection (κ : Type) where
  peerMeshIdentity : κ → Option Identity

/-- Manages hub-to-hub peering: discovery, connections, gossip, and health checks. -/
structure PeerManager (κ : Type) where
  hubIdentity : Identity
  hubAddr : NodeAddr
  /-- Connected peer hubs, keyed by DID. -/
  peers : Peers κ
  /-- Maximum number of connected peers. -/
  maxPeers : ℕ
  /-- Addresses allowed for outbound connections even if private. -/
  outboundAllowlist : List String

/-- What a health check's request to a peer comes back with. -/
inductive PingOutcome where
  /-- A PONG frame whose body decodes. -/
  | pong
  /-- A PONG frame whose body does not. -/
  | malformedPong
  /-- An error, or a frame of another type. -/
  | failed
deriving DecidableEq

/-- What the requests to a seed meet: where the dial leads, the PONG that answers the PING, and what
answers the FIND_VALUE, where these decode. -/
structure SeedReply (κ : Type) where
  dial : Except String κ
  pong : Option Pong
  found : Option FindValueResult
  clock : UInt64

/-- The descriptors that a seed answers with. -/
def SeedReply.descriptors {κ : Type} (reply : SeedReply κ) : List Descriptor :=
  (reply.found.bind (·.descriptors)).getD []

/-- A seed, at one of the configured addresses, and how it replies. -/
structure SeedContact (κ : Type) extends SeedReply κ where
  address : String

namespace PeerManager

variable {κ : Type}

def new (hubIdentity : Identity) (hubAddr : NodeAddr) (maxPeers : ℕ)
    (outboundAllowlist : List String) : PeerManager κ :=
  ⟨hubIdentity, hubAddr, ∅, maxPeers, outboundAllowlist⟩

/-- The number of connected peers. -/
def connectedPeerCount (pm : PeerManager κ) : ℕ :=
  (pm.peers.toList.filter fun (_, p) => p.status = .connected).length

/-- The peer has a connection and counts as connected. -/
def alreadyConnected (pm : PeerManager κ) (did : String) : Bool :=
  pm.peers[did]?.any fun p => p.status = .connected ∧ p.connection.isSome

/-- A peer that could not be reached. -/
def afterFailedDial : Option (PeerState κ) → PeerState κ
  | some p => { p with status := .disconnected, consecutiveFailures := p.consecutiveFailures + 1 }
  | none => ⟨none, .disconnected, 1⟩

/-- Connects to a peer hub at the given address, and stores the connection. -/
def connectToPeer [Crypto] [SocketAddrParser] (pm : PeerManager κ) (identity : Identity)
    (addr : NodeAddr) (dial : Except String κ) : Except String Unit × PeerManager κ :=
  let did := identity.did
  if pm.maxPeers ≤ pm.connectedPeerCount then (.ok (), pm)
  else if pm.alreadyConnected did then (.ok (), pm)
  else
    match validateOutboundAddr addr.address pm.outboundAllowlist with
    | .error e => (.error ("outbound address rejected: " ++ e.message), pm)
    | .ok _ =>
      match dial with
      | .ok connection =>
        (.ok (), { pm with peers := pm.peers.insert did (.outgoing connection) })
      | .error e =>
        (.error e, { pm with peers := pm.peers.insert did (afterFailedDial pm.peers[did]?) })

/-- One peer's turn in a health check; a peer without a connection fails. -/
def healthCheckPeer (peers : Peers κ) (did : String) (outcome : PingOutcome) : Peers κ :=
  match peers[did]?.bind (·.connection), outcome with
  | some _, .pong => peers.modify did PeerState.afterPong
  | some _, .malformedPong => peers
  | _, _ => peers.modify did PeerState.afterFailure

/-- Pings all peers that are not disconnected. -/
def healthCheck (pm : PeerManager κ) (outcomes : String → PingOutcome) : PeerManager κ :=
  { pm with
    peers := (Round.healthCheck.targets pm.peers).foldl
      (fun peers did => healthCheckPeer peers did (outcomes did)) pm.peers }

/-- The descriptors of a gossip round: the first ones, up to the batch size. -/
def gossipBatch (descriptors : List Descriptor) : List Descriptor :=
  descriptors.take MAX_GOSSIP_BATCH

/-- A STORE of the hub. -/
def storeMsg (pm : PeerManager κ) (descriptor : Descriptor) : Store :=
  ⟨pm.hubIdentity, pm.hubAddr, descriptor⟩

/-- The connections that a gossip round uses, by DID. -/
def gossipTargets (pm : PeerManager κ) : List (String × κ) :=
  pm.peers.toList.filterMap fun (did, p) =>
    if p.status = .connected then p.connection.map (did, ·) else none

/-- Sends a batch of descriptors to all connected peers via STORE messages: the messages with the
peers and connections they are sent to, and the peers afterwards.  `answered` says which requests
got an answer, by the DID and the place in the batch. -/
def gossipRound (pm : PeerManager κ) (descriptors : List Descriptor)
    (answered : String → ℕ → Bool) : List (String × κ × Store) × PeerManager κ :=
  let batch := gossipBatch descriptors
  let sent := pm.gossipTargets.flatMap fun (did, connection) =>
    batch.map fun d => (did, connection, pm.storeMsg d)
  let failures (did : String) : UInt32 :=
    ((List.range batch.length).countP fun i => !answered did i).toUInt32
  let peers := pm.gossipTargets.foldl (fun peers (did, _) =>
    peers.modify did fun p =>
      { p with consecutiveFailures := p.consecutiveFailures + failures did }) pm.peers
  (sent, { pm with peers })

/-! ### The rounds, entry by entry -/

/-- A peer after its turn in a health check. -/
def pinged (p : PeerState κ) (outcome : PingOutcome) : PeerState κ :=
  match p.connection, outcome with
  | some _, .pong => p.afterPong
  | some _, .malformedPong => p
  | _, _ => p.afterFailure

lemma getElem?_healthCheckPeer (peers : Peers κ) (did did' : String) (outcome : PingOutcome) :
    (healthCheckPeer peers did outcome)[did']? =
      if did = did' then peers[did']?.map (pinged · outcome) else peers[did']? := by
  by_cases hdid : did = did'
  · subst hdid
    rw [if_pos rfl]
    unfold healthCheckPeer
    cases hp : peers[did]? with
    | none => simp [hp]
    | some p => rcases hc : p.connection with _ | c <;> cases outcome <;> simp [hp, hc, pinged]
  · rw [if_neg hdid]
    unfold healthCheckPeer
    split <;> simp [ExtTreeMap.getElem?_modify, hdid]

/-- A health check gives each peer that is not disconnected its turn. -/
lemma getElem?_healthCheck (pm : PeerManager κ) (outcomes : String → PingOutcome) (did : String) :
    (pm.healthCheck outcomes).peers[did]? = pm.peers[did]?.map fun p =>
      if p.status = .disconnected then p else pinged p (outcomes did) := by
  have htargets : did ∈ Round.healthCheck.targets pm.peers ↔
      ∃ p, pm.peers[did]? = some p ∧ p.status ≠ .disconnected := by
    simp [Round.targets, Round.visits, ExtTreeMap.mem_toList_iff_getElem?_eq_some]
  have hpass : (pm.healthCheck outcomes).peers[did]? =
      if did ∈ Round.healthCheck.targets pm.peers then
        pm.peers[did]?.map (pinged · (outcomes did)) else pm.peers[did]? :=
    Census.getElem?_foldl (g := fun did p => pinged p (outcomes did))
      (fun peers did did' => getElem?_healthCheckPeer peers did did' _)
      (Census.nodup_keys_filter pm.peers _) pm.peers did
  rw [hpass]
  simp only [htargets]
  cases hp : pm.peers[did]? with
  | none => simp
  | some p => by_cases hstatus : p.status = .disconnected <;> simp [hstatus]

/-- How many STOREs of a round to a peer get no answer. -/
def unanswered (descriptors : List Descriptor) (answered : String → ℕ → Bool) (did : String) : ℕ :=
  (List.range (gossipBatch descriptors).length).countP fun i => !answered did i

/-- A gossip round counts the failures of each connected peer, and changes nothing else. -/
lemma getElem?_gossipRound (pm : PeerManager κ) (descriptors : List Descriptor)
    (answered : String → ℕ → Bool) (did : String) :
    (pm.gossipRound descriptors answered).2.peers[did]? = pm.peers[did]?.map fun p =>
      if p.status = .connected ∧ p.connection.isSome then
        { p with
          consecutiveFailures :=
            p.consecutiveFailures + (unanswered descriptors answered did).toUInt32 }
      else p := by
  have hkeys : pm.gossipTargets.map Prod.fst =
      (pm.peers.toList.filter fun (_, p) => p.status = .connected ∧ p.connection.isSome).map
        Prod.fst := by
    rw [gossipTargets]
    induction pm.peers.toList with
    | nil => rfl
    | cons kv entries ih =>
      obtain ⟨k, p⟩ := kv
      rcases hc : p.connection with _ | c <;> by_cases hstatus : p.status = .connected <;>
        simp_all
  have htargets : did ∈ pm.gossipTargets.map Prod.fst ↔
      ∃ p, pm.peers[did]? = some p ∧ p.status = .connected ∧ p.connection.isSome := by
    simp [hkeys, ExtTreeMap.mem_toList_iff_getElem?_eq_some]
  have hnodup : (pm.gossipTargets.map Prod.fst).Nodup := by
    rw [hkeys]
    exact Census.nodup_keys_filter pm.peers _
  have hpass := Census.getElem?_foldl
    (f := fun (peers : Peers κ) did => peers.modify did fun p =>
      { p with
        consecutiveFailures :=
          p.consecutiveFailures + (unanswered descriptors answered did).toUInt32 })
    (g := fun did p =>
      { p with
        consecutiveFailures :=
          p.consecutiveFailures + (unanswered descriptors answered did).toUInt32 })
    (fun peers did did' => by
      simp only [ExtTreeMap.getElem?_modify, LawfulEqCmp.compare_eq_iff_eq]
      by_cases hdid : did = did'
      · rw [if_pos hdid, if_pos hdid, hdid]
      · rw [if_neg hdid, if_neg hdid])
    hnodup pm.peers did
  rw [List.foldl_map] at hpass
  have hround : (pm.gossipRound descriptors answered).2.peers[did]? = _ := hpass
  rw [hround]
  simp only [htargets]
  cases hp : pm.peers[did]? with
  | none => simp
  | some p => by_cases hstatus : p.status = .connected ∧ p.connection.isSome <;> simp [hstatus]

end PeerManager

/-! ## A hub and its peers -/

/-- A hub with peering; `node` is `none` once the lock around the node is poisoned. -/
structure PeeredHub [Crypto] (κ : Type) where
  pm : PeerManager κ
  node : Option HubDhtNode
  /-- The requests that have passed the pre-check and wait for the lock around the node. -/
  waiting : List CheckedRequest

namespace PeeredHub

variable [Crypto] [DescriptorCodec] {κ : Type}

/-- The hub as its handler of requests sees it. -/
def toHub (h : PeeredHub κ) (node : HubDhtNode) : Hub κ := ⟨node, some h.pm.peers, h.waiting⟩

/-- The state that the handler of a request leaves. -/
def ofHub (h : PeeredHub κ) (hub : Hub κ) : PeeredHub κ where
  pm := { h.pm with peers := hub.peers.getD h.pm.peers }
  node := some hub.node
  waiting := hub.waiting

/-- The pre-check of a request, after which one that does not decode is dropped. -/
def precheck (h : PeeredHub κ) (peerIdentity : Option Identity) (clock : UInt64) : PeeredHub κ :=
  match h.node with
  | none => h
  | some node => h.ofHub ((h.toHub node).isPeerHub peerIdentity clock).2

/-- The pre-check of a request, which then waits to be handled.  With the lock poisoned it is never
answered. -/
def receive (h : PeeredHub κ) (request : Request) (peerIdentity : Option Identity)
    (clock : UInt64) : PeeredHub κ :=
  match h.node with
  | none => h
  | some node => h.ofHub ((h.toHub node).receive request peerIdentity clock)

/-- Handles one of the requests that wait; a panic of its handler poisons the lock, and the next one
panics there. -/
def handleWaiting (h : PeeredHub κ) (i : ℕ) (clock : UInt64) : Option Response × PeeredHub κ :=
  let panicked : PeeredHub κ := { h with node := none, waiting := h.waiting.eraseIdx i }
  match h.node with
  | none => (none, panicked)
  | some node =>
    match (h.toHub node).handleWaiting i clock with
    | none => (none, panicked)
    | some (response, hub) => (response, h.ofHub hub)

/-- Handling one of the requests that wait ends the wait of this one. -/
@[simp]
lemma waiting_handleWaiting (h : PeeredHub κ) (i : ℕ) (clock : UInt64) :
    (h.handleWaiting i clock).2.waiting = h.waiting.eraseIdx i := by
  unfold handleWaiting
  split
  · rfl
  · rename_i node hnode
    split
    · rfl
    · rename_i response hub hhandled
      rcases Hub.handleWaiting_cases hhandled with ⟨hnone, -, rfl⟩ | ⟨checked, -, hanswer⟩
      · exact (List.eraseIdx_of_length_le (List.getElem?_eq_none_iff.1 hnone)).symm
      · exact (Hub.frame_handleChecked hanswer).2

/-- An answer answers one of the requests that wait. -/
lemma checked_of_answer {h : PeeredHub κ} {i : ℕ} {clock : UInt64} {response : Response}
    (hanswer : (h.handleWaiting i clock).1 = some response) :
    ∃ node checked hub, h.node = some node ∧ h.waiting[i]? = some checked ∧
      { h.toHub node with waiting := h.waiting.eraseIdx i }.handleChecked checked.request
        checked.peerIdentity checked.isPeerHub clock = some (some response, hub) := by
  unfold handleWaiting at hanswer
  split at hanswer
  · cases hanswer
  rename_i node hnode
  split at hanswer
  · cases hanswer
  rename_i response' hub hhandled
  obtain rfl : response' = some response := hanswer
  rcases Hub.handleWaiting_cases hhandled with ⟨-, hnone, -⟩ | ⟨checked, hchecked, hanswered⟩
  · cases hnone
  · exact ⟨node, checked, hub, hnode, hchecked, hanswered⟩

/-- A request that comes in does to the peers what its pre-check does. -/
@[simp]
lemma pm_receive (h : PeeredHub κ) (request : Request) (peerIdentity : Option Identity)
    (clock : UInt64) :
    (h.receive request peerIdentity clock).pm = (h.precheck peerIdentity clock).pm := by
  unfold receive precheck
  split <;> rfl

/-- Handling a request leaves the peers alone. -/
@[simp]
lemma pm_handleWaiting (h : PeeredHub κ) (i : ℕ) (clock : UInt64) :
    (h.handleWaiting i clock).2.pm = h.pm := by
  unfold handleWaiting
  split
  · rfl
  · rename_i node hnode
    split
    · rfl
    · rename_i response hub hhandled
      have hpeers : hub.peers = some h.pm.peers := by
        rcases Hub.handleWaiting_cases hhandled with ⟨-, -, rfl⟩ | ⟨checked, -, hanswer⟩
        · rfl
        · exact (Hub.frame_handleChecked hanswer).1
      simp only [ofHub, hpeers, Option.getD_some]

/-- Stores the advertisements that a seed has answered with, without the rate limit. -/
def storeAdvertisements (node : HubDhtNode) (descriptors : List Descriptor) (clock : UInt64) :
    HubDhtNode :=
  let setSkip (store : CachedStorage RedbStorage) (flag : Bool) : CachedStorage RedbStorage :=
    { store with inner := { store.inner with skipRateLimit := flag } }
  let store := descriptors.foldl (fun store d => (storeDescriptor store d clock).2)
    (setSkip node.store true)
  { node with store := setSkip store false }

/-- Contacts one seed of `bootstrap_from_seeds`: dials it, learns an identity from its PONG, stores
its advertisements, and registers the connection under the identity. -/
def bootstrapFromSeed [SocketAddrParser] (h : PeeredHub κ) (seed : SeedContact κ) : PeeredHub κ :=
  match validateOutboundAddr seed.address h.pm.outboundAllowlist, seed.dial, seed.pong with
  | .ok _, .ok connection, some pong =>
    let registered : PeerManager κ :=
      { h.pm with peers := h.pm.peers.insert pong.sender.did (.outgoing connection) }
    match seed.found.bind (·.descriptors), h.node with
    | none, _ => { h with pm := registered }
    | some descriptors, some node =>
      { h with
        pm := registered
        node := some (storeAdvertisements node descriptors seed.clock) }
    -- the task panics at the poisoned lock
    | some _, none => h
  | _, _, _ => h

/-- `run_gossip_round`: sends the descriptors of the store that have not expired. -/
def runGossipRound (h : PeeredHub κ) (clock : UInt64) (answered : String → ℕ → Bool) :
    List (String × κ × Store) × PeeredHub κ :=
  match h.node with
  | none => ([], h)
  | some node =>
    let (sent, pm) := h.pm.gossipRound (node.store.inner.allDescriptors clock) answered
    (sent, { h with pm })

end PeeredHub

/-! ## Runs -/

/-- What happens to the peers of a hub. -/
inductive PeeringStep (κ : Type) where
  /-- `connect_to_peer`. -/
  | connect (identity : Identity) (addr : NodeAddr) (dial : Except String κ)
  /-- One seed of `bootstrap_from_seeds`. -/
  | seed (contact : SeedContact κ)
  /-- A request comes in. -/
  | request (request : Request) (peerIdentity : Option Identity) (clock : UInt64)
  /-- One of the requests that wait is handled. -/
  | handle (i : ℕ) (clock : UInt64)
  /-- A request whose body does not decode. -/
  | malformed (peerIdentity : Option Identity) (clock : UInt64)
  | healthCheck (outcomes : String → PingOutcome)
  | gossip (clock : UInt64) (answered : String → ℕ → Bool)

namespace PeeredHub

variable [Crypto] [DescriptorCodec] [SocketAddrParser] {κ : Type}

omit [DescriptorCodec] [SocketAddrParser] in
/-- A hub that has no peers yet. -/
def start (hubIdentity : Identity) (hubAddr : NodeAddr) (maxPeers : ℕ)
    (outboundAllowlist : List String) (node : HubDhtNode) : PeeredHub κ :=
  ⟨.new hubIdentity hubAddr maxPeers outboundAllowlist, some node, []⟩

/-- A hub and its peers after a step, with the STOREs sent to peers. -/
def step (h : PeeredHub κ) : PeeringStep κ → List (String × κ × Store) × PeeredHub κ
  | .connect identity addr dial => ([], { h with pm := (h.pm.connectToPeer identity addr dial).2 })
  | .seed contact => ([], h.bootstrapFromSeed contact)
  | .request request peerIdentity clock => ([], h.receive request peerIdentity clock)
  | .handle i clock => ([], (h.handleWaiting i clock).2)
  | .malformed peerIdentity clock => ([], h.precheck peerIdentity clock)
  | .healthCheck outcomes => ([], { h with pm := h.pm.healthCheck outcomes })
  | .gossip clock answered => h.runGossipRound clock answered

/-- A hub and its peers as a machine. -/
def machine : Machine (PeeredHub κ) (PeeringStep κ) (List (String × κ × Store)) := ⟨step⟩

end PeeredHub

end MeshProtocol
