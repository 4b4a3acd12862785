import Mathlib.Data.List.Basic
import Std.Data.ExtTreeMap

/-!
# Hub peering (`mesh-hub/src/peering.rs`)

The peers a hub knows, and the two rounds in which it talks to them one after the other: the health
check, which pings each peer once, and the gossip round, which sends each peer a batch of
descriptors.  Both run with the peer manager locked from the first peer to the last.  They are
written as what a round does until it has to wait for an answer (`Round.go`), and what it does when
the answer is there (`Wait.resume`).

Connections are of a type `κ` that says whom they lead to.
-/

namespace MeshProtocol

open Std

/-- Maximum descriptors per gossip round per peer. -/
def MAX_GOSSIP_BATCH : ℕ := 50

/-- Consecutive health-check failures before marking a peer unhealthy. -/
def UNHEALTHY_THRESHOLD : UInt32 := 3

/-- Consecutive health-check failures before disconnecting a peer. -/
def DISCONNECT_THRESHOLD : UInt32 := 5

/-- Status of a peer hub connection. -/
inductive PeerStatus where
  | connected
  | disconnected
  | unhealthy
deriving DecidableEq, Repr

/-- State for a single peer hub.  The additions to the number of failures wrap around, as they do
without overflow checks; a build with overflow checks panics there. -/
structure PeerState (κ : Type) where
  connection : Option κ
  status : PeerStatus
  consecutiveFailures : UInt32
deriving DecidableEq

/-- The peer hubs of a hub, by DID. -/
abbrev Peers (κ : Type) := ExtTreeMap String (PeerState κ)

variable {κ : Type}

namespace PeerState

/-- A peer that a connection was made to. -/
def outgoing (connection : κ) : PeerState κ := ⟨some connection, .connected, 0⟩

/-- A peer that connected to the hub by itself; the hub has no connection of its own to it. -/
def incoming : PeerState κ := ⟨none, .connected, 0⟩

/-- A peer that answered a health check. -/
def afterPong (p : PeerState κ) : PeerState κ :=
  { p with consecutiveFailures := 0, status := .connected }

/-- A peer that did not answer a health check. -/
def afterFailure (p : PeerState κ) : PeerState κ :=
  let failures := p.consecutiveFailures + 1
  if failures ≥ DISCONNECT_THRESHOLD then
    { connection := none, status := .disconnected, consecutiveFailures := failures }
  else if failures ≥ UNHEALTHY_THRESHOLD then
    { p with status := .unhealthy, consecutiveFailures := failures }
  else { p with consecutiveFailures := failures }

end PeerState

/-- Registers a hub that connected by itself, unless it is known. -/
def Peers.register (peers : Peers κ) (did : String) : Peers κ :=
  if did ∈ peers then peers else peers.insert did .incoming

/-! ## Rounds -/

/-- A health check, or a gossip round with a number of descriptors. -/
inductive Round where
  | healthCheck
  | gossip (batch : ℕ)
deriving DecidableEq, Repr

namespace Round

/-- The peers a round visits. -/
def visits : Round → PeerState κ → Bool
  | .healthCheck, p => p.status ≠ .disconnected
  | .gossip _, p => p.status = .connected ∧ p.connection.isSome

/-- How many requests each peer gets. -/
def requests : Round → ℕ
  | .healthCheck => 1
  | .gossip batch => batch

/-- The DIDs of the peers a round visits, in the order of the map. -/
def targets (r : Round) (peers : Peers κ) : List String :=
  (peers.toList.filter fun (_, p) => r.visits p).map Prod.fst

/-- The peers after a visit with the given number of failed requests. -/
def finish (r : Round) (peers : Peers κ) (did : String) (failures : UInt32) : Peers κ :=
  match r with
  | .healthCheck =>
    peers.modify did (if failures = 0 then PeerState.afterPong else PeerState.afterFailure)
  | .gossip _ =>
    peers.modify did fun p => { p with consecutiveFailures := p.consecutiveFailures + failures }

end Round

/-- A round that waits for an answer: whom it visits over which connection, how many requests to
the same peer are left and how many failed, and whom it visits next. -/
structure Wait (κ : Type) where
  round : Round
  did : String
  peer : κ
  left : ℕ
  failures : UInt32
  rest : List String

/-- How a round goes on: it ends, or it sends a request and waits. -/
inductive Progress (κ : Type) where
  | finished (peers : Peers κ)
  | sends (wait : Wait κ) (peers : Peers κ)

/-- Visits peers until a request is sent.  A peer without a connection fails at once. -/
def Round.go (r : Round) (peers : Peers κ) : List String → Progress κ
  | [] => .finished peers
  | did :: rest =>
    match peers[did]?.bind (·.connection) with
    | some peer => .sends ⟨r, did, peer, r.requests - 1, 0, rest⟩ peers
    | none => r.go (r.finish peers did r.requests.toUInt32) rest

/-- Goes on after an answer, or after the connection has failed.  The connection that is used for
the next descriptor is the same one, since nobody else can change the peers meanwhile. -/
def Wait.resume (w : Wait κ) (peers : Peers κ) (ok : Bool) : Progress κ :=
  let failures := if ok then w.failures else w.failures + 1
  match w.left with
  | left + 1 => .sends { w with left, failures } peers
  | 0 => w.round.go (w.round.finish peers w.did failures) w.rest

end MeshProtocol
