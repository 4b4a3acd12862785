import MeshProtocol.Core.Reference
import MeshProtocol.Hub.PeerManager

/-!
# Whose connections the peers hold

Peers are keyed by DID.  A hub that connected by itself is registered under the identity of its TLS
certificate, but a connection that the hub opens is filed under the publisher of the advertisement
that named the address, or under the sender that a seed's PONG names, and nothing compares these
with the certificate of the other end.

`authenticated_iff`: all connections are under the DIDs of their certificates, throughout a run,
exactly if every dial that a DID was claimed for leads to an end with that DID.
-/

namespace MeshProtocol

open Std

/-! ## The connections that peers hold -/

/-- The connection that the entry of a DID holds. -/
def Peers.held {κ : Type} (peers : Peers κ) (did : String) : Option κ :=
  peers[did]?.bind (·.connection)

namespace Peers

variable {κ : Type} {peers : Peers κ} {did did' : String}

lemma held_insert (p : PeerState κ) :
    (Peers.held (peers.insert did p) did' : Option κ) =
      if did = did' then p.connection else peers.held did' := by
  rw [held, held, ExtTreeMap.getElem?_insert]
  by_cases h : did = did'
  · rw [if_pos (LawfulEqCmp.compare_eq_iff_eq.2 h), if_pos h, Option.bind_some]
  · rw [if_neg fun hcmp => h (LawfulEqCmp.compare_eq_iff_eq.1 hcmp), if_neg h]

/-- A change of an entry that gives it no connection leaves no new connection. -/
lemma held_of_held_modify {f : PeerState κ → PeerState κ} {c : κ}
    (hf : ∀ p, (f p).connection = some c → p.connection = some c)
    (h : Peers.held (peers.modify did f) did' = some c) : peers.held did' = some c := by
  rw [held, ExtTreeMap.getElem?_modify] at h
  rw [held]
  split at h
  · rename_i heq
    obtain rfl := LawfulEqCmp.compare_eq_iff_eq.1 heq
    cases hp : peers[did]? with
    | none => simp [hp] at h
    | some p =>
      rw [hp] at h
      exact hf p h
  · exact h

/-- A hub that connected by itself brings no connection. -/
lemma held_register : Peers.held (peers.register did) did' = peers.held did' := by
  unfold register
  split
  · rfl
  · rename_i habsent
    rw [held_insert]
    by_cases h : did = did'
    · subst h
      rw [if_pos rfl, held, ExtTreeMap.getElem?_eq_none habsent]
      rfl
    · rw [if_neg h]

/-- A failed dial leaves the connections as they are. -/
lemma held_afterFailedDial :
    Peers.held (peers.insert did (PeerManager.afterFailedDial peers[did]?)) did' =
      peers.held did' := by
  rw [held_insert]
  by_cases h : did = did'
  · subst h
    rw [if_pos rfl, held]
    cases peers[did]? with
    | none => rfl
    | some p => rfl
  · rw [if_neg h]

end Peers

namespace PeerManager

variable {κ : Type}

/-- A health check opens no connection. -/
lemma held_of_healthCheck {pm : PeerManager κ} {outcomes : String → PingOutcome} {did : String}
    {c : κ} (h : (pm.healthCheck outcomes).peers.held did = some c) :
    pm.peers.held did = some c := by
  rw [healthCheck] at h
  dsimp only at h
  generalize Round.healthCheck.targets pm.peers = dids at h
  generalize pm.peers = peers at h ⊢
  induction dids generalizing peers with
  | nil => exact h
  | cons d dids ih =>
    have hrest := ih (healthCheckPeer peers d (outcomes d)) h
    unfold healthCheckPeer at hrest
    split at hrest
    · refine Peers.held_of_held_modify ?_ hrest
      intro p hp
      exact hp
    · exact hrest
    · refine Peers.held_of_held_modify ?_ hrest
      intro p hp
      unfold PeerState.afterFailure at hp
      dsimp only at hp
      split at hp
      · cases hp
      · split at hp <;> exact hp

/-- A gossip round opens no connection. -/
lemma held_of_gossipRound {pm : PeerManager κ} {descriptors : List Descriptor}
    {answered : String → ℕ → Bool} {did : String} {c : κ}
    (h : (pm.gossipRound descriptors answered).2.peers.held did = some c) :
    pm.peers.held did = some c := by
  rw [gossipRound] at h
  dsimp only at h
  generalize pm.gossipTargets = targets at h
  generalize pm.peers = peers at h ⊢
  induction targets generalizing peers with
  | nil => exact h
  | cons t targets ih =>
    refine Peers.held_of_held_modify ?_ (ih _ h)
    intro p hp
    exact hp

end PeerManager

/-! ## Dials -/

namespace PeeredHub

section Steps

variable [Crypto] [DescriptorCodec] {κ : Type}

/-- The hub dials an address for a claimed DID, and gets a connection that it keeps: for the
publisher of an advertisement while there is room for another peer and it is not connected yet, or
for whomever the PONG of a seed names. -/
inductive Dials [SocketAddrParser] (h : PeeredHub κ) : PeeringStep κ → String → κ → Prop
  | connect {identity : Identity} {addr : NodeAddr} {connection : κ} {a : SocketAddr}
    (room : h.pm.connectedPeerCount < h.pm.maxPeers)
    (unconnected : h.pm.alreadyConnected identity.did = false)
    (allowed : validateOutboundAddr addr.address h.pm.outboundAllowlist = .ok a) :
    Dials h (.connect identity addr (.ok connection)) identity.did connection
  | seed {contact : SeedContact κ} {connection : κ} {pong : Pong} {a : SocketAddr}
    (allowed : validateOutboundAddr contact.address h.pm.outboundAllowlist = .ok a)
    (dialled : contact.dial = .ok connection)
    (answered : contact.pong = some pong)
    (unpoisoned : contact.found.bind (·.descriptors) = none ∨ h.node.isSome = true) :
    Dials h (.seed contact) pong.sender.did connection

/-- What the pre-check of a request does to the connections: nothing. -/
lemma held_isPeerHub (hub : Hub κ) {peers : Peers κ} (hpeers : hub.peers = some peers)
    (peerIdentity : Option Identity) (clock : UInt64) :
    ∃ peers', (hub.isPeerHub peerIdentity clock).2.peers = some peers' ∧
      ∀ did, peers'.held did = peers.held did := by
  unfold Hub.isPeerHub
  rw [hpeers]
  cases peerIdentity with
  | none => exact ⟨peers, hpeers, fun _ => rfl⟩
  | some pid =>
    dsimp only
    split
    · exact ⟨peers, hpeers, fun _ => rfl⟩
    · unfold Hub.recognize
      dsimp only
      split
      · exact ⟨peers.register pid.did, rfl, fun _ => Peers.held_register⟩
      · exact ⟨peers, hpeers, fun _ => rfl⟩

/-- The pre-check of a request opens no connection. -/
lemma held_precheck (h : PeeredHub κ) (peerIdentity : Option Identity) (clock : UInt64)
    (did : String) : (h.precheck peerIdentity clock).pm.peers.held did = h.pm.peers.held did := by
  unfold precheck
  cases h.node with
  | none => rfl
  | some node =>
    obtain ⟨peers', hpeers', hheld⟩ :=
      held_isPeerHub (h.toHub node) (rfl : _ = some h.pm.peers) peerIdentity clock
    dsimp only [ofHub]
    rw [hpeers', Option.getD_some]
    exact hheld did

variable [SocketAddrParser]

/-- A step that dials under a DID leaves the connection there. -/
lemma held_of_dials {h : PeeredHub κ} {i : PeeringStep κ} {did : String} {c : κ}
    (hdials : h.Dials i did c) : (h.step i).2.pm.peers.held did = some c := by
  cases hdials with
  | connect room unconnected allowed =>
    have hfull : ¬ h.pm.maxPeers ≤ h.pm.connectedPeerCount := Nat.not_le.2 room
    simp only [step, PeerManager.connectToPeer, if_neg hfull, unconnected, allowed,
      Bool.false_eq_true, if_false]
    rw [Peers.held_insert, if_pos rfl]
    rfl
  | @seed contact connection pong a allowed dialled answered unpoisoned =>
    simp only [step, bootstrapFromSeed, allowed, dialled, answered]
    cases hfound : contact.found.bind (·.descriptors) with
    | none =>
      dsimp only
      rw [Peers.held_insert, if_pos rfl]
      rfl
    | some descriptors =>
      cases hnode : h.node with
      | none => simp [hfound, hnode] at unpoisoned
      | some node =>
        dsimp only
        rw [Peers.held_insert, if_pos rfl]
        rfl

/-- A connection that is there after a step was there before, or the step dialled it. -/
lemma held_step {h : PeeredHub κ} {i : PeeringStep κ} {did : String} {c : κ}
    (hheld : (h.step i).2.pm.peers.held did = some c) :
    h.pm.peers.held did = some c ∨ h.Dials i did c := by
  cases i with
  | connect identity addr dial =>
    simp only [step, PeerManager.connectToPeer] at hheld
    split at hheld
    · exact .inl hheld
    rename_i hroom
    split at hheld
    · exact .inl hheld
    rename_i hunconnected
    split at hheld
    · exact .inl hheld
    rename_i a hallowed
    split at hheld
    · dsimp only at hheld
      rw [Peers.held_insert] at hheld
      split at hheld
      · rename_i hdid
        obtain rfl := hdid
        obtain rfl := Option.some.inj hheld
        exact .inr (.connect (Nat.not_le.1 hroom) (eq_false_of_ne_true hunconnected) hallowed)
      · exact .inl hheld
    · dsimp only at hheld
      rw [Peers.held_afterFailedDial] at hheld
      exact .inl hheld
  | seed contact =>
    simp only [step, bootstrapFromSeed] at hheld
    split at hheld
    · rename_i a connection pong hallowed hdialled hanswered
      split at hheld
      · rename_i hfound
        dsimp only at hheld
        rw [Peers.held_insert] at hheld
        split at hheld
        · rename_i hdid
          obtain rfl := hdid
          obtain rfl := Option.some.inj hheld
          exact .inr (.seed hallowed hdialled hanswered (.inl hfound))
        · exact .inl hheld
      · rename_i node hfound hnode
        dsimp only at hheld
        rw [Peers.held_insert] at hheld
        split at hheld
        · rename_i hdid
          obtain rfl := hdid
          obtain rfl := Option.some.inj hheld
          exact .inr (.seed hallowed hdialled hanswered (.inr (by rw [hnode]; rfl)))
        · exact .inl hheld
      · exact .inl hheld
    · exact .inl hheld
  | request request peerIdentity clock =>
    rw [step, pm_receive, held_precheck] at hheld
    exact .inl hheld
  | handle i clock =>
    rw [step, pm_handleWaiting] at hheld
    exact .inl hheld
  | malformed peerIdentity clock =>
    rw [step, held_precheck] at hheld
    exact .inl hheld
  | healthCheck outcomes => exact .inl (PeerManager.held_of_healthCheck hheld)
  | gossip clock answered =>
    rw [step, runGossipRound] at hheld
    split at hheld
    · exact .inl hheld
    · exact .inl (PeerManager.held_of_gossipRound hheld)

/-! ## Runs -/

section Connections

variable [MeshConnection κ]

open MeshConnection

/-- The other end of the connection has a certificate with this DID. -/
def LeadsTo (c : κ) (did : String) : Prop := ∃ id, peerMeshIdentity c = some id ∧ id.did = did

/-- Every entry that holds a connection is keyed by the DID of the certificate at its other end. -/
def Authenticated (h : PeeredHub κ) : Prop :=
  ∀ did p c, h.pm.peers[did]? = some p → p.connection = some c → LeadsTo c did

omit [DescriptorCodec] [SocketAddrParser] in
lemma authenticated_iff_held {h : PeeredHub κ} :
    h.Authenticated ↔ ∀ did c, h.pm.peers.held did = some c → LeadsTo c did := by
  constructor
  · intro hauth did c hheld
    obtain ⟨p, hp, hc⟩ := Option.bind_eq_some_iff.1 hheld
    exact hauth did p c hp hc
  · intro hauth did p c hp hc
    refine hauth did c ?_
    rw [Peers.held, hp]
    exact hc

/-- The peers are authenticated in every state of a run exactly if every dial under a claimed DID
leads to an end with that DID. -/
theorem authenticated_iff (hubIdentity : Identity) (hubAddr : NodeAddr) (maxPeers : ℕ)
    (outboundAllowlist : List String) (node : HubDhtNode) (steps : List (PeeringStep κ)) :
    (∀ pre, pre <+: steps →
        (machine.run (start hubIdentity hubAddr maxPeers outboundAllowlist node)
          pre).Authenticated) ↔
      ∀ pre i, pre ++ [i] <+: steps → ∀ did c,
        (machine.run (start hubIdentity hubAddr maxPeers outboundAllowlist node)
          pre).Dials i did c → LeadsTo c did := by
  refine Machine.always_iff (P := fun pre => (machine.run (start hubIdentity hubAddr maxPeers
    outboundAllowlist node) pre).Authenticated) ?_ fun pre i _ ih => ?_
  · intro did p c hp
    simp [start, PeerManager.new] at hp
  · rw [authenticated_iff_held] at ih ⊢
    rw [Machine.run_concat]
    constructor
    · intro hafter did c hdials
      exact hafter did c (held_of_dials hdials)
    · intro hends did c hheld
      cases held_step hheld with
      | inl hbefore => exact ih did c hbefore
      | inr hdials => exact hends did c hdials

end Connections

end Steps

/-! ## Connections under another DID -/

/-- A connection to an end with a certificate. -/
structure TlsEnd where
  certified : Identity
deriving DecidableEq

instance : MeshConnection TlsEnd := ⟨fun c => some c.certified⟩

/-- A parser that knows one address. -/
@[reducible] def parserOf (text : String) (addr : SocketAddr) : SocketAddrParser where
  parse s := if s = text then .ok addr else .error "invalid socket address syntax"

/-- The hub of the first publisher, with room for eight peers and an empty store. -/
def lonelyHub [Crypto] : PeeredHub TlsEnd :=
  let addr := NodeAddr.quic "198.51.100.1:4433"
  let hub : Hub TlsEnd := .build firstPublisher addr {} ⟨[]⟩ {} .new none
  start firstPublisher addr 8 [] hub.node

/-- A seed run by the third publisher, whose PONG names the second one. -/
def lyingSeed : SeedContact TlsEnd where
  address := "203.0.113.7:4433"
  dial := .ok ⟨thirdPublisher⟩
  pong := some ⟨secondPublisher, NodeAddr.quic "203.0.113.7:4433",
    NodeAddr.quic "198.51.100.1:4433"⟩
  found := none
  clock := 1700000000000000

lemma not_authenticated_of_held [Crypto] {h : PeeredHub TlsEnd} {did : String} {c : TlsEnd}
    (hheld : h.pm.peers.held did = some c) (hne : c.certified.did ≠ did) : ¬ h.Authenticated := by
  intro hauth
  obtain ⟨id, hid, hdid⟩ := authenticated_iff_held.1 hauth did c hheld
  obtain rfl := Option.some.inj hid
  exact hne hdid

/-- A connection to the third publisher is filed under the DID of the second one, because a PONG
names it, or an advertisement does. -/
theorem claimed_did_not_authenticated :
    letI : Crypto := cryptoOf []
    letI : DescriptorCodec := wireCodec
    letI : SocketAddrParser := parserOf "203.0.113.7:4433" ⟨.v4 ⟨![203, 0, 113, 7]⟩, 4433⟩
    ¬ (machine.run lonelyHub [.seed lyingSeed]).Authenticated ∧
      ¬ (machine.run lonelyHub [.connect secondPublisher (NodeAddr.quic "203.0.113.7:4433")
        (.ok ⟨thirdPublisher⟩)]).Authenticated := by
  let _ : Crypto := cryptoOf []
  let _ : DescriptorCodec := wireCodec
  let _ : SocketAddrParser := parserOf "203.0.113.7:4433" ⟨.v4 ⟨![203, 0, 113, 7]⟩, 4433⟩
  have hne : (thirdPublisher : Identity).did ≠ secondPublisher.did := by decide +kernel
  constructor
  · apply not_authenticated_of_held (c := ⟨thirdPublisher⟩) _ hne
    decide +kernel
  · apply not_authenticated_of_held (c := ⟨thirdPublisher⟩) _ hne
    decide +kernel

end PeeredHub

end MeshProtocol
