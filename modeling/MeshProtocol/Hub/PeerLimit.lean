import MeshProtocol.Hub.Authenticated
import MeshProtocol.Hub.Promotion

/-!
# How many peers are connected

`connect_to_peer` counts the connected peers before it dials.  A seed is registered, and a hub that
connects by itself, without a look at the count, and a health check can make any number of unhealthy
peers connected again.  `peerLimit_iff`: the limit is respected throughout a run exactly if each of
these finds room.
-/

namespace MeshProtocol

open Std

/-! ## The connected peers -/

/-- The DIDs of the connected peers. -/
def Peers.connected {κ : Type} (peers : Peers κ) : Finset String :=
  Census.census peers fun p => p.status = .connected

namespace Peers

variable {κ : Type} {peers : Peers κ} {did did' : String}

lemma mem_connected :
    did ∈ peers.connected ↔ ∃ p, peers[did]? = some p ∧ p.status = .connected := by
  simp [connected, Census.mem_census]

lemma mem_connected_insert {p : PeerState κ} :
    did' ∈ Peers.connected (peers.insert did p) ↔
      if did = did' then p.status = .connected else did' ∈ peers.connected := by
  rw [mem_connected, ExtTreeMap.getElem?_insert]
  by_cases h : did = did'
  · simp [h]
  · simp [h, mem_connected]

lemma connected_insert {p : PeerState κ} (hp : p.status = .connected) :
    Peers.connected (peers.insert did p) = insert did peers.connected := by
  ext did'
  rw [mem_connected_insert, Finset.mem_insert]
  by_cases h : did = did'
  · simp [h, hp]
  · simp [h, Ne.symm h]

lemma connected_insert_subset {p : PeerState κ} (hp : p.status ≠ .connected) :
    Peers.connected (peers.insert did p) ⊆ peers.connected := by
  intro did' hmem
  rw [mem_connected_insert] at hmem
  split_ifs at hmem with h
  · exact absurd hmem hp
  · exact hmem

end Peers

namespace PeerManager

variable {κ : Type}

lemma card_connected (pm : PeerManager κ) : pm.peers.connected.card = pm.connectedPeerCount :=
  Census.card_census pm.peers _

/-! ## A health check -/

/-- The peer's turn in a health check fails, and it has failed often enough to be unhealthy. -/
def Loses (p : PeerState κ) (outcome : PingOutcome) : Prop :=
  (p.connection = none ∨ outcome = .failed) ∧ UNHEALTHY_THRESHOLD ≤ p.consecutiveFailures + 1

instance (p : PeerState κ) (outcome : PingOutcome) : Decidable (Loses p outcome) :=
  inferInstanceAs (Decidable (_ ∧ _))

/-- The connected peers that a health check loses. -/
def lost (pm : PeerManager κ) (outcomes : String → PingOutcome) : Finset String :=
  pm.peers.connected.filter fun did => pm.peers[did]?.any fun p => Loses p (outcomes did)

/-- The unhealthy peers that answer a health check. -/
def revived (pm : PeerManager κ) (outcomes : String → PingOutcome) : Finset String :=
  (Census.census pm.peers fun p => p.status = .unhealthy ∧ p.connection.isSome).filter
    fun did => outcomes did = .pong

lemma status_afterFailure (p : PeerState κ) :
    p.afterFailure.status = .connected ↔
      p.status = .connected ∧ p.consecutiveFailures + 1 < UNHEALTHY_THRESHOLD := by
  unfold PeerState.afterFailure
  dsimp only
  split_ifs with hdisconnect hunhealthy
  · simp only [false_iff, not_and, UInt32.not_lt]
    exact fun _ => UInt32.le_trans (by decide) hdisconnect
  · simp only [false_iff, not_and, UInt32.not_lt]
    exact fun _ => hunhealthy
  · exact (and_iff_left (UInt32.not_le.1 hunhealthy)).symm

/-- A peer is connected after its turn if it was and is not lost, or if it is revived. -/
lemma status_pinged {p : PeerState κ} {outcome : PingOutcome} (hp : p.status ≠ .disconnected) :
    (pinged p outcome).status = .connected ↔
      (p.status = .connected ∧ ¬ Loses p outcome) ∨
        (p.status = .unhealthy ∧ p.connection.isSome ∧ outcome = .pong) := by
  rcases hc : p.connection with _ | c
  · have hturn : pinged p outcome = p.afterFailure := by simp only [pinged, hc]
    rw [hturn, status_afterFailure]
    simp [Loses, hc]
  · cases outcome with
    | failed =>
      have hturn : pinged p .failed = p.afterFailure := by simp only [pinged, hc]
      rw [hturn, status_afterFailure]
      simp [Loses, hc]
    | malformedPong =>
      have hturn : pinged p .malformedPong = p := by simp only [pinged, hc]
      rw [hturn]
      simp [Loses, hc]
    | pong =>
      have hturn : pinged p .pong = p.afterPong := by simp only [pinged, hc]
      rw [hturn]
      cases hstatus : p.status with
      | connected => simp [Loses, hc, PeerState.afterPong]
      | unhealthy => simp [PeerState.afterPong]
      | disconnected => exact absurd hstatus hp

lemma connected_healthCheck (pm : PeerManager κ) (outcomes : String → PingOutcome) :
    (pm.healthCheck outcomes).peers.connected =
      (pm.peers.connected \ pm.lost outcomes) ∪ pm.revived outcomes := by
  ext did
  simp only [Peers.mem_connected, getElem?_healthCheck, Finset.mem_union, Finset.mem_sdiff, lost,
    revived, Finset.mem_filter, Census.mem_census]
  cases hp : pm.peers[did]? with
  | none => simp
  | some p =>
    by_cases hstatus : p.status = .disconnected
    · simp [hstatus]
    · simp only [Option.map_some, if_neg hstatus, Option.some.injEq, exists_eq_left',
        status_pinged hstatus, Option.any_some, decide_eq_true_eq]
      tauto

/-- What a health check does to the count. -/
lemma count_healthCheck (pm : PeerManager κ) (outcomes : String → PingOutcome) :
    (pm.healthCheck outcomes).connectedPeerCount + (pm.lost outcomes).card =
      pm.connectedPeerCount + (pm.revived outcomes).card := by
  have hdisjoint : Disjoint (pm.peers.connected \ pm.lost outcomes) (pm.revived outcomes) := by
    rw [Finset.disjoint_left]
    intro did hkept hrevived
    obtain ⟨p, hp, hstatus⟩ := Peers.mem_connected.1 (Finset.mem_sdiff.1 hkept).1
    obtain ⟨p', hp', hunhealthy⟩ := Census.mem_census.1 (Finset.mem_filter.1 hrevived).1
    obtain rfl := Option.some.inj (hp.symm.trans hp')
    simp [hstatus] at hunhealthy
  have hlost : pm.lost outcomes ⊆ pm.peers.connected := Finset.filter_subset _ _
  have hcard := Finset.card_sdiff_add_card_eq_card hlost
  rw [← card_connected, ← card_connected, connected_healthCheck,
    Finset.card_union_of_disjoint hdisjoint]
  omega

/-- A gossip round leaves the count as it is. -/
lemma count_gossipRound (pm : PeerManager κ) (descriptors : List Descriptor)
    (answered : String → ℕ → Bool) :
    (pm.gossipRound descriptors answered).2.connectedPeerCount = pm.connectedPeerCount := by
  rw [← card_connected, ← card_connected]
  congr 1
  ext did
  rw [Peers.mem_connected, Peers.mem_connected, getElem?_gossipRound]
  cases pm.peers[did]? with
  | none => simp
  | some p => by_cases h : p.status = .connected ∧ p.connection.isSome <;> simp [h]

/-- Registering a peer keeps the limit exactly if it is connected already or there is room. -/
lemma count_insert_le_iff {pm : PeerManager κ} (hlimit : pm.connectedPeerCount ≤ pm.maxPeers)
    (did : String) {p : PeerState κ} (hp : p.status = .connected) :
    { pm with peers := pm.peers.insert did p }.connectedPeerCount ≤ pm.maxPeers ↔
      did ∈ pm.peers.connected ∨ pm.connectedPeerCount < pm.maxPeers := by
  rw [← card_connected] at hlimit ⊢
  rw [← card_connected]
  dsimp only
  rw [Peers.connected_insert hp]
  by_cases hmem : did ∈ pm.peers.connected
  · simp [hmem, hlimit]
  · rw [Finset.card_insert_of_notMem hmem, or_iff_right hmem]
    exact Nat.succ_le_iff

/-- Connecting to a peer keeps the limit. -/
lemma count_connectToPeer_le [Crypto] [SocketAddrParser] {pm : PeerManager κ}
    (hlimit : pm.connectedPeerCount ≤ pm.maxPeers) (identity : Identity) (addr : NodeAddr)
    (dial : Except String κ) :
    (pm.connectToPeer identity addr dial).2.connectedPeerCount ≤ pm.maxPeers := by
  rw [← card_connected] at hlimit ⊢
  unfold connectToPeer
  dsimp only
  split_ifs with hfull hknown
  · exact hlimit
  · exact hlimit
  · rw [← card_connected, Nat.not_le] at hfull
    split
    · exact hlimit
    · split
      · dsimp only
        rw [Peers.connected_insert rfl]
        exact (Finset.card_insert_le _ _).trans hfull
      · have hdropped : (afterFailedDial pm.peers[identity.did]?).status ≠ .connected := by
          cases pm.peers[identity.did]? <;> simp [afterFailedDial]
        exact (Finset.card_le_card (Peers.connected_insert_subset hdropped)).trans hlimit

end PeerManager

/-! ## Steps -/

namespace PeeredHub

section Steps

variable [Crypto] [DescriptorCodec] {κ : Type}

/-- The TLS peer of a request is an unknown hub with an advertisement in the store. -/
def AutoRegisters (h : PeeredHub κ) (peerIdentity : Option Identity) (clock : UInt64)
    (did : String) : Prop :=
  ∃ node pid, h.node = some node ∧ peerIdentity = some pid ∧ pid.did = did ∧ did ∉ h.pm.peers ∧
    ∃ d ∈ ((h.toHub node).hubDescs clock).1, d.publisher.did = did

lemma peers_isPeerHub (h : PeeredHub κ) {node : HubDhtNode} (hnode : h.node = some node)
    (peerIdentity : Option Identity) (clock : UInt64) :
    (((h.toHub node).isPeerHub peerIdentity clock).2.peers = some h.pm.peers ∧
        ∀ did, ¬ h.AutoRegisters peerIdentity clock did) ∨
      ∃ did, h.AutoRegisters peerIdentity clock did ∧
        ((h.toHub node).isPeerHub peerIdentity clock).2.peers =
          some (h.pm.peers.insert did .incoming) := by
  have hpeers : (h.toHub node).peers = some h.pm.peers := rfl
  unfold Hub.isPeerHub
  rw [hpeers]
  cases peerIdentity with
  | none =>
    left
    refine ⟨rfl, ?_⟩
    rintro did ⟨node', pid, -, hpid, -⟩
    cases hpid
  | some pid =>
    dsimp only
    by_cases hknown : pid.did ∈ h.pm.peers
    · left
      refine ⟨?_, ?_⟩
      · split_ifs
        · rfl
        · unfold Hub.recognize
          dsimp only
          split_ifs
          · rw [Peers.register, if_pos hknown]
          · rfl
      · rintro did ⟨node', pid', -, hpid, rfl, hunknown, -⟩
        obtain rfl := Option.some.inj hpid
        exact hunknown hknown
    · have hfresh : h.pm.peers[pid.did]? = none := ExtTreeMap.getElem?_eq_none hknown
      rw [hfresh, Option.any_none, if_neg Bool.false_ne_true]
      unfold Hub.recognize
      dsimp only
      split_ifs with had
      · right
        refine ⟨pid.did, ⟨node, pid, hnode, rfl, rfl, hknown, had⟩, ?_⟩
        rw [Peers.register, if_neg hknown]
      · left
        refine ⟨rfl, ?_⟩
        rintro did ⟨node', pid', hnode', hpid, rfl, -, had'⟩
        obtain rfl := Option.some.inj (hnode.symm.trans hnode')
        obtain rfl := Option.some.inj hpid
        exact had had'

/-- The pre-check of a request registers its TLS peer, or leaves the peers as they are. -/
lemma pm_precheck (h : PeeredHub κ) (peerIdentity : Option Identity) (clock : UInt64) :
    ((h.precheck peerIdentity clock).pm = h.pm ∧ ∀ did, ¬ h.AutoRegisters peerIdentity clock did) ∨
      ∃ did, h.AutoRegisters peerIdentity clock did ∧
        (h.precheck peerIdentity clock).pm =
          { h.pm with peers := h.pm.peers.insert did .incoming } := by
  unfold precheck
  cases hnode : h.node with
  | none =>
    left
    refine ⟨rfl, ?_⟩
    rintro did ⟨node, pid, hsome, -⟩
    rw [hnode] at hsome
    cases hsome
  | some node =>
    dsimp only [ofHub]
    rcases h.peers_isPeerHub hnode peerIdentity clock with ⟨hsame, hnone⟩ | ⟨did, hauto, hinsert⟩
    · left
      exact ⟨by rw [hsame]; rfl, hnone⟩
    · right
      exact ⟨did, hauto, by rw [hinsert]; rfl⟩

variable [SocketAddrParser]

/-- The step finds room for the peers it makes connected: a seed, and a hub that connects by itself,
unless it is one already; and in a health check those that are revived, the lost ones gone. -/
def HasRoom (h : PeeredHub κ) : PeeringStep κ → Prop
  | .connect _ _ _ => True
  | .seed contact => ∀ did c, h.Dials (.seed contact) did c →
      did ∈ h.pm.peers.connected ∨ h.pm.connectedPeerCount < h.pm.maxPeers
  | .request _ peerIdentity clock => ∀ did, h.AutoRegisters peerIdentity clock did →
      h.pm.connectedPeerCount < h.pm.maxPeers
  | .handle _ _ => True
  | .malformed peerIdentity clock => ∀ did, h.AutoRegisters peerIdentity clock did →
      h.pm.connectedPeerCount < h.pm.maxPeers
  | .healthCheck outcomes =>
    h.pm.connectedPeerCount + (h.pm.revived outcomes).card ≤
      h.pm.maxPeers + (h.pm.lost outcomes).card
  | .gossip _ _ => True

/-- A seed is registered if it is dialled, under the DID its PONG names. -/
lemma pm_bootstrapFromSeed (h : PeeredHub κ) (contact : SeedContact κ) :
    ((h.bootstrapFromSeed contact).pm = h.pm ∧ ∀ did c, ¬ h.Dials (.seed contact) did c) ∨
      ∃ did c, h.Dials (.seed contact) did c ∧
        (∀ did' c', h.Dials (.seed contact) did' c' → did' = did) ∧
        (h.bootstrapFromSeed contact).pm =
          { h.pm with peers := h.pm.peers.insert did (.outgoing c) } := by
  by_cases hdials : ∃ did c, h.Dials (.seed contact) did c
  · right
    obtain ⟨did, c, hdials⟩ := hdials
    refine ⟨did, c, hdials, ?_, ?_⟩
    · intro did' c' hdials'
      cases hdials with
      | seed allowed dialled answered unpoisoned =>
        cases hdials' with
        | seed allowed' dialled' answered' unpoisoned' =>
          rw [Option.some.inj (answered'.symm.trans answered)]
    · cases hdials with
      | seed allowed dialled answered unpoisoned =>
        simp only [bootstrapFromSeed, allowed, dialled, answered]
        cases hfound : contact.found.bind (·.descriptors) with
        | none => rfl
        | some descriptors =>
          cases hnode : h.node with
          | none => simp [hfound, hnode] at unpoisoned
          | some node => rfl
  · left
    have hnone : ∀ did c, ¬ h.Dials (.seed contact) did c := fun did c hc => hdials ⟨did, c, hc⟩
    refine ⟨?_, hnone⟩
    unfold bootstrapFromSeed
    split
    case h_1 allowed dialled answered =>
      dsimp only
      split
      case h_1 hfound => exact absurd (.seed allowed dialled answered (.inl hfound)) (hnone _ _)
      case h_2 hnode =>
        exact absurd (.seed allowed dialled answered (.inr (by rw [hnode]; rfl))) (hnone _ _)
      case h_3 => rfl
    case h_2 => rfl

lemma maxPeers_step (h : PeeredHub κ) (i : PeeringStep κ) :
    (h.step i).2.pm.maxPeers = h.pm.maxPeers := by
  have hprecheck : ∀ peerIdentity clock,
      (h.precheck peerIdentity clock).pm.maxPeers = h.pm.maxPeers := by
    intro peerIdentity clock
    rcases h.pm_precheck peerIdentity clock with ⟨hpm, -⟩ | ⟨did, -, hpm⟩ <;> rw [hpm]
  cases i with
  | connect identity addr dial =>
    simp only [step, PeerManager.connectToPeer]
    split_ifs
    · rfl
    · rfl
    · split
      · rfl
      · split <;> rfl
  | seed contact =>
    have hstep : (h.step (.seed contact)).2.pm = (h.bootstrapFromSeed contact).pm := rfl
    rw [hstep]
    rcases h.pm_bootstrapFromSeed contact with ⟨hpm, -⟩ | ⟨did, c, -, -, hpm⟩ <;> rw [hpm]
  | request request peerIdentity clock =>
    exact (congrArg _ (h.pm_receive request peerIdentity clock)).trans
      (hprecheck peerIdentity clock)
  | handle i clock => exact congrArg _ (h.pm_handleWaiting i clock)
  | malformed peerIdentity clock => exact hprecheck peerIdentity clock
  | healthCheck outcomes => rfl
  | gossip clock answered =>
    rw [step, runGossipRound]
    split <;> rfl

/-- A step from within the limit stays within it exactly if it finds room. -/
lemma count_step_le_iff {h : PeeredHub κ} (hlimit : h.pm.connectedPeerCount ≤ h.pm.maxPeers)
    (i : PeeringStep κ) :
    (h.step i).2.pm.connectedPeerCount ≤ h.pm.maxPeers ↔ h.HasRoom i := by
  have hprecheck : ∀ peerIdentity clock,
      (h.precheck peerIdentity clock).pm.connectedPeerCount ≤ h.pm.maxPeers ↔
        ∀ did, h.AutoRegisters peerIdentity clock did →
          h.pm.connectedPeerCount < h.pm.maxPeers := by
    intro peerIdentity clock
    rcases h.pm_precheck peerIdentity clock with ⟨hpm, hnone⟩ | ⟨did, hauto, hpm⟩
    · rw [hpm]
      exact iff_of_true hlimit fun did hauto => absurd hauto (hnone did)
    · have hunconnected : did ∉ h.pm.peers.connected := by
        intro hmem
        obtain ⟨p, hp, -⟩ := Peers.mem_connected.1 hmem
        obtain ⟨-, -, -, -, -, hunknown, -⟩ := hauto
        exact hunknown (ExtTreeMap.mem_iff_isSome_getElem?.2 (by rw [hp]; rfl))
      rw [hpm, PeerManager.count_insert_le_iff hlimit did rfl, or_iff_right hunconnected]
      exact ⟨fun hroom _ _ => hroom, fun hroom => hroom did hauto⟩
  cases i with
  | connect identity addr dial =>
    exact iff_of_true (PeerManager.count_connectToPeer_le hlimit identity addr dial) trivial
  | seed contact =>
    have hstep : (h.step (.seed contact)).2.pm = (h.bootstrapFromSeed contact).pm := rfl
    rw [hstep, HasRoom]
    rcases h.pm_bootstrapFromSeed contact with ⟨hpm, hnone⟩ | ⟨did, c, hdials, hunique, hpm⟩
    · rw [hpm]
      exact iff_of_true hlimit fun did c hdials => absurd hdials (hnone did c)
    · rw [hpm, PeerManager.count_insert_le_iff hlimit did rfl]
      constructor
      · intro hroom did' c' hdials'
        rwa [hunique did' c' hdials']
      · exact fun hroom => hroom did c hdials
  | request request peerIdentity clock =>
    have hstep : (h.step (.request request peerIdentity clock)).2.pm =
        (h.precheck peerIdentity clock).pm := h.pm_receive request peerIdentity clock
    rw [hstep]
    exact hprecheck peerIdentity clock
  | handle i clock =>
    refine iff_of_true ?_ trivial
    rw [step, pm_handleWaiting]
    exact hlimit
  | malformed peerIdentity clock => exact hprecheck peerIdentity clock
  | healthCheck outcomes =>
    have hcount := h.pm.count_healthCheck outcomes
    change (h.pm.healthCheck outcomes).connectedPeerCount ≤ h.pm.maxPeers ↔
      h.pm.connectedPeerCount + (h.pm.revived outcomes).card ≤
        h.pm.maxPeers + (h.pm.lost outcomes).card
    omega
  | gossip clock answered =>
    refine iff_of_true ?_ trivial
    rw [step, runGossipRound]
    split
    · exact hlimit
    · dsimp only
      rw [PeerManager.count_gossipRound]
      exact hlimit

/-! ## Runs -/

/-- The limit is respected in every state of a run exactly if every step of it finds room. -/
theorem peerLimit_iff (hubIdentity : Identity) (hubAddr : NodeAddr) (maxPeers : ℕ)
    (outboundAllowlist : List String) (node : HubDhtNode) (steps : List (PeeringStep κ)) :
    (∀ pre, pre <+: steps →
        (machine.run (start hubIdentity hubAddr maxPeers outboundAllowlist node)
          pre).pm.connectedPeerCount ≤ maxPeers) ↔
      ∀ pre i, pre ++ [i] <+: steps →
        (machine.run (start hubIdentity hubAddr maxPeers outboundAllowlist node)
          pre).HasRoom i := by
  have hmax : ∀ pre : List (PeeringStep κ),
      (machine.run (start hubIdentity hubAddr maxPeers outboundAllowlist node)
        pre).pm.maxPeers = maxPeers := by
    intro pre
    refine Machine.run_invariant (P := fun h : PeeredHub κ => h.pm.maxPeers = maxPeers) rfl ?_ pre
    intro h i hmax
    exact (h.maxPeers_step i).trans hmax
  refine Machine.always_iff (P := fun pre => (machine.run (start hubIdentity hubAddr maxPeers
    outboundAllowlist node) pre).pm.connectedPeerCount ≤ maxPeers) (Nat.zero_le _) ?_
  intro pre i _ hlimit
  have hiff := count_step_le_iff (hlimit.trans_eq (hmax pre).symm) i
  rw [hmax pre] at hiff
  rwa [Machine.run_concat]

end Steps

/-! ## One client too many -/

/-- The hub of the first publisher, with room for one peer and an empty store. -/
def smallHub [Crypto] : PeeredHub TlsEnd :=
  let addr := NodeAddr.quic "198.51.100.1:4433"
  let hub : Hub TlsEnd := .build firstPublisher addr {} ⟨[]⟩ {} .new none
  start firstPublisher addr 1 [] hub.node

/-- The hub has its peer when a client stores an advertisement and then sends a PING. -/
def crowdingSteps : List (PeeringStep TlsEnd) := [
  .connect thirdPublisher (.quic "203.0.113.7:4433") (.ok ⟨thirdPublisher⟩),
  .request (.store ⟨secondPublisher, .quic "198.51.100.2:4433", Hub.ownAdvertisement⟩)
    (some secondPublisher) 1700000000000000,
  .handle 0 1700000000000000,
  .request (.ping ⟨secondPublisher, .quic "198.51.100.2:4433"⟩) (some secondPublisher)
    1700000000000000]

/-- The client becomes the second connected peer of a hub that has room for one. -/
theorem client_exceeds_limit :
    letI : Crypto := cryptoOf [Hub.ownAdvertisement]
    letI : DescriptorCodec := wireCodec
    letI : SocketAddrParser := parserOf "203.0.113.7:4433" ⟨.v4 ⟨![203, 0, 113, 7]⟩, 4433⟩
    smallHub.pm.maxPeers = 1 ∧ (machine.run smallHub crowdingSteps).pm.connectedPeerCount = 2 := by
  let _ : Crypto := cryptoOf [Hub.ownAdvertisement]
  let _ : DescriptorCodec := wireCodec
  let _ : SocketAddrParser := parserOf "203.0.113.7:4433" ⟨.v4 ⟨![203, 0, 113, 7]⟩, 4433⟩
  exact ⟨rfl, by decide +kernel⟩

end PeeredHub

end MeshProtocol
