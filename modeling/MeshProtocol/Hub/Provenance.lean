import MeshProtocol.Hub.Authenticated
import MeshProtocol.Hub.Gossip
import MeshProtocol.Hub.Holdings

/-!
# Where what a hub sends comes from

The storage of a running hub goes through storage calls that store nothing but what the steps offer
(`HubRuntime.refines_storage`), so what the hub answers with and gossips is authentic and was in its
database or offered before (`HubRuntime.sends_genuine`).  The addresses that a hub dials come from
there too: the configured seeds aside, it dials what an authentic hub advertisement names
(`HubRuntime.dials_advertised`).
-/

namespace MeshProtocol

open Std Bytes DescriptorStorage CachedStorage

/-! ## An advertisement -/

/-- The advertisement of the hub of the second publisher. -/
def hubAdvertisement : Descriptor where
  schemaHash := hashOf 0x9a2311c00afecde7b83d5ef6b079eee13a2a1162ee7ae463cce85576eda7ca38
  topic := "hub"
  payload := wireMetadata.toCbor ⟨1000000, [], "quic://203.0.113.7:4433"⟩
  publisher := secondPublisher
  timestamp := 1700000000000000
  sequence := 1700000000
  ttl := 3600
  routingKeys := [
    hashOf 0xeb3773d0d02c9a7b61cb1d177b3bb3f904dbe1f3c88bb662bfdb3bcbe38af45e, hubKey]
  id := hashOf 0xf54272a489ae3fdee3471c225bd8eba0bb48919f484049cc588406e26b4d615b
  signature := beBytes 64
    0x2926022cc9f589c6093e436e2ca32d0a8123c769438095f76a3cb110e8d389d8819ffb51cf283c651c4a6acfeec0236212a3463ab9532a0e0215fb6062c12a0a

/-! ## What the steps offer -/

/-- The descriptors that a step offers for storing: those of a request that comes in, of a seed, and
the hub's own. -/
def HubTask.offered [Crypto] [HubMetadataCodec] {κ Value : Type} [SerdeJson Value]
    (keypair : Keypair) (metadata : HubMetadata) : HubTask κ Value → List Descriptor
  | .request message _ _ => message.offered
  | .seedPeer reply => reply.descriptors
  | .advertise now _ => (selfAdvertisementDescriptor keypair metadata now).toList
  | .seed now entries => entries.filterMap fun entry => entry.1.descriptor keypair now
  | _ => []

/-- The descriptors of some requests that wait. -/
def onHold (waiting : List CheckedRequest) : List Descriptor :=
  waiting.flatMap fun checked => checked.request.offered

/-- The descriptors that a step takes to storage: those of a request when it is handled, all others
when they are offered. -/
def HubRuntime.takes [Crypto] [HubMetadataCodec] {κ Value : Type} [SerdeJson Value]
    (rt : HubRuntime κ) : HubTask κ Value → List Descriptor
  | .request _ _ _ => []
  | .handle i _ => onHold rt.hub.waiting[i]?.toList
  | task => task.offered rt.keypair rt.metadata

/-- The times at which a step may store or evict. -/
def HubTask.times {κ Value : Type} : HubTask κ Value → List UInt64
  | .handle _ clock => [clock]
  | .seedPeer reply => [reply.clock]
  | .advertise _ clock => [clock]
  | .seed _ entries => entries.map Prod.snd
  | .evict clock => [clock]
  | _ => []

section Steps

variable [Crypto] [DescriptorCodec] {κ : Type}

/-- The node that is there now was there before, and its storage has advanced. -/
def NodeAdvances (offered : List Descriptor) (times : List UInt64)
    (node node' : Option HubDhtNode) : Prop :=
  ∀ n', node' = some n' → ∃ n, node = some n ∧ Advances offered times n.store n'.store

lemma NodeAdvances.refl (offered : List Descriptor) (times : List UInt64)
    (node : Option HubDhtNode) : NodeAdvances offered times node node :=
  fun n' hn' => ⟨n', hn', .refl offered times n'.store⟩

lemma NodeAdvances.trans {offered offered' : List Descriptor} {times times' : List UInt64}
    {node node' node'' : Option HubDhtNode} (h : NodeAdvances offered times node node')
    (h' : NodeAdvances offered' times' node' node'') :
    NodeAdvances (offered ++ offered') (times ++ times') node node'' := by
  intro n'' hn''
  obtain ⟨n', hn', hadvances'⟩ := h' n'' hn''
  obtain ⟨n, hn, hadvances⟩ := h n' hn'
  exact ⟨n, hn, hadvances.trans hadvances'⟩

lemma NodeAdvances.of_map {offered : List Descriptor} {times : List UInt64}
    {node : Option HubDhtNode} {f : HubDhtNode → HubDhtNode}
    (hf : ∀ n, Advances offered times n.store (f n).store) :
    NodeAdvances offered times node (node.map f) := by
  intro n' hn'
  obtain ⟨n, hn, rfl⟩ := Option.map_eq_some_iff.1 hn'
  exact ⟨n, hn, hf n⟩

namespace PeeredHub

lemma advances_precheck (h : PeeredHub κ) (peerIdentity : Option Identity) (clock : UInt64) :
    NodeAdvances [] [] h.node (h.precheck peerIdentity clock).node := by
  unfold precheck
  split
  · exact .refl _ _ _
  · rename_i node hnode
    rintro n' hn'
    obtain rfl := Option.some.inj hn'
    exact ⟨node, hnode, (h.toHub node).advances_isPeerHub peerIdentity clock⟩

lemma node_receive (h : PeeredHub κ) (request : Request) (peerIdentity : Option Identity)
    (clock : UInt64) :
    (h.receive request peerIdentity clock).node = (h.precheck peerIdentity clock).node := by
  unfold receive precheck
  split
  · rfl
  · rfl

lemma advances_handleWaiting (h : PeeredHub κ) (i : ℕ) (clock : UInt64) :
    NodeAdvances (onHold h.waiting[i]?.toList) [clock] h.node (h.handleWaiting i clock).2.node := by
  unfold handleWaiting
  split
  · rintro n' ⟨⟩
  · rename_i node hnode
    split
    · rintro n' ⟨⟩
    · rename_i response hub hhandled
      rintro n' hn'
      obtain rfl := Option.some.inj hn'
      refine ⟨node, hnode, ?_⟩
      rcases Hub.handleWaiting_cases hhandled with ⟨-, -, rfl⟩ | ⟨checked, hchecked, hanswer⟩
      · exact .refl _ _ _
      · have hwaiting : h.waiting[i]? = some checked := hchecked
        rw [hwaiting, onHold, Option.toList_some, List.flatMap_singleton]
        exact Hub.advances_handleChecked hanswer

lemma advances_storeAdvertisements (node : HubDhtNode) (descriptors : List Descriptor)
    (clock : UInt64) :
    Advances descriptors [clock] node.store (storeAdvertisements node descriptors clock).store := by
  let calls : List (StorageCall (CachedStorage RedbStorage)) :=
    descriptors.map fun d => .storeDescriptor d clock
  have hsub : submitted calls = descriptors := by
    rw [submitted, List.filterMap_map]
    exact List.filterMap_some
  have hrun : ∀ (ds : List Descriptor) (store : CachedStorage RedbStorage),
      ds.foldl (fun store d => (storeDescriptor store d clock).2) store =
        (storageMachine (CachedStorage RedbStorage)).run store
          (ds.map fun d => .storeDescriptor d clock) := by
    intro ds store
    induction ds generalizing store with
    | nil => rfl
    | cons d ds ih => exact ih _
  have htimes : callTimes calls ⊆ [clock] := by
    intro t ht
    obtain ⟨c, hc, htime⟩ := List.mem_filterMap.1 ht
    obtain ⟨d, -, rfl⟩ := List.mem_map.1 hc
    exact List.mem_singleton.2 (Option.some.inj htime).symm
  have hadvances := Advances.of_skip (c := node.store) calls (hsub ▸ List.Sublist.refl _ :
    (submitted calls).Sublist descriptors) htimes
  rw [← hrun] at hadvances
  exact hadvances

variable [SocketAddrParser]

lemma advances_seed (h : PeeredHub κ) (seed : SeedContact κ) :
    NodeAdvances seed.descriptors [seed.clock] h.node (h.bootstrapFromSeed seed).node := by
  unfold bootstrapFromSeed
  split
  · split
    · exact .refl _ _ _
    · rename_i descriptors node hfound hnode
      rintro n' hn'
      obtain rfl := Option.some.inj hn'
      refine ⟨node, hnode, ?_⟩
      rw [SeedReply.descriptors, hfound]
      exact advances_storeAdvertisements node descriptors seed.clock
    · exact .refl _ _ _
  · exact .refl _ _ _

omit [SocketAddrParser] in
lemma waiting_precheck (h : PeeredHub κ) (peerIdentity : Option Identity) (clock : UInt64) :
    (h.precheck peerIdentity clock).waiting = h.waiting := by
  unfold precheck
  split
  · rfl
  · exact Hub.waiting_isPeerHub _ peerIdentity clock

omit [SocketAddrParser] in
/-- A request that comes in waits, unless the lock is poisoned. -/
lemma waiting_receive (h : PeeredHub κ) (request : Request) (peerIdentity : Option Identity)
    (clock : UInt64) :
    (h.receive request peerIdentity clock).waiting = h.waiting ∨
      ∃ isPeerHub, (h.receive request peerIdentity clock).waiting =
        h.waiting ++ [⟨request, peerIdentity, isPeerHub⟩] := by
  unfold receive
  split
  · exact .inl rfl
  · rename_i node hnode
    refine .inr ⟨((h.toHub node).isPeerHub peerIdentity clock).1, ?_⟩
    simp only [ofHub, Hub.receive, Hub.waiting_isPeerHub]
    rfl

lemma waiting_seed (h : PeeredHub κ) (seed : SeedContact κ) :
    (h.bootstrapFromSeed seed).waiting = h.waiting := by
  unfold bootstrapFromSeed
  split
  · split <;> rfl
  · rfl

omit [SocketAddrParser] in
lemma waiting_gossip (h : PeeredHub κ) (clock : UInt64) (answered : String → ℕ → Bool) :
    (h.runGossipRound clock answered).2.waiting = h.waiting := by
  unfold runGossipRound
  split
  · rfl
  · rfl

omit [SocketAddrParser] in
lemma node_gossip (h : PeeredHub κ) (clock : UInt64) (answered : String → ℕ → Bool) :
    (h.runGossipRound clock answered).2.node = h.node := by
  unfold runGossipRound
  split
  · rfl
  · rfl

/-- No step changes more of the peer manager than the peers. -/
lemma pm_step (h : PeeredHub κ) (i : PeeringStep κ) :
    ∃ peers, (h.step i).2.pm = { h.pm with peers } := by
  have hprecheck : ∀ peerIdentity clock,
      ∃ peers, (h.precheck peerIdentity clock).pm = { h.pm with peers } := by
    intro peerIdentity clock
    unfold precheck
    split <;> exact ⟨_, rfl⟩
  cases i with
  | connect identity addr dial =>
    simp only [step, PeerManager.connectToPeer]
    split_ifs
    · exact ⟨_, rfl⟩
    · exact ⟨_, rfl⟩
    · split
      · exact ⟨_, rfl⟩
      · split <;> exact ⟨_, rfl⟩
  | seed contact =>
    change ∃ peers, (h.bootstrapFromSeed contact).pm = { h.pm with peers }
    unfold bootstrapFromSeed
    split
    · split <;> exact ⟨_, rfl⟩
    · exact ⟨_, rfl⟩
  | request request peerIdentity clock =>
    obtain ⟨peers, hpeers⟩ := hprecheck peerIdentity clock
    exact ⟨peers, (h.pm_receive request peerIdentity clock).trans hpeers⟩
  | handle i clock => exact ⟨h.pm.peers, h.pm_handleWaiting i clock⟩
  | malformed peerIdentity clock => exact hprecheck peerIdentity clock
  | healthCheck outcomes => exact ⟨_, rfl⟩
  | gossip clock answered =>
    change ∃ peers, (h.runGossipRound clock answered).2.pm = { h.pm with peers }
    unfold runGossipRound
    split <;> exact ⟨_, rfl⟩

end PeeredHub

namespace HubRuntime

variable [HubMetadataCodec] {Value : Type} [SerdeJson Value]

omit [HubMetadataCodec] in
/-- Seeding is a run of stores with the rate limit off. -/
lemma advances_seedNow (c : CachedStorage RedbStorage) (keypair : Keypair) (now : UInt64)
    (entries : List (SeedEntry Value × UInt64)) :
    Advances (entries.filterMap fun entry => entry.1.descriptor keypair now)
      (entries.map Prod.snd) c (seedNow c keypair now entries).2 := by
  have hsub : submitted (seedCalls keypair now entries) =
      entries.filterMap fun entry => entry.1.descriptor keypair now := by
    rw [submitted, seedCalls, List.filterMap_filterMap]
    refine List.filterMap_congr fun entry _ => ?_
    cases entry.1.descriptor keypair now <;> rfl
  have htimes : callTimes (seedCalls keypair now entries) ⊆ entries.map Prod.snd := by
    intro t ht
    obtain ⟨c, hc, htime⟩ := List.mem_filterMap.1 ht
    obtain ⟨entry, hentry, hcall⟩ := List.mem_filterMap.1 hc
    obtain ⟨d, -, rfl⟩ := Option.map_eq_some_iff.1 hcall
    exact List.mem_map.2 ⟨entry, hentry, Option.some.inj htime⟩
  rw [seedNow_eq]
  exact .of_skip _ (hsub ▸ List.Sublist.refl _) htimes

variable [SocketAddrParser]

/-- A step of a task stores at most what it offers. -/
lemma advances_step (rt : HubRuntime κ) (task : HubTask κ Value) :
    NodeAdvances (rt.takes task) task.times rt.hub.node (rt.step task).2.hub.node := by
  cases task with
  | request request peerIdentity clock =>
    change NodeAdvances _ _ _ (rt.hub.receive request peerIdentity clock).node
    rw [PeeredHub.node_receive]
    exact rt.hub.advances_precheck peerIdentity clock
  | handle i clock => exact rt.hub.advances_handleWaiting i clock
  | malformed peerIdentity clock => exact rt.hub.advances_precheck peerIdentity clock
  | seedPeer reply =>
    rcases rt.step_seedPeer Value reply with heq | ⟨address, rest, -, heq⟩
    · rw [heq]
      exact .refl _ _ _
    · rw [heq]
      exact rt.hub.advances_seed { reply with address }
  | healthCheck outcomes => exact .refl _ _ _
  | gossip clock answered =>
    have hnode : (rt.hub.step (.gossip clock answered)).2.node = rt.hub.node :=
      rt.hub.node_gossip clock answered
    change NodeAdvances _ _ _ (rt.hub.step (.gossip clock answered)).2.node
    rw [hnode]
    exact .refl _ _ _
  | discover clock =>
    change NodeAdvances _ _ _ (rt.lookForHubs clock).hub.node
    unfold lookForHubs
    split
    · rename_i node hdiscovered hcandidate hnode
      rintro n' hn'
      obtain rfl := Option.some.inj hn'
      refine ⟨node, hnode, ?_⟩
      exact .of_call (.getDescriptors ROUTING_KEY_INFRASTRUCTURE_HUB none clock) trivial
        (List.nil_sublist _) (List.nil_subset _)
    · exact .refl _ _ _
  | consider =>
    obtain ⟨discovered, candidate, heq⟩ := rt.step_consider Value
    rw [heq]
    exact .refl _ _ _
  | connect dial =>
    rcases rt.step_connect Value dial with heq | ⟨identity, addr, -, heq⟩
    · rw [heq]
      exact .refl _ _ _
    · rw [heq]
      exact .refl _ _ _
  | advertise now clock =>
    change NodeAdvances (selfAdvertisementDescriptor rt.keypair rt.metadata now).toList [clock] _
      (rt.publishSelfAdvertisement now clock).hub.node
    unfold publishSelfAdvertisement
    cases selfAdvertisementDescriptor rt.keypair rt.metadata now with
    | none => exact .refl _ _ _
    | some d =>
      rintro n' hn'
      obtain ⟨node, hnode, hstore⟩ := Option.bind_eq_some_iff.1 hn'
      obtain ⟨⟨ack, n''⟩, hack, rfl⟩ := Option.map_eq_some_iff.1 hstore
      refine ⟨node, hnode, ?_⟩
      rcases DhtNode.store_handleStore hack with heq | heq
      · exact heq ▸ .refl _ _ _
      · rw [heq]
        exact .of_call (.storeDescriptor d clock) trivial (List.Sublist.refl _)
          (List.Subset.refl _)
  | seed now entries =>
    exact .of_map (f := fun n =>
      n.putStore (seedNow n.store rt.keypair now entries).2) fun n =>
        advances_seedNow n.store rt.keypair now entries
  | evict clock =>
    refine .of_map (f := fun n => n.putStore (evictExpired n.store clock)) fun n => ?_
    exact .of_call (.evictExpired clock) trivial (List.nil_sublist _)
      (List.Subset.refl _)
  | dropCached key =>
    refine .of_map (f := fun n =>
      n.putStore (background n.store (CachedStorage.Event.drop key))) fun n => ?_
    have hreaches : Reaches [] [] n.store (background n.store (CachedStorage.Event.drop key)) :=
      .of_call n.store (c := .background (CachedStorage.Event.drop key)) (List.nil_sublist _)
        (List.nil_subset _)
    exact ⟨hreaches, id⟩
  | tenants tenantManager =>
    exact .of_map (f := fun n =>
      n.mapHooks fun hook => { hook with tenantManager }) fun n => .refl _ _ _
  | tick instant =>
    exact .of_map (f := fun n => n.mapHooks fun hook => { hook with instant }) fun n => .refl _ _ _

/-- The descriptors that the steps of a run offer. -/
def offeredBy (rt : HubRuntime κ) (tasks : List (HubTask κ Value)) : List Descriptor :=
  tasks.flatMap (·.offered rt.keypair rt.metadata)

/-- The descriptors that the steps of a run take to storage. -/
def takenBy (rt : HubRuntime κ) : List (HubTask κ Value) → List Descriptor
  | [] => []
  | task :: tasks => rt.takes task ++ (rt.step task).2.takenBy tasks

/-! ### What is offered and what is taken -/

omit [DescriptorCodec] [HubMetadataCodec] [SerdeJson Value] [SocketAddrParser] [Crypto] in
/-- Handling one of the requests that wait takes off the hold what it offers. -/
lemma onHold_eraseIdx (waiting : List CheckedRequest) (i : ℕ) :
    (onHold waiting[i]?.toList ++ onHold (waiting.eraseIdx i)).Perm (onHold waiting) := by
  cases hchecked : waiting[i]? with
  | none =>
    rw [List.eraseIdx_of_length_le (List.getElem?_eq_none_iff.1 hchecked)]
    exact .refl _
  | some checked =>
    obtain ⟨hi, rfl⟩ := List.getElem?_eq_some_iff.1 hchecked
    have hperm := (List.getElem_cons_eraseIdx_perm hi).flatMap_right fun checked =>
      checked.request.offered
    rw [List.flatMap_cons] at hperm
    rwa [onHold, onHold, onHold, Option.toList_some, List.flatMap_singleton]

/-- What a step takes to storage was on hold, or the step offers it. -/
lemma takes_step (rt : HubRuntime κ) (task : HubTask κ Value) :
    (rt.takes task ++ onHold (rt.step task).2.hub.waiting).Subperm
      (onHold rt.hub.waiting ++ task.offered rt.keypair rt.metadata) := by
  have hatOnce : (rt.step task).2.hub.waiting = rt.hub.waiting →
      rt.takes task = task.offered rt.keypair rt.metadata →
      (rt.takes task ++ onHold (rt.step task).2.hub.waiting).Subperm
        (onHold rt.hub.waiting ++ task.offered rt.keypair rt.metadata) := by
    intro hwaiting htakes
    rw [hwaiting, htakes]
    exact List.perm_append_comm.subperm
  cases task with
  | request request peerIdentity clock =>
    rcases rt.hub.waiting_receive request peerIdentity clock with hwaiting | ⟨isPeerHub, hwaiting⟩
    · change (onHold (rt.hub.receive request peerIdentity clock).waiting).Subperm _
      rw [hwaiting]
      exact (List.sublist_append_left _ _).subperm
    · change (onHold (rt.hub.receive request peerIdentity clock).waiting).Subperm _
      rw [hwaiting, onHold, List.flatMap_append, List.flatMap_singleton]
      exact List.Subperm.refl _
  | handle i clock =>
    change (onHold rt.hub.waiting[i]?.toList ++
      onHold (rt.hub.handleWaiting i clock).2.waiting).Subperm (onHold rt.hub.waiting ++ [])
    rw [PeeredHub.waiting_handleWaiting, List.append_nil]
    exact (onHold_eraseIdx rt.hub.waiting i).subperm
  | malformed peerIdentity clock =>
    exact hatOnce (rt.hub.waiting_precheck peerIdentity clock) rfl
  | seedPeer reply =>
    refine hatOnce ?_ rfl
    rcases rt.step_seedPeer Value reply with heq | ⟨address, rest, -, heq⟩
    · rw [heq]
    · rw [heq]
      exact rt.hub.waiting_seed _
  | gossip clock answered => exact hatOnce (rt.hub.waiting_gossip clock answered) rfl
  | discover clock =>
    obtain ⟨node, discovered, heq⟩ := rt.step_discover Value clock
    exact hatOnce (by rw [heq]) rfl
  | consider =>
    obtain ⟨discovered, candidate, heq⟩ := rt.step_consider Value
    exact hatOnce (by rw [heq]) rfl
  | connect dial =>
    refine hatOnce ?_ rfl
    rcases rt.step_connect Value dial with heq | ⟨identity, addr, -, heq⟩ <;> rw [heq]
  | advertise now clock =>
    obtain ⟨node, heq⟩ := rt.step_advertise Value now clock
    exact hatOnce (by rw [heq]) rfl
  | healthCheck | seed | evict | dropCached | tenants | tick => exact hatOnce rfl rfl

/-- What no step changes: the hub's identity, its key and its advertisement's content, and the
allowlist and peer limit of its configuration. -/
structure SameConfig (rt rt' : HubRuntime κ) : Prop where
  identity : rt'.hub.pm.hubIdentity = rt.hub.pm.hubIdentity
  allowlist : rt'.hub.pm.outboundAllowlist = rt.hub.pm.outboundAllowlist
  maxPeers : rt'.hub.pm.maxPeers = rt.hub.pm.maxPeers
  keypair : rt'.keypair = rt.keypair
  metadata : rt'.metadata = rt.metadata

omit [DescriptorCodec] [SocketAddrParser] [HubMetadataCodec] in
lemma SameConfig.of_peers {rt rt' : HubRuntime κ}
    (hpm : ∃ peers, rt'.hub.pm = { rt.hub.pm with peers }) (hkeypair : rt'.keypair = rt.keypair)
    (hmetadata : rt'.metadata = rt.metadata) : SameConfig rt rt' := by
  obtain ⟨peers, hpm⟩ := hpm
  exact ⟨by rw [hpm], by rw [hpm], by rw [hpm], hkeypair, hmetadata⟩

lemma sameConfig_step (rt : HubRuntime κ) (task : HubTask κ Value) :
    SameConfig rt (rt.step task).2 := by
  cases task with
  | request request peerIdentity clock =>
    exact .of_peers (rt.hub.pm_step (.request request peerIdentity clock)) rfl rfl
  | handle i clock => exact .of_peers (rt.hub.pm_step (.handle i clock)) rfl rfl
  | malformed peerIdentity clock =>
    exact .of_peers (rt.hub.pm_step (.malformed peerIdentity clock)) rfl rfl
  | seedPeer reply =>
    rcases rt.step_seedPeer Value reply with heq | ⟨address, rest, -, heq⟩
    · rw [heq]
      exact .of_peers ⟨_, rfl⟩ rfl rfl
    · rw [heq]
      exact .of_peers (rt.hub.pm_step (.seed { reply with address })) rfl rfl
  | healthCheck outcomes => exact .of_peers (rt.hub.pm_step (.healthCheck outcomes)) rfl rfl
  | gossip clock answered => exact .of_peers (rt.hub.pm_step (.gossip clock answered)) rfl rfl
  | discover clock =>
    obtain ⟨node, discovered, heq⟩ := rt.step_discover Value clock
    rw [heq]
    exact .of_peers ⟨_, rfl⟩ rfl rfl
  | consider =>
    obtain ⟨discovered, candidate, heq⟩ := rt.step_consider Value
    rw [heq]
    exact .of_peers ⟨_, rfl⟩ rfl rfl
  | connect dial =>
    rcases rt.step_connect Value dial with heq | ⟨identity, addr, -, heq⟩
    · rw [heq]
      exact .of_peers ⟨_, rfl⟩ rfl rfl
    · rw [heq]
      exact .of_peers (rt.hub.pm_step (.connect identity addr dial)) rfl rfl
  | advertise now clock =>
    obtain ⟨node, heq⟩ := rt.step_advertise Value now clock
    rw [heq]
    exact .of_peers ⟨_, rfl⟩ rfl rfl
  | seed now entries => exact .of_peers ⟨_, rfl⟩ rfl rfl
  | evict clock => exact .of_peers ⟨_, rfl⟩ rfl rfl
  | dropCached key => exact .of_peers ⟨_, rfl⟩ rfl rfl
  | tenants tenantManager => exact .of_peers ⟨_, rfl⟩ rfl rfl
  | tick instant => exact .of_peers ⟨_, rfl⟩ rfl rfl

lemma sameConfig_run (rt : HubRuntime κ) (tasks : List (HubTask κ Value)) :
    SameConfig rt ((machine κ Value).run rt tasks) := by
  induction tasks using List.reverseRecOn with
  | nil => exact ⟨rfl, rfl, rfl, rfl, rfl⟩
  | append_singleton tasks task ih =>
    have hlast := sameConfig_step ((machine κ Value).run rt tasks) task
    rw [Machine.run_concat]
    exact ⟨hlast.identity.trans ih.identity, hlast.allowlist.trans ih.allowlist,
      hlast.maxPeers.trans ih.maxPeers, hlast.keypair.trans ih.keypair,
      hlast.metadata.trans ih.metadata⟩

omit [DescriptorCodec] [SocketAddrParser] in
lemma offeredBy_concat (rt : HubRuntime κ) (tasks : List (HubTask κ Value))
    (task : HubTask κ Value) :
    rt.offeredBy (tasks ++ [task]) = rt.offeredBy tasks ++ task.offered rt.keypair rt.metadata := by
  simp [offeredBy]

lemma takenBy_concat (rt : HubRuntime κ) (tasks : List (HubTask κ Value))
    (task : HubTask κ Value) :
    rt.takenBy (tasks ++ [task]) = rt.takenBy tasks ++ ((machine κ Value).run rt tasks).takes task
      := by
  induction tasks generalizing rt with
  | nil => exact List.append_nil _
  | cons first tasks ih =>
    rw [List.cons_append, takenBy, takenBy, ih, List.append_assoc]
    rfl

/-- What a run takes to storage was on hold, or its steps offer it. -/
lemma takes_run (rt : HubRuntime κ) (tasks : List (HubTask κ Value)) :
    (rt.takenBy tasks ++ onHold ((machine κ Value).run rt tasks).hub.waiting).Subperm
      (onHold rt.hub.waiting ++ rt.offeredBy tasks) := by
  induction tasks using List.reverseRecOn with
  | nil => exact List.perm_append_comm.subperm
  | append_singleton tasks task ih =>
    have hconfig := rt.sameConfig_run tasks
    have hlast := takes_step ((machine κ Value).run rt tasks) task
    rw [hconfig.keypair, hconfig.metadata] at hlast
    rw [takenBy_concat, offeredBy_concat, Machine.run_concat]
    have hbefore := (List.subperm_append_right (task.offered rt.keypair rt.metadata)).2 ih
    have hafter := (List.subperm_append_left (rt.takenBy tasks)).2 hlast
    rw [List.append_assoc] at hbefore
    rw [List.append_assoc, ← List.append_assoc (onHold rt.hub.waiting)]
    exact hafter.trans hbefore

/-- The storage goes on from step to step. -/
lemma advances_run (rt : HubRuntime κ) (tasks : List (HubTask κ Value)) :
    NodeAdvances (rt.takenBy tasks) (tasks.flatMap HubTask.times) rt.hub.node
      ((machine κ Value).run rt tasks).hub.node := by
  induction tasks using List.reverseRecOn with
  | nil => exact .refl _ _ _
  | append_singleton tasks task ih =>
    rw [Machine.run_concat, takenBy_concat, List.flatMap_append, List.flatMap_singleton]
    exact ih.trans (advances_step ((machine κ Value).run rt tasks) task)

/-- A hub that has just been built takes to storage only what the steps offer. -/
lemma takenBy_build (config : HubConfig) (keypair : Keypair) (tenantManager : TenantManager)
    (disk : RedbStorage) (tasks : List (HubTask κ Value)) :
    ((build config keypair tenantManager disk : HubRuntime κ).takenBy tasks).Subperm
      ((build config keypair tenantManager disk : HubRuntime κ).offeredBy tasks) := by
  have htakes := takes_run (build config keypair tenantManager disk : HubRuntime κ) tasks
  exact (List.sublist_append_left _ _).subperm.trans htakes

/-- A running hub refines its storage: in every state that a run reaches, the storage is what some
calls of its interface and events behind it lead to from the opened database, which store some of
the descriptors that the steps take to it, each at most once and in their order, and which store and
evict only at the times of the steps that do; what the steps take to it has been offered to the hub,
a request's descriptor no more often than the request; and the rate limit, which seeding, the
contact with a seed and the STOREs of peers switch off, is on again. -/
theorem refines_storage (config : HubConfig) (keypair : Keypair) (tenantManager : TenantManager)
    (disk : RedbStorage) (tasks : List (HubTask κ Value)) (node : HubDhtNode)
    (hnode : ((machine κ Value).run (build config keypair tenantManager disk) tasks).hub.node =
      some node) :
    let start : HubRuntime κ := build config keypair tenantManager disk
    Reaches (start.takenBy tasks) (tasks.flatMap HubTask.times) (CachedStorage.new disk.reopen)
        node.store ∧
      (start.takenBy tasks).Subperm (start.offeredBy tasks) ∧
      node.store.inner.skipRateLimit = false := by
  intro start
  obtain ⟨n, hn, hadvances⟩ := advances_run start tasks node hnode
  obtain rfl := Option.some.inj hn
  exact ⟨hadvances.reaches, takenBy_build config keypair tenantManager disk tasks,
    hadvances.metered rfl⟩

end HubRuntime

end Steps

open HubRuntime in
set_option maxRecDepth 1000 in
/-- A hub that stores an advertisement and then looks for hubs. -/
theorem HubRuntime.advertised_hub_refines_storage :
    letI : Crypto := cryptoOf [hubAdvertisement]
    letI : DescriptorCodec := wireCodec
    letI : HubMetadataCodec := wireMetadata
    letI : SocketAddrParser := ⟨fun _ => .error "invalid socket address syntax"⟩
    let rt : HubRuntime Unit := build {} firstKeypair ⟨[]⟩ .new
    let tasks : List (HubTask Unit PlainJson) := [
      .request (.store ⟨secondPublisher, .quic "203.0.113.7:4433", hubAdvertisement⟩)
        (some secondPublisher) 1700000000000000,
      .tick 1000,
      .handle 0 1700000000000001,
      .discover 1700000000000002]
    ∃ node, ((machine Unit PlainJson).run rt tasks).hub.node = some node ∧
      Reaches (rt.takenBy tasks) (tasks.flatMap HubTask.times)
        (CachedStorage.new RedbStorage.new.reopen) node.store ∧
          (rt.takenBy tasks).Subperm (rt.offeredBy tasks) ∧
            node.store.inner.skipRateLimit = false := by
  let _ : Crypto := cryptoOf [hubAdvertisement]
  let _ : DescriptorCodec := wireCodec
  let _ : HubMetadataCodec := wireMetadata
  let _ : SocketAddrParser := ⟨fun _ => .error "invalid socket address syntax"⟩
  intro rt tasks
  have hsome : ((machine Unit PlainJson).run rt tasks).hub.node.isSome := by decide +kernel
  obtain ⟨node, hnode⟩ := Option.isSome_iff_exists.1 hsome
  exact ⟨node, hnode, refines_storage {} firstKeypair ⟨[]⟩ .new tasks node hnode⟩

/-! ## Genuine output -/

section Output

variable [Crypto] [DescriptorCodec] {κ : Type}

namespace HubRuntime

variable [HubMetadataCodec] {Value : Type} [SerdeJson Value] [SocketAddrParser]

/-- A database after some calls. -/
abbrev diskAfter (earlier : List (StorageCall RedbStorage)) : RedbStorage :=
  (storageMachine RedbStorage).run .new earlier

/-- What a database was given before, and what the steps of a run offer. -/
def Given (earlier : List (StorageCall RedbStorage)) (rt : HubRuntime κ)
    (tasks : List (HubTask κ Value)) : Set Descriptor :=
  {d | d ∈ submitted earlier ++ rt.offeredBy tasks}

/-- What the opened database holds, and what the steps of a run offer: the descriptors that the hub
can have. -/
def Available (disk : RedbStorage) (rt : HubRuntime κ) (tasks : List (HubTask κ Value)) :
    Set Descriptor :=
  {d | disk.Holds d ∨ d ∈ rt.offeredBy tasks}

section Disk

variable {earlier : List (StorageCall RedbStorage)} {rt : HubRuntime κ}
  {tasks : List (HubTask κ Value)}

omit [SocketAddrParser]

lemma keepsTo_diskAfter (hcollision : Descriptor.NoCollision (Given earlier rt tasks)) :
    (diskAfter earlier).KeepsTo (Given earlier rt tasks) :=
  RedbStorage.keepsTo_new.run hcollision fun _ hd => List.mem_append_left _ hd

/-- The hub can have only what was given. -/
lemma available_subset (hcollision : Descriptor.NoCollision (Given earlier rt tasks)) :
    Available (diskAfter earlier) rt tasks ⊆ Given earlier rt tasks := by
  rintro d (hheld | hoffered)
  · exact (keepsTo_diskAfter hcollision).mem_of_holds hheld
  · exact List.mem_append_right _ hoffered

/-- The opened database keeps to what it holds. -/
lemma keepsTo_available (hcollision : Descriptor.NoCollision (Given earlier rt tasks)) :
    (diskAfter earlier).KeepsTo (Available (diskAfter earlier) rt tasks) :=
  (keepsTo_diskAfter hcollision).held.mono fun _ hd => .inl hd

end Disk

/-- The storage of a running hub keeps to what it has in its database and takes from the steps. -/
lemma keepsTo_run {config : HubConfig} {keypair : Keypair} {tenantManager : TenantManager}
    {disk : RedbStorage} {tasks : List (HubTask κ Value)} {P : Set Descriptor}
    (hP : Descriptor.NoCollision P) (hdisk : disk.KeepsTo P)
    (htaken : ∀ d ∈ (build config keypair tenantManager disk : HubRuntime κ).takenBy tasks, d ∈ P)
    {node : HubDhtNode}
    (hnode : ((machine κ Value).run (build config keypair tenantManager disk) tasks).hub.node =
      some node) : node.store.KeepsTo P := by
  obtain ⟨n, hn, hadvances⟩ := advances_run _ tasks node hnode
  obtain rfl := Option.some.inj hn
  exact (keepsTo_new (hdisk.of_windows _ _)).reaches hP htaken hadvances.reaches

/-- What a hub takes from the steps it can have. -/
lemma taken_available (config : HubConfig) (keypair : Keypair) (tenantManager : TenantManager)
    (disk : RedbStorage) (tasks : List (HubTask κ Value)) :
    ∀ d ∈ (build config keypair tenantManager disk : HubRuntime κ).takenBy tasks,
      d ∈ Available disk (build config keypair tenantManager disk : HubRuntime κ) tasks :=
  fun _ hd => .inr ((takenBy_build config keypair tenantManager disk tasks).subset hd)

end HubRuntime

/-- The descriptors that an output carries. -/
def HubOutput.descriptors : HubOutput κ → List Descriptor
  | .response (.findValueResult result) => result.descriptors.getD []
  | .store _ _ msg => [msg.descriptor]
  | _ => []

variable {Value : Type}

/-- If the step handles a FIND_VALUE, the descriptor lists the key it asks for and passes its
filters. -/
def HubRuntime.Asks (rt : HubRuntime κ) : HubTask κ Value → Descriptor → Prop
  | .handle i _, d => ∀ checked f, rt.hub.waiting[i]? = some checked →
      checked.request = .findValue f → f.key ∈ d.routingKeys ∧ admitted f.filters d = true
  | _, _ => True

/-- What a hub finds for a FIND_VALUE is vouched for and was asked for. -/
lemma Hub.vouched_answer {P : Set Descriptor} {hub hub' : Hub κ}
    (hkept : hub.node.store.KeepsTo P) {request : Request} {peerIdentity : Option Identity}
    {isPeerHub : Bool} {clock : UInt64} {result : FindValueResult}
    (h : hub.handleChecked request peerIdentity isPeerHub clock =
      some (some (.findValueResult result), hub')) {d : Descriptor}
    (hd : d ∈ result.descriptors.getD []) :
    Vouched P d ∧ ∀ f, request = .findValue f →
      f.key ∈ d.routingKeys ∧ admitted f.filters d = true := by
  unfold handleChecked at h
  split at h
  · split at h
    · cases h
    · cases h
  · obtain ⟨⟨response, node⟩, hdispatch, heq⟩ := Option.map_eq_some_iff.1 h
    obtain ⟨rfl, -⟩ := Prod.mk.inj heq
    rcases DhtNode.dispatchRequest_cases hdispatch with ⟨-, hnone, -⟩ | ⟨-, hhandled⟩
    · cases hnone
    cases request with
    | ping ping =>
      obtain ⟨pong, -, heq⟩ := hhandled
      cases heq
    | store storeReq =>
      obtain ⟨ack, -, heq⟩ := hhandled
      cases heq
    | findNode findNode =>
      obtain ⟨result', -, heq⟩ := hhandled
      cases heq
    | findValue f =>
      obtain ⟨result', hresult, heq⟩ := hhandled
      cases heq
      rcases DhtNode.store_handleFindValue hresult with ⟨-, hnil⟩ | ⟨-, hfound⟩
      · rw [hnil] at hd
        cases hd
      · obtain ⟨hvouched, hlisted, hadmitted⟩ := hkept.vouched (hfound d hd)
        refine ⟨hvouched, ?_⟩
        rintro _ ⟨⟩
        exact ⟨hlisted, hadmitted⟩

namespace HubRuntime

variable [SocketAddrParser] [HubMetadataCodec] [SerdeJson Value]

/-- The output of a step over storage that keeps to some descriptors. -/
lemma vouched_output {P : Set Descriptor} {rt : HubRuntime κ}
    (hkept : ∀ node, rt.hub.node = some node → node.store.KeepsTo P) {task : HubTask κ Value}
    {out : HubOutput κ} (hout : out ∈ (rt.step task).1) {d : Descriptor}
    (hd : d ∈ out.descriptors) : Vouched P d ∧ rt.Asks task d := by
  cases task with
  | handle i clock =>
    obtain ⟨response, hresponse, rfl⟩ := List.mem_map.1 hout
    obtain ⟨node, checked, hub, hnode, hchecked, hanswered⟩ :=
      PeeredHub.checked_of_answer (Option.mem_toList.1 hresponse)
    cases response with
    | findValueResult result =>
      obtain ⟨hvouched, hasks⟩ := Hub.vouched_answer (hkept node hnode) hanswered hd
      refine ⟨hvouched, ?_⟩
      intro checked' f hchecked' hrequest
      obtain rfl := Option.some.inj (hchecked.symm.trans hchecked')
      exact hasks f hrequest
    | pong | storeAck | findNodeResult => cases hd
  | gossip clock answered =>
    obtain ⟨⟨did, connection, msg⟩, hsent, rfl⟩ := List.mem_map.1 hout
    obtain rfl := List.mem_singleton.1 hd
    change (did, connection, msg) ∈ (rt.hub.runGossipRound clock answered).1 at hsent
    unfold PeeredHub.runGossipRound at hsent
    split at hsent
    · cases hsent
    · rename_i node hnode
      dsimp only at hsent
      rw [PeerManager.mem_gossipRound] at hsent
      obtain ⟨-, e, he, rfl⟩ := hsent
      exact ⟨(hkept node hnode).inner.vouched_of_all (List.mem_of_mem_take he), trivial⟩
  | seedPeer reply =>
    change out ∈ (rt.contactSeed reply).1 at hout
    unfold contactSeed at hout
    split at hout
    · cases hout
    · obtain ⟨address, -, rfl⟩ := List.mem_map.1 hout
      cases hd
  | connect dial =>
    change out ∈ (rt.connectCandidate dial).1 at hout
    unfold connectCandidate at hout
    split at hout
    · cases hout
    · obtain ⟨address, -, rfl⟩ := List.mem_map.1 hout
      cases hd
  | request | malformed | healthCheck | discover | consider | advertise | seed | evict | dropCached
  | tenants | tick => cases hout

/-- Whatever a running hub answers a FIND_VALUE with or gossips to its peers is authentic and within
the bounds of the protocol, is held by the database that it has opened or was offered to it in an
earlier step, and is what the FIND_VALUE asks for. -/
theorem sends_genuine (config : HubConfig) (keypair : Keypair) (tenantManager : TenantManager)
    (earlier : List (StorageCall RedbStorage)) (tasks : List (HubTask κ Value))
    (hcollision : Descriptor.NoCollision (Given earlier
      (build config keypair tenantManager (diskAfter earlier)) tasks))
    (task : HubTask κ Value) (out : HubOutput κ) (d : Descriptor) :
    let start : HubRuntime κ := build config keypair tenantManager (diskAfter earlier)
    let rt := (machine κ Value).run start tasks
    out ∈ (rt.step task).1 → d ∈ out.descriptors →
      d.Authentic ∧ d.InBounds ∧ rt.Asks task d ∧
        ((diskAfter earlier).Holds d ∨ d ∈ start.offeredBy tasks) := by
  intro start rt hout hd
  have hP := hcollision.mono (available_subset hcollision)
  obtain ⟨hvouched, hasks⟩ := vouched_output (fun node hnode => keepsTo_run hP
    (keepsTo_available hcollision)
    (taken_available config keypair tenantManager (diskAfter earlier) tasks) hnode) hout hd
  exact ⟨hvouched.authentic, hvouched.inBounds, hasks, hvouched.mem⟩

end HubRuntime

end Output

open HubRuntime in
/-- A FIND_VALUE for the hubs finds the advertisement that is in the database. -/
theorem HubRuntime.advertisement_sent_genuine :
    letI : Crypto := cryptoOf [hubAdvertisement]
    letI : DescriptorCodec := wireCodec
    letI : HubMetadataCodec := wireMetadata
    letI : SocketAddrParser := ⟨fun _ => .error "invalid socket address syntax"⟩
    let earlier := [.storeDescriptorAt hubAdvertisement 1700000000000000]
    let start : HubRuntime Unit := build {} firstKeypair ⟨[]⟩ (diskAfter earlier)
    let tasks : List (HubTask Unit PlainJson) := [.request
      (.findValue ⟨thirdPublisher, .quic "198.51.100.2:4433", hubKey, 10, none⟩)
      (some thirdPublisher) 1700000000000000]
    let rt := (machine Unit PlainJson).run start tasks
    let task : HubTask Unit PlainJson := .handle 0 1700000000000001
    ∃ out ∈ (rt.step task).1, hubAdvertisement ∈ out.descriptors ∧
      hubAdvertisement.Authentic ∧ hubAdvertisement.InBounds ∧ rt.Asks task hubAdvertisement ∧
        ((diskAfter earlier).Holds hubAdvertisement ∨
          hubAdvertisement ∈ start.offeredBy tasks) := by
  let _ : Crypto := cryptoOf [hubAdvertisement]
  let _ : DescriptorCodec := wireCodec
  let _ : HubMetadataCodec := wireMetadata
  let _ : SocketAddrParser := ⟨fun _ => .error "invalid socket address syntax"⟩
  intro earlier start tasks rt task
  have hany : (rt.step task).1.any (fun out => out.descriptors.contains hubAdvertisement) := by
    decide +kernel
  obtain ⟨out, hout, hcontains⟩ := List.any_eq_true.1 hany
  have hd : hubAdvertisement ∈ out.descriptors := List.contains_iff_mem.1 hcontains
  have hcollision : Descriptor.NoCollision (Given earlier start tasks) :=
    Descriptor.noCollision_of_list (by decide +kernel)
  exact ⟨out, hout, hd, sends_genuine {} firstKeypair ⟨[]⟩ earlier tasks hcollision task out
    hubAdvertisement hout hd⟩

/-! ## Dials -/

section Dials

variable [Crypto] [DescriptorCodec] {κ : Type}

namespace HubRuntime

variable [SocketAddrParser] [HubMetadataCodec] {Value : Type} [SerdeJson Value]

/-- A hub that one of the given descriptors advertises: not the hub itself, at the endpoint that the
descriptor's payload names. -/
structure Advertised (P : Set Descriptor) (own : Identity) (d : Descriptor) (identity : Identity)
    (addr : NodeAddr) : Prop where
  vouched : Vouched P d
  listed : ROUTING_KEY_INFRASTRUCTURE_HUB ∈ d.routingKeys
  publisher : d.publisher = identity
  other : identity.did ≠ own.did
  endpoint : ∃ metadata, HubMetadataCodec.fromCbor d.payload = some metadata ∧
    addr = endpointToNodeAddr metadata.endpoint

/-- What the discovery task carries is advertised. -/
structure DiscoveryKeepsTo (P : Set Descriptor) (rt : HubRuntime κ) : Prop where
  discovered : ∀ entry ∈ rt.discovered,
    ∃ d, Advertised P rt.hub.pm.hubIdentity d entry.1 entry.2.1
  candidate : ∀ identity addr, rt.candidate = some (identity, addr) →
    ∃ d, Advertised P rt.hub.pm.hubIdentity d identity addr

omit [DescriptorCodec] [SocketAddrParser] in
lemma DiscoveryKeepsTo.of_same {P : Set Descriptor} {rt rt' : HubRuntime κ}
    (h : rt.DiscoveryKeepsTo P) (hidentity : rt'.hub.pm.hubIdentity = rt.hub.pm.hubIdentity)
    (hdiscovered : rt'.discovered = rt.discovered) (hcandidate : rt'.candidate = rt.candidate) :
    rt'.DiscoveryKeepsTo P := by
  constructor
  · rw [hdiscovered, hidentity]
    exact h.discovered
  · rw [hcandidate, hidentity]
    exact h.candidate

omit [SocketAddrParser] in
lemma discoveryKeepsTo_lookForHubs {P : Set Descriptor} {rt : HubRuntime κ}
    (hkept : ∀ node, rt.hub.node = some node → node.store.KeepsTo P) (h : rt.DiscoveryKeepsTo P)
    (clock : UInt64) : (rt.lookForHubs clock).DiscoveryKeepsTo P := by
  unfold lookForHubs
  split
  · rename_i node hdiscovered hcandidate hnode
    constructor
    · intro entry hentry
      obtain ⟨d, hd, hfound⟩ := List.mem_filterMap.1 hentry
      split at hfound
      · cases hfound
      · rename_i hother
        obtain ⟨metadata, hmetadata, rfl⟩ := Option.map_eq_some_iff.1 hfound
        obtain ⟨hvouched, hlisted, -⟩ := (hkept node hnode).vouched hd
        exact ⟨d, hvouched, hlisted, rfl, hother, metadata, hmetadata, rfl⟩
    · intro identity addr hsome
      rw [hcandidate] at hsome
      cases hsome
  · exact h

omit [DescriptorCodec] [SocketAddrParser] in
lemma discoveryKeepsTo_considerNext {P : Set Descriptor} {rt : HubRuntime κ}
    (h : rt.DiscoveryKeepsTo P) : rt.considerNext.DiscoveryKeepsTo P := by
  unfold considerNext
  split
  · rename_i identity addr metadata rest hcandidate hdiscovered
    constructor
    · intro entry hentry
      apply h.discovered
      rw [hdiscovered]
      exact List.mem_cons_of_mem _ hentry
    · intro identity' addr' hsome
      dsimp only at hsome
      split at hsome
      · obtain ⟨rfl, rfl⟩ := Prod.mk.inj (Option.some.inj hsome)
        apply h.discovered (identity, addr, metadata)
        rw [hdiscovered]
        exact List.mem_cons_self
      · cases hsome
  · exact h

lemma DiscoveryKeepsTo.step {P : Set Descriptor} {rt : HubRuntime κ}
    (hkept : ∀ node, rt.hub.node = some node → node.store.KeepsTo P) (h : rt.DiscoveryKeepsTo P)
    (task : HubTask κ Value) : (rt.step task).2.DiscoveryKeepsTo P := by
  have hidentity := (rt.sameConfig_step task).identity
  cases task with
  | discover clock => exact discoveryKeepsTo_lookForHubs hkept h clock
  | consider => exact discoveryKeepsTo_considerNext h
  | connect dial =>
    rcases rt.step_connect Value dial with heq | ⟨identity, addr, -, heq⟩
    · rwa [heq]
    · rw [heq] at hidentity ⊢
      constructor
      · rw [hidentity]
        exact h.discovered
      · rintro identity' addr' ⟨⟩
  | advertise now clock =>
    obtain ⟨node, heq⟩ := rt.step_advertise Value now clock
    exact h.of_same hidentity (by rw [heq]) (by rw [heq])
  | seedPeer reply =>
    refine h.of_same hidentity ?_ ?_
    · rcases rt.step_seedPeer Value reply with heq | ⟨address, rest, -, heq⟩ <;> rw [heq]
    · rcases rt.step_seedPeer Value reply with heq | ⟨address, rest, -, heq⟩ <;> rw [heq]
  | request | handle | malformed | healthCheck | gossip | seed | evict | dropCached | tenants
  | tick => exact h.of_same hidentity rfl rfl

lemma discoveryKeepsTo_run {config : HubConfig} {keypair : Keypair} {tenantManager : TenantManager}
    {disk : RedbStorage} {tasks : List (HubTask κ Value)} {P : Set Descriptor}
    (hP : Descriptor.NoCollision P) (hdisk : disk.KeepsTo P)
    (htaken : ∀ d ∈ (build config keypair tenantManager disk : HubRuntime κ).takenBy tasks, d ∈ P) :
    ((machine κ Value).run (build config keypair tenantManager disk) tasks).DiscoveryKeepsTo P := by
  induction tasks using List.reverseRecOn with
  | nil =>
    constructor
    · rintro entry ⟨⟩
    · rintro identity addr ⟨⟩
  | append_singleton tasks task ih =>
    rw [takenBy_concat] at htaken
    have hbefore := fun d hd => htaken d (List.mem_append_left _ hd)
    rw [Machine.run_concat]
    exact (ih hbefore).step (fun node hnode => keepsTo_run hP hdisk hbefore hnode) task

/-! ### Seeds -/

/-- Seeds go, and none come. -/
lemma seedPeers_step (rt : HubRuntime κ) (task : HubTask κ Value) :
    (rt.step task).2.seedPeers ⊆ rt.seedPeers := by
  cases task with
  | seedPeer reply =>
    rcases rt.step_seedPeer Value reply with heq | ⟨address, rest, hseeds, heq⟩
    · rw [heq]
      exact List.Subset.refl _
    · rw [heq, hseeds]
      exact List.subset_cons_self address rest
  | discover clock =>
    obtain ⟨node, discovered, heq⟩ := rt.step_discover Value clock
    rw [heq]
    exact List.Subset.refl _
  | consider =>
    obtain ⟨discovered, candidate, heq⟩ := rt.step_consider Value
    rw [heq]
    exact List.Subset.refl _
  | connect dial =>
    rcases rt.step_connect Value dial with heq | ⟨identity, addr, -, heq⟩
    · rw [heq]
      exact List.Subset.refl _
    · rw [heq]
      exact List.Subset.refl _
  | advertise now clock =>
    obtain ⟨node, heq⟩ := rt.step_advertise Value now clock
    rw [heq]
    exact List.Subset.refl _
  | request | handle | malformed | healthCheck | gossip | seed | evict | dropCached | tenants
  | tick => exact List.Subset.refl _

lemma seedPeers_run (rt : HubRuntime κ) (tasks : List (HubTask κ Value)) :
    ((machine κ Value).run rt tasks).seedPeers ⊆ rt.seedPeers :=
  Machine.run_invariant (P := fun rt' : HubRuntime κ => rt'.seedPeers ⊆ rt.seedPeers)
    (List.Subset.refl _) (fun rt' task ih => List.Subset.trans (seedPeers_step rt' task) ih) tasks

omit [HubMetadataCodec] in
/-- The address of a seed that is dialled passes the outbound filter. -/
lemma seed_of_dial {rt : HubRuntime κ} {reply : SeedReply κ} {address : SocketAddr}
    (hout : .dial address ∈ (rt.contactSeed reply).1) :
    ∃ seed ∈ rt.seedPeers, validateOutboundAddr seed rt.hub.pm.outboundAllowlist = .ok address := by
  unfold contactSeed at hout
  split at hout
  · cases hout
  · rename_i seed rest hseeds
    refine ⟨seed, hseeds ▸ List.mem_cons_self, ?_⟩
    obtain ⟨a, hallowed, heq⟩ := List.mem_map.1 hout
    obtain rfl := HubOutput.dial.inj heq
    rw [Option.mem_toList] at hallowed
    exact Fallible.toOption_eq_some_iff.1 hallowed

/-! ### Dials of the discovery task -/

/-- A dial of the discovery task: an authentic advertisement of another hub, from among the given
descriptors, names the address; there is room for another peer; and the connection that the dial
leads to is filed under the publisher of the advertisement. -/
structure DialsAdvertised (P : Set Descriptor) (rt : HubRuntime κ) (dial : Except String κ)
    (address : SocketAddr) (d : Descriptor) : Prop where
  vouched : Vouched P d
  listed : ROUTING_KEY_INFRASTRUCTURE_HUB ∈ d.routingKeys
  other : d.publisher.did ≠ rt.hub.pm.hubIdentity.did
  named : ∃ metadata, HubMetadataCodec.fromCbor d.payload = some metadata ∧
    validateOutboundAddr (endpointToNodeAddr metadata.endpoint).address
      rt.hub.pm.outboundAllowlist = .ok address
  room : rt.hub.pm.connectedPeerCount < rt.hub.pm.maxPeers
  filed : ∀ connection, dial = .ok connection →
    (rt.connectCandidate dial).2.hub.pm.peers[d.publisher.did]? = some (.outgoing connection)

lemma dialsAdvertised_of_dial {P : Set Descriptor} {rt : HubRuntime κ} (h : rt.DiscoveryKeepsTo P)
    {dial : Except String κ} {address : SocketAddr}
    (hout : .dial address ∈ (rt.connectCandidate dial).1) :
    ∃ d, rt.DialsAdvertised P dial address d := by
  cases hcandidate : rt.candidate with
  | none =>
    unfold connectCandidate at hout
    rw [hcandidate] at hout
    cases hout
  | some candidate =>
    obtain ⟨identity, addr⟩ := candidate
    have hafter : rt.connectCandidate dial = ((rt.hub.pm.dialTarget identity addr).toList.map .dial,
        { rt with
          hub := (rt.hub.step (.connect identity addr dial)).2
          candidate := none }) := by
      unfold connectCandidate
      rw [hcandidate]
    rw [hafter] at hout
    obtain ⟨a, htarget, heq⟩ := List.mem_map.1 hout
    obtain rfl := HubOutput.dial.inj heq
    rw [Option.mem_toList] at htarget
    unfold PeerManager.dialTarget at htarget
    split_ifs at htarget with hroom hconnected
    obtain ⟨d, hadvertised⟩ := h.candidate identity addr hcandidate
    obtain ⟨metadata, hmetadata, rfl⟩ := hadvertised.endpoint
    have hallowed := Fallible.toOption_eq_some_iff.1 htarget
    obtain rfl := hadvertised.publisher
    refine ⟨d, hadvertised.vouched, hadvertised.listed, hadvertised.other,
      ⟨metadata, hmetadata, hallowed⟩, Nat.not_le.1 hroom, ?_⟩
    rintro connection rfl
    rw [hafter]
    simp only [PeeredHub.step, PeerManager.connectToPeer, if_neg hroom, if_neg hconnected, hallowed]
    exact ExtTreeMap.getElem?_insert_self

/-- The addresses that a running hub dials pass its outbound filter, and they are those of its
configured seeds or are named by an authentic advertisement of another hub, which is held by the
database that it has opened or was offered to it in an earlier step; what such a dial leads to is
filed under the advertisement's publisher. -/
theorem dials_advertised (config : HubConfig) (keypair : Keypair) (tenantManager : TenantManager)
    (earlier : List (StorageCall RedbStorage)) (tasks : List (HubTask κ Value))
    (hcollision : Descriptor.NoCollision (Given earlier
      (build config keypair tenantManager (diskAfter earlier)) tasks))
    (task : HubTask κ Value) (address : SocketAddr) :
    let start : HubRuntime κ := build config keypair tenantManager (diskAfter earlier)
    let rt := (machine κ Value).run start tasks
    .dial address ∈ (rt.step task).1 →
      (∃ reply, task = .seedPeer reply ∧ ∃ seed ∈ config.seedPeers,
        validateOutboundAddr seed config.outboundAllowlist = .ok address) ∨
      ∃ dial d, task = .connect dial ∧
        rt.DialsAdvertised (Available (diskAfter earlier) start tasks) dial address d := by
  intro start rt hout
  cases task with
  | seedPeer reply =>
    obtain ⟨seed, hseed, hallowed⟩ := seed_of_dial hout
    rw [(start.sameConfig_run tasks).allowlist] at hallowed
    exact .inl ⟨reply, rfl, seed, start.seedPeers_run tasks hseed, hallowed⟩
  | connect dial =>
    have hP := hcollision.mono (available_subset hcollision)
    have hkept := discoveryKeepsTo_run hP (keepsTo_available hcollision)
      (taken_available config keypair tenantManager (diskAfter earlier) tasks)
    obtain ⟨d, hd⟩ := dialsAdvertised_of_dial hkept hout
    exact .inr ⟨dial, d, rfl, hd⟩
  | handle i clock =>
    obtain ⟨response, -, heq⟩ := List.mem_map.1 hout
    cases heq
  | gossip clock answered =>
    obtain ⟨sent, -, heq⟩ := List.mem_map.1 hout
    cases heq
  | request | malformed | healthCheck | discover | consider | advertise | seed | evict | dropCached
  | tenants | tick => cases hout

end HubRuntime

end Dials

open HubRuntime in
/-- Discovery dials the address that the advertisement names. -/
theorem HubRuntime.advertisement_dialled :
    letI : Crypto := cryptoOf [hubAdvertisement]
    letI : DescriptorCodec := wireCodec
    letI : HubMetadataCodec := wireMetadata
    letI : SocketAddrParser :=
      PeeredHub.parserOf "203.0.113.7:4433" ⟨.v4 ⟨![203, 0, 113, 7]⟩, 4433⟩
    let earlier := [.storeDescriptorAt hubAdvertisement 1700000000000000]
    let start : HubRuntime Unit := build {} firstKeypair ⟨[]⟩ (diskAfter earlier)
    let tasks : List (HubTask Unit PlainJson) := [.discover 1700000000000000, .consider]
    let rt := (machine Unit PlainJson).run start tasks
    ∃ dial d, rt.DialsAdvertised (Available (diskAfter earlier) start tasks) dial
      ⟨.v4 ⟨![203, 0, 113, 7]⟩, 4433⟩ d := by
  let _ : Crypto := cryptoOf [hubAdvertisement]
  let _ : DescriptorCodec := wireCodec
  let _ : HubMetadataCodec := wireMetadata
  let _ : SocketAddrParser :=
    PeeredHub.parserOf "203.0.113.7:4433" ⟨.v4 ⟨![203, 0, 113, 7]⟩, 4433⟩
  intro earlier start tasks rt
  have hdials : (rt.step (.connect (.ok ()) : HubTask Unit PlainJson)).1 =
      [.dial ⟨.v4 ⟨![203, 0, 113, 7]⟩, 4433⟩] := by
    decide +kernel
  have hcollision : Descriptor.NoCollision (Given earlier start tasks) :=
    Descriptor.noCollision_of_list (by decide +kernel)
  have hout := dials_advertised {} firstKeypair ⟨[]⟩ earlier tasks hcollision (.connect (.ok ()))
    ⟨.v4 ⟨![203, 0, 113, 7]⟩, 4433⟩ (hdials ▸ List.mem_singleton_self _)
  rcases hout with ⟨_, hseed, -⟩ | ⟨dial, d, -, hdial⟩
  · cases hseed
  · exact ⟨dial, d, hdial⟩

end MeshProtocol
