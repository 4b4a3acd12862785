import MeshProtocol.Core.Encoding
import MeshProtocol.Dht.Availability
import MeshProtocol.Hub.Promotion

/-!
# Frames that nobody is accountable for (`mesh-node/src/main.rs`, `mesh-hub/src/lib.rs`)

A frame counts if its body decodes as the message of its type and the sender in it is the identity
of the TLS connection.  The results say what the two dispatchers do with the other frames, and which
entries of the routing table a request can touch.
-/

namespace MeshProtocol

open Bytes DescriptorStorage

/-! ## What a new entry touches -/

namespace KBucket

lemma others_eraseP (entries : List NodeInfo) (identity : Identity) :
    others (entries.eraseP fun e => e.identity = identity) identity = others entries identity := by
  induction entries with
  | nil => rfl
  | cons e entries ih =>
    by_cases hid : e.identity = identity
    · rw [List.eraseP_cons_of_pos (by simpa using hid)]
      simp [others, hid]
    · rw [List.eraseP_cons_of_neg (by simpa using hid)]
      simpa [others, hid] using ih

/-- Adding a node to its bucket leaves the others as they are, in their order. -/
lemma others_addNode (b : KBucket) (node : NodeInfo) :
    others (b.addNode node).2.entries node.identity = others b.entries node.identity := by
  have hself : others [node] node.identity = [] := by simp [others]
  unfold addNode
  split_ifs
  · dsimp only [touch]
    rw [others_append, others_eraseP, hself, List.append_nil]
  · rw [others_append, hself, List.append_nil]
  · rfl

end KBucket

namespace RoutingTable

variable [Crypto]

lemma touchedOnlyAt_addNode {t t' : RoutingTable} {node : NodeInfo} {result : AddNodeResult}
    (h : t.addNode node = some (result, t')) : TouchedOnlyAt (some node.identity) t t' := by
  refine ⟨localId_of_addNode h, fun i => ?_⟩
  unfold addNode at h
  split at h
  case h_1 => cases h
  case h_2 =>
    obtain ⟨-, rfl⟩ := Prod.mk.inj (Option.some.inj h)
    rfl
  case h_3 j hj =>
    obtain ⟨-, rfl⟩ := Prod.mk.inj (Option.some.inj h)
    by_cases hij : j = i
    · subst hij
      simpa [setBucket, KBucket.others] using KBucket.others_addNode t.buckets[j] node
    · simp [setBucket, Fin.val_ne_of_ne hij]

end RoutingTable

/-! ## The dispatch of a node -/

/-- The body of the frame decodes as the message of its type, and the TLS peer sent it. -/
def Frame.Authenticated [RequestCodec] (frame : Frame) (peerIdentity : Option Identity) : Prop :=
  ∃ request, decodeRequest frame = some request ∧ peerIdentity = some request.sender

namespace DhtNode

variable [Crypto] {S H : Type} [DescriptorStorage S] [ProtocolHook H]

/-- `dispatch_request`, from the frame to the response frame. -/
def dispatchFrame [RequestCodec] (n : DhtNode S H) (frame : Frame)
    (peerIdentity : Option Identity) (clock : UInt64) : Option (Option Frame × DhtNode S H) :=
  match decodeRequest frame with
  | none => some (none, n)
  | some request =>
    (n.dispatchRequest request peerIdentity clock).map fun (response, n) =>
      (response.map fun r => frame.response r.msgType r.toCbor, n)

omit [DescriptorStorage S] [ProtocolHook H] in
lemma touchedOnlyAt_update {n n' : DhtNode S H} {sender : Identity} {senderAddr : NodeAddr}
    {clock : UInt64} (h : n.updateRoutingTable sender senderAddr clock = some n') :
    RoutingTable.TouchedOnlyAt (some sender) n.routingTable n'.routingTable := by
  obtain ⟨-, -, result, hadd⟩ := updateRoutingTable_cases h
  exact RoutingTable.touchedOnlyAt_addNode hadd

lemma routingTable_storeAccepted (n : DhtNode S H) (d : Descriptor) (clock : UInt64) :
    (n.storeAccepted d clock).2.routingTable = n.routingTable := by
  unfold storeAccepted
  split <;> rfl

lemma routingTable_findAccepted {n n' : DhtNode S H} {f : FindValue} {clock : UInt64}
    {result : FindValueResult} (h : n.findAccepted f clock = some (result, n')) :
    n'.routingTable = n.routingTable := by
  obtain ⟨result', -, hrest⟩ := Option.bind_eq_some_iff.1 h
  obtain ⟨-, rfl⟩ := Prod.mk.inj (Option.some.inj hrest)
  rfl

/-- A request enters its sender into the routing table, and nobody else. -/
lemma touchedOnlyAt_dispatchRequest {n n' : DhtNode S H} {request : Request}
    {peerIdentity : Option Identity} {clock : UInt64} {response : Option Response}
    (h : n.dispatchRequest request peerIdentity clock = some (response, n')) :
    RoutingTable.TouchedOnlyAt peerIdentity n.routingTable n'.routingTable := by
  rcases dispatchRequest_cases h with ⟨-, -, rfl⟩ | ⟨hbound, hhandled⟩
  · exact .refl _ _
  rw [hbound]
  cases request with
  | ping ping =>
    obtain ⟨pong, hpong, -⟩ := hhandled
    exact touchedOnlyAt_update (handlePing_cases hpong).1
  | store storeReq =>
    obtain ⟨ack, hack, -⟩ := hhandled
    obtain ⟨n₁, hn₁, hcases⟩ := handleStore_cases hack
    have htouched := touchedOnlyAt_update hn₁
    rcases hcases with ⟨-, haccepted⟩ | ⟨_, _, _, -, -, -, rfl⟩ | ⟨_, _, -, -, haccepted⟩
    · obtain rfl : _ = n' := congrArg Prod.snd haccepted
      rwa [routingTable_storeAccepted]
    · exact htouched
    · obtain rfl : _ = n' := congrArg Prod.snd haccepted
      rwa [routingTable_storeAccepted]
  | findNode findNode =>
    obtain ⟨result, hresult, -⟩ := hhandled
    exact touchedOnlyAt_update (handleFindNode_cases hresult)
  | findValue findValue =>
    obtain ⟨result, hresult, -⟩ := hhandled
    obtain ⟨n₁, hn₁, hcases⟩ := handleFindValue_cases hresult
    have htouched := touchedOnlyAt_update hn₁
    rcases hcases with ⟨-, haccepted⟩ | ⟨_, _, _, -, -, -, rfl⟩ | ⟨_, _, -, -, haccepted⟩
    · rwa [routingTable_findAccepted haccepted]
    · exact htouched
    · rwa [routingTable_findAccepted haccepted]

lemma dispatchRequest_of_unbound (n : DhtNode S H) {request : Request}
    {peerIdentity : Option Identity} (h : peerIdentity ≠ some request.sender) (clock : UInt64) :
    n.dispatchRequest request peerIdentity clock = some (none, n) := by
  unfold dispatchRequest
  split
  case h_1 => rfl
  case h_2 hbinding => exact absurd (verifySenderBinding_eq_ok_iff.1 hbinding) h

lemma dispatchFrame_of_unauthenticated [RequestCodec] (n : DhtNode S H) {frame : Frame}
    {peerIdentity : Option Identity} (h : ¬ frame.Authenticated peerIdentity) (clock : UInt64) :
    n.dispatchFrame frame peerIdentity clock = some (none, n) := by
  unfold dispatchFrame
  cases hrequest : decodeRequest frame with
  | none => rfl
  | some request =>
    have hunbound : peerIdentity ≠ some request.sender := fun heq => h ⟨request, hrequest, heq⟩
    dsimp only
    rw [n.dispatchRequest_of_unbound hunbound]
    rfl

lemma touchedOnlyAt_dispatchFrame [RequestCodec] {n n' : DhtNode S H} {frame : Frame}
    {peerIdentity : Option Identity} {clock : UInt64} {answer : Option Frame}
    (h : n.dispatchFrame frame peerIdentity clock = some (answer, n')) :
    RoutingTable.TouchedOnlyAt peerIdentity n.routingTable n'.routingTable := by
  unfold dispatchFrame at h
  split at h
  case h_1 =>
    obtain ⟨-, rfl⟩ := Prod.mk.inj (Option.some.inj h)
    exact .refl _ _
  case h_2 =>
    obtain ⟨⟨response, n₁⟩, hdispatch, heq⟩ := Option.map_eq_some_iff.1 h
    obtain ⟨-, rfl⟩ := Prod.mk.inj heq
    exact touchedOnlyAt_dispatchRequest hdispatch

end DhtNode

/-! ## The dispatch of a hub -/

namespace Hub

variable {κ : Type}

section Crypto

variable [Crypto] [DescriptorCodec]

/-- `handle_protocol_request`, from the frame to the response frame: whether the TLS peer is a peer
hub is found out before the body is decoded. -/
def handleFrame [RequestCodec] (hub : Hub κ) (frame : Frame) (peerIdentity : Option Identity)
    (checkedAt clock : UInt64) : Option (Option Frame × Hub κ) :=
  match decodeRequest frame with
  | none => some (none, (hub.isPeerHub peerIdentity checkedAt).2)
  | some request =>
    (hub.handleProtocolRequest request peerIdentity checkedAt clock).map fun (response, hub) =>
      (response.map fun r => frame.response r.msgType r.toCbor, hub)

/-- The node is as before, but that its cache may have got an entry it did not have, with the hub
advertisements in the database. -/
structure UnchangedButLook (clock : UInt64) (node node' : HubDhtNode) : Prop where
  routingTable : node'.routingTable = node.routingTable
  hooks : node'.hooks = node.hooks
  inner : node'.store.inner = node.store.inner
  cache : ∀ key, node'.store.cache[key]? = node.store.cache[key]? ∨
    (key = hashBytes ROUTING_KEY_INFRASTRUCTURE_HUB ∧ node.store.cache[key]? = none ∧
      node'.store.cache[key]? = some
        (node.store.inner.getDescriptorsAt ROUTING_KEY_INFRASTRUCTURE_HUB none clock))

/-- Finding out who sends a frame changes at most the store of the node, by a look for hub
advertisements. -/
lemma node_isPeerHub (hub : Hub κ) (peerIdentity : Option Identity) (clock : UInt64) :
    (hub.isPeerHub peerIdentity clock).2.node.routingTable = hub.node.routingTable ∧
      (hub.isPeerHub peerIdentity clock).2.node.hooks = hub.node.hooks ∧
      ((hub.isPeerHub peerIdentity clock).2.node.store = hub.node.store ∨
        (hub.isPeerHub peerIdentity clock).2.node.store =
          (hub.node.store.load ROUTING_KEY_INFRASTRUCTURE_HUB clock).2) := by
  unfold isPeerHub
  split
  · split_ifs
    · exact ⟨rfl, rfl, .inl rfl⟩
    · dsimp only [recognize]
      split_ifs
      · exact ⟨rfl, rfl, .inr rfl⟩
      · exact ⟨rfl, rfl, .inr rfl⟩
  · exact ⟨rfl, rfl, .inl rfl⟩

/-- A look through the cache finds what the database has, and changes none of it. -/
lemma cache_load (store : CachedStorage RedbStorage) (clock : UInt64) :
    (store.load ROUTING_KEY_INFRASTRUCTURE_HUB clock).2.inner = store.inner ∧
      ∀ key, (store.load ROUTING_KEY_INFRASTRUCTURE_HUB clock).2.cache[key]? = store.cache[key]? ∨
        (key = hashBytes ROUTING_KEY_INFRASTRUCTURE_HUB ∧ store.cache[key]? = none ∧
          (store.load ROUTING_KEY_INFRASTRUCTURE_HUB clock).2.cache[key]? =
            some (store.inner.getDescriptorsAt ROUTING_KEY_INFRASTRUCTURE_HUB none clock)) := by
  rcases hcached : store.cache[hashBytes ROUTING_KEY_INFRASTRUCTURE_HUB]? with _ | cached
  · have hload : store.load ROUTING_KEY_INFRASTRUCTURE_HUB clock =
        (store.inner.getDescriptorsAt ROUTING_KEY_INFRASTRUCTURE_HUB none clock,
          ⟨store.inner, store.cache.insert (hashBytes ROUTING_KEY_INFRASTRUCTURE_HUB)
            (store.inner.getDescriptorsAt ROUTING_KEY_INFRASTRUCTURE_HUB none clock)⟩) := by
      rw [CachedStorage.load, hcached]
      rfl
    rw [hload]
    refine ⟨rfl, fun key => ?_⟩
    by_cases hkey : hashBytes ROUTING_KEY_INFRASTRUCTURE_HUB = key
    · subst hkey
      exact .inr ⟨rfl, hcached, Std.ExtTreeMap.getElem?_insert_self⟩
    · left
      dsimp only
      rw [Std.ExtTreeMap.getElem?_insert,
        if_neg fun hcmp => hkey (Std.LawfulEqCmp.eq_of_compare hcmp)]
  · have hload : store.load ROUTING_KEY_INFRASTRUCTURE_HUB clock = (cached, store) := by
      rw [CachedStorage.load, hcached]
    rw [hload]
    exact ⟨rfl, fun key => .inl rfl⟩

/-- A request under another name than the TLS peer's gets no answer, and changes nothing. -/
lemma handleChecked_of_unbound (hub : Hub κ) {request : Request} {peerIdentity : Option Identity}
    (h : peerIdentity ≠ some request.sender) (isPeerHub : Bool) (clock : UInt64) :
    hub.handleChecked request peerIdentity isPeerHub clock = some (none, hub) := by
  unfold handleChecked
  split
  case h_1 storeReq =>
    cases hverdict : verifySenderBinding storeReq.sender peerIdentity with
    | error reason => rfl
    | ok => exact absurd (verifySenderBinding_eq_ok_iff.1 hverdict) h
  case h_2 =>
    rw [DhtNode.dispatchRequest_of_unbound _ h]
    rfl

lemma handleFrame_of_unauthenticated [RequestCodec] (hub : Hub κ) {frame : Frame}
    {peerIdentity : Option Identity} (h : ¬ frame.Authenticated peerIdentity)
    (checkedAt clock : UInt64) :
    hub.handleFrame frame peerIdentity checkedAt clock =
      some (none, (hub.isPeerHub peerIdentity checkedAt).2) := by
  unfold handleFrame
  cases hrequest : decodeRequest frame with
  | none => rfl
  | some request =>
    have hunbound : peerIdentity ≠ some request.sender := fun heq => h ⟨request, hrequest, heq⟩
    simp only [handleProtocolRequest, handleChecked_of_unbound _ hunbound, Option.map_some,
      Option.map_none]

/-- A request that has been checked enters the TLS peer into the routing table, and nobody else. -/
lemma touchedOnlyAt_handleChecked {hub hub' : Hub κ} {request : Request}
    {peerIdentity : Option Identity} {isPeerHub : Bool} {clock : UInt64}
    {response : Option Response}
    (h : hub.handleChecked request peerIdentity isPeerHub clock = some (response, hub')) :
    RoutingTable.TouchedOnlyAt peerIdentity hub.node.routingTable hub'.node.routingTable := by
  unfold handleChecked at h
  split at h
  case h_1 storeReq =>
    split at h
    case h_1 =>
      obtain ⟨-, rfl⟩ := Prod.mk.inj (Option.some.inj h)
      exact .refl _ _
    case h_2 =>
      obtain ⟨-, rfl⟩ := Prod.mk.inj (Option.some.inj h)
      exact .refl _ _
  case h_2 =>
    obtain ⟨⟨response', node⟩, hdispatch, heq⟩ := Option.map_eq_some_iff.1 h
    obtain ⟨-, rfl⟩ := Prod.mk.inj heq
    exact DhtNode.touchedOnlyAt_dispatchRequest hdispatch

/-- A request enters the TLS peer into the hub's routing table, and nobody else. -/
lemma touchedOnlyAt_handleFrame [RequestCodec] {hub hub' : Hub κ} {frame : Frame}
    {peerIdentity : Option Identity} {checkedAt clock : UInt64} {answer : Option Frame}
    (h : hub.handleFrame frame peerIdentity checkedAt clock = some (answer, hub')) :
    RoutingTable.TouchedOnlyAt peerIdentity hub.node.routingTable hub'.node.routingTable := by
  have hsame := (hub.node_isPeerHub peerIdentity checkedAt).1
  unfold handleFrame at h
  split at h
  case h_1 =>
    obtain ⟨-, rfl⟩ := Prod.mk.inj (Option.some.inj h)
    rw [hsame]
    exact .refl _ _
  case h_2 request =>
    obtain ⟨⟨response, hub₁⟩, hhandled, heq⟩ := Option.map_eq_some_iff.1 h
    obtain ⟨-, rfl⟩ := Prod.mk.inj heq
    rw [← hsame]
    exact touchedOnlyAt_handleChecked hhandled

lemma unchangedButLook_isPeerHub (hub : Hub κ) (peerIdentity : Option Identity) (clock : UInt64) :
    UnchangedButLook clock hub.node (hub.isPeerHub peerIdentity clock).2.node := by
  obtain ⟨htable, hhooks, hstore | hstore⟩ := hub.node_isPeerHub peerIdentity clock
  · refine ⟨htable, hhooks, by rw [hstore], fun key => ?_⟩
    rw [hstore]
    exact .inl rfl
  · obtain ⟨hinner, hcache⟩ := cache_load hub.node.store clock
    refine ⟨htable, hhooks, by rw [hstore, hinner], fun key => ?_⟩
    rw [hstore]
    exact hcache key

end Crypto

end Hub

/-- A frame that is not authenticated gets no answer and leaves a node as it is, and a hub's node
but for the look for hub advertisements; and every request, of a node or a hub, touches at most the
entry of the TLS peer in the routing table. -/
theorem unauthenticated_unchanged [Crypto] [DescriptorCodec] [RequestCodec] {S H κ : Type}
    [DescriptorStorage S] [ProtocolHook H] (n : DhtNode S H) (hub : Hub κ) (frame : Frame)
    (peerIdentity : Option Identity) (checkedAt clock : UInt64) :
    (¬ frame.Authenticated peerIdentity →
      n.dispatchFrame frame peerIdentity clock = some (none, n) ∧
      ∃ hub', hub.handleFrame frame peerIdentity checkedAt clock = some (none, hub') ∧
        Hub.UnchangedButLook checkedAt hub.node hub'.node) ∧
    (∀ answer n', n.dispatchFrame frame peerIdentity clock = some (answer, n') →
      RoutingTable.TouchedOnlyAt peerIdentity n.routingTable n'.routingTable) ∧
    ∀ answer hub', hub.handleFrame frame peerIdentity checkedAt clock = some (answer, hub') →
      RoutingTable.TouchedOnlyAt peerIdentity hub.node.routingTable hub'.node.routingTable := by
  refine ⟨fun h => ⟨n.dispatchFrame_of_unauthenticated h clock, ?_⟩, ?_, ?_⟩
  · exact ⟨_, hub.handleFrame_of_unauthenticated h checkedAt clock,
      hub.unchangedButLook_isPeerHub peerIdentity checkedAt⟩
  · exact fun _ _ => DhtNode.touchedOnlyAt_dispatchFrame
  · exact fun _ _ => Hub.touchedOnlyAt_handleFrame

/-! ## A look that lasts -/

/-- A frame of a type that no message has. -/
def unknownFrame : Frame := .new 0x7f (.replicate 16 0) []

lemma unknownFrame_unauthenticated [RequestCodec] (peerIdentity : Option Identity) :
    ¬ unknownFrame.Authenticated peerIdentity := by
  rintro ⟨request, hrequest, -⟩
  cases hrequest

/-- An unknown frame changes nothing on a node or on a hub without advertisements, but for the empty
entry in the cache. -/
theorem unknownFrame_unchanged :
    letI : Crypto := cryptoOf [Hub.ownAdvertisement]
    letI : Ciborium := referenceCiborium
    letI : DescriptorCodec := wireCodec
    letI : RequestCodec := wireRequests
    freshNode.dispatchFrame unknownFrame (some thirdPublisher) 1700000000000000 =
        some (none, freshNode) ∧
      ∃ hub', (Hub.openHub ∅).handleFrame unknownFrame (some thirdPublisher) 1700000000000000
        1700000000000000 = some (none, hub') ∧ Hub.UnchangedButLook 1700000000000000
          (Hub.openHub ∅).node hub'.node := by
  let _ : Crypto := cryptoOf [Hub.ownAdvertisement]
  let _ : Ciborium := referenceCiborium
  let _ : DescriptorCodec := wireCodec
  let _ : RequestCodec := wireRequests
  exact (unauthenticated_unchanged freshNode (Hub.openHub ∅) unknownFrame (some thirdPublisher)
    1700000000000000 1700000000000000).1 (unknownFrame_unauthenticated _)

/-- On a hub with an advertisement, an unknown frame changes what storage answers later: the
advertisement, instead of nothing, when its lifetime is over. -/
theorem unknownFrame_changes_storage :
    letI : Crypto := cryptoOf [Hub.ownAdvertisement]
    letI : Ciborium := referenceCiborium
    letI : DescriptorCodec := wireCodec
    letI : RequestCodec := wireRequests
    ∃ hub hub' : Hub Unit, (Hub.machine Unit).run (some (Hub.openHub ∅))
        [.storage (.storeDescriptor Hub.ownAdvertisement 1700000000000000)] = some hub ∧
      ¬ unknownFrame.Authenticated (some thirdPublisher) ∧
      hub.handleFrame unknownFrame (some thirdPublisher) 1700000000000000 1700000000000000 =
        some (none, hub') ∧
      hub'.node.store ≠ hub.node.store ∧
      (getDescriptors hub.node.store hubKey none 1700003600000000).1 = [] ∧
      (getDescriptors hub'.node.store hubKey none 1700003600000000).1 = [Hub.ownAdvertisement] := by
  let _ : Crypto := cryptoOf [Hub.ownAdvertisement]
  let _ : Ciborium := referenceCiborium
  let _ : DescriptorCodec := wireCodec
  let _ : RequestCodec := wireRequests
  have hunauthenticated := unknownFrame_unauthenticated (some thirdPublisher)
  have hrun : ((Hub.machine Unit).run (some (Hub.openHub ∅))
      [.storage (.storeDescriptor Hub.ownAdvertisement 1700000000000000)]).isSome := by
    decide +kernel
  obtain ⟨hub, hub_eq⟩ := Option.isSome_iff_exists.1 hrun
  have hbefore : ((Hub.machine Unit).run (some (Hub.openHub ∅))
      [.storage (.storeDescriptor Hub.ownAdvertisement 1700000000000000)]).map (fun hub =>
        (getDescriptors hub.node.store hubKey none 1700003600000000).1) = some [] := by
    decide +kernel
  have hafter : ((Hub.machine Unit).run (some (Hub.openHub ∅))
      [.storage (.storeDescriptor Hub.ownAdvertisement 1700000000000000)]).map (fun hub =>
        (getDescriptors (hub.isPeerHub (some thirdPublisher) 1700000000000000).2.node.store hubKey
          none 1700003600000000).1) = some [Hub.ownAdvertisement] := by
    decide +kernel
  rw [hub_eq, Option.map_some, Option.some.injEq] at hbefore hafter
  refine ⟨hub, _, hub_eq, hunauthenticated,
    hub.handleFrame_of_unauthenticated hunauthenticated 1700000000000000 1700000000000000,
    fun heq => ?_, hbefore, hafter⟩
  rw [heq, hbefore] at hafter
  cases hafter

end MeshProtocol
