import MeshProtocol.Core.Reference
import MeshProtocol.Dht.Network
import MeshProtocol.Dht.Settled

/-!
# Publishing and discovering in a small network (`mesh-dht/src/node.rs`)

Where no identity is known beyond `K` and every node knows every other one, a descriptor that one
node publishes is found by any other.

The argument follows one `Publication`: what is fixed while a descriptor is published and looked up.
Its invariant is `Hosts`, and `Reaches` says what every message of the two operations leaves true.
-/

namespace MeshProtocol

open Bytes

/-! ## Publications -/

/-- What is fixed while a descriptor is published and looked up: who is in the network, the
descriptor, the clock, and the limits on the answers of the nodes. -/
structure Publication extends Roster where
  descriptor : Descriptor
  clock : ℕ → UInt64
  limits : Set UInt16
  live : ∀ k, descriptor.expiredAt (clock k) = false
  long_keys : ∀ rk ∈ descriptor.routingKeys, 32 ≤ rk.digest.length

namespace Publication

variable [Crypto] {p : Publication}

variable [Ciborium]

/-- What the store of a node of the network keeps true. -/
structure Stocked (p : Publication) (s : DescriptorStore) : Prop where
  takes : s.Settled p.descriptor ∨ ∀ k, s.Takes p.descriptor (p.clock k)
  room : ∀ limit ∈ p.limits, ∀ rk k,
    s.rivals p.descriptor rk (p.clock k) + p.descriptor.routingKeys.count rk ≤ limit.toNat

/-- Storing the descriptor settles a store. -/
lemma Stocked.store {s : DescriptorStore} (h : p.Stocked s) (k : ℕ) :
    p.Stocked (s.storeDescriptorAt p.descriptor (p.clock k)).2 ∧
      (s.storeDescriptorAt p.descriptor (p.clock k)).2.Settled p.descriptor := by
  obtain ⟨hsettled, hrivals⟩ :
      (s.storeDescriptorAt p.descriptor (p.clock k)).2.Settled p.descriptor ∧
      ∀ rk t, (s.storeDescriptorAt p.descriptor (p.clock k)).2.rivals p.descriptor rk t ≤
        s.rivals p.descriptor rk t := by
    rcases h.takes with hsettled | htakes
    · exact hsettled.storeDescriptorAt _
    · exact (htakes k).settled
  refine ⟨⟨.inl hsettled, ?_⟩, hsettled⟩
  intro limit hlimit rk j
  exact (Nat.add_le_add_right (hrivals rk _) _).trans (h.room limit hlimit rk j)

/-! ## Nodes -/

/-- A node of the network at its address, with its limit and its store. -/
structure Host (p : Publication) (b : NodeAddr) (x : Peer) : Prop extends p.Resident b x where
  limit : x.config.maxFindValueResults ∈ p.limits
  stocked : p.Stocked x.store

namespace Host

variable {a b : NodeAddr} {n x : Peer}

/-- A node that is still in place with the same store is as good as before. -/
lemma of_resident {x' : Peer} (h : p.Host b x) (h' : p.Resident b x') (hstore : x'.store = x.store)
    (hconfig : x'.config = x.config) : p.Host b x' where
  toResident := h'
  limit := by
    rw [hconfig]
    exact h.limit
  stocked := by
    rw [hstore]
    exact h.stocked

/-- Hearing another node keeps the node in place. -/
lemma hear (hx : p.Host b x) (hn : p.Host a n) (clock : UInt64) :
    ∃ x', x.learn ⟨n.identity, n.addr, clock⟩ = some x' ∧ p.Host b x' ∧ x'.store = x.store := by
  obtain ⟨x', hlearn, hx', hstore, hconfig⟩ := hx.toResident.learn (hn.names_self clock)
  exact ⟨x', hlearn, hx.of_resident hx' hstore hconfig, hstore⟩

/-! ### Answers -/

/-- STORE of the descriptor settles the store, whatever the answer. -/
lemma store (hx : p.Host b x) (hn : p.Host a n) (k : ℕ) : ∃ ack x',
    x.dispatchRequest (.store ⟨n.identity, n.addr, p.descriptor⟩) (some n.identity) (p.clock k) =
      some (some (.storeAck ack), x') ∧ p.Host b x' ∧ x'.store.Settled p.descriptor := by
  obtain ⟨ack, x', hdispatch, hx', hconfig, hstore, -⟩ :=
    hx.toResident.store hn.toResident p.descriptor (p.clock k)
  obtain ⟨hstocked, hsettled⟩ := hx.stocked.store k
  rw [← hstore] at hstocked hsettled
  have hlimit : x'.config.maxFindValueResults ∈ p.limits := by
    rw [hconfig]
    exact hx.limit
  exact ⟨ack, x', hdispatch, ⟨hx', hlimit, hstocked⟩, hsettled⟩

/-- FIND_VALUE is answered with the descriptor by a node whose store is settled on it. -/
lemma findValue (hx : p.Host b x) (hsettled : x.store.Settled p.descriptor) (hn : p.Host a n)
    {rk : Hash} (hrk : rk ∈ p.descriptor.routingKeys) (k : ℕ) : ∃ found x',
      x.dispatchRequest (n.valueRequest rk) (some n.identity) (p.clock k) =
        some (some (.findValueResult ⟨some found, none⟩), x') ∧
      p.Host b x' ∧ x'.store.Settled p.descriptor ∧ p.descriptor ∈ found := by
  obtain ⟨x₁, hlearn, hx₁, hstore⟩ := hx.hear hn (p.clock k)
  rw [← hstore] at hsettled
  have hmem : p.descriptor ∈ x₁.store.getDescriptorsAt rk none (p.clock k) :=
    hsettled.mem_getDescriptorsAt hrk (p.live k)
  -- the limits of both nodes have room for all that is served
  have hlength : (x₁.store.getDescriptorsAt rk none (p.clock k)).length ≤
      min n.config.maxFindValueResults.toNat x₁.config.maxFindValueResults.toNat :=
    (hsettled.length_getDescriptorsAt_le rk _).trans
      (le_min (hx₁.stocked.room _ hn.limit rk k) (hx₁.stocked.room _ hx₁.limit rk k))
  have hbinding : verifySenderBinding n.identity (some n.identity) = .ok () :=
    verifySenderBinding_eq_ok_iff.2 rfl
  refine ⟨x₁.store.getDescriptorsAt rk none (p.clock k), x₁, ?_, hx₁, hsettled, hmem⟩
  have hresult : x₁.findResult ⟨n.identity, n.addr, rk, n.config.maxFindValueResults, none⟩
      (x₁.store.getDescriptorsAt rk none (p.clock k)) =
        some ⟨some (x₁.store.getDescriptorsAt rk none (p.clock k)), none⟩ := by
    have hne : (x₁.store.getDescriptorsAt rk none (p.clock k)).isEmpty = false :=
      List.isEmpty_eq_false_iff.2 (List.ne_nil_of_mem hmem)
    rw [DhtNode.findResult, hne, if_neg Bool.false_ne_true]
    dsimp only
    rw [List.take_of_length_le hlength]
  have hfind : x₁.findAccepted ⟨n.identity, n.addr, rk, n.config.maxFindValueResults, none⟩
      (p.clock k) =
        some (⟨some (x₁.store.getDescriptorsAt rk none (p.clock k)), none⟩, x₁) := by
    have hsame : ({ x₁ with hooks := none } : Peer) = x₁ := by
      rw [← hx₁.hooks]
    rw [DhtNode.findAccepted]
    change (x₁.findResult _ (x₁.store.getDescriptorsAt rk none (p.clock k))).bind _ = _
    rw [hresult, Option.bind_some, hx₁.hooks]
    exact congrArg (fun y => some (_, y)) hsame
  rw [DhtNode.valueRequest, DhtNode.dispatchRequest, Request.sender, hbinding,
    DhtNode.handleFindValue, DhtNode.updateRoutingTable, hlearn]
  simp only [Option.bind_eq_bind, Option.bind_some, hx₁.hooks, hfind]
  rfl

end Host

/-! ## Messages -/

/-- The nodes of the network are in place. -/
structure Hosts (p : Publication) (t : Network) : Prop where
  clock : t.clock = p.clock
  host : ∀ {b x}, t.nodes b = some x → p.Host b x

/-- There is a node at an address, and its store is settled on the descriptor. -/
def SettledAt (p : Publication) (t : Network) (b : NodeAddr) : Prop :=
  ∃ x, t.nodes b = some x ∧ x.store.Settled p.descriptor

/-- What messages leave true: the nodes stay in place, and settled stores stay settled. -/
structure Reaches (p : Publication) (t t' : Network) : Prop where
  hosts : p.Hosts t'
  nodes : ∀ b, (t'.nodes b).isSome = (t.nodes b).isSome
  settled : ∀ {b}, p.SettledAt t b → p.SettledAt t' b

variable {t t' t'' : Network} {a b : NodeAddr} {n x x' : Peer}

lemma Reaches.refl (h : p.Hosts t) : p.Reaches t t := ⟨h, fun _ => rfl, id⟩

lemma Reaches.trans (h : p.Reaches t t') (h' : p.Reaches t' t'') : p.Reaches t t'' where
  hosts := h'.hosts
  nodes b := (h'.nodes b).trans (h.nodes b)
  settled hb := h'.settled (h.settled hb)

lemma Hosts.put_host (h : p.Hosts t) (hx' : p.Host b x') : p.Hosts (t.put b x') where
  clock := h.clock
  host := Network.forall_put (fun _ _ => h.host) hx' _ _

/-- An answer leaves the nodes in place if it leaves the answering node so. -/
lemma Hosts.put (h : p.Hosts t) (hx : t.nodes b = some x) (hx' : p.Host b x')
    (hsettled : x.store.Settled p.descriptor → x'.store.Settled p.descriptor) :
    p.Reaches t (t.put b x') where
  hosts := h.put_host hx'
  nodes c := by
    by_cases hcb : c = b
    · rw [hcb, hx, Network.put_nodes_self]
      rfl
    · rw [Network.put_nodes_of_ne hcb]
  settled := by
    rintro c ⟨y, hy, hy'⟩
    by_cases hcb : c = b
    · subst hcb
      obtain rfl := Option.some.inj (hx.symm.trans hy)
      exact ⟨x', Network.put_nodes_self _ _ _, hsettled hy'⟩
    · refine ⟨y, ?_, hy'⟩
      rw [Network.put_nodes_of_ne hcb, hy]

/-! ## Publishing -/

/-- What changes no store leaves the nodes in place that stay so. -/
lemma Hosts.of_residents (h : p.Hosts t) (ht' : p.Residents t')
    (hsame : Roster.SameStores t t') : p.Reaches t t' where
  hosts := by
    refine ⟨hsame.clock.trans h.clock, fun {b x'} hx' => ?_⟩
    obtain ⟨x, hx⟩ := Option.isSome_iff_exists.1
      ((hsame.isSome b).symm.trans (Option.isSome_iff_exists.2 ⟨x', hx'⟩))
    obtain ⟨x'', hx'', hstore, hconfig⟩ := hsame.exists_of_some hx
    obtain rfl := Option.some.inj (hx'.symm.trans hx'')
    exact (h.host hx).of_resident (ht' hx') hstore hconfig
  nodes := hsame.isSome
  settled := by
    rintro b ⟨x, hx, hsettled⟩
    obtain ⟨x', hx', hstore, -⟩ := hsame.exists_of_some hx
    exact ⟨x', hx', by rwa [hstore]⟩

/-- A STORE for each target settles the stores of those that there are. -/
lemma sendStores_ok (hn : p.Host a n) (nodes : List NodeInfo) : ∀ {t : Network}, p.Hosts t →
    p.Reaches t (n.sendStores t p.descriptor nodes).2 ∧
      ∀ e ∈ nodes, e.identity.nodeId ≠ n.nodeId → (t.nodes e.addr).isSome →
        p.SettledAt (n.sendStores t p.descriptor nodes).2 e.addr := by
  induction nodes with
  | nil =>
    intro t ht
    exact ⟨.refl ht, by simp⟩
  | cons node nodes ih =>
    intro t ht
    -- after the first target, the others do what the induction says
    have hfirst : ∃ t₁, p.Reaches t t₁ ∧ (n.sendStores t p.descriptor (node :: nodes)).2 =
        (n.sendStores t₁ p.descriptor nodes).2 ∧ (node.identity.nodeId ≠ n.nodeId →
          (t.nodes node.addr).isSome → p.SettledAt t₁ node.addr) := by
      by_cases hself : node.identity.nodeId = n.nodeId
      · refine ⟨t, .refl ht, ?_, fun hne => absurd hself hne⟩
        rw [DhtNode.sendStores, if_pos hself]
      · cases hx : t.nodes node.addr with
        | none =>
          refine ⟨t, .refl ht, ?_, ?_⟩
          · rw [DhtNode.sendStores, if_neg hself, Network.sendRequest_of_none hx]
          · intro _ hsome
            cases hsome
        | some x =>
          obtain ⟨ack, x', hdispatch, hx', hsettled⟩ := (ht.host hx).store hn t.reads
          rw [← ht.clock] at hdispatch
          refine ⟨t.put node.addr x', ht.put hx hx' fun _ => hsettled, ?_, ?_⟩
          · rw [DhtNode.sendStores, if_neg hself, Network.sendRequest_of_some hx hdispatch]
          · intro _ _
            exact ⟨x', Network.put_nodes_self _ _ _, hsettled⟩
    obtain ⟨t₁, hreaches₁, heq, hnode⟩ := hfirst
    obtain ⟨hreaches, hsettled⟩ := ih hreaches₁.hosts
    rw [heq]
    refine ⟨hreaches₁.trans hreaches, ?_⟩
    intro e he hne hsome
    rcases List.mem_cons.1 he with rfl | he
    · exact hreaches.settled (hnode hne hsome)
    · refine hsettled e he hne ?_
      rw [hreaches₁.nodes]
      exact hsome

/-- All targets fit, and every other node of the network is one of them. -/
lemma storeAtKeys_ok (alpha : ℕ) (keys : List Hash) :
    ∀ {n : Peer} {t : Network}, (∀ key ∈ keys, 32 ≤ key.digest.length) → p.Host a n → p.Hosts t →
      ∃ stored n' t', n.storeAtKeys alpha t p.descriptor keys = some (stored, n', t') ∧
        p.Host a n' ∧ p.Reaches t t' ∧
        (keys ≠ [] → ∀ b ≠ a, (t.nodes b).isSome → p.SettledAt t' b) := by
  induction keys with
  | nil =>
    intro n t _ hn ht
    exact ⟨0, n, t, rfl, hn, .refl ht, fun hne => absurd rfl hne⟩
  | cons key keys ih =>
    intro n t hkeys hn ht
    obtain ⟨hkey, hkeys⟩ := List.forall_mem_cons.1 hkeys
    obtain ⟨closest, targets, sorted, n₁, t₁, hclosest, hfind, hsort, htake, hn₁, hstore₁, hconfig₁,
        ht₁, hsame, -, hothers⟩ :=
      Roster.targets_ok hn.toResident (fun hx => (ht.host hx).toResident) (.inl hkey)
    have hn₁ := hn.of_resident hn₁ hstore₁ hconfig₁
    have hreaches₁ := ht.of_residents ht₁ hsame
    obtain ⟨hreaches₂, hsettled⟩ := sendStores_ok hn₁ sorted hreaches₁.hosts
    obtain ⟨others, n', t', hrest, hn', hreaches₃, -⟩ := ih hkeys hn₁ hreaches₂.hosts
    refine ⟨(n₁.sendStores t₁ p.descriptor sorted).1 + others, n', t', ?_, hn',
      (hreaches₁.trans hreaches₂).trans hreaches₃, ?_⟩
    · rw [DhtNode.storeAtKeys, hclosest, Option.bind_eq_bind, Option.bind_some, hfind,
        Option.bind_eq_bind, Option.bind_some]
      dsimp only
      rw [hsort, Option.bind_eq_bind, Option.bind_some, htake, hrest]
      rfl
    · intro _ b hba hb
      obtain ⟨x, hx⟩ := Option.isSome_iff_exists.1 hb
      obtain ⟨e, hmem, -, rfl, hid⟩ := hothers hba hx
      have hsome : (t₁.nodes e.addr).isSome := by
        rw [hreaches₁.nodes]
        exact hb
      exact hreaches₃.settled (hsettled e hmem hid hsome)

/-! ## Looking up -/

/-- All stores are settled on the descriptor. -/
def AllSettled (p : Publication) (t : Network) : Prop := ∀ b, (t.nodes b).isSome → p.SettledAt t b

lemma Reaches.allSettled (h : p.Reaches t t') (hall : p.AllSettled t) : p.AllSettled t' := by
  intro b hb
  rw [h.nodes] at hb
  exact h.settled (hall b hb)

variable {rk : Hash}

/-- A settled node answers a query with the descriptor. -/
lemma query_ok (hall : p.AllSettled t) (ht : p.Hosts t) (hn : p.Host b n)
    (hrk : rk ∈ p.descriptor.routingKeys) {c : NodeAddr} (hc : (t.nodes c).isSome) :
    ∃ found t', Transport.sendRequest t c (n.valueRequest rk) =
      (some (.findValueResult ⟨some found, none⟩), t') ∧ p.Reaches t t' ∧ p.descriptor ∈ found := by
  obtain ⟨x, hx, hsettled⟩ := hall c hc
  obtain ⟨found, x', hdispatch, hx', hsettled', hmem⟩ :=
    (ht.host hx).findValue hsettled hn hrk t.reads
  rw [← ht.clock] at hdispatch
  exact ⟨found, t.put c x', Network.sendRequest_of_some hx hdispatch,
    ht.put hx hx' fun _ => hsettled', hmem⟩

/-- Queries collect the descriptor, or nothing, and hear of no new nodes. -/
lemma queryNodes_ok (hn : p.Host b n) (hrk : rk ∈ p.descriptor.routingKeys)
    (nodes : List NodeInfo) :
    ∀ {t : Network}, p.AllSettled t → p.Hosts t → ∃ found t',
      n.queryNodes t rk nodes = some (found, [], n, t') ∧ p.Reaches t t' ∧
        (found = [] ∨ p.descriptor ∈ found) := by
  induction nodes with
  | nil =>
    intro t _ ht
    exact ⟨[], t, rfl, .refl ht, .inl rfl⟩
  | cons node nodes ih =>
    intro t hall ht
    by_cases hsome : (t.nodes node.addr).isSome
    · obtain ⟨first, t₁, hquery, hreaches₁, hmem⟩ := query_ok hall ht hn hrk hsome
      obtain ⟨found, t', hrest, hreaches, -⟩ := ih (hreaches₁.allSettled hall) hreaches₁.hosts
      refine ⟨first ++ found, t', ?_, hreaches₁.trans hreaches, .inr (List.mem_append_left _ hmem)⟩
      rw [DhtNode.queryNodes, hquery]
      dsimp only
      rw [Option.getD_none, DhtNode.learnAll, Option.bind_eq_bind, Option.bind_some, hrest]
      rfl
    · obtain ⟨found, t', hrest, hfound⟩ := ih hall ht
      refine ⟨found, t', ?_, hfound⟩
      rw [DhtNode.queryNodes, Network.sendRequest_of_none (Option.not_isSome_iff_eq_none.1 hsome)]
      exact hrest

/-- The loop ends in its first iteration. -/
lemma lookupLoop_ok (hn : p.Host b n) (hrk : rk ∈ p.descriptor.routingKeys)
    (hall : p.AllSettled t) (ht : p.Hosts t) (alpha fuel : ℕ) (candidates : List NodeInfo) :
    ∃ found t', DhtNode.lookupLoop alpha rk (fuel + 1) n t candidates [] = some (found, n, t') ∧
      p.Reaches t t' ∧ (found = [] ∨ p.descriptor ∈ found) := by
  let toQuery := (candidates.filter fun c => c.identity.nodeId ∉ ([] : List Hash)).take alpha
  obtain ⟨found, t', hquery, hreaches, hfound⟩ := queryNodes_ok hn hrk toQuery hall ht
  obtain ⟨sorted, hsort, -⟩ := Fallible.sortBy_of_key (l := candidates ++ [])
    fun e _ e' _ => RoutingTable.distanceCmp_nodes (p.long_keys rk hrk) e e'
  rw [DhtNode.lookupLoop]
  by_cases hempty : toQuery.isEmpty
  · exact ⟨[], t, if_pos hempty, .refl ht, .inl rfl⟩
  · refine ⟨found, t', ?_, hreaches, hfound⟩
    refine (if_neg hempty).trans ?_
    rw [hquery, Option.bind_eq_bind, Option.bind_some]
    dsimp only
    rcases hfound with rfl | hmem
    · rfl
    · have hne : ¬ found.isEmpty := by
        rw [List.isEmpty_iff]
        exact List.ne_nil_of_mem hmem
      rw [if_neg fun h => hne h.2, DhtNode.sortByDistance, hsort, Option.bind_eq_bind,
        Option.bind_some, if_pos hne]
      rfl

/-- The fallback finds the descriptor if some node is there. -/
lemma broadcast_ok (hn : p.Host b n) (hrk : rk ∈ p.descriptor.routingKeys)
    (hall : p.AllSettled t) (ht : p.Hosts t) {nodes : List NodeInfo}
    (hsome : ∃ e ∈ nodes, (t.nodes e.addr).isSome) :
    p.descriptor ∈ (n.broadcast t rk nodes).1 := by
  induction nodes with
  | nil =>
    obtain ⟨e, he, -⟩ := hsome
    cases he
  | cons node nodes ih =>
    by_cases hnode : (t.nodes node.addr).isSome
    · obtain ⟨found, t₁, hquery, -, hmem⟩ := query_ok hall ht hn hrk hnode
      have hne : ¬ found.isEmpty := by
        rw [List.isEmpty_iff]
        exact List.ne_nil_of_mem hmem
      rw [DhtNode.broadcast, hquery]
      dsimp only
      rw [Option.getD_some, if_neg hne]
      exact hmem
    · rw [DhtNode.broadcast, Network.sendRequest_of_none (Option.not_isSome_iff_eq_none.1 hnode)]
      apply ih
      obtain ⟨e, he, hlive⟩ := hsome
      rcases List.mem_cons.1 he with rfl | he
      · exact absurd hlive hnode
      · exact ⟨e, he, hlive⟩

/-- A lookup finds the descriptor if another node is there. -/
lemma lookupValue_ok (hn : p.Host b n) (hrk : rk ∈ p.descriptor.routingKeys)
    (hall : p.AllSettled t) (ht : p.Hosts t) {c : NodeAddr} (hcb : c ≠ b)
    (hc : (t.nodes c).isSome) (alpha fuel : ℕ) :
    ∃ found n' t', n.lookupValue alpha (fuel + 1) t rk = some (found, n', t') ∧
      p.descriptor ∈ found := by
  obtain ⟨initial, hinitial⟩ := Option.isSome_iff_exists.1
    ((RoutingTable.closestNodes_isSome_iff (t := n.routingTable) alpha).2
      (.inr (p.long_keys rk hrk)))
  obtain ⟨found, t', hloop, hreaches, hfound⟩ := lookupLoop_ok hn hrk hall ht alpha fuel initial
  rw [DhtNode.lookupValue, hinitial, Option.bind_eq_bind, Option.bind_some, hloop,
    Option.bind_eq_bind, Option.bind_some]
  dsimp only
  rcases hfound with rfl | hmem
  · rw [if_pos ⟨rfl, hn.table.listing.length_le⟩]
    refine ⟨_, _, _, rfl, broadcast_ok hn hrk (hreaches.allSettled hall) hreaches.hosts ?_⟩
    -- the other node is in the table, at its address
    obtain ⟨x, hx⟩ := Option.isSome_iff_exists.1 hc
    obtain ⟨e, he, -, rfl⟩ := hn.entry (ht.host hx).toResident hcb
    refine ⟨e, he, ?_⟩
    rw [hreaches.nodes]
    exact hc
  · have hne : ¬ found.isEmpty := by
      rw [List.isEmpty_iff]
      exact List.ne_nil_of_mem hmem
    rw [if_neg fun h => hne h.1]
    exact ⟨found, n, t', rfl, hmem⟩

lemma Hosts.without (h : p.Hosts t) (a : NodeAddr) : p.Hosts (t.without a) where
  clock := h.clock
  host := Network.forall_without (fun _ _ => h.host) a _ _

end Publication

/-! ## Complete networks -/

namespace Network

variable [Crypto]

variable [Ciborium]

/-- No descriptor of the network is in the way of publishing another: it is valid, its publisher's
windows have room, and at no key are there too many others for an answer. -/
structure Timely (net : Network) (d : Descriptor) : Prop where
  valid : ∀ k, d.ValidAt (net.clock k)
  unseen : ∀ {a x}, net.nodes a = some x → ∀ k, x.store.allows d.publisher (net.clock k) = true
  room : ∀ {a b x y}, net.nodes a = some x → net.nodes b = some y → ∀ rk k,
    x.store.rivals d rk (net.clock k) + d.routingKeys.count rk ≤ y.config.maxFindValueResults.toNat

variable {net : Network} {d : Descriptor}

/-- A complete network is in place for publishing what its stores have nothing against. -/
lemma Complete.hosts (h : net.Complete) (hd : net.Timely d)
    (hunopposed : ∀ {a x}, net.nodes a = some x → x.store.Unopposed d)
    (hkeys : ∀ rk ∈ d.routingKeys, 32 ≤ rk.digest.length) :
    ∃ p : Publication, p.descriptor = d ∧ p.Hosts net := by
  obtain ⟨known, hsmall, hknown⟩ := h.small
  obtain ⟨r, -, -, hr⟩ := h.toAcquainted.exists_roster hsmall hknown
  refine ⟨{
    toRoster := r
    descriptor := d
    clock := net.clock
    limits := {limit | ∃ b x, net.nodes b = some x ∧ x.config.maxFindValueResults = limit}
    live := fun k => (hd.valid k).fresh
    long_keys := hkeys }, rfl, rfl, ?_⟩
  intro b x hx
  refine ⟨hr hx, ⟨b, x, hx, rfl⟩, .inr ?_, ?_⟩
  · intro k
    apply (hunopposed hx).takes
    exact DescriptorStore.checkStore_ok_iff.2
      ⟨hd.valid k, hd.unseen hx k, (hunopposed hx).notStale⟩
  · rintro limit ⟨c, y, hy, rfl⟩ rk k
    exact hd.room hx hy rk k

/-- In a complete small network, what one node publishes any node with another one discovers, for
each of its routing keys, unless a store has something against it. -/
theorem lookupValue_iterativeStore (h : net.Complete) (hd : net.Timely d)
    (hunopposed : ∀ {a x}, net.nodes a = some x → x.store.Unopposed d)
    (hkeys : ∀ rk ∈ d.routingKeys, 32 ≤ rk.digest.length) {a b c : NodeAddr}
    (ha : (net.nodes a).isSome) (hb : (net.nodes b).isSome) (hc : (net.nodes c).isSome)
    (hcb : c ≠ b) (alpha beta : ℕ) :
    ∃ stored net', net.iterativeStore alpha a d = some (stored, net') ∧
      ∀ rk ∈ d.routingKeys, ∀ fuel, ∃ found net'',
        net'.lookupValue beta (fuel + 1) b rk = some (found, net'') ∧ d ∈ found := by
  obtain ⟨p, rfl, hp⟩ := h.hosts hd hunopposed hkeys
  obtain ⟨n, hn⟩ := Option.isSome_iff_exists.1 ha
  have hne : 0 < p.descriptor.routingKeys.length := (hd.valid 0).inBounds.routingKeys_pos
  -- the other stores are settled by STOREs, and that of the publisher by its own
  obtain ⟨stored, n', t, hstore, hn', hreaches, hothers⟩ :=
    Publication.storeAtKeys_ok alpha p.descriptor.routingKeys p.long_keys (hp.host hn)
      (hp.without a)
  obtain ⟨hstocked, hsettled⟩ := hn'.stocked.store t.reads
  let n'' : Peer :=
    { n' with store := (n'.store.storeDescriptorAt p.descriptor (p.clock t.reads)).2 }
  have hn'' : p.Host a n'' := ⟨⟨hn'.home, hn'.addr, hn'.hooks, hn'.table⟩, hn'.limit, hstocked⟩
  have hpublish : net.iterativeStore alpha a p.descriptor = some (stored, t.put a n'') := by
    rw [iterativeStore, hn, Option.bind_eq_bind, Option.bind_some, DhtNode.iterativeStore, hstore]
    simp only [Option.bind_eq_bind, Option.bind_some]
    rw [now, hreaches.hosts.clock]
    rfl
  have hpeers : p.Hosts (t.put a n'') := hreaches.hosts.put_host hn''
  refine ⟨stored, t.put a n'', hpublish, ?_⟩
  have hsame : ∀ e, ((t.put a n'').nodes e).isSome = (net.nodes e).isSome := by
    intro e
    by_cases hea : e = a
    · rw [hea, put_nodes_self, ha]
      rfl
    · rw [put_nodes_of_ne hea, hreaches.nodes, without_nodes_of_ne hea]
  have hall : p.AllSettled (t.put a n'') := by
    intro e he
    by_cases hea : e = a
    · exact ⟨n'', by rw [hea, put_nodes_self], hsettled⟩
    · rw [hsame] at he
      obtain ⟨x, hx, hxsettled⟩ := hothers (List.ne_nil_of_length_pos hne) e hea
        (by rwa [without_nodes_of_ne hea])
      exact ⟨x, by rwa [put_nodes_of_ne hea], hxsettled⟩
  -- the node that looks up asks the others
  intro rk hrk fuel
  rw [← hsame] at hb hc
  obtain ⟨m, hm⟩ := Option.isSome_iff_exists.1 hb
  have hrest : p.AllSettled ((t.put a n'').without b) := by
    intro e he
    have heb : e ≠ b := by
      rintro rfl
      rw [without_nodes_self] at he
      cases he
    rw [without_nodes_of_ne heb] at he
    obtain ⟨x, hx, hxsettled⟩ := hall e he
    exact ⟨x, by rwa [without_nodes_of_ne heb], hxsettled⟩
  obtain ⟨found, m', t', hlookup, hmem⟩ :=
    Publication.lookupValue_ok (hpeers.host hm) hrk hrest (hpeers.without b) hcb
      (by rwa [without_nodes_of_ne hcb]) beta fuel
  refine ⟨found, t'.put b m', ?_, hmem⟩
  rw [lookupValue, hm, Option.bind_eq_bind, Option.bind_some, hlookup]
  rfl

/-! ### Concrete networks -/

/-- A node without hooks that knows the given members. -/
def acquainted (store : DescriptorStore) (known : List (Identity × NodeAddr))
    (member : Identity × NodeAddr) : Peer :=
  known.foldl (fun n other => (n.learn ⟨other.1, other.2, 0⟩).getD n)
    (.withStore member.1 member.2 {} store)

/-- The network of the given members, all with one store, that also know some nodes that are gone.
The clock stands still. -/
def ofMembers (store : DescriptorStore) (members gone : List (Identity × NodeAddr)) (now : UInt64) :
    Network where
  nodes a := (members.find? fun m => m.2 = a).map (acquainted store (members ++ gone))
  clock _ := now
  reads := 0

/-- The members know each other. -/
def MembersAgree (store : DescriptorStore) (members gone : List (Identity × NodeAddr)) : Prop :=
  ∀ m ∈ members, (acquainted store (members ++ gone) m).addr = m.2 ∧
    (acquainted store (members ++ gone) m).hooks.isNone ∧
    ∀ m' ∈ members, m.2 ≠ m'.2 → ∃ e ∈ (acquainted store (members ++ gone) m).routingTable.allNodes,
      e.identity = (acquainted store (members ++ gone) m').identity ∧ e.addr = m'.2

instance (store : DescriptorStore) (members gone : List (Identity × NodeAddr)) :
    Decidable (MembersAgree store members gone) :=
  List.decidableBAll _ _

/-- The members know nobody else, and are few. -/
def MembersFew (store : DescriptorStore) (members : List (Identity × NodeAddr)) : Prop :=
  members.length ≤ K ∧ ∀ m ∈ members,
    (acquainted store members m).identity ∈ members.map Prod.fst ∧
    ∀ e ∈ (acquainted store members m).routingTable.allNodes, e.identity ∈ members.map Prod.fst

instance (store : DescriptorStore) (members : List (Identity × NodeAddr)) :
    Decidable (MembersFew store members) :=
  inferInstanceAs (Decidable (_ ∧ _))

section Members

variable {store : DescriptorStore} {members gone : List (Identity × NodeAddr)} {now : UInt64}

omit [Ciborium] in
lemma nodes_ofMembers {a : NodeAddr} {x : Peer}
    (h : (ofMembers store members gone now).nodes a = some x) :
    ∃ m ∈ members, m.2 = a ∧ acquainted store (members ++ gone) m = x := by
  obtain ⟨m, hm, rfl⟩ := Option.map_eq_some_iff.1 h
  exact ⟨m, List.mem_of_find?_eq_some hm, by simpa using List.find?_some hm, rfl⟩

omit [Ciborium] in
lemma acquainted_ofMembers (h : MembersAgree store members gone) (now : UInt64) :
    (ofMembers store members gone now).Acquainted where
  addr_eq hx := by
    obtain ⟨m, hm, rfl, rfl⟩ := nodes_ofMembers hx
    exact (h m hm).1
  no_hooks hx := by
    obtain ⟨m, hm, rfl, rfl⟩ := nodes_ofMembers hx
    exact Option.isNone_iff_eq_none.1 (h m hm).2.1
  knows hab hx hy := by
    obtain ⟨m, hm, rfl, rfl⟩ := nodes_ofMembers hx
    obtain ⟨m', hm', rfl, rfl⟩ := nodes_ofMembers hy
    exact (h m hm).2.2 m' hm' hab

omit [Ciborium] in
lemma complete_ofMembers (h : MembersAgree store members []) (hfew : MembersFew store members)
    (now : UInt64) : (ofMembers store members [] now).Complete where
  toAcquainted := acquainted_ofMembers h now
  small := by
    refine ⟨members.map Prod.fst, by rw [List.length_map]; exact hfew.1, ?_⟩
    intro a x hx
    obtain ⟨m, hm, rfl, rfl⟩ := nodes_ofMembers hx
    rw [List.append_nil]
    exact hfew.2 m hm

omit [Ciborium] in
/-- Learning of nodes changes neither store, configuration nor identity. -/
lemma acquainted_store (store : DescriptorStore) (members : List (Identity × NodeAddr))
    (m : Identity × NodeAddr) : (acquainted store members m).store = store ∧
      (acquainted store members m).config = {} ∧ (acquainted store members m).identity = m.1 := by
  apply List.foldlRecOn (motive := fun n : Peer =>
    n.store = store ∧ n.config = {} ∧ n.identity = m.1)
  · exact ⟨rfl, rfl, rfl⟩
  · intro n hn other _
    cases hlearn : n.learn ⟨other.1, other.2, 0⟩ with
    | none => exact hn
    | some n' =>
      have hlearned := DhtNode.learned_of_learn hlearn
      exact ⟨hlearned.store.trans hn.1, hlearned.config.trans hn.2.1,
        hlearned.identity.trans hn.2.2⟩

omit [Ciborium] in
lemma timely_ofMembers (hvalid : d.ValidAt now) (hunseen : store.allows d.publisher now = true)
    (hroom : ∀ rk, store.rivals d rk now + d.routingKeys.count rk ≤ 20) :
    (ofMembers store members gone now).Timely d where
  valid _ := hvalid
  unseen hx _ := by
    obtain ⟨m, -, -, rfl⟩ := nodes_ofMembers hx
    rw [(acquainted_store store _ m).1]
    exact hunseen
  room hx hy rk _ := by
    obtain ⟨m, -, -, rfl⟩ := nodes_ofMembers hx
    obtain ⟨m', -, -, rfl⟩ := nodes_ofMembers hy
    rw [(acquainted_store store _ m).1, (acquainted_store store _ m').2.1]
    exact hroom rk

end Members

lemma lookupValue_mono {alpha fuel : ℕ} {net net' : Network} {a : NodeAddr} {key : Hash}
    {found : List Descriptor} (h : net.lookupValue alpha fuel a key = some (found, net'))
    (more : ℕ) : net.lookupValue alpha (fuel + more) a key = some (found, net') := by
  obtain ⟨n, hn, h⟩ := Option.bind_eq_some_iff.1 h
  obtain ⟨out, hlookup, h⟩ := Option.bind_eq_some_iff.1 h
  rw [lookupValue, hn, Option.bind_eq_bind, Option.bind_some,
    DhtNode.lookupValue_mono hlookup more, Option.bind_eq_bind, Option.bind_some]
  exact h

end Network

open Network

/-- The next version of `target`. -/
def laterTarget : Descriptor where
  schemaHash := capabilitySchema
  topic := ""
  payload := []
  publisher := secondPublisher
  timestamp := 1700000000000000
  sequence := 2
  ttl := 3600
  routingKeys := [computeKey]
  id := hashOf 0xa62075c589f9d8832554075d230486ac2acc996f22052faadaab9b457902b0c6
  signature := beBytes 64
    0x652802cdfedbd0399d0ec2a56c0b63cae1a0be88f5d90bf259a8abf40f805ffa08a050797f71ddca5e3c2fc52dbacea982093a2e739110c55e4a499865d55709

/-- A capability whose routing key has a digest of one byte. -/
def shortKeyed : Descriptor where
  schemaHash := capabilitySchema
  topic := ""
  payload := []
  publisher := secondPublisher
  timestamp := 1700000000000000
  sequence := 1
  ttl := 3600
  routingKeys := [⟨ALG_BLAKE3, [1]⟩]
  id := hashOf 0xf69a3e5620326f9329a9a03841705e23e6fcd7f9f637330d44243004d5ae7f4b
  signature := beBytes 64
    0xfe4e09ec4a8ccb8d3d7a184ce0a5a907fd1e7e287a096fbc1a77b73ea8f8500d086230c2f01963fa97b7da17053594db7c1fc57b95c6efea0f3c72bff68f4406

def threeMembers : List (Identity × NodeAddr) :=
  [(firstPublisher, .quic "first:4433"), (secondPublisher, .quic "second:4433"),
    (thirdPublisher, .quic "third:4433")]

/-- Nodes that have left, with the little-endian numbers from 1 as their keys. -/
def goneMembers : List (Identity × NodeAddr) :=
  (List.range 20).map fun n =>
    (⟨ALG_ED25519, .ofNat (n + 1) :: List.replicate 31 0⟩, .quic "gone:4433")

/-- The digests of their keys. -/
def goneDigests : List ℕ := [
  0x8ee11e0aca1a89ddf26bb00dd583b588af705066515a4b85cb3b2d70d8897bb8,
  0x8290b92564511f45b913664b63815ca3e834d3914e51e35c78c46e963caf36b2,
  0x0c405c0c2a7d47a92132d20aeca4336320bbb115e2910f7afefe8381c54e97ea,
  0x02dbcc15790b9dfe36bf3fc96c081843d6c3b76329b214ecfd45efe624c828d9,
  0xaab12253f9fd9b2eb0ca948df5ef0b256ae7596286ee9602c77cd269555d6f8d,
  0x7a52198b688858ff42a908d719f41c14e3da617c3f347a807015ba1c5d18897a,
  0x32c7aa5e599c594b021e535bbc48e913416126b9122aa5706eedfe8aaddee7eb,
  0x10535ceffd4ad551cb0bf86ce664b0a4c83e98abfdcf81c2e7c9b906e7117081,
  0x8bc55245dce988a271722e6b9f9475a670771e5b18ac76d7d69171e558412af5,
  0xa9b7ed0605d25c72399eb79c8ccf29727d67d96ef259becb20f9e544c9579bad,
  0x34a95913f6584f315e6e69c3ad141fb48dd4d6f7d95d55527191e8d4cd9cf825,
  0x6958c8cc54450200d36076d60f07249b313bbdb426cb22a456c953fd1532439d,
  0xca9d8771c104a0f0e693c1eb46ea31638f172eba9e56c22d43eb163df9efba30,
  0x865f674c86ac3831f049468d1b7526fc13a94cd2560e6492ed0a3d4f67f830ca,
  0x16d2bf28bda4059a312177f430ef25160fc2462bcd3c1bc1f074602bf8f2bbd8,
  0xc48917c745a9c97a79055d3fb8a01964a8ea3c61d73ce0cd1c061d9f5479791b,
  0xe328d8afe49b8df32d31b5d8025a4fb4d1c86fef1552e0aa00ee0a784fa88528,
  0x92e7273dfa4cb095a6a186b09d06feb6767a90c22285ffe0ffa92575ff62b948,
  0x1e68862ef99c525dfaeea606fd8b99b122f6608eed1a3c13aaf1efaff78b2e04,
  0x48b1275eebce348b78321fa75dc05844afeea72bb091fe4a3a4f49fb8f723fbe]

@[reducible] def publishedCrypto : Crypto :=
  tableCrypto
    (((knownDigests ++ [target, laterTarget, shortKeyed].map fun d =>
        (d.canonicalBytes, beNat d.id.digest)) ++
      goneMembers.zipWith (fun m n => (m.1.publicKey, n)) goneDigests).map
      fun (bytes, digest) => (bytes, digestOf digest))
    ([target, laterTarget, shortKeyed].map
      fun d => (d.publisher.publicKey, d.id.digest, d.signature))

/-- An empty store has no rivals. -/
lemma rivals_new (d : Descriptor) (rk : Hash) (now : UInt64) :
    DescriptorStore.new.rivals d rk now = 0 := by
  simp [DescriptorStore.rivals, DescriptorStore.new]

lemma room_new {d : Descriptor} {now : UInt64} (h : d.routingKeys.length ≤ 20) (rk : Hash) :
    DescriptorStore.new.rivals d rk now + d.routingKeys.count rk ≤ 20 := by
  have hcount : d.routingKeys.count rk ≤ d.routingKeys.length := List.count_le_length
  rw [rivals_new]
  omega

/-- Of two nodes with empty stores the second finds what the first publishes. -/
theorem target_discovered :
    letI : Crypto := publishedCrypto
    letI : Ciborium := referenceCiborium
    (∃ stored net', (ofMembers .new (threeMembers.take 2) [] 1700000000000000).iterativeStore 3
        (.quic "first:4433") target = some (stored, net') ∧
      ∀ rk ∈ target.routingKeys, ∀ fuel, ∃ found net'',
        net'.lookupValue 3 (fuel + 1) (.quic "second:4433") rk = some (found, net'') ∧
          target ∈ found) := by
  let _ : Crypto := publishedCrypto
  let _ : Ciborium := referenceCiborium
  have hvalid : target.ValidAt 1700000000000000 :=
    Descriptor.validate_eq_ok_iff.1 (by decide +kernel)
  have hunopposed : DescriptorStore.new.Unopposed target := by
    refine ⟨by simp [DescriptorStore.new], by simp [DescriptorStore.new], ?_, ?_⟩
    · intro hschema
      exact absurd hschema (by decide +kernel)
    · intro hschema
      exact absurd hschema (by decide +kernel)
  refine lookupValue_iterativeStore (c := .quic "first:4433") (complete_ofMembers ?_ ?_ _)
    (timely_ofMembers hvalid ?_ (room_new ?_)) ?_ ?_ ?_ ?_ ?_ ?_ 3 3
  case refine_5 =>
    intro a x hx
    obtain ⟨m, -, -, rfl⟩ := nodes_ofMembers hx
    rw [(acquainted_store _ _ _).1]
    exact hunopposed
  all_goals decide +kernel

/-- Published but not discovered: a version that two nodes already know to be superseded, a
descriptor with a short key among three nodes, where publishing panics, and one among two nodes that
know twenty others which are gone. -/
theorem laterTarget_found_instead :
    letI : Crypto := publishedCrypto
    letI : Ciborium := referenceCiborium
    (∃ net : Network, net.Complete ∧ net.Timely target ∧
      (net.nodes (.quic "first:4433")).isSome ∧ (net.nodes (.quic "second:4433")).isSome ∧
      ∃ stored net', net.iterativeStore 3 (.quic "first:4433") target = some (stored, net') ∧
        ∀ fuel, ∃ net'', net'.lookupValue 3 (fuel + 1) (.quic "second:4433") computeKey =
          some ([laterTarget], net'')) ∧
    (∃ net : Network, net.Complete ∧ net.Timely shortKeyed ∧
      (net.nodes (.quic "first:4433")).isSome ∧
      net.iterativeStore 3 (.quic "first:4433") shortKeyed = none) ∧
    ∃ net : Network, net.Acquainted ∧ net.Timely target ∧
      (net.nodes (.quic "first:4433")).isSome ∧ (net.nodes (.quic "second:4433")).isSome ∧
      ∃ stored net', net.iterativeStore 3 (.quic "first:4433") target = some (stored, net') ∧
        ∀ fuel, ∃ net'', net'.lookupValue 3 (fuel + 1) (.quic "first:4433") computeKey =
          some ([], net'') := by
  let _ : Crypto := publishedCrypto
  let _ : Ciborium := referenceCiborium
  -- what one round finds, any number of rounds finds
  have hlookups : ∀ {net : Network} {b : NodeAddr} {found : List Descriptor},
      (net.iterativeStore 3 (.quic "first:4433") target).bind
          (fun r => (r.2.lookupValue 3 1 b computeKey).map Prod.fst) = some found →
        ∃ stored net', net.iterativeStore 3 (.quic "first:4433") target = some (stored, net') ∧
          ∀ fuel, ∃ net'', net'.lookupValue 3 (fuel + 1) b computeKey = some (found, net'') := by
    intro net b found hrun
    obtain ⟨⟨stored, net'⟩, hstore, hlookup⟩ := Option.bind_eq_some_iff.1 hrun
    obtain ⟨⟨listed, net''⟩, hlisted, heq⟩ := Option.map_eq_some_iff.1 hlookup
    obtain rfl : listed = found := heq
    refine ⟨stored, net', hstore, fun fuel => ⟨net'', ?_⟩⟩
    rw [Nat.add_comm]
    exact lookupValue_mono hlisted fuel
  -- the newer version was stored a hundred seconds before
  let store : DescriptorStore :=
    (DescriptorStore.new.storeDescriptorAt laterTarget 1700000000000000).2
  have hslot : DedupKey.fromDescriptor target = DedupKey.fromDescriptor laterTarget := rfl
  have hroom :
      ∀ rk, store.rivals target rk 1700000100000000 + target.routingKeys.count rk ≤ 20 := by
    intro rk
    have htakes : DescriptorStore.new.Takes laterTarget 1700000000000000 :=
      ⟨by decide +kernel, by decide +kernel⟩
    have hrivals : store.rivals target rk 1700000100000000 ≤ 0 :=
      calc store.rivals target rk 1700000100000000
          = store.rivals laterTarget rk 1700000100000000 := by
            rw [DescriptorStore.rivals, DescriptorStore.rivals, hslot]
        _ ≤ DescriptorStore.new.rivals laterTarget rk 1700000100000000 := htakes.settled.2 rk _
        _ = 0 := rivals_new _ _ _
    have hcount : target.routingKeys.count rk ≤ 1 := List.count_le_length
    omega
  have hvalid : target.ValidAt 1700000100000000 :=
    Descriptor.validate_eq_ok_iff.1 (by decide +kernel)
  have hshort : shortKeyed.ValidAt 1700000000000000 :=
    Descriptor.validate_eq_ok_iff.1 (by decide +kernel)
  refine ⟨⟨ofMembers store (threeMembers.take 2) [] 1700000100000000,
      complete_ofMembers ?_ ?_ _, timely_ofMembers hvalid ?_ hroom, ?_, ?_, hlookups ?_⟩,
    ⟨ofMembers .new threeMembers [] 1700000000000000, complete_ofMembers ?_ ?_ _,
      timely_ofMembers hshort ?_ (room_new ?_), ?_, Option.isNone_iff_eq_none.1 ?_⟩,
    ⟨ofMembers .new (threeMembers.take 2) goneMembers 1700000100000000, acquainted_ofMembers ?_ _,
      timely_ofMembers hvalid ?_ (room_new ?_), ?_, ?_, hlookups ?_⟩⟩
  all_goals decide +kernel

end MeshProtocol
