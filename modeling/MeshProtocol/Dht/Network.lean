import MeshProtocol.Dht.Lookup

/-!
# Networks of nodes (`mesh-dht/src/node.rs`)

A network is the nodes at their addresses; a transport over it hands a request to the handler of the
node at the address and returns the answer.

A `Roster` says who is in a network and whom its nodes may know.  As long as every node knows every
other one and nobody beyond the roster, a FIND_NODE round finds nothing new.
-/

namespace MeshProtocol

/-- A node with the in-memory store. -/
abbrev Peer [Crypto] := DhtNode DescriptorStore NoOpHook

/-- The nodes of a network, and the readings their clock still has to give. -/
structure Network [Crypto] where
  nodes : NodeAddr → Option Peer
  clock : ℕ → UInt64
  reads : ℕ

namespace Network

variable [Crypto]

/-- The reading of the clock that is next. -/
def now (t : Network) : UInt64 := t.clock t.reads

/-- The network with the node at an address replaced, after a reading of the clock. -/
def put (t : Network) (b : NodeAddr) (x : Peer) : Network :=
  { t with nodes := Function.update t.nodes b (some x), reads := t.reads + 1 }

/-- The network without the node at an address, which talks to the others on its own behalf: a
request to itself would find it busy. -/
def without (t : Network) (b : NodeAddr) : Network :=
  { t with nodes := Function.update t.nodes b none }

@[simp] lemma put_nodes_self (t : Network) (b : NodeAddr) (x : Peer) :
    (t.put b x).nodes b = some x := Function.update_self _ _ _

lemma put_nodes_of_ne {b c : NodeAddr} (h : c ≠ b) (t : Network) (x : Peer) :
    (t.put b x).nodes c = t.nodes c := Function.update_of_ne h _ _

@[simp] lemma without_nodes_self (t : Network) (b : NodeAddr) : (t.without b).nodes b = none :=
  Function.update_self _ _ _

lemma without_nodes_of_ne {b c : NodeAddr} (h : c ≠ b) (t : Network) :
    (t.without b).nodes c = t.nodes c := Function.update_of_ne h _ _

section ForAll

variable {t : Network} {P : NodeAddr → Peer → Prop}

/-- What holds of every node, and of the one put in, holds of every node afterwards. -/
lemma forall_put (h : ∀ c y, t.nodes c = some y → P c y) {b : NodeAddr} {x : Peer} (hx : P b x) :
    ∀ c y, (t.put b x).nodes c = some y → P c y := by
  intro c y hy
  by_cases hcb : c = b
  · subst hcb
    rw [put_nodes_self, Option.some.injEq] at hy
    exact hy ▸ hx
  · rw [put_nodes_of_ne hcb] at hy
    exact h c y hy

lemma forall_without (h : ∀ c y, t.nodes c = some y → P c y) (b : NodeAddr) :
    ∀ c y, (t.without b).nodes c = some y → P c y := by
  intro c y hy
  by_cases hcb : c = b
  · rw [hcb, without_nodes_self] at hy
    cases hy
  · rw [without_nodes_of_ne hcb] at hy
    exact h c y hy

end ForAll

variable [Ciborium]

/-- Hands a request to the node at the address; there is no answer without a node, or from a handler
that panics. -/
def deliver (t : Network) (addr : NodeAddr) (request : Request) : Option Response × Network :=
  match t.nodes addr with
  | none => (none, t)
  | some x =>
    match x.dispatchRequest request (some request.sender) t.now with
    | none => (none, { t with reads := t.reads + 1 })
    | some (resp, x) => (resp, t.put addr x)

instance : Transport Network where
  sendRequest := deliver

/-- `iterative_store` at the node of an address. -/
def iterativeStore (alpha : ℕ) (t : Network) (a : NodeAddr) (d : Descriptor) :
    Option (ℕ × Network) := do
  let n ← t.nodes a
  let (totalStored, n, t) ← n.iterativeStore alpha now (t.without a) d
  return (totalStored, t.put a n)

/-- `lookup_value` at the node of an address. -/
def lookupValue (alpha fuel : ℕ) (t : Network) (a : NodeAddr) (key : Hash) :
    Option (List Descriptor × Network) := do
  let n ← t.nodes a
  let (found, n, t) ← n.lookupValue alpha fuel (t.without a) key
  return (found, t.put a n)

variable {t : Network} {b : NodeAddr}

lemma sendRequest_of_none (hb : t.nodes b = none) (request : Request) :
    Transport.sendRequest t b request = (none, t) := by
  change t.deliver b request = _
  rw [deliver, hb]

lemma sendRequest_of_some {request : Request} {resp : Option Response} {x x' : Peer}
    (hx : t.nodes b = some x)
    (hdispatch : x.dispatchRequest request (some request.sender) t.now = some (resp, x')) :
    Transport.sendRequest t b request = (resp, t.put b x') := by
  change t.deliver b request = _
  rw [deliver, hx]
  dsimp only
  rw [hdispatch]

end Network

/-! ## Rosters -/

/-- The identities that the nodes of a network may know, and the identity at each address. -/
structure Roster where
  known : List Identity
  homes : NodeAddr → Option Identity
  small : known.length ≤ K
  homes_known : ∀ {b i}, homes b = some i → i ∈ known
  homes_unique : ∀ {b c i}, homes b = some i → homes c = some i → b = c

namespace Roster

/-- A node entry names a known identity, and its address if it is one of the network's. -/
structure Names (r : Roster) (e : NodeInfo) : Prop where
  known : e.identity ∈ r.known
  addr : ∀ {b}, r.homes b = some e.identity → e.addr = b

/-- Entries without an identity twice. -/
structure Listing (r : Roster) (l : List NodeInfo) : Prop where
  names : ∀ e ∈ l, r.Names e
  nodup : (l.map NodeInfo.identity).Nodup

variable {r : Roster} {l l' : List NodeInfo}

lemma Listing.length_le (h : r.Listing l) : l.length ≤ K := by
  have hsubset : l.map NodeInfo.identity ⊆ r.known := by
    intro i hi
    obtain ⟨e, he, rfl⟩ := List.mem_map.1 hi
    exact (h.names e he).known
  calc l.length = (l.map NodeInfo.identity).length := List.length_map _ |>.symm
    _ ≤ r.known.length := (List.subperm_of_subset h.nodup hsubset).length_le
    _ ≤ K := r.small

lemma Listing.append_new (h : r.Listing l) {e : NodeInfo} (he : r.Names e)
    (hnew : ∀ e' ∈ l, e'.identity ≠ e.identity) : r.Listing (l ++ [e]) where
  names e' he' := by
    rcases List.mem_append.1 he' with hold | hnew
    · exact h.names e' hold
    · obtain rfl := List.mem_singleton.1 hnew
      exact he
  nodup := by
    apply KBucket.nodup_append_new h.nodup
    rintro ⟨e', he', hid⟩
    exact hnew e' he' hid

lemma Listing.perm (h : r.Listing l) (hperm : l'.Perm l) : r.Listing l' where
  names e he := h.names e (hperm.mem_iff.1 he)
  nodup := (hperm.map _).nodup_iff.2 h.nodup

variable [Crypto]

/-- The routing table of the node with an identity names the network's other nodes. -/
structure Table (r : Roster) (owner : Identity) (t : RoutingTable) : Prop where
  names : ∀ e ∈ t.allNodes, r.Names e
  complete : ∀ {b i}, r.homes b = some i → i ≠ owner → ∃ e ∈ t.allNodes, e.identity = i

lemma Table.listing {owner : Identity} {t : RoutingTable} (h : r.Table owner t) :
    r.Listing t.allNodes := ⟨h.names, t.nodup_allNodes⟩

/-- Adding a node of the network, or one that is known, cannot fill a bucket. -/
lemma Table.addNode {owner : Identity} {t t' : RoutingTable} {node : NodeInfo}
    {result : AddNodeResult} (h : r.Table owner t) (hnode : r.Names node)
    (hadd : t.addNode node = some (result, t')) : r.Table owner t' := by
  cases hplace : bucketFor t.localId node.identity.nodeId with
  | none =>
    unfold RoutingTable.addNode at hadd
    split at hadd
    case h_1 => cases hadd
    case h_2 hlocal => cases hplace.symm.trans hlocal
    case h_3 hbucket => cases hplace.symm.trans hbucket
  | some place =>
    cases place with
    | none =>
      rw [RoutingTable.addNode_of_local hplace] at hadd
      obtain ⟨-, rfl⟩ := Prod.mk.inj (Option.some.inj hadd)
      exact h
    | some i =>
      have hroom : (∃ e ∈ t.allNodes, e.identity = node.identity) ∨
          t.buckets[i].entries.length < K := by
        by_cases hmem : ∃ e ∈ t.allNodes, e.identity = node.identity
        · exact .inl hmem
        · have hlist := h.listing.append_new hnode fun e he hid => hmem ⟨e, he, hid⟩
          have hle := hlist.length_le
          rw [List.length_append, List.length_singleton] at hle
          have hbucket := t.length_bucket_le i
          exact .inr (by omega)
      have hmem := fun e => RoutingTable.mem_allNodes_addNode hadd hplace hroom (e := e)
      constructor
      · intro e he
        obtain rfl | ⟨hold, -⟩ := (hmem e).1 he
        · exact hnode
        · exact h.names e hold
      · intro b i hb hi
        obtain ⟨e, he, rfl⟩ := h.complete hb hi
        by_cases hid : e.identity = node.identity
        · exact ⟨node, (hmem node).2 (.inl rfl), hid.symm⟩
        · exact ⟨e, (hmem e).2 (.inr ⟨he, hid⟩), rfl⟩

/-! ### Residents -/

/-- A node of the network at its address. -/
structure Resident (r : Roster) (b : NodeAddr) (x : Peer) : Prop where
  home : r.homes b = some x.identity
  addr : x.addr = b
  hooks : x.hooks = none
  table : r.Table x.identity x.routingTable

namespace Resident

variable {a b : NodeAddr} {n x : Peer}

lemma identity_eq {x' : Peer} (h : r.Resident b x) (h' : r.Resident b x') :
    x'.identity = x.identity :=
  Option.some.inj (h'.home.symm.trans h.home)

/-- Every other node of the network has its address in the table. -/
lemma entry (hn : r.Resident a n) (h : r.Resident b x) (hba : b ≠ a) :
    ∃ e ∈ n.routingTable.allNodes, e.identity = x.identity ∧ e.addr = b := by
  have hother : x.identity ≠ n.identity := by
    intro heq
    exact hba (r.homes_unique h.home (heq ▸ hn.home))
  obtain ⟨e, he, hid⟩ := hn.table.complete h.home hother
  exact ⟨e, he, hid, (hn.table.names e he).addr (hid ▸ h.home)⟩

/-- A node names itself truthfully. -/
lemma names_self (h : r.Resident b x) (clock : UInt64) : r.Names ⟨x.identity, x.addr, clock⟩ where
  known := r.homes_known h.home
  addr := by
    intro c hc
    exact h.addr.trans (r.homes_unique h.home hc)

/-- Learning of a known node keeps the node in place. -/
lemma learn (h : r.Resident b x) {node : NodeInfo} (hnode : r.Names node) :
    ∃ x', x.learn node = some x' ∧ r.Resident b x' ∧ x'.store = x.store ∧ x'.config = x.config := by
  obtain ⟨x', hlearn⟩ := Option.isSome_iff_exists.1 (x.learn_isSome node)
  obtain ⟨hidentity, haddr, hstore, hconfig, hhooks, result, hadd⟩ :=
    DhtNode.learned_of_learn hlearn
  refine ⟨x', hlearn, ⟨?_, haddr.trans h.addr, hhooks.trans h.hooks, ?_⟩, hstore, hconfig⟩
  · rw [hidentity]
    exact h.home
  · rw [hidentity]
    exact h.table.addNode hnode hadd

/-- The table has a known identity for each entry, and not the node's own. -/
lemma nodup_known (h : r.Resident b x) :
    (x.identity :: x.routingTable.allNodes.map NodeInfo.identity).Nodup ∧
      x.identity :: x.routingTable.allNodes.map NodeInfo.identity ⊆ r.known := by
  constructor
  · refine List.nodup_cons.2 ⟨fun hmem => ?_, h.table.listing.nodup⟩
    obtain ⟨e, he, hid⟩ := List.mem_map.1 hmem
    have hne := RoutingTable.nodeId_ne_localId he
    rw [x.localId_eq, hid] at hne
    exact hne rfl
  · refine List.cons_subset.2 ⟨r.homes_known h.home, fun i hi => ?_⟩
    obtain ⟨e, he, rfl⟩ := List.mem_map.1 hi
    exact (h.table.names e he).known

lemma length_lt_known (h : r.Resident b x) : x.routingTable.allNodes.length < r.known.length := by
  have hle := (List.subperm_of_subset h.nodup_known.1 h.nodup_known.2).length_le
  rwa [List.length_cons, List.length_map] at hle

/-- The nodes closest to a key can be sorted where the key is long enough or there is nothing to
compare. -/
lemma closestNodes_isSome (h : r.Resident b x) {key : Hash}
    (hkey : 32 ≤ key.digest.length ∨ r.known.length ≤ 2) :
    (x.routingTable.closestNodes key K).isSome := by
  have hlt := h.length_lt_known
  exact (RoutingTable.closestNodes_isSome_iff K).2 (hkey.symm.imp_left fun hpair => by omega)

variable [Ciborium]

/-- FIND_NODE is answered with known nodes, the asking one among them. -/
lemma findNode (hx : r.Resident b x) (hn : r.Resident a n) {key : Hash}
    (hkey : 32 ≤ key.digest.length ∨ r.known.length ≤ 2) (clock : UInt64) : ∃ result x',
      x.dispatchRequest (.findNode ⟨n.identity, n.addr, key⟩) (some n.identity) clock =
        some (some (.findNodeResult result), x') ∧
      r.Resident b x' ∧ x'.store = x.store ∧ x'.config = x.config ∧
        (∀ e ∈ result.nodes, r.Names e) ∧
      (a ≠ b → ∃ e ∈ result.nodes, e.identity = n.identity) := by
  obtain ⟨x₁, hlearn, hx₁, hstore, hconfig⟩ := hx.learn (hn.names_self clock)
  obtain ⟨nodes, hclosest⟩ := Option.isSome_iff_exists.1 (hx₁.closestNodes_isSome hkey)
  have hperm := RoutingTable.closestNodes_perm hclosest hx₁.table.listing.length_le
  have hbinding : verifySenderBinding n.identity (some n.identity) = .ok () :=
    verifySenderBinding_eq_ok_iff.2 rfl
  let answer : List NodeInfo :=
    if (∀ node ∈ nodes, node.identity ≠ x₁.identity) ∧ nodes.length < K
      then nodes ++ [⟨x₁.identity, x₁.addr, clock⟩] else nodes
  have hanswer : ∀ e, e ∈ nodes → e ∈ answer := by
    intro e he
    dsimp only [answer]
    split_ifs
    · exact List.mem_append_left _ he
    · exact he
  refine ⟨⟨answer⟩, x₁, ?_, hx₁, hstore, hconfig, ?_, ?_⟩
  · rw [DhtNode.dispatchRequest, Request.sender, hbinding, DhtNode.handleFindNode,
      DhtNode.updateRoutingTable, hlearn]
    simp only [Option.bind_eq_bind, Option.bind_some, hclosest]
    rfl
  · have hnames : ∀ e ∈ nodes, r.Names e := fun e he => hx₁.table.names e (hperm.mem_iff.1 he)
    intro e he
    dsimp only [answer] at he
    split_ifs at he
    · rcases List.mem_append.1 he with hold | hself
      · exact hnames e hold
      · obtain rfl := List.mem_singleton.1 hself
        exact hx₁.names_self clock
    · exact hnames e he
  · intro hab
    obtain ⟨e, he, hid, -⟩ := hx₁.entry hn hab
    exact ⟨e, hanswer e (hperm.mem_iff.2 he), hid⟩

/-- STORE is answered with what the store says. -/
lemma store (hx : r.Resident b x) (hn : r.Resident a n) (d : Descriptor) (clock : UInt64) :
    ∃ ack x', x.dispatchRequest (.store ⟨n.identity, n.addr, d⟩) (some n.identity) clock =
        some (some (.storeAck ack), x') ∧
      r.Resident b x' ∧ x'.config = x.config ∧ x'.store = (x.store.storeDescriptorAt d clock).2 ∧
      (ack.stored = true ↔ (x.store.storeDescriptorAt d clock).1 = .ok ()) := by
  obtain ⟨x₁, hlearn, hx₁, hstore, hconfig⟩ := hx.learn (hn.names_self clock)
  have hbinding : verifySenderBinding n.identity (some n.identity) = .ok () :=
    verifySenderBinding_eq_ok_iff.2 rfl
  obtain ⟨ack, x', haccepted, hx', hconfig', hstore', hstored⟩ : ∃ ack x',
      x₁.storeAccepted d clock = (ack, x') ∧ r.Resident b x' ∧ x'.config = x₁.config ∧
        x'.store = (x₁.store.storeDescriptorAt d clock).2 ∧
        (ack.stored = true ↔ (x₁.store.storeDescriptorAt d clock).1 = .ok ()) := by
    rw [DhtNode.storeAccepted, hx₁.hooks]
    rcases hout : x₁.store.storeDescriptorAt d clock with ⟨e | ⟨⟩, store⟩
    all_goals rw [show DescriptorStorage.storeDescriptor x₁.store d clock = _ from hout]
    · exact ⟨_, _, rfl, ⟨hx₁.home, hx₁.addr, rfl, hx₁.table⟩, rfl, rfl, by simp⟩
    · exact ⟨_, _, rfl, ⟨hx₁.home, hx₁.addr, rfl, hx₁.table⟩, rfl, rfl, by simp⟩
  rw [hstore] at hstore' hstored
  refine ⟨ack, x', ?_, hx', hconfig'.trans hconfig, hstore', hstored⟩
  rw [DhtNode.dispatchRequest, Request.sender, hbinding, DhtNode.handleStore,
    DhtNode.updateRoutingTable, hlearn]
  simp only [Option.bind_eq_bind, Option.bind_some, hx₁.hooks, haccepted]
  rfl

end Resident

/-! ### The FIND_NODE round -/

/-- All nodes of the network are in place. -/
def Residents (r : Roster) (t : Network) : Prop := ∀ {b x}, t.nodes b = some x → r.Resident b x

variable {a b : NodeAddr} {n x x' : Peer} {t t' : Network}

lemma Residents.put (h : r.Residents t) (hx' : r.Resident b x') : r.Residents (t.put b x') :=
  Network.forall_put (fun _ _ => h) hx' _ _

lemma Residents.without (h : r.Residents t) (a : NodeAddr) : r.Residents (t.without a) :=
  Network.forall_without (fun _ _ => h) a _ _

/-- Two networks have the same nodes, up to what these know of each other. -/
structure SameStores (t t' : Network) : Prop where
  clock : t'.clock = t.clock
  nodes : ∀ b, (t'.nodes b).map (fun x => (x.store, x.config)) =
    (t.nodes b).map fun x => (x.store, x.config)

lemma SameStores.refl (t : Network) : SameStores t t := ⟨rfl, fun _ => rfl⟩

lemma SameStores.trans {t'' : Network} (h : SameStores t t') (h' : SameStores t' t'') :
    SameStores t t'' :=
  ⟨h'.clock.trans h.clock, fun b => (h'.nodes b).trans (h.nodes b)⟩

lemma SameStores.isSome (h : SameStores t t') (b : NodeAddr) :
    (t'.nodes b).isSome = (t.nodes b).isSome := by
  rw [← Option.isSome_map (f := fun x : Peer => (x.store, x.config)), h.nodes, Option.isSome_map]

lemma SameStores.exists_of_some (h : SameStores t t') (hx : t.nodes b = some x) :
    ∃ x', t'.nodes b = some x' ∧ x'.store = x.store ∧ x'.config = x.config := by
  have hnodes := h.nodes b
  rw [hx, Option.map_some] at hnodes
  obtain ⟨x', hx', heq⟩ := Option.map_eq_some_iff.1 hnodes
  exact ⟨x', hx', congrArg Prod.fst heq, congrArg Prod.snd heq⟩

lemma SameStores.put (hx : t.nodes b = some x) (hstore : x'.store = x.store)
    (hconfig : x'.config = x.config) : SameStores t (t.put b x') where
  clock := rfl
  nodes c := by
    by_cases hcb : c = b
    · rw [hcb, Network.put_nodes_self, hx, Option.map_some, Option.map_some, hstore, hconfig]
    · rw [Network.put_nodes_of_ne hcb]

/-- The nodes of an answer join the targets. -/
lemma mergeTargets_ok {nodes : List NodeInfo} (hnodes : ∀ e ∈ nodes, r.Names e) :
    ∀ {n : Peer} {targets : List NodeInfo}, r.Resident a n → r.Listing targets →
      ∃ targets' n', n.mergeTargets targets nodes = some (targets', n') ∧ r.Resident a n' ∧
        n'.store = n.store ∧ n'.config = n.config ∧ r.Listing targets' ∧ targets ⊆ targets' ∧
        ∀ e ∈ nodes, ∃ e' ∈ targets', e'.identity.nodeId = e.identity.nodeId := by
  induction nodes with
  | nil =>
    intro n targets hn htargets
    exact ⟨targets, n, rfl, hn, rfl, rfl, htargets, List.Subset.refl _, by simp⟩
  | cons node nodes ih =>
    intro n targets hn htargets
    obtain ⟨hnode, hnodes⟩ := List.forall_mem_cons.1 hnodes
    obtain ⟨n₁, hlearn, hn₁, hstore, hconfig⟩ := hn.learn hnode
    by_cases hmem : ∃ e ∈ targets, e.identity.nodeId = node.identity.nodeId
    · obtain ⟨targets', n', hmerge, hn', hstore', hconfig', htargets', hsubset, hjoined⟩ :=
        ih hnodes hn₁ htargets
      refine ⟨targets', n', ?_, hn', hstore'.trans hstore, hconfig'.trans hconfig, htargets',
        hsubset, List.forall_mem_cons.2 ⟨?_, hjoined⟩⟩
      · rw [DhtNode.mergeTargets, hlearn, Option.bind_eq_bind, Option.bind_some, if_pos hmem,
          hmerge]
      · obtain ⟨e, he, hid⟩ := hmem
        exact ⟨e, hsubset he, hid⟩
    · have hnew : r.Listing (targets ++ [node]) := by
        apply htargets.append_new hnode
        intro e he hid
        exact hmem ⟨e, he, congrArg Identity.nodeId hid⟩
      obtain ⟨targets', n', hmerge, hn', hstore', hconfig', htargets', hsubset, hjoined⟩ :=
        ih hnodes hn₁ hnew
      refine ⟨targets', n', ?_, hn', hstore'.trans hstore, hconfig'.trans hconfig, htargets',
        List.Subset.trans (List.subset_append_left _ _) hsubset,
        List.forall_mem_cons.2 ⟨⟨node, hsubset (by simp), rfl⟩, hjoined⟩⟩
      rw [DhtNode.mergeTargets, hlearn, Option.bind_eq_bind, Option.bind_some, if_neg hmem, hmerge]

variable [Ciborium]

/-- The FIND_NODE round keeps its targets and changes no store; the node itself becomes a target
once another one is asked. -/
lemma findTargets_ok {key : Hash} (hkey : 32 ≤ key.digest.length ∨ r.known.length ≤ 2)
    (nodes : List NodeInfo) :
    ∀ {n : Peer} {t : Network} {targets : List NodeInfo}, r.Resident a n → r.Residents t →
      r.Listing targets → ∃ targets' n' t',
        n.findTargets t key targets nodes = some (targets', n', t') ∧ r.Resident a n' ∧
        n'.store = n.store ∧ n'.config = n.config ∧ r.Residents t' ∧ SameStores t t' ∧
        r.Listing targets' ∧ targets ⊆ targets' ∧
        ∀ e ∈ nodes, (t.nodes e.addr).isSome → e.addr ≠ a →
          ∃ e' ∈ targets', e'.identity.nodeId = n.identity.nodeId := by
  induction nodes with
  | nil =>
    intro n t targets hn ht htargets
    exact ⟨targets, n, t, rfl, hn, rfl, rfl, ht, .refl t, htargets, List.Subset.refl _, by simp⟩
  | cons node nodes ih =>
    intro n t targets hn ht htargets
    cases hx : t.nodes node.addr with
    | none =>
      obtain ⟨targets', n', t', hfind, hn', hstore, hconfig, ht', hsame, htargets', hsubset,
        hself⟩ :=
        ih hn ht htargets
      refine ⟨targets', n', t', ?_, hn', hstore, hconfig, ht', hsame, htargets', hsubset,
        List.forall_mem_cons.2 ⟨?_, hself⟩⟩
      · rw [DhtNode.findTargets, Network.sendRequest_of_none hx]
        exact hfind
      · intro hsome
        rw [hx] at hsome
        cases hsome
    | some x =>
      obtain ⟨result, x', hdispatch, hx', hxstore, hxconfig, hnames, hasking⟩ :=
        (ht hx).findNode hn hkey t.now
      have hput : SameStores t (t.put node.addr x') := .put hx hxstore hxconfig
      obtain ⟨targets₁, n₁, hmerge, hn₁, hstore₁, hconfig₁, htargets₁, hsubset₁, hjoined⟩ :=
        mergeTargets_ok hnames hn htargets
      obtain ⟨targets', n', t', hfind, hn', hstore, hconfig, ht', hsame, htargets', hsubset,
        hself⟩ :=
        ih hn₁ (ht.put hx') htargets₁
      refine ⟨targets', n', t', ?_, hn', hstore.trans hstore₁, hconfig.trans hconfig₁, ht',
        hput.trans hsame, htargets', List.Subset.trans hsubset₁ hsubset,
        List.forall_mem_cons.2 ⟨?_, ?_⟩⟩
      · rw [DhtNode.findTargets, Network.sendRequest_of_some hx hdispatch]
        dsimp only
        rw [hmerge, Option.bind_eq_bind, Option.bind_some]
        exact hfind
      · intro _ haddr
        obtain ⟨e, he, hid⟩ := hasking (Ne.symm haddr)
        obtain ⟨e', he', hid'⟩ := hjoined e he
        exact ⟨e', hsubset he', by rw [hid', hid]⟩
      · intro e he hsome haddr
        rw [← hput.isSome] at hsome
        obtain ⟨e', he', hid⟩ := hself e he hsome haddr
        exact ⟨e', he', by rw [hid, hn.identity_eq hn₁]⟩

/-- The targets of the STOREs for a key are known nodes, no more than `K`, and every other node of
the network is one of them. -/
lemma targets_ok {alpha : ℕ} {key : Hash} (hn : r.Resident a n) (ht : r.Residents t)
    (hkey : 32 ≤ key.digest.length ∨ (alpha = 0 ∧ r.known.length ≤ 2)) :
    ∃ closest targets sorted n' t', n.routingTable.closestNodes key K = some closest ∧
      n.findTargets t key closest (closest.take alpha) = some (targets, n', t') ∧
      DhtNode.sortByDistance key targets = some sorted ∧ sorted.take K = sorted ∧
      r.Resident a n' ∧ n'.store = n.store ∧ n'.config = n.config ∧ r.Residents t' ∧
      SameStores t t' ∧ r.Listing sorted ∧ ∀ {b x}, b ≠ a → t.nodes b = some x →
        ∃ e ∈ sorted, e.identity = x.identity ∧ e.addr = b ∧ e.identity.nodeId ≠ n'.nodeId := by
  obtain ⟨closest, hclosest⟩ := Option.isSome_iff_exists.1
    (hn.closestNodes_isSome (hkey.imp_right And.right))
  -- the closest nodes are all nodes of the table
  have hperm := RoutingTable.closestNodes_perm hclosest hn.table.listing.length_le
  have hlisting : r.Listing closest := hn.table.listing.perm hperm
  obtain ⟨targets, sorted, n', t', hfind, hsort, hsorted, hn', hstore, hconfig, ht', hsame,
    htargets,
      hsubset⟩ : ∃ targets sorted n' t',
        n.findTargets t key closest (closest.take alpha) = some (targets, n', t') ∧
        DhtNode.sortByDistance key targets = some sorted ∧ sorted.Perm targets ∧ r.Resident a n' ∧
        n'.store = n.store ∧ n'.config = n.config ∧ r.Residents t' ∧ SameStores t t' ∧
        r.Listing targets ∧ closest ⊆ targets := by
    rcases hkey with hlong | ⟨rfl, hpair⟩
    · obtain ⟨targets, n', t', hfind, hn', hstore, hconfig, ht', hsame, htargets, hsubset, -⟩ :=
        findTargets_ok (.inl hlong) (closest.take alpha) hn ht hlisting
      obtain ⟨sorted, hsort, hsorted, -⟩ := Fallible.sortBy_of_key (l := targets)
        fun e _ e' _ => RoutingTable.distanceCmp_nodes hlong e e'
      exact ⟨targets, sorted, n', t', hfind, hsort, hsorted, hn', hstore, hconfig, ht', hsame,
        htargets, hsubset⟩
    · have hlt := hn.length_lt_known
      have hshort : closest.length ≤ 1 := by
        rw [hperm.length_eq]
        omega
      exact ⟨closest, closest, n, t, rfl, Fallible.sortBy_of_length_le_one hshort, .refl _, hn, rfl,
        rfl, ht, .refl t, hlisting, List.Subset.refl _⟩
  have hlist := htargets.perm hsorted
  refine ⟨closest, targets, sorted, n', t', hclosest, hfind, hsort,
    List.take_of_length_le hlist.length_le, hn', hstore, hconfig, ht', hsame, hlist, ?_⟩
  intro b x hba hx
  obtain ⟨e, he, hid, haddr⟩ := hn.entry (ht hx) hba
  refine ⟨e, hsorted.mem_iff.2 (hsubset (hperm.mem_iff.2 he)), hid, haddr, ?_⟩
  have hne := RoutingTable.nodeId_ne_localId he
  rw [n.localId_eq] at hne
  rw [DhtNode.nodeId, hn.identity_eq hn']
  exact hne

end Roster

/-! ## Complete networks -/

namespace Network

variable [Crypto]

/-- No table names its own node. -/
lemma identity_ne_of_mem {x : Peer} {e : NodeInfo} (he : e ∈ x.routingTable.allNodes) :
    e.identity ≠ x.identity := by
  intro heq
  have hne := RoutingTable.nodeId_ne_localId he
  rw [x.localId_eq, heq] at hne
  exact hne rfl

/-- Nodes without hooks, each with every other one in its table at its address. -/
structure Acquainted (net : Network) : Prop where
  addr_eq : ∀ {a x}, net.nodes a = some x → x.addr = a
  no_hooks : ∀ {a x}, net.nodes a = some x → x.hooks = none
  knows : ∀ {a b x y}, a ≠ b → net.nodes a = some x → net.nodes b = some y →
    ∃ e ∈ x.routingTable.allNodes, e.identity = y.identity ∧ e.addr = b

/-- A complete small network: the nodes know each other, and no more than `K` identities in all. -/
structure Complete (net : Network) : Prop extends net.Acquainted where
  small : ∃ known : List Identity, known.length ≤ K ∧ ∀ {a x}, net.nodes a = some x →
    x.identity ∈ known ∧ ∀ e ∈ x.routingTable.allNodes, e.identity ∈ known

/-- Nodes that know each other, and no more than `K` identities in all, are in place. -/
lemma Acquainted.exists_roster {net : Network} (h : net.Acquainted) {known : List Identity}
    (hsmall : known.length ≤ K) (hknown : ∀ {a x}, net.nodes a = some x →
      x.identity ∈ known ∧ ∀ e ∈ x.routingTable.allNodes, e.identity ∈ known) :
    ∃ r : Roster, r.known = known ∧ (r.homes = fun b => (net.nodes b).map DhtNode.identity) ∧
      r.Residents net := by
  have hhome : ∀ {b i}, (net.nodes b).map DhtNode.identity = some i →
      ∃ x, net.nodes b = some x ∧ x.identity = i := fun hb => Option.map_eq_some_iff.1 hb
  refine ⟨{
    known := known
    homes := fun b => (net.nodes b).map DhtNode.identity
    small := hsmall
    homes_known := ?_
    homes_unique := ?_ }, rfl, rfl, ?_⟩
  · intro b i hb
    obtain ⟨x, hx, rfl⟩ := hhome hb
    exact (hknown hx).1
  · intro b c i hb hc
    obtain ⟨x, hx, rfl⟩ := hhome hb
    obtain ⟨y, hy, hid⟩ := hhome hc
    by_contra hbc
    obtain ⟨e, he, heq, -⟩ := h.knows hbc hx hy
    exact identity_ne_of_mem he (heq.trans hid)
  · intro b x hx
    refine ⟨?_, h.addr_eq hx, h.no_hooks hx, ?_, ?_⟩
    · dsimp only
      rw [hx, Option.map_some]
    · -- an entry of a node of the network is the one that says where it lives
      intro e he
      refine ⟨(hknown hx).2 e he, ?_⟩
      intro c hc
      obtain ⟨y, hy, hid⟩ := hhome hc
      have hbc : b ≠ c := by
        rintro rfl
        obtain rfl := Option.some.inj (hx.symm.trans hy)
        exact identity_ne_of_mem he hid.symm
      obtain ⟨e', he', hid', rfl⟩ := h.knows hbc hx hy
      rw [RoutingTable.eq_of_identity_eq he he' (hid.symm.trans hid'.symm)]
    · intro c i hc hi
      obtain ⟨y, hy, rfl⟩ := hhome hc
      have hbc : b ≠ c := by
        rintro rfl
        obtain rfl := Option.some.inj (hx.symm.trans hy)
        exact hi rfl
      obtain ⟨e, he, hid, -⟩ := h.knows hbc hx hy
      exact ⟨e, he, hid⟩

end Network

end MeshProtocol
