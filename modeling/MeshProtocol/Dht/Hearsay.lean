import MeshProtocol.Core.Reference
import MeshProtocol.Dht.Lookup
import MeshProtocol.Library.Recency

/-!
# What a node hears about others (`mesh-dht/src/node.rs`, `routing.rs`)

The nodes that an answer names go into the routing table by the same `add_node` as a sender that was
heard itself.  A bucket is a list in the order of last use (`entries_addNode`), so an answer leaves
an entry where and as it is exactly under the condition of `Recency.Kept`.
-/

namespace MeshProtocol

/-! ## Buckets in the order of last use -/

lemma KBucket.entries_addNode (b : KBucket) (node : NodeInfo) :
    (b.addNode node).2.entries = Recency.use NodeInfo.identity K b.entries node := by
  unfold KBucket.addNode Recency.use
  split_ifs <;> rfl

section Crypto

variable [Crypto]

/-- The nodes that belong in a bucket. -/
def heardOf (localId : Hash) (i : Fin NUM_BUCKETS) (nodes : List NodeInfo) : List NodeInfo :=
  nodes.filter fun node => bucketFor localId node.identity.nodeId = some (some i)

/-- The entries of a bucket. -/
def RoutingTable.bucketEntries (t : RoutingTable) (i : Fin NUM_BUCKETS) : List NodeInfo :=
  (t.buckets.get i).entries

lemma RoutingTable.entries_addNode {t t' : RoutingTable} {node : NodeInfo} {result : AddNodeResult}
    (h : t.addNode node = some (result, t')) (i : Fin NUM_BUCKETS) :
    t'.bucketEntries i =
      Recency.useAll NodeInfo.identity K (t.bucketEntries i) (heardOf t.localId i [node]) := by
  unfold addNode at h
  split at h
  case h_1 => cases h
  case h_2 hself =>
    obtain ⟨-, rfl⟩ := Prod.mk.inj (Option.some.inj h)
    simp [heardOf, hself]
  case h_3 j hj =>
    obtain ⟨-, rfl⟩ := Prod.mk.inj (Option.some.inj h)
    by_cases hij : j = i
    · subst hij
      change (t.setBucket j (t.buckets[j].addNode node).2 _).buckets[j].entries =
        Recency.useAll NodeInfo.identity K t.buckets[j].entries (heardOf t.localId j [node])
      simp [heardOf, hj, setBucket, KBucket.entries_addNode]
    · change (t.setBucket j (t.buckets[j].addNode node).2 _).buckets[i].entries =
        Recency.useAll NodeInfo.identity K t.buckets[i].entries (heardOf t.localId i [node])
      simp [heardOf, hj, setBucket, hij, Fin.val_ne_of_ne hij]

namespace DhtNode

variable {S H τ : Type} [Transport τ]

/-- An answer uses the nodes it names, each in its bucket. -/
lemma entries_learnAll {n n' : DhtNode S H} {nodes : List NodeInfo}
    (h : n.learnAll nodes = some n') (i : Fin NUM_BUCKETS) :
    n'.routingTable.bucketEntries i = Recency.useAll NodeInfo.identity K
      (n.routingTable.bucketEntries i) (heardOf n.routingTable.localId i nodes) := by
  induction nodes generalizing n with
  | nil =>
    obtain rfl := Option.some.inj h
    rfl
  | cons node nodes ih =>
    obtain ⟨n₁, hlearn, hrest⟩ := Option.bind_eq_some_iff.1 h
    obtain ⟨result, hadd⟩ := (learned_of_learn hlearn).table
    rw [ih hrest, RoutingTable.entries_addNode hadd i, RoutingTable.localId_of_addNode hadd,
      ← Recency.useAll_append, heardOf, heardOf, ← List.filter_append, List.singleton_append,
        heardOf]

omit [Transport τ] in
/-- Collecting targets changes nothing about what is learned. -/
lemma learnAll_of_mergeTargets {n n' : DhtNode S H} {targets targets' nodes : List NodeInfo}
    (h : n.mergeTargets targets nodes = some (targets', n')) : n.learnAll nodes = some n' := by
  induction nodes generalizing n targets with
  | nil =>
    obtain ⟨-, rfl⟩ := Prod.mk.inj (Option.some.inj h)
    rfl
  | cons node nodes ih =>
    obtain ⟨n₁, hlearn, hrest⟩ := Option.bind_eq_some_iff.1 h
    rw [learnAll, hlearn, Option.bind_some]
    split_ifs at hrest
    · exact ih hrest
    · exact ih hrest

/-- The node handles an answer that names some nodes: a FIND_VALUE_RESULT in `lookup_value`, or a
FIND_NODE_RESULT in `iterative_store` or `bootstrap`. -/
inductive Handles (n : DhtNode S H) (nodes : List NodeInfo) (n' : DhtNode S H) : Prop
  | lookupValue {t t₁ t' : τ} {key : Hash} {peer : NodeInfo}
    {descriptors : Option (List Descriptor)}
      {found : List Descriptor} {newNodes : List NodeInfo}
      (answer : Transport.sendRequest t peer.addr (n.valueRequest key) =
        (some (.findValueResult ⟨descriptors, some nodes⟩), t₁))
      (query : n.queryNodes t key [peer] = some (found, newNodes, n', t'))
  | iterativeStore {t t₁ t' : τ} {key : Hash} {peer : NodeInfo} {targets targets' : List NodeInfo}
      (answer : Transport.sendRequest t peer.addr (.findNode ⟨n.identity, n.addr, key⟩) =
        (some (.findNodeResult ⟨nodes⟩), t₁))
      (query : n.findTargets t key targets [peer] = some (targets', n', t'))
  | bootstrap {t t₁ t' : τ} {seed : NodeAddr} {count : ℕ}
      (answer : Transport.sendRequest t seed (.findNode ⟨n.identity, n.addr, n.nodeId⟩) =
        (some (.findNodeResult ⟨nodes⟩), t₁))
      (query : n.querySeed t seed = some (count, n', t'))

/-- In all three the nodes are learned one after another. -/
lemma Handles.learnAll {n n' : DhtNode S H} {nodes : List NodeInfo}
    (h : Handles (τ := τ) n nodes n') : n.learnAll nodes = some n' := by
  cases h with
  | lookupValue answer query =>
    rw [queryNodes, answer] at query
    obtain ⟨n₁, hlearn, hrest⟩ := Option.bind_eq_some_iff.1 query
    simp only [queryNodes, Option.bind_eq_bind, Option.bind_some, Option.pure_def,
      Option.some.injEq, Prod.mk.injEq] at hrest
    rw [← hrest.2.2.1]
    exact hlearn
  | iterativeStore answer query =>
    rw [findTargets, answer] at query
    obtain ⟨⟨targets₁, n₁⟩, hmerge, hrest⟩ := Option.bind_eq_some_iff.1 query
    simp only [findTargets, Option.some.injEq, Prod.mk.injEq] at hrest
    rw [← hrest.2.1]
    exact learnAll_of_mergeTargets hmerge
  | bootstrap answer query =>
    rw [querySeed, answer] at query
    obtain ⟨n₁, hlearn, heq⟩ := Option.map_eq_some_iff.1 query
    simp only [Prod.mk.injEq] at heq
    rw [← heq.2.1]
    exact hlearn

/-- An answer leaves an entry as it is, and in its place, exactly if the nodes it names for the
entry's bucket keep it. -/
theorem hearsay_kept_iff {n n' : DhtNode S H} {nodes : List NodeInfo}
    (h : Handles (τ := τ) n nodes n') {i : Fin NUM_BUCKETS} {front back : List NodeInfo}
    {y : NodeInfo} (hy : n.routingTable.bucketEntries i = front ++ y :: back) :
    (n'.routingTable.bucketEntries i)[front.length]? = some y ↔
      Recency.Kept NodeInfo.identity K front back (heardOf n.routingTable.localId i nodes) y := by
  have hdistinct : ((n.routingTable.bucketEntries i).map NodeInfo.identity).Nodup :=
    (n.routingTable.buckets.get i).distinct
  rw [hy] at hdistinct
  rw [entries_learnAll h.learnAll, hy, Recency.getElem?_useAll_iff K hdistinct]

end DhtNode

end Crypto

/-! ## A redirected peer -/

/-- Peers that answer every FIND_VALUE with the same nodes, by their address. -/
structure Rumours where
  nodes : NodeAddr → List NodeInfo

instance : Transport Rumours where
  sendRequest peers addr _ := (some (.findValueResult ⟨none, some (peers.nodes addr)⟩), peers)

/-- The node that has heard the second and the third publisher themselves. -/
def heardBoth [Crypto] [Ciborium] : Option (DhtNode DescriptorStore NoOpHook) :=
  (DhtNode.withStore firstPublisher (.quic "198.51.100.1:4433") {} .new).run
    [.request (.ping ⟨secondPublisher, .quic "198.51.100.2:4433"⟩) (some secondPublisher) 100,
      .request (.ping ⟨thirdPublisher, .quic "198.51.100.3:4433"⟩) (some thirdPublisher) 200]

/-- The third publisher says that the second one is at its own address. -/
def redirecting : Rumours :=
  ⟨fun addr => if addr = .quic "198.51.100.3:4433" then
    [⟨secondPublisher, .quic "198.51.100.3:4433", 0⟩] else []⟩

/-- A lookup replaces what was recorded from the second publisher's own request by what the third
one says. -/
theorem rumour_redirects :
    letI : Crypto := cryptoOf []
    letI : Ciborium := referenceCiborium
    heardBoth.map (fun n => n.routingTable.bucketEntries 255) =
        some [⟨secondPublisher, .quic "198.51.100.2:4433", 100⟩] ∧
      (heardBoth.bind fun n => n.lookupValue 3 3 redirecting computeKey).map
          (fun r => r.2.1.routingTable.bucketEntries 255) =
        some [⟨secondPublisher, .quic "198.51.100.3:4433", 0⟩] := by
  exact ⟨by decide +kernel, by decide +kernel⟩

/-- A word about the third publisher leaves the second one alone. -/
theorem rumour_elsewhere :
    letI : Crypto := cryptoOf []
    letI : Ciborium := referenceCiborium
    ∃ n n' : DhtNode DescriptorStore NoOpHook, heardBoth = some n ∧
      DhtNode.Handles (τ := Rumours) n [⟨thirdPublisher, .quic "198.51.100.4:4433", 0⟩] n' ∧
      (n'.routingTable.bucketEntries 255)[0]? =
        some ⟨secondPublisher, .quic "198.51.100.2:4433", 100⟩ := by
  let _ : Crypto := cryptoOf []
  let _ : Ciborium := referenceCiborium
  have hsome : heardBoth.isSome := by decide +kernel
  obtain ⟨n, hn⟩ := Option.isSome_iff_exists.1 hsome
  have hentries : heardBoth.map (fun n => n.routingTable.bucketEntries 255) =
      some [⟨secondPublisher, .quic "198.51.100.2:4433", 100⟩] := by decide +kernel
  have hheard : heardBoth.map (fun n => heardOf n.routingTable.localId 255
      [⟨thirdPublisher, .quic "198.51.100.4:4433", 0⟩]) = some [] := by decide +kernel
  have hquery : (heardBoth.bind fun n => n.queryNodes
      (Rumours.mk fun _ => [⟨thirdPublisher, .quic "198.51.100.4:4433", 0⟩]) computeKey
      [⟨thirdPublisher, .quic "198.51.100.3:4433", 200⟩]).isSome := by decide +kernel
  rw [hn, Option.map_some, Option.some.injEq] at hentries hheard
  rw [hn, Option.bind_some] at hquery
  obtain ⟨⟨found, newNodes, n', t'⟩, hquery⟩ := Option.isSome_iff_exists.1 hquery
  have hhandles : DhtNode.Handles (τ := Rumours) n
      [⟨thirdPublisher, .quic "198.51.100.4:4433", 0⟩] n' := .lookupValue rfl hquery
  refine ⟨n, n', hn, hhandles, ?_⟩
  have hfront : n.routingTable.bucketEntries 255 =
      [] ++ ⟨secondPublisher, .quic "198.51.100.2:4433", 100⟩ :: [] := hentries
  refine (DhtNode.hearsay_kept_iff hhandles hfront).2 (.inl ?_)
  rw [hheard]
  simp

end MeshProtocol
