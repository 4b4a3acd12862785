import MeshProtocol.Dht.Node

/-!
# Iterative operations (`mesh-dht/src/node.rs`, `transport.rs`)

What a node does on its own behalf: `iterative_store` replicates a descriptor to the nodes nearest
to each of its routing keys, `lookup_value` looks for the descriptors at a key, and `bootstrap`
fills the routing table from seeds.  They talk to other nodes through a transport, whose state they
pass along.

`none` is a panic (a comparison of a digest that is too short) or, in the loop of `lookup_value`, a
lack of fuel: each iteration takes one unit.
-/

namespace MeshProtocol

open Fallible

/-- Why a request brings back no message: an error of the transport, or a frame of some type whose
body does not decode. -/
inductive NoReply where
  | transport
  | undecodable (msgType : UInt8)
deriving DecidableEq, Repr

/-- Sends requests to addresses.  The DHT tells apart only the messages that come back; `noReply` is
why none does, where none does. -/
class Transport (τ : Type) where
  sendRequest : τ → NodeAddr → Request → Option Response × τ
  noReply : τ → NodeAddr → Request → NoReply := fun _ _ _ => .transport

namespace DhtNode

variable [Crypto] {S H τ : Type} [Transport τ]

/-- Sorts nodes by their distance to a key, the closest first. -/
def sortByDistance (key : Hash) (nodes : List NodeInfo) : Option (List NodeInfo) :=
  sortBy (fun a b => distanceCmp key a.identity.nodeId b.identity.nodeId) nodes

/-- Adds the nodes of an answer to the routing table. -/
def learnAll (n : DhtNode S H) : List NodeInfo → Option (DhtNode S H)
  | [] => some n
  | node :: nodes => (n.learn node).bind (·.learnAll nodes)

/-! ## `iterative_store` -/

/-- Adds the nodes of a FIND_NODE_RESULT to the routing table, and those with new IDs to the
targets. -/
def mergeTargets (n : DhtNode S H) (targets : List NodeInfo) :
    List NodeInfo → Option (List NodeInfo × DhtNode S H)
  | [] => some (targets, n)
  | node :: nodes => do
    let n ← n.learn node
    if ∃ t ∈ targets, t.identity.nodeId = node.identity.nodeId then n.mergeTargets targets nodes
    else n.mergeTargets (targets ++ [node]) nodes

/-- The FIND_NODE round: asks the given nodes for targets near a key. -/
def findTargets (n : DhtNode S H) (t : τ) (key : Hash) (targets : List NodeInfo) :
    List NodeInfo → Option (List NodeInfo × DhtNode S H × τ)
  | [] => some (targets, n, t)
  | node :: nodes =>
    let (resp, t) := Transport.sendRequest t node.addr (.findNode ⟨n.identity, n.addr, key⟩)
    match resp with
    | some (.findNodeResult result) => do
      let (targets, n) ← n.mergeTargets targets result.nodes
      n.findTargets t key targets nodes
    | _ => n.findTargets t key targets nodes

/-- Sends a STORE to each target but the node itself, and counts those that stored. -/
def sendStores (n : DhtNode S H) (t : τ) (d : Descriptor) : List NodeInfo → ℕ × τ
  | [] => (0, t)
  | node :: nodes =>
    if node.identity.nodeId = n.nodeId then n.sendStores t d nodes
    else
      let (resp, t) := Transport.sendRequest t node.addr (.store ⟨n.identity, n.addr, d⟩)
      let (count, t) := n.sendStores t d nodes
      match resp with
      | some (.storeAck ack) => (if ack.stored then count + 1 else count, t)
      | _ => (count, t)

/-- Replicates a descriptor to the nodes closest to each of the given keys; `alpha` is that of the
configuration. -/
def storeAtKeys (alpha : ℕ) (n : DhtNode S H) (t : τ) (d : Descriptor) :
    List Hash → Option (ℕ × DhtNode S H × τ)
  | [] => some (0, n, t)
  | key :: keys => do
    let closest ← n.routingTable.closestNodes key K
    let (targets, n, t) ← n.findTargets t key closest (closest.take alpha)
    let targets ← sortByDistance key targets
    let (stored, t) := n.sendStores t d (targets.take K)
    let (others, n, t) ← n.storeAtKeys alpha t d keys
    return (stored + others, n, t)

/-- Replicates a descriptor, and stores it locally at the time after the last answer. -/
def iterativeStore [DescriptorStorage S] (alpha : ℕ) (clock : τ → UInt64) (n : DhtNode S H) (t : τ)
    (d : Descriptor) : Option (ℕ × DhtNode S H × τ) := do
  let (totalStored, n, t) ← n.storeAtKeys alpha t d d.routingKeys
  return (totalStored,
    { n with store := (DescriptorStorage.storeDescriptor n.store d (clock t)).2 }, t)

/-! ## `lookup_value` -/

/-- The FIND_VALUE a lookup sends. -/
def valueRequest (n : DhtNode S H) (key : Hash) : Request :=
  .findValue ⟨n.identity, n.addr, key, n.config.maxFindValueResults, none⟩

/-- Queries the given nodes: the descriptors and the nodes they answer with, the nodes also added to
the routing table. -/
def queryNodes (n : DhtNode S H) (t : τ) (key : Hash) :
    List NodeInfo → Option (List Descriptor × List NodeInfo × DhtNode S H × τ)
  | [] => some ([], [], n, t)
  | node :: nodes =>
    let (resp, t) := Transport.sendRequest t node.addr (n.valueRequest key)
    match resp with
    | some (.findValueResult result) => do
      let n ← n.learnAll (result.nodes.getD [])
      let (descriptors, newNodes, n, t) ← n.queryNodes t key nodes
      return (result.descriptors.getD [] ++ descriptors, result.nodes.getD [] ++ newNodes, n, t)
    | _ => n.queryNodes t key nodes

/-- The loop of `lookup_value`, from the candidates and the IDs queried so far.  No descriptor has
been collected when an iteration begins. -/
def lookupLoop (alpha : ℕ) (key : Hash) : ℕ → DhtNode S H → τ → List NodeInfo → List Hash →
    Option (List Descriptor × DhtNode S H × τ)
  | 0, _, _, _, _ => none
  | fuel + 1, n, t, candidates, queried => do
    let toQuery := (candidates.filter fun c => c.identity.nodeId ∉ queried).take alpha
    if toQuery.isEmpty then return ([], n, t)
    let (collected, newNodes, n, t) ← n.queryNodes t key toQuery
    if newNodes.isEmpty ∧ collected.isEmpty then return ([], n, t)
    let candidates ← sortByDistance key (candidates ++ newNodes)
    if ¬ collected.isEmpty then return (collected, n, t)
    lookupLoop alpha key fuel n t (candidates.take K)
      (queried ++ toQuery.map fun c => c.identity.nodeId)

/-- The fallback of small networks: asks the given nodes in turn until one has descriptors. -/
def broadcast (n : DhtNode S H) (t : τ) (key : Hash) : List NodeInfo → List Descriptor × τ
  | [] => ([], t)
  | node :: nodes =>
    let (resp, t) := Transport.sendRequest t node.addr (n.valueRequest key)
    match resp with
    | some (.findValueResult result) =>
      let descriptors := result.descriptors.getD []
      if descriptors.isEmpty then n.broadcast t key nodes else (descriptors, t)
    | _ => n.broadcast t key nodes

/-- Looks for the descriptors at a key. -/
def lookupValue (alpha fuel : ℕ) (n : DhtNode S H) (t : τ) (key : Hash) :
    Option (List Descriptor × DhtNode S H × τ) := do
  let initial ← n.routingTable.closestNodes key alpha
  let (collected, n, t) ← lookupLoop alpha key fuel n t initial []
  let allNodes := n.routingTable.allNodes
  if collected.isEmpty ∧ allNodes.length ≤ K then
    let (descriptors, t) := n.broadcast t key allNodes
    return (descriptors, n, t)
  return (collected, n, t)

/-! ## `bootstrap` -/

/-- Asks a seed for its identity; counts the answer. -/
def pingSeed (clock : τ → UInt64) (n : DhtNode S H) (t : τ) (seed : NodeAddr) :
    Option (ℕ × DhtNode S H × τ) :=
  let (resp, t) := Transport.sendRequest t seed (.ping ⟨n.identity, n.addr⟩)
  match resp with
  | some (.pong pong) => (n.learn ⟨pong.sender, seed, clock t⟩).map fun n => (1, n, t)
  | _ => some (0, n, t)

/-- Asks a seed for nodes near the node's own ID; counts them. -/
def querySeed (n : DhtNode S H) (t : τ) (seed : NodeAddr) : Option (ℕ × DhtNode S H × τ) :=
  let (resp, t) := Transport.sendRequest t seed (.findNode ⟨n.identity, n.addr, n.nodeId⟩)
  match resp with
  | some (.findNodeResult result) =>
    (n.learnAll result.nodes).map fun n => (result.nodes.length, n, t)
  | _ => some (0, n, t)

/-- Joins the network through some seeds. -/
def bootstrap (clock : τ → UInt64) (n : DhtNode S H) (t : τ) :
    List NodeAddr → Option (ℕ × DhtNode S H × τ)
  | [] => some (0, n, t)
  | seed :: seeds => do
    let (pongs, n, t) ← n.pingSeed clock t seed
    let (discovered, n, t) ← n.querySeed t seed
    let (others, n, t) ← n.bootstrap clock t seeds
    return (pongs + discovered + others, n, t)

/-! ## Fuel -/

/-- More fuel does not change what the loop returns. -/
lemma lookupLoop_mono {alpha : ℕ} {key : Hash} {fuel : ℕ} : ∀ {n : DhtNode S H} {t : τ}
    {candidates : List NodeInfo} {queried : List Hash} {r : List Descriptor × DhtNode S H × τ},
    lookupLoop alpha key fuel n t candidates queried = some r → ∀ more,
      lookupLoop alpha key (fuel + more) n t candidates queried = some r := by
  induction fuel with
  | zero =>
    intro n t candidates queried r h
    cases h
  | succ fuel ih =>
    intro n t candidates queried r h more
    rw [Nat.add_right_comm]
    rw [lookupLoop] at h ⊢
    by_cases hempty : ((candidates.filter fun c => c.identity.nodeId ∉ queried).take alpha).isEmpty
    · rw [if_pos hempty] at h ⊢
      exact h
    · rw [if_neg hempty] at h ⊢
      obtain ⟨⟨collected, newNodes, n₁, t₁⟩, hquery, h⟩ := Option.bind_eq_some_iff.1 h
      rw [hquery, Option.bind_eq_bind, Option.bind_some]
      dsimp only at h ⊢
      by_cases hnothing : newNodes.isEmpty ∧ collected.isEmpty
      · rw [if_pos hnothing] at h ⊢
        exact h
      · rw [if_neg hnothing] at h ⊢
        obtain ⟨sorted, hsort, h⟩ := Option.bind_eq_some_iff.1 h
        rw [hsort, Option.bind_eq_bind, Option.bind_some]
        by_cases hfound : ¬ collected.isEmpty
        · rw [if_pos hfound] at h ⊢
          exact h
        · rw [if_neg hfound] at h ⊢
          exact ih h more

/-- Nor what a lookup returns. -/
lemma lookupValue_mono {alpha fuel : ℕ} {n : DhtNode S H} {t : τ} {key : Hash}
    {r : List Descriptor × DhtNode S H × τ} (h : n.lookupValue alpha fuel t key = some r)
    (more : ℕ) : n.lookupValue alpha (fuel + more) t key = some r := by
  obtain ⟨initial, hinitial, h⟩ := Option.bind_eq_some_iff.1 h
  obtain ⟨out, hloop, h⟩ := Option.bind_eq_some_iff.1 h
  rw [lookupValue, hinitial, Option.bind_eq_bind, Option.bind_some, lookupLoop_mono hloop more,
    Option.bind_eq_bind, Option.bind_some]
  exact h

end DhtNode

end MeshProtocol
