import MeshProtocol.Dht.BucketTable
import MeshProtocol.Library.XorMetric

/-!
# The nodes that `closest_nodes` returns (`mesh-dht/src/routing.rs`)

The source compares distances byte by byte.  To a target of 32 bytes they are numbers, the XOR of
the target and the node ID, so the answer can be stated with the order of the numbers.  XOR is
injective, so a node that is left out is as close as the last one returned only where it has its
node ID.
-/

namespace MeshProtocol

open Bytes Fallible

section Distance

variable [Crypto] {target : Hash}

/-- The XOR distance of a node to a target, both read as 256-bit numbers. -/
def xorTo (target : Hash) (node : NodeInfo) : ℕ :=
  beNat target.digest ^^^ beNat node.identity.nodeId.digest

lemma beNat_distanceTo (htarget : target.digest.length = 32) (node : NodeInfo) :
    beNat (RoutingTable.distanceTo target node) = xorTo target node := by
  have hnode := Identity.length_nodeId_digest node.identity
  rw [RoutingTable.distanceTo, List.take_of_length_le htarget.le, List.take_of_length_le hnode.le,
    XorMetric.beNat_zipWith_xor (htarget.trans hnode.symm), xorTo]

/-- The source compares two nodes as the numbers compare. -/
lemma distanceCmp_eq_compare (htarget : target.digest.length = 32) (a b : NodeInfo) :
    distanceCmp target a.identity.nodeId b.identity.nodeId =
      some (compare (xorTo target a) (xorTo target b)) := by
  have hlen : (RoutingTable.distanceTo target a).length =
      (RoutingTable.distanceTo target b).length := by
    simp [RoutingTable.distanceTo, Identity.length_nodeId_digest]
  rw [RoutingTable.distanceCmp_nodes htarget.ge, XorMetric.compare_beNat hlen,
    beNat_distanceTo htarget, beNat_distanceTo htarget]

/-- Only nodes of one node ID are at one distance. -/
lemma xorTo_inj {a b : NodeInfo} :
    xorTo target a = xorTo target b ↔ a.identity.nodeId = b.identity.nodeId := by
  have hlen : a.identity.nodeId.digest.length = b.identity.nodeId.digest.length := by
    rw [Identity.length_nodeId_digest, Identity.length_nodeId_digest]
  rw [xorTo, xorTo, XorMetric.xor_beNat_inj hlen]
  constructor
  · intro hdigest
    exact congrArg (Hash.mk ALG_BLAKE3) hdigest
  · intro hid
    rw [hid]

end Distance

namespace BucketTable

/-- Total number of nodes in the routing table. -/
def len (t : BucketTable) : ℕ := (t.buckets.toList.map List.length).sum

lemma length_allNodes (t : BucketTable) : t.allNodes.length = t.len := List.length_flatten

variable [Crypto]

/-- The nodes returned and those left out are the table in the order of the distance. -/
lemma closestNodes_split (t : BucketTable) {target : Hash} (htarget : target.digest.length = 32)
    (count : ℕ) :
    ∃ found leftOut, t.closestNodes target count = some found ∧
      (found ++ leftOut).Perm t.allNodes ∧ found.length = min count t.len ∧
      (found ++ leftOut).Pairwise fun a b => xorTo target a ≤ xorTo target b := by
  obtain ⟨found, leftOut, hfound, hperm, hlength, hsorted⟩ := take_sortBy_of_key
    (l := t.allNodes) (fun a _ b _ => distanceCmp_eq_compare htarget a b) count
  rw [length_allNodes] at hlength
  exact ⟨found, leftOut, hfound, hperm, hlength, hsorted.imp Nat.isLE_compare.1⟩

/-- `closest_nodes` returns the closest nodes of any table, in the order of their distance.  One
that is left out is farther than all of them, unless it has the node ID of the last. -/
theorem closestNodes_exact (t : BucketTable) (target : Hash) (htarget : target.digest.length = 32)
    (count : ℕ) :
    ∃ found leftOut, t.closestNodes target count = some found ∧
      (found ++ leftOut).Perm t.allNodes ∧ found.length = min count t.len ∧
      found.Pairwise (fun a b => xorTo target a ≤ xorTo target b) ∧
      ∀ out ∈ leftOut, (∀ e ∈ found, xorTo target e ≤ xorTo target out) ∧
        ∀ last ∈ found.getLast?, out.identity.nodeId = last.identity.nodeId ∨
          ∀ e ∈ found, xorTo target e < xorTo target out := by
  obtain ⟨found, leftOut, hfound, hperm, hlength, hsorted⟩ := t.closestNodes_split htarget count
  obtain ⟨hordered, -, hfarther⟩ := List.pairwise_append.1 hsorted
  refine ⟨found, leftOut, hfound, hperm, hlength, hordered, fun out hout => ⟨?_, ?_⟩⟩
  · exact fun e he => hfarther e he out hout
  · intro last hlast
    obtain ⟨init, rfl⟩ := List.getLast?_eq_some_iff.1 hlast
    obtain ⟨-, -, hlastFarthest⟩ := List.pairwise_append.1 hordered
    rw [← @xorTo_inj _ target]
    obtain heq | hlt := (hfarther last (by simp) out hout).eq_or_lt
    · exact .inl heq.symm
    · -- the last one returned is the farthest of them
      refine .inr fun e he => lt_of_le_of_lt ?_ hlt
      obtain he | he := List.mem_append.1 he
      · exact hlastFarthest e he last (by simp)
      · rw [List.mem_singleton.1 he]

omit [Crypto] in
/-- Of two nodes, the one that is asked for is found. -/
theorem nearest_of_two :
    letI : Crypto := cryptoOf []
    ∃ localId second third target found leftOut, (machine.run (new localId)
        [.addNode second, .addNode third]).closestNodes target 1 = some found ∧
      found.length = 1 ∧ (found ++ leftOut).length = 2 ∧ xorTo target third = 0 ∧
      ∀ out ∈ leftOut, ∀ e ∈ found, xorTo target e ≤ xorTo target out := by
  let _ : Crypto := cryptoOf []
  let second : NodeInfo := ⟨secondPublisher, ⟨"quic", "203.0.113.7:4433"⟩, 0⟩
  let third : NodeInfo := ⟨thirdPublisher, ⟨"quic", "203.0.113.8:4433"⟩, 0⟩
  let t := machine.run (new firstPublisher.nodeId) [.addNode second, .addNode third]
  have htwo : t.len = 2 := by decide +kernel
  obtain ⟨found, leftOut, hfound, hperm, hlength, -, hfarther⟩ :=
    t.closestNodes_exact thirdPublisher.nodeId (Identity.length_nodeId_digest _) 1
  refine ⟨_, second, third, _, found, leftOut, hfound, ?_, ?_, ?_, ?_⟩
  · rw [hlength, htwo]
    rfl
  · rw [hperm.length_eq, length_allNodes, htwo]
  · exact Nat.xor_self _
  · exact fun out hout => (hfarther out hout).1

end BucketTable

end MeshProtocol
