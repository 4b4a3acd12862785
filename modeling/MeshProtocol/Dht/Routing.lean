import MeshProtocol.Core.Message
import MeshProtocol.Dht.Distance
import MeshProtocol.Library.Recency

/-!
# Kademlia routing table (`mesh-dht/src/routing.rs`)

256 k-buckets of up to `K` nodes each, ordered by when they were last seen.  A bucket holds no
identity twice, and a node is in the bucket of its distance to the local node; both are part of the
types, so every table a node can have is one of these.

`resolve_challenge` and `remove_node` have no caller outside tests; with them the table is in
`Dht/BucketTable.lean`.
-/

namespace MeshProtocol

open Fallible

/-- Kademlia replication parameter: maximum entries per bucket. -/
def K : ℕ := 20

/-- Number of k-buckets, one per bit of the key space. -/
abbrev NUM_BUCKETS : ℕ := 256

/-- Result of attempting to add a node to the routing table. -/
inductive AddNodeResult where
  | added
  | updated
  /-- The bucket is full; the caller should ping the least-recently-seen node to decide. -/
  | bucketFull (lrs candidate : NodeInfo)
deriving DecidableEq, Repr

/-! ## Buckets -/

/-- A single k-bucket; entries by last-seen time, the most recent last. -/
structure KBucket where
  entries : List NodeInfo
  bounded : entries.length ≤ K := by decide
  distinct : (entries.map NodeInfo.identity).Nodup := by decide

namespace KBucket

/-- A bucket without entries. -/
def new : KBucket where
  entries := []

/-- The entries with the entry of a node moved to the end and renewed. -/
def touch (entries : List NodeInfo) (node : NodeInfo) : List NodeInfo :=
  entries.eraseP (fun e => e.identity = node.identity) ++ [node]

lemma touch_eq_use {entries : List NodeInfo} {node : NodeInfo}
    (h : ∃ e ∈ entries, e.identity = node.identity) :
    touch entries node = Recency.use NodeInfo.identity K entries node := (if_pos h).symm

lemma perm_touch {entries : List NodeInfo} {node : NodeInfo}
    (h : ∃ e ∈ entries, e.identity = node.identity) :
    ((touch entries node).map NodeInfo.identity).Perm (entries.map NodeInfo.identity) := by
  rw [touch_eq_use h]
  exact Recency.perm_use_of_known K h

lemma length_touch {entries : List NodeInfo} {node : NodeInfo}
    (h : ∃ e ∈ entries, e.identity = node.identity) :
    (touch entries node).length = entries.length := by
  simpa using (perm_touch h).length_eq

lemma nodup_append_new {entries : List NodeInfo} {node : NodeInfo}
    (hdistinct : (entries.map NodeInfo.identity).Nodup)
    (hnew : ¬ ∃ e ∈ entries, e.identity = node.identity) :
    ((entries ++ [node]).map NodeInfo.identity).Nodup := by
  have huse :
      Recency.use NodeInfo.identity (entries.length + 1) entries node = entries ++ [node] := by
    rw [Recency.use, if_neg hnew, if_pos (Nat.lt_succ_self _)]
  rw [← huse]
  exact Recency.nodup_use _ hdistinct node

/-- Adds a node to its bucket. -/
def addNode (b : KBucket) (node : NodeInfo) : AddNodeResult × KBucket :=
  -- an entry of the same identity moves to the end
  if h : ∃ e ∈ b.entries, e.identity = node.identity then
    (.updated,
      { entries := touch b.entries node
        bounded := by rw [length_touch h]; exact b.bounded
        distinct := (perm_touch h).nodup_iff.2 b.distinct })
  else if hroom : b.entries.length < K then
    (.added,
      { entries := b.entries ++ [node]
        bounded := by rw [List.length_append]; exact hroom
        distinct := nodup_append_new b.distinct h })
  else
    have hfull : b.entries ≠ [] := by
      rintro hnil
      exact hroom (by rw [hnil]; decide)
    (.bucketFull (b.entries.head hfull) node, b)

lemma mem_addNode {b : KBucket} {node e : NodeInfo} (he : e ∈ (b.addNode node).2.entries) :
    e = node ∨ e ∈ b.entries := by
  unfold addNode at he
  split_ifs at he
  · rcases List.mem_append.1 he with hold | hnew
    · exact .inr (List.mem_of_mem_eraseP hold)
    · exact .inl (List.mem_singleton.1 hnew)
  · rcases List.mem_append.1 he with hold | hnew
    · exact .inr hold
    · exact .inl (List.mem_singleton.1 hnew)
  · exact .inr he

/-- A touched node replaces the entry of its identity. -/
lemma mem_touch {entries : List NodeInfo} (hdistinct : (entries.map NodeInfo.identity).Nodup)
    {node e : NodeInfo} :
    e ∈ touch entries node ↔ e = node ∨ (e ∈ entries ∧ e.identity ≠ node.identity) := by
  rw [touch, Recency.eraseP_eq_filter hdistinct, List.mem_append, List.mem_singleton,
    List.mem_filter, decide_eq_true_iff, or_comm]

/-- Adding a node replaces the entry of its identity or, in a full bucket without one, changes
nothing. -/
lemma mem_addNode_iff {b : KBucket} {node : NodeInfo}
    (h : (∃ e ∈ b.entries, e.identity = node.identity) ∨ b.entries.length < K) {e : NodeInfo} :
    e ∈ (b.addNode node).2.entries ↔
      e = node ∨ (e ∈ b.entries ∧ e.identity ≠ node.identity) := by
  unfold addNode
  split_ifs with hmem hroom
  · exact mem_touch b.distinct
  · rw [List.mem_append, List.mem_singleton, or_comm]
    have habsent : e ∈ b.entries → e.identity ≠ node.identity := fun he hid => hmem ⟨e, he, hid⟩
    tauto
  · exact absurd (h.resolve_left hmem) hroom

/-- The nodes of a list other than a given one. -/
def others (entries : List NodeInfo) (identity : Identity) : List NodeInfo :=
  entries.filter (·.identity ≠ identity)

lemma others_append (l l' : List NodeInfo) (identity : Identity) :
    others (l ++ l') identity = others l identity ++ others l' identity :=
  List.filter_append l l'

lemma others_of_absent {entries : List NodeInfo} {identity : Identity}
    (h : ¬ ∃ e ∈ entries, e.identity = identity) : others entries identity = entries := by
  refine List.filter_eq_self.2 fun e he => ?_
  simpa using fun hid => h ⟨e, he, hid⟩

/-- A present identity is one entry. -/
lemma length_others {b : KBucket} {identity : Identity}
    (h : ∃ e ∈ b.entries, e.identity = identity) :
    (others b.entries identity).length + 1 = b.entries.length := by
  have hcount : (b.entries.map NodeInfo.identity).count identity = 1 :=
    List.count_eq_one_of_mem b.distinct (by simpa using h)
  have hsplit := List.length_eq_countP_add_countP (fun e : NodeInfo => e.identity = identity)
    (l := b.entries)
  have hsame : b.entries.countP (fun e : NodeInfo => e.identity = identity) = 1 := by
    rw [← hcount, List.count, List.countP_map]
    rfl
  rw [hsplit, hsame, others, ← List.countP_eq_length_filter, add_comm]
  simp

/-- Adding a node leaves the others and the node, or, in a full bucket, changes nothing. -/
lemma addNode_cases (b : KBucket) (node : NodeInfo) :
    (b.addNode node).2.entries.length = (others b.entries node.identity).length + 1 ∨
      ((b.addNode node).2 = b ∧ K ≤ (others b.entries node.identity).length) := by
  unfold addNode
  split_ifs with hmem hroom
  · left
    rw [length_others hmem]
    exact length_touch hmem
  · left
    rw [others_of_absent hmem]
    exact List.length_append
  · right
    rw [others_of_absent hmem]
    exact ⟨rfl, not_lt.1 hroom⟩

end KBucket

/-! ## The table -/

variable [Crypto]

/-- Which bucket a node belongs to; `some none` if it is the local node. -/
def bucketFor (localId nodeId : Hash) : Option (Option (Fin NUM_BUCKETS)) :=
  (xorDistance localId nodeId).map bucketIndex

/-- The node IDs of some nodes. -/
def nodeIds (nodes : List NodeInfo) : List Hash := nodes.map fun node => node.identity.nodeId

/-- The routing table: 256 k-buckets indexed by XOR distance. -/
structure RoutingTable where
  localId : Hash
  buckets : Vector KBucket NUM_BUCKETS
  placed : ∀ i : Fin NUM_BUCKETS, ∀ e ∈ buckets[i].entries,
    bucketFor localId e.identity.nodeId = some (some i)

namespace RoutingTable

/-- An empty routing table of the given local node. -/
def new (localId : Hash) : RoutingTable where
  localId := localId
  buckets := Vector.replicate NUM_BUCKETS .new
  placed := by
    intro i e he
    simp [KBucket.new] at he

/-- The table with one bucket replaced. -/
def setBucket (t : RoutingTable) (i : Fin NUM_BUCKETS) (b : KBucket)
    (hb : ∀ e ∈ b.entries, bucketFor t.localId e.identity.nodeId = some (some i)) :
    RoutingTable where
  localId := t.localId
  buckets := t.buckets.set i b
  placed := by
    intro j e he
    by_cases hij : i = j
    · subst hij
      exact hb e (by simpa using he)
    · refine t.placed j e ?_
      simpa [Vector.getElem_set, Fin.val_ne_of_ne hij] using he

/-- Adds a node to the routing table. -/
def addNode (t : RoutingTable) (node : NodeInfo) : Option (AddNodeResult × RoutingTable) :=
  match h : bucketFor t.localId node.identity.nodeId with
  -- an index out of bounds
  | none => none
  -- the local node is not added, but that is no error
  | some none => some (.added, t)
  | some (some i) =>
    let added := t.buckets[i].addNode node
    have hplaced : ∀ e ∈ added.2.entries,
        bucketFor t.localId e.identity.nodeId = some (some i) := by
      intro e he
      obtain rfl | hold := KBucket.mem_addNode he
      · exact h
      · exact t.placed i e hold
    some (added.1, t.setBucket i added.2 hplaced)

/-- All nodes in the routing table. -/
def allNodes (t : RoutingTable) : List NodeInfo := t.buckets.toList.flatMap KBucket.entries

/-- The nodes closest to the target, the closest first. -/
def closestNodes (t : RoutingTable) (target : Hash) (count : ℕ) : Option (List NodeInfo) :=
  (sortBy (fun a b => distanceCmp target a.identity.nodeId b.identity.nodeId) t.allNodes).map
    (·.take count)

/-! ## Adding nodes -/

@[simp] lemma allNodes_new (localId : Hash) : (new localId).allNodes = [] := by
  refine List.flatMap_eq_nil_iff.2 fun b hb => ?_
  obtain ⟨-, rfl⟩ : NUM_BUCKETS ≠ 0 ∧ b = .new := by simpa [new] using hb
  rfl

@[simp] lemma setBucket_localId (t : RoutingTable) (i : Fin NUM_BUCKETS) (b : KBucket)
    (hb : ∀ e ∈ b.entries, bucketFor t.localId e.identity.nodeId = some (some i)) :
    (t.setBucket i b hb).localId = t.localId := rfl

/-- The nodes of a table are those before a bucket, those in it, and those after it; replacing the
bucket replaces the middle part. -/
lemma allNodes_split (t : RoutingTable) (i : Fin NUM_BUCKETS) :
    ∃ before after, t.allNodes = before ++ t.buckets[i].entries ++ after ∧
      (∀ e ∈ before ++ after, bucketFor t.localId e.identity.nodeId ≠ some (some i)) ∧
      ∀ b hb, (t.setBucket i b hb).allNodes = before ++ b.entries ++ after := by
  have hlen : t.buckets.toList.length = NUM_BUCKETS := by simp
  have hi : i.val < t.buckets.toList.length := by
    rw [hlen]
    exact i.isLt
  refine ⟨(t.buckets.toList.take i).flatMap KBucket.entries,
    (t.buckets.toList.drop (i + 1)).flatMap KBucket.entries, ?_, ?_, ?_⟩
  · conv_lhs => rw [allNodes, ← List.take_append_drop i.val t.buckets.toList,
      List.drop_eq_getElem_cons hi]
    simp
  · -- a node in another bucket belongs there
    have hother : ∀ j : Fin NUM_BUCKETS, j ≠ i → ∀ e ∈ t.buckets[j].entries,
        bucketFor t.localId e.identity.nodeId ≠ some (some i) := by
      intro j hji e he heq
      rw [t.placed j e he, Option.some.injEq, Option.some.injEq] at heq
      exact hji heq
    intro e he
    rcases List.mem_append.1 he with hbefore | hafter
    · obtain ⟨b, hb, heb⟩ := List.mem_flatMap.1 hbefore
      obtain ⟨j, hj, rfl⟩ := List.mem_take_iff_getElem.1 hb
      have hji : j < i.val := by omega
      exact hother ⟨j, by omega⟩ (Fin.ne_of_val_ne hji.ne) e (by simpa using heb)
    · obtain ⟨b, hb, heb⟩ := List.mem_flatMap.1 hafter
      obtain ⟨j, hj, rfl⟩ := List.mem_drop_iff_getElem.1 hb
      refine hother ⟨i + 1 + j, by omega⟩ (Fin.ne_of_val_ne (by simp; omega)) e ?_
      simpa using heb
  · intro b hb
    simp [allNodes, setBucket, Vector.toList_set, List.set_eq_take_append_cons_drop, i.isLt]

/-- Node ids are long enough to have a bucket. -/
lemma bucketFor_isSome (localId : Hash) (hlocal : 32 ≤ localId.digest.length)
    (identity : Identity) : (bucketFor localId identity.nodeId).isSome := by
  rw [bucketFor, Option.isSome_map, xorDistance_isSome_iff]
  exact ⟨hlocal, (Identity.length_nodeId_digest identity).ge⟩

/-- Adding a node cannot panic when the local ID has its 32 bytes. -/
lemma addNode_isSome {t : RoutingTable} (hlocal : 32 ≤ t.localId.digest.length)
    (node : NodeInfo) : (t.addNode node).isSome := by
  have hsome := bucketFor_isSome t.localId hlocal node.identity
  unfold addNode
  split
  case h_1 hnone =>
    rw [hnone] at hsome
    cases hsome
  case h_2 => rfl
  case h_3 => rfl

lemma localId_of_addNode {t t' : RoutingTable} {node : NodeInfo} {result : AddNodeResult}
    (h : t.addNode node = some (result, t')) : t'.localId = t.localId := by
  unfold addNode at h
  split at h
  case h_1 => cases h
  case h_2 =>
    obtain ⟨-, rfl⟩ := Prod.mk.inj (Option.some.inj h)
    rfl
  case h_3 =>
    obtain ⟨-, rfl⟩ := Prod.mk.inj (Option.some.inj h)
    rfl

/-- Every node of a table is in its bucket. -/
lemma mem_bucket_of_mem {t : RoutingTable} {e : NodeInfo} (he : e ∈ t.allNodes) :
    ∃ i : Fin NUM_BUCKETS, bucketFor t.localId e.identity.nodeId = some (some i) ∧
      e ∈ t.buckets[i].entries := by
  obtain ⟨b, hb, heb⟩ := List.mem_flatMap.1 he
  obtain ⟨i, hi, rfl⟩ := List.mem_iff_getElem.1 hb
  have hmem : e ∈ t.buckets[(⟨i, by simpa using hi⟩ : Fin NUM_BUCKETS)].entries := by
    simpa using heb
  exact ⟨_, t.placed _ e hmem, hmem⟩

lemma length_bucket_le (t : RoutingTable) (i : Fin NUM_BUCKETS) :
    t.buckets[i].entries.length ≤ t.allNodes.length := by
  obtain ⟨before, after, hall, -, -⟩ := t.allNodes_split i
  rw [hall, List.length_append, List.length_append]
  omega

omit [Crypto] in
/-- Where the key of a node tells its bucket, two buckets have no key in common. -/
lemma pairwise_disjoint_of_placed {β κ : Type*} {buckets : Vector β NUM_BUCKETS}
    {entries : β → List NodeInfo} {key : NodeInfo → κ}
    {f : κ → Option (Option (Fin NUM_BUCKETS))}
    (h : ∀ i : Fin NUM_BUCKETS, ∀ e ∈ entries buckets[i], f (key e) = some (some i)) :
    buckets.toList.Pairwise fun b b' =>
      List.Disjoint ((entries b).map key) ((entries b').map key) := by
  rw [List.pairwise_iff_getElem]
  intro i j hi hj hij k hleft hright
  have hi' : i < NUM_BUCKETS := by simpa using hi
  have hj' : j < NUM_BUCKETS := by simpa using hj
  obtain ⟨e, he, rfl⟩ := List.mem_map.1 hleft
  obtain ⟨e', he', hkey⟩ := List.mem_map.1 hright
  have hplaced := h ⟨i, hi'⟩ e (by simpa using he)
  rw [← hkey, h ⟨j, hj'⟩ e' (by simpa using he')] at hplaced
  have heq : j = i := by simpa using hplaced
  omega

/-- No identity is in a table twice: not in one bucket, and not in the buckets of two distances. -/
lemma nodup_allNodes (t : RoutingTable) : (t.allNodes.map NodeInfo.identity).Nodup := by
  rw [allNodes, List.map_flatMap, List.nodup_flatMap]
  constructor
  · intro b _
    exact b.distinct
  · exact pairwise_disjoint_of_placed (f := fun id => bucketFor t.localId id.nodeId) t.placed

/-- The entries of one identity are one entry. -/
lemma eq_of_identity_eq {t : RoutingTable} {e e' : NodeInfo} (he : e ∈ t.allNodes)
    (he' : e' ∈ t.allNodes) (hid : e.identity = e'.identity) : e = e' :=
  List.inj_on_of_nodup_map t.nodup_allNodes he he' hid

/-- No node of a table has the local ID. -/
lemma nodeId_ne_localId {t : RoutingTable} {e : NodeInfo} (he : e ∈ t.allNodes) :
    e.identity.nodeId ≠ t.localId := by
  intro heq
  obtain ⟨i, hplaced, -⟩ := mem_bucket_of_mem he
  obtain ⟨distance, hdistance, hbucket⟩ := Option.map_eq_some_iff.1 hplaced
  rw [(bucketIndex_eq_none_iff hdistance).2 (by rw [heq])] at hbucket
  cases hbucket

/-- The local node is not added. -/
lemma addNode_of_local {t : RoutingTable} {node : NodeInfo}
    (h : bucketFor t.localId node.identity.nodeId = some none) :
    t.addNode node = some (.added, t) := by
  unfold addNode
  split
  case h_1 hnone => cases hnone.symm.trans h
  case h_2 => rfl
  case h_3 i hi => cases hi.symm.trans h

/-- A node whose bucket has room, or that is known already, replaces the entry of its identity. -/
lemma mem_allNodes_addNode {t t' : RoutingTable} {node : NodeInfo} {result : AddNodeResult}
    {i : Fin NUM_BUCKETS} (hadd : t.addNode node = some (result, t'))
    (hi : bucketFor t.localId node.identity.nodeId = some (some i))
    (hroom : (∃ e ∈ t.allNodes, e.identity = node.identity) ∨ t.buckets[i].entries.length < K)
    {e : NodeInfo} :
    e ∈ t'.allNodes ↔ e = node ∨ (e ∈ t.allNodes ∧ e.identity ≠ node.identity) := by
  obtain ⟨before, after, hall, hother, hset⟩ := t.allNodes_split i
  have hbucket : (∃ e ∈ t.buckets[i].entries, e.identity = node.identity) ∨
      t.buckets[i].entries.length < K := by
    refine hroom.imp_left ?_
    rintro ⟨e, he, hid⟩
    obtain ⟨j, hj, hmem⟩ := mem_bucket_of_mem he
    rw [hid, hi] at hj
    obtain rfl := Option.some.inj (Option.some.inj hj)
    exact ⟨e, hmem, hid⟩
  have helse : ∀ a ∈ before ++ after, a.identity ≠ node.identity := fun a ha hid =>
    hother a ha (hid ▸ hi)
  unfold addNode at hadd
  split at hadd
  case h_1 hnone => cases hnone.symm.trans hi
  case h_2 hnone => cases hnone.symm.trans hi
  case h_3 j hj =>
    obtain rfl : j = i := Option.some.inj (Option.some.inj (hj.symm.trans hi))
    obtain ⟨-, rfl⟩ := Prod.mk.inj (Option.some.inj hadd)
    rw [hset, hall]
    simp only [List.mem_append, KBucket.mem_addNode_iff hbucket] at helse ⊢
    constructor
    · rintro ((hb | rfl | ⟨hm, hne⟩) | ha)
      · exact .inr ⟨.inl (.inl hb), helse e (.inl hb)⟩
      · exact .inl rfl
      · exact .inr ⟨.inl (.inr hm), hne⟩
      · exact .inr ⟨.inr ha, helse e (.inr ha)⟩
    · rintro (rfl | ⟨(hb | hm) | ha, hne⟩)
      · exact .inl (.inr (.inl rfl))
      · exact .inl (.inl hb)
      · exact .inl (.inr (.inr ⟨hm, hne⟩))
      · exact .inr ha

/-- How many nodes a table names besides an identity. -/
def othersCount (t : RoutingTable) (identity : Identity) : ℕ :=
  (KBucket.others t.allNodes identity).length

/-- Adding a node makes a table at most one node longer. -/
lemma length_addNode_le {t t' : RoutingTable} {node : NodeInfo} {result : AddNodeResult}
    (h : t.addNode node = some (result, t')) : t'.allNodes.length ≤ t.allNodes.length + 1 := by
  unfold addNode at h
  split at h
  case h_1 => cases h
  case h_2 =>
    obtain ⟨-, rfl⟩ := Prod.mk.inj (Option.some.inj h)
    exact Nat.le_succ _
  case h_3 i hi =>
    obtain ⟨-, rfl⟩ := Prod.mk.inj (Option.some.inj h)
    obtain ⟨before, after, hall, -, hset⟩ := t.allNodes_split i
    rw [hset, hall]
    simp only [List.length_append]
    obtain hlen | ⟨hsame, -⟩ := t.buckets[i].addNode_cases node
    · have hle : (KBucket.others t.buckets[i].entries node.identity).length ≤
          t.buckets[i].entries.length := List.length_filter_le _ _
      omega
    · rw [hsame]
      omega

/-- After a node is added the table holds at most one node exactly if it held no other one, or if
the node is the local one and the table held at most one. -/
theorem length_addNode_le_one_iff {t t' : RoutingTable} {node : NodeInfo} {result : AddNodeResult}
    (h : t.addNode node = some (result, t')) :
    t'.allNodes.length ≤ 1 ↔
      t.othersCount node.identity +
        (if bucketFor t.localId node.identity.nodeId = some none then 0 else 1) ≤ 1 := by
  unfold addNode at h
  split at h
  case h_1 => cases h
  case h_2 hself =>
    obtain ⟨-, rfl⟩ := Prod.mk.inj (Option.some.inj h)
    -- the local node is in no bucket, so every entry is another node
    have habsent : ¬ ∃ e ∈ t.allNodes, e.identity = node.identity := by
      rintro ⟨e, he, hid⟩
      obtain ⟨i, hplaced, -⟩ := mem_bucket_of_mem he
      rw [hid, hself] at hplaced
      cases hplaced
    rw [othersCount, KBucket.others_of_absent habsent, if_pos hself, add_zero]
  case h_3 i hi =>
    obtain ⟨-, rfl⟩ := Prod.mk.inj (Option.some.inj h)
    obtain ⟨before, after, hall, hother, hset⟩ := t.allNodes_split i
    have habsent : ∀ l ⊆ before ++ after, KBucket.others l node.identity = l := by
      intro l hl
      refine KBucket.others_of_absent ?_
      rintro ⟨e, he, hid⟩
      exact hother e (hl he) (hid ▸ hi)
    have hcount : t.othersCount node.identity =
        before.length + (KBucket.others t.buckets[i].entries node.identity).length +
          after.length := by
      rw [othersCount, hall, KBucket.others_append, KBucket.others_append,
        habsent before (List.subset_append_left _ _), habsent after (List.subset_append_right _ _),
        List.length_append, List.length_append]
    have hnotSelf : bucketFor t.localId node.identity.nodeId ≠ some none := by simp [hi]
    rw [hset, hcount, if_neg hnotSelf, List.length_append, List.length_append]
    obtain hlen | ⟨hsame, hfull⟩ := t.buckets[i].addNode_cases node
    · omega
    · have hle : (KBucket.others t.buckets[i].entries node.identity).length ≤
          t.buckets[i].entries.length := List.length_filter_le _ _
      rw [hsame]
      unfold K at hfull
      omega

/-! ## The closest nodes -/

/-- The distance of a node to a target that has the bytes to compare. -/
def distanceTo (target : Hash) (node : NodeInfo) : List UInt8 :=
  (target.digest.take 32).zipWith (· ^^^ ·) (node.identity.nodeId.digest.take 32)

lemma distanceCmp_nodes {target : Hash} (h : 32 ≤ target.digest.length) (a b : NodeInfo) :
    distanceCmp target a.identity.nodeId b.identity.nodeId =
      some (compare (distanceTo target a) (distanceTo target b)) :=
  distanceCmp_eq h (Identity.length_nodeId_digest _).ge (Identity.length_nodeId_digest _).ge

/-- The nodes found are the first of all nodes in the order of their distance, so none that is left
out is closer than one that is found. -/
theorem closestNodes_nearest (t : RoutingTable) {target : Hash} (count : ℕ)
    (h : 32 ≤ target.digest.length) :
    ∃ found rest, t.closestNodes target count = some found ∧ (found ++ rest).Perm t.allNodes ∧
      found.length = min count t.allNodes.length ∧
      (found ++ rest).Pairwise fun a b =>
        (compare (distanceTo target a) (distanceTo target b)).isLE := by
  rw [closestNodes]
  exact take_sortBy_of_key (fun a _ b _ => distanceCmp_nodes h a b) count

/-- The nodes found are nodes of the table, and no more than asked for. -/
lemma closestNodes_bounded {t : RoutingTable} {target : Hash} {count : ℕ} {found : List NodeInfo}
    (h : t.closestNodes target count = some found) :
    found ⊆ t.allNodes ∧ found.length ≤ count := by
  obtain ⟨sorted, hsort, rfl⟩ := Option.map_eq_some_iff.1 h
  constructor
  · intro e he
    exact (perm_of_sortBy hsort).mem_iff.1 (List.mem_of_mem_take he)
  · exact List.length_take_le _ _

/-- With room for all, the nodes found are all nodes of the table. -/
lemma closestNodes_perm {t : RoutingTable} {target : Hash} {count : ℕ} {found : List NodeInfo}
    (h : t.closestNodes target count = some found) (hcount : t.allNodes.length ≤ count) :
    found.Perm t.allNodes := by
  obtain ⟨sorted, hsort, rfl⟩ := Option.map_eq_some_iff.1 h
  have hperm := perm_of_sortBy hsort
  rwa [List.take_of_length_le (hperm.length_eq ▸ hcount)]

/-- The closest nodes can be found exactly when there is nothing to compare or the target has the
32 bytes that the comparison reads. -/
theorem closestNodes_isSome_iff {t : RoutingTable} {target : Hash} (count : ℕ) :
    (t.closestNodes target count).isSome ↔
      t.allNodes.length ≤ 1 ∨ 32 ≤ target.digest.length := by
  rw [closestNodes, Option.isSome_map]
  by_cases hone : t.allNodes.length ≤ 1
  · simp [sortBy_of_length_le_one hone, hone]
  · by_cases hlong : 32 ≤ target.digest.length
    · rw [sortBy_of_total fun a _ b _ => distanceCmp_nodes hlong a b]
      simp [hlong]
    · rw [sortBy_eq_none (by omega) fun a _ b _ => distanceCmp_eq_none (by omega) _ _]
      simp [hone, hlong]

/-! ### Tables that differ at one identity -/

/-- The tables differ at most in the entries of the given identity: in each bucket the others are
the same, seen at the same times and in the same order. -/
def TouchedOnlyAt (peerIdentity : Option Identity) (t t' : RoutingTable) : Prop :=
  t'.localId = t.localId ∧ ∀ i : Fin NUM_BUCKETS,
    (t'.buckets[i].entries.filter fun e => some e.identity ≠ peerIdentity) =
      t.buckets[i].entries.filter fun e => some e.identity ≠ peerIdentity

lemma TouchedOnlyAt.refl (peerIdentity : Option Identity) (t : RoutingTable) :
    TouchedOnlyAt peerIdentity t t := ⟨rfl, fun _ => rfl⟩

end RoutingTable

end MeshProtocol
