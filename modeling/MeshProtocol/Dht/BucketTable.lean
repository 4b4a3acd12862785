import MeshProtocol.Core.Reference
import MeshProtocol.Dht.Routing
import MeshProtocol.Library.Machine

/-!
# The routing table under all its operations (`mesh-dht/src/routing.rs`)

A node only ever calls `add_node`, which keeps the tables of `Dht/Routing.lean` free of repetitions
by their type.  `resolve_challenge` inserts without looking, so here the buckets are any lists, as
in the source, and what holds of them is proved over the runs of `add_node`, `resolve_challenge` and
`remove_node`: buckets stay bounded, nodes stay in the bucket of their distance, and an identity
leaves only where its node ID is named (`run_sound`).  That no node ID is there twice is no such
invariant (`nodeIds_distinct_iff`).
-/

namespace MeshProtocol

open Fallible

/-- The routing table, its buckets any lists of nodes. -/
structure BucketTable where
  localId : Hash
  buckets : Vector (List NodeInfo) NUM_BUCKETS

/-- A call of one of the operations that change the table. -/
inductive TableCall where
  | addNode (node : NodeInfo)
  | resolveChallenge (lrsId : Hash) (candidate : NodeInfo) (lrsResponded : Bool)
  | removeNode (nodeId : Hash)
deriving DecidableEq, Repr

variable [Crypto]

namespace BucketTable

/-- An empty routing table of the given local node. -/
def new (localId : Hash) : BucketTable where
  localId := localId
  buckets := Vector.replicate NUM_BUCKETS []

/-- All nodes in the routing table. -/
def allNodes (t : BucketTable) : List NodeInfo := t.buckets.toList.flatten

/-- The nodes closest to the target, the closest first. -/
def closestNodes (t : BucketTable) (target : Hash) (count : ℕ) : Option (List NodeInfo) :=
  (sortBy (fun a b => distanceCmp target a.identity.nodeId b.identity.nodeId) t.allNodes).map
    (·.take count)

/-- The entries of a bucket. -/
def bucket (t : BucketTable) (i : Fin NUM_BUCKETS) : List NodeInfo := t.buckets.get i

/-- The table with one bucket replaced. -/
def setEntries (t : BucketTable) (i : Fin NUM_BUCKETS) (entries : List NodeInfo) : BucketTable :=
  { t with buckets := t.buckets.set i entries i.isLt }

/-! ## Operations on a bucket -/

omit [Crypto] in
lemma ne_nil_of_full {entries : List NodeInfo} (h : ¬ entries.length < K) : entries ≠ [] := by
  rintro rfl
  exact h (by decide)

/-- What `add_node` does to the bucket of the node. -/
def addEntry (entries : List NodeInfo) (node : NodeInfo) : AddNodeResult × List NodeInfo :=
  if ∃ e ∈ entries, e.identity = node.identity then
    (.updated, KBucket.touch entries node)
  else if hroom : entries.length < K then
    (.added, entries ++ [node])
  else
    (.bucketFull (entries.head (ne_nil_of_full hroom)) node, entries)

/-- The entries without those of a node ID. -/
def dropNode (entries : List NodeInfo) (nodeId : Hash) : List NodeInfo :=
  entries.filter (·.identity.nodeId ≠ nodeId)

/-- What `resolve_challenge` does to the bucket of the candidate. -/
def resolveEntries (entries : List NodeInfo) (lrsId : Hash) (candidate : NodeInfo)
    (lrsResponded : Bool) : List NodeInfo :=
  if lrsResponded then
    -- the least-recently-seen node is alive and moves to the end
    match entries.find? (·.identity.nodeId = lrsId) with
    | some lrs => entries.eraseP (·.identity.nodeId = lrsId) ++ [lrs]
    | none => entries
  else
    -- it is dead, and the candidate takes its place
    let kept := dropNode entries lrsId
    if kept.length < K then kept ++ [candidate] else kept

/-! ## Operations on the table -/

/-- Adds a node to the routing table. -/
def addNode (t : BucketTable) (node : NodeInfo) : Option (AddNodeResult × BucketTable) := do
  match ← bucketFor t.localId node.identity.nodeId with
  -- the local node is not added, but that is no error
  | none => return (.added, t)
  | some i =>
    let added := addEntry (t.bucket i) node
    return (added.1, t.setEntries i added.2)

/-- Resolves a ping challenge after a full bucket. -/
def resolveChallenge (t : BucketTable) (lrsId : Hash) (candidate : NodeInfo)
    (lrsResponded : Bool) : Option BucketTable := do
  match ← bucketFor t.localId candidate.identity.nodeId with
  | none => return t
  | some i => return t.setEntries i (resolveEntries (t.bucket i) lrsId candidate lrsResponded)

/-- Removes a node from the routing table by its node ID. -/
def removeNode (t : BucketTable) (nodeId : Hash) : Option BucketTable := do
  match ← bucketFor t.localId nodeId with
  | none => return t
  | some i => return t.setEntries i (dropNode (t.bucket i) nodeId)

/-- The table after a call, unless it panics. -/
def call (t : BucketTable) : TableCall → Option BucketTable
  | .addNode node => (t.addNode node).map Prod.snd
  | .resolveChallenge lrsId candidate lrsResponded =>
    t.resolveChallenge lrsId candidate lrsResponded
  | .removeNode nodeId => t.removeNode nodeId

/-- The table as a machine.  A call panics before it has changed anything. -/
def machine : Machine BucketTable TableCall Unit where
  step t c := ((), (t.call c).getD t)

end BucketTable

/-! ## What a call does -/

namespace TableCall

/-- The node ID whose bucket a call works on. -/
def subject : TableCall → Hash
  | .addNode node => node.identity.nodeId
  | .resolveChallenge _ candidate _ => candidate.identity.nodeId
  | .removeNode nodeId => nodeId

/-- What a call does to that bucket. -/
def effect (entries : List NodeInfo) : TableCall → List NodeInfo
  | .addNode node => (BucketTable.addEntry entries node).2
  | .resolveChallenge lrsId candidate lrsResponded =>
    BucketTable.resolveEntries entries lrsId candidate lrsResponded
  | .removeNode nodeId => BucketTable.dropNode entries nodeId

/-- The calls that name a node ID for removal. -/
def Evicts (c : TableCall) (nodeId : Hash) : Prop :=
  c = .removeNode nodeId ∨ ∃ candidate, c = .resolveChallenge nodeId candidate false

end TableCall

namespace BucketTable

open TableCall

/-- A call changes the bucket of its subject and no other. -/
lemma step_cases (t : BucketTable) (c : TableCall) :
    ((machine.step t c).2 = t ∧ ∀ i, bucketFor t.localId c.subject ≠ some (some i)) ∨
      ∃ i, bucketFor t.localId c.subject = some (some i) ∧
        (machine.step t c).2 = t.setEntries i (c.effect (t.bucket i)) := by
  rcases hbucket : bucketFor t.localId c.subject with _ | _ | i
  · refine .inl ⟨?_, by simp⟩
    cases c <;> simp_all [machine, call, addNode, resolveChallenge, removeNode, subject]
  · refine .inl ⟨?_, by simp⟩
    cases c <;> simp_all [machine, call, addNode, resolveChallenge, removeNode, subject]
  · refine .inr ⟨i, rfl, ?_⟩
    cases c <;>
      simp_all [machine, call, addNode, resolveChallenge, removeNode, subject, effect]

/-! ### Bounded, placed, and leaving only when named -/

/-- A node that is alive only changes its place. -/
lemma perm_resolveEntries (entries : List NodeInfo) (lrsId : Hash) (candidate : NodeInfo) :
    (resolveEntries entries lrsId candidate true).Perm entries := by
  rw [resolveEntries, if_pos rfl]
  induction entries with
  | nil => exact .refl _
  | cons e entries ih =>
    by_cases hlrs : e.identity.nodeId = lrsId
    · rw [List.find?_cons_of_pos (by simpa using hlrs),
        List.eraseP_cons_of_pos (by simpa using hlrs)]
      exact List.perm_append_singleton e entries
    · rw [List.find?_cons_of_neg (by simpa using hlrs),
        List.eraseP_cons_of_neg (by simpa using hlrs)]
      cases hfind : entries.find? (·.identity.nodeId = lrsId) with
      | none => exact .refl _
      | some lrs =>
        rw [hfind] at ih
        exact ih.cons e

lemma length_effect_le {entries : List NodeInfo} (h : entries.length ≤ K) (c : TableCall) :
    (c.effect entries).length ≤ K := by
  cases c with
  | addNode node =>
    simp only [effect, addEntry]
    split_ifs with hmem hroom
    · exact (KBucket.length_touch hmem).trans_le h
    · rw [List.length_append]
      exact hroom
    · exact h
  | resolveChallenge lrsId candidate lrsResponded =>
    cases lrsResponded with
    | true => exact (perm_resolveEntries entries lrsId candidate).length_eq.trans_le h
    | false =>
      simp only [effect, resolveEntries, Bool.false_eq_true, if_false]
      split_ifs with hroom
      · rw [List.length_append]
        exact hroom
      · exact (List.length_filter_le _ _).trans h
  | removeNode nodeId => exact (List.length_filter_le _ _).trans h

/-- Only the subject comes into the bucket. -/
lemma mem_effect {entries : List NodeInfo} {c : TableCall} {e : NodeInfo}
    (he : e ∈ c.effect entries) : e ∈ entries ∨ e.identity.nodeId = c.subject := by
  cases c with
  | addNode node =>
    simp only [effect, addEntry] at he
    split_ifs at he
    · rcases List.mem_append.1 he with hold | hnew
      · exact .inl (List.mem_of_mem_eraseP hold)
      · exact .inr (by rw [List.mem_singleton.1 hnew]; rfl)
    · rcases List.mem_append.1 he with hold | hnew
      · exact .inl hold
      · exact .inr (by rw [List.mem_singleton.1 hnew]; rfl)
    · exact .inl he
  | resolveChallenge lrsId candidate lrsResponded =>
    cases lrsResponded with
    | true => exact .inl ((perm_resolveEntries entries lrsId candidate).mem_iff.1 he)
    | false =>
      simp only [effect, resolveEntries, Bool.false_eq_true, if_false] at he
      split_ifs at he
      · rcases List.mem_append.1 he with hkept | hnew
        · exact .inl (List.mem_filter.1 hkept).1
        · exact .inr (by rw [List.mem_singleton.1 hnew]; rfl)
      · exact .inl (List.mem_filter.1 he).1
  | removeNode nodeId => exact .inl (List.mem_filter.1 he).1

/-- An identity stays unless its node ID is named. -/
lemma identity_effect {entries : List NodeInfo} {c : TableCall} {e : NodeInfo} (he : e ∈ entries)
    (hnot : ¬ c.Evicts e.identity.nodeId) :
    e.identity ∈ (c.effect entries).map NodeInfo.identity := by
  have hmem := List.mem_map_of_mem (f := NodeInfo.identity) he
  cases c with
  | addNode node =>
    simp only [effect, addEntry]
    split_ifs with hknown
    · exact (KBucket.perm_touch hknown).mem_iff.2 hmem
    · rw [List.map_append]
      exact List.mem_append_left _ hmem
    · exact hmem
  | resolveChallenge lrsId candidate lrsResponded =>
    cases lrsResponded with
    | true =>
      exact ((perm_resolveEntries entries lrsId candidate).map NodeInfo.identity).mem_iff.2 hmem
    | false =>
      have hne : e.identity.nodeId ≠ lrsId := by
        rintro rfl
        exact hnot (.inr ⟨candidate, rfl⟩)
      have hkept : e ∈ dropNode entries lrsId := List.mem_filter.2 ⟨he, by simpa using hne⟩
      simp only [effect, resolveEntries, Bool.false_eq_true, if_false]
      split_ifs
      · exact List.mem_map_of_mem (List.mem_append_left _ hkept)
      · exact List.mem_map_of_mem hkept
  | removeNode nodeId =>
    have hne : e.identity.nodeId ≠ nodeId := by
      rintro rfl
      exact hnot (.inl rfl)
    exact List.mem_map_of_mem (List.mem_filter.2 ⟨he, by simpa using hne⟩)

/-- What every table keeps: bounded buckets, nodes in the bucket of their distance, and not the
local node. -/
structure Sound (t : BucketTable) : Prop where
  bounded : ∀ i : Fin NUM_BUCKETS, (t.bucket i).length ≤ K
  placed : ∀ i : Fin NUM_BUCKETS, ∀ e ∈ t.bucket i,
    bucketFor t.localId e.identity.nodeId = some (some i)
  foreign : ∀ e ∈ t.allNodes, e.identity.nodeId ≠ t.localId

omit [Crypto] in
lemma mem_allNodes {t : BucketTable} {e : NodeInfo} :
    e ∈ t.allNodes ↔ ∃ i : Fin NUM_BUCKETS, e ∈ t.bucket i := by
  rw [allNodes, List.mem_flatten]
  constructor
  · rintro ⟨entries, hentries, he⟩
    obtain ⟨i, hi, rfl⟩ := Vector.mem_iff_getElem.1 (Vector.mem_toList_iff.1 hentries)
    exact ⟨⟨i, hi⟩, he⟩
  · rintro ⟨i, he⟩
    exact ⟨t.bucket i, Vector.mem_toList_iff.2 (Vector.getElem_mem i.isLt), he⟩

omit [Crypto] in
lemma bucket_setEntries (t : BucketTable) (i j : Fin NUM_BUCKETS) (entries : List NodeInfo) :
    (t.setEntries i entries).bucket j = if i = j then entries else t.bucket j := by
  change (t.buckets.set i entries i.isLt)[j] = if i = j then entries else t.buckets[j]
  simp [Vector.getElem_set, Fin.val_inj]

omit [Crypto] in
@[simp] lemma bucket_new (localId : Hash) (i : Fin NUM_BUCKETS) : (new localId).bucket i = [] := by
  change (Vector.replicate NUM_BUCKETS [])[i] = []
  exact Vector.getElem_replicate i.isLt

/-- The local node belongs in no bucket. -/
lemma foreign_of_placed {t : BucketTable} (h : ∀ i : Fin NUM_BUCKETS, ∀ e ∈ t.bucket i,
    bucketFor t.localId e.identity.nodeId = some (some i)) :
    ∀ e ∈ t.allNodes, e.identity.nodeId ≠ t.localId := by
  intro e he heq
  obtain ⟨i, hi⟩ := mem_allNodes.1 he
  obtain ⟨distance, hdistance, hbucket⟩ := Option.map_eq_some_iff.1 (h i e hi)
  rw [(bucketIndex_eq_none_iff hdistance).2 (by rw [heq])] at hbucket
  cases hbucket

lemma sound_new (localId : Hash) : (new localId).Sound where
  bounded i := by simp
  placed i e he := by simp at he
  foreign e he := by simp [allNodes, new] at he

@[simp] lemma localId_step (t : BucketTable) (c : TableCall) :
    (machine.step t c).2.localId = t.localId := by
  obtain ⟨hsame, -⟩ | ⟨i, -, hset⟩ := t.step_cases c
  · rw [hsame]
  · rw [hset]
    rfl

/-- One call keeps a table sound. -/
lemma Sound.step {t : BucketTable} (h : t.Sound) (c : TableCall) : (machine.step t c).2.Sound := by
  obtain ⟨hsame, -⟩ | ⟨i, hbucket, hset⟩ := t.step_cases c
  · rwa [hsame]
  · have hplaced : ∀ j : Fin NUM_BUCKETS, ∀ e ∈ (machine.step t c).2.bucket j,
        bucketFor (machine.step t c).2.localId e.identity.nodeId = some (some j) := by
      intro j e he
      rw [localId_step]
      rw [hset, bucket_setEntries] at he
      split_ifs at he with hij
      · subst hij
        rcases mem_effect he with hold | hsubject
        · exact h.placed i e hold
        · rw [hsubject]
          exact hbucket
      · exact h.placed j e he
    refine ⟨fun j => ?_, hplaced, foreign_of_placed hplaced⟩
    rw [hset, bucket_setEntries]
    split_ifs
    · exact length_effect_le (h.bounded i) c
    · exact h.bounded j

/-- An identity leaves the table only by a call that names its node ID. -/
lemma evicts_of_left {t : BucketTable} {c : TableCall} {identity : Identity}
    (hin : identity ∈ t.allNodes.map NodeInfo.identity)
    (hout : identity ∉ (machine.step t c).2.allNodes.map NodeInfo.identity) :
    c.Evicts identity.nodeId := by
  by_contra hnot
  refine hout ?_
  obtain ⟨e, he, rfl⟩ := List.mem_map.1 hin
  obtain ⟨i, hi⟩ := mem_allNodes.1 he
  obtain ⟨hsame, -⟩ | ⟨j, -, hset⟩ := t.step_cases c
  · rw [hsame]
    exact hin
  · rw [hset]
    by_cases hji : j = i
    · subst hji
      obtain ⟨e', he', hid⟩ := List.mem_map.1 (identity_effect hi hnot)
      refine List.mem_map.2 ⟨e', mem_allNodes.2 ⟨j, ?_⟩, hid⟩
      rwa [bucket_setEntries, if_pos rfl]
    · refine List.mem_map_of_mem (mem_allNodes.2 ⟨i, ?_⟩)
      rwa [bucket_setEntries, if_neg hji]

/-- Whatever calls are made on a table, its buckets are bounded, its nodes are in the bucket of
their distance to the local node and are not the local node, and the next call takes an identity out
only if it names its node ID. -/
theorem run_sound (localId : Hash) (calls : List TableCall) :
    (machine.run (new localId) calls).localId = localId ∧
      (machine.run (new localId) calls).Sound ∧
      ∀ c identity, identity ∈ (machine.run (new localId) calls).allNodes.map NodeInfo.identity →
        identity ∉ (machine.run (new localId) (calls ++ [c])).allNodes.map NodeInfo.identity →
        c.Evicts identity.nodeId := by
  refine ⟨?_, ?_, fun c identity hin hout => ?_⟩
  · refine Machine.run_invariant (P := fun t : BucketTable => t.localId = localId) rfl ?_ calls
    intro t c h
    rwa [localId_step]
  · exact Machine.run_invariant (P := Sound) (sound_new localId) (fun t c h => h.step c) calls
  · rw [Machine.run_concat] at hout
    exact evicts_of_left hin hout

/-! ### No node twice -/

/-- No node ID is in the table twice, and `closest_nodes` finds none twice. -/
structure NodeIdsDistinct (t : BucketTable) : Prop where
  entries : (nodeIds t.allNodes).Nodup
  found : ∀ target count found, t.closestNodes target count = some found → (nodeIds found).Nodup

/-- Where a call enters a node, it does not enter a node ID that stays in the bucket. -/
def EntersNew (entries : List NodeInfo) : TableCall → Prop
  | .addNode node => ∀ e ∈ entries, e.identity.nodeId = node.identity.nodeId →
      e.identity = node.identity ∨ K ≤ entries.length
  | .resolveChallenge lrsId candidate lrsResponded => lrsResponded = false →
      ∀ e ∈ entries, e.identity.nodeId = candidate.identity.nodeId →
        candidate.identity.nodeId = lrsId ∨
          (K ≤ entries.length ∧ ∀ e' ∈ entries, e'.identity.nodeId ≠ lrsId)
  | .removeNode _ => True

lemma nodup_nodeIds_append {entries : List NodeInfo} (h : (nodeIds entries).Nodup)
    {node : NodeInfo} : (nodeIds (entries ++ [node])).Nodup ↔
      ∀ e ∈ entries, e.identity.nodeId ≠ node.identity.nodeId := by
  rw [nodeIds, List.map_append, List.nodup_append]
  simp only [List.map_cons, List.map_nil, List.mem_singleton, List.mem_map]
  constructor
  · rintro ⟨-, -, hne⟩ e he
    exact hne _ ⟨e, he, rfl⟩ _ rfl
  · intro hne
    refine ⟨h, List.nodup_singleton _, ?_⟩
    rintro id ⟨e, he, rfl⟩ id' rfl
    exact hne e he

lemma nodup_nodeIds_dropNode {entries : List NodeInfo} (h : (nodeIds entries).Nodup)
    (nodeId : Hash) : (nodeIds (dropNode entries nodeId)).Nodup :=
  (List.filter_sublist.map _).nodup h

lemma dropNode_of_absent {entries : List NodeInfo} {nodeId : Hash}
    (h : ∀ e ∈ entries, e.identity.nodeId ≠ nodeId) : dropNode entries nodeId = entries :=
  List.filter_eq_self.2 fun e he => decide_eq_true (h e he)

/-- A bucket of different node IDs keeps them different exactly if the call enters none
that stays. -/
lemma nodup_effect_iff {entries : List NodeInfo} (h : (nodeIds entries).Nodup)
    (hbounded : entries.length ≤ K) (c : TableCall) :
    (nodeIds (c.effect entries)).Nodup ↔ EntersNew entries c := by
  cases c with
  | addNode node =>
    simp only [effect, addEntry, EntersNew]
    split_ifs with hknown hroom
    · have hperm := (KBucket.perm_touch hknown).map Identity.nodeId
      rw [List.map_map, List.map_map] at hperm
      obtain ⟨e, he, hid⟩ := hknown
      refine iff_of_true (hperm.nodup_iff.2 h) fun e' he' hid' => .inl ?_
      -- entries with one node ID are one entry
      have heq : e' = e := List.inj_on_of_nodup_map h he' he (by rw [hid', hid])
      rw [heq, hid]
    · rw [nodup_nodeIds_append h]
      refine forall₂_congr fun e he => ?_
      have hnew : e.identity ≠ node.identity := fun hid => hknown ⟨e, he, hid⟩
      rw [or_iff_right hnew, ne_eq, ← imp_false]
      exact imp_congr_right fun _ => (iff_false_intro (not_le.2 hroom)).symm
    · exact iff_of_true h fun e he _ => .inr (not_lt.1 hroom)
  | resolveChallenge lrsId candidate lrsResponded =>
    cases lrsResponded with
    | true =>
      have hperm := (perm_resolveEntries entries lrsId candidate).map fun e => e.identity.nodeId
      exact iff_of_true (hperm.nodup_iff.2 h) fun hdead => by cases hdead
    | false =>
      have hkept := nodup_nodeIds_dropNode h lrsId
      simp only [effect, resolveEntries, Bool.false_eq_true, if_false, EntersNew, true_imp_iff]
      split_ifs with hroom
      · -- there is room, so a full bucket has just lost an entry
        have hleft : ¬ (K ≤ entries.length ∧ ∀ e ∈ entries, e.identity.nodeId ≠ lrsId) := by
          rintro ⟨hfull, hnone⟩
          rw [dropNode_of_absent hnone] at hroom
          exact absurd hroom (not_lt.2 hfull)
        rw [nodup_nodeIds_append hkept]
        constructor
        · intro hne e he hid
          by_contra hstays
          refine hne e (List.mem_filter.2 ⟨he, ?_⟩) hid
          simpa [hid] using fun heq => hstays (.inl heq)
        · intro hgone e he hid
          obtain ⟨he, hne⟩ := List.mem_filter.1 he
          have heq := (hgone e he hid).resolve_right hleft
          rw [← hid] at heq
          exact of_decide_eq_true hne heq
      · have hfull : entries.length ≤ (dropNode entries lrsId).length :=
          hbounded.trans (not_lt.1 hroom)
        have hsame : ∀ e ∈ entries, e.identity.nodeId ≠ lrsId := by
          have hlen := (List.length_filter_le _ _).antisymm hfull
          simpa using List.length_filter_eq_length_iff.1 hlen
        refine iff_of_true hkept fun e he _ => .inr ⟨?_, hsame⟩
        exact (not_lt.1 hroom).trans (List.length_filter_le _ _)
  | removeNode nodeId => exact iff_of_true (nodup_nodeIds_dropNode h nodeId) trivial

/-- In a sound table a node ID is twice only if it is twice in one bucket. -/
lemma Sound.nodup_nodeIds_iff {t : BucketTable} (h : t.Sound) :
    (nodeIds t.allNodes).Nodup ↔ ∀ i : Fin NUM_BUCKETS, (nodeIds (t.bucket i)).Nodup := by
  rw [nodeIds, allNodes, List.map_flatten, List.nodup_flatten, List.forall_mem_map]
  constructor
  · rintro ⟨hbuckets, -⟩ i
    exact hbuckets _ (Vector.mem_toList_iff.2 (Vector.getElem_mem i.isLt))
  · intro hbuckets
    constructor
    · intro entries hentries
      obtain ⟨i, hi, rfl⟩ := Vector.mem_iff_getElem.1 (Vector.mem_toList_iff.1 hentries)
      exact hbuckets ⟨i, hi⟩
    · rw [List.pairwise_map]
      exact RoutingTable.pairwise_disjoint_of_placed h.placed

/-- Of different nodes `closest_nodes` finds different ones. -/
lemma nodeIdsDistinct_iff {t : BucketTable} : t.NodeIdsDistinct ↔ (nodeIds t.allNodes).Nodup := by
  refine ⟨NodeIdsDistinct.entries, fun h => ⟨h, fun target count found hfound => ?_⟩⟩
  obtain ⟨sorted, hsort, rfl⟩ := Option.map_eq_some_iff.1 hfound
  have hperm := (perm_of_sortBy hsort).map fun e => e.identity.nodeId
  exact ((List.take_sublist _ _).map _).nodup (hperm.nodup_iff.2 h)

/-- Where a call enters a node, it does not enter a node ID that stays in the table. -/
def CallEntersNew (t : BucketTable) (c : TableCall) : Prop :=
  ∀ i, bucketFor t.localId c.subject = some (some i) → EntersNew (t.bucket i) c

/-- A table of different node IDs keeps them different exactly if the call enters none
that stays. -/
lemma Sound.nodup_step_iff {t : BucketTable} (h : t.Sound) (hnodup : (nodeIds t.allNodes).Nodup)
    (c : TableCall) :
    (nodeIds (machine.step t c).2.allNodes).Nodup ↔ t.CallEntersNew c := by
  obtain ⟨hsame, hnone⟩ | ⟨i, hbucket, hset⟩ := t.step_cases c
  · rw [hsame]
    exact iff_of_true hnodup fun i hi => absurd hi (hnone i)
  · rw [h.nodup_nodeIds_iff] at hnodup
    have hone : t.CallEntersNew c ↔ EntersNew (t.bucket i) c := by
      refine ⟨fun hnew => hnew i hbucket, fun hnew j hj => ?_⟩
      obtain rfl : i = j := by simpa using hbucket.symm.trans hj
      exact hnew
    rw [(h.step c).nodup_nodeIds_iff, hone, ← nodup_effect_iff (hnodup i) (h.bounded i), hset]
    simp only [bucket_setEntries]
    constructor
    · intro hall
      simpa using hall i
    · intro hnew j
      split_ifs
      · exact hnew
      · exact hnodup j

/-- No table of a run has a node ID twice exactly if no call of the run enters one that stays. -/
theorem nodeIdsDistinct_run_iff (localId : Hash) (calls : List TableCall) :
    (∀ pre, pre <+: calls → (machine.run (new localId) pre).NodeIdsDistinct) ↔
      ∀ pre c, pre ++ [c] <+: calls → (machine.run (new localId) pre).CallEntersNew c := by
  have hsound (pre : List TableCall) := (run_sound localId pre).2.1
  simp only [nodeIdsDistinct_iff]
  constructor
  · intro h pre c hpre
    rw [← (hsound pre).nodup_step_iff (h pre ((List.prefix_append _ _).trans hpre)),
      ← Machine.run_concat]
    exact h _ hpre
  · intro h pre
    induction pre using List.reverseRecOn with
    | nil => exact fun _ => by simp [allNodes, new, nodeIds]
    | append_singleton pre c ih =>
      intro hpre
      rw [Machine.run_concat, (hsound pre).nodup_step_iff
        (ih ((List.prefix_append _ _).trans hpre))]
      exact h pre c hpre

omit [Crypto] in
/-- A key that is known under another algorithm, and a candidate that has come in before its
challenge is resolved, are in the table twice. -/
theorem twin_listed_twice :
    letI : Crypto := cryptoOf []
    ∃ localId lrsId node twin, twin.identity.publicKey = node.identity.publicKey ∧
      ¬ (machine.run (new localId) [.addNode node, .addNode twin]).NodeIdsDistinct ∧
      ¬ (machine.run (new localId)
        [.addNode node, .resolveChallenge lrsId node false]).NodeIdsDistinct := by
  let _ : Crypto := cryptoOf []
  refine ⟨firstPublisher.nodeId, thirdPublisher.nodeId,
    ⟨secondPublisher, ⟨"quic", "203.0.113.7:4433"⟩, 0⟩,
    ⟨⟨2, secondPublisher.publicKey⟩, ⟨"quic", "203.0.113.7:4433"⟩, 0⟩, rfl, ?_, ?_⟩
  · exact fun h => absurd h.entries (by decide +kernel)
  · exact fun h => absurd h.entries (by decide +kernel)

end BucketTable

/-! ## The tables of a node -/

namespace RoutingTable

open BucketTable

/-- A table of a node, its buckets as lists. -/
def bucketTable (t : RoutingTable) : BucketTable where
  localId := t.localId
  buckets := t.buckets.map KBucket.entries

omit [Crypto] in
lemma addEntry_entries (b : KBucket) (node : NodeInfo) :
    addEntry b.entries node = ((b.addNode node).1, (b.addNode node).2.entries) := by
  unfold addEntry KBucket.addNode
  split_ifs <;> rfl

/-- On the tables of a node `add_node` is the operation of `Dht/Routing.lean`. -/
theorem bucketTable_addNode (t : RoutingTable) (node : NodeInfo) :
    t.bucketTable.addNode node = (t.addNode node).map (Prod.map id bucketTable) := by
  unfold addNode BucketTable.addNode
  split
  case h_1 hpanic =>
    change bucketFor t.bucketTable.localId node.identity.nodeId = none at hpanic
    rw [hpanic]
    rfl
  case h_2 hself =>
    change bucketFor t.bucketTable.localId node.identity.nodeId = some none at hself
    rw [hself]
    rfl
  case h_3 i hi =>
    change bucketFor t.bucketTable.localId node.identity.nodeId = some (some i) at hi
    have hbucket : t.bucketTable.bucket i = t.buckets[i].entries := Vector.getElem_map _ i.isLt
    rw [hi]
    change some ((addEntry (t.bucketTable.bucket i) node).1,
      t.bucketTable.setEntries i (addEntry (t.bucketTable.bucket i) node).2) = _
    rw [hbucket, addEntry_entries]
    simp [bucketTable, setEntries, setBucket, Vector.map_set]

theorem bucketTable_closestNodes (t : RoutingTable) (target : Hash) (count : ℕ) :
    t.bucketTable.closestNodes target count = t.closestNodes target count := by
  have hall : t.bucketTable.allNodes = t.allNodes := by
    rw [BucketTable.allNodes, bucketTable, Vector.toList_map, allNodes, List.flatMap]
  rw [BucketTable.closestNodes, hall, closestNodes]

end RoutingTable

end MeshProtocol
