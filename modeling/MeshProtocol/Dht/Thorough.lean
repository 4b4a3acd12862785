import MeshProtocol.Dht.Hearsay
import MeshProtocol.Dht.Rounds
import MeshProtocol.Dht.SmallNetwork
import MeshProtocol.Library.BestFirst

/-!
# Which nodes a lookup asks (`mesh-dht/src/node.rs`)

A lookup starts from the `alpha` nearest nodes of its table and follows the nodes that its rounds
bring, the nearest first.  If it returns nothing, it has asked each of these that has fewer than `K`
nearer ones, unless its last round brought no nodes; then it has asked `alpha` nodes in that round
that are at least as near (`DhtNode.gives_up_nearest`).
-/

namespace MeshProtocol

open Fallible

/-! ## The nearest nodes -/

/-- The distance of a node ID to a key. -/
def keyDistance (key id : Hash) : List UInt8 :=
  (key.digest.take 32).zipWith (· ^^^ ·) (id.digest.take 32)

/-- One of the `K` IDs nearest to a key among those known, not counting the node's own. -/
def Nearest (key : Hash) (known : List Hash) (self id : Hash) : Prop :=
  id ∈ known ∧ id ≠ self ∧
    BestFirst.nearer (keyDistance key) (known.dedup.filter (· ≠ self)) id < K

instance (key : Hash) (known : List Hash) (self id : Hash) :
    Decidable (Nearest key known self id) :=
  inferInstanceAs (Decidable (_ ∧ _ ∧ _))

/-- One of the IDs mentioned with fewer than `K` mentions of nearer ones. -/
def NearestMention (key : Hash) (mentions : List Hash) (id : Hash) : Prop :=
  id ∈ mentions ∧ BestFirst.nearer (keyDistance key) mentions id < K

instance (key : Hash) (mentions : List Hash) (id : Hash) :
    Decidable (NearestMention key mentions id) :=
  inferInstanceAs (Decidable (_ ∧ _))

section Lookup

variable [Crypto]

/-- Node IDs at one distance from a key that has the bytes to compare are one. -/
lemma nodeId_of_keyDistance {key : Hash} (hkey : 32 ≤ key.digest.length) (a b : NodeInfo)
    (h : keyDistance key a.identity.nodeId = keyDistance key b.identity.nodeId) :
    a.identity.nodeId = b.identity.nodeId := by
  have hlength (node : NodeInfo) : node.identity.nodeId.digest.length = 32 :=
    Identity.length_nodeId_digest _
  have hxor (l l' : List UInt8) (hl : l'.length ≤ l.length) :
      l.zipWith (· ^^^ ·) (l.zipWith (· ^^^ ·) l') = l' := by
    induction l generalizing l' with
    | nil => simpa using hl
    | cons x l ih =>
      cases l' with
      | nil => rfl
      | cons y l' =>
        rw [List.zipWith_cons_cons, List.zipWith_cons_cons, ih l' (by simpa using hl),
          ← UInt8.xor_assoc, UInt8.xor_self, UInt8.zero_xor]
  have htake : (key.digest.take 32).length = 32 := by rw [List.length_take, Nat.min_eq_left hkey]
  have hdigest := congrArg ((key.digest.take 32).zipWith (· ^^^ ·)) h
  rw [keyDistance, keyDistance, List.take_of_length_le (hlength a).le,
    List.take_of_length_le (hlength b).le, hxor _ _ (by rw [hlength, htake]),
    hxor _ _ (by rw [hlength, htake])] at hdigest
  exact congrArg (Hash.mk ALG_BLAKE3) hdigest

/-- The candidates of a lookup. -/
abbrev Frontier (key : Hash) : List NodeInfo → List NodeInfo → List Hash → Prop :=
  BestFirst.Frontier (fun node => node.identity.nodeId) (keyDistance key) K

namespace DhtNode

/-- A sort that returns compares nothing, or it compares by the distance. -/
lemma ordered_of_sortByDistance {key : Hash} {l sorted : List NodeInfo}
    (h : sortByDistance key l = some sorted) :
    BestFirst.Ordered (fun node : NodeInfo => node.identity.nodeId) (keyDistance key) sorted ∧
      (1 < sorted.length → 32 ≤ key.digest.length) := by
  have hlength := (perm_of_sortBy h).length_eq
  by_cases hkey : 32 ≤ key.digest.length
  · obtain ⟨sorted', hsort, -, hordered⟩ := sortBy_of_key (l := l)
      (fun a _ b _ => RoutingTable.distanceCmp_nodes hkey a b)
    obtain rfl := Option.some.inj (h.symm.trans hsort)
    exact ⟨hordered, fun _ => hkey⟩
  · have hone : l.length ≤ 1 := by
      by_contra hmore
      rw [sortByDistance, sortBy_eq_none (by omega) fun a _ b _ =>
        distanceCmp_eq_none (Nat.not_le.1 hkey) _ _] at h
      cases h
    refine ⟨?_, fun hmore => by omega⟩
    rw [← hlength] at hone
    cases sorted with
    | nil => exact List.Pairwise.nil
    | cons a rest =>
      obtain rfl : rest = [] := List.eq_nil_of_length_eq_zero (by simpa using hone)
      exact List.pairwise_singleton _ _

end DhtNode

/-! ## The rounds -/

/-- The node IDs that rounds query. -/
def queriedIn (rounds : List LookupRound) : List Hash :=
  nodeIds (rounds.flatMap LookupRound.selected)

lemma mem_queriedIn_cons {r : LookupRound} {rest : List LookupRound} {id : Hash} :
    id ∈ queriedIn (r :: rest) ↔ id ∈ nodeIds r.selected ∨ id ∈ queriedIn rest := by
  rw [queriedIn, List.flatMap_cons, nodeIds, List.map_append, List.mem_append]
  rfl

/-- The last round queried `alpha` nodes, none of them farther from the key than an ID, and their
answers named no nodes. -/
def StoppedShort (alpha : ℕ) (key : Hash) (rounds : List LookupRound) (id : Hash) : Prop :=
  ∃ pre r, rounds = pre ++ [r] ∧ r.named = [] ∧ r.selected.length = alpha ∧
    ∀ node ∈ r.selected,
      compare (keyDistance key node.identity.nodeId) (keyDistance key id) ≠ .gt

lemma StoppedShort.cons {alpha : ℕ} {key : Hash} {rest : List LookupRound} {id : Hash}
    (h : StoppedShort alpha key rest id) (r : LookupRound) :
    StoppedShort alpha key (r :: rest) id := by
  obtain ⟨pre, last, rfl, hlast⟩ := h
  exact ⟨r :: pre, last, rfl, hlast⟩

namespace DhtNode

variable {S H τ : Type} [Transport τ]

/-- A candidate that is not selected leaves `alpha` nodes to select that are at least as near. -/
lemma selection_of_unselected {alpha : ℕ} {key : Hash} {candidates mentioned : List NodeInfo}
    {queried : List Hash} (h : Frontier key candidates mentioned queried) {id : Hash}
    (hid : id ∈ nodeIds candidates) (hnot : id ∉ queried)
    (hunselected : id ∉ nodeIds (selection alpha candidates queried)) :
    (selection alpha candidates queried).length = alpha ∧
      ∀ node ∈ selection alpha candidates queried,
        compare (keyDistance key node.identity.nodeId) (keyDistance key id) ≠ .gt := by
  obtain ⟨c, hc, rfl⟩ := List.mem_map.1 hid
  have hordered : BestFirst.Ordered (fun node : NodeInfo => node.identity.nodeId)
      (keyDistance key) (candidates.filter fun c => c.identity.nodeId ∉ queried) :=
    h.ordered.sublist List.filter_sublist
  obtain ⟨hlen, hle⟩ := hordered.of_not_mem_take
    (List.mem_filter.2 ⟨hc, decide_eq_true hnot⟩)
    fun hmem => hunselected (List.mem_map_of_mem hmem)
  exact ⟨hlen, fun node hnode => Ordering.isLE_iff_ne_gt.1 (hle node hnode)⟩

/-- A loop that finds nothing queries the nearest of all that it comes across, or its last round
stops short of them. -/
theorem nearest_of_lookupLoop {alpha : ℕ} (halpha : alpha ≠ 0) {key : Hash} {fuel : ℕ} :
    ∀ {n n' : DhtNode S H} {t t' : τ} {candidates mentioned : List NodeInfo} {queried : List Hash},
    Frontier key candidates mentioned queried →
    lookupLoop alpha key fuel n t candidates queried = some ([], n', t') → ∀ {id : Hash},
      NearestMention key (nodeIds (mentioned ++
        (lookupRounds alpha key fuel n t candidates queried).flatMap LookupRound.named)) id →
      id ∈ queried ∨ id ∈ queriedIn (lookupRounds alpha key fuel n t candidates queried) ∨
        StoppedShort alpha key (lookupRounds alpha key fuel n t candidates queried) id := by
  induction fuel with
  | zero =>
    intro n n' t t' candidates mentioned queried _ h
    cases h
  | succ fuel ih =>
    intro n n' t t' candidates mentioned queried hfrontier h id hnearest
    -- a mention that is still among the nearest has not been cut off
    have hkept (hmentions : NearestMention key (nodeIds mentioned) id) :
        id ∈ queried ∨ id ∈ nodeIds candidates := by
      rcases hfrontier.kept id hmentions.1 with hdone | hmem | hcrowded
      · exact .inl hdone
      · exact .inr hmem
      · exact absurd hmentions.2 (Nat.not_lt.2 hcrowded)
    rcases lookupLoop_cases h with ⟨hnil, -, -, -, hrounds⟩ |
      ⟨collected, newNodes, n₁, t₁, -, -, hcases⟩
    · rw [hrounds, List.flatMap_nil, List.append_nil] at hnearest
      refine .inl (by_contra fun hnot => ?_)
      have hunselected : id ∉ nodeIds (selection alpha candidates queried) := by
        rw [hnil]
        exact List.not_mem_nil
      have hlen := (selection_of_unselected hfrontier ((hkept hnearest).resolve_left hnot) hnot
        hunselected).1
      rw [hnil] at hlen
      exact halpha hlen.symm
    · rcases hcases with ⟨hbarren, rfl, -, -, hrounds⟩ | ⟨-, -, sorted, hsort, hloop, hrounds⟩
      · obtain rfl := hbarren rfl
        rw [hrounds] at hnearest ⊢
        rw [List.flatMap_singleton, List.append_nil] at hnearest
        rcases hkept hnearest with hdone | hmem
        · exact .inl hdone
        · by_cases hdone : id ∈ queried
          · exact .inl hdone
          by_cases hselected : id ∈ nodeIds (selection alpha candidates queried)
          · exact .inr (.inl (mem_queriedIn_cons.2 (.inl hselected)))
          · obtain ⟨hlen, hle⟩ := selection_of_unselected hfrontier hmem hdone hselected
            exact .inr (.inr ⟨[], _, rfl, rfl, hlen, hle⟩)
      · obtain ⟨hordered, hlong⟩ := ordered_of_sortByDistance hsort
        have hnext := hfrontier.truncate (perm_of_sortBy hsort) hordered
          (fun hmore => nodeId_of_keyDistance (hlong (Nat.lt_trans (by decide) hmore)))
          (nodeIds (selection alpha candidates queried))
        rw [hrounds] at hnearest ⊢
        rw [List.flatMap_cons, ← List.append_assoc] at hnearest
        rcases ih hnext hloop hnearest with hqueried | hlater | hshort
        · rcases List.mem_append.1 hqueried with hdone | hselected
          · exact .inl hdone
          · exact .inr (.inl (mem_queriedIn_cons.2 (.inl hselected)))
        · exact .inr (.inl (mem_queriedIn_cons.2 (.inr hlater)))
        · exact .inr (.inr (hshort.cons _))

/-- The nodes of a table with at most `K` entries, which a lookup asks at last if nothing was
found. -/
def fallbackNodes (table : RoutingTable) : List NodeInfo :=
  if table.allNodes.length ≤ K then table.allNodes else []

/-- A lookup that returns nothing has asked, of the first candidates and the nodes that its rounds'
answers name, all with fewer than `K` mentions of nearer ones, unless the last round's answers named
no nodes; then it has asked `alpha` nodes in that round that are at least as near.  And it has asked
all nodes of a table that is small at the end. -/
theorem gives_up_nearest {alpha fuel : ℕ} {n n' : DhtNode S H} {t t' : τ} {key : Hash}
    (h : n.lookupValue alpha fuel t key = some ([], n', t')) :
    ∃ initial asked again, n.routingTable.closestNodes key alpha = some initial ∧
      n.lookupValue alpha fuel (Recorded.mk t []) key = some ([], n', ⟨t', asked ++ again⟩) ∧
      n.Asks key ((lookupRounds alpha key fuel n t initial []).flatMap LookupRound.selected)
        asked ∧
      n.Asks key (fallbackNodes n'.routingTable) again ∧
      ∀ id, NearestMention key (nodeIds (initial ++ namedNodes asked)) id →
        id ∈ nodeIds ((lookupRounds alpha key fuel n t initial []).flatMap LookupRound.selected) ∨
          StoppedShort alpha key (lookupRounds alpha key fuel n t initial []) id := by
  obtain ⟨initial, collected, t₁, hinitial, hloop, hcases⟩ := lookupValue_cases h
  obtain ⟨asked, again, repeated, hrecord, hasks, hnamed, hasks', -, hrepeated⟩ :=
    lookupValue_exchanges hinitial h
  refine ⟨initial, asked, again, hinitial, hrecord, hasks, ?_, fun id hnearest => ?_⟩
  · rwa [hrepeated rfl] at hasks'
  · obtain rfl : collected = [] := by
      rcases hcases with ⟨hnone, -⟩ | ⟨-, hds, -⟩
      · exact hnone
      · exact hds.symm
    obtain ⟨sorted, hsort, rfl⟩ := Option.map_eq_some_iff.1 hinitial
    have hordered := (ordered_of_sortByDistance hsort).1.sublist (List.take_sublist alpha sorted)
    rw [hnamed] at hnearest
    by_cases halpha : alpha = 0
    · subst halpha
      have hrounds : lookupRounds 0 key fuel n t (sorted.take 0) [] = [] := by
        cases fuel <;> rfl
      rw [hrounds] at hnearest
      cases hnearest.1
    · exact (nearest_of_lookupLoop halpha (BestFirst.Frontier.of_ordered hordered []) hloop
        hnearest).resolve_left List.not_mem_nil

end DhtNode

end Lookup

/-! ## Lookups that find nothing -/

/-- A node that has left, with the little-endian number as its key. -/
def gone (n : ℕ) : NodeInfo :=
  ⟨⟨ALG_ED25519, .ofNat n :: List.replicate 31 0⟩, .quic (toString n ++ ".gone:4433"), 0⟩

/-- The second publisher's node. -/
def secondNode : NodeInfo := ⟨secondPublisher, .quic "second:4433", 0⟩

/-- The first publisher's node, which knows the two others. -/
def inTrio [Crypto] : Peer :=
  Network.acquainted .new threeMembers (firstPublisher, .quic "first:4433")

/-- The first publisher's node, which knows the two others and twenty that have left. -/
def wellConnected [Crypto] : Peer :=
  Network.acquainted .new
    (threeMembers ++ (List.range 20).map fun n => ((gone (n + 1)).identity, (gone (n + 1)).addr))
    (firstPublisher, .quic "first:4433")

/-- Peers of which only the one at an address names any nodes. -/
def namedAt (addr : NodeAddr) (nodes : List NodeInfo) : Rumours :=
  ⟨fun a => if a = addr then nodes else []⟩

/-- The nearest node names two others, and the lookup asks them. -/
theorem named_pair_asked :
    letI : Crypto := publishedCrypto
    let peers := namedAt (gone 20).addr [gone 19, secondNode]
    ∃ n' peers' asked nodes, wellConnected.lookupValue 3 3 (Recorded.mk peers []) computeKey =
        some ([], n', Recorded.mk peers' asked) ∧
      wellConnected.Asks computeKey nodes asked ∧
      (gone 19).identity.nodeId ∈ nodeIds nodes ∧ secondPublisher.nodeId ∈ nodeIds nodes := by
  let _ : Crypto := publishedCrypto
  intro peers
  have hplain : (wellConnected.lookupValue 3 3 peers computeKey).map Prod.fst = some [] := by
    decide +kernel
  have hrun : (wellConnected.lookupValue 3 3 (Recorded.mk peers []) computeKey).any (fun r =>
      decide (DhtNode.namedNodes r.2.2.exchanges = [gone 19, secondNode] ∧
        DhtNode.fallbackNodes r.2.1.routingTable = [])) = true := by
    decide +kernel
  have hrounds : (wellConnected.routingTable.closestNodes computeKey 3).any (fun initial =>
      decide ((∀ id ∈ [(gone 19).identity.nodeId, secondPublisher.nodeId],
          NearestMention computeKey (nodeIds (initial ++ [gone 19, secondNode])) id) ∧
        ∀ r ∈ DhtNode.lookupRounds 3 computeKey 3 wellConnected peers initial [],
          r.named = [] → r.selected.length ≠ 3)) = true := by
    decide +kernel
  obtain ⟨⟨ds, n', peers'⟩, hlookup, rfl⟩ := Option.map_eq_some_iff.1 hplain
  obtain ⟨initial, asked, again, hinitial, hrecord, hasks, hagain, hnearest⟩ :=
    DhtNode.gives_up_nearest hlookup
  rw [hrecord] at hrun
  rw [hinitial] at hrounds
  obtain ⟨hnamed, hlarge⟩ := of_decide_eq_true hrun
  obtain ⟨hnear, hlast⟩ := of_decide_eq_true hrounds
  obtain rfl : again = [] := by
    rw [DhtNode.Asks, hlarge] at hagain
    exact List.map_eq_nil_iff.1 hagain
  rw [List.append_nil] at hrecord hnamed
  have hasked : ∀ id ∈ [(gone 19).identity.nodeId, secondPublisher.nodeId], id ∈ nodeIds
      ((DhtNode.lookupRounds 3 computeKey 3 wellConnected peers initial []).flatMap
        LookupRound.selected) := by
    intro id hid
    have hmention := hnear id hid
    rw [← hnamed] at hmention
    refine (hnearest id hmention).resolve_right ?_
    rintro ⟨pre, r, hsplit, hbarren, hlen, -⟩
    exact hlast r (hsplit ▸ List.mem_append_right pre List.mem_cons_self) hbarren hlen
  exact ⟨n', peers', asked, _, hrecord, hasks, hasked _ (by simp), hasked _ (by simp)⟩

/-- A lookup returns nothing and has sent no request to a node that is one of the nearest of its
table and of all nodes named in answers. -/
def Overlooks [Crypto] (n : Peer) (alpha : ℕ) (peers : Rumours) (node : NodeInfo) : Prop :=
  ∃ n' peers' exchanges, n.lookupValue alpha 3 (Recorded.mk peers []) computeKey =
      some ([], n', Recorded.mk peers' exchanges) ∧
    let known := n.routingTable.allNodes ++ DhtNode.namedNodes exchanges
    node ∈ known ∧ Nearest computeKey (nodeIds known) n.nodeId node.identity.nodeId ∧
      ∀ other ∈ known, other.identity.nodeId = node.identity.nodeId →
        ∀ exchange ∈ exchanges, exchange.1 ≠ other.addr

lemma overlooks_of_any [Crypto] {n : Peer} {alpha : ℕ} {peers : Rumours} {node : NodeInfo}
    (h : (n.lookupValue alpha 3 (Recorded.mk peers []) computeKey).any (fun r =>
      let known := n.routingTable.allNodes ++ DhtNode.namedNodes r.2.2.exchanges
      decide (r.1 = [] ∧ node ∈ known ∧
        Nearest computeKey (nodeIds known) n.nodeId node.identity.nodeId ∧
        ∀ other ∈ known, other.identity.nodeId = node.identity.nodeId →
          ∀ exchange ∈ r.2.2.exchanges, exchange.1 ≠ other.addr)) = true) :
    Overlooks n alpha peers node := by
  obtain ⟨⟨ds, n', ⟨peers', exchanges⟩⟩, hlookup, hout⟩ := (Option.any_eq_true _ _).1 h
  obtain ⟨rfl, hknown⟩ := of_decide_eq_true hout
  exact ⟨n', peers', exchanges, hlookup, hknown⟩

/-- Nodes that a lookup overlooks: the fourth nearest of a large table, if nobody names any nodes;
one of the five that the nearest node names, if the first three of them name nobody; the second
nearest, if the nearest one names itself over and over; and one that is named in an answer to the
requests to all of a small table. -/
theorem nearest_overlooked :
    letI : Crypto := publishedCrypto
    Overlooks wellConnected 3 ⟨fun _ => []⟩ (gone 19) ∧
      Overlooks wellConnected 3
        (namedAt (gone 20).addr [gone 19, secondNode, gone 15, gone 8, gone 3]) (gone 8) ∧
      Overlooks wellConnected 1 (namedAt (gone 20).addr (List.replicate K (gone 20) ++ [gone 6]))
        (gone 6) ∧
      Overlooks inTrio 1 (namedAt (.quic "third:4433") [gone 20]) (gone 20) := by
  let _ : Crypto := publishedCrypto
  refine ⟨overlooks_of_any ?_, overlooks_of_any ?_, overlooks_of_any ?_, overlooks_of_any ?_⟩
  all_goals decide +kernel

end MeshProtocol
