import MeshProtocol.Dht.Availability
import MeshProtocol.Dht.Discovery
import Mathlib.Data.List.Dedup
import Mathlib.Data.Set.Finite.List

/-!
# The rounds of a lookup (`mesh-dht/src/node.rs`)

An iteration of `lookup_value` that selects a node is a `LookupRound`.  The nodes selected were not
queried in an earlier round, so there are no more rounds than node IDs that the lookup hears of
(`length_rounds_le`); and as there are finitely many node IDs at all, it comes to an end whatever
the peers answer (`lookupValue_settles`).
-/

namespace MeshProtocol

open Fallible

/-- An iteration of the loop that selects nodes: the candidates and the IDs queried before it, the
nodes selected, and the nodes that their answers name. -/
structure LookupRound where
  candidates : List NodeInfo
  queried : List Hash
  selected : List NodeInfo
  named : List NodeInfo

variable [Crypto]

namespace DhtNode

variable {S H τ : Type} [Transport τ]

/-- The candidates that an iteration queries. -/
def selection (alpha : ℕ) (candidates : List NodeInfo) (queried : List Hash) : List NodeInfo :=
  (candidates.filter fun c => c.identity.nodeId ∉ queried).take alpha

/-- The rounds of the loop of `lookup_value`. -/
def lookupRounds (alpha : ℕ) (key : Hash) : ℕ → DhtNode S H → τ → List NodeInfo → List Hash →
    List LookupRound
  | 0, _, _, _, _ => []
  | fuel + 1, n, t, candidates, queried =>
    let toQuery := selection alpha candidates queried
    if toQuery.isEmpty then []
    else match n.queryNodes t key toQuery with
      | none => []
      | some (collected, newNodes, n, t) =>
        ⟨candidates, queried, toQuery, newNodes⟩ ::
          if newNodes.isEmpty ∨ ¬ collected.isEmpty then []
          else match sortByDistance key (candidates ++ newNodes) with
            | none => []
            | some sorted => lookupRounds alpha key fuel n t (sorted.take K)
                (queried ++ nodeIds toQuery)

/-! ## One round -/

/-- A first round queries what it selects; the loop ends there or goes on from what it
has learned. -/
lemma lookupRounds_cons {alpha fuel : ℕ} {key : Hash} {n : DhtNode S H} {t : τ}
    {candidates : List NodeInfo} {queried : List Hash} {r : LookupRound} {rest : List LookupRound}
    (h : lookupRounds alpha key fuel n t candidates queried = r :: rest) :
    r.candidates = candidates ∧ r.queried = queried ∧
      r.selected = selection alpha candidates queried ∧ r.selected ≠ [] ∧
      (rest = [] ∨ ∃ fuel' n' t' sorted,
        sortByDistance key (candidates ++ r.named) = some sorted ∧
        rest = lookupRounds alpha key fuel' (n' : DhtNode S H) (t' : τ) (sorted.take K)
          (queried ++ nodeIds r.selected)) := by
  cases fuel with
  | zero => cases h
  | succ fuel =>
    rw [lookupRounds] at h
    split_ifs at h with hempty
    split at h
    case h_1 => cases h
    case h_2 collected newNodes n₁ t₁ hquery =>
      obtain ⟨rfl, hrest⟩ := List.cons.inj h
      refine ⟨rfl, rfl, rfl, fun hnil => hempty (List.isEmpty_iff.2 hnil), ?_⟩
      split_ifs at hrest
      · exact .inl hrest.symm
      · split at hrest
        case h_1 => exact .inl hrest.symm
        case h_2 sorted hsort => exact .inr ⟨fuel, n₁, t₁, sorted, hsort, hrest.symm⟩

lemma selection_subset {alpha : ℕ} {candidates : List NodeInfo} {queried : List Hash} :
    selection alpha candidates queried ⊆ candidates :=
  fun _ hc => (List.mem_filter.1 (List.mem_of_mem_take hc)).1

lemma fresh_of_mem_selection {alpha : ℕ} {candidates : List NodeInfo} {queried : List Hash}
    {id : Hash} (h : id ∈ nodeIds (selection alpha candidates queried)) : id ∉ queried := by
  obtain ⟨c, hc, rfl⟩ := List.mem_map.1 h
  exact of_decide_eq_true (List.mem_filter.1 (List.mem_of_mem_take hc)).2

/-! ## All rounds -/

/-- Each round selects from the candidates those not queried in an earlier one; they have been named
before. -/
lemma lookupRounds_split {alpha : ℕ} {key : Hash} {pre post : List LookupRound} {r : LookupRound} :
    ∀ {fuel : ℕ} {n : DhtNode S H} {t : τ} {candidates : List NodeInfo} {queried : List Hash},
    lookupRounds alpha key fuel n t candidates queried = pre ++ r :: post →
      r.selected = selection alpha r.candidates r.queried ∧ r.selected ≠ [] ∧
      r.queried = queried ++ nodeIds (pre.flatMap LookupRound.selected) ∧
      r.candidates ⊆ candidates ++ pre.flatMap LookupRound.named := by
  induction pre with
  | nil =>
    intro fuel n t candidates queried h
    obtain ⟨hcandidates, hqueried, hselected, hne, -⟩ := lookupRounds_cons h
    rw [hcandidates, hqueried]
    exact ⟨hselected, hne, by simp [nodeIds], by simp⟩
  | cons r' pre ih =>
    intro fuel n t candidates queried h
    obtain ⟨hcandidates, -, -, -, hrest⟩ := lookupRounds_cons h
    rcases hrest with hnil | ⟨fuel', n', t', sorted, hsort, hrest⟩
    · simp at hnil
    · obtain ⟨hselected, hne, hqueried, hsubset⟩ := ih hrest.symm
      refine ⟨hselected, hne, ?_, ?_⟩
      · rw [hqueried, List.append_assoc, nodeIds, nodeIds, ← List.map_append, nodeIds,
          List.flatMap_cons]
      · intro c hc
        rcases List.mem_append.1 (hsubset hc) with hkept | hnamed
        · have hmem := (perm_of_sortBy hsort).mem_iff.1 (List.mem_of_mem_take hkept)
          simp only [List.flatMap_cons, List.mem_append] at hmem ⊢
          tauto
        · simp only [List.flatMap_cons, List.mem_append]
          exact .inr (.inr hnamed)

/-- The first ID that each round queries. -/
def firsts (rounds : List LookupRound) : List Hash :=
  rounds.flatMap fun r => (nodeIds r.selected).take 1

/-- Each round queries an ID that was not queried before. -/
lemma firsts_fresh {alpha : ℕ} {key : Hash} {rounds : List LookupRound} :
    ∀ {fuel : ℕ} {n : DhtNode S H} {t : τ} {candidates : List NodeInfo} {queried : List Hash},
    lookupRounds alpha key fuel n t candidates queried = rounds →
      (firsts rounds).length = rounds.length ∧ (firsts rounds).Nodup ∧
        ∀ id ∈ firsts rounds, id ∉ queried := by
  induction rounds with
  | nil => intro fuel n t candidates queried _; simp [firsts]
  | cons r rest ih =>
    intro fuel n t candidates queried h
    obtain ⟨-, hqueried, hselected, hne, hrest⟩ := lookupRounds_cons h
    obtain ⟨c, cs, hcs⟩ := List.exists_cons_of_ne_nil hne
    have hfirsts : firsts (r :: rest) = c.identity.nodeId :: firsts rest := by
      simp [firsts, nodeIds, hcs]
    have hfirst : c.identity.nodeId ∈ nodeIds (selection alpha candidates queried) := by
      rw [← hselected, hcs]
      exact List.mem_cons_self
    have hfresh := fresh_of_mem_selection hfirst
    rw [hfirsts]
    rcases hrest with rfl | ⟨fuel', n', t', sorted, -, hrest⟩
    · simpa [firsts] using hfresh
    · obtain ⟨hlen, hnodup, hlater⟩ := ih hrest.symm
      have hqueriedFirst : c.identity.nodeId ∈ queried ++ nodeIds r.selected := by
        rw [hcs]
        exact List.mem_append_right _ List.mem_cons_self
      refine ⟨by simp [hlen], List.nodup_cons.2 ⟨fun hmem => hlater _ hmem hqueriedFirst, hnodup⟩,
        ?_⟩
      intro id hid
      rcases List.mem_cons.1 hid with rfl | hid
      · exact hfresh
      · exact fun hmem => hlater id hid (List.mem_append_left _ hmem)

/-- There are no more rounds than IDs among the first candidates and the nodes named in answers. -/
theorem length_rounds_le {alpha fuel : ℕ} {key : Hash} {n : DhtNode S H} {t : τ}
    {candidates : List NodeInfo} {queried : List Hash} {rounds : List LookupRound}
    (h : lookupRounds alpha key fuel n t candidates queried = rounds) :
    rounds.length ≤ (nodeIds (candidates ++ rounds.flatMap LookupRound.named)).dedup.length := by
  obtain ⟨hlen, hnodup, -⟩ := firsts_fresh h
  rw [← hlen]
  refine (hnodup.subperm fun id hfirst => ?_).length_le
  obtain ⟨r, hr, hid⟩ := List.mem_flatMap.1 hfirst
  obtain ⟨pre, post, rfl⟩ := List.append_of_mem hr
  obtain ⟨hselected, -, -, hsubset⟩ := lookupRounds_split h
  obtain ⟨c, hc, rfl⟩ := List.mem_map.1 (List.mem_of_mem_take hid)
  rw [hselected] at hc
  rw [List.mem_dedup]
  refine List.mem_map_of_mem ?_
  have hmem := hsubset (selection_subset hc)
  simp only [List.mem_append, List.flatMap_append] at hmem ⊢
  tauto

/-! ## The loop comes to an end -/

omit [Crypto] in
lemma finite_nodeIds : {id : Hash | id.algorithm = ALG_BLAKE3 ∧ id.digest.length = 32}.Finite := by
  have hbytes : Finite UInt8 := Finite.of_injective UInt8.toFin fun a b h => UInt8.toFin_inj.1 h
  have hdigests := List.finite_length_eq UInt8 32
  refine Set.Finite.of_finite_image (f := Hash.digest) (hdigests.subset ?_) ?_
  · rintro _ ⟨id, ⟨-, hlen⟩, rfl⟩
    exact hlen
  · rintro ⟨a, d⟩ ⟨ha, -⟩ ⟨a', d'⟩ ⟨ha', -⟩ hd
    obtain rfl : a = ALG_BLAKE3 := ha
    obtain rfl : a' = ALG_BLAKE3 := ha'
    obtain rfl : d = d' := hd
    rfl

/-- The node IDs that have not been queried. -/
noncomputable def unqueried (queried : List Hash) : Finset Hash :=
  finite_nodeIds.toFinset.filter (· ∉ queried)

/-- A round leaves fewer of them. -/
lemma card_unqueried_lt {alpha : ℕ} {candidates : List NodeInfo} {queried : List Hash}
    (h : selection alpha candidates queried ≠ []) :
    (unqueried (queried ++ nodeIds (selection alpha candidates queried))).card <
      (unqueried queried).card := by
  obtain ⟨c, cs, hcs⟩ := List.exists_cons_of_ne_nil h
  have hmem : c.identity.nodeId ∈ nodeIds (selection alpha candidates queried) := by
    rw [hcs]
    exact List.mem_cons_self
  apply Finset.card_lt_card
  refine ⟨fun id hid => ?_, fun hsubset => ?_⟩
  · simp only [unqueried, Finset.mem_filter, List.mem_append, not_or] at hid ⊢
    exact ⟨hid.1, hid.2.1⟩
  · have hbefore : c.identity.nodeId ∈ unqueried queried := by
      refine Finset.mem_filter.2 ⟨?_, fresh_of_mem_selection hmem⟩
      rw [Set.Finite.mem_toFinset]
      exact ⟨rfl, Identity.length_nodeId_digest _⟩
    have hafter := (Finset.mem_filter.1 (hsubset hbefore)).2
    exact hafter (List.mem_append_right _ hmem)

lemma queryNodes_isSome (n : DhtNode S H) (t : τ) (key : Hash) (nodes : List NodeInfo) :
    (n.queryNodes t key nodes).isSome := by
  have hlearnAll : ∀ (nodes : List NodeInfo) (n : DhtNode S H), (n.learnAll nodes).isSome := by
    intro nodes
    induction nodes with
    | nil => exact fun _ => rfl
    | cons node nodes ih =>
      intro n
      obtain ⟨n₁, hn₁⟩ := Option.isSome_iff_exists.1 (n.learn_isSome node)
      rw [learnAll, hn₁]
      exact ih n₁
  induction nodes generalizing n t with
  | nil => rfl
  | cons node nodes ih =>
    rw [queryNodes]
    rcases Transport.sendRequest t node.addr (n.valueRequest key) with ⟨response, t₁⟩
    dsimp only
    split
    case h_1 result =>
      obtain ⟨n₁, hn₁⟩ := Option.isSome_iff_exists.1 (hlearnAll (result.nodes.getD []) n)
      obtain ⟨out, hout⟩ := Option.isSome_iff_exists.1 (ih n₁ t₁)
      rw [hn₁, Option.bind_eq_bind, Option.bind_some, hout]
      rfl
    case h_2 => exact ih n t₁

lemma lookupLoop_of_nil {alpha : ℕ} {key : Hash} {n : DhtNode S H} {t : τ}
    {candidates : List NodeInfo} {queried : List Hash} (h : selection alpha candidates queried = [])
    (fuel : ℕ) : lookupLoop alpha key (fuel + 1) n t candidates queried = some ([], n, t) := by
  rw [lookupLoop, ← selection, if_pos (List.isEmpty_iff.2 h)]
  rfl

/-- A round ends the loop, or it goes on from what the round has learned. -/
lemma lookupLoop_of_ne_nil {alpha : ℕ} (key : Hash) (n : DhtNode S H) (t : τ)
    {candidates : List NodeInfo} {queried : List Hash}
    (h : selection alpha candidates queried ≠ []) :
    ∃ collected newNodes n₁ t₁,
      n.queryNodes t key (selection alpha candidates queried) =
        some (collected, newNodes, n₁, t₁) ∧
      ∀ fuel, lookupLoop alpha key (fuel + 1) n t candidates queried =
        if newNodes.isEmpty ∧ collected.isEmpty then some ([], n₁, t₁)
        else (sortByDistance key (candidates ++ newNodes)).bind fun sorted =>
          if ¬ collected.isEmpty then some (collected, n₁, t₁)
          else lookupLoop alpha key fuel n₁ t₁ (sorted.take K)
            (queried ++ nodeIds (selection alpha candidates queried)) := by
  obtain ⟨⟨collected, newNodes, n₁, t₁⟩, hquery⟩ := Option.isSome_iff_exists.1
    (n.queryNodes_isSome t key (selection alpha candidates queried))
  refine ⟨collected, newNodes, n₁, t₁, hquery, fun fuel => ?_⟩
  rw [lookupLoop, ← selection, if_neg fun hempty => h (List.isEmpty_iff.1 hempty), hquery]
  rfl

lemma lookupRounds_of_nil {alpha : ℕ} {key : Hash} {n : DhtNode S H} {t : τ}
    {candidates : List NodeInfo} {queried : List Hash} (h : selection alpha candidates queried = [])
    (fuel : ℕ) : lookupRounds alpha key (fuel + 1) n t candidates queried = [] := by
  rw [lookupRounds]
  exact if_pos (List.isEmpty_iff.2 h)

lemma lookupRounds_of_query {alpha : ℕ} {key : Hash} {n n₁ : DhtNode S H} {t t₁ : τ}
    {candidates : List NodeInfo} {queried : List Hash} {collected : List Descriptor}
    {newNodes : List NodeInfo} (h : selection alpha candidates queried ≠ [])
    (hquery : n.queryNodes t key (selection alpha candidates queried) =
      some (collected, newNodes, n₁, t₁)) (fuel : ℕ) :
    lookupRounds alpha key (fuel + 1) n t candidates queried =
      ⟨candidates, queried, selection alpha candidates queried, newNodes⟩ ::
        if newNodes.isEmpty ∨ ¬ collected.isEmpty then []
        else (sortByDistance key (candidates ++ newNodes)).elim [] fun sorted =>
          lookupRounds alpha key fuel n₁ t₁ (sorted.take K)
            (queried ++ nodeIds (selection alpha candidates queried)) := by
  rw [lookupRounds, if_neg fun hempty => h (List.isEmpty_iff.1 hempty), hquery]
  dsimp only
  cases sortByDistance key (candidates ++ newNodes) <;> rfl

/-- A loop that returns has nothing to select; or its round brings descriptors, or neither
descriptors nor nodes; or it goes on. -/
lemma lookupLoop_cases {alpha fuel : ℕ} {key : Hash} {n n' : DhtNode S H} {t t' : τ}
    {candidates : List NodeInfo} {queried : List Hash} {ds : List Descriptor}
    (h : lookupLoop alpha key (fuel + 1) n t candidates queried = some (ds, n', t')) :
    (selection alpha candidates queried = [] ∧ ds = [] ∧ n' = n ∧ t' = t ∧
      lookupRounds alpha key (fuel + 1) n t candidates queried = []) ∨
    ∃ collected newNodes n₁ t₁, selection alpha candidates queried ≠ [] ∧
      n.queryNodes t key (selection alpha candidates queried) =
        some (collected, newNodes, n₁, t₁) ∧
      (((collected = [] → newNodes = []) ∧ ds = collected ∧ n' = n₁ ∧ t' = t₁ ∧
          lookupRounds alpha key (fuel + 1) n t candidates queried =
            [⟨candidates, queried, selection alpha candidates queried, newNodes⟩]) ∨
        (collected = [] ∧ newNodes ≠ [] ∧ ∃ sorted,
          sortByDistance key (candidates ++ newNodes) = some sorted ∧
          lookupLoop alpha key fuel n₁ t₁ (sorted.take K)
            (queried ++ nodeIds (selection alpha candidates queried)) = some (ds, n', t') ∧
          lookupRounds alpha key (fuel + 1) n t candidates queried =
            ⟨candidates, queried, selection alpha candidates queried, newNodes⟩ ::
              lookupRounds alpha key fuel n₁ t₁ (sorted.take K)
                (queried ++ nodeIds (selection alpha candidates queried)))) := by
  by_cases hnil : selection alpha candidates queried = []
  · rw [lookupLoop_of_nil hnil] at h
    obtain ⟨rfl, rfl, rfl⟩ := h
    exact .inl ⟨hnil, rfl, rfl, rfl, lookupRounds_of_nil hnil fuel⟩
  · obtain ⟨collected, newNodes, n₁, t₁, hquery, hloop⟩ := lookupLoop_of_ne_nil key n t hnil
    have hrounds := lookupRounds_of_query hnil hquery fuel
    refine .inr ⟨collected, newNodes, n₁, t₁, hnil, hquery, ?_⟩
    rw [hloop] at h
    by_cases hnothing : newNodes.isEmpty ∧ collected.isEmpty
    · rw [if_pos hnothing] at h
      obtain ⟨rfl, rfl, rfl⟩ := h
      rw [if_pos (.inl hnothing.1)] at hrounds
      exact .inl ⟨fun _ => List.isEmpty_iff.1 hnothing.1, (List.isEmpty_iff.1 hnothing.2).symm, rfl,
        rfl, hrounds⟩
    · rw [if_neg hnothing] at h
      obtain ⟨sorted, hsort, h⟩ := Option.bind_eq_some_iff.1 h
      by_cases hfound : ¬ collected.isEmpty
      · rw [if_pos hfound] at h
        obtain ⟨rfl, rfl, rfl⟩ := h
        rw [if_pos (.inr hfound)] at hrounds
        exact .inl ⟨fun hnone => absurd (List.isEmpty_iff.2 hnone) hfound, rfl, rfl, rfl, hrounds⟩
      · rw [if_neg hfound] at h
        have hnone := not_not.1 hfound
        have hsome : ¬ newNodes.isEmpty := fun hempty => hnothing ⟨hempty, hnone⟩
        rw [if_neg (not_or.2 ⟨hsome, hfound⟩), hsort] at hrounds
        exact .inr ⟨List.isEmpty_iff.1 hnone, fun hempty => hsome (List.isEmpty_iff.2 hempty),
          sorted, hsort, h, hrounds⟩

/-- With a unit of fuel for each unqueried ID and one more, the loop has what it needs. -/
lemma lookupLoop_settles {alpha : ℕ} {key : Hash} {fuel : ℕ} : ∀ {n : DhtNode S H} {t : τ}
    {candidates : List NodeInfo} {queried : List Hash}, (unqueried queried).card ≤ fuel →
    (∀ more, lookupLoop alpha key (fuel + more + 1) n t candidates queried =
      lookupLoop alpha key (fuel + 1) n t candidates queried) ∧
    (32 ≤ key.digest.length → (lookupLoop alpha key (fuel + 1) n t candidates queried).isSome) := by
  have hnone {n : DhtNode S H} {t : τ} {candidates : List NodeInfo} {queried : List Hash}
      (hnil : selection alpha candidates queried = []) (fuel : ℕ) :
      (∀ more, lookupLoop alpha key (fuel + more + 1) n t candidates queried =
        lookupLoop alpha key (fuel + 1) n t candidates queried) ∧
      (32 ≤ key.digest.length →
        (lookupLoop alpha key (fuel + 1) n t candidates queried).isSome) := by
    refine ⟨fun more => ?_, fun _ => ?_⟩
    · rw [lookupLoop_of_nil hnil, lookupLoop_of_nil hnil]
    · rw [lookupLoop_of_nil hnil]
      rfl
  induction fuel with
  | zero =>
    intro n t candidates queried hcard
    refine hnone ?_ 0
    by_contra hne
    exact absurd (card_unqueried_lt hne) (by omega)
  | succ fuel ih =>
    intro n t candidates queried hcard
    by_cases hnil : selection alpha candidates queried = []
    · exact hnone hnil _
    · obtain ⟨collected, newNodes, n₁, t₁, -, hloop⟩ := lookupLoop_of_ne_nil key n t hnil
      have hfewer : (unqueried (queried ++ nodeIds (selection alpha candidates queried))).card ≤
          fuel := by
        have hlt := card_unqueried_lt hnil
        omega
      constructor
      · intro more
        rw [Nat.add_right_comm fuel, hloop, hloop]
        simp only [(ih hfewer).1]
      · intro hkey
        have hsort := sortBy_of_total (l := candidates ++ newNodes)
          fun a _ b _ => RoutingTable.distanceCmp_nodes hkey a b
        rw [hloop, sortByDistance, hsort, Option.bind_some]
        split_ifs
        · rfl
        · exact (ih hfewer).2 hkey
        · rfl

/-- Every lookup comes to an end: with enough fuel more of it changes nothing, and for a key of 32
bytes the lookup returns. -/
theorem lookupValue_settles (alpha : ℕ) (n : DhtNode S H) (t : τ) (key : Hash) :
    ∃ fuel, (∀ more, n.lookupValue alpha (fuel + more) t key = n.lookupValue alpha fuel t key) ∧
      (32 ≤ key.digest.length → (n.lookupValue alpha fuel t key).isSome) := by
  have hsettles (candidates : List NodeInfo) :
      (∀ more, lookupLoop alpha key ((unqueried []).card + more + 1) n t candidates [] =
        lookupLoop alpha key ((unqueried []).card + 1) n t candidates []) ∧
      (32 ≤ key.digest.length →
        (lookupLoop alpha key ((unqueried []).card + 1) n t candidates []).isSome) :=
    lookupLoop_settles le_rfl
  refine ⟨(unqueried []).card + 1, fun more => ?_, fun hkey => ?_⟩
  · rw [lookupValue, lookupValue, Nat.add_right_comm]
    simp only [(hsettles _).1]
  · obtain ⟨initial, hinitial⟩ := Option.isSome_iff_exists.1
      ((RoutingTable.closestNodes_isSome_iff (t := n.routingTable) alpha).2 (.inr hkey))
    obtain ⟨out, hout⟩ := Option.isSome_iff_exists.1 ((hsettles initial).2 hkey)
    rw [lookupValue, hinitial, Option.bind_eq_bind, Option.bind_some, hout, Option.bind_eq_bind,
      Option.bind_some]
    dsimp only
    split_ifs <;> rfl

/-! ## The requests sent -/

/-- The nodes that a request was answered with. -/
def namedIn : Option Response → List NodeInfo
  | some (.findValueResult result) => result.nodes.getD []
  | _ => []

/-- The nodes named in the answers. -/
def namedNodes (exchanges : List (NodeAddr × Request × Option Response)) : List NodeInfo :=
  exchanges.flatMap fun exchange => namedIn exchange.2.2

/-- The requests were the given node's FIND_VALUEs to some nodes. -/
def Asks (n : DhtNode S H) (key : Hash) (nodes : List NodeInfo)
    (exchanges : List (NodeAddr × Request × Option Response)) : Prop :=
  exchanges.map (fun exchange => (exchange.1, exchange.2.1)) =
    nodes.map fun node => (node.addr, n.valueRequest key)

omit [Transport τ] in
lemma valueRequest_learnAll {n n' : DhtNode S H} {nodes : List NodeInfo}
    (h : n.learnAll nodes = some n') (key : Hash) : n'.valueRequest key = n.valueRequest key := by
  induction nodes generalizing n with
  | nil =>
    obtain rfl := Option.some.inj h
    rfl
  | cons node nodes ih =>
    obtain ⟨n₁, hlearn, hrest⟩ := Option.bind_eq_some_iff.1 h
    have hlearned := learned_of_learn hlearn
    rw [ih hrest, valueRequest, valueRequest, hlearned.identity, hlearned.addr, hlearned.config]

/-- The nodes queried are asked, and what they name is collected. -/
lemma queryNodes_exchanges {key : Hash} {nodes : List NodeInfo} : ∀ {n n' : DhtNode S H}
    {r r' : Recorded τ} {ds : List Descriptor} {newNodes : List NodeInfo},
    n.queryNodes r key nodes = some (ds, newNodes, n', r') →
      n'.valueRequest key = n.valueRequest key ∧ ∃ exchanges,
        r'.exchanges = r.exchanges ++ exchanges ∧ n.Asks key nodes exchanges ∧
          namedNodes exchanges = newNodes := by
  induction nodes with
  | nil =>
    intro n n' r r' ds newNodes h
    obtain ⟨rfl, rfl, rfl, rfl⟩ := h
    exact ⟨rfl, [], by simp, rfl, rfl⟩
  | cons node nodes ih =>
    rintro n n' ⟨t, log⟩ r' ds newNodes h
    rcases hsend : Transport.sendRequest t node.addr (n.valueRequest key) with ⟨response, t₁⟩
    rw [queryNodes, sendRequest_recorded hsend log] at h
    dsimp only at h
    split at h
    case h_1 result =>
      obtain ⟨n₁, hlearn, h⟩ := Option.bind_eq_some_iff.1 h
      obtain ⟨⟨ds₁, newNodes₁, n₂, r₂⟩, hrest, h⟩ := Option.bind_eq_some_iff.1 h
      obtain ⟨rfl, rfl, rfl, rfl⟩ := h
      have hsame := valueRequest_learnAll hlearn key
      obtain ⟨hsame', exchanges, hlog, hasks, hnamed⟩ := ih hrest
      refine ⟨hsame'.trans hsame,
        (node.addr, n.valueRequest key, some (.findValueResult result)) :: exchanges, ?_, ?_, ?_⟩
      · rw [hlog, List.append_assoc]
        rfl
      · rw [Asks, hsame] at hasks
        rw [Asks, List.map_cons, List.map_cons, hasks]
      · rw [namedNodes, List.flatMap_cons, ← namedNodes, hnamed]
        rfl
    case h_2 hother =>
      obtain ⟨hsame, exchanges, hlog, hasks, hnamed⟩ := ih h
      refine ⟨hsame, (node.addr, n.valueRequest key, response) :: exchanges, ?_, ?_, ?_⟩
      · rw [hlog, List.append_assoc]
        rfl
      · rw [Asks] at hasks
        rw [Asks, List.map_cons, List.map_cons, hasks]
      · have hnone : namedIn response = [] := by
          unfold namedIn
          split
          case h_1 result => exact absurd rfl (hother result)
          case h_2 => rfl
        rw [namedNodes, List.flatMap_cons, ← namedNodes, hnamed, hnone, List.nil_append]

/-- The fallback asks the nodes one after another, at most all of them, and all if none has
anything. -/
lemma broadcast_exchanges {key : Hash} {n : DhtNode S H} {nodes : List NodeInfo} :
    ∀ {r r' : Recorded τ} {ds : List Descriptor}, n.broadcast r key nodes = (ds, r') →
      ∃ exchanges asked, r'.exchanges = r.exchanges ++ exchanges ∧ n.Asks key asked exchanges ∧
        asked <+: nodes ∧ (ds = [] → asked = nodes) := by
  induction nodes with
  | nil =>
    intro r r' ds h
    obtain ⟨rfl, rfl⟩ := h
    exact ⟨[], [], by simp, rfl, List.prefix_rfl, fun _ => rfl⟩
  | cons node nodes ih =>
    rintro ⟨t, log⟩ r' ds h
    rcases hsend : Transport.sendRequest t node.addr (n.valueRequest key) with ⟨response, t₁⟩
    rw [broadcast, sendRequest_recorded hsend log] at h
    have hmore {r' : Recorded τ} {ds : List Descriptor}
        (h : n.broadcast ⟨t₁, log ++ [(node.addr, n.valueRequest key, response)]⟩ key nodes =
          (ds, r')) : ∃ exchanges asked, r'.exchanges = log ++ exchanges ∧
            n.Asks key asked exchanges ∧ asked <+: node :: nodes ∧
              (ds = [] → asked = node :: nodes) := by
      obtain ⟨exchanges, asked, hlog, hasks, hprefix, hall⟩ := ih h
      refine ⟨(node.addr, n.valueRequest key, response) :: exchanges, node :: asked, ?_, ?_, ?_, ?_⟩
      · rw [hlog, List.append_assoc]
        rfl
      · rw [Asks] at hasks
        rw [Asks, List.map_cons, List.map_cons, hasks]
      · exact List.cons_prefix_cons.2 ⟨rfl, hprefix⟩
      · exact fun hnone => by rw [hall hnone]
    dsimp only at h
    split at h
    case h_1 result =>
      split_ifs at h with hempty
      · exact hmore h
      · obtain ⟨rfl, rfl⟩ := Prod.mk.inj h
        refine ⟨[(node.addr, n.valueRequest key, some (.findValueResult result))], [node], rfl, rfl,
          List.cons_prefix_cons.2 ⟨rfl, List.nil_prefix⟩, fun hnone => ?_⟩
        exact absurd (List.isEmpty_iff.2 hnone) hempty
    case h_2 => exact hmore h

/-- The loop asks the nodes its rounds select, and what they name is what the rounds say. -/
lemma lookupLoop_exchanges {alpha : ℕ} {key : Hash} {fuel : ℕ} : ∀ {n n' : DhtNode S H}
    {r r' : Recorded τ} {candidates : List NodeInfo} {queried : List Hash} {ds : List Descriptor},
    lookupLoop alpha key fuel n r candidates queried = some (ds, n', r') →
      n'.valueRequest key = n.valueRequest key ∧ ∃ exchanges,
        r'.exchanges = r.exchanges ++ exchanges ∧
        n.Asks key
          ((lookupRounds alpha key fuel n r candidates queried).flatMap LookupRound.selected)
          exchanges ∧
        namedNodes exchanges =
          (lookupRounds alpha key fuel n r candidates queried).flatMap LookupRound.named := by
  induction fuel with
  | zero =>
    intro n n' r r' candidates queried ds h
    cases h
  | succ fuel ih =>
    intro n n' r r' candidates queried ds h
    rcases lookupLoop_cases h with ⟨-, rfl, rfl, rfl, hrounds⟩ |
      ⟨collected, newNodes, n₁, r₁, -, hquery, hcases⟩
    · rw [hrounds]
      exact ⟨rfl, [], by simp, rfl, rfl⟩
    · obtain ⟨hsame, exchanges, hlog, hasks, hnamed⟩ := queryNodes_exchanges hquery
      rcases hcases with ⟨-, rfl, rfl, rfl, hrounds⟩ | ⟨-, -, sorted, -, hloop, hrounds⟩
      · rw [hrounds]
        exact ⟨hsame, exchanges, hlog, by simpa using hasks, by simpa using hnamed⟩
      · obtain ⟨hsame', later, hlog', hasks', hnamed'⟩ := ih hloop
        rw [hrounds]
        refine ⟨hsame'.trans hsame, exchanges ++ later, ?_, ?_, ?_⟩
        · rw [hlog', hlog, List.append_assoc]
        · rw [Asks, hsame] at hasks'
          rw [Asks] at hasks
          rw [Asks, List.map_append, hasks, hasks', ← List.map_append, List.flatMap_cons]
        · rw [namedNodes, List.flatMap_append, ← namedNodes, ← namedNodes, hnamed, hnamed',
            List.flatMap_cons]

/-- Recording changes nothing about the rounds. -/
lemma lookupRounds_recorded {alpha : ℕ} {key : Hash} {fuel : ℕ} : ∀ {n : DhtNode S H} {t : τ}
    {candidates : List NodeInfo} {queried : List Hash}
    (log : List (NodeAddr × Request × Option Response)),
    lookupRounds alpha key fuel n (Recorded.mk t log) candidates queried =
      lookupRounds alpha key fuel n t candidates queried := by
  induction fuel with
  | zero => intros; rfl
  | succ fuel ih =>
    intro n t candidates queried log
    by_cases hnil : selection alpha candidates queried = []
    · rw [lookupRounds_of_nil hnil, lookupRounds_of_nil hnil]
    · obtain ⟨⟨collected, newNodes, n₁, t₁⟩, hquery⟩ := Option.isSome_iff_exists.1
        (n.queryNodes_isSome t key (selection alpha candidates queried))
      obtain ⟨exchanges, hrecord, -⟩ := queryNodes_recorded hquery log
      rw [lookupRounds_of_query hnil hquery, lookupRounds_of_query hnil hrecord]
      simp only [ih]

/-- A lookup that returns has come out of its loop, and without descriptors has asked a
small table. -/
lemma lookupValue_cases {alpha fuel : ℕ} {key : Hash} {n n' : DhtNode S H} {t t' : τ}
    {ds : List Descriptor} (h : n.lookupValue alpha fuel t key = some (ds, n', t')) :
    ∃ initial collected t₁, n.routingTable.closestNodes key alpha = some initial ∧
      lookupLoop alpha key fuel n t initial [] = some (collected, n', t₁) ∧
      ((collected = [] ∧ n'.routingTable.allNodes.length ≤ K ∧
          n'.broadcast t₁ key n'.routingTable.allNodes = (ds, t')) ∨
        ((collected = [] → K < n'.routingTable.allNodes.length) ∧ ds = collected ∧ t' = t₁)) := by
  obtain ⟨initial, hinitial, h⟩ := Option.bind_eq_some_iff.1 h
  obtain ⟨⟨collected, n₁, t₁⟩, hloop, h⟩ := Option.bind_eq_some_iff.1 h
  refine ⟨initial, collected, t₁, hinitial, ?_⟩
  dsimp only at h
  split_ifs at h with hsmall
  · obtain ⟨rfl, rfl, rfl⟩ := h
    exact ⟨hloop, .inl ⟨List.isEmpty_iff.1 hsmall.1, hsmall.2, rfl⟩⟩
  · obtain ⟨rfl, rfl, rfl⟩ := h
    refine ⟨hloop, .inr ⟨fun hnone => not_le.1 fun hle => hsmall ?_, rfl, rfl⟩⟩
    exact ⟨List.isEmpty_iff.2 hnone, hle⟩

/-- What a lookup sends: its rounds' requests, and the fallback's to nodes of a small table, all of
them if none has anything. -/
lemma lookupValue_exchanges {alpha fuel : ℕ} {key : Hash} {n n' : DhtNode S H} {t t' : τ}
    {initial : List NodeInfo} {ds : List Descriptor}
    (hinitial : n.routingTable.closestNodes key alpha = some initial)
    (h : n.lookupValue alpha fuel t key = some (ds, n', t')) :
    ∃ asked again repeated,
      n.lookupValue alpha fuel (Recorded.mk t []) key = some (ds, n', ⟨t', asked ++ again⟩) ∧
      n.Asks key ((lookupRounds alpha key fuel n t initial []).flatMap LookupRound.selected) asked ∧
      namedNodes asked = (lookupRounds alpha key fuel n t initial []).flatMap LookupRound.named ∧
      n.Asks key repeated again ∧ repeated.length ≤ K ∧
      (ds = [] → repeated =
        if n'.routingTable.allNodes.length ≤ K then n'.routingTable.allNodes else []) := by
  obtain ⟨exchanges, hrecord, -⟩ := lookupValue_recorded h
  obtain ⟨initial', collected, ⟨t₁, log⟩, hinitial', hloop, hcases⟩ := lookupValue_cases hrecord
  obtain rfl := Option.some.inj (hinitial.symm.trans hinitial')
  obtain ⟨hsame, asked, hlog, hasks, hnamed⟩ := lookupLoop_exchanges hloop
  rw [lookupRounds_recorded] at hasks hnamed
  obtain rfl : log = asked := by simpa using hlog
  rcases hcases with ⟨-, hsmall, hbroadcast⟩ | ⟨hlarge, hds, hlast⟩
  · obtain ⟨again, repeated, hagain, hasks', hprefix, hall⟩ := broadcast_exchanges hbroadcast
    obtain rfl : exchanges = log ++ again := hagain
    refine ⟨log, again, repeated, hrecord, hasks, hnamed, ?_, hprefix.length_le.trans hsmall, ?_⟩
    · rwa [Asks, ← hsame, ← Asks]
    · rw [if_pos hsmall]
      exact hall
  · obtain ⟨-, rfl⟩ := Recorded.mk.inj hlast
    refine ⟨exchanges, [], [], by rw [hrecord, List.append_nil], hasks, hnamed, rfl, Nat.zero_le _,
      ?_⟩
    rintro rfl
    rw [if_neg (not_le.2 (hlarge hds.symm))]

/-- Every round queries an ID not queried before, so there are no more of them than IDs among the
first candidates and the nodes named in answers; they send what is sent before the fallback, which
sends at most `K` requests more; and so the lookup comes to an end. -/
theorem lookup_bounded (alpha : ℕ) (n : DhtNode S H) (t : τ) (key : Hash) :
    (∀ initial fuel, n.routingTable.closestNodes key alpha = some initial →
      (∀ pre r post, lookupRounds alpha key fuel n t initial [] = pre ++ r :: post →
        ∃ id ∈ nodeIds r.selected, id ∉ nodeIds (pre.flatMap LookupRound.selected)) ∧
      (lookupRounds alpha key fuel n t initial []).length ≤ (nodeIds (initial ++
        (lookupRounds alpha key fuel n t initial []).flatMap LookupRound.named)).dedup.length ∧
      ∀ ds n' t', n.lookupValue alpha fuel t key = some (ds, n', t') → ∃ asked again,
        n.lookupValue alpha fuel (Recorded.mk t []) key = some (ds, n', ⟨t', asked ++ again⟩) ∧
        n.Asks key
          ((lookupRounds alpha key fuel n t initial []).flatMap LookupRound.selected) asked ∧
        namedNodes asked = (lookupRounds alpha key fuel n t initial []).flatMap LookupRound.named ∧
        again.length ≤ K) ∧
    ∃ fuel, (∀ more, n.lookupValue alpha (fuel + more) t key = n.lookupValue alpha fuel t key) ∧
      (32 ≤ key.digest.length → (n.lookupValue alpha fuel t key).isSome) := by
  refine ⟨fun initial fuel hinitial => ⟨?_, length_rounds_le rfl, ?_⟩,
    lookupValue_settles alpha n t key⟩
  · intro pre r post hsplit
    obtain ⟨hselected, hne, hqueried, -⟩ := lookupRounds_split hsplit
    obtain ⟨c, cs, hcs⟩ := List.exists_cons_of_ne_nil hne
    have hmem : c.identity.nodeId ∈ nodeIds r.selected := by
      rw [hcs]
      exact List.mem_cons_self
    refine ⟨_, hmem, ?_⟩
    rw [hselected] at hmem
    have hfresh := fresh_of_mem_selection hmem
    rwa [hqueried, List.nil_append] at hfresh
  · intro ds n' t' h
    obtain ⟨asked, again, repeated, hrecord, hasks, hnamed, hasks', hle, -⟩ :=
      lookupValue_exchanges hinitial h
    refine ⟨asked, again, hrecord, hasks, hnamed, ?_⟩
    have hlen := congrArg List.length hasks'
    rw [List.length_map, List.length_map] at hlen
    omega

end DhtNode

end MeshProtocol
