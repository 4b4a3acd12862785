import MeshProtocol.Dht.Rounds
import MeshProtocol.Dht.Service

/-!
# Descriptors or nodes (`mesh-dht/src/node.rs`)

A FIND_VALUE_RESULT has two optional fields.  `handle_find_value` fills one of them, the descriptors
if it has any, and neither if the hooks refuse the query.  `lookup_value` takes of an answer what is
there, so an answer with neither field is to it as good as none.
-/

namespace MeshProtocol

open DescriptorStorage

section Crypto

variable [Crypto]

namespace DhtNode

variable {S H : Type}

/-! ## The answer -/

/-- The most descriptors an answer to the request can have. -/
def answerBound (n : DhtNode S H) (findValue : FindValue) : ℕ :=
  min findValue.maxResults.toNat n.config.maxFindValueResults.toNat

/-- The result has one of the fields: descriptors if storage has some for the request, as many of
the first as there is room for, and nodes if it has none. -/
def OneOf [DescriptorStorage S] (n : DhtNode S H) (findValue : FindValue) (clock : UInt64)
    (result : FindValueResult) : Prop :=
  (n.HasDescriptors findValue clock ∧ result.nodes = none ∧
    result.descriptors = some ((getDescriptors n.store findValue.key findValue.filters clock).1.take
      (n.answerBound findValue))) ∨
  (¬ n.HasDescriptors findValue clock ∧ result.descriptors = none ∧
    ∃ nodes, result.nodes = some nodes)

section Handler

variable [DescriptorStorage S] [ProtocolHook H]

lemma oneOf_findAccepted {n n₁ n' : DhtNode S H} {findValue : FindValue} {clock : UInt64}
    {result : FindValueResult} (hstore : n₁.store = n.store) (hconfig : n₁.config = n.config)
    (h : n₁.findAccepted findValue clock = some (result, n')) : n.OneOf findValue clock result := by
  obtain ⟨result', hresult, hrest⟩ := Option.bind_eq_some_iff.1 h
  obtain ⟨rfl, -⟩ := Prod.mk.inj (Option.some.inj hrest)
  rw [OneOf, HasDescriptors, answerBound, ← hstore, ← hconfig]
  rcases findResult_cases hresult with ⟨hds, rfl⟩ | ⟨hds, nodes, -, rfl⟩
  · exact .inl ⟨hds, rfl, rfl⟩
  · exact .inr ⟨not_not.2 hds, rfl, nodes, rfl⟩

/-- The handler refuses as the hooks do, and fills one of the fields otherwise. -/
lemma oneOf_handleFindValue {n n' : DhtNode S H} {findValue : FindValue} {clock : UInt64}
    {result : FindValueResult} (h : n.handleFindValue findValue clock = some (result, n')) :
    (n.RefusesQuery findValue.key clock ∧ result = ⟨none, none⟩) ∨
      (¬ n.RefusesQuery findValue.key clock ∧ n.OneOf findValue clock result) := by
  rcases handleFindValue_answer h with hrefused | ⟨hpass, -, n₁, -, -, hstore, hconfig, haccepted⟩
  · exact .inl hrefused
  · exact .inr ⟨hpass, oneOf_findAccepted hstore hconfig haccepted⟩

end Handler

end DhtNode

/-! ## Answers that say the same -/

section Alike

variable {τ τ' : Type} [Transport τ] [Transport τ']

/-- The second transport answers every request with the descriptors and nodes of the first one. -/
def AnswersAs (φ : τ → τ') : Prop :=
  ∀ t addr request,
    found (Transport.sendRequest (φ t) addr request).1 =
      found (Transport.sendRequest t addr request).1 ∧
    DhtNode.namedIn (Transport.sendRequest (φ t) addr request).1 =
      DhtNode.namedIn (Transport.sendRequest t addr request).1 ∧
    (Transport.sendRequest (φ t) addr request).2 = φ (Transport.sendRequest t addr request).2

namespace DhtNode

variable {S H : Type} {φ : τ → τ'}

/-- The answer of a node to the request of a lookup. -/
def ask (n : DhtNode S H) (t : τ) (key : Hash) (node : NodeInfo) : Option Response × τ :=
  Transport.sendRequest t node.addr (n.valueRequest key)

/-- Of an answer a query takes the descriptors and the nodes that are there. -/
lemma queryNodes_cons (n : DhtNode S H) (t : τ) (key : Hash) (node : NodeInfo)
    (nodes : List NodeInfo) :
    n.queryNodes t key (node :: nodes) =
      (n.learnAll (namedIn (n.ask t key node).1)).bind fun n' =>
        (n'.queryNodes (n.ask t key node).2 key nodes).map
          fun (ds, newNodes, n'', t') =>
            (found (n.ask t key node).1 ++ ds,
              namedIn (n.ask t key node).1 ++ newNodes, n'', t') := by
  rw [queryNodes, ask]
  rcases Transport.sendRequest t node.addr (n.valueRequest key) with ⟨response, t₁⟩
  dsimp only
  split
  case h_1 result =>
    rw [Option.bind_eq_bind]
    refine congrArg _ (funext fun n' => ?_)
    rw [Option.bind_eq_bind]
    cases n'.queryNodes t₁ key nodes with
    | none => rfl
    | some out => rfl
  case h_2 hother =>
    have hnamed : namedIn response = [] := by
      unfold namedIn
      split
      case h_1 result => exact absurd rfl (hother result)
      case h_2 => rfl
    rw [hnamed, found_of_not_value hother, learnAll, Option.bind_some]
    simp

lemma queryNodes_alike (h : AnswersAs φ) {key : Hash} {nodes : List NodeInfo} :
    ∀ (n : DhtNode S H) (t : τ), n.queryNodes (φ t) key nodes =
      (n.queryNodes t key nodes).map fun (ds, newNodes, n', t') => (ds, newNodes, n', φ t') := by
  induction nodes with
  | nil =>
    intro n t
    rfl
  | cons node nodes ih =>
    intro n t
    obtain ⟨hfound, hnamed, hnext⟩ := h t node.addr (n.valueRequest key)
    rw [queryNodes_cons, queryNodes_cons, ask, ask, hfound, hnamed, hnext, Option.map_bind]
    refine congrArg _ (funext fun n' => ?_)
    rw [Function.comp_apply, ih, Option.map_map, Option.map_map]
    rfl

lemma broadcast_cons (n : DhtNode S H) (t : τ) (key : Hash) (node : NodeInfo)
    (nodes : List NodeInfo) :
    n.broadcast t key (node :: nodes) =
      if (found (n.ask t key node).1).isEmpty then
        n.broadcast (n.ask t key node).2 key nodes
      else (found (n.ask t key node).1,
        (n.ask t key node).2) := by
  rw [broadcast, ask]
  rcases Transport.sendRequest t node.addr (n.valueRequest key) with ⟨response, t₁⟩
  dsimp only
  split
  case h_1 result => rfl
  case h_2 hother =>
    rw [found_of_not_value hother, if_pos List.isEmpty_nil]

lemma broadcast_alike (h : AnswersAs φ) {key : Hash} {n : DhtNode S H} {nodes : List NodeInfo} :
    ∀ t : τ, n.broadcast (φ t) key nodes = Prod.map id φ (n.broadcast t key nodes) := by
  induction nodes with
  | nil =>
    intro t
    rfl
  | cons node nodes ih =>
    intro t
    obtain ⟨hfound, -, hnext⟩ := h t node.addr (n.valueRequest key)
    rw [broadcast_cons, broadcast_cons, ask, ask, hfound, hnext, ih]
    split_ifs <;> rfl

lemma lookupLoop_alike (h : AnswersAs φ) {alpha : ℕ} {key : Hash} {fuel : ℕ} :
    ∀ (n : DhtNode S H) (t : τ) (candidates : List NodeInfo) (queried : List Hash),
      lookupLoop alpha key fuel n (φ t) candidates queried =
        (lookupLoop alpha key fuel n t candidates queried).map
          fun (ds, n', t') => (ds, n', φ t') := by
  induction fuel with
  | zero =>
    intro n t candidates queried
    rfl
  | succ fuel ih =>
    intro n t candidates queried
    rw [lookupLoop, lookupLoop]
    by_cases hempty : ((candidates.filter fun c => c.identity.nodeId ∉ queried).take alpha).isEmpty
    · rw [if_pos hempty, if_pos hempty]
      rfl
    · rw [if_neg hempty, if_neg hempty, queryNodes_alike h]
      cases n.queryNodes t key
          ((candidates.filter fun c => c.identity.nodeId ∉ queried).take alpha) with
      | none => rfl
      | some out =>
        obtain ⟨collected, newNodes, n₁, t₁⟩ := out
        simp only [Option.map_some, Option.bind_eq_bind, Option.bind_some]
        by_cases hnothing : newNodes.isEmpty ∧ collected.isEmpty
        · rw [if_pos hnothing, if_pos hnothing]
          rfl
        · rw [if_neg hnothing, if_neg hnothing]
          cases sortByDistance key (candidates ++ newNodes) with
          | none => rfl
          | some sorted =>
            simp only [Option.bind_some]
            by_cases hfound : ¬ collected.isEmpty
            · rw [if_pos hfound, if_pos hfound]
              rfl
            · rw [if_neg hfound, if_neg hfound]
              exact ih _ _ _ _

/-- A lookup does the same over transports that answer with the same descriptors and nodes. -/
theorem lookupValue_alike (h : AnswersAs φ) {alpha fuel : ℕ} {key : Hash} (n : DhtNode S H)
    (t : τ) :
    n.lookupValue alpha fuel (φ t) key =
      (n.lookupValue alpha fuel t key).map fun (ds, n', t') => (ds, n', φ t') := by
  rw [lookupValue, lookupValue]
  cases n.routingTable.closestNodes key alpha with
  | none => rfl
  | some initial =>
    simp only [Option.bind_eq_bind, Option.bind_some, lookupLoop_alike h]
    cases lookupLoop alpha key fuel n t initial [] with
    | none => rfl
    | some out =>
      obtain ⟨collected, n₁, t₁⟩ := out
      simp only [Option.map_some, Option.bind_some]
      by_cases hnone : collected.isEmpty ∧ n₁.routingTable.allNodes.length ≤ K
      · rw [if_pos hnone, if_pos hnone, broadcast_alike h]
        rfl
      · rw [if_neg hnone, if_neg hnone]
        rfl

end DhtNode

end Alike

/-! ## Answers with neither field -/

/-- A transport without the answers that have neither field. -/
structure Sifted (τ : Type) where
  transport : τ

/-- An answer with neither field is none. -/
def sift : Option Response → Option Response
  | some (.findValueResult ⟨none, none⟩) => none
  | response => response

instance {τ : Type} [Transport τ] : Transport (Sifted τ) where
  sendRequest s addr request :=
    let (response, t) := Transport.sendRequest s.transport addr request
    (sift response, ⟨t⟩)

omit [Crypto] in
lemma answersAs_sifted {τ : Type} [Transport τ] : AnswersAs (Sifted.mk : τ → Sifted τ) := by
  intro t addr request
  change found (sift (Transport.sendRequest t addr request).1) = _ ∧
    DhtNode.namedIn (sift (Transport.sendRequest t addr request).1) = _ ∧ _
  unfold sift
  split
  case h_1 hneither =>
    rw [hneither]
    exact ⟨rfl, rfl, rfl⟩
  case h_2 => exact ⟨rfl, rfl, rfl⟩

/-- `handle_find_value` never fills both fields, and neither just where the hooks refuse; it has
descriptors just where storage has, at most as many as asked for and configured, and some unless one
of the two is zero.  To `lookup_value` an answer with neither field is none. -/
theorem findValue_oneOf :
    (∀ (S H : Type) [DescriptorStorage S] [ProtocolHook H] (n : DhtNode S H) (findValue : FindValue)
      (clock : UInt64),
      (32 ≤ findValue.key.digest.length → (n.handleFindValue findValue clock).isSome) ∧
      ∀ result n', n.handleFindValue findValue clock = some (result, n') →
        (result.descriptors = none ∨ result.nodes = none) ∧
        (result.descriptors = none ∧ result.nodes = none ↔ n.RefusesQuery findValue.key clock) ∧
        (result.descriptors.isSome ↔
          ¬ n.RefusesQuery findValue.key clock ∧ n.HasDescriptors findValue clock) ∧
        ∀ ds, result.descriptors = some ds →
          ds.length ≤ min findValue.maxResults.toNat n.config.maxFindValueResults.toNat ∧
          (0 < findValue.maxResults.toNat → 0 < n.config.maxFindValueResults.toNat → ds ≠ [])) ∧
    ∀ (S H τ : Type) [Transport τ] (n : DhtNode S H) (alpha fuel : ℕ) (t : τ) (key : Hash),
      n.lookupValue alpha fuel (Sifted.mk t) key =
        (n.lookupValue alpha fuel t key).map fun (ds, n', t') => (ds, n', Sifted.mk t') := by
  constructor
  · intro S H _ _ n findValue clock
    refine ⟨fun hkey => ?_, fun result n' h => ?_⟩
    · exact (n.handleFindValue_isSome_iff findValue clock).2 (.inr (.inr (.inr hkey)))
    · rcases DhtNode.oneOf_handleFindValue h with ⟨hrefuses, rfl⟩ |
        ⟨hpass, ⟨hhas, hnodes, hdescriptors⟩ | ⟨hnone, hdescriptors, nodes, hnodes⟩⟩
      · simp [hrefuses]
      · rw [hnodes, hdescriptors]
        refine ⟨.inr rfl, by simp [hpass], by simp [hpass, hhas], ?_⟩
        rintro _ ⟨⟩
        refine ⟨List.length_take_le _ _, fun hmax hconfig hempty => ?_⟩
        obtain hzero | hempty := List.take_eq_nil_iff.1 hempty
        · rw [DhtNode.answerBound] at hzero
          omega
        · exact hhas hempty
      · rw [hnodes, hdescriptors]
        simp [hpass, hnone]
  · intro S H τ _ n alpha fuel t key
    exact n.lookupValue_alike answersAs_sifted t

end Crypto

/-! ## One field, both, or neither -/

/-- Hooks that refuse every query. -/
structure RefusingHook where

instance : ProtocolHook RefusingHook where
  preQuery hook _ _ := (.error "refused", hook)

/-- Peers that answer everything alike. -/
structure Answering where
  response : Option Response

instance : Transport Answering where
  sendRequest peers _ _ := (peers.response, peers)

/-- The first publisher's node, which has `target` and knows the second publisher. -/
def holder [Crypto] [Ciborium] : Option (DhtNode DescriptorStore NoOpHook) :=
  (DhtNode.withStore firstPublisher (.quic "first:4433") {}
    ((storageMachine DescriptorStore).run .new [.storeDescriptorAt target 1700000000000000])).learn
      ⟨secondPublisher, secondAddr, 0⟩

/-- A request of the second publisher for `compute`. -/
def computeRequest (maxResults : UInt16) : FindValue :=
  ⟨secondPublisher, secondAddr, computeKey, maxResults, none⟩

/-- Asked for one descriptor, the node answers with one and no nodes. -/
theorem holder_answers_descriptors :
    letI : Crypto := cryptoOf [target]
    letI : Ciborium := referenceCiborium
    ∃ n result n' ds, holder = some n ∧
      n.handleFindValue (computeRequest 1) 1700000000000000 = some (result, n') ∧
      result.nodes = none ∧ result.descriptors = some ds ∧ ds ≠ [] := by
  let _ : Crypto := cryptoOf [target]
  let _ : Ciborium := referenceCiborium
  have hsome : holder.isSome := by decide +kernel
  obtain ⟨n, hn⟩ := Option.isSome_iff_exists.1 hsome
  have hhas : (holder.map fun n => decide (0 < n.config.maxFindValueResults.toNat ∧ n.hooks.isNone ∧
      (DescriptorStorage.getDescriptors n.store computeKey none 1700000000000000).1 = [target])) =
        some true := by
    decide +kernel
  rw [hn, Option.map_some, Option.some.injEq, decide_eq_true_eq] at hhas
  obtain ⟨hconfig, hhooks, hstored⟩ := hhas
  obtain ⟨hanswers, hfields⟩ := findValue_oneOf.1 _ _ n (computeRequest 1) 1700000000000000
  obtain ⟨⟨result, n'⟩, h⟩ := Option.isSome_iff_exists.1 (hanswers (by decide))
  obtain ⟨hone, -, hdescriptors, hbounds⟩ := hfields result n' h
  have hpass : ¬ n.RefusesQuery computeKey 1700000000000000 := by
    rintro ⟨hooks, -, hsome, -⟩
    rw [hsome] at hhooks
    cases hhooks
  have hmatches : n.HasDescriptors (computeRequest 1) 1700000000000000 := by
    rw [DhtNode.HasDescriptors, computeRequest, hstored]
    exact List.cons_ne_nil _ _
  obtain ⟨ds, hds⟩ := Option.isSome_iff_exists.1 (hdescriptors.2 ⟨hpass, hmatches⟩)
  refine ⟨n, result, n', ds, hn, h, ?_, hds, (hbounds ds hds).2 (by decide) hconfig⟩
  exact hone.resolve_left (by rw [hds]; exact Option.some_ne_none ds)

/-- Hooks can make the node answer with neither field, a request for no descriptors is answered with
none, and a lookup takes descriptors from an answer that has both fields. -/
theorem not_one_of :
    letI : Crypto := cryptoOf [target]
    letI : Ciborium := referenceCiborium
    (∃ n : DhtNode DescriptorStore RefusingHook,
      (n.handleFindValue (computeRequest 1) 1700000000000000).map Prod.fst = some ⟨none, none⟩) ∧
    holder.bind (fun n => (n.handleFindValue (computeRequest 0) 1700000000000000).map Prod.fst) =
      some ⟨some [], none⟩ ∧
    holder.bind (fun n => (n.lookupValue 3 2 (Answering.mk (some (.findValueResult
      ⟨some [target], some [⟨thirdPublisher, thirdAddr, 0⟩]⟩))) computeKey).map Prod.fst) =
        some [target] ∧
    holder.bind (fun n => (n.lookupValue 3 2 (Answering.mk none) computeKey).map Prod.fst) =
      some [] := by
  let _ : Crypto := cryptoOf [target]
  let _ : Ciborium := referenceCiborium
  refine ⟨⟨DhtNode.withHooks (.withStore firstPublisher (.quic "first:4433") {} .new)
    RefusingHook.mk, ?_⟩, ?_, ?_, ?_⟩
  · decide +kernel
  · decide +kernel
  · decide +kernel
  · decide +kernel

end MeshProtocol
