import MeshProtocol.Dht.Discovery
import MeshProtocol.Dht.Offers
import MeshProtocol.Dht.SmallNetwork

/-!
# A publisher's quota in a small network (`mesh-dht/src/node.rs`, `storage.rs`)

In a complete network `iterative_store` sends a descriptor to every other node once for each of its
routing keys.  The receiving store counts each of these STOREs against the publisher's ten a minute:
the quota is one of routing keys, and not of descriptors.

`Delivered` says what a run of messages has brought to the other nodes; it is composed message by
message, key by key, and descriptor by descriptor.
-/

namespace MeshProtocol

open Fallible DescriptorStore

/-- The descriptors of the STOREs to an address that were answered as stored. -/
def acceptedAt (b : NodeAddr) (log : List (NodeAddr × Request × Option Response)) :
    List Descriptor :=
  log.filterMap fun
    | (addr, .store storeReq, some (.storeAck ack)) =>
      if addr = b ∧ ack.stored = true then some storeReq.descriptor else none
    | _ => none

lemma acceptedAt_append (b : NodeAddr) (log log' : List (NodeAddr × Request × Option Response)) :
    acceptedAt b (log ++ log') = acceptedAt b log ++ acceptedAt b log' :=
  List.filterMap_append

/-- What is asked with FIND_NODE is not stored. -/
lemma acceptedAt_of_findNode {b : NodeAddr} {log : List (NodeAddr × Request × Option Response)}
    (h : ∀ exchange ∈ log, ∃ findNode, exchange.2.1 = .findNode findNode) :
    acceptedAt b log = [] := by
  refine List.filterMap_eq_nil_iff.2 fun exchange hexchange => ?_
  obtain ⟨addr, request, response⟩ := exchange
  obtain ⟨findNode, rfl⟩ := h _ hexchange
  rfl

section Delivering

variable [Crypto] [Ciborium]

lemma accepted_append (s : DescriptorStore) (calls calls' : List (StorageCall DescriptorStore)) :
    accepted s (calls ++ calls') =
      accepted s calls ++ accepted ((storageMachine DescriptorStore).run s calls) calls' := by
  rw [accepted, Machine.trace_append, List.filterMap_append]
  rfl

/-! ## Deliveries -/

/-- The nodes other than the one at `a` are in place after the messages sent, and each of their
stores has been offered some descriptors and has answered what the messages say. -/
structure Delivered (r : Roster) (a : NodeAddr) (sent : List (NodeAddr × Request × Option Response))
    (offers : NodeAddr → List Descriptor) (t t' : Network) : Prop where
  residents : r.Residents t'
  clock : t'.clock = t.clock
  isSome : ∀ b, (t'.nodes b).isSome = (t.nodes b).isSome
  store : ∀ {b x}, b ≠ a → t.nodes b = some x → ∃ x' calls, t'.nodes b = some x' ∧
    calls.map Prod.fst = offers b ∧ (∀ call ∈ calls, ∃ k, call.2 = t.clock k) ∧
    acceptedAt b sent = accepted x.store (stores calls) ∧
    x'.store = (storageMachine DescriptorStore).run x.store (stores calls)

variable {r : Roster} {a b : NodeAddr} {n x x' : Peer} {t t' t'' : Network} {d : Descriptor}
  {sent sent' log : List (NodeAddr × Request × Option Response)}
  {offers offers' : NodeAddr → List Descriptor}

/-- Messages that change no store and have none stored. -/
lemma Delivered.of_sameStores (ht' : r.Residents t') (h : Roster.SameStores t t')
    (hnone : ∀ b, acceptedAt b sent = []) : Delivered r a sent (fun _ => []) t t' where
  residents := ht'
  clock := h.clock
  isSome := h.isSome
  store := by
    intro b x _ hx
    obtain ⟨x', hx', hstore, -⟩ := h.exists_of_some hx
    exact ⟨x', [], hx', rfl, by simp, hnone b, hstore⟩

lemma Delivered.trans (h : Delivered r a sent offers t t')
    (h' : Delivered r a sent' offers' t' t'') :
    Delivered r a (sent ++ sent') (fun b => offers b ++ offers' b) t t'' where
  residents := h'.residents
  clock := h'.clock.trans h.clock
  isSome b := (h'.isSome b).trans (h.isSome b)
  store := by
    intro b x hba hx
    obtain ⟨x', calls, hx', hcalls, htimes, haccepted, hstore⟩ := h.store hba hx
    obtain ⟨x'', calls', hx'', hcalls', htimes', haccepted', hstore'⟩ := h'.store hba hx'
    refine ⟨x'', calls ++ calls', hx'', ?_, ?_, ?_, ?_⟩
    · rw [List.map_append, hcalls, hcalls']
    · intro call hcall
      rcases List.mem_append.1 hcall with hcall | hcall
      · exact htimes call hcall
      · obtain ⟨k, hk⟩ := htimes' call hcall
        exact ⟨k, by rw [hk, h.clock]⟩
    · rw [acceptedAt_append, haccepted, haccepted', hstore, stores, stores, stores, List.map_append,
        accepted_append]
    · rw [hstore', hstore, stores, stores, stores, List.map_append, Machine.run_append]

lemma Delivered.congr (h : Delivered r a sent offers t t')
    (heq : ∀ {b x}, b ≠ a → t.nodes b = some x → offers b = offers' b) :
    Delivered r a sent offers' t t' where
  residents := h.residents
  clock := h.clock
  isSome := h.isSome
  store hba hx := by
    rw [← heq hba hx]
    exact h.store hba hx

/-! ## STOREs -/

/-- A STORE is an offer to the node it is sent to. -/
lemma Delivered.store_one (hn : r.Resident a n) (ht : r.Residents t) (hx : t.nodes b = some x)
    (d : Descriptor) : ∃ ack t',
      Transport.sendRequest t b (.store ⟨n.identity, n.addr, d⟩) = (some (.storeAck ack), t') ∧
      Delivered r a [(b, .store ⟨n.identity, n.addr, d⟩, some (.storeAck ack))]
        (fun c => if c = b then [d] else []) t t' := by
  obtain ⟨ack, x', hdispatch, hx', -, hstore, hstored⟩ := (ht hx).store hn d t.now
  refine ⟨ack, t.put b x', Network.sendRequest_of_some hx hdispatch, ht.put hx', rfl, ?_, ?_⟩
  · intro c
    by_cases hcb : c = b
    · rw [hcb, hx, Network.put_nodes_self]
      rfl
    · rw [Network.put_nodes_of_ne hcb]
  · intro c y _ hy
    by_cases hcb : c = b
    · subst hcb
      obtain rfl := Option.some.inj (hx.symm.trans hy)
      refine ⟨x', [(d, t.now)], Network.put_nodes_self _ _ _, by simp, ?_, ?_, hstore⟩
      · intro call hcall
        obtain rfl := List.mem_singleton.1 hcall
        exact ⟨t.reads, rfl⟩
      · change (if c = c ∧ ack.stored = true then some d else none).toList =
          (if StorageAnswer.stored (x.store.storeDescriptorAt d t.now).1 = .stored (.ok ())
            then some d
            else none).toList
        simp [hstored]
    · refine ⟨y, [], ?_, by simp [hcb], by simp, ?_, rfl⟩
      · rw [Network.put_nodes_of_ne hcb, hy]
      · simp [acceptedAt, Ne.symm hcb, accepted, stores]

/-- The STOREs for some targets: one for each target at an address that is not the node itself. -/
lemma sendStores_delivered (hn : r.Resident a n) (d : Descriptor) (nodes : List NodeInfo) :
    ∀ {t : Network}, r.Residents t → ∀ log, ∃ count sent t',
      n.sendStores (Recorded.mk t log) d nodes = (count, ⟨t', log ++ sent⟩) ∧
        Delivered r a sent (fun b => List.replicate
          (nodes.countP fun e => e.addr = b ∧ e.identity.nodeId ≠ n.nodeId) d) t t' := by
  induction nodes with
  | nil =>
    intro t ht log
    exact ⟨0, [], t, by rw [List.append_nil]; rfl, .of_sameStores ht (.refl t) fun _ => rfl⟩
  | cons node nodes ih =>
    intro t ht log
    by_cases hself : node.identity.nodeId = n.nodeId
    · obtain ⟨count, sent, t', hsend, hdelivered⟩ := ih ht log
      refine ⟨count, sent, t', ?_, hdelivered.congr fun {b _} _ _ => ?_⟩
      · rw [DhtNode.sendStores, if_pos hself, hsend]
      · rw [List.countP_cons_of_neg (by simp [hself])]
    · cases hx : t.nodes node.addr with
      | none =>
        have hfirst := sendRequest_recorded (Network.sendRequest_of_none hx
          (.store ⟨n.identity, n.addr, d⟩)) log
        obtain ⟨count, sent, t', hsend, hdelivered⟩ := ih ht
          (log ++ [(node.addr, .store ⟨n.identity, n.addr, d⟩, none)])
        refine ⟨count, (node.addr, .store ⟨n.identity, n.addr, d⟩, none) :: sent, t', ?_, ?_⟩
        · rw [DhtNode.sendStores, if_neg hself, hfirst]
          dsimp only
          rw [hsend, List.append_assoc]
          rfl
        · have hnone : Delivered r a [(node.addr, .store ⟨n.identity, n.addr, d⟩, none)]
              (fun _ => []) t t := .of_sameStores ht (.refl t) fun _ => rfl
          refine (hnone.trans hdelivered).congr fun {b x} _ hb => ?_
          have hne : node.addr ≠ b := by
            rintro rfl
            cases hx.symm.trans hb
          rw [List.countP_cons_of_neg (by simp [hne]), List.nil_append]
      | some x =>
        obtain ⟨ack, t₁, hstore, hone⟩ := Delivered.store_one hn ht hx d
        have hfirst := sendRequest_recorded hstore log
        obtain ⟨count, sent, t', hsend, hdelivered⟩ := ih hone.residents
          (log ++ [(node.addr, .store ⟨n.identity, n.addr, d⟩, some (.storeAck ack))])
        refine ⟨if ack.stored then count + 1 else count,
          (node.addr, .store ⟨n.identity, n.addr, d⟩, some (.storeAck ack)) :: sent, t', ?_, ?_⟩
        · rw [DhtNode.sendStores, if_neg hself, hfirst]
          dsimp only
          rw [hsend, List.append_assoc]
          rfl
        · refine (hone.trans hdelivered).congr fun {b _} _ _ => ?_
          by_cases hb : b = node.addr
          · subst hb
            rw [if_pos rfl, List.countP_cons_of_pos (by simp [hself]), List.singleton_append,
              List.replicate_succ]
          · rw [if_neg hb, List.countP_cons_of_neg (by simp [Ne.symm hb]), List.nil_append]

/-! ## Publications -/

omit [Ciborium] in
/-- A recorded FIND_NODE round is the round, and records nothing else. -/
lemma findTargets_recorded {S H τ : Type} [Transport τ] {key : Hash} {nodes : List NodeInfo} :
    ∀ {n n' : DhtNode S H} {t t' : τ} {targets targets' : List NodeInfo},
      n.findTargets t key targets nodes = some (targets', n', t') → ∀ log, ∃ asked,
        n.findTargets (Recorded.mk t log) key targets nodes =
          some (targets', n', ⟨t', log ++ asked⟩) ∧
        ∀ exchange ∈ asked, ∃ findNode, exchange.2.1 = .findNode findNode := by
  induction nodes with
  | nil =>
    intro n n' t t' targets targets' h log
    obtain ⟨rfl, rfl, rfl⟩ := h
    exact ⟨[], by simp [DhtNode.findTargets], by simp⟩
  | cons node nodes ih =>
    intro n n' t t' targets targets' h log
    rcases hsend : Transport.sendRequest t node.addr (.findNode ⟨n.identity, n.addr, key⟩) with
      ⟨response, t₁⟩
    have hrecord := sendRequest_recorded hsend log
    rw [DhtNode.findTargets] at h ⊢
    rw [hsend] at h
    rw [hrecord]
    dsimp only at h ⊢
    split at h
    case h_1 result =>
      obtain ⟨⟨targets₁, n₁⟩, hmerge, h⟩ := Option.bind_eq_some_iff.1 h
      obtain ⟨asked, hfind, hasked⟩ := ih h (log ++ [(node.addr,
        .findNode ⟨n.identity, n.addr, key⟩, some (.findNodeResult result))])
      refine ⟨(node.addr, .findNode ⟨n.identity, n.addr, key⟩,
        some (.findNodeResult result)) :: asked, ?_, List.forall_mem_cons.2 ⟨⟨_, rfl⟩, hasked⟩⟩
      rw [hmerge, Option.bind_eq_bind, Option.bind_some, hfind, List.append_assoc]
      rfl
    case h_2 =>
      obtain ⟨asked, hfind, hasked⟩ := ih h
        (log ++ [(node.addr, .findNode ⟨n.identity, n.addr, key⟩, response)])
      refine ⟨(node.addr, .findNode ⟨n.identity, n.addr, key⟩, response) :: asked, ?_,
        List.forall_mem_cons.2 ⟨⟨_, rfl⟩, hasked⟩⟩
      rw [hfind, List.append_assoc]
      rfl

/-- The nodes know no identity that is not in the network. -/
structure Roster.Exact (r : Roster) : Prop where
  nodup : r.known.Nodup
  home : ∀ i ∈ r.known, ∃ b, r.homes b = some i

omit [Ciborium] in
/-- Every node knows all the others, and nobody else. -/
lemma Roster.Exact.length_known (hr : r.Exact) (hn : r.Resident a n) :
    r.known.length = n.routingTable.allNodes.length + 1 := by
  have hsubset : r.known ⊆ n.identity :: n.routingTable.allNodes.map NodeInfo.identity := by
    intro i hi
    obtain ⟨b, hb⟩ := hr.home i hi
    by_cases hself : i = n.identity
    · exact List.mem_cons.2 (.inl hself)
    · obtain ⟨e, he, rfl⟩ := hn.table.complete hb hself
      exact List.mem_cons_of_mem _ (List.mem_map_of_mem he)
  have hle := (List.subperm_of_subset hr.nodup hsubset).length_le
  rw [List.length_cons, List.length_map] at hle
  exact le_antisymm hle hn.length_lt_known

/-- A key for which the nodes can be sorted: it is long enough, or there is nothing to compare. -/
def Sortable (r : Roster) (alpha : ℕ) (key : Hash) : Prop :=
  32 ≤ key.digest.length ∨ (alpha = 0 ∧ r.known.length ≤ 2)

omit [Ciborium] in
/-- One entry of a listing is for the node at an address. -/
lemma countP_listing (hr : r.Exact) {l : List NodeInfo} (hl : r.Listing l) {self : Hash}
    (hx : r.Resident b x) (he : ∃ e ∈ l, e.addr = b ∧ e.identity.nodeId ≠ self) :
    l.countP (fun e => e.addr = b ∧ e.identity.nodeId ≠ self) = 1 := by
  refine le_antisymm ?_ (List.countP_pos_iff.2 (by simpa using he))
  -- an entry with the address has the identity at home there
  have hid : ∀ e ∈ l, e.addr = b → e.identity = x.identity := by
    intro e he haddr
    obtain ⟨c, hc⟩ := hr.home _ (hl.names e he).known
    obtain rfl : b = c := haddr.symm.trans ((hl.names e he).addr hc)
    exact Option.some.inj (hc.symm.trans hx.home)
  calc l.countP (fun e => e.addr = b ∧ e.identity.nodeId ≠ self)
      ≤ l.countP (fun e => e.identity = x.identity) := by
        refine List.countP_mono_left fun e he h => decide_eq_true ?_
        exact hid e he (of_decide_eq_true h).1
    _ = (l.map NodeInfo.identity).count x.identity := by
        rw [List.count, List.countP_map]
        exact List.countP_congr fun e _ => by simp
    _ ≤ 1 := List.nodup_iff_count_le_one.1 hl.nodup _

/-- For the first key, the descriptor is offered to every other node once. -/
lemma storeAtKeys_cons (hr : r.Exact) {alpha : ℕ} {key : Hash} (hkey : Sortable r alpha key)
    (hn : r.Resident a n) (ht : r.Residents t)
    (log : List (NodeAddr × Request × Option Response)) : ∃ count n' sent t',
      (∀ keys, n.storeAtKeys alpha (Recorded.mk t log) d (key :: keys) =
        (n'.storeAtKeys alpha (Recorded.mk t' (log ++ sent)) d keys).map
          fun (others, n, t) => (count + others, n, t)) ∧
      r.Resident a n' ∧ Delivered r a sent (fun _ => [d]) t t' := by
  obtain ⟨closest, targets, sorted, n', t₁, hclosest, hfind, hsort, htake, hn', -, -, ht₁, hsame,
    hlisting, hothers⟩ := Roster.targets_ok hn ht hkey
  obtain ⟨asked, hfind, hasked⟩ := findTargets_recorded hfind log
  obtain ⟨count, sent, t', hsend, hsent⟩ := sendStores_delivered hn' d sorted ht₁ (log ++ asked)
  refine ⟨count, n', asked ++ sent, t', fun keys => ?_, hn', ?_⟩
  · rw [DhtNode.storeAtKeys, hclosest, Option.bind_eq_bind, Option.bind_some, hfind,
      Option.bind_eq_bind, Option.bind_some]
    dsimp only
    rw [hsort, Option.bind_eq_bind, Option.bind_some, htake, hsend, List.append_assoc,
      Option.map_eq_bind]
    rfl
  · have hround : Delivered r a asked (fun _ => []) t t₁ :=
      .of_sameStores ht₁ hsame fun _ => acceptedAt_of_findNode hasked
    refine (hround.trans hsent).congr fun {b x} hba hx => ?_
    obtain ⟨e, he, -, haddr, hne⟩ := hothers hba hx
    rw [countP_listing hr hlisting (ht hx) ⟨e, he, haddr, hne⟩, List.nil_append,
      List.replicate_one]

/-- `iterative_store` offers the descriptor to every other node once for each of the keys. -/
lemma storeAtKeys_delivered (hr : r.Exact) {alpha : ℕ} {keys : List Hash} :
    ∀ {n : Peer} {t : Network}, (∀ key ∈ keys, Sortable r alpha key) → r.Resident a n →
      r.Residents t → ∀ log, ∃ stored n' sent t',
        n.storeAtKeys alpha (Recorded.mk t log) d keys = some (stored, n', ⟨t', log ++ sent⟩) ∧
        r.Resident a n' ∧ Delivered r a sent (fun _ => List.replicate keys.length d) t t' := by
  induction keys with
  | nil =>
    intro n t _ hn ht log
    exact ⟨0, n, [], t, by rw [List.append_nil]; rfl, hn, .of_sameStores ht (.refl t) fun _ => rfl⟩
  | cons key keys ih =>
    intro n t hkeys hn ht log
    obtain ⟨hkey, hkeys⟩ := List.forall_mem_cons.1 hkeys
    obtain ⟨count, n₁, sent, t₁, hfirst, hn₁, hone⟩ := storeAtKeys_cons (d := d) hr hkey hn ht log
    obtain ⟨others, n', sent', t', hrest, hn', hdelivered⟩ :=
      ih hkeys hn₁ hone.residents (log ++ sent)
    refine ⟨count + others, n', sent ++ sent', t', ?_, hn', hone.trans hdelivered⟩
    rw [hfirst, hrest, List.append_assoc]
    rfl

/-- At a key for which the nodes cannot be sorted, a node that knows another one panics. -/
lemma storeAtKeys_of_not_sortable (hr : r.Exact) {alpha : ℕ} {key : Hash}
    (hkey : ¬ Sortable r alpha key) (hn : r.Resident a n) (ht : r.Residents t)
    (hother : ∃ b ≠ a, (t.nodes b).isSome) (keys : List Hash)
    (log : List (NodeAddr × Request × Option Response)) :
    n.storeAtKeys alpha (Recorded.mk t log) d (key :: keys) = none := by
  obtain ⟨hshort, hpair⟩ := not_or.1 hkey
  have hlength := hr.length_known hn
  by_cases hone : n.routingTable.allNodes.length ≤ 1
  · obtain ⟨b, hba, hb⟩ := hother
    obtain ⟨x, hx⟩ := Option.isSome_iff_exists.1 hb
    obtain ⟨e, he, -, rfl⟩ := hn.entry (ht hx) hba
    have hsome : (n.routingTable.closestNodes key K).isSome :=
      (RoutingTable.closestNodes_isSome_iff K).2 (.inl hone)
    obtain ⟨closest, hclosest⟩ := Option.isSome_iff_exists.1 hsome
    have hperm := RoutingTable.closestNodes_perm hclosest hn.table.listing.length_le
    -- the other node is asked for targets, and names this one
    have hsingle : closest = [e] := by
      have hmem : e ∈ closest := hperm.mem_iff.2 he
      have hlen : closest.length = 1 :=
        le_antisymm (hperm.length_eq.trans_le hone) (List.length_pos_of_mem hmem)
      obtain ⟨e', rfl⟩ := List.length_eq_one_iff.1 hlen
      rw [List.mem_singleton.1 hmem]
    have hasked : e ∈ closest.take alpha := by
      rw [hsingle, List.take_of_length_le]
      · exact List.mem_singleton_self e
      · by_contra hnone
        exact hpair ⟨by simpa using hnone, by omega⟩
    obtain ⟨targets, n', t', hfind, -, -, -, -, -, -, hsubset, hself⟩ := Roster.findTargets_ok
      (.inr (by omega)) (closest.take alpha) hn ht (hn.table.listing.perm hperm)
    obtain ⟨e', he', hid⟩ := hself e hasked hb hba
    have htwo : 2 ≤ targets.length := by
      have hne : e ≠ e' := by
        rintro rfl
        have hlocal := RoutingTable.nodeId_ne_localId he
        rw [n.localId_eq] at hlocal
        exact hlocal hid
      have hsub : [e, e'] ⊆ targets :=
        List.cons_subset.2 ⟨hsubset (hperm.mem_iff.2 he), List.cons_subset.2 ⟨he', by simp⟩⟩
      exact (List.subperm_of_subset (by simpa using hne) hsub).length_le
    obtain ⟨asked, hfind, -⟩ := findTargets_recorded hfind log
    have hsort : DhtNode.sortByDistance key targets = none :=
      sortBy_eq_none htwo fun _ _ _ _ => distanceCmp_eq_none (by omega) _ _
    rw [DhtNode.storeAtKeys, hclosest, Option.bind_eq_bind, Option.bind_some, hfind,
      Option.bind_eq_bind, Option.bind_some]
    dsimp only
    rw [hsort]
    rfl
  · have hclosest : n.routingTable.closestNodes key K = none := by
      rw [← Option.not_isSome_iff_eq_none, RoutingTable.closestNodes_isSome_iff]
      exact not_or.2 ⟨hone, hshort⟩
    rw [DhtNode.storeAtKeys, hclosest]
    rfl

/-- So does the whole operation. -/
lemma storeAtKeys_eq_none (hr : r.Exact) {alpha : ℕ} {keys : List Hash} :
    ∀ {n : Peer} {t : Network}, (∃ key ∈ keys, ¬ Sortable r alpha key) → r.Resident a n →
      r.Residents t → (∃ b ≠ a, (t.nodes b).isSome) → ∀ log,
        n.storeAtKeys alpha (Recorded.mk t log) d keys = none := by
  induction keys with
  | nil =>
    rintro n t ⟨key, hkey, -⟩
    cases hkey
  | cons key keys ih =>
    intro n t hbad hn ht hother log
    by_cases hkey : Sortable r alpha key
    · obtain ⟨count, n₁, sent, t₁, hfirst, hn₁, hone⟩ := storeAtKeys_cons (d := d) hr hkey hn ht log
      obtain ⟨bad, hbad, hnot⟩ := hbad
      have hlater : ∃ key ∈ keys, ¬ Sortable r alpha key := by
        rcases List.mem_cons.1 hbad with rfl | hbad
        · exact absurd hkey hnot
        · exact ⟨bad, hbad, hnot⟩
      have hother' : ∃ b ≠ a, (t₁.nodes b).isSome := by
        obtain ⟨b, hba, hb⟩ := hother
        exact ⟨b, hba, by rwa [hone.isSome]⟩
      rw [hfirst, ih hlater hn₁ hone.residents hother', Option.map_none]
    · exact storeAtKeys_of_not_sortable hr hkey hn ht hother keys log

/-! ## Several publications -/

namespace Network

/-- `iterative_store` at the node of an address, recorded. -/
def publish (alpha : ℕ) (a : NodeAddr) (run : Recorded Network) (d : Descriptor) :
    Option (Recorded Network) := do
  let n ← run.transport.nodes a
  let (_, n, run) ← n.iterativeStore alpha (fun run => run.transport.now)
    (Recorded.mk (run.transport.without a) run.exchanges) d
  return ⟨run.transport.put a n, run.exchanges⟩

/-- Some publications of the node at an address, one after the other. -/
def publishAll (alpha : ℕ) (a : NodeAddr) (run : Recorded Network) (ds : List Descriptor) :
    Option (Recorded Network) :=
  ds.foldlM (publish alpha a) run

end Network

lemma Delivered.without (h : Delivered r a sent offers (t.without a) t') (hn : t.nodes a = some n)
    (hn' : r.Resident a n') : Delivered r a sent offers t (t'.put a n') where
  residents := Roster.Residents.put h.residents hn'
  clock := h.clock
  isSome b := by
    by_cases hba : b = a
    · rw [hba, Network.put_nodes_self, hn]
      rfl
    · rw [Network.put_nodes_of_ne hba, h.isSome, Network.without_nodes_of_ne hba]
  store := by
    intro b x hba hx
    obtain ⟨x', calls, hx', hrest⟩ := h.store hba (by rwa [Network.without_nodes_of_ne hba])
    exact ⟨x', calls, by rwa [Network.put_nodes_of_ne hba], hrest⟩

/-- What publishing a descriptor brings to the other nodes, unless it panics. -/
lemma publish_cases (hr : r.Exact) (alpha : ℕ) (ht : r.Residents t) (ha : (t.nodes a).isSome)
    (hother : ∃ b ≠ a, (t.nodes b).isSome) (d : Descriptor)
    (log : List (NodeAddr × Request × Option Response)) :
    ((∀ key ∈ d.routingKeys, Sortable r alpha key) ∧ ∃ sent t',
      Network.publish alpha a ⟨t, log⟩ d = some ⟨t', log ++ sent⟩ ∧
        Delivered r a sent (fun _ => List.replicate d.routingKeys.length d) t t') ∨
    ((∃ key ∈ d.routingKeys, ¬ Sortable r alpha key) ∧
      Network.publish alpha a ⟨t, log⟩ d = none) := by
  obtain ⟨n, hn⟩ := Option.isSome_iff_exists.1 ha
  by_cases hkeys : ∀ key ∈ d.routingKeys, Sortable r alpha key
  · obtain ⟨stored, n', sent, t', hstore, hn', hdelivered⟩ :=
      storeAtKeys_delivered (d := d) hr hkeys (ht hn) (ht.without a) log
    let n'' : Peer := { n' with store := (n'.store.storeDescriptorAt d t'.now).2 }
    have hn'' : r.Resident a n'' := ⟨hn'.home, hn'.addr, hn'.hooks, hn'.table⟩
    refine .inl ⟨hkeys, sent, t'.put a n'', ?_, hdelivered.without hn hn''⟩
    rw [Network.publish]
    dsimp only
    rw [hn, Option.bind_eq_bind, Option.bind_some, DhtNode.iterativeStore, hstore]
    rfl
  · have hbad : ∃ key ∈ d.routingKeys, ¬ Sortable r alpha key := by simpa using hkeys
    have hother' : ∃ b ≠ a, ((t.without a).nodes b).isSome := by
      obtain ⟨b, hba, hb⟩ := hother
      exact ⟨b, hba, by rwa [Network.without_nodes_of_ne hba]⟩
    refine .inr ⟨hbad, ?_⟩
    rw [Network.publish]
    dsimp only
    rw [hn, Option.bind_eq_bind, Option.bind_some, DhtNode.iterativeStore,
      storeAtKeys_eq_none hr hbad (ht hn) (ht.without a) hother']
    rfl

/-- The descriptors in the order in which their STOREs reach the other nodes. -/
def offersOf (ds : List Descriptor) : List Descriptor :=
  ds.flatMap fun d => List.replicate d.routingKeys.length d

/-- What some publications bring to the other nodes, unless one of them panics. -/
lemma publishAll_cases (hr : r.Exact) (alpha : ℕ) (ds : List Descriptor) :
    ∀ {t : Network}, r.Residents t → (t.nodes a).isSome → (∃ b ≠ a, (t.nodes b).isSome) → ∀ log,
      ((∀ d ∈ ds, ∀ key ∈ d.routingKeys, Sortable r alpha key) ∧ ∃ sent t',
        Network.publishAll alpha a ⟨t, log⟩ ds = some ⟨t', log ++ sent⟩ ∧
          Delivered r a sent (fun _ => offersOf ds) t t') ∨
      ((∃ d ∈ ds, ∃ key ∈ d.routingKeys, ¬ Sortable r alpha key) ∧
        Network.publishAll alpha a ⟨t, log⟩ ds = none) := by
  induction ds with
  | nil =>
    intro t ht _ _ log
    exact .inl ⟨by simp, [], t, by rw [List.append_nil]; rfl,
      .of_sameStores ht (.refl t) fun _ => rfl⟩
  | cons d ds ih =>
    intro t ht ha hother log
    have hcons : Network.publishAll alpha a ⟨t, log⟩ (d :: ds) =
        (Network.publish alpha a ⟨t, log⟩ d).bind fun run => Network.publishAll alpha a run ds :=
      List.foldlM_cons
    rw [hcons]
    rcases publish_cases hr alpha ht ha hother d log with
      ⟨hkeys, sent, t₁, hfirst, hone⟩ | ⟨⟨key, hkey, hbad⟩, hfirst⟩
    · have hother' : ∃ b ≠ a, (t₁.nodes b).isSome := by
        obtain ⟨b, hba, hb⟩ := hother
        exact ⟨b, hba, by rwa [hone.isSome]⟩
      rw [hfirst, Option.bind_some]
      rcases ih hone.residents (by rwa [hone.isSome]) hother' (log ++ sent) with
        ⟨hlater, sent', t', hrest, hdelivered⟩ | ⟨⟨e, he, hbad⟩, hrest⟩
      · refine .inl ⟨List.forall_mem_cons.2 ⟨hkeys, hlater⟩, sent ++ sent', t', ?_,
          hone.trans hdelivered⟩
        rw [hrest, List.append_assoc]
      · exact .inr ⟨⟨e, List.mem_cons_of_mem d he, hbad⟩, hrest⟩
    · refine .inr ⟨⟨d, List.mem_cons_self, key, hkey, hbad⟩, ?_⟩
      rw [hfirst, Option.bind_none]

/-! ## The quota -/

namespace Network

/-- A complete network as its nodes see it: at most `K` nodes without hooks, each with every other
one in its table at its address, and nobody else. -/
structure Closed (net : Network) : Prop extends net.Acquainted where
  members : ∃ members : List NodeAddr, members.Nodup ∧ members.length ≤ K ∧
    ∀ a, (net.nodes a).isSome ↔ a ∈ members
  nobody_else : ∀ {a x}, net.nodes a = some x → ∀ e ∈ x.routingTable.allNodes,
    ∃ b y, net.nodes b = some y ∧ y.identity = e.identity

omit [Ciborium] in
/-- The nodes of such a network are in place. -/
lemma Closed.exists_roster {net : Network} (h : net.Closed) :
    ∃ r : Roster, r.Exact ∧ r.Residents net := by
  obtain ⟨members, hnodup, hfew, hmembers⟩ := h.members
  let known := members.filterMap fun b => (net.nodes b).map DhtNode.identity
  have hknown : ∀ {b x}, net.nodes b = some x → x.identity ∈ known := by
    intro b x hx
    refine List.mem_filterMap.2 ⟨b, (hmembers b).1 (Option.isSome_iff_exists.2 ⟨x, hx⟩), ?_⟩
    rw [hx, Option.map_some]
  have hsmall : known.length ≤ K := (List.length_filterMap_le _ _).trans hfew
  obtain ⟨r, heq, hhomes, hr⟩ := h.toAcquainted.exists_roster hsmall fun {a x} hx =>
    ⟨hknown hx, fun e he => by
      obtain ⟨b, y, hy, hid⟩ := h.nobody_else hx e he
      exact hid ▸ hknown hy⟩
  refine ⟨r, ⟨heq ▸ List.Nodup.filterMap ?_ hnodup, fun i hi => ?_⟩, hr⟩
  · intro b c i hb hc
    rw [Option.mem_def] at hb hc
    rw [← congrFun hhomes b] at hb
    rw [← congrFun hhomes c] at hc
    exact r.homes_unique hb hc
  · rw [heq] at hi
    obtain ⟨b, -, hb⟩ := List.mem_filterMap.1 hi
    exact ⟨b, (congrFun hhomes b).trans hb⟩

/-- The clock of the network stays within a minute, in the minute before which no store has heard of
the publisher, and in which the publisher's descriptors are valid. -/
structure Fresh (net : Network) (publisher : Identity) (ds : List Descriptor) : Prop where
  close : ∀ j k, saturatingSub (net.clock j) (net.clock k) < RATE_LIMIT_WINDOW_MICROS
  unseen : ∀ {a x}, net.nodes a = some x → ∀ k, recent (x.store.window publisher) (net.clock k) = []
  publisher_eq : ∀ d ∈ ds, d.publisher = publisher
  valid : ∀ d ∈ ds, ∀ k, d.ValidAt (net.clock k)

/-- A publisher's descriptors are accepted by every other node of a complete network exactly if the
keys can be sorted, and each descriptor is among the first ten offers, counting it once for each of
its routing keys, in a place where the stores have nothing else against it. -/
theorem quota_iff {net : Network} (h : net.Closed) {a : NodeAddr} {n : Peer}
    (hn : net.nodes a = some n) (hother : ∃ b ≠ a, (net.nodes b).isSome) {publisher : Identity}
    {ds : List Descriptor} (hfresh : net.Fresh publisher ds) (alpha : ℕ) :
    (∃ run, publishAll alpha a ⟨net, []⟩ ds = some run ∧
        ∀ b ≠ a, (net.nodes b).isSome → ds ⊆ acceptedAt b run.exchanges) ↔
      (∀ d ∈ ds, ∀ rk ∈ d.routingKeys,
          32 ≤ rk.digest.length ∨ (alpha = 0 ∧ n.routingTable.allNodes.length ≤ 1)) ∧
        ∀ b ≠ a, ∀ x, net.nodes b = some x → ∀ d ∈ ds, ∃ pre, pre ++ [d] <+: offersOf ds ∧
          pre.length < RATE_LIMIT_PER_MINUTE ∧ (x.store.offeredAll pre).Welcomes d := by
  obtain ⟨r, hr, hresidents⟩ := h.exists_roster
  have hsortable : ∀ key, Sortable r alpha key ↔
      32 ≤ key.digest.length ∨ (alpha = 0 ∧ n.routingTable.allNodes.length ≤ 1) := by
    intro key
    rw [Sortable, hr.length_known (hresidents hn), Nat.add_le_add_iff_right]
  rcases publishAll_cases hr alpha ds hresidents
    (Option.isSome_iff_exists.2 ⟨n, hn⟩) hother [] with
      ⟨hkeys, sent, t', hrun, hdelivered⟩ | ⟨⟨d, hd, key, hkey, hbad⟩, hrun⟩
  · have haccepted : ∀ {b x d}, b ≠ a → net.nodes b = some x → (d ∈ acceptedAt b sent ↔
        ∃ pre, pre ++ [d] <+: offersOf ds ∧ pre.length < RATE_LIMIT_PER_MINUTE ∧
          (x.store.offeredAll pre).Welcomes d) := by
      intro b x d hba hx
      obtain ⟨x', calls, -, hcalls, htimes, hlog, -⟩ := hdelivered.store hba hx
      -- the calls are offers of the publisher's descriptors at readings of the clock
      have hoffered : ∀ call ∈ calls, call.1 ∈ ds := by
        intro call hcall
        have hmem : call.1 ∈ offersOf ds := hcalls ▸ List.mem_map_of_mem hcall
        obtain ⟨e, he, hrepeated⟩ := List.mem_flatMap.1 hmem
        rwa [List.eq_of_mem_replicate hrepeated]
      have hminute : x.store.Minute publisher calls := by
        refine ⟨fun call hcall => hfresh.publisher_eq _ (hoffered call hcall), ?_, ?_, ?_⟩
        · intro call hcall
          obtain ⟨k, hk⟩ := htimes call hcall
          rw [hk]
          exact hfresh.valid _ (hoffered call hcall) k
        · intro call hcall
          obtain ⟨k, hk⟩ := htimes call hcall
          rw [hk]
          exact hfresh.unseen hx k
        · intro call hcall call' hcall'
          obtain ⟨k, hk⟩ := htimes call hcall
          obtain ⟨k', hk'⟩ := htimes call' hcall'
          rw [hk, hk']
          exact hfresh.close k k'
      rw [hlog, hminute.mem_accepted_iff, hcalls]
    rw [hrun]
    constructor
    · rintro ⟨run, hrun', hall⟩
      obtain rfl := Option.some.inj hrun'
      refine ⟨fun d hd rk hrk => (hsortable rk).1 (hkeys d hd rk hrk), fun b hba x hx d hd => ?_⟩
      exact (haccepted hba hx).1 (hall b hba (Option.isSome_iff_exists.2 ⟨x, hx⟩) hd)
    · rintro ⟨-, hall⟩
      refine ⟨_, rfl, fun b hba hb d hd => ?_⟩
      obtain ⟨x, hx⟩ := Option.isSome_iff_exists.1 hb
      exact (haccepted hba hx).2 (hall b hba x hx d hd)
  · rw [hrun]
    refine iff_of_false ?_ fun h => hbad ((hsortable key).2 (h.1 d hd key hkey))
    rintro ⟨run, hnone, -⟩
    cases hnone

/-! ### Concrete networks -/

section Members

omit [Ciborium]

variable {store : DescriptorStore} {members : List (Identity × NodeAddr)} {now : UInt64}

/-- Members that know each other and nobody else, at different addresses. -/
lemma closed_ofMembers (hagree : MembersAgree store members []) (hfew : MembersFew store members)
    (hnodup : (members.map Prod.snd).Nodup) (now : UInt64) :
    (ofMembers store members [] now).Closed where
  toAcquainted := acquainted_ofMembers hagree now
  members := by
    refine ⟨members.map Prod.snd, hnodup, by rw [List.length_map]; exact hfew.1, fun a => ?_⟩
    rw [ofMembers, Option.isSome_map, List.find?_isSome, List.mem_map]
    exact exists_congr fun m => and_congr_right fun _ => decide_eq_true_iff
  nobody_else := by
    intro a x hx e he
    obtain ⟨m, hm, rfl, rfl⟩ := nodes_ofMembers hx
    rw [List.append_nil] at he
    obtain ⟨m', hm', hid⟩ := List.mem_map.1 ((hfew.2 m hm).2 e he)
    have hfound : (members.find? fun m => m.2 = m'.2).isSome :=
      List.find?_isSome.2 ⟨m', hm', decide_eq_true rfl⟩
    obtain ⟨m'', hm''⟩ := Option.isSome_iff_exists.1 hfound
    obtain rfl : m'' = m' := List.inj_on_of_nodup_map hnodup (List.mem_of_find?_eq_some hm'') hm'
      (by simpa using List.find?_some hm'')
    refine ⟨m''.2, acquainted store (members ++ []) m'', ?_, ?_⟩
    · dsimp only [ofMembers]
      rw [hm'', Option.map_some]
    · rw [(acquainted_store store _ m'').2.2, hid]

/-- Members with an empty store, and a clock that stands still. -/
lemma fresh_ofMembers {publisher : Identity} {ds : List Descriptor}
    (hds : ∀ d ∈ ds, d.publisher = publisher ∧ d.validate now = .ok ()) :
    (ofMembers .new members [] now).Fresh publisher ds where
  close _ _ := by
    change saturatingSub now now < RATE_LIMIT_WINDOW_MICROS
    simp [saturatingSub, RATE_LIMIT_WINDOW_MICROS]
  unseen hx _ := by
    obtain ⟨m, -, -, rfl⟩ := nodes_ofMembers hx
    rw [(acquainted_store _ _ m).1, window_new]
    rfl
  publisher_eq d hd := (hds d hd).1
  valid d hd _ := Descriptor.validate_eq_ok_iff.1 (hds d hd).2

end Members

end Network

end Delivering

/-! ## Three descriptors -/

open Bytes Network

/-- The keys whose digests are 32 times the number. -/
def numberedKeys (count : ℕ) : List Hash :=
  (List.range count).map fun n => ⟨ALG_BLAKE3, List.replicate 32 (.ofNat (n + 1))⟩

/-- Two capabilities with five routing keys. -/
def firstFive : Descriptor :=
  { target with
    topic := "first"
    routingKeys := numberedKeys 5
    id := hashOf 0xccd2b33a0d1b670c7e28ecac3b9d2536f1d9fae5c3e26f56cf68c267405c3c6c
    signature := beBytes 64
      0x70e008c5be9da0270d84c5dcbf048fef58436768f9b349bd24c48953374c5fbe08f84ecd88b38bd255cdf6164f4fa600505e32735cc434e46ea5b238f0a9bf0c
    fit := by decide }

def secondFive : Descriptor :=
  { target with
    topic := "second"
    routingKeys := numberedKeys 5
    id := hashOf 0xa24da1187334166bfc042d1ae56d2271b856b213a48148f933275ac33ec92ecf
    signature := beBytes 64
      0xb8b7d8644f4563bf54dec4854baf8dc611f79353993f5cf9ff87495f6fe1e9cf9010167fcc4fabbc7c37605dc40da2ab96db022ca4136cbdf52be1ef12e04904
    fit := by decide }

/-- The first and the second publisher's nodes, with empty stores. -/
def pairNetwork [Crypto] : Network := ofMembers .new (threeMembers.take 2) [] 1700000000000000

/-- Two descriptors with six routing keys between them are accepted. -/
theorem six_keys_accepted :
    letI : Crypto := cryptoOf [target, firstFive, secondFive]
    letI : Ciborium := referenceCiborium
    ∃ run, publishAll 3 (.quic "second:4433") ⟨pairNetwork, []⟩ [firstFive, target] = some run ∧
      ∀ b ≠ .quic "second:4433", (pairNetwork.nodes b).isSome →
        [firstFive, target] ⊆ acceptedAt b run.exchanges := by
  let _ : Crypto := cryptoOf [target, firstFive, secondFive]
  let _ : Ciborium := referenceCiborium
  have hsome : (pairNetwork.nodes (.quic "second:4433")).isSome := by decide +kernel
  obtain ⟨n, hn⟩ := Option.isSome_iff_exists.1 hsome
  have hfresh : pairNetwork.Fresh secondPublisher [firstFive, target] :=
    fresh_ofMembers (by decide +kernel)
  refine (quota_iff (closed_ofMembers (by decide +kernel) (by decide +kernel) (by decide +kernel) _)
    hn ⟨.quic "first:4433", by decide, by decide +kernel⟩ hfresh 3).2 ⟨?_, ?_⟩
  · intro d hd rk hrk
    have hlong : ∀ d ∈ [firstFive, target], ∀ rk ∈ d.routingKeys, 32 ≤ rk.digest.length := by
      decide +kernel
    exact .inl (hlong d hd rk hrk)
  · intro b _ x hx
    obtain ⟨m, -, -, rfl⟩ := nodes_ofMembers hx
    rw [(acquainted_store _ _ m).1]
    refine List.forall_mem_cons.2 ⟨?_, List.forall_mem_singleton.2 ?_⟩
    · exact ⟨[], by decide +kernel, by decide, by decide +kernel, by decide +kernel⟩
    · exact ⟨List.replicate 5 firstFive, by decide +kernel, by decide, by decide +kernel,
        by decide +kernel⟩

/-- Of three descriptors with eleven routing keys between them the last is refused. -/
theorem eleventh_key_refused :
    letI : Crypto := cryptoOf [target, firstFive, secondFive]
    letI : Ciborium := referenceCiborium
    pairNetwork.Closed ∧ pairNetwork.Fresh secondPublisher [firstFive, secondFive, target] ∧
      ∃ run, publishAll 3 (.quic "second:4433") ⟨pairNetwork, []⟩ [firstFive, secondFive, target] =
          some run ∧ (pairNetwork.nodes (.quic "first:4433")).isSome ∧
        target ∉ acceptedAt (.quic "first:4433") run.exchanges := by
  let _ : Crypto := cryptoOf [target, firstFive, secondFive]
  let _ : Ciborium := referenceCiborium
  refine ⟨closed_ofMembers (by decide +kernel) (by decide +kernel) (by decide +kernel) _,
    fresh_ofMembers (by decide +kernel), ?_⟩
  have hrun : (publishAll 3 (.quic "second:4433") ⟨pairNetwork, []⟩
      [firstFive, secondFive, target]).map
        (fun run => acceptedAt (.quic "first:4433") run.exchanges) =
        some (List.replicate 5 firstFive ++ List.replicate 5 secondFive) := by decide +kernel
  obtain ⟨run, hpublish, haccepted⟩ := Option.map_eq_some_iff.1 hrun
  refine ⟨run, hpublish, by decide +kernel, ?_⟩
  rw [haccepted]
  decide +kernel

end MeshProtocol
