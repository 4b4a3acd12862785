import MeshProtocol.Dht.Contents
import MeshProtocol.Dht.Publishing
import MeshProtocol.Dht.Rounds
import MeshProtocol.Dht.Simulation

/-!
# A small network is one store (`mesh-dht/src/node.rs`)

In a complete small network every node has every descriptor.  Whichever nodes publish and look up,
and in whatever order, the answers are those of a single store without rate limits, as long as the
clock does not cut a publication in two, the publishers keep to their quotas, and no key has more
descriptors than fit into an answer.
-/

namespace MeshProtocol

open DescriptorStore

section Readings

variable [Crypto] [Ciborium]

omit [Ciborium] in
/-- A node of one of two networks with the same stores is one of the other. -/
lemma Roster.SameStores.exists_of_some' {t t' : Network} (h : Roster.SameStores t t')
    {b : NodeAddr} {x' : Peer} (hx' : t'.nodes b = some x') :
    ∃ x, t.nodes b = some x ∧ x'.store = x.store := by
  obtain ⟨x, hx⟩ := Option.isSome_iff_exists.1
    ((h.isSome b).symm.trans (Option.isSome_iff_exists.2 ⟨x', hx'⟩))
  obtain ⟨x'', hx'', hstore, -⟩ := h.exists_of_some hx
  obtain rfl := Option.some.inj (hx'.symm.trans hx'')
  exact ⟨x, hx, hstore⟩

/-! ## Readings of the clock -/

/-- Requests only add to the readings of the clock. -/
lemma Network.answerAlike_later (k : ℕ) : AnswerAlike Network.now Network.now
    fun t t' : Network => t = t' ∧ k ≤ t.reads where
  send := by
    rintro t _ ⟨rfl, hk⟩ addr request
    refine ⟨_, _, _, rfl, rfl, rfl, ?_⟩
    show k ≤ (t.deliver addr request).2.reads
    rw [deliver]
    cases t.nodes addr with
    | none => exact hk
    | some x =>
      dsimp only
      cases x.dispatchRequest request (some request.sender) t.now with
      | none => exact hk.trans (Nat.le_succ _)
      | some out => exact hk.trans (Nat.le_succ _)
  noReply := by
    rintro t _ ⟨rfl, -⟩ addr request -
    rfl
  time := by
    rintro t _ ⟨rfl, -⟩
    rfl

variable {n n' : Peer} {t t' : Network} {key : Hash} {d : Descriptor}

lemma reads_le_findTargets {nodes targets targets' : List NodeInfo}
    (h : n.findTargets t key targets nodes = some (targets', n', t')) : t.reads ≤ t'.reads := by
  have hrel : Option.Rel (DhtNode.Alike fun u u' : Network => u = u' ∧ t.reads ≤ u.reads)
      (n.findTargets t key targets nodes) (n.findTargets t key targets nodes) :=
    DhtNode.findTargets_simulated (Network.answerAlike_later t.reads) nodes ⟨rfl, le_rfl⟩
  rw [h] at hrel
  cases hrel with
  | some halike => exact halike.2.2.2

lemma reads_le_sendStores (nodes : List NodeInfo) :
    t.reads ≤ (n.sendStores t d nodes).2.reads :=
  (DhtNode.sendStores_simulated (n := n) (d := d) (Network.answerAlike_later t.reads) nodes
    ⟨rfl, le_rfl⟩).2.2

lemma reads_le_storeAtKeys {alpha stored : ℕ} {keys : List Hash}
    (h : n.storeAtKeys alpha t d keys = some (stored, n', t')) : t.reads ≤ t'.reads := by
  have hrel : Option.Rel (DhtNode.Alike fun u u' : Network => u = u' ∧ t.reads ≤ u.reads)
      (n.storeAtKeys alpha t d keys) (n.storeAtKeys alpha t d keys) :=
    DhtNode.storeAtKeys_simulated (Network.answerAlike_later t.reads) keys ⟨rfl, le_rfl⟩
  rw [h] at hrel
  cases hrel with
  | some halike => exact halike.2.2.2

end Readings

/-! ## A publication -/

/-- What is fixed while a descriptor is published: the contents of the stores before and after it,
whether it is accepted, and the readings of the clock in which it happens.  A store that has the
contents from before takes an offer if it has room for the publisher; what it is offered again
changes nothing. -/
structure Offering [Crypto] [Ciborium] extends Roster where
  descriptor : Descriptor
  before : DescriptorStore
  after : DescriptorStore
  accepted : Prop
  clock : ℕ → UInt64
  first : ℕ
  last : ℕ
  takes : ∀ {x k}, first ≤ k → k < last → before.SameContents x →
    x.allows descriptor.publisher (clock k) = true →
    ((x.storeDescriptorAt descriptor (clock k)).1 = .ok () ↔ accepted) ∧
      after.SameContents (x.storeDescriptorAt descriptor (clock k)).2
  settles : ∀ {x k}, first ≤ k → k < last → after.SameContents x →
    ((x.storeDescriptorAt descriptor (clock k)).1 = .ok () → accepted) ∧
      after.SameContents (x.storeDescriptorAt descriptor (clock k)).2

namespace Offering

variable [Crypto] [Ciborium] {p : Offering}

/-- A store with the contents from before, and room for the publisher. -/
def Fresh (p : Offering) (s : DescriptorStore) : Prop :=
  p.before.SameContents s ∧ ∀ k, p.first ≤ k → k < p.last →
    s.allows p.descriptor.publisher (p.clock k) = true

/-- The nodes of the network are in place, and each store has the contents from before or after. -/
structure Underway (p : Offering) (t : Network) : Prop where
  residents : p.Residents t
  clock : t.clock = p.clock
  begun : p.first ≤ t.reads
  stores : ∀ {b x}, t.nodes b = some x → p.Fresh x.store ∨ p.after.SameContents x.store

/-- The node at an address has taken the offer. -/
def TakenAt (p : Offering) (t : Network) (b : NodeAddr) : Prop :=
  ∃ x, t.nodes b = some x ∧ p.after.SameContents x.store

/-- What messages leave true: the nodes stay in place, and what is taken stays so. -/
structure Advances (p : Offering) (t t' : Network) : Prop where
  underway : p.Underway t'
  nodes : ∀ b, (t'.nodes b).isSome = (t.nodes b).isSome
  taken : ∀ {b}, p.TakenAt t b → p.TakenAt t' b

variable {t t' t'' : Network} {a b : NodeAddr} {n x x' : Peer}

lemma Advances.refl (h : p.Underway t) : p.Advances t t := ⟨h, fun _ => rfl, id⟩

lemma Advances.trans (h : p.Advances t t') (h' : p.Advances t' t'') : p.Advances t t'' where
  underway := h'.underway
  nodes b := (h'.nodes b).trans (h.nodes b)
  taken hb := h'.taken (h.taken hb)

/-- What changes no store. -/
lemma Underway.of_sameStores (h : p.Underway t) (ht' : p.Residents t')
    (hsame : Roster.SameStores t t') (hreads : t.reads ≤ t'.reads) : p.Advances t t' where
  underway := by
    refine ⟨ht', hsame.clock.trans h.clock, h.begun.trans hreads, fun {b x'} hx' => ?_⟩
    obtain ⟨x, hx, hstore⟩ := hsame.exists_of_some' hx'
    rw [hstore]
    exact h.stores hx
  nodes := hsame.isSome
  taken := by
    rintro b ⟨x, hx, htaken⟩
    obtain ⟨x', hx', hstore, -⟩ := hsame.exists_of_some hx
    exact ⟨x', hx', by rwa [hstore]⟩

/-- A STORE to a node of the network is taken; whether it is answered as stored is as it should
be. -/
lemma Underway.store (h : p.Underway t) (hn : p.Resident a n) (hx : t.nodes b = some x) :
    ∃ ack t', Transport.sendRequest t b (.store ⟨n.identity, n.addr, p.descriptor⟩) =
        (some (.storeAck ack), t') ∧ t'.reads = t.reads + 1 ∧
      (t.reads < p.last → p.Advances t t' ∧ p.TakenAt t' b ∧ (ack.stored = true → p.accepted) ∧
        (p.Fresh x.store → p.accepted → ack.stored = true)) := by
  obtain ⟨ack, x', hdispatch, hx', -, hstore, hstored⟩ :=
    (h.residents hx).store hn p.descriptor t.now
  refine ⟨ack, t.put b x', Network.sendRequest_of_some hx hdispatch, rfl, fun hlast => ?_⟩
  have ht' : p.Residents (t.put b x') := Roster.Residents.put (fun hx => h.residents hx) hx'
  have hnow : t.now = p.clock t.reads := by rw [Network.now, h.clock]
  rw [hnow] at hstore hstored
  have hfresh (hfresh : p.Fresh x.store) :=
    p.takes h.begun hlast hfresh.1 (hfresh.2 t.reads h.begun hlast)
  obtain ⟨haccepted, hafter⟩ : (ack.stored = true → p.accepted) ∧
      p.after.SameContents x'.store := by
    rw [hstored, hstore]
    rcases h.stores hx with hbefore | hdone
    · exact ⟨(hfresh hbefore).1.1, (hfresh hbefore).2⟩
    · exact p.settles h.begun hlast hdone
  refine ⟨⟨⟨ht', h.clock, h.begun.trans (Nat.le_succ _), ?_⟩, ?_, ?_⟩,
    ⟨x', Network.put_nodes_self _ _ _, hafter⟩, haccepted,
    fun hbefore haccepted => hstored.2 ((hfresh hbefore).1.2 haccepted)⟩
  · exact fun {c y} => Network.forall_put (fun _ _ => h.stores) (.inr hafter) c y
  · intro c
    by_cases hcb : c = b
    · rw [hcb, hx, Network.put_nodes_self]
      rfl
    · rw [Network.put_nodes_of_ne hcb]
  · rintro c ⟨y, hy, htaken⟩
    by_cases hcb : c = b
    · subst hcb
      exact ⟨x', Network.put_nodes_self _ _ _, hafter⟩
    · refine ⟨y, ?_, htaken⟩
      rw [Network.put_nodes_of_ne hcb, hy]

/-- What the STOREs to some targets do: the offer is taken by those that are there.  Some are
counted only if the descriptor is accepted, and if it is, the first to a fresh store is. -/
structure Sends (p : Offering) (n : Peer) (t : Network) (nodes : List NodeInfo)
    (out : ℕ × Network) : Prop where
  advances : p.Advances t out.2
  taken : ∀ e ∈ nodes, e.identity.nodeId ≠ n.nodeId → (t.nodes e.addr).isSome →
    p.TakenAt out.2 e.addr
  accepted : 0 < out.1 → p.accepted
  counted : (∀ {b x}, t.nodes b = some x → p.Fresh x.store) → p.accepted →
    (∃ e ∈ nodes, e.identity.nodeId ≠ n.nodeId ∧ (t.nodes e.addr).isSome) → 0 < out.1

/-- A target that is the node itself, or where there is none, changes nothing. -/
lemma Sends.cons_of_none {node : NodeInfo} {nodes : List NodeInfo} {out : ℕ × Network}
    (h : p.Sends n t nodes out)
    (hnone : node.identity.nodeId ≠ n.nodeId → t.nodes node.addr = none) :
    p.Sends n t (node :: nodes) out where
  advances := h.advances
  taken e he hne hsome := by
    rcases List.mem_cons.1 he with rfl | he
    · rw [hnone hne] at hsome
      cases hsome
    · exact h.taken e he hne hsome
  accepted := h.accepted
  counted := by
    rintro hfresh haccepted ⟨e, he, hne, hsome⟩
    rcases List.mem_cons.1 he with rfl | he
    · rw [hnone hne] at hsome
      cases hsome
    · exact h.counted hfresh haccepted ⟨e, he, hne, hsome⟩

lemma sendStores_ok (hn : p.Resident a n) (nodes : List NodeInfo) : ∀ {t : Network},
    p.Underway t → (n.sendStores t p.descriptor nodes).2.reads ≤ p.last →
      p.Sends n t nodes (n.sendStores t p.descriptor nodes) := by
  induction nodes with
  | nil =>
    intro t ht _
    exact ⟨.refl ht, by simp, fun h => absurd h (lt_irrefl 0), by simp⟩
  | cons node nodes ih =>
    intro t ht hlast
    by_cases hself : node.identity.nodeId = n.nodeId
    · rw [DhtNode.sendStores, if_pos hself] at hlast ⊢
      exact (ih ht hlast).cons_of_none fun hne => absurd hself hne
    · rw [DhtNode.sendStores, if_neg hself] at hlast ⊢
      cases hx : t.nodes node.addr with
      | none =>
        rw [Network.sendRequest_of_none hx] at hlast ⊢
        exact (ih ht hlast).cons_of_none fun _ => hx
      | some x =>
        obtain ⟨ack, t₁, hstore, hreads, htakes⟩ := ht.store hn hx
        rw [hstore] at hlast ⊢
        have hlast' : (n.sendStores t₁ p.descriptor nodes).2.reads ≤ p.last := hlast
        have hlater := reads_le_sendStores (n := n) (t := t₁) (d := p.descriptor) nodes
        obtain ⟨hadvances, htaken, haccepted, hcounted⟩ := htakes (by omega)
        have hrest := ih hadvances.underway hlast'
        refine ⟨hadvances.trans hrest.advances, ?_, ?_, ?_⟩
        · intro e he hne hsome
          rcases List.mem_cons.1 he with rfl | he
          · exact hrest.advances.taken htaken
          · refine hrest.taken e he hne ?_
            rw [hadvances.nodes]
            exact hsome
        · dsimp only
          split_ifs with hack
          · exact fun _ => haccepted hack
          · exact hrest.accepted
        · intro hfresh hok _
          dsimp only
          rw [if_pos (hcounted (hfresh hx) hok)]
          exact Nat.succ_pos _

/-- STOREs leave the nodes in place, whatever is in them. -/
lemma residents_sendStores {r : Roster} (hn : r.Resident a n) {d : Descriptor}
    (nodes : List NodeInfo) :
    ∀ {t : Network}, r.Residents t → r.Residents (n.sendStores t d nodes).2 := by
  induction nodes with
  | nil => exact fun ht => ht
  | cons node nodes ih =>
    intro t ht
    rw [DhtNode.sendStores]
    split_ifs
    · exact ih ht
    · cases hx : t.nodes node.addr with
      | none =>
        rw [Network.sendRequest_of_none hx]
        exact ih ht
      | some x =>
        obtain ⟨ack, x', hdispatch, hx', -, -, -⟩ := (ht hx).store hn d t.now
        rw [Network.sendRequest_of_some hx hdispatch]
        exact ih (ht.put hx')

/-- What the STOREs for some keys do, once their first key has brought them to every other node. -/
structure Reaches (p : Offering) (a : NodeAddr) (t : Network) (keys : List Hash) (stored : ℕ)
    (t' : Network) : Prop where
  advances : p.Advances t t'
  accepted : 0 < stored → p.accepted
  taken : keys ≠ [] → ∀ b ≠ a, (t.nodes b).isSome → p.TakenAt t' b
  counted : keys ≠ [] → (∀ {b x}, t.nodes b = some x → p.Fresh x.store) → p.accepted →
    (∃ b ≠ a, (t.nodes b).isSome) → 0 < stored

lemma storeAtKeys_ok (alpha : ℕ) (keys : List Hash) : ∀ {n : Peer} {t : Network},
    (∀ key ∈ keys, 32 ≤ key.digest.length) → p.Resident a n → p.Residents t →
      ∃ stored n' t', n.storeAtKeys alpha t p.descriptor keys = some (stored, n', t') ∧
        p.Resident a n' ∧ n'.store = n.store ∧ p.Residents t' ∧
        (p.Underway t → t'.reads ≤ p.last → p.Reaches a t keys stored t') := by
  induction keys with
  | nil =>
    intro n t _ hn ht
    exact ⟨0, n, t, rfl, hn, rfl, ht, fun hunderway _ => ⟨.refl hunderway,
      fun h => absurd h (lt_irrefl 0), fun h => absurd rfl h, fun h => absurd rfl h⟩⟩
  | cons key keys ih =>
    intro n t hkeys hn ht
    obtain ⟨hkey, hkeys⟩ := List.forall_mem_cons.1 hkeys
    obtain ⟨closest, targets, sorted, n₁, t₁, hclosest, hfind, hsort, htake, hn₁, hstore₁, -, ht₁,
        hsame, -, hothers⟩ := @Roster.targets_ok _ _ _ _ _ _ alpha _ hn ht (.inl hkey)
    have ht₂ : p.Residents (n₁.sendStores t₁ p.descriptor sorted).2 :=
      residents_sendStores hn₁ sorted ht₁
    obtain ⟨others, n', t', hrest, hn', hstore', ht', hreaches⟩ := ih hkeys hn₁ ht₂
    refine ⟨(n₁.sendStores t₁ p.descriptor sorted).1 + others, n', t', ?_, hn',
      hstore'.trans hstore₁, ht', fun hunderway hlast => ?_⟩
    · rw [DhtNode.storeAtKeys, hclosest, Option.bind_eq_bind, Option.bind_some, hfind,
        Option.bind_eq_bind, Option.bind_some]
      dsimp only
      rw [hsort, Option.bind_eq_bind, Option.bind_some, htake, hrest]
      rfl
    · have hround := hunderway.of_sameStores ht₁ hsame (reads_le_findTargets hfind)
      have hsends := sendStores_ok hn₁ sorted hround.underway
        ((reads_le_storeAtKeys hrest).trans hlast)
      have hafter := hreaches hsends.advances.underway hlast
      have hother {b : NodeAddr} (hba : b ≠ a) (hb : (t.nodes b).isSome) :
          ∃ e ∈ sorted, e.addr = b ∧ e.identity.nodeId ≠ n₁.nodeId ∧
            (t₁.nodes e.addr).isSome := by
        obtain ⟨x, hx⟩ := Option.isSome_iff_exists.1 hb
        obtain ⟨e, he, -, rfl, hne⟩ := hothers hba hx
        refine ⟨e, he, rfl, hne, ?_⟩
        rw [hround.nodes]
        exact hb
      refine ⟨(hround.trans hsends.advances).trans hafter.advances, ?_, ?_, ?_⟩
      · intro hpos
        rcases Nat.eq_zero_or_pos (n₁.sendStores t₁ p.descriptor sorted).1 with hzero | hpos'
        · apply hafter.accepted
          omega
        · exact hsends.accepted hpos'
      · intro _ b hba hb
        obtain ⟨e, he, rfl, hne, hsome⟩ := hother hba hb
        exact hafter.advances.taken (hsends.taken e he hne hsome)
      · rintro - hfresh haccepted ⟨b, hba, hb⟩
        obtain ⟨e, he, -, hne, hsome⟩ := hother hba hb
        have hfresh₁ {c : NodeAddr} {y : Peer} (hy : t₁.nodes c = some y) : p.Fresh y.store := by
          obtain ⟨x, hx, hstore⟩ := hsame.exists_of_some' hy
          rw [hstore]
          exact hfresh hx
        have hpos := hsends.counted hfresh₁ haccepted ⟨e, he, hne, hsome⟩
        omega

end Offering

/-! ## Answers to a lookup -/

/-- All stores of a network have the contents of one. -/
def Network.Replicates [Crypto] (t : Network) (s : DescriptorStore) : Prop :=
  ∀ {a x}, t.nodes a = some x → s.SameContents x.store

namespace Roster

variable [Crypto] [Ciborium] {r : Roster} {a b : NodeAddr} {n x : Peer} {s : DescriptorStore}

/-- FIND_VALUE is answered with what the store serves, up to the limits, or with known nodes. -/
lemma Resident.findValue (hx : r.Resident b x) (hn : r.Resident a n)
    (hs : s.SameContents x.store) {key : Hash} (hkey : 32 ≤ key.digest.length) (clock : UInt64) :
    ∃ result x', x.dispatchRequest (n.valueRequest key) (some n.identity) clock =
        some (some (.findValueResult result), x') ∧ r.Resident b x' ∧ x'.store = x.store ∧
      x'.config = x.config ∧ (∀ e ∈ result.nodes.getD [], r.Names e) ∧
      result.descriptors.getD [] = (s.getDescriptorsAt key none clock).take
        (min n.config.maxFindValueResults.toNat x.config.maxFindValueResults.toNat) := by
  obtain ⟨x₁, hlearn, hx₁, hstore, hconfig⟩ := hx.learn (hn.names_self clock)
  have hbinding : verifySenderBinding n.identity (some n.identity) = .ok () :=
    verifySenderBinding_eq_ok_iff.2 rfl
  have hserved : x₁.store.getDescriptorsAt key none clock = s.getDescriptorsAt key none clock := by
    rw [hstore]
    exact hs.getDescriptorsAt key none clock
  obtain ⟨nodes, hclosest⟩ := Option.isSome_iff_exists.1 (hx₁.closestNodes_isSome (.inl hkey))
  have hperm := RoutingTable.closestNodes_perm hclosest hx₁.table.listing.length_le
  -- what is found decides between the two kinds of answer
  obtain ⟨result, hresult, hnames, hfound⟩ : ∃ result,
      x₁.findResult ⟨n.identity, n.addr, key, n.config.maxFindValueResults, none⟩
        (s.getDescriptorsAt key none clock) = some result ∧
      (∀ e ∈ result.nodes.getD [], r.Names e) ∧
      result.descriptors.getD [] = (s.getDescriptorsAt key none clock).take
        (min n.config.maxFindValueResults.toNat x.config.maxFindValueResults.toNat) := by
    rw [DhtNode.findResult]
    split_ifs with hempty
    · refine ⟨⟨none, some nodes⟩, ?_, ?_, ?_⟩
      · rw [hclosest]
        rfl
      · exact fun e he => hx₁.table.names e (hperm.mem_iff.1 he)
      · rw [List.isEmpty_iff.1 hempty, List.take_nil]
        rfl
    · refine ⟨_, rfl, ?_, ?_⟩
      · intro e he
        cases he
      · rw [hconfig]
        rfl
  have hfind : x₁.findAccepted ⟨n.identity, n.addr, key, n.config.maxFindValueResults, none⟩
      clock = some (result, x₁) := by
    have hsame : ({ x₁ with hooks := none } : Peer) = x₁ := by
      rw [← hx₁.hooks]
    rw [DhtNode.findAccepted]
    change (x₁.findResult _ (x₁.store.getDescriptorsAt key none clock)).bind _ = _
    rw [hserved, hresult, Option.bind_some, hx₁.hooks]
    exact congrArg (fun y => some (result, y)) hsame
  refine ⟨result, x₁, ?_, hx₁, hstore, hconfig, hnames, hfound⟩
  rw [DhtNode.valueRequest, DhtNode.dispatchRequest, Request.sender, hbinding,
    DhtNode.handleFindValue, DhtNode.updateRoutingTable, hlearn]
  simp only [Option.bind_eq_bind, Option.bind_some, hx₁.hooks, hfind]
  rfl

omit [Ciborium] in
/-- The nodes of an answer are known. -/
lemma Resident.learnAll {nodes : List NodeInfo} (hnodes : ∀ e ∈ nodes, r.Names e) :
    ∀ {n : Peer}, r.Resident a n → ∃ n', n.learnAll nodes = some n' ∧ r.Resident a n' ∧
      n'.store = n.store ∧ n'.config = n.config := by
  induction nodes with
  | nil => exact fun hn => ⟨_, rfl, hn, rfl, rfl⟩
  | cons node nodes ih =>
    intro n hn
    obtain ⟨hnode, hnodes⟩ := List.forall_mem_cons.1 hnodes
    obtain ⟨n₁, hlearn, hn₁, hstore, hconfig⟩ := hn.learn hnode
    obtain ⟨n', hrest, hn', hstore', hconfig'⟩ := ih hnodes hn₁
    refine ⟨n', ?_, hn', hstore'.trans hstore, hconfig'.trans hconfig⟩
    rw [DhtNode.learnAll, hlearn, Option.bind_some, hrest]

/-- The nodes of a network are in place and have the contents of one store, and all that it has at a
key fits into an answer of each. -/
structure Answering (r : Roster) (s : DescriptorStore) (key : Hash) (t : Network) : Prop where
  residents : r.Residents t
  replicates : t.Replicates s
  fits : ∀ {b x}, t.nodes b = some x →
    (s.store.held key).length ≤ x.config.maxFindValueResults.toNat

/-- A node of the network at its address, with room for the answers. -/
structure Asking (r : Roster) (s : DescriptorStore) (key : Hash) (a : NodeAddr) (n : Peer) :
    Prop extends r.Resident a n where
  contents : s.SameContents n.store
  fits : (s.store.held key).length ≤ n.config.maxFindValueResults.toNat

/-- What some queries leave behind: the node and the others as they were, and descriptors that the
store serves at some reading of the clock. -/
structure Searched (r : Roster) (s : DescriptorStore) (key : Hash) (a : NodeAddr) (t : Network)
    (found : List Descriptor) (n' : Peer) (t' : Network) : Prop where
  asking : r.Asking s key a n'
  answering : r.Answering s key t'
  same : SameStores t t'
  later : t.reads ≤ t'.reads
  sound : ∀ d ∈ found, ∃ k, t.reads ≤ k ∧ k < t'.reads ∧
    d ∈ s.getDescriptorsAt key none (t.clock k)

/-- The store serves a descriptor at all readings of the clock in between. -/
def Throughout (s : DescriptorStore) (key : Hash) (t t' : Network) (d : Descriptor) : Prop :=
  ∀ k, t.reads ≤ k → k < t'.reads → d ∈ s.getDescriptorsAt key none (t.clock k)

variable {key : Hash} {t t' t'' : Network} {found found' : List Descriptor} {n' n'' : Peer}

omit [Ciborium] in
lemma Answering.without (h : r.Answering s key t) (a : NodeAddr) :
    r.Answering s key (t.without a) where
  residents := Residents.without (fun hx => h.residents hx) a
  replicates {b x} hx := Network.forall_without (P := fun _ x => s.SameContents x.store)
    (fun _ _ => h.replicates) a b x hx
  fits {b x} hx := Network.forall_without
    (P := fun _ x => (s.store.held key).length ≤ x.config.maxFindValueResults.toNat)
    (fun _ _ => h.fits) a b x hx

omit [Ciborium] in
lemma Searched.refl (hn : r.Asking s key a n) (ht : r.Answering s key t) :
    r.Searched s key a t [] n t := ⟨hn, ht, .refl t, le_rfl, by simp⟩

omit [Ciborium] in
lemma Searched.trans (h : r.Searched s key a t found n' t')
    (h' : r.Searched s key a t' found' n'' t'') :
    r.Searched s key a t (found ++ found') n'' t'' where
  asking := h'.asking
  answering := h'.answering
  same := h.same.trans h'.same
  later := h.later.trans h'.later
  sound d hd := by
    rcases List.mem_append.1 hd with hd | hd
    · obtain ⟨k, hfirst, hlast, hserved⟩ := h.sound d hd
      exact ⟨k, hfirst, hlast.trans_le h'.later, hserved⟩
    · obtain ⟨k, hfirst, hlast, hserved⟩ := h'.sound d hd
      rw [h.same.clock] at hserved
      exact ⟨k, h.later.trans hfirst, hlast, hserved⟩

/-- A node that is there answers a query with all that the store serves. -/
lemma query_ok (hn : r.Asking s key a n) (ht : r.Answering s key t)
    (hkey : 32 ≤ key.digest.length) (hb : (t.nodes b).isSome) : ∃ result n' t',
      Transport.sendRequest t b (n.valueRequest key) = (some (.findValueResult result), t') ∧
      n.learnAll (result.nodes.getD []) = some n' ∧
      r.Searched s key a t (result.descriptors.getD []) n' t' ∧ t.reads < t'.reads ∧
      result.descriptors.getD [] = s.getDescriptorsAt key none t.now := by
  obtain ⟨x, hx⟩ := Option.isSome_iff_exists.1 hb
  obtain ⟨result, x', hdispatch, hx', hstore, hconfig, hnames, hfound⟩ :=
    (ht.residents hx).findValue hn.toResident (ht.replicates hx) hkey t.now
  obtain ⟨n', hlearn, hn', hnstore, hnconfig⟩ := hn.toResident.learnAll hnames
  have hall : result.descriptors.getD [] = s.getDescriptorsAt key none t.now := by
    rw [hfound]
    refine List.take_of_length_le ?_
    exact (List.filter_sublist.length_le).trans (le_min hn.fits (ht.fits hx))
  have hreads : t.reads < (t.put b x').reads := Nat.lt_succ_self _
  refine ⟨result, n', t.put b x', Network.sendRequest_of_some hx hdispatch, hlearn,
    ⟨⟨hn', ?_, ?_⟩, ⟨?_, ?_, ?_⟩, .put hx hstore hconfig, hreads.le, ?_⟩, hreads, hall⟩
  · rw [hnstore]
    exact hn.contents
  · rw [hnconfig]
    exact hn.fits
  · exact Residents.put (fun hx => ht.residents hx) hx'
  · refine fun {c y} hy => Network.forall_put (P := fun _ y => s.SameContents y.store)
      (fun _ _ => ht.replicates) ?_ c y hy
    rw [hstore]
    exact ht.replicates hx
  · refine fun {c y} hy => Network.forall_put
      (P := fun _ y => (s.store.held key).length ≤ y.config.maxFindValueResults.toNat)
      (fun _ _ => ht.fits) ?_ c y hy
    rw [hconfig]
    exact ht.fits hx
  · intro d hd
    rw [hall] at hd
    exact ⟨t.reads, le_rfl, hreads, hd⟩

/-- Queries find nothing, or all that the store serves meanwhile. -/
lemma queryNodes_ok (hkey : 32 ≤ key.digest.length) (nodes : List NodeInfo) :
    ∀ {n : Peer} {t : Network}, r.Asking s key a n → r.Answering s key t →
      ∃ found named n' t', n.queryNodes t key nodes = some (found, named, n', t') ∧
        r.Searched s key a t found n' t' ∧
        (found = [] ∨ ∀ d, Throughout s key t t' d → d ∈ found) := by
  induction nodes with
  | nil => exact fun hn ht => ⟨[], [], _, _, rfl, .refl hn ht, .inl rfl⟩
  | cons node nodes ih =>
    intro n t hn ht
    by_cases hb : (t.nodes node.addr).isSome
    · obtain ⟨result, n₁, t₁, hquery, hlearn, hsearched, hreads, hall⟩ := query_ok hn ht hkey hb
      obtain ⟨found, named, n', t', hrest, hsearched', -⟩ :=
        ih hsearched.asking hsearched.answering
      refine ⟨result.descriptors.getD [] ++ found, result.nodes.getD [] ++ named, n', t', ?_,
        hsearched.trans hsearched', .inr fun d hd => ?_⟩
      · rw [DhtNode.queryNodes, hquery]
        dsimp only
        rw [hlearn, Option.bind_eq_bind, Option.bind_some, hrest]
        rfl
      · rw [hall]
        exact List.mem_append_left _ (hd t.reads le_rfl (hreads.trans_le hsearched'.later))
    · obtain ⟨found, named, n', t', hrest, hsearched, hfound⟩ := ih hn ht
      refine ⟨found, named, n', t', ?_, hsearched, hfound⟩
      rw [DhtNode.queryNodes, Network.sendRequest_of_none (Option.not_isSome_iff_eq_none.1 hb)]
      exact hrest

/-- The fallback finds all that the store serves meanwhile if some node is there. -/
lemma broadcast_ok (hkey : 32 ≤ key.digest.length) (hn : r.Asking s key a n)
    (nodes : List NodeInfo) : ∀ {t : Network}, r.Answering s key t →
      r.Searched s key a t (n.broadcast t key nodes).1 n (n.broadcast t key nodes).2 ∧
      ((∃ e ∈ nodes, (t.nodes e.addr).isSome) →
        ∀ d, Throughout s key t (n.broadcast t key nodes).2 d →
          d ∈ (n.broadcast t key nodes).1) := by
  induction nodes with
  | nil =>
    intro t ht
    exact ⟨.refl hn ht, by simp⟩
  | cons node nodes ih =>
    intro t ht
    by_cases hb : (t.nodes node.addr).isSome
    · obtain ⟨result, n₁, t₁, hquery, -, hsearched, hreads, hall⟩ := query_ok hn ht hkey hb
      have hsearched : r.Searched s key a t (result.descriptors.getD []) n t₁ :=
        ⟨hn, hsearched.answering, hsearched.same, hsearched.later, hsearched.sound⟩
      rw [DhtNode.broadcast, hquery]
      dsimp only
      split_ifs with hempty
      · obtain ⟨hrest, -⟩ := ih hsearched.answering
        rw [List.isEmpty_iff.1 hempty] at hsearched hall
        refine ⟨hsearched.trans hrest, fun _ d hd => ?_⟩
        have hserved := hd t.reads le_rfl (hreads.trans_le hrest.later)
        rw [← Network.now, ← hall] at hserved
        cases hserved
      · refine ⟨hsearched, fun _ d hd => ?_⟩
        rw [hall]
        exact hd t.reads le_rfl hreads
    · have hnone := Option.not_isSome_iff_eq_none.1 hb
      rw [DhtNode.broadcast, Network.sendRequest_of_none hnone]
      obtain ⟨hrest, hfound⟩ := ih ht
      refine ⟨hrest, ?_⟩
      rintro ⟨e, he, hsome⟩
      rcases List.mem_cons.1 he with rfl | he
      · exact absurd hsome hb
      · exact hfound ⟨e, he, hsome⟩

/-- So does the loop, or it finds nothing. -/
lemma lookupLoop_ok (hkey : 32 ≤ key.digest.length) {alpha : ℕ} (fuel : ℕ) :
    ∀ {n n' : Peer} {t t' : Network} {candidates : List NodeInfo} {queried : List Hash}
      {found : List Descriptor}, r.Asking s key a n → r.Answering s key t →
      DhtNode.lookupLoop alpha key fuel n t candidates queried = some (found, n', t') →
        r.Searched s key a t found n' t' ∧
        (found = [] ∨ ∀ d, Throughout s key t t' d → d ∈ found) := by
  induction fuel with
  | zero =>
    intro n n' t t' candidates queried found _ _ h
    cases h
  | succ fuel ih =>
    intro n n' t t' candidates queried found hn ht h
    rcases DhtNode.lookupLoop_cases h with ⟨-, rfl, rfl, rfl, -⟩ |
      ⟨collected, newNodes, n₁, t₁, -, hquery, hcases⟩
    · exact ⟨.refl hn ht, .inl rfl⟩
    · obtain ⟨collected', named, n₂, t₂, hquery', hsearched, hfound⟩ :=
        queryNodes_ok hkey (DhtNode.selection alpha candidates queried) hn ht
      obtain ⟨rfl, rfl, rfl, rfl⟩ :
          collected' = collected ∧ named = newNodes ∧ n₂ = n₁ ∧ t₂ = t₁ := by
        simpa using hquery'.symm.trans hquery
      rcases hcases with ⟨-, rfl, rfl, rfl, -⟩ | ⟨rfl, -, sorted, -, hloop, -⟩
      · exact ⟨hsearched, hfound⟩
      · obtain ⟨hsearched', hfound'⟩ := ih hsearched.asking hsearched.answering hloop
        refine ⟨hsearched.trans hsearched', hfound'.imp_right fun hall d hd => hall d ?_⟩
        intro k hfirst hlast
        rw [hsearched.same.clock]
        exact hd k (hsearched.later.trans hfirst) hlast

/-- A lookup finds what the store serves. -/
lemma lookupValue_ok (hkey : 32 ≤ key.digest.length) {alpha fuel : ℕ} (hn : r.Asking s key a n)
    (ht : r.Answering s key t) (hother : ∃ b ≠ a, (t.nodes b).isSome)
    (h : n.lookupValue alpha fuel t key = some (found, n', t')) :
    r.Searched s key a t found n' t' ∧ ∀ d, Throughout s key t t' d → d ∈ found := by
  obtain ⟨initial, collected, t₁, -, hloop, hcases⟩ := DhtNode.lookupValue_cases h
  obtain ⟨hsearched, hfound⟩ := lookupLoop_ok hkey fuel hn ht hloop
  rcases hcases with ⟨rfl, -, hbroadcast⟩ | ⟨hlarge, rfl, rfl⟩
  · obtain ⟨hsearched', hall⟩ :=
      broadcast_ok hkey hsearched.asking n'.routingTable.allNodes hsearched.answering
    rw [hbroadcast] at hsearched' hall
    refine ⟨hsearched.trans hsearched', fun d hd => hall ?_ d fun k hfirst hlast => ?_⟩
    · -- the other node is in the table, at its address
      obtain ⟨b, hba, hb⟩ := hother
      rw [← hsearched.same.isSome] at hb
      obtain ⟨x, hx⟩ := Option.isSome_iff_exists.1 hb
      obtain ⟨e, he, -, rfl⟩ :=
        hsearched.asking.toResident.entry (hsearched.answering.residents hx) hba
      exact ⟨e, he, hb⟩
    · rw [hsearched.same.clock]
      exact hd k (hsearched.later.trans hfirst) hlast
  · refine ⟨hsearched, hfound.resolve_left fun hnone => ?_⟩
    exact absurd (hlarge hnone) (not_lt.2 hsearched.asking.table.listing.length_le)

end Roster

/-! ## Uses of a network -/

namespace Network

variable [Crypto]

/-- What is asked of a node: `iterative_store` or `lookup_value`. -/
inductive Use where
  | publish (a : NodeAddr) (d : Descriptor)
  | lookup (a : NodeAddr) (key : Hash)

/-- What a node returns. -/
inductive Answer where
  | published (stored : ℕ)
  | found (descriptors : List Descriptor)

variable [Ciborium]

/-- A use returns an answer, a lookup with enough fuel, and leaves a network behind. -/
def Returns (alpha : ℕ) (t : Network) : Use → Answer → Network → Prop
  | .publish a d, .published stored, t' => t.iterativeStore alpha a d = some (stored, t')
  | .lookup a key, .found descriptors, t' =>
    ∃ fuel, t.lookupValue alpha fuel a key = some (descriptors, t')
  | _, _, _ => False

/-- The single store after a use. -/
def afterUse (s : DescriptorStore) (now : UInt64) : Use → DescriptorStore
  | .publish _ d => (s.unlimited.storeDescriptorAt d now).2
  | .lookup _ _ => s

/-- A descriptor is valid at all readings of the clock while it is published, and its publisher
within the rate limit of every node, or it is valid at none.  What is looked up fits into an
answer. -/
def Fits (alpha : ℕ) (t : Network) (s : DescriptorStore) : Use → Prop
  | .publish a d => (t.nodes a).isSome ∧ (∀ rk ∈ d.routingKeys, 32 ≤ rk.digest.length) ∧
      NotSelfRevoking d ∧ ∀ stored t', t.iterativeStore alpha a d = some (stored, t') →
        (∀ k, t.reads ≤ k → k < t'.reads → ¬ d.ValidAt (t.clock k)) ∨
          ∀ k, t.reads ≤ k → k < t'.reads → d.ValidAt (t.clock k) ∧
            ∀ {b x}, t.nodes b = some x → x.store.allows d.publisher (t.clock k) = true
  | .lookup a key => (t.nodes a).isSome ∧ 32 ≤ key.digest.length ∧
      ∀ {b x}, t.nodes b = some x →
        (s.store.held key).length ≤ x.config.maxFindValueResults.toNat

/-- The answer is that of the single store: some node has stored the descriptor if and only if the
store does; what is found is served by the store at some reading of the clock meanwhile, and what
the store serves at all of them is found. -/
def Right (t t' : Network) (s : DescriptorStore) : Use → Answer → Prop
  | .publish _ d, .published stored =>
    0 < stored ↔ (s.unlimited.storeDescriptorAt d t.now).1 = .ok ()
  | .lookup _ key, .found descriptors =>
    (∀ d ∈ descriptors, ∃ k, t.reads ≤ k ∧ k < t'.reads ∧
      d ∈ s.getDescriptorsAt key none (t.clock k)) ∧
    ∀ d, (∀ k, t.reads ≤ k → k < t'.reads → d ∈ s.getDescriptorsAt key none (t.clock k)) →
      d ∈ descriptors
  | _, _ => False

/-- A network and the single store, after some uses that fit. -/
inductive Run (alpha : ℕ) (net : Network) (s : DescriptorStore) : Network → DescriptorStore → Prop
  | start : Run alpha net s net s
  | use {t t' : Network} {u : DescriptorStore} {use : Use} {answer : Answer}
    (h : Run alpha net s t u) (hfits : t.Fits alpha u use)
    (hreturns : t.Returns alpha use answer t') : Run alpha net s t' (afterUse u t.now use)

variable {alpha : ℕ} {r : Roster} {t t' : Network} {s : DescriptorStore} {a : NodeAddr}
  {d : Descriptor}

/-- `iterative_store` returns. -/
lemma iterativeStore_isSome (ht : r.Residents t) (ha : (t.nodes a).isSome)
    (hkeys : ∀ rk ∈ d.routingKeys, 32 ≤ rk.digest.length) :
    ∃ stored t', t.iterativeStore alpha a d = some (stored, t') := by
  obtain ⟨n, hn⟩ := Option.isSome_iff_exists.1 ha
  -- nothing is said of the stores where no reading of the clock is left
  let p : Offering := ⟨r, d, .new, .new, False, t.clock, 0, 0,
    fun _ h => absurd h (Nat.not_lt_zero _), fun _ h => absurd h (Nat.not_lt_zero _)⟩
  obtain ⟨stored, n', t', hstore, -⟩ :=
    Offering.storeAtKeys_ok (p := p) alpha d.routingKeys hkeys (ht hn) (ht.without a)
  exact ⟨stored, _, by
    rw [iterativeStore, hn, Option.bind_eq_bind, Option.bind_some, DhtNode.iterativeStore, hstore]
    rfl⟩

/-- `iterative_store` is its STOREs, and then one of its own. -/
lemma storeAtKeys_of_iterativeStore {n : Peer} (hn : t.nodes a = some n) {stored : ℕ}
    (h : t.iterativeStore alpha a d = some (stored, t')) : ∃ n' t₁,
      n.storeAtKeys alpha (t.without a) d d.routingKeys = some (stored, n', t₁) ∧
      t' = t₁.put a { n' with store := (n'.store.storeDescriptorAt d t₁.now).2 } := by
  rw [iterativeStore, hn, Option.bind_eq_bind, Option.bind_some] at h
  obtain ⟨⟨stored', n'', t₁⟩, hstore, h⟩ := Option.bind_eq_some_iff.1 h
  obtain ⟨⟨stored'', n', t₂⟩, hkeys, hlocal⟩ := Option.bind_eq_some_iff.1 hstore
  obtain ⟨rfl, rfl, rfl⟩ := hlocal
  obtain ⟨rfl, rfl⟩ := h
  exact ⟨n', t₁, hkeys, rfl⟩

/-- A publication that fits is an offering: of a descriptor that changes nothing, or one for which
every store has room. -/
lemma Fits.offering (hs : t.Replicates s) (hfits : t.Fits alpha s (.publish a d)) {stored : ℕ}
    (hreturns : t.iterativeStore alpha a d = some (stored, t')) (hreads : t.reads < t'.reads)
    (r : Roster) : ∃ p : Offering, p.toRoster = r ∧ p.descriptor = d ∧ p.before = s ∧
      p.after = afterUse s t.now (.publish a d) ∧
      (p.accepted ↔ (s.unlimited.storeDescriptorAt d t.now).1 = .ok ()) ∧ p.clock = t.clock ∧
      p.first = t.reads ∧ p.last = t'.reads ∧
      (p.after.SameContents s ∧ ¬ p.accepted ∨
        d.routingKeys ≠ [] ∧ ∀ {b x}, t.nodes b = some x → p.Fresh x.store) := by
  obtain ⟨-, -, hself, hcalm⟩ := hfits
  let out := s.unlimited.storeDescriptorAt d t.now
  rcases hcalm stored t' hreturns with hinvalid | hvalid
  · -- nothing is stored anywhere
    have hrefused {x : DescriptorStore} {k : ℕ} (hfirst : t.reads ≤ k) (hlast : k < t'.reads) :=
      storeDescriptorAt_of_invalid (hinvalid k hfirst hlast) x
    obtain ⟨hnot, hsame⟩ : out.1 ≠ .ok () ∧ out.2 = s.unlimited := hrefused le_rfl hreads
    refine ⟨⟨r, d, s, out.2, out.1 = .ok (), t.clock, t.reads, t'.reads, ?_, ?_⟩, rfl, rfl, rfl,
      rfl, .rfl, rfl, rfl, rfl, .inl ⟨?_, hnot⟩⟩
    · intro x k hfirst hlast hx _
      obtain ⟨hnot', hsame'⟩ := hrefused (x := x) hfirst hlast
      rw [hsame', hsame]
      exact ⟨iff_of_false hnot' hnot, (sameContents_unlimited s).symm.trans hx⟩
    · intro x k hfirst hlast hx
      obtain ⟨hnot', hsame'⟩ := hrefused (x := x) hfirst hlast
      rw [hsame']
      exact ⟨fun hok => absurd hok hnot', hx⟩
    · dsimp only
      rw [hsame]
      exact (sameContents_unlimited s).symm
  · obtain ⟨hwelcome, hoffered⟩ : (out.1 = .ok () ↔ s.Welcomes d) ∧
        (s.offered d).SameContents out.2 :=
      storeDescriptorAt_unlimited (hvalid t.reads le_rfl hreads).1 s
    refine ⟨⟨r, d, s, out.2, out.1 = .ok (), t.clock, t.reads, t'.reads, ?_, ?_⟩, rfl, rfl, rfl,
      rfl, .rfl, rfl, rfl, rfl, .inr ⟨?_, ?_⟩⟩
    · intro x k hfirst hlast hx hroom
      obtain ⟨hok, hx'⟩ := hx.storeDescriptorAt_first (hvalid k hfirst hlast).1 hroom
      exact ⟨hok.trans hwelcome.symm, hoffered.symm.trans hx'⟩
    · intro x k hfirst hlast hx
      obtain ⟨hok, hx'⟩ :=
        (hoffered.trans hx).storeDescriptorAt_again hself (hvalid k hfirst hlast).1
      exact ⟨fun h => hwelcome.2 (hok h), hoffered.symm.trans hx'⟩
    · exact List.ne_nil_of_length_pos (hvalid t.reads le_rfl hreads).1.inBounds.routingKeys_pos
    · intro b x hx
      exact ⟨hs hx, fun k hfirst hlast => (hvalid k hfirst hlast).2 hx⟩

/-- `iterative_store` brings a descriptor to every store. -/
lemma publish_ok (ht : r.Residents t) (hs : t.Replicates s) (hmany : ∃ b ≠ a, (t.nodes b).isSome)
    (hfits : t.Fits alpha s (.publish a d)) {stored : ℕ}
    (hreturns : t.iterativeStore alpha a d = some (stored, t')) :
    r.Residents t' ∧ t'.Replicates (afterUse s t.now (.publish a d)) ∧
      (∀ b, (t'.nodes b).isSome = (t.nodes b).isSome) ∧
      t.Right t' s (.publish a d) (.published stored) := by
  obtain ⟨n, hn⟩ := Option.isSome_iff_exists.1 hfits.1
  obtain ⟨n', t₁, hstore, rfl⟩ := storeAtKeys_of_iterativeStore hn hreturns
  have hlater : (t.without a).reads ≤ t₁.reads := reads_le_storeAtKeys hstore
  obtain ⟨p, rfl, rfl, rfl, hafter, haccepted, hclock, hfirst, hlast, hkind⟩ :=
    hfits.offering hs hreturns (Nat.lt_succ_of_le hlater) r
  obtain ⟨-, hkeys, -, -⟩ := hfits
  have hunderway : p.Underway (t.without a) := by
    refine ⟨ht.without a, hclock.symm, hfirst.le, fun {b x} hx => ?_⟩
    have hstores : ∀ b x, t.nodes b = some x → p.Fresh x.store ∨ p.after.SameContents x.store := by
      intro b x hx
      rcases hkind with ⟨hsame, -⟩ | ⟨-, hfresh⟩
      · exact .inr (hsame.trans (hs hx))
      · exact .inl (hfresh hx)
    exact forall_without hstores a b x hx
  obtain ⟨stored', n'', t₂, hstore', hn', hlocal, ht₂, hreaches⟩ :=
    Offering.storeAtKeys_ok alpha p.descriptor.routingKeys hkeys (ht hn) hunderway.residents
  obtain ⟨rfl, rfl, rfl⟩ : stored' = stored ∧ n'' = n' ∧ t₂ = t₁ := by
    simpa using hstore'.symm.trans hstore
  have hbefore : t₂.reads < p.last := by
    rw [hlast]
    exact Nat.lt_succ_self _
  have hreaches := hreaches hunderway hbefore.le
  have hlocal' : p.after.SameContents
      (n''.store.storeDescriptorAt p.descriptor t₂.now).2 := by
    have hnow : t₂.now = p.clock t₂.reads := by
      rw [now, hreaches.advances.underway.clock]
    have hbegun := hreaches.advances.underway.begun
    rw [hlocal, hnow]
    rcases hkind with ⟨hsame, -⟩ | ⟨-, hfresh⟩
    · exact (p.settles hbegun hbefore (hsame.trans (hs hn))).2
    · obtain ⟨hcontents, hroom⟩ := hfresh hn
      exact (p.takes hbegun hbefore hcontents (hroom _ hbegun hbefore)).2
  have hresident : p.Resident a
      { n'' with store := (n''.store.storeDescriptorAt p.descriptor t₂.now).2 } :=
    ⟨hn'.home, hn'.addr, hn'.hooks, hn'.table⟩
  refine ⟨ht₂.put hresident, ?_, ?_, ?_⟩
  · intro b x hx
    rw [← hafter]
    by_cases hba : b = a
    · subst hba
      rw [put_nodes_self] at hx
      obtain rfl := Option.some.inj hx
      exact hlocal'
    · rw [put_nodes_of_ne hba] at hx
      rcases hkind with ⟨hsame, -⟩ | ⟨hkeys, -⟩
      · rcases hreaches.advances.underway.stores hx with hold | hnew
        · exact hsame.trans hold.1
        · exact hnew
      · have hsome : ((t.without a).nodes b).isSome := by
          rw [← hreaches.advances.nodes, hx]
          rfl
        obtain ⟨y, hy, htaken⟩ := hreaches.taken hkeys b hba hsome
        obtain rfl := Option.some.inj (hx.symm.trans hy)
        exact htaken
  · intro b
    by_cases hba : b = a
    · rw [hba, put_nodes_self, hn]
      rfl
    · rw [put_nodes_of_ne hba, hreaches.advances.nodes, without_nodes_of_ne hba]
  · show 0 < stored' ↔ _
    rw [← haccepted]
    refine ⟨hreaches.accepted, fun haccepted => ?_⟩
    rcases hkind with ⟨-, hnot⟩ | ⟨hkeys, hfresh⟩
    · exact absurd haccepted hnot
    · refine hreaches.counted hkeys ?_ haccepted ?_
      · intro b x hx
        exact forall_without (P := fun _ x => p.Fresh x.store) (fun _ _ => hfresh) a b x hx
      · obtain ⟨b, hba, hb⟩ := hmany
        exact ⟨b, hba, by rwa [without_nodes_of_ne hba]⟩

/-- `lookup_value` returns. -/
lemma lookupValue_isSome {key : Hash} (ha : (t.nodes a).isSome) (hkey : 32 ≤ key.digest.length) :
    ∃ fuel found t', t.lookupValue alpha fuel a key = some (found, t') := by
  obtain ⟨n, hn⟩ := Option.isSome_iff_exists.1 ha
  obtain ⟨fuel, -, hreturns⟩ := n.lookupValue_settles alpha (t.without a) key
  obtain ⟨⟨found, n', t₁⟩, hlookup⟩ := Option.isSome_iff_exists.1 (hreturns hkey)
  refine ⟨fuel, found, t₁.put a n', ?_⟩
  rw [lookupValue, hn, Option.bind_eq_bind, Option.bind_some, hlookup]
  rfl

/-- `lookup_value` finds what the single store serves, and changes no store. -/
lemma lookup_ok (ht : r.Residents t) (hs : t.Replicates s) (hmany : ∃ b ≠ a, (t.nodes b).isSome)
    {key : Hash} (hfits : t.Fits alpha s (.lookup a key)) {fuel : ℕ} {found : List Descriptor}
    (hreturns : t.lookupValue alpha fuel a key = some (found, t')) :
    r.Residents t' ∧ t'.Replicates s ∧ (∀ b, (t'.nodes b).isSome = (t.nodes b).isSome) ∧
      t.Right t' s (.lookup a key) (.found found) := by
  obtain ⟨ha, hkey, hroom⟩ := hfits
  obtain ⟨n, hn⟩ := Option.isSome_iff_exists.1 ha
  rw [lookupValue, hn, Option.bind_eq_bind, Option.bind_some] at hreturns
  obtain ⟨⟨found', n', t₁⟩, hlookup, hput⟩ := Option.bind_eq_some_iff.1 hreturns
  obtain ⟨rfl, rfl⟩ := hput
  have hasking : r.Asking s key a n := ⟨ht hn, hs hn, hroom hn⟩
  have hanswering : r.Answering s key (t.without a) :=
    Roster.Answering.without ⟨ht, hs, hroom⟩ a
  obtain ⟨b, hba, hb⟩ := hmany
  have hother : ∃ b ≠ a, ((t.without a).nodes b).isSome :=
    ⟨b, hba, by rwa [without_nodes_of_ne hba]⟩
  obtain ⟨hsearched, hall⟩ := Roster.lookupValue_ok hkey hasking hanswering hother hlookup
  refine ⟨?_, ?_, ?_, ?_, ?_⟩
  · exact Roster.Residents.put (fun hx => hsearched.answering.residents hx)
      hsearched.asking.toResident
  · exact fun {c y} hy => forall_put (P := fun _ y => s.SameContents y.store)
      (fun _ _ => hsearched.answering.replicates) hsearched.asking.contents c y hy
  · intro c
    by_cases hca : c = a
    · rw [hca, put_nodes_self, hn]
      rfl
    · rw [put_nodes_of_ne hca, hsearched.same.isSome, without_nodes_of_ne hca]
  · intro d hd
    obtain ⟨k, hfirst, hlast, hserved⟩ := hsearched.sound d hd
    exact ⟨k, hfirst, hlast.trans (Nat.lt_succ_self _), hserved⟩
  · intro d hd
    exact hall d fun k hfirst hlast => hd k hfirst (hlast.trans (Nat.lt_succ_self _))

/-- A use that fits does to the network what it does to the single store. -/
lemma use_ok (ht : r.Residents t) (hs : t.Replicates s) (hmany : ∀ a, ∃ b ≠ a, (t.nodes b).isSome)
    {use : Use} (hfits : t.Fits alpha s use) {answer : Answer}
    (hreturns : t.Returns alpha use answer t') :
    r.Residents t' ∧ t'.Replicates (afterUse s t.now use) ∧
      (∀ b, (t'.nodes b).isSome = (t.nodes b).isSome) ∧ t.Right t' s use answer := by
  cases use with
  | publish a d =>
    cases answer with
    | published stored => exact publish_ok ht hs (hmany a) hfits hreturns
    | found descriptors => exact hreturns.elim
  | lookup a key =>
    cases answer with
    | published stored => exact hreturns.elim
    | found descriptors =>
      obtain ⟨fuel, hreturns⟩ := hreturns
      exact lookup_ok ht hs (hmany a) hfits hreturns

/-- Over every run of publications and lookups that fit, by any of its nodes, a complete small
network of at least two nodes goes on as one store without rate limits: every node has its
contents, every call returns, and the answers are right. -/
theorem runs_as_one_store {net : Network} (hnet : net.Complete)
    (hmany : ∀ a, ∃ b ≠ a, (net.nodes b).isSome) (hs : net.Replicates s) {u : DescriptorStore}
    (hrun : Run alpha net s t u) : t.Replicates u ∧ ∀ use, t.Fits alpha u use →
      (∃ answer t', t.Returns alpha use answer t') ∧
        ∀ answer t', t.Returns alpha use answer t' → t.Right t' u use answer := by
  obtain ⟨known, hsmall, hknown⟩ := hnet.small
  obtain ⟨r, -, -, hr⟩ := hnet.toAcquainted.exists_roster hsmall hknown
  obtain ⟨ht, hu, hsome⟩ : r.Residents t ∧ t.Replicates u ∧
      ∀ b, (t.nodes b).isSome = (net.nodes b).isSome := by
    induction hrun with
    | start => exact ⟨hr, hs, fun _ => rfl⟩
    | use hrun hfits hreturns ih =>
      obtain ⟨ht, hu, hsome⟩ := ih
      obtain ⟨ht', hu', hsome', -⟩ :=
        use_ok ht hu (fun a => by simpa only [hsome] using hmany a) hfits hreturns
      exact ⟨ht', hu', fun b => (hsome' b).trans (hsome b)⟩
  refine ⟨hu, fun use hfits => ⟨?_, fun answer t' hreturns => ?_⟩⟩
  · cases use with
    | publish a d =>
      obtain ⟨stored, t', hreturns⟩ := iterativeStore_isSome ht hfits.1 hfits.2.1
      exact ⟨.published stored, t', hreturns⟩
    | lookup a key =>
      obtain ⟨fuel, found, t', hreturns⟩ := lookupValue_isSome hfits.1 hfits.2.1
      exact ⟨.found found, t', fuel, hreturns⟩
  · exact (use_ok ht hu (fun a => by simpa only [hsome] using hmany a) hfits hreturns).2.2.2

omit [Crypto] [Ciborium] in
/-- After one of two nodes has published a capability, both serve it. -/
theorem target_everywhere :
    letI : Crypto := publishedCrypto
    letI : Ciborium := referenceCiborium
    ∃ stored net', pairNetwork.iterativeStore 3 (.quic "first:4433") target = some (stored, net') ∧
      ∀ a x, net'.nodes a = some x →
        target ∈ x.store.getDescriptorsAt computeKey none 1700000000000000 := by
  let _ : Crypto := publishedCrypto
  let _ : Ciborium := referenceCiborium
  have hnet : pairNetwork.Complete :=
    complete_ofMembers (by decide +kernel) (by decide +kernel) _
  have hstores {a : NodeAddr} {x : Peer} (hx : pairNetwork.nodes a = some x) : x.store = .new := by
    obtain ⟨m, -, -, rfl⟩ := nodes_ofMembers hx
    exact (acquainted_store _ _ _).1
  have hs : pairNetwork.Replicates .new := by
    intro a x hx
    rw [hstores hx]
    exact .refl _
  have hmany : ∀ a, ∃ b ≠ a, (pairNetwork.nodes b).isSome := by
    intro a
    by_cases ha : a = .quic "first:4433"
    · exact ⟨.quic "second:4433", by rw [ha]; decide, by decide +kernel⟩
    · exact ⟨.quic "first:4433", Ne.symm ha, by decide +kernel⟩
  have hvalid : target.ValidAt 1700000000000000 :=
    Descriptor.validate_eq_ok_iff.1 (by decide +kernel)
  have hfits : pairNetwork.Fits 3 .new (.publish (.quic "first:4433") target) := by
    refine ⟨by decide +kernel, by decide, ?_, fun stored t' _ => .inr fun k _ _ => ⟨hvalid, ?_⟩⟩
    · intro hschema
      exact absurd hschema (by decide +kernel)
    · intro b x hx
      rw [hstores hx]
      show DescriptorStore.new.allows target.publisher 1700000000000000 = true
      decide +kernel
  obtain ⟨answer, net', hreturns⟩ :=
    ((runs_as_one_store hnet hmany hs .start).2 (.publish (.quic "first:4433") target) hfits).1
  cases answer with
  | found descriptors => exact hreturns.elim
  | published stored =>
    obtain ⟨hcontents, -⟩ := runs_as_one_store hnet hmany hs (.use .start hfits hreturns)
    refine ⟨stored, net', hreturns, fun a x hx => ?_⟩
    rw [(hcontents hx).getDescriptorsAt]
    show target ∈ (DescriptorStore.new.unlimited.storeDescriptorAt target
      1700000000000000).2.getDescriptorsAt computeKey none 1700000000000000
    decide +kernel

end Network

end MeshProtocol
