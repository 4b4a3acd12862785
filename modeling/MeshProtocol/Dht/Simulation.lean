import MeshProtocol.Dht.Lookup
import MeshProtocol.Library.Simulation

/-!
# Operations over transports that answer alike

The DHT knows a transport by its answers only.  If two transports answer every request alike, and go
on doing so, each iterative operation returns the same over both and leaves the same node behind.
-/

namespace MeshProtocol

open Simulation

variable {τ σ : Type} [Transport τ] [Transport σ]

/-- A relation between the states of two transports under which they answer alike, or fail to for
the same reason, and tell the same time. -/
structure AnswerAlike (clock : τ → UInt64) (clock' : σ → UInt64) (R : τ → σ → Prop) : Prop where
  send : ∀ {t s}, R t s → ∀ addr request, ∃ resp t' s',
    Transport.sendRequest t addr request = (resp, t') ∧
      Transport.sendRequest s addr request = (resp, s') ∧ R t' s'
  noReply : ∀ {t s}, R t s → ∀ addr request, (Transport.sendRequest t addr request).1 = none →
    Transport.noReply t addr request = Transport.noReply s addr request
  time : ∀ {t s}, R t s → clock t = clock' s

/-- Transports that each answer as a third one answer alike. -/
lemma AnswerAlike.comp {ρ : Type} [Transport ρ] {clock : τ → UInt64} {clock' : σ → UInt64}
    {clock'' : ρ → UInt64} {R : τ → σ → Prop} {R' : σ → ρ → Prop} (h : AnswerAlike clock clock' R)
    (h' : AnswerAlike clock' clock'' R') : AnswerAlike clock clock'' (Relation.Comp R R') where
  send := by
    rintro t r ⟨s, hts, hsr⟩ addr request
    obtain ⟨resp, t', s', ht, hs, hts'⟩ := h.send hts addr request
    obtain ⟨resp', s'', r', hs', hr, hsr'⟩ := h'.send hsr addr request
    obtain ⟨rfl, rfl⟩ := Prod.mk.inj (hs.symm.trans hs')
    exact ⟨resp, t', r', ht, hr, s', hts', hsr'⟩
  noReply := by
    rintro t r ⟨s, hts, hsr⟩ addr request hnone
    obtain ⟨resp, t', s', ht, hs, -⟩ := h.send hts addr request
    rw [h.noReply hts addr request hnone]
    rw [ht] at hnone
    exact h'.noReply hsr addr request (by rw [hs, hnone])
  time := by
    rintro t r ⟨s, hts, hsr⟩
    exact (h.time hts).trans (h'.time hsr)

namespace DhtNode

variable [Crypto] {S H β : Type}

/-- The same result and the same node, with related transports. -/
def Alike (R : τ → σ → Prop) (p : β × DhtNode S H × τ) (q : β × DhtNode S H × σ) : Prop :=
  p.1 = q.1 ∧ p.2.1 = q.2.1 ∧ R p.2.2 q.2.2

variable {clock : τ → UInt64} {clock' : σ → UInt64} {R : τ → σ → Prop} {t : τ} {s : σ}
  {n : DhtNode S H} {key : Hash}

/-! ## `iterative_store` -/

lemma findTargets_simulated (h : AnswerAlike clock clock' R) (nodes : List NodeInfo) :
    ∀ {n : DhtNode S H} {t : τ} {s : σ} {targets : List NodeInfo}, R t s →
      Option.Rel (Alike R) (n.findTargets t key targets nodes)
        (n.findTargets s key targets nodes) := by
  induction nodes with
  | nil =>
    intro n t s targets hts
    exact .some ⟨rfl, rfl, hts⟩
  | cons node nodes ih =>
    intro n t s targets hts
    obtain ⟨resp, t', s', ht, hs, hts'⟩ :=
      h.send hts node.addr (.findNode ⟨n.identity, n.addr, key⟩)
    rw [findTargets, findTargets, ht, hs]
    dsimp only
    split
    · exact rel_bind_same _ fun _ => ih hts'
    · exact ih hts'

lemma sendStores_simulated (h : AnswerAlike clock clock' R) {d : Descriptor}
    (nodes : List NodeInfo) :
    ∀ {t : τ} {s : σ}, R t s → (n.sendStores t d nodes).1 = (n.sendStores s d nodes).1 ∧
      R (n.sendStores t d nodes).2 (n.sendStores s d nodes).2 := by
  induction nodes with
  | nil =>
    intro t s hts
    exact ⟨rfl, hts⟩
  | cons node nodes ih =>
    intro t s hts
    rw [sendStores, sendStores]
    by_cases hself : node.identity.nodeId = n.nodeId
    · rw [if_pos hself, if_pos hself]
      exact ih hts
    · obtain ⟨resp, t', s', ht, hs, hts'⟩ :=
        h.send hts node.addr (.store ⟨n.identity, n.addr, d⟩)
      obtain ⟨hcount, hrest⟩ := ih hts'
      rw [if_neg hself, if_neg hself, ht, hs]
      dsimp only
      rw [hcount]
      split
      · exact ⟨rfl, hrest⟩
      · exact ⟨rfl, hrest⟩

lemma storeAtKeys_simulated (h : AnswerAlike clock clock' R) {alpha : ℕ} {d : Descriptor}
    (keys : List Hash) : ∀ {n : DhtNode S H} {t : τ} {s : σ}, R t s →
      Option.Rel (Alike R) (n.storeAtKeys alpha t d keys) (n.storeAtKeys alpha s d keys) := by
  induction keys with
  | nil =>
    intro n t s hts
    exact .some ⟨rfl, rfl, hts⟩
  | cons key keys ih =>
    intro n t s hts
    refine rel_bind_same _ fun closest => rel_bind (findTargets_simulated h _ hts) ?_
    rintro ⟨targets, n₁, t₁⟩ ⟨_, _, s₁⟩ ⟨rfl, rfl, hts₁⟩
    refine rel_bind_same _ fun sorted => ?_
    obtain ⟨hcount, hts₂⟩ := sendStores_simulated (n := n₁) h (d := d) (sorted.take K) hts₁
    refine rel_bind (ih hts₂) ?_
    rintro ⟨others, n₂, t₂⟩ ⟨_, _, s₂⟩ ⟨rfl, rfl, hts₃⟩
    exact .some ⟨congrArg (· + others) hcount, rfl, hts₃⟩

lemma iterativeStore_simulated [DescriptorStorage S] (h : AnswerAlike clock clock' R) (hts : R t s)
    (alpha : ℕ) (d : Descriptor) :
    Option.Rel (Alike R) (n.iterativeStore alpha clock t d)
      (n.iterativeStore alpha clock' s d) := by
  refine rel_bind (storeAtKeys_simulated h _ hts) ?_
  rintro ⟨stored, n₁, t₁⟩ ⟨_, _, s₁⟩ ⟨rfl, rfl, hts₁⟩
  refine .some ⟨rfl, ?_, hts₁⟩
  show DhtNode.mk _ _ _ _ _ _ _ = DhtNode.mk _ _ _ _ _ _ _
  rw [h.time hts₁]

/-! ## `lookup_value` -/

lemma queryNodes_simulated (h : AnswerAlike clock clock' R) (nodes : List NodeInfo) :
    ∀ {n : DhtNode S H} {t : τ} {s : σ}, R t s →
      Option.Rel (fun p q => p.1 = q.1 ∧ Alike R p.2 q.2) (n.queryNodes t key nodes)
        (n.queryNodes s key nodes) := by
  induction nodes with
  | nil =>
    intro n t s hts
    exact .some ⟨rfl, rfl, rfl, hts⟩
  | cons node nodes ih =>
    intro n t s hts
    obtain ⟨resp, t', s', ht, hs, hts'⟩ := h.send hts node.addr (n.valueRequest key)
    rw [queryNodes, queryNodes, ht, hs]
    dsimp only
    split
    · refine rel_bind_same _ fun n₁ => rel_bind (ih hts') ?_
      rintro ⟨descriptors, newNodes, n₂, t₂⟩ ⟨_, _, _, s₂⟩ ⟨rfl, rfl, rfl, hts₂⟩
      exact .some ⟨rfl, rfl, rfl, hts₂⟩
    · exact ih hts'

lemma lookupLoop_simulated (h : AnswerAlike clock clock' R) {alpha : ℕ} (fuel : ℕ) :
    ∀ {n : DhtNode S H} {t : τ} {s : σ} {candidates : List NodeInfo} {queried : List Hash}, R t s →
      Option.Rel (Alike R) (lookupLoop alpha key fuel n t candidates queried)
        (lookupLoop alpha key fuel n s candidates queried) := by
  induction fuel with
  | zero =>
    intro n t s candidates queried _
    exact .none
  | succ fuel ih =>
    intro n t s candidates queried hts
    rw [lookupLoop, lookupLoop]
    dsimp only
    split
    · exact .some ⟨rfl, rfl, hts⟩
    · refine rel_bind (queryNodes_simulated h _ hts) ?_
      rintro ⟨collected, newNodes, n₁, t₁⟩ ⟨_, _, _, s₁⟩ ⟨rfl, rfl, rfl, hts₁⟩
      dsimp only
      split
      · exact .some ⟨rfl, rfl, hts₁⟩
      · refine rel_bind_same _ fun sorted => ?_
        split
        · exact .some ⟨rfl, rfl, hts₁⟩
        · exact ih hts₁

lemma broadcast_simulated (h : AnswerAlike clock clock' R) (nodes : List NodeInfo) :
    ∀ {t : τ} {s : σ}, R t s → (n.broadcast t key nodes).1 = (n.broadcast s key nodes).1 ∧
      R (n.broadcast t key nodes).2 (n.broadcast s key nodes).2 := by
  induction nodes with
  | nil =>
    intro t s hts
    exact ⟨rfl, hts⟩
  | cons node nodes ih =>
    intro t s hts
    obtain ⟨resp, t', s', ht, hs, hts'⟩ := h.send hts node.addr (n.valueRequest key)
    rw [broadcast, broadcast, ht, hs]
    dsimp only
    split
    · split
      · exact ih hts'
      · exact ⟨rfl, hts'⟩
    · exact ih hts'

lemma lookupValue_simulated (h : AnswerAlike clock clock' R) (hts : R t s) (alpha fuel : ℕ) :
    Option.Rel (Alike R) (n.lookupValue alpha fuel t key) (n.lookupValue alpha fuel s key) := by
  refine rel_bind_same _ fun initial => rel_bind (lookupLoop_simulated h fuel hts) ?_
  rintro ⟨collected, n₁, t₁⟩ ⟨_, _, s₁⟩ ⟨rfl, rfl, hts₁⟩
  dsimp only
  split
  · obtain ⟨hfound, hts₂⟩ := broadcast_simulated (n := n₁) h n₁.routingTable.allNodes hts₁
    exact .some ⟨hfound, rfl, hts₂⟩
  · exact .some ⟨rfl, rfl, hts₁⟩

/-! ## `bootstrap` -/

lemma pingSeed_simulated (h : AnswerAlike clock clock' R) (hts : R t s) (seed : NodeAddr) :
    Option.Rel (Alike R) (n.pingSeed clock t seed) (n.pingSeed clock' s seed) := by
  obtain ⟨resp, t', s', ht, hs, hts'⟩ := h.send hts seed (.ping ⟨n.identity, n.addr⟩)
  rw [pingSeed, pingSeed, ht, hs]
  dsimp only
  split
  · rw [h.time hts', Option.map_eq_bind, Option.map_eq_bind]
    exact rel_bind_same _ fun n₁ => .some ⟨rfl, rfl, hts'⟩
  · exact .some ⟨rfl, rfl, hts'⟩

lemma querySeed_simulated (h : AnswerAlike clock clock' R) (hts : R t s) (seed : NodeAddr) :
    Option.Rel (Alike R) (n.querySeed t seed) (n.querySeed s seed) := by
  obtain ⟨resp, t', s', ht, hs, hts'⟩ := h.send hts seed (.findNode ⟨n.identity, n.addr, n.nodeId⟩)
  rw [querySeed, querySeed, ht, hs]
  dsimp only
  split
  · rw [Option.map_eq_bind, Option.map_eq_bind]
    exact rel_bind_same _ fun n₁ => .some ⟨rfl, rfl, hts'⟩
  · exact .some ⟨rfl, rfl, hts'⟩

lemma bootstrap_simulated (h : AnswerAlike clock clock' R) (seeds : List NodeAddr) :
    ∀ {n : DhtNode S H} {t : τ} {s : σ}, R t s →
      Option.Rel (Alike R) (n.bootstrap clock t seeds) (n.bootstrap clock' s seeds) := by
  induction seeds with
  | nil =>
    intro n t s hts
    exact .some ⟨rfl, rfl, hts⟩
  | cons seed seeds ih =>
    intro n t s hts
    refine rel_bind (pingSeed_simulated h hts seed) ?_
    rintro ⟨pongs, n₁, t₁⟩ ⟨_, _, s₁⟩ ⟨rfl, rfl, hts₁⟩
    refine rel_bind (querySeed_simulated h hts₁ seed) ?_
    rintro ⟨discovered, n₂, t₂⟩ ⟨_, _, s₂⟩ ⟨rfl, rfl, hts₂⟩
    refine rel_bind (ih hts₂) ?_
    rintro ⟨others, n₃, t₃⟩ ⟨_, _, s₃⟩ ⟨rfl, rfl, hts₃⟩
    exact .some ⟨rfl, rfl, hts₃⟩

end DhtNode

end MeshProtocol
