import MeshProtocol.Hub.Provenance
import MeshProtocol.Hub.Replicas
import MeshProtocol.Library.Spread

/-!
# Hubs that gossip

Some hubs side by side, each with its tasks, whose steps come in any order.  A gossip round of one
that reaches another takes everything along as long as it fits into a batch (`conveys`), and no step
takes back what has not expired (`grows`).  So when every hub has heard from every other and nothing
new came in meanwhile, all show the same descriptors, the latest of each slot (`hubs_agree`).
-/

namespace MeshProtocol

open Std Bytes DescriptorStorage CachedStorage

/-! ## Marks -/

section Marks

variable [Crypto] [DescriptorCodec]

namespace RedbStorage

omit [Crypto] [DescriptorCodec] in
/-- The sequence that each slot has taken last. -/
def marks (s : RedbStorage) (k : List UInt8) : WithBot ℕ :=
  match s.sequences[k]? with
  | some seq => (seq.toNat : WithBot ℕ)
  | none => ⊥

variable {P : Set Descriptor} {s : RedbStorage} {slots : List UInt8 → Option Descriptor}

lemma Represents.marks_eq_some (h : Represents s slots) {k : List UInt8} {d : Descriptor}
    (hd : slots k = some d) : s.marks k = rank d := by
  rw [marks, h.sequences, hd]
  rfl

lemma Represents.marks_eq_none (h : Represents s slots) {k : List UInt8} (hk : slots k = none) :
    s.marks k = ⊥ := by
  rw [marks, h.sequences, hk]
  rfl

/-- A slot takes nothing that is older. -/
lemma marks_le_store (s : RedbStorage) (d : Descriptor) (now : UInt64) :
    s.marks ≤ (s.storeDescriptorAt d now).2.marks := by
  rcases s.storeDescriptorAt_cases d now with ⟨e, windows, heq, -⟩ | ⟨windows, heq, hcheck⟩
  · rw [heq]
    exact le_rfl
  · obtain ⟨-, -, hpasses⟩ := checkStore_ok_iff.1 hcheck
    rw [heq]
    intro k
    rw [marks, marks, sequences_write, ExtTreeMap.getElem?_insert]
    split_ifs with hk
    · obtain rfl := LawfulEqCmp.eq_of_compare hk
      cases hmark : s.sequences[dedupKey d]? with
      | none => exact bot_le
      | some seq => exact WithBot.coe_le_coe.2 (UInt64.le_iff_toNat_le.1 (hpasses seq hmark))
    · exact le_rfl

/-- Without the rate limit, a slot takes every valid descriptor that is not older. -/
lemma le_marks_store (hskip : s.skipRateLimit = true) {d : Descriptor} {now : UInt64}
    (hvalid : d.ValidAt now) :
    (rank d : WithBot ℕ) ≤ (s.storeDescriptorAt d now).2.marks (dedupKey d) := by
  have hallows : s.allows d.publisher now = true := by
    rw [allows, if_pos hskip]
  rcases s.storeDescriptorAt_cases d now with ⟨e, windows, heq, hcheck⟩ | ⟨windows, heq, -⟩
  · obtain ⟨seq, hmark, hlt⟩ : ∃ seq, s.sequences[dedupKey d]? = some seq ∧ d.sequence < seq := by
      by_contra hnone
      have hok := checkStore_ok_iff.2 ⟨hvalid, hallows, fun seq hmark =>
        UInt64.not_lt.1 fun hlt => hnone ⟨seq, hmark, hlt⟩⟩
      rw [hok] at hcheck
      cases hcheck
    rw [heq, marks]
    dsimp only
    rw [hmark]
    exact WithBot.coe_le_coe.2 (UInt64.lt_iff_toNat_lt.1 hlt).le
  · rw [heq, marks, sequences_write, ExtTreeMap.getElem?_insert_self]

/-- An eviction before anything expires changes no mark. -/
lemma Stocks.marks_evict (h : Stocks P s slots) {now : UInt64}
    (hlast : ∀ d ∈ P, d.expiredAt now = false) : (s.evictExpiredAt now).marks = s.marks := by
  have hevicted := (h.evict now).represents
  funext k
  cases hk : slots k with
  | none => rw [h.represents.marks_eq_none hk, hevicted.marks_eq_none (by simp [Slots.evict, hk])]
  | some d =>
    have hkept : Slots.evict (·.expiredAt now) slots k = some d :=
      Slots.evict_eq_some_iff.2 ⟨hk, hlast d (h.mem hk)⟩
    rw [h.represents.marks_eq_some hk, hevicted.marks_eq_some hkept]

/-- No call takes back what has not expired. -/
lemma Stocks.marks_le_step (h : Stocks P s slots) {c : StorageCall RedbStorage}
    (hlast : ∀ d ∈ P, ∀ t ∈ callTimes [c], d.expiredAt t = false) :
    s.marks ≤ ((storageMachine RedbStorage).step s c).2.marks := by
  rcases s.step_cases c with ⟨d, now, -, hstep⟩ | ⟨now, -, htime, hstep⟩ |
    ⟨-, -, windows, flag, hstep⟩
  · rw [hstep]
    exact s.marks_le_store d now
  · have hnow : now ∈ callTimes [c] := by simp [callTimes, htime]
    rw [hstep, h.marks_evict fun d hd => hlast d hd now hnow]
  · rw [hstep]
    exact le_rfl

/-- Storage that holds descriptors of `P` and goes on with these keeps what has not expired. -/
lemma Stocks.reaches (hP : Descriptor.NoCollision P) (h : Stocks P s slots)
    {offered : List Descriptor} {times : List UInt64} {s' : RedbStorage}
    (hreaches : Reaches offered times s s') (hoffered : ∀ d ∈ offered, d ∈ P)
    (hlast : ∀ d ∈ P, ∀ t ∈ times, d.expiredAt t = false) :
    ∃ slots', Stocks P s' slots' ∧ s.marks ≤ s'.marks := by
  obtain ⟨calls, hsub, htimes, rfl⟩ := hreaches
  have hcalls : ∀ d ∈ submitted calls, d ∈ P := fun d hd => hoffered d (hsub.subset hd)
  have hlasting : ∀ d ∈ P, ∀ t ∈ callTimes calls, d.expiredAt t = false :=
    fun d hd t ht => hlast d hd t (htimes ht)
  clear hsub htimes
  induction calls using List.reverseRecOn with
  | nil => exact ⟨slots, h, le_rfl⟩
  | append_singleton calls c ih =>
    rw [submitted_append] at hcalls
    rw [callTimes, List.filterMap_append, ← callTimes, ← callTimes] at hlasting
    obtain ⟨slots', hstocks, hle⟩ := ih (fun d hd => hcalls d (List.mem_append_left _ hd))
      fun d hd t ht => hlasting d hd t (List.mem_append_left _ ht)
    have hc : ∀ d now, c.stores = some (d, now) → d ∈ submitted [c] := fun d now hstores =>
      mem_submitted.2 ⟨c, List.mem_singleton_self c, now, hstores⟩
    obtain ⟨slots'', -, hstocks'⟩ := hstocks.step hP c fun d now hstores =>
      hcalls d (List.mem_append_right _ (hc d now hstores))
    rw [Machine.run_concat]
    refine ⟨slots'', hstocks', hle.trans (hstocks.marks_le_step ?_)⟩
    exact fun d hd t ht => hlasting d hd t (List.mem_append_right _ ht)

end RedbStorage

namespace CachedStorage

/-- Behind a call of the cached storage are calls of the storage, at the same times. -/
lemma reaches_inner_step (c : CachedStorage RedbStorage)
    (call : StorageCall (CachedStorage RedbStorage)) :
    Reaches (submitted [call]) (callTimes [call]) c.inner
      ((storageMachine (CachedStorage RedbStorage)).step c call).2.inner := by
  cases call with
  | storeDescriptor d clock =>
    refine ⟨[.storeDescriptor d clock], List.Sublist.refl _, List.Subset.refl _, ?_⟩
    exact (c.afterStore_snd d (storeDescriptor c.inner d clock)).1
  | storeDescriptorAt d now =>
    refine ⟨[.storeDescriptorAt d now], List.Sublist.refl _, List.Subset.refl _, ?_⟩
    exact (c.afterStore_snd d (storeDescriptorAt c.inner d now)).1
  | getDescriptors rk filters clock =>
    change Reaches _ _ c.inner (c.load rk clock).2.inner
    rcases c.load_snd rk clock with heq | heq
    · rw [heq]
      exact .refl _ _ _
    · rw [heq]
      exact .refl _ _ _
  | getDescriptorsAt rk filters now => exact .refl _ _ _
  | evictExpired clock =>
    exact ⟨[.evictExpired clock], List.Sublist.refl _, List.Subset.refl _, rfl⟩
  | evictExpiredAt now =>
    exact ⟨[.evictExpiredAt now], List.Sublist.refl _, List.Subset.refl _, rfl⟩
  | background e =>
    cases e with
    | drop key => exact .refl _ _ _
    | inner e => exact ⟨[.background e], List.Sublist.refl _, List.Subset.refl _, rfl⟩

/-- Behind the cached storage goes on the storage. -/
lemma reaches_inner {offered : List Descriptor} {times : List UInt64}
    {c c' : CachedStorage RedbStorage} (h : Reaches offered times c c') :
    Reaches offered times c.inner c'.inner := by
  obtain ⟨calls, hsub, htimes, rfl⟩ := h
  suffices hrun : Reaches (submitted calls) (callTimes calls) c.inner
      ((storageMachine (CachedStorage RedbStorage)).run c calls).inner by
    obtain ⟨calls', hsub', htimes', heq⟩ := hrun
    exact ⟨calls', hsub'.trans hsub, List.Subset.trans htimes' htimes, heq⟩
  clear hsub htimes
  induction calls using List.reverseRecOn with
  | nil => exact .refl _ _ _
  | append_singleton calls call ih =>
    rw [submitted_append, callTimes, List.filterMap_append, Machine.run_concat]
    exact ih.trans (reaches_inner_step _ call)

end CachedStorage

end Marks

/-! ## A batch -/

section Batch

variable [Crypto] [DescriptorCodec] {P : Set Descriptor} {s : RedbStorage}
  {slots : List UInt8 → Option Descriptor}

namespace RedbStorage

/-- Descriptors of no more slots than fit into a batch all go into it. -/
lemma Stocks.mem_gossipBatch (h : Stocks P s slots) {keys : List (List UInt8)}
    (hkeys : ∀ d ∈ P, dedupKey d ∈ keys) (hfits : keys.length ≤ MAX_GOSSIP_BATCH) {now : UInt64}
    {k : List UInt8} {d : Descriptor} (hd : slots k = some d) (hfresh : d.expiredAt now = false) :
    d ∈ PeerManager.gossipBatch (s.allDescriptors now) := by
  obtain ⟨hnodup, hslot⟩ := h.represents.nodup_allDescriptors now
  have hsubset : (s.allDescriptors now).map dedupKey ⊆ keys := by
    intro k' hk'
    obtain ⟨e, he, rfl⟩ := List.mem_map.1 hk'
    exact hkeys e (h.mem (hslot e he))
  have hlength := (List.subperm_of_subset hnodup hsubset).length_le
  rw [List.length_map] at hlength
  rw [PeerManager.gossipBatch, List.take_of_length_le (hlength.trans hfits)]
  exact mem_allDescriptors ((h.represents.descriptors _ _).2 ⟨k, d, hd, rfl, rfl⟩) hfresh

end RedbStorage

end Batch

/-! ## What a hub takes from a peer -/

section Peer

variable [Crypto] [DescriptorCodec] {κ : Type}

/-- A peer hub's STORE under its own name goes to storage. -/
lemma Hub.handleChecked_of_peer (hub : Hub κ) (msg : Store) (clock : UInt64) :
    hub.handleChecked (.store msg) (some msg.sender) true clock =
      some (some (.storeAck (hub.storeForPeer msg clock).1), (hub.storeForPeer msg clock).2) := by
  have hbound : verifySenderBinding msg.sender (some msg.sender) = .ok () :=
    verifySenderBinding_eq_ok_iff.2 rfl
  unfold handleChecked
  simp only [hbound]

namespace HubRuntime

/-- The marks of the hub's storage. -/
def marks (rt : HubRuntime κ) (k : List UInt8) : WithBot ℕ :=
  match rt.hub.node with
  | some node => node.store.inner.marks k
  | none => ⊥

omit [DescriptorCodec] in
lemma marks_of_node {rt : HubRuntime κ} {node : HubDhtNode} (h : rt.hub.node = some node) :
    rt.marks = node.store.inner.marks := by
  funext k
  rw [marks, h]

variable [SocketAddrParser] [HubMetadataCodec] (Value : Type) [SerdeJson Value]

/-- A hub has what a peer hub has sent it, when it has handled the STORE. -/
lemma le_marks_of_peer {rt : HubRuntime κ} {node : HubDhtNode} (hnode : rt.hub.node = some node)
    {msg : Store} {i : ℕ} (hwaiting : rt.hub.waiting[i]? = some ⟨.store msg, some msg.sender, true⟩)
    {clock : UInt64} (hvalid : msg.descriptor.ValidAt clock) :
    (RedbStorage.rank msg.descriptor : WithBot ℕ) ≤
      (rt.step (.handle i clock : HubTask κ Value)).2.marks (dedupKey msg.descriptor) := by
  let hub : Hub κ := ⟨node, some rt.hub.pm.peers, rt.hub.waiting.eraseIdx i⟩
  have hhandled : (rt.hub.toHub node).handleWaiting i clock =
      some (some (.storeAck (hub.storeForPeer msg clock).1), (hub.storeForPeer msg clock).2) := by
    rw [Hub.handleWaiting, PeeredHub.toHub]
    dsimp only
    rw [hwaiting]
    exact hub.handleChecked_of_peer msg clock
  have hafter : (rt.step (.handle i clock : HubTask κ Value)).2.hub =
      rt.hub.ofHub (hub.storeForPeer msg clock).2 := by
    change (rt.hub.handleWaiting i clock).2 = _
    rw [PeeredHub.handleWaiting, hnode]
    dsimp only
    rw [hhandled]
  have hnode' := congrArg PeeredHub.node hafter
  rw [marks_of_node hnode']
  let skipping : CachedStorage RedbStorage := hub.node.store.setSkipRateLimit true
  have hstored := (skipping.afterStore_snd msg.descriptor
    (skipping.inner.storeDescriptorAt msg.descriptor clock)).1
  have hmarks : (hub.storeForPeer msg clock).2.node.store.inner.marks =
      (skipping.inner.storeDescriptorAt msg.descriptor clock).2.marks := by
    rw [← hstored]
    rfl
  rw [hmarks]
  have hskip : skipping.inner.skipRateLimit = true := rfl
  exact RedbStorage.le_marks_store hskip hvalid

end HubRuntime

end Peer

/-! ## Hubs side by side -/

/-- Some hubs: how they are configured, and what their databases have been through. -/
structure Fleet [Crypto] [DescriptorCodec] (ι : Type) where
  config : ι → HubConfig
  keypair : ι → Keypair
  tenantManager : ι → TenantManager
  earlier : ι → List (StorageCall RedbStorage)

/-- The readings of the clock that matter for a step. -/
def HubTask.clocks {κ Value : Type} : HubTask κ Value → List UInt64
  | .gossip clock _ => [clock]
  | task => task.times

lemma HubTask.times_subset_clocks {κ Value : Type} (task : HubTask κ Value) :
    task.times ⊆ task.clocks := by
  cases task with
  | gossip clock answered => exact List.nil_subset _
  | _ => exact List.Subset.refl _

namespace Fleet

section Runs

variable [Crypto] [DescriptorCodec] [SocketAddrParser] [HubMetadataCodec] {κ Value : Type}
  [SerdeJson Value] {ι : Type} [DecidableEq ι]

/-- The hubs when they start. -/
def start (f : Fleet ι) (i : ι) : HubRuntime κ :=
  .build (f.config i) (f.keypair i) (f.tenantManager i) (HubRuntime.diskAfter (f.earlier i))

/-- The hubs before the `n`-th step. -/
def hubs (f : Fleet ι) (steps : ℕ → ι × HubTask κ Value) (n : ℕ) (i : ι) : HubRuntime κ :=
  Spread.states (HubRuntime.machine κ Value) f.start steps n i

/-- The descriptors that the hub of a step takes to its storage. -/
def takenAt (f : Fleet ι) (steps : ℕ → ι × HubTask κ Value) (n : ℕ) : List Descriptor :=
  (f.hubs steps n (steps n).1).takes (steps n).2

/-- What the hubs were given before and take to their storage. -/
def inPlay (f : Fleet ι) (steps : ℕ → ι × HubTask κ Value) : Set Descriptor :=
  {d | (∃ i, d ∈ submitted (f.earlier i)) ∨ ∃ n, d ∈ f.takenAt steps n}

/-- A gossip round of one hub gets to another one by some later time: it sends to the other, which
handles each of these STOREs after it, and has taken it for that of a peer hub. -/
structure Delivered (f : Fleet ι) (steps : ℕ → ι × HubTask κ Value) (j : ι) (m : ℕ) (k : ι)
    (n : ℕ) : Prop where
  later : m < n
  round : ∃ clock answered, steps m = (j, .gossip clock answered)
  target : ∃ c, ((f.keypair k).identity.did, c) ∈ (f.hubs steps m j).hub.pm.gossipTargets
  handled : ∀ c msg,
    .store (f.keypair k).identity.did c msg ∈ ((f.hubs steps m j).step (steps m).2).1 →
      ∃ l i clock, m < l ∧ l < n ∧ steps l = (k, .handle i clock) ∧
        (f.hubs steps l k).hub.waiting[i]? = some ⟨.store msg, some (f.keypair j).identity, true⟩

/-- A time from which on no new descriptors come in: the databases have some descriptors of `P`, the
hubs take only such to their storage, they stay valid, the latest of each slot is in one of the
databases, and there are not more slots than descriptors in a batch. -/
structure Closing (f : Fleet ι) (steps : ℕ → ι × HubTask κ Value) (P : Set Descriptor) (l n : ℕ) :
    Prop where
  inPlay : P ⊆ f.inPlay steps
  held : ∀ i node, (f.hubs steps l i).hub.node = some node → ∀ (id b : List UInt8),
    node.store.inner.descriptors[id]? = some b → ∃ d ∈ P, DescriptorCodec.toCbor d = b
  taken : ∀ m, l ≤ m → m < n → ∀ d ∈ f.takenAt steps m, d ∈ P
  current : ∀ m, l ≤ m → m < n → ∀ t ∈ (steps m).2.clocks, ∀ d ∈ P, d.ValidAt t
  latest : ∀ d ∈ P, ∃ i, (RedbStorage.rank d : WithBot ℕ) ≤ (f.hubs steps l i).marks (dedupKey d)
  fits : ∃ keys : List (List UInt8), keys.length ≤ MAX_GOSSIP_BATCH ∧ ∀ d ∈ P, dedupKey d ∈ keys

variable {f : Fleet ι} {steps : ℕ → ι × HubTask κ Value} {P : Set Descriptor} {l m m' n : ℕ}
  {i : ι}

lemma hubs_eq_run (h : m ≤ m') :
    f.hubs steps m' i = (HubRuntime.machine κ Value).run (f.hubs steps m i)
      (Spread.stepsOf steps i (List.range' m (m' - m))) := Spread.states_eq_run i h

lemma hubs_eq_run_start :
    f.hubs steps m i = (HubRuntime.machine κ Value).run (f.start i)
      (Spread.stepsOf steps i (List.range' 0 m)) := hubs_eq_run (Nat.zero_le m)

/-- The hubs keep their names and keys. -/
lemma sameConfig : HubRuntime.SameConfig (f.start i) (f.hubs steps m i) := by
  rw [hubs_eq_run_start]
  exact HubRuntime.sameConfig_run _ _

/-- What a hub takes between two times, it takes at its steps. -/
lemma mem_takenBy (h : m ≤ m') {d : Descriptor}
    (hd : d ∈ (f.hubs steps m i).takenBy (Spread.stepsOf steps i (List.range' m (m' - m)))) :
    ∃ x, m ≤ x ∧ x < m' ∧ d ∈ f.takenAt steps x := by
  induction m', h using Nat.le_induction with
  | base =>
    rw [Nat.sub_self] at hd
    cases hd
  | succ m' hle ih =>
    rw [Spread.stepsOf_succ hle] at hd
    have hbefore : d ∈ (f.hubs steps m i).takenBy
        (Spread.stepsOf steps i (List.range' m (m' - m))) →
          ∃ x, m ≤ x ∧ x < m' + 1 ∧ d ∈ f.takenAt steps x := by
      intro hd
      obtain ⟨x, hmx, hx, hd⟩ := ih hd
      exact ⟨x, hmx, hx.trans (Nat.lt_succ_self m'), hd⟩
    split_ifs at hd with hi
    · rw [HubRuntime.takenBy_concat, ← hubs_eq_run hle] at hd
      rcases List.mem_append.1 hd with hd | hd
      · exact hbefore hd
      · refine ⟨m', hle, Nat.lt_succ_self m', ?_⟩
        rw [takenAt, hi]
        exact hd
    · rw [List.append_nil] at hd
      exact hbefore hd

/-- Between two times a hub's storage goes on. -/
lemma reaches_hubs (h : m ≤ m') {node' : HubDhtNode}
    (hnode' : (f.hubs steps m' i).hub.node = some node') :
    ∃ node taken times, (f.hubs steps m i).hub.node = some node ∧
      Reaches taken times node.store.inner node'.store.inner ∧
      (∀ d ∈ taken, ∃ x, m ≤ x ∧ x < m' ∧ d ∈ f.takenAt steps x) ∧
      ∀ t ∈ times, ∃ x, m ≤ x ∧ x < m' ∧ t ∈ (steps x).2.times := by
  rw [hubs_eq_run h] at hnode'
  obtain ⟨node, hnode, hadvances⟩ := HubRuntime.advances_run _ _ node' hnode'
  refine ⟨node, _, _, hnode, reaches_inner hadvances.reaches, fun d hd => mem_takenBy h hd, ?_⟩
  intro t ht
  obtain ⟨task, htask, htimes⟩ := List.mem_flatMap.1 ht
  obtain ⟨x, hx, heq⟩ := Spread.mem_stepsOf.1 htask
  obtain ⟨hle, hlt⟩ := List.mem_range'_1.1 hx
  exact ⟨x, hle, by omega, by rwa [heq]⟩

/-- A hub's lock was not poisoned if it is not poisoned later. -/
lemma alive_before (h : m ≤ m') (halive : (f.hubs steps m' i).hub.node ≠ none) :
    ∃ node, (f.hubs steps m i).hub.node = some node := by
  obtain ⟨node', hnode'⟩ := Option.ne_none_iff_exists'.1 halive
  obtain ⟨node, -, -, hnode, -⟩ := reaches_hubs h hnode'
  exact ⟨node, hnode⟩

/-- The databases hold authentic descriptors that are in play. -/
lemma stocks_inPlay (hcollision : Descriptor.NoCollision (f.inPlay steps)) {node : HubDhtNode}
    (hnode : (f.hubs steps m i).hub.node = some node) :
    ∃ slots, RedbStorage.Stocks (f.inPlay steps) node.store.inner slots := by
  rw [hubs_eq_run_start] at hnode
  have hdisk : (HubRuntime.diskAfter (f.earlier i)).KeepsTo (f.inPlay steps) :=
    RedbStorage.keepsTo_new.run hcollision fun d hd => .inl ⟨i, hd⟩
  have htaken : ∀ d ∈ (f.start i : HubRuntime κ).takenBy
      (Spread.stepsOf steps i (List.range' 0 m)), d ∈ f.inPlay steps := by
    intro d hd
    obtain ⟨x, -, -, hx⟩ : ∃ x, 0 ≤ x ∧ x < m ∧ d ∈ f.takenAt steps x :=
      mem_takenBy (Nat.zero_le m) hd
    exact .inr ⟨x, hx⟩
  obtain ⟨slots, hstocks, -⟩ := (HubRuntime.keepsTo_run hcollision hdisk htaken hnode).inner
  exact ⟨slots, hstocks⟩

namespace Closing

variable (h : f.Closing steps P l n) (hcollision : Descriptor.NoCollision (f.inPlay steps))

include h hcollision

/-- In between, the databases hold descriptors of `P` only. -/
lemma stocks (hl : l ≤ m) (hn : m ≤ n) {node : HubDhtNode}
    (hnode : (f.hubs steps m i).hub.node = some node) :
    ∃ slots, RedbStorage.Stocks P node.store.inner slots := by
  obtain ⟨node₀, offered, times, hnode₀, hreaches, hoffered, htimes⟩ := reaches_hubs hl hnode
  obtain ⟨slots, hstocks⟩ := stocks_inPlay hcollision hnode₀
  have hheld : RedbStorage.Stocks P node₀.store.inner slots := by
    refine ⟨hstocks.represents, ?_, hstocks.authentic⟩
    intro k d hd
    obtain ⟨e, he, heq⟩ := h.held i node₀ hnode₀ _ _
      ((hstocks.represents.descriptors _ _).2 ⟨k, d, hd, rfl, rfl⟩)
    exact RedbStorage.toCbor_injective heq ▸ he
  obtain ⟨slots', hstocks', -⟩ := hheld.reaches (hcollision.mono h.inPlay) hreaches
    (fun d hd => by
      obtain ⟨x, hlx, hx, hd⟩ := hoffered d hd
      exact h.taken x hlx (by omega) d hd)
    (fun d hd t ht => by
      obtain ⟨x, hlx, hx, ht⟩ := htimes t ht
      exact (h.current x hlx (by omega) t ((steps x).2.times_subset_clocks ht) d hd).fresh)
  exact ⟨slots', hstocks'⟩

/-- No hub loses what it has, as long as its lock is not poisoned. -/
lemma grows (hl : l ≤ m) (hm : m ≤ m') (hn : m' ≤ n)
    (halive : (f.hubs steps n i).hub.node ≠ none) :
    (f.hubs steps m i).marks ≤ (f.hubs steps m' i).marks := by
  obtain ⟨node', hnode'⟩ := alive_before hn halive
  obtain ⟨node, offered, times, hnode, hreaches, hoffered, htimes⟩ := reaches_hubs hm hnode'
  obtain ⟨slots, hstocks⟩ := h.stocks hcollision hl (hm.trans hn) hnode
  obtain ⟨-, -, hle⟩ := hstocks.reaches (hcollision.mono h.inPlay) hreaches
    (fun d hd => by
      obtain ⟨x, hmx, hx, hd⟩ := hoffered d hd
      exact h.taken x (hl.trans hmx) (by omega) d hd)
    (fun d hd t ht => by
      obtain ⟨x, hmx, hx, ht⟩ := htimes t ht
      have hclock := (steps x).2.times_subset_clocks ht
      exact (h.current x (hl.trans hmx) (by omega) t hclock d hd).fresh)
  rwa [HubRuntime.marks_of_node hnode, HubRuntime.marks_of_node hnode']

/-- A gossip round that is delivered takes along everything its hub has. -/
lemma conveys {j k : ι} (hl : l ≤ m) (hn : m' ≤ n) (hdelivered : f.Delivered steps j m k m')
    (halive : ∀ i, (f.hubs steps n i).hub.node ≠ none) :
    (f.hubs steps m j).marks ≤ (f.hubs steps m' k).marks := by
  obtain ⟨hm, ⟨clock, answered, hround⟩, ⟨c, htarget⟩, hhandled⟩ := hdelivered
  obtain ⟨node, hnode⟩ := alive_before (hm.le.trans hn) (halive j)
  obtain ⟨slots, hstocks⟩ := h.stocks hcollision hl (hm.le.trans hn) hnode
  obtain ⟨keys, hfits, hkeys⟩ := h.fits
  rw [HubRuntime.marks_of_node hnode]
  intro q
  cases hslot : slots q with
  | none =>
    rw [hstocks.represents.marks_eq_none hslot]
    exact bot_le
  | some d =>
    have hd : d ∈ P := hstocks.mem hslot
    have hfresh : d.expiredAt clock = false := by
      refine (h.current m hl (hm.trans_le hn) clock ?_ d hd).fresh
      rw [hround]
      exact List.mem_singleton_self clock
    have hbatch := hstocks.mem_gossipBatch hkeys hfits hslot hfresh
    have hsent : .store (f.keypair k).identity.did c ((f.hubs steps m j).hub.pm.storeMsg d) ∈
        ((f.hubs steps m j).step (steps m).2).1 := by
      rw [hround]
      refine List.mem_map.2 ⟨((f.keypair k).identity.did, c, _), ?_, rfl⟩
      change _ ∈ ((f.hubs steps m j).hub.step (.gossip clock answered)).1
      rw [PeeredHub.step_gossip hnode]
      change _ ∈ (PeerManager.gossipRound _ _ answered).1
      exact PeerManager.mem_gossipRound.2 ⟨htarget, d, hbatch, rfl⟩
    obtain ⟨x, i, clock', hmx, hx, hstep, hwaiting⟩ := hhandled c _ hsent
    have hsender : ((f.hubs steps m j).hub.pm.storeMsg d).sender = (f.keypair j).identity :=
      sameConfig.identity
    have hvalid : d.ValidAt clock' := by
      refine h.current x (by omega) (by omega) clock' ?_ d hd
      rw [hstep]
      exact List.mem_singleton_self clock'
    have hstored : (RedbStorage.rank d : WithBot ℕ) ≤
        (f.hubs steps (x + 1) k).marks (dedupKey d) := by
      obtain ⟨node', hnode'⟩ := alive_before (hx.le.trans hn) (halive k)
      rw [← hsender] at hwaiting
      rw [hubs, Spread.states_succ_self hstep]
      exact HubRuntime.le_marks_of_peer Value hnode' hwaiting hvalid
    rw [hstocks.represents.marks_eq_some hslot, ← hstocks.represents.key hslot]
    exact hstored.trans (h.grows hcollision (by omega) (by omega) hn (halive k) _)

/-- When each hub has heard from all, the slot of each descriptor has come to the same mark
everywhere, which is the greatest. -/
lemma isLUB_marks (halive : ∀ i, (f.hubs steps n i).hub.node ≠ none) {k : ι}
    (hhears : ∀ i, Spread.Hears (f.Delivered steps) i l k n) :
    IsLUB (Set.range fun i => (f.hubs steps l i).marks) (f.hubs steps n k).marks := by
  refine Spread.isLUB_of_hears (fun m i => (f.hubs steps m i).marks) ?_ ?_ hhears ?_
  · intro j m m' hl hm hn
    exact h.grows hcollision hl hm hn (halive j)
  · intro j m k m' hl _ hn hdelivered
    exact h.conveys hcollision hl hn hdelivered halive
  · intro b hb q
    obtain ⟨node, hnode⟩ := Option.ne_none_iff_exists'.1 (halive k)
    obtain ⟨slots, hstocks⟩ := h.stocks hcollision (hhears k).le le_rfl hnode
    dsimp only
    rw [HubRuntime.marks_of_node hnode]
    cases hslot : slots q with
    | none =>
      rw [hstocks.represents.marks_eq_none hslot]
      exact bot_le
    | some d =>
      obtain ⟨i, hi⟩ := h.latest d (hstocks.mem hslot)
      rw [hstocks.represents.key hslot] at hi
      rw [hstocks.represents.marks_eq_some hslot]
      exact hi.trans (hb ⟨i, rfl⟩ q)

end Closing

/-- Gossip makes hubs agree.  From some time on, let the descriptors of `P` be all that there is,
let them stay valid, and let their slots fit into a batch.  Then whatever else the hubs do, once
each has heard from every other, directly or through others, all of their databases show the same
content at every routing key, and none has an older descriptor in the slot of one of `P`. -/
theorem hubs_agree (f : Fleet ι) (steps : ℕ → ι × HubTask κ Value)
    (hcollision : Descriptor.NoCollision (f.inPlay steps)) (P : Set Descriptor) (l n : ℕ)
    (hclosing : f.Closing steps P l n) (hties : RedbStorage.NoTies P)
    (halive : ∀ i, (f.hubs steps n i).hub.node ≠ none)
    (hhears : ∀ i k, Spread.Hears (f.Delivered steps) i l k n) (i : ι) (node : HubDhtNode)
    (hnode : (f.hubs steps n i).hub.node = some node) :
    (∀ d ∈ P, ∃ seq, node.store.inner.sequences[dedupKey d]? = some seq ∧ d.sequence ≤ seq) ∧
      ∀ k node', (f.hubs steps n k).hub.node = some node' →
        RedbStorage.ShowsContentOf node.store.inner node'.store.inner := by
  have hlub := fun k => hclosing.isLUB_marks hcollision halive fun i => hhears i k
  have hl : l ≤ n := (hhears i i).le
  constructor
  · intro d hd
    obtain ⟨j, hj⟩ := hclosing.latest d hd
    have hle := hj.trans ((hlub i).1 ⟨j, rfl⟩ (dedupKey d))
    rw [HubRuntime.marks_of_node hnode, RedbStorage.marks] at hle
    cases hseq : node.store.inner.sequences[dedupKey d]? with
    | none =>
      rw [hseq] at hle
      exact absurd hle (WithBot.not_coe_le_bot _)
    | some seq =>
      rw [hseq] at hle
      exact ⟨seq, rfl, UInt64.le_iff_toNat_le.2 (WithBot.coe_le_coe.1 hle)⟩
  · intro k node' hnode' rk filters t d hd
    obtain ⟨slots, hstocks⟩ := hclosing.stocks hcollision hl le_rfl hnode
    obtain ⟨slots', hstocks'⟩ := hclosing.stocks hcollision hl le_rfl hnode'
    obtain ⟨hslot, hlisted, hfresh, hadmitted⟩ := hstocks.represents.mem_getDescriptorsAt.1 hd
    have hmarks : node'.store.inner.marks (dedupKey d) = RedbStorage.rank d := by
      rw [← HubRuntime.marks_of_node hnode', (hlub k).unique (hlub i),
        HubRuntime.marks_of_node hnode, hstocks.represents.marks_eq_some hslot]
    obtain ⟨e, hslot'⟩ : ∃ e, slots' (dedupKey d) = some e := by
      rw [← Option.ne_none_iff_exists']
      intro hnone
      rw [hstocks'.represents.marks_eq_none hnone] at hmarks
      exact WithBot.bot_ne_coe hmarks
    rw [hstocks'.represents.marks_eq_some hslot'] at hmarks
    have hrank : RedbStorage.rank e = RedbStorage.rank d := by exact_mod_cast hmarks
    have hkey := hstocks'.represents.key hslot'
    have hid : e.id = d.id := by
      by_contra hne
      exact hties e (hstocks'.mem hslot') d (hstocks.mem hslot) hne hkey
        (UInt64.toNat_inj.1 hrank)
    have hsame := (hcollision.mono hclosing.inPlay).sameContent (hstocks'.mem hslot')
      (hstocks.mem hslot) (hstocks'.authentic hslot') (hstocks.authentic hslot) hid
    refine ⟨e, hstocks'.represents.mem_getDescriptorsAt.2 ?_, hid, hsame⟩
    rw [hkey, hsame.routingKeys, RedbStorage.expiredAt_of_sameContent hsame,
      RedbStorage.admitted_of_sameContent hsame]
    exact ⟨hslot', hlisted, hfresh, hadmitted⟩

end Runs

end Fleet

/-! ## Two hubs -/

/-- The keypair with the secret key `0202…02`, as far as it signs `target`. -/
def secondKeypair : Keypair where
  verifyingKey := ⟨secondPublisher.publicKey, by decide⟩
  signatureOf _ := ⟨target.signature, by decide⟩

namespace Fleet

/-- The hubs of the first and the second publisher; the first has a capability in its database. -/
def pair [Crypto] [DescriptorCodec] : Fleet Bool where
  config _ := { seedPeers := ["203.0.113.7:4433"] }
  keypair second := if second then secondKeypair else firstKeypair
  tenantManager _ := ⟨[]⟩
  earlier second := if second then [] else [.storeDescriptorAt target 1700000000000000]

/-- A seed with the given identity, which knows no other hubs. -/
def replyOf (identity : Identity) : SeedReply Unit where
  dial := .ok ()
  pong := some ⟨identity, .quic "203.0.113.7:4433", .quic "203.0.113.7:4433"⟩
  found := none
  clock := 1700000000000000

/-- A gossip round that is always answered. -/
def gossipTask : HubTask Unit PlainJson := .gossip 1700000000000000 fun _ _ => true

/-- The capability, gossiped by a hub. -/
def gossiped (identity : Identity) : HubTask Unit PlainJson :=
  .request (.store ⟨identity, .quic "0.0.0.0:4433", target⟩) (some identity) 1700000000000000

/-- The request that came in first is handled. -/
def handleFirst : HubTask Unit PlainJson := .handle 0 1700000000000000

/-- Each contacts the other, and then they gossip in turn. -/
def exchange : ℕ → Bool × HubTask Unit PlainJson
  | 0 => (false, .seedPeer (replyOf secondPublisher))
  | 1 => (true, .seedPeer (replyOf firstPublisher))
  | 2 => (false, gossipTask)
  | 3 => (true, gossiped firstPublisher)
  | 4 => (true, handleFirst)
  | 5 => (true, gossipTask)
  | 6 => (false, gossiped secondPublisher)
  | 7 => (false, handleFirst)
  | _ => (false, .consider)

lemma clocks_exchange (n : ℕ) : ∀ t ∈ (exchange n).2.clocks, t = 1700000000000000 := by
  match n with
  | 0 | 1 | 2 | 4 | 5 | 7 => exact fun t ht => List.mem_singleton.1 ht
  | 3 | 6 | _ + 8 => exact fun t ht => absurd ht List.not_mem_nil

section Agreement

local instance : Crypto := cryptoOf [target]
local instance : DescriptorCodec := wireCodec
local instance : HubMetadataCodec := wireMetadata
local instance : SocketAddrParser :=
  PeeredHub.parserOf "203.0.113.7:4433" ⟨.v4 ⟨![203, 0, 113, 7]⟩, 4433⟩

lemma takenAt_exchange (n : ℕ) : ∀ d ∈ pair.takenAt exchange n, d = target := by
  match n with
  | 0 | 1 | 2 | 3 | 5 | 6 | _ + 8 => exact fun d hd => absurd hd List.not_mem_nil
  | 4 =>
    have htaken : pair.takenAt exchange 4 = [target] := by decide +kernel
    rw [htaken]
    exact fun d hd => List.mem_singleton.1 hd
  | 7 =>
    have htaken : pair.takenAt exchange 7 = [target] := by decide +kernel
    rw [htaken]
    exact fun d hd => List.mem_singleton.1 hd

lemma inPlay_exchange : pair.inPlay exchange ⊆ {target} := by
  rintro d (⟨second, hd⟩ | ⟨n, hd⟩)
  · cases second with
    | true => cases hd
    | false => exact List.mem_singleton.1 hd
  · exact takenAt_exchange n d hd

lemma noCollision_target : Descriptor.NoCollision ({target} : Set Descriptor) := by
  have hlist : Descriptor.NoCollision {d | d ∈ [target]} :=
    Descriptor.noCollision_of_list (by decide +kernel)
  exact hlist.mono fun d hd => List.mem_singleton.2 hd

lemma closing_pair : pair.Closing exchange {target} 0 8 := by
  refine ⟨?_, ?_, ?_, ?_, ?_, ?_⟩
  · rintro d rfl
    exact .inl ⟨false, List.mem_singleton_self _⟩
  · intro i node hnode id b hrow
    have hrows : ((pair.hubs exchange 0 i).hub.node.elim [] fun node =>
        node.store.inner.descriptors.toList.map Prod.snd) ⊆ [DescriptorCodec.toCbor target] := by
      cases i <;> decide +kernel
    rw [hnode] at hrows
    have hmem := hrows (List.mem_map_of_mem (ExtTreeMap.mem_toList_iff_getElem?_eq_some.2 hrow))
    exact ⟨target, rfl, (List.mem_singleton.1 hmem).symm⟩
  · exact fun m _ _ d hd => takenAt_exchange m d hd
  · rintro m - - t ht d rfl
    rw [clocks_exchange m t ht]
    exact Descriptor.validate_eq_ok_iff.1 (by decide +kernel)
  · rintro d rfl
    exact ⟨false, by decide +kernel⟩
  · refine ⟨[dedupKey target], by decide, ?_⟩
    rintro d rfl
    exact List.mem_singleton_self _

lemma delivered_there : pair.Delivered exchange false 2 true 5 := by
  refine ⟨by decide, ⟨_, _, rfl⟩, ⟨(), by decide +kernel⟩, ?_⟩
  intro c msg hsent
  have houtputs : ((pair.hubs exchange 2 false).step (exchange 2).2).1 = [.store
      secondPublisher.did () ⟨firstPublisher, .quic "0.0.0.0:4433", target⟩] := by
    decide +kernel
  rw [houtputs] at hsent
  obtain ⟨-, -, rfl⟩ := HubOutput.store.inj (List.mem_singleton.1 hsent)
  exact ⟨4, 0, 1700000000000000, by decide, by decide, rfl, by decide +kernel⟩

lemma delivered_back : pair.Delivered exchange true 5 false 8 := by
  refine ⟨by decide, ⟨_, _, rfl⟩, ⟨(), by decide +kernel⟩, ?_⟩
  intro c msg hsent
  have houtputs : ((pair.hubs exchange 5 true).step (exchange 5).2).1 = [.store
      firstPublisher.did () ⟨secondPublisher, .quic "0.0.0.0:4433", target⟩] := by
    decide +kernel
  rw [houtputs] at hsent
  obtain ⟨-, -, rfl⟩ := HubOutput.store.inj (List.mem_singleton.1 hsent)
  exact ⟨7, 0, 1700000000000000, by decide, by decide, rfl, by decide +kernel⟩

/-- The second hub ends with the capability of the first. -/
theorem pair_agrees :
    ∃ node node', (pair.hubs exchange 8 false).hub.node = some node ∧
      (pair.hubs exchange 8 true).hub.node = some node' ∧
        RedbStorage.ShowsContentOf node.store.inner node'.store.inner := by
  have hties : RedbStorage.NoTies {target} := by
    rintro d rfl e rfl hne
    exact absurd rfl hne
  have halive : ∀ i, (pair.hubs exchange 8 i).hub.node ≠ none := by
    intro i
    rw [← Option.isSome_iff_ne_none]
    cases i <;> decide +kernel
  have hhears : ∀ i k, Spread.Hears (pair.Delivered exchange) i 0 k 8 := by
    have hself : ∀ i m, Spread.Hears (pair.Delivered exchange) i 0 i m :=
      fun i m => .wait .self (Nat.zero_le m)
    intro i k
    cases i with
    | false =>
      cases k with
      | false => exact hself _ _
      | true => exact .wait (.pass (hself false 2) (by decide) delivered_there) (by decide)
    | true =>
      cases k with
      | false => exact .pass (hself true 5) (by decide) delivered_back
      | true => exact hself _ _
  obtain ⟨node, hnode⟩ := Option.ne_none_iff_exists'.1 (halive false)
  obtain ⟨node', hnode'⟩ := Option.ne_none_iff_exists'.1 (halive true)
  have hagree := hubs_agree pair exchange (noCollision_target.mono inPlay_exchange) {target} 0 8
    closing_pair hties halive hhears false node hnode
  exact ⟨node, node', hnode, hnode', hagree.2 true node' hnode'⟩

end Agreement

end Fleet

end MeshProtocol
