import MeshProtocol.Core.Reference
import MeshProtocol.Hub.PeerManager

/-!
# What gossip replicates

A gossip round sends the first `MAX_GOSSIP_BATCH` of the live descriptors, in the order of the
table, to every connected peer.  It keeps no note of what it has sent, so the next round sends the
same ones.

`replicated_iff`: while the live descriptors stay the same, a connected peer is sent a set of them
in the course of the rounds exactly if all of them are among the first ones.
-/

namespace MeshProtocol

open Std Bytes

/-! ## The live descriptors -/

namespace RedbStorage

variable [DescriptorCodec]

lemma mem_allDescriptors {s : RedbStorage} {d : Descriptor} {now : UInt64}
    (hd : s.descriptors[hashBytes d.id]? = some (DescriptorCodec.toCbor d))
    (hfresh : d.expiredAt now = false) : d ∈ s.allDescriptors now := by
  rw [allDescriptors, List.mem_filter, List.mem_filterMap, hfresh]
  exact ⟨⟨_, ExtTreeMap.mem_toList_iff_getElem?_eq_some.2 hd, DescriptorCodec.fromCbor_toCbor d⟩,
    Bool.not_false⟩

/-- The table of descriptors that were written one after the other, none under the id of another. -/
lemma getElem?_foldl_insertNew [Crypto] {ds : List Descriptor}
    (hids : (ds.map Descriptor.id).Nodup) {d : Descriptor} (hd : d ∈ ds) :
    (ds.foldl insertNew new).descriptors[hashBytes d.id]? = some (DescriptorCodec.toCbor d) := by
  induction ds using List.reverseRecOn with
  | nil => cases hd
  | append_singleton ds e ih =>
    rw [List.map_append, List.nodup_append] at hids
    obtain ⟨hids, -, hapart⟩ := hids
    rw [List.foldl_append, List.foldl_cons, List.foldl_nil, insertNew]
    by_cases he : d = e
    · rw [he]
      exact ExtTreeMap.getElem?_insert_self
    · have hmem : d ∈ ds := by simpa [he] using hd
      rw [ExtTreeMap.getElem?_insert, if_neg]
      · exact ih hids hmem
      · rw [LawfulEqCmp.compare_eq_iff_eq, hashBytes_inj]
        exact (hapart d.id (List.mem_map_of_mem hmem) e.id (by simp)).symm

end RedbStorage

/-! ## One round -/

namespace PeerManager

variable {κ : Type}

lemma mem_gossipTargets {pm : PeerManager κ} {did : String} {c : κ} :
    (did, c) ∈ pm.gossipTargets ↔
      ∃ p, pm.peers[did]? = some p ∧ p.status = .connected ∧ p.connection = some c := by
  simp only [gossipTargets, List.mem_filterMap, Prod.exists]
  constructor
  · rintro ⟨did', p, hmem, hp⟩
    split at hp
    · rename_i hstatus
      obtain ⟨c', hc, heq⟩ := Option.map_eq_some_iff.1 hp
      obtain ⟨rfl, rfl⟩ := Prod.mk.inj heq
      exact ⟨p, ExtTreeMap.mem_toList_iff_getElem?_eq_some.1 hmem, hstatus, hc⟩
    · cases hp
  · rintro ⟨p, hp, hstatus, hc⟩
    refine ⟨did, p, ExtTreeMap.mem_toList_iff_getElem?_eq_some.2 hp, ?_⟩
    rw [if_pos hstatus, hc]
    rfl

/-- A round sends the whole batch to each target. -/
lemma mem_gossipRound {pm : PeerManager κ} {descriptors : List Descriptor}
    {answered : String → ℕ → Bool} {did : String} {c : κ} {msg : Store} :
    (did, c, msg) ∈ (pm.gossipRound descriptors answered).1 ↔
      (did, c) ∈ pm.gossipTargets ∧ ∃ d ∈ gossipBatch descriptors, pm.storeMsg d = msg := by
  simp only [gossipRound, List.mem_flatMap, List.mem_map, Prod.exists, Prod.mk.injEq]
  constructor
  · rintro ⟨did', c', htarget, d, hd, rfl, rfl, hmsg⟩
    exact ⟨htarget, d, hd, hmsg⟩
  · rintro ⟨htarget, d, hd, hmsg⟩
    exact ⟨did, c, htarget, d, hd, rfl, rfl, hmsg⟩

/-- A round keeps the targets of the next one: it counts failures, and nothing else changes. -/
lemma gossipTargets_gossipRound {pm : PeerManager κ} {descriptors : List Descriptor}
    {answered : String → ℕ → Bool} {did : String} {c : κ} (h : (did, c) ∈ pm.gossipTargets) :
    (did, c) ∈ (pm.gossipRound descriptors answered).2.gossipTargets := by
  rw [mem_gossipTargets] at h ⊢
  rw [gossipRound]
  dsimp only
  generalize pm.gossipTargets = targets
  generalize pm.peers = peers at h ⊢
  induction targets generalizing peers with
  | nil => exact h
  | cons t targets ih =>
    apply ih
    obtain ⟨p, hp, hstatus, hc⟩ := h
    rw [ExtTreeMap.getElem?_modify]
    split
    · rename_i heq
      rw [LawfulEqCmp.compare_eq_iff_eq.1 heq, hp]
      exact ⟨_, rfl, hstatus, hc⟩
    · exact ⟨p, hp, hstatus, hc⟩

/-- A health check that every peer answers keeps them, too. -/
lemma gossipTargets_healthCheck {pm : PeerManager κ} {did : String} {c : κ}
    (h : (did, c) ∈ pm.gossipTargets) :
    (did, c) ∈ (pm.healthCheck fun _ => .pong).gossipTargets := by
  rw [mem_gossipTargets] at h ⊢
  obtain ⟨p, hp, hstatus, hc⟩ := h
  have hpinged : pinged p .pong = p.afterPong := by
    unfold pinged
    rw [hc]
  refine ⟨p.afterPong, ?_, rfl, hc⟩
  rw [getElem?_healthCheck, hp, Option.map_some, if_neg (by simp [hstatus]), hpinged]

end PeerManager

/-! ## Rounds without end -/

namespace PeeredHub

section Rounds

variable [Crypto] [DescriptorCodec] [SocketAddrParser] {κ : Type}

lemma step_gossip {h : PeeredHub κ} {node : HubDhtNode} (hnode : h.node = some node)
    (clock : UInt64) (answered : String → ℕ → Bool) :
    h.step (.gossip clock answered) =
      ((h.pm.gossipRound (node.store.inner.allDescriptors clock) answered).1,
        { h with
          pm := (h.pm.gossipRound (node.store.inner.allDescriptors clock) answered).2
          node := some node }) := by
  rw [step, runGossipRound, hnode]

/-- The state before the `n`-th step of an infinite run. -/
def stateAt (h : PeeredHub κ) (steps : ℕ → PeeringStep κ) (n : ℕ) : PeeredHub κ :=
  machine.run h ((List.range n).map steps)

lemma stateAt_succ (h : PeeredHub κ) (steps : ℕ → PeeringStep κ) (n : ℕ) :
    h.stateAt steps (n + 1) = ((h.stateAt steps n).step (steps n)).2 := by
  rw [stateAt, List.range_succ, List.map_append, List.map_singleton, Machine.run_concat]
  rfl

/-- The `n`-th step sends a descriptor to a peer in a STORE. -/
def SentTo (h : PeeredHub κ) (steps : ℕ → PeeringStep κ) (n : ℕ) (did : String) (d : Descriptor) :
    Prop :=
  ∃ c msg, (did, c, msg) ∈ ((h.stateAt steps n).step (steps n)).1 ∧ msg.descriptor = d

/-- A run in which gossip goes on, the store has the same live descriptors at every round, and a
peer stays connected. -/
structure Undisturbed (h : PeeredHub κ) (steps : ℕ → PeeringStep κ) (live : List Descriptor)
    (did : String) : Prop where
  goes_on : ∀ n, ∃ m ≥ n, ∃ clock answered, steps m = .gossip clock answered
  unchanged : ∀ n clock answered, steps n = .gossip clock answered →
    ∃ node, (h.stateAt steps n).node = some node ∧ node.store.inner.allDescriptors clock = live
  connected : ∀ n clock answered, steps n = .gossip clock answered →
    ∃ c, (did, c) ∈ (h.stateAt steps n).pm.gossipTargets

namespace Undisturbed

variable {h : PeeredHub κ} {steps : ℕ → PeeringStep κ} {live : List Descriptor} {did : String}

/-- A gossip round sends the peer the first live descriptors. -/
lemma sentTo_of_gossip (hrun : h.Undisturbed steps live did) {n : ℕ} {clock : UInt64}
    {answered : String → ℕ → Bool} (hstep : steps n = .gossip clock answered) {d : Descriptor}
    (hd : d ∈ live.take MAX_GOSSIP_BATCH) : h.SentTo steps n did d := by
  obtain ⟨node, hnode, hlive⟩ := hrun.unchanged n clock answered hstep
  obtain ⟨c, htarget⟩ := hrun.connected n clock answered hstep
  refine ⟨c, (h.stateAt steps n).pm.storeMsg d, ?_, rfl⟩
  rw [hstep, step_gossip hnode, PeerManager.mem_gossipRound, hlive]
  exact ⟨htarget, d, hd, rfl⟩

/-- Nothing else is ever sent. -/
lemma mem_take_of_sentTo (hrun : h.Undisturbed steps live did) {n : ℕ} {did' : String}
    {d : Descriptor} (hsent : h.SentTo steps n did' d) : d ∈ live.take MAX_GOSSIP_BATCH := by
  obtain ⟨c, msg, hmem, rfl⟩ := hsent
  cases hstep : steps n with
  | gossip clock answered =>
    obtain ⟨node, hnode, hlive⟩ := hrun.unchanged n clock answered hstep
    rw [hstep, step_gossip hnode, PeerManager.mem_gossipRound, hlive] at hmem
    obtain ⟨-, d, hd, rfl⟩ := hmem
    exact hd
  | _ =>
    rw [hstep] at hmem
    cases hmem

/-- After some number of rounds every member of a set of descriptors has been sent to the peer
exactly if all of them are among the first live descriptors. -/
theorem replicated_iff (hrun : h.Undisturbed steps live did) (D : Set Descriptor) :
    (∃ n, ∀ d ∈ D, ∃ m < n, h.SentTo steps m did d) ↔
      ∀ d ∈ D, d ∈ live.take MAX_GOSSIP_BATCH := by
  constructor
  · rintro ⟨n, hsent⟩ d hd
    obtain ⟨m, -, hm⟩ := hsent d hd
    exact hrun.mem_take_of_sentTo hm
  · intro hfirst
    obtain ⟨m, -, clock, answered, hstep⟩ := hrun.goes_on 0
    exact ⟨m + 1, fun d hd => ⟨m, Nat.lt_succ_self m, hrun.sentTo_of_gossip hstep (hfirst d hd)⟩⟩

/-- More descriptors than fit into a batch are not all replicated. -/
lemma not_replicated (hrun : h.Undisturbed steps live did) {ds : List Descriptor} (hds : ds.Nodup)
    (hmany : MAX_GOSSIP_BATCH < ds.length) :
    ¬ ∃ n, ∀ d ∈ ds, ∃ m < n, h.SentTo steps m did d := by
  rintro ⟨n, hsent⟩
  have hfirst : ds ⊆ live.take MAX_GOSSIP_BATCH := by
    intro d hd
    obtain ⟨m, -, hm⟩ := hsent d hd
    exact hrun.mem_take_of_sentTo hm
  have hlength := (List.subperm_of_subset hds hfirst).length_le
  rw [List.length_take] at hlength
  omega

end Undisturbed

/-- Gossip rounds and answered health checks disturb nothing. -/
lemma undisturbed_of_rounds {h : PeeredHub κ} {node : HubDhtNode} (hnode : h.node = some node)
    {clock : UInt64} {did : String} {c : κ} (htarget : (did, c) ∈ h.pm.gossipTargets)
    {steps : ℕ → PeeringStep κ}
    (hrounds : ∀ n, (∃ answered, steps n = .gossip clock answered) ∨
      steps n = .healthCheck fun _ => .pong)
    (hgossip : ∀ n, ∃ m ≥ n, ∃ answered, steps m = .gossip clock answered) :
    h.Undisturbed steps (node.store.inner.allDescriptors clock) did := by
  have hstate : ∀ n, (h.stateAt steps n).node = some node ∧
      (did, c) ∈ (h.stateAt steps n).pm.gossipTargets := by
    intro n
    induction n with
    | zero => exact ⟨hnode, htarget⟩
    | succ n ih =>
      obtain ⟨hnode', htarget'⟩ := ih
      rw [stateAt_succ]
      rcases hrounds n with ⟨answered, hstep⟩ | hstep
      · rw [hstep, step_gossip hnode']
        exact ⟨rfl, PeerManager.gossipTargets_gossipRound htarget'⟩
      · rw [hstep]
        exact ⟨hnode', PeerManager.gossipTargets_healthCheck htarget'⟩
  refine ⟨fun n => ?_, fun n clock' answered' hstep => ?_, fun n _ _ _ => ⟨c, (hstate n).2⟩⟩
  · obtain ⟨m, hm, answered, hstep⟩ := hgossip n
    exact ⟨m, hm, clock, answered, hstep⟩
  · refine ⟨node, (hstate n).1, ?_⟩
    rcases hrounds n with ⟨answered, hround⟩ | hround
    · obtain ⟨rfl, -⟩ := PeeringStep.gossip.inj (hround.symm.trans hstep)
      rfl
    · cases hround.symm.trans hstep

end Rounds

/-! ## A catalog that fits into a batch, and one that does not -/

/-- A hub that is connected to the second publisher's, with some descriptors in its tables. -/
def stockedHub [Crypto] [DescriptorCodec] (ds : List Descriptor) : PeeredHub Unit :=
  let addr := NodeAddr.quic "198.51.100.1:4433"
  let peers : Peers Unit := (∅ : Peers Unit).insert secondPublisher.did (.outgoing ())
  let hub : Hub Unit :=
    .build firstPublisher addr {} ⟨[]⟩ {} (ds.foldl RedbStorage.insertNew .new) none
  ⟨⟨firstPublisher, addr, peers, 8, []⟩, some hub.node, []⟩

lemma mem_gossipTargets_stockedHub [Crypto] [DescriptorCodec] (ds : List Descriptor) :
    (secondPublisher.did, ()) ∈ (stockedHub ds).pm.gossipTargets := by
  rw [PeerManager.mem_gossipTargets]
  exact ⟨.outgoing (), ExtTreeMap.getElem?_insert_self, rfl, rfl⟩

/-- Gossip at one time, always answered. -/
def gossipOnly (_ : ℕ) : PeeringStep Unit := .gossip 1700000000000000 fun _ _ => true

lemma undisturbed_gossipOnly [Crypto] [DescriptorCodec] [SocketAddrParser] (ds : List Descriptor) :
    (stockedHub ds).Undisturbed gossipOnly
      ((ds.foldl RedbStorage.insertNew .new).allDescriptors 1700000000000000)
      secondPublisher.did := by
  have hnode : (stockedHub ds).node = some _ := rfl
  exact undisturbed_of_rounds hnode (mem_gossipTargets_stockedHub ds) (fun _ => .inl ⟨_, rfl⟩)
    fun n => ⟨n, le_rfl, _, rfl⟩

/-- A health check and a gossip round in turn. -/
def inTurn (n : ℕ) : PeeringStep Unit :=
  if n % 2 = 0 then .healthCheck fun _ => .pong else gossipOnly n

/-- A capability and a revocation are replicated between health checks. -/
theorem pair_replicated :
    letI : Crypto := cryptoOf [target, ownRevocation]
    letI : DescriptorCodec := wireCodec
    letI : SocketAddrParser := ⟨fun _ => .error "invalid socket address syntax"⟩
    ∃ n, ∀ d ∈ ({target, ownRevocation} : Set Descriptor), ∃ m < n,
      (stockedHub [target, ownRevocation]).SentTo inTurn m secondPublisher.did d := by
  let _ : Crypto := cryptoOf [target, ownRevocation]
  let _ : DescriptorCodec := wireCodec
  let _ : SocketAddrParser := ⟨fun _ => .error "invalid socket address syntax"⟩
  have hnode : (stockedHub [target, ownRevocation]).node = some _ := rfl
  have hrounds : ∀ n, (∃ answered, inTurn n = .gossip 1700000000000000 answered) ∨
      inTurn n = .healthCheck fun _ => .pong := by
    intro n
    rcases Nat.mod_two_eq_zero_or_one n with heven | hodd
    · exact .inr (if_pos heven)
    · exact .inl ⟨fun _ _ => true, if_neg (by omega)⟩
  have hrun := undisturbed_of_rounds hnode (mem_gossipTargets_stockedHub _) hrounds
    fun n => ⟨2 * n + 1, by omega, fun _ _ => true, if_neg (by omega)⟩
  refine (hrun.replicated_iff {target, ownRevocation}).2 ?_
  rintro d (rfl | rfl)
  · decide +kernel
  · decide +kernel

/-- Ids, hashed slots and signatures of 51 capabilities of the second publisher, whose topics are
the numbers from 0 on. -/
def catalogRows : List (ℕ × ℕ × ℕ) := [
  (0xba354eb6bb65f7325605cf7af2d913a8165169e9637ce93cdcf509778068dd42,
    0xa61f9790036f1f66062fb6c98ed764a06983d6162f22162efc2fbe220ca4800e,
    0x738991991ad1f4cb15c3c92dd10c8a9ded508d148c05fe4dff6922a38643927c0380f416faf069c63d8e17d4f4e0a7a2fb826406ba79727f4f1a155c2be11d01),
  (0xa228d01a51d0395e1ddb7339e992a30d06851ef7cc2632a510d2ba4faa207e64,
    0xf6f2600b93094d7273b2da7aa29dff8f75871964db9132ba372a0a0c4b31d6c1,
    0x1a3a579246b0bd234ea2f14070a929c7b630af0dee71b0ecaac638699d5c5548db49ac2ca61ace63aa1e531c08f92b7b7ab0ed059a63035ac6671bf91351470b),
  (0xab2e13d39bf64efded8a69a7f6f8564d1990192fb6e759db867cab468882df3f,
    0xf8bbf14eacea30730e39d68af9449eb4ddc5fe05de2d8acc8f5e8bdb17da2fa3,
    0xe211c43e11dd242bdd0f28364bc55ac6ff125249fb7ba07fbea7f700ba5beb88492221e7272417c38f2fec2407c321d57fee0ed045fc6eb45be52c3a4063a405),
  (0x4ebc14a91590d92072814a8969fc0a5067f6c893787ab3da668d02c56671894c,
    0x232f6943892d8d6fbcc2b4c816325c86f279a6814f5c95f476605ee840cfc6e8,
    0x8bc759d5007bb5d6fb5758227c9a3338dd87fa7e83be66c2c406d546319b7c3a50419e59a059d1919d387072fea21f23e6782f8d03744696ebc2f5a02718d002),
  (0x7a44ed9eddc2398018c6cdb3737b5135eec7b7bafba056dce2ec7230112e12f0,
    0x214c2dfbbb54b2234f821bf313bed6184a4137f5e4f5a7d14ce1f51bdc8cb674,
    0x55e174476db9c521ebf098269ce6599f3406a6bba9ecb8868b10cffad9239b1293c9ff3748f03176b60950dbb9f76a3f57f1db39304052b62a721e02607e9e0a),
  (0xbe2dbd8fc320d93da294e1217d866afad79ffe21d290c78c1e762f2a730e323d,
    0xde78f53d0c10fec5dc54d9a0f84847fb360aed4f695ce064b3435cfbaaf80c03,
    0xcb5adac6e32f83d35634b7e3ac8ef2dee2940685186a27e0cc3b9685fa3f959356f59b4420ab7933b06e6cfcd8314027a1f9f8f672e7b1807eaf3fc4abaca30c),
  (0x2438ae24c8042db26d4997ce9bd314323aef48e5419637e70de9416495101fb7,
    0xee7af683283348ce0024eabc906a21313eb084ea8d65a9ede47a275ac32dd33b,
    0x87afe82ff07a63a40da48e80cbfcf80c538e38275d7baa42905b49f5425c1eaa6ed48cb60275b1b43f1f1162391a98d84e4fe69c8930394b470c052657e34304),
  (0x5311cc4bf2fa5a574f68d64528b74df0673afd0483b5ad1e3f839aedc609f0df,
    0x50bbff9a50fd55c67144c695b3f47c791b7be1d86d214d649d443790f1aca506,
    0x03d5075c283337ab079214bfc5bdae35d9898cc6a749b4a47b1cc6b4fb2cbba65acaaa016d4d5c7b5bd79e352072ba1c6d24e77d8f32965508171271422ab20d),
  (0x1ef7b0a6d10e6c886a613176fa24dd402c0f645f98eef010d497511d0e7ea235,
    0x1f14099f78fc2e0bfe499752ff4241f14bca71cefef95906e3dc5e44a6ba362f,
    0x29c32d90e39da641e4c95f00aecd71e0a2d0c36d298a9dba467626becab3fcb5e3c22a3b6974b259c16c5927d5c058fddf6d6b020f544269ce16ea089034570f),
  (0x522c3122b1cca8aeac2de82019e96a646f67cb774b63ac486f25d7fca538d6ef,
    0x7f69ac1ec0adea7bc68151e89df373dad367196b0f9e2aa540e125a8be24a870,
    0x6a4eec8f2a911c949e3518cb739d36301895177e7a9a4e64b88059c3a65468f44e2ae50a162ef80cce9a5712233e209ea92b8ac107cc4a3329c86b817f350e05),
  (0xe00c6e4727dddbf2031e71d73e4c35f3b70eb883e8df0a6acfba86d233912784,
    0x426d456a715f197fe73abd3aad06269902063f6c294abc3e51fa45e8c0b2619d,
    0x3bbb8edfd1c9fed02edda8e49103d2da74ac0fdb044a192525bd7c125d467abdcc1456624429e649b70b9bb3c9e8f5997614ce694c160adec4f038fa0cd83b08),
  (0xadf2567c302f337af2a5ae37d9ccfbe0c658cb5a6fac0951f2fc287b35e9578c,
    0x0a80bf2a75a0a71f7c0ee258fa6ebe3d6b2ff97004292ae3afee931fc3df5e7c,
    0x1222a53e0f8af90e1550805ab4d99d09e8dee683cfad0a737182e12b7181100ffaed54857917d80b569a884dd509fb17dee2ec4ff92b82d2e4a0750dfe25af0c),
  (0x6888db5247111d51a4a302dd740046d263d7609a1c48070eb654736be643af6f,
    0xfd8056c86cde6cb8915fe93aad753521603bce3de9e80b9775b419a23b15b5ca,
    0xacc881550f02f7c91fc294d390e7564ae2d1c3143fea91000ec73d30f7e31dfa5c1fac98cbabf65633a82bc8d0102281839ff368e383580aa25a61ceb430740e),
  (0x60c355dd7b403e61f7bdb4bc953dbc8a3da94ebb398f8f0be3c131cf97931f03,
    0xb1f3b3b4c8a599a7a19a50681a6e10dd858ca0df10cf00c76a055f7d5b99d9e8,
    0x9257366cb0b3aea220429dcff59d04070e311e518718b8a43286c7d2b919bf873a542911c1a9643b3a2620023c210dffe92d4c798c28a9411f89bf5719c1b009),
  (0x811825c9d8a6999d5b093b1746a089d79146e1505166dfc80239549e6974e4aa,
    0x37270991159439aac579f3a55edb0203684f9113be368912cb2286d92cff80b7,
    0x73db4506e983797a4ca1b1ffe9185dc688a2d7d654f08779f75c8c1df0be00e3766f6922d555df415a05c04de45aa06964dbcd8eb027baad6663fdc63962e204),
  (0xadcdb11d02afdeb1b8a9da8aa9ffc2b2e9db639678d3f26144cb332067529a55,
    0x898482d6e6060d9a2b776943617605d16adb70a982e373eb579c07b9722191cd,
    0x3922d4e6766968fad8f9bfdd90a21c0a8d9e471353efe5ba4eaf6a38df4f917a16bb9f2a220762b9964659fa2284e80e31cca24e9509c6325d3137377f22de06),
  (0x5bd4501eebf2bc9ffa2f54f90c135c705c52e4aff2a8422fcbffeb46150db3f2,
    0x7e46682e7129bc03e8084311384b45979d796b5cd62b25cdc3f1e8cb04ede894,
    0x14efa5eee178855fc7ef3bf109e9dd0ca9df26f0f3923877e3d57923bdc6e25c47f065fa7995d1d13c459ae46afea78a9c73f1b881ff606c49d2f29a09878407),
  (0xbaaa5b5d0037a0493b6a1cd2ec01dbb6373c71b629f2a73c50af9846ef20f594,
    0x3ce2884723896c2c326f098999b4b242ff74399b57f27a7a940ba38a592ec4bd,
    0xf7d4a3b6dbfef8b2574ab572644c2462dc4cab4336924c1a15cca082680f4002b34e15266520d2f1fd50b8d2941a3da6f53e3a78d46187a024d17b633fa7010c),
  (0x03af1fa3f0ccee7d74cc4279c12aa9e9eb4a9bf07cb10f11d2c27c981223a4ac,
    0x839e1461772185803d8c36558d89ac0985dd20d5c0cb08036f0382b580348919,
    0x71cbff271c7f79c756d6297c043688794b114ca3c41d5802c257fc6b94c3a8e6cb52e2d734d99a35d77ce41609fe86398628d60547de1df5dab5e16eeca1640f),
  (0x7cf154cc25aa6d9d27f2833e025c3c54866938aace1fc967c80240bcf91fff5f,
    0xcc6c3a3deb2ec020509039132aaa076c7374dee9716fa5ddadebaa5a618ca998,
    0xdb66d4e6bae369b92af84a758528d1aefd3e04b53e2a1a289d39c83c77fedfba44b82aa8e7d645a22d04ddfd7595f6e97669d231d4ad4906092bbd985290f50a),
  (0x8f99c95b81ea2b15add887c6ce2999be2271ce4c8ed9e4d4a9312421705968f3,
    0x8362cf0285d160a52b1e365704c6b45cdb2a3bf710f200a1674b6f740279f4f2,
    0xb59fdab127c93058427aedfc9850e2966b9eb6e6b2a1423fd76258568f9cf9d15b6acf99f5d190ae22ee3721b53089adc74f987a45c63a02ac7393d7a3e59400),
  (0xc52b74d99cf8b191f1870a5442707ea5aedaba88f8158c291334f333f1274de6,
    0xb9eccad9dd0a1da7cbb2bf67fb4e65119ef399084afd81aa1e0df52cb41eb602,
    0x7c41464ee574048188bbdb45786d235891a200c0b4b13a9da8e718228179af8c656870c16370edf5dc1225367cbc9da8e74155fd0e65bbc5e65b9e435c06870c),
  (0xc76e2d4a90e27afcb8502e3851b0b2caff21e5e23092c2549adbcfd7eeb89636,
    0x08155c8e8054a942b8bb8c2000410fc19cf046651b5706952cad58d815e415f8,
    0x58697f330b19dc6dec79e95082986e814b550d5e58199b4bb4d784b05dd59cdcddf896fc6727331e8f6d49eae498b5c08adafa512452a1cd10eb93ca6c35da0c),
  (0x6ebf3226a4819331793665f55cb790463b6c4455df6ed03743a9053009c69773,
    0x70fee798bb70390bcfaa025bd6b89d2d94d13d56829a9c7e758bb42f9bf48623,
    0xfd76513214099df43f92dd45e3d2afd3efb70f576f7d1226a09ba94e0516daa53d72b0578550c7e0b83418567d1f9523e288e4d4119c44fce2b2f7cbddf0e909),
  (0x688f5c5494e14ac2e49c7e83bda08a9407435c1d4ad8e481d0fe99eec7a71904,
    0x05371847adc1af80700e3122c44e0c33204d9044f245e4361e3c0fe439080d56,
    0x967fe14412d0df4031ce45eb63588ce5fadc35c6955e90222251c0b86040255b142e17c5b9bfb965ef5eaf466b87ecf8a1b27dea91255994d5e55e3664b66300),
  (0x47c50193a94d93fccd1c70cea20d68c9ddda0fc4a19d79787492f88b9377f977,
    0xac42d3961aeb2fdebf526b10a9e11d5d1c0ff8e2aadd1bd32b00dfbfaffc2590,
    0x1ff8bf9bf743c22037116a781eb6a379791f79b0db0d37e2b8984a7296eeebea390c690104c68a7c9adf23b5f64753e5347c6d3706fc840fe216a093a3e50807),
  (0xf9238dc03da8f500e9a76417b6c110777dbda01a52181c0ab3a1c60d3f378dc8,
    0x6026d7a60d4f3b0c0da9056021f823353f7df1c6c36c615bc3782dba190aea01,
    0x2cbf50f60b00b7763259e2ae3c0d8409557f2f03802ab8277ab71f1cde7937126f2f4493f94551a3a282fd1917a4a48661253b8d9890303d0178d86d5d95d600),
  (0xa0e7f0c382349cb67fc093d776e57910d8bf55641f643bdce1f309db4867c30b,
    0x3b9b0ee76c18c082e545df3529041be86202549e1a6fc0a635ade2172f050240,
    0x288b6d8c36327a1f576540b31f13a7d02d68bc2b40d6ad7b85805436359a11f96701b25e545f61f7ed71b16e70d7643362307c378a81b9c0c3e3c94e37df6a04),
  (0xe5d0df92c07c63ab98c5b7cb8f66b0f9d3998f44a51541c546adc5f1953ccebd,
    0x963257fefd4b475607c873eb8a500881fb3def52ef3c4d4749b2c71a69f1c5a9,
    0x41934aa8b3044618130a15578024824d8ae57b77850ad8584ec74508d666c36b72a996e6b0bb07d658654e67b10afc1e6dafc1034f914a4ad95ce18b273bab0b),
  (0x5ef59d5a90257175cf12c880afb28872cf6b6ec0eaeeea1c5f72392eb9593616,
    0x0910a9b1f3c11934efcb490fb5a24863b937714c968d392af460e31c5fa9de1e,
    0xf4a8a3cb1d65bb3250fc5dd6c317dcaf221b0b883b0072892a4534ed0f67eddb815dcf4b79a408eb85185cf482dc78381cf8e6e1e4e0ce651194d80104950f07),
  (0xb9e54cb5a2920d1a7dccbe7677ac076fd36dd20b6e3075b71f0f69a2806f044d,
    0x498b8cee7573b968fd8b39b96f15490e151b1b92408855883788130b0865cce3,
    0x0c13520d3d1cd6bd2f55d75f91b6ba3014ec71c4f739fa81b29356d8d86a207bc2f24347dec2bbe124169668b2141d57e880f2db4759b9e34f91ba6e9d295d02),
  (0x953ae8f3269087cc1d2f091e08f234be58b6df49e49c5157ed1748973f108f3d,
    0x30c18f2c666484e90968817d9b1a795b7f572d3af9409014c0b1bc846fe5e479,
    0x0ca3cef11bff8f2aa670fe422e4f9cd314192e833a6595a36269e88cb55a7da3efc5a6bf719d3ec5ce63d05151da116f456edf3b1e702feb98daaac08d3b740e),
  (0x06957f985d0f1ef05b27f2a0fca026af70daaacd71d32675df286bd613252397,
    0xaa18f6f2754b4e33e2bbdfad9a683c3f1444feb2d2226464c37ef00008a15f3d,
    0xda7f7aa790e2b40bf933f872374141601d80ffa45f11872922c00830c6566f4d1b0d010ac23fe655e9b1e686d21ad5de060a481925cf0d134e7e4c865a5a9709),
  (0xc0cdadcec8cc9e3301015cd54d6577da89315e4aff25843df55c2b8c51c2e7e1,
    0x51f96487ba45797651342dd3dccc07dedad87c4336f6cfde5cba99826e3140db,
    0x4f0ee83a6ad11d0fe656cef84ca30a5699d955b048f9ea2e678f0db16868f8820410141f774634a30fc7d6b4157c52f73eb4230fe4155068fdbd0fbb85ae9a02),
  (0xd9b11c935643e795836417e32a1636041e48d1e0a3a84eed57c8a6b83efac270,
    0xd0a9169319fba58b6baa3a6d2a901020ff9752dfddcc5a3b386a1d3cb8649437,
    0x94a5b1277932265d3ebb1fa868aaf395c23b0b1df3c1706a6a2e6f4589e842ebf8437b7cdc55af402c4ab24ad1e749a1d475c998c3d6f25e825b14cab21c6404),
  (0xb044eb4ea92adff558d2512932a05938542cb08c06a0093487de764b8ae03a04,
    0x53ffe3be31fd800ae376d3e225e773abb41923950dd76f13ac79aba6b6f7cca0,
    0x289bdfacfa18ff258ada2c44c2ff1b72e7b1ef5d4e2b5ae9e6b8ea4eac52fbcdf2a9ea0c51ca35dd67a02454d2dd09606ce243c35fad575ae2e907d69d419d0e),
  (0x0fd2fb56e17e2d6e6f8e15db0a54dd3b1d5d817757cd654ffb953b2b5aaf9820,
    0x2dfa98643663d3b8d44f75a89ccda163539617300a7d26bf692b4b2784f99ece,
    0x7b3184e179c0a0dc8487283a1a6a55c499a7b6675cdbb22c34c29f5b907358dd8824b6dcdf8efdde57b0dbae00e967fe66e3c7540bf21bef0e3b8eac02afac08),
  (0x2059fb6c7c761831843f964d09fc9d68e832d95a8899b6028a7c0288619f5935,
    0xcdc7652f70652f27aec4b842bf88a4275576090abf6ddca71ab0b26fac5f2701,
    0xb0142e21f4b5dcf8f74d21ec34c4da8524ce7f5ff40d60f46ee957aae7de4e0145d06adb65cabb5d700ebf215aea87b69101cbf7175d08445c0a38f30477430b),
  (0xd9474f27a837680ee206498d87b09ba6f88717a945e0a3a3213a38caae91aedb,
    0x524b42a38849c4c57157e19a0ca8503088fcc0f0462bd635cd8246decf383648,
    0xc447aa2629a622c4ca538b2a870a05192594fb7ffd38ddd269ed82c88a4fbb6befc02896a3e028bd84a5096d222655f1dedb9b3e88dc3024ff2af0a38cb79503),
  (0x8115f3a23a464d48fd35e4de7cf769dc2b8cb59b1ec5bf0c81ae6d57ad912e75,
    0xdf3206c4491adec548d55074b75b32e273f91259e973b27f80c97c86adc09707,
    0x37fba0920d1b67141c93eaa2e913bd42ee694e68632e5a4bc4ce29e4a76ea046cb17378cd085bbef6533e3af49dab86075320048f84f4088c9d14a9e58a5d00d),
  (0x94c1471db1ff5876f611cf816d0ffbc51c250f4a08db367a0d13004bef8ad164,
    0x1aca14213e1a432a2dfbb4efef137e7cf3bc50cf0387af478a33b693fbb20af5,
    0xf48fa045ea4916d18859349169216d0a19af637c812d3fe707d51bb7379fae15353b4440bf6ffbec8678d7e6313628c428d8adf3661495cec55405b5d2cad70b),
  (0x301f39a1aa882338b16faa8ea6e96b060b80e846c5d76cca0d5bdb87e568e2ea,
    0xeb5c4379211f9cc6f653b0ed2c1ac9d166eeeada1ad1e3cd58fbd966f0d6e00e,
    0xaa20125657ea94ca8cd44187c40df69603c88916a0bf97a311eda34ea2946039dc49d95e8f1565ab74d2ee56f4eb1a8d47b84b70118db61f73bc5b28b7e6de0b),
  (0xfb1d5bd4964dfcc1169c08304b399cf063b7db42e8f411586e8fbabfbf45f09f,
    0x639226379e5849774b8ece093435920cb9a9d7840a040c64a34942d490866bf9,
    0x4872f54fae80552d39c7326e8f48d211761610fabdbcc07803d2025d1b6ab22cf32ab603fce3abcb75ae16b9432afbf423c548850000e3b1f7d38d3b4cfa840d),
  (0x3568fad44d058a4e3652767eb2a8dd24cc86d2d520f0060c5406a146c1b3593e,
    0x670846f527a6a2934b8cef8de7207e4327f169ee7280f68e5443ed6bd6879291,
    0x02ccf9c0f66cd9770c54495ea7c34cf943a7c1056f444d6cdb3ea17c352f7055185827b81126f44baa89fad9b37b5a343a1d1ef6babb8ca33d7f0151089a6f0e),
  (0x08236ae96d709d966f4dc39477d26a623bfd6e80b90754048a112d90f115e205,
    0xf518712b9a0da6d4011bd975893409d6290f25d580fdad09cfd48340a7048df4,
    0x2b94a5d6b68ecc475220c09de3a524e9af00d94a21b57a9c8adff4535dbeef5bcbbab4b982893947ec9ca68d784a26b9daf1e2228fb35ea24265f8bbfdf21909),
  (0x9af048f4a10547674a6b3a10aafd83341f0aca8d931997a674002f264fd73764,
    0x0247d4c168626b2e75545dc0ee27a1379e719bc8c1a4f0371981be721d05cce3,
    0x3f504dd480a3fcdf8eaa2c0714b0d36392e7d779580bc8074671fb51f2129c2840203291f42329680f299347192da7d252d48b0fb7becc09e1fcaa2c9ed4ec0a),
  (0x723535c7d20278b9c84c57fc0fa9ca7aeaa64f28662ebe2d8cc2b029f9bf522b,
    0xcbafbbb324216999724d45944cc886578537ee579e1225dcebc5557cac1342f3,
    0x10091c803150ece70d1e1130db22a737cb83d66e644365513a2ad9ab75d5c96116a6635fdb288e9c67e1dcbcde1aa06eb971e7102e5dbd7128301ecaff91040b),
  (0x1989a3d6ebf73c5707bc77a73e6490eacb5145d39465d62c5b6545cdaf48eac5,
    0x3bc4d4c8f399125e83eed98170ed1b7b61ff21bdd6c25f46c6998c029fd623fe,
    0xb1fd2497b759af25a339b8c9577bed2409499f00615cb6c15b0b01b1415dfd91744bf86a9a96a312bf9e7aa7a7912cd627513f671cfeedc374fc5c4141835d01),
  (0xf06305148800834136791fc4de7793609ba6e209903b3279bec9f89caa63651b,
    0x5c46d11a4b581cacbd039fe998677d075f6ef57223ae3754eb91c1ec7265753b,
    0x8814499b677a0f23e7969104b8b827767a0a549e7b679a2ff4e3cacb8adabcdbb2dd221048956bbfdb5f9c92d1593b2ceb1847a803f1efc3c3df04163a56090f),
  (0x573d11b615e11c31bf80ac896667ed7915bf681db781abeff3a69fec8bf4154e,
    0xe6e58a6ed47bc099fef22a855ff468872fac8733dfeb8f17a7f2c826e7dc705e,
    0xc5725aabd22bb91c4ec21de77c28e5a3c41d057a7bfcaabef5b241613750dbc4ef430079711d89fffaa54dc82f7f30a16536690d5f2f78cdcbe656b2aea1f20a),
  (0xc1642e49656d08b76c40a48610aeee951f3d619af6eaa1dbd13fd6f6476a0ce0,
    0x3dba3cee1de45aa65616d8d656a7ece92efea0e8a9eaf29097a73f5b233c6cd2,
    0x68a67e74e641987031629abdccc3c67b9e69e9b5ef2f64bb9cca2ae9da90402ac110248f764359f10c8bfc1f04d4f5891b12db2d13acccdb7d6ae560a7b6da06)]

/-- The topic of a number. -/
def numeral (n : Fin 51) : String := String.ofList (Nat.toDigits 10 n)

lemma length_numeral (n : Fin 51) : (utf8Bytes (numeral n)).length < 2 ^ 64 := by
  revert n
  decide +kernel

/-- A capability of the catalog. -/
def catalogEntry (n : Fin 51) (id signature : ℕ) : Descriptor where
  schemaHash := capabilitySchema
  topic := numeral n
  payload := []
  publisher := secondPublisher
  timestamp := 1700000000000000
  sequence := 1
  ttl := 3600
  routingKeys := [computeKey]
  id := hashOf id
  signature := beBytes 64 signature
  fit := by
    refine ⟨by decide, length_numeral n, by decide, by decide, by decide, by decide, ?_, ?_⟩
    · rw [hashOf, (digestOf id).property]
      decide
    · rw [length_beBytes]
      decide

/-- The capabilities of the catalog. -/
def catalog : List Descriptor :=
  (catalogRows.zip (List.finRange 51)).map
    fun ((id, _, signature), n) => catalogEntry n id signature

/-- BLAKE3 on the slots of the catalog. -/
@[reducible] def catalogCrypto : Crypto :=
  tableCrypto ((catalogRows.zip (List.finRange 51)).map fun ((_, slot, _), n) =>
    (slotBytes secondPublisher capabilitySchema ++ utf8Bytes (numeral n), digestOf slot)) []

lemma length_catalogRows : catalogRows.length = 51 := by rfl

lemma length_catalog : catalog.length = 51 := by
  rw [catalog, List.length_map, List.length_zip, List.length_finRange, length_catalogRows]
  exact Nat.min_self 51

lemma map_id_catalog : catalog.map Descriptor.id = catalogRows.map fun row => hashOf row.1 := by
  have hrows : (catalogRows.zip (List.finRange 51)).map Prod.fst = catalogRows :=
    List.map_fst_zip (by rw [List.length_finRange, length_catalogRows])
  calc catalog.map Descriptor.id
      = ((catalogRows.zip (List.finRange 51)).map Prod.fst).map fun row => hashOf row.1 := by
        rw [catalog, List.map_map, List.map_map]
        exact List.map_congr_left fun _ _ => rfl
    _ = catalogRows.map fun row => hashOf row.1 := congrArg (List.map _) hrows

lemma nodup_catalog_ids : (catalog.map Descriptor.id).Nodup := by
  rw [map_id_catalog]
  decide +kernel

lemma catalog_fresh {d : Descriptor} (hd : d ∈ catalog) : d.expiredAt 1700000000000000 = false := by
  have htarget : target.expiredAt 1700000000000000 = false := by decide +kernel
  obtain ⟨⟨⟨id, slot, signature⟩, n⟩, -, rfl⟩ := List.mem_map.1 hd
  rw [← htarget, Descriptor.expiredAt, Descriptor.expiredAt]
  rfl

/-- The capability with the greatest id of a catalog of 51 is never sent. -/
theorem catalog_not_replicated :
    letI : Crypto := catalogCrypto
    letI : DescriptorCodec := wireCodec
    letI : SocketAddrParser := ⟨fun _ => .error "invalid socket address syntax"⟩
    (∀ d ∈ catalog, d ∈ (catalog.foldl RedbStorage.insertNew .new).allDescriptors
        1700000000000000) ∧
      ¬ ∃ n, ∀ d ∈ catalog, ∃ m < n,
        (stockedHub catalog).SentTo gossipOnly m secondPublisher.did d := by
  let _ : Crypto := catalogCrypto
  let _ : DescriptorCodec := wireCodec
  let _ : SocketAddrParser := ⟨fun _ => .error "invalid socket address syntax"⟩
  have hrun := undisturbed_gossipOnly catalog
  constructor
  · intro d hd
    exact RedbStorage.mem_allDescriptors (RedbStorage.getElem?_foldl_insertNew nodup_catalog_ids hd)
      (catalog_fresh hd)
  · refine hrun.not_replicated nodup_catalog_ids.of_map ?_
    rw [length_catalog, MAX_GOSSIP_BATCH]
    decide

end PeeredHub

end MeshProtocol
