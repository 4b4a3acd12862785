import MeshProtocol.Core.Reference
import MeshProtocol.Hub.Runtime

/-!
# Clients that make themselves peers

A hub takes the sender of a request for a peer hub when its own storage shows an advertisement of
the sender's DID under `infrastructure/hub`.  Anyone's descriptor can be stored under that routing
key, so a client can put itself there, and its later STOREs pass neither policy nor rate limits.

`clients_pass_policy`: as long as no client with such an advertisement sends a request, no request
of a client is treated as a peer's, and what clients store passes the policy.
-/

namespace MeshProtocol

open Bytes DescriptorStorage

namespace Hub

section Crypto

variable {κ : Type} [Crypto] [DescriptorCodec]

/-! ## What the properties are about -/

/-- The hub's storage shows an advertisement of an identity. -/
def Advertises (hub : Hub κ) (pid : Identity) (clock : UInt64) : Prop :=
  ∃ d ∈ (hub.hubDescs clock).1, d.publisher.did = pid.did

/-- A request that does not come from an advertised identity. -/
def FromUnadvertised (hub : Hub κ) : Step → Prop
  | .request _ (some pid) clock => ¬ hub.Advertises pid clock
  | _ => True

/-- A request that is not treated as a peer's. -/
def NotPromoted (hub : Hub κ) : Step → Prop
  | .request _ peerIdentity clock => (hub.isPeerHub peerIdentity clock).1 = false
  | _ => True

/-- If the step handles a STORE and accepts it, the policy allows the descriptor at this moment. -/
def PassesPolicy (policy : PolicyConfig) (hub : Hub κ) (s : Step) : Prop :=
  ∀ i clock checked storeReq ack hub', s = .handle i clock → hub.waiting[i]? = some checked →
    checked.request = .store storeReq →
    hub.handleWaiting i clock = some (some (.storeAck ack), hub') → ack.stored = true →
    ∃ hook, hub.node.hooks = some hook ∧ hook.policy = policy ∧
      hook.checkStore storeReq.descriptor = .ok ()

/-- The step is no request of one of the given peers. -/
def OfClient (peers : Peers κ) : Step → Prop
  | .request _ (some pid) _ => pid.did ∉ peers
  | _ => True

/-- A property of every step of a run, at the hub that takes it. -/
def EachStep (start : Hub κ) (steps : List Step) (P : Hub κ → Step → Prop) : Prop :=
  ∀ pre s hub, pre ++ [s] <+: steps → (machine κ).run (some start) pre = some hub → P hub s

/-! ## What a step keeps -/

/-- The hub has its hook, with the policy, knows no peers but the given ones, and has taken none of
the requests that wait for a peer's. -/
structure Intact (policy : PolicyConfig) (peers : Peers κ) (hub : Hub κ) : Prop where
  hooked : hub.node.Hooked fun hook => hook.policy = policy
  known : ∃ now, hub.peers = some now ∧ ∀ did ∈ now, did ∈ peers
  unpromoted : ∀ checked ∈ hub.waiting, checked.isPeerHub = false

variable {policy : PolicyConfig} {peers : Peers κ}

omit [DescriptorCodec] in
lemma hookInvariant_policy : DhtNode.HookInvariant fun hook : HubProtocolHook =>
    hook.policy = policy where
  preStore d clock hp := by
    obtain ⟨rateLimiter, heq⟩ := HubProtocolHook.preStore_snd _ d clock
    rw [heq]
    exact hp
  postStore _ hp := hp
  preQuery _ _ hp := hp
  postQuery _ _ hp := hp

/-- Finding out who sends a request leaves the hooks alone, and the peers too if it is no peer. -/
lemma isPeerHub_snd (hub : Hub κ) (peerIdentity : Option Identity) (clock : UInt64) :
    (hub.isPeerHub peerIdentity clock).2.node.hooks = hub.node.hooks ∧
      ((hub.isPeerHub peerIdentity clock).1 = false →
        (hub.isPeerHub peerIdentity clock).2.peers = hub.peers) := by
  unfold isPeerHub
  split
  · split_ifs
    · exact ⟨rfl, fun _ => rfl⟩
    · dsimp only [recognize]
      split_ifs
      · exact ⟨rfl, fun h => by cases h⟩
      · exact ⟨rfl, fun _ => rfl⟩
  · exact ⟨rfl, fun _ => rfl⟩

/-- A client of an intact hub is taken for a peer exactly if it is advertised. -/
lemma isPeerHub_iff {hub : Hub κ} (hub_intact : hub.Intact policy peers) {pid : Identity}
    (hclient : pid.did ∉ peers) (clock : UInt64) :
    (hub.isPeerHub (some pid) clock).1 = false ↔ ¬ hub.Advertises pid clock := by
  obtain ⟨now, hnow, hknown⟩ := hub_intact.known
  have habsent : now[pid.did]? = none :=
    Std.ExtTreeMap.getElem?_eq_none fun hmem => hclient (hknown _ hmem)
  have hlook : hub.isPeerHub (some pid) clock = hub.recognize now pid clock := by
    simp [isPeerHub, hnow, habsent]
  rw [hlook, recognize, Advertises]
  split_ifs with h <;> simp [h]

/-- An intact hub dispatches a request that waits as an ordinary node does. -/
lemma Intact.dispatched {hub hub' : Hub κ} (h : hub.Intact policy peers) {i : ℕ} {clock : UInt64}
    {checked : CheckedRequest} (hchecked : hub.waiting[i]? = some checked)
    {response : Option Response} (hhandled : hub.handleWaiting i clock = some (response, hub')) :
    ∃ node, hub.node.dispatchRequest checked.request checked.peerIdentity clock =
        some (response, node) ∧
      hub' = { hub with node, waiting := hub.waiting.eraseIdx i } := by
  rcases handleWaiting_cases hhandled with ⟨hnone, -⟩ | ⟨checked', hchecked', hanswer⟩
  · rw [hchecked] at hnone
    cases hnone
  · obtain rfl := Option.some.inj (hchecked.symm.trans hchecked')
    rw [h.unpromoted checked (List.mem_of_getElem? hchecked), handleChecked_false] at hanswer
    obtain ⟨⟨response', node⟩, hdispatch, heq⟩ := Option.map_eq_some_iff.1 hanswer
    obtain ⟨rfl, rfl⟩ := Prod.mk.inj heq
    exact ⟨node, hdispatch, rfl⟩

/-- A step that promotes nobody keeps the hub intact. -/
lemma Intact.step {hub : Hub κ} (h : hub.Intact policy peers) {s : Step}
    (hs : hub.NotPromoted s) {hub' : Hub κ} (heq : (Hub.step (some hub) s).2 = some hub') :
    hub'.Intact policy peers := by
  cases s with
  | request request peerIdentity clock =>
    obtain ⟨hhooks, hpeers⟩ := hub.isPeerHub_snd peerIdentity clock
    obtain rfl := Option.some.inj heq
    obtain ⟨hook, hhook, hpolicy⟩ := h.hooked
    obtain ⟨now, hnow, hknown⟩ := h.known
    refine ⟨⟨hook, hhooks.trans hhook, hpolicy⟩, ⟨now, (hpeers hs).trans hnow, hknown⟩, ?_⟩
    intro checked hchecked
    simp only [receive, waiting_isPeerHub] at hchecked
    rcases List.mem_append.1 hchecked with hold | hnew
    · exact h.unpromoted checked hold
    · obtain rfl := List.mem_singleton.1 hnew
      exact hs
  | handle i clock =>
    cases hhandled : hub.handleWaiting i clock with
    | none =>
      rw [Hub.step, hhandled] at heq
      cases heq
    | some answer =>
      obtain ⟨response, hub''⟩ := answer
      rw [Hub.step, hhandled] at heq
      obtain rfl := Option.some.inj heq
      rcases handleWaiting_cases hhandled with ⟨-, -, rfl⟩ | ⟨checked, hchecked, -⟩
      · exact h
      · obtain ⟨node, hdispatch, rfl⟩ := h.dispatched hchecked hhandled
        refine ⟨DhtNode.dispatchRequest_hooked hookInvariant_policy h.hooked hdispatch, h.known, ?_⟩
        exact fun checked' hmem => h.unpromoted checked' (List.mem_of_mem_eraseIdx hmem)
  | storage call =>
    obtain rfl := Option.some.inj heq
    exact ⟨h.hooked, h.known, h.unpromoted⟩
  | tenants tenantManager =>
    obtain rfl := Option.some.inj heq
    obtain ⟨hook, hhook, hpolicy⟩ := h.hooked
    refine ⟨⟨{ hook with tenantManager }, ?_, hpolicy⟩, h.known, h.unpromoted⟩
    rw [hhook, Option.map_some]
  | tick instant =>
    obtain rfl := Option.some.inj heq
    obtain ⟨hook, hhook, hpolicy⟩ := h.hooked
    refine ⟨⟨{ hook with instant }, ?_, hpolicy⟩, h.known, h.unpromoted⟩
    rw [hhook, Option.map_some]

/-- What an intact hub stores passes the policy. -/
lemma Intact.passesPolicy {hub : Hub κ} (h : hub.Intact policy peers) (s : Step) :
    hub.PassesPolicy policy s := by
  rintro i clock checked storeReq ack hub' rfl hchecked hrequest hhandled hstored
  obtain ⟨node, hdispatch, -⟩ := h.dispatched hchecked hhandled
  obtain ⟨hook, hhook, hpolicy⟩ := h.hooked
  rw [hrequest] at hdispatch
  unfold DhtNode.dispatchRequest at hdispatch
  split at hdispatch
  case h_1 => cases hdispatch
  case h_2 =>
    obtain ⟨⟨ack', node'⟩, hack, heq⟩ := Option.map_eq_some_iff.1 hdispatch
    obtain ⟨hresponse, -⟩ := Prod.mk.inj heq
    obtain rfl : ack' = ack := by simpa using hresponse
    have hpre := (DhtNode.handleStore_hooked hookInvariant_policy hhook hpolicy hack).2 hstored
    exact ⟨hook, hhook, hpolicy, HubProtocolHook.checkStore_of_preStore hpre⟩

/-! ## Runs -/

/-- A client of an intact hub is promoted exactly if it is advertised. -/
lemma Intact.notPromoted_iff {hub : Hub κ} (h : hub.Intact policy peers) {s : Step}
    (hclient : OfClient peers s) : hub.NotPromoted s ↔ hub.FromUnadvertised s := by
  cases s with
  | request request peerIdentity clock =>
    cases peerIdentity with
    | none =>
      have hnobody : (hub.isPeerHub none clock).1 = false := by
        unfold isPeerHub
        split
        case h_1 hnone => cases hnone
        case h_2 => rfl
      simp [NotPromoted, FromUnadvertised, hnobody]
    | some pid => exact isPeerHub_iff h hclient clock
  | handle i clock => rfl
  | storage call => rfl
  | tenants tenantManager => rfl
  | tick instant => rfl

omit [DescriptorCodec] in
lemma intact_build {identity : Identity} {addr : NodeAddr} {tenantManager : TenantManager}
    {rateLimit : RateLimitConfig} {storage : RedbStorage} :
    (build identity addr policy tenantManager rateLimit storage (some peers)).Intact policy peers :=
  ⟨⟨_, rfl, rfl⟩, ⟨peers, rfl, fun _ h => h⟩, fun _ h => absurd h List.not_mem_nil⟩

/-- What holds of the steps of a run holds of those of its beginning. -/
lemma EachStep.of_prefix {start : Hub κ} {steps pre : List Step} {P : Hub κ → Step → Prop}
    (h : start.EachStep steps P) (hpre : pre <+: steps) : start.EachStep pre P := by
  intro pre' s hub hmem hrun
  exact h pre' s hub (hmem.trans hpre) hrun

/-- A hub stays intact along a run in which nobody is promoted. -/
lemma Intact.run {start hub : Hub κ} (h : start.Intact policy peers) {steps : List Step}
    (hsteps : start.EachStep steps NotPromoted)
    (hrun : (machine κ).run (some start) steps = some hub) : hub.Intact policy peers := by
  induction steps using List.reverseRecOn generalizing hub with
  | nil =>
    obtain rfl : start = hub := Option.some.inj hrun
    exact h
  | append_singleton pre s ih =>
    rw [Machine.run_concat] at hrun
    cases hpre : (machine κ).run (some start) pre with
    | none =>
      rw [hpre] at hrun
      cases hrun
    | some before =>
      rw [hpre] at hrun
      have hshort := hsteps.of_prefix (List.prefix_append pre [s])
      exact (ih hshort hpre).step (hsteps pre s before List.prefix_rfl hpre) hrun

/-- In a run without advertised senders nobody is promoted. -/
lemma Intact.notPromoted_of_unadvertised {start : Hub κ} (h : start.Intact policy peers)
    {steps : List Step} (hclients : ∀ s ∈ steps, OfClient peers s)
    (hsteps : start.EachStep steps FromUnadvertised) : start.EachStep steps NotPromoted := by
  refine Machine.prefix_induction (P := fun steps => start.EachStep steps NotPromoted) ?_ ?_
  · intro pre s hub hmem
    simp at hmem
  · intro pre s hmem ih pre' s' hub hmem' hrun
    cases Machine.step_of_concat hmem' with
    | inr hlast =>
      obtain ⟨rfl, rfl⟩ := hlast
      have hub_intact := h.run ih hrun
      have hclient := hclients s' (hmem.subset (by simp))
      exact (hub_intact.notPromoted_iff hclient).2 (hsteps pre' s' hub hmem hrun)
    | inl hshort => exact ih pre' s' hub hshort hrun

/-- In every run of requests of clients, nobody is treated as a peer and everything stored passes
the policy, exactly if no request comes from a client that the hub's own storage shows as a hub. -/
theorem clients_pass_policy (identity : Identity) (addr : NodeAddr) (policy : PolicyConfig)
    (tenantManager : TenantManager) (rateLimit : RateLimitConfig) (storage : RedbStorage)
    (peers : Peers κ) (steps : List Step) (hclients : ∀ s ∈ steps, OfClient peers s) :
    let start := build identity addr policy tenantManager rateLimit storage (some peers)
    start.EachStep steps (fun hub s => hub.NotPromoted s ∧ hub.PassesPolicy policy s) ↔
      start.EachStep steps FromUnadvertised := by
  intro start
  have start_intact : start.Intact policy peers := intact_build
  constructor
  · intro h pre s hub hmem hrun
    have hpre : start.EachStep pre NotPromoted := by
      intro pre' s' hub' hmem' hrun'
      have hshort := hmem'.trans ((List.prefix_append pre [s]).trans hmem)
      exact (h pre' s' hub' hshort hrun').1
    have hclient := hclients s (hmem.subset (by simp))
    exact ((start_intact.run hpre hrun).notPromoted_iff hclient).1 (h pre s hub hmem hrun).1
  · intro h pre s hub hmem hrun
    have hall := start_intact.notPromoted_of_unadvertised hclients h
    have hs := hall pre s hub hmem hrun
    have hpre := hall.of_prefix ((List.prefix_append pre [s]).trans hmem)
    exact ⟨hs, (start_intact.run hpre hrun).passesPolicy s⟩

end Crypto

/-! ## A client that does -/

/-- A capability of the second publisher under the routing key of hub advertisements. -/
def ownAdvertisement : Descriptor where
  schemaHash := capabilitySchema
  topic := ""
  payload := []
  publisher := secondPublisher
  timestamp := 1700000000000000
  sequence := 1
  ttl := 3600
  routingKeys := [hubKey]
  id := hashOf 0xf81799529097f90a234e37ea89e6cb9e3fa8afe1c2fba13355bb3e9b3548f87b
  signature := beBytes 64
    0x551d4fded3a6f6b39972164413eede0d607bc3af8140ba19d6dcba981abb47977509bde6cbfa64119ebf6ed20f25294ba7c06eaa477330a95fa78c51a1982a01

/-- A capability of the third publisher. -/
def unwanted : Descriptor where
  schemaHash := capabilitySchema
  topic := ""
  payload := []
  publisher := thirdPublisher
  timestamp := 1700000000000000
  sequence := 1
  ttl := 3600
  routingKeys := [computeKey]
  id := hashOf 0x63d97ebceda700fab6d41f3b464f7098e2fb303878aef27c59798ca4b2d77e7c
  signature := beBytes 64
    0xaa51d0504ab62ef524559ee8ced7d04c6a040ca3a8e99932dee937b1cdaea8962df7f40b3812620f73f3d567d8701add20dcc528873d28fa8344f253ffa13b05

section Example

variable [Crypto] [DescriptorCodec]

/-- A hub for everyone but the third publisher. -/
def exceptThird : PolicyConfig := { blockedIdentities := [thirdPublisher.did] }

/-- The hub with this policy and with the given peers, before it has stored anything. -/
def openHub (peers : Peers Unit) : Hub Unit :=
  build firstPublisher (.quic "198.51.100.1:4433") exceptThird ⟨[]⟩ {} .new (some peers)

/-- The second publisher sends a STORE. -/
def storeBySecond (d : Descriptor) : Step :=
  .request (.store ⟨secondPublisher, .quic "198.51.100.2:4433", d⟩) (some secondPublisher)
    1700000000000000

/-- The request that came in first is handled. -/
def handleFirst : Step := .handle 0 1700000000000000

end Example

/-- The advertisement itself is stored by the rules, while the third publisher is a peer. -/
theorem ownAdvertisement_passes_policy :
    letI : Crypto := cryptoOf [ownAdvertisement, unwanted]
    letI : Ciborium := referenceCiborium
    letI : DescriptorCodec := wireCodec
    let peers : Peers Unit := (∅ : Peers Unit).insert thirdPublisher.did (.outgoing ())
    (openHub peers).EachStep [storeBySecond ownAdvertisement, handleFirst] fun hub s =>
      hub.NotPromoted s ∧ hub.PassesPolicy exceptThird s := by
  let _ : Crypto := cryptoOf [ownAdvertisement, unwanted]
  let _ : Ciborium := referenceCiborium
  let _ : DescriptorCodec := wireCodec
  intro peers
  have hclient : secondPublisher.did ∉ peers := by decide +kernel
  refine (clients_pass_policy _ _ exceptThird _ _ _ peers
    [storeBySecond ownAdvertisement, handleFirst]
    (by simpa [storeBySecond, handleFirst, OfClient] using hclient)).2 ?_
  intro pre s hub hmem hrun
  have hsteps : pre ++ [s] <+: [storeBySecond ownAdvertisement] ++ [handleFirst] := hmem
  rcases Machine.step_of_concat hsteps with hfirst | ⟨-, rfl⟩
  · obtain ⟨rfl, rfl⟩ := Machine.step_of_singleton hfirst
    obtain rfl : openHub peers = hub := Option.some.inj hrun
    have hnone : ((openHub peers).hubDescs 1700000000000000).1 = [] := by decide +kernel
    rintro ⟨d, hd, -⟩
    rw [hnone] at hd
    cases hd
  · trivial

/-- Its own advertisement opens the second publisher the way for a descriptor of the third. -/
theorem ownAdvertisement_bypasses_policy :
    letI : Crypto := cryptoOf [ownAdvertisement, unwanted]
    letI : Ciborium := referenceCiborium
    letI : DescriptorCodec := wireCodec
    let steps := [storeBySecond ownAdvertisement, handleFirst, storeBySecond unwanted, handleFirst]
    (∀ s ∈ steps, OfClient (∅ : Peers Unit) s) ∧
      ¬ (openHub ∅).EachStep steps (PassesPolicy exceptThird) := by
  let _ : Crypto := cryptoOf [ownAdvertisement, unwanted]
  let _ : Ciborium := referenceCiborium
  let _ : DescriptorCodec := wireCodec
  intro steps
  refine ⟨by simp [steps, storeBySecond, handleFirst, OfClient], fun h => ?_⟩
  let before := [storeBySecond ownAdvertisement, handleFirst, storeBySecond unwanted]
  have hrun : ((machine Unit).run (some (openHub ∅)) before).isSome := by decide +kernel
  obtain ⟨hub, hub_eq⟩ := Option.isSome_iff_exists.1 hrun
  have hpasses := h before handleFirst hub List.prefix_rfl hub_eq
  have hstored : (((machine Unit).run (some (openHub ∅)) before).bind fun hub =>
      (hub.handleWaiting 0 1700000000000000).map Prod.fst) =
      some (some (.storeAck ⟨true, none⟩)) := by decide +kernel
  have hwaiting : (((machine Unit).run (some (openHub ∅)) before).bind fun hub =>
      hub.waiting[0]?.map CheckedRequest.request) =
      some (.store ⟨secondPublisher, .quic "198.51.100.2:4433", unwanted⟩) := by decide +kernel
  have hverdict : (((machine Unit).run (some (openHub ∅)) before).bind fun hub =>
      hub.node.hooks.map fun hook => (hook.checkStore unwanted).isOk) = some false := by
    decide +kernel
  rw [hub_eq] at hstored hwaiting hverdict
  obtain ⟨⟨response, hub'⟩, hanswer, rfl⟩ := Option.map_eq_some_iff.1 hstored
  obtain ⟨checked, hchecked, hrequest⟩ := Option.map_eq_some_iff.1 hwaiting
  obtain ⟨hook, hhook, -, hok⟩ :=
    hpasses _ _ checked _ _ hub' rfl hchecked hrequest hanswer rfl
  rw [Option.bind_some, hhook, Option.map_some, hok] at hverdict
  cases hverdict

end Hub

end MeshProtocol
