import MeshProtocol.Core.Reference
import MeshProtocol.Dht.Availability
import MeshProtocol.Hub.Policy
import MeshProtocol.Hub.Redb
import MeshProtocol.Library.Unwinding

/-!
# Whose quota a STORE uses

A STORE is counted twice for the publisher it names: by the hub's hook, before anything is known
about the descriptor, and by the storage, once the descriptor is valid.  So a descriptor that nobody
signed counts for the publisher it names, unless the publisher has no quota left anyway.

`forged_harmless_iff`: forged STOREs leave every window as it is, and no outcome of a STORE of a
valid descriptor depends on them, exactly if each of them meets a publisher whose quota is used up.
-/

namespace MeshProtocol

open Std DescriptorStorage

/-! ## Windows -/

namespace HubRateLimiter

/-- The recorded times of an identity's operations. -/
def window (l : HubRateLimiter) (op : Operation) (key : List UInt8) : List ℕ :=
  (l.identityWindows op).getD key []

/-- The window of an identity after a check. -/
def charged (l : HubRateLimiter) (key : List UInt8) (op : Operation) (now : ℕ) : List ℕ :=
  match l.config.identityLimits op with
  | none => l.window op key
  | some limit =>
    if limit ≤ (l.recent key op now).length.toUInt32 then l.recent key op now
    else l.recent key op now ++ [now]

/-- The identity has no limit, or its window is full and has no times to be pruned. -/
def UsedUp (l : HubRateLimiter) (key : List UInt8) (op : Operation) (now : ℕ) : Prop :=
  ∀ limit, l.config.identityLimits op = some limit →
    limit ≤ (l.recent key op now).length.toUInt32 ∧ l.recent key op now = l.window op key

/-- The limiters have the same limits and the same windows. -/
structure Agrees (l l' : HubRateLimiter) : Prop where
  config : l.config = l'.config
  window : ∀ op key, l.window op key = l'.window op key

lemma Agrees.trans {l l' l'' : HubRateLimiter} (h : l.Agrees l') (h' : l'.Agrees l'') :
    l.Agrees l'' :=
  ⟨h.config.trans h'.config, fun op key => (h.window op key).trans (h'.window op key)⟩

lemma dropWhile_append_ne {α : Type} {p : α → Bool} {x : α} (hx : p x = false) (l : List α) :
    l.dropWhile p ++ [x] ≠ l := by
  intro h
  cases l with
  | nil => simp at h
  | cons y l =>
    cases hy : p y with
    | false =>
      rw [List.dropWhile_cons_of_neg (by simp [hy])] at h
      simpa using congrArg List.length h
    | true =>
      -- what is left begins with `y`, which `p` would have dropped
      rw [List.dropWhile_cons_of_pos hy] at h
      cases hrest : l.dropWhile p with
      | nil =>
        rw [hrest, List.nil_append, List.cons.injEq] at h
        rw [h.1, hy] at hx
        cases hx
      | cons z rest =>
        have hz := List.head_dropWhile_not p (l := l) (by simp [hrest])
        rw [hrest, List.cons_append, List.cons.injEq] at h
        simp only [hrest, List.head_cons] at hz
        rw [h.1, hy] at hz
        cases hz

/-- A check leaves an identity's own window as it is exactly if its quota is used up. -/
lemma charged_eq_window_iff (l : HubRateLimiter) (key : List UInt8) (op : Operation)
    (now : ℕ) :
    l.charged key op now = l.window op key ↔ l.UsedUp key op now := by
  unfold charged UsedUp
  cases l.config.identityLimits op with
  | none => simp
  | some limit =>
    simp only [Option.some.injEq, forall_eq']
    split_ifs with hfull
    · exact (and_iff_right hfull).symm
    · refine iff_of_false (fun h => ?_) fun h => hfull h.1
      refine dropWhile_append_ne ?_ (l.window op key) h
      simp

variable [Crypto]

lemma window_checkIdentity (l : HubRateLimiter) (identity : Identity) (op op' : Operation)
    (now : ℕ) (key : List UInt8) :
    (l.checkIdentity identity op now).2.window op' key =
      if op' = op ∧ key = identityBytes identity then l.charged key op now
      else l.window op' key := by
  have hrecord : ∀ deque, window { l with
        identityWindows := Function.update l.identityWindows op
          ((l.identityWindows op).insert (identityBytes identity) deque) } op' key =
      if op' = op ∧ key = identityBytes identity then deque else l.window op' key := by
    intro deque
    by_cases hop : op' = op
    · subst hop
      simp only [window, Function.update_self, ExtTreeMap.getD_insert,
        LawfulEqCmp.compare_eq_iff_eq, true_and, eq_comm (a := key)]
    · simp only [window, Function.update_of_ne hop, hop, false_and, if_false]
  unfold checkIdentity charged
  cases l.config.identityLimits op with
  | none =>
    dsimp only
    split_ifs with hsame
    · rw [hsame.1]
    · rfl
  | some limit =>
    dsimp only
    by_cases hkey : key = identityBytes identity
    · subst hkey
      split_ifs <;> rw [hrecord] <;> simp_all
    · split_ifs <;> rw [hrecord] <;> simp_all

lemma checkIdentity_fst (l : HubRateLimiter) (identity : Identity) (op : Operation) (now : ℕ) :
    (l.checkIdentity identity op now).1 =
      match l.config.identityLimits op with
      | none => .ok ()
      | some limit =>
        if limit ≤ (l.recent (identityBytes identity) op now).length.toUInt32 then
          .error (.identityRateLimited identity.did op limit)
        else .ok () := by
  unfold checkIdentity
  cases l.config.identityLimits op with
  | none => rfl
  | some limit =>
    dsimp only
    split_ifs <;> rfl

lemma config_checkIdentity (l : HubRateLimiter) (identity : Identity) (op : Operation)
    (now : ℕ) : (l.checkIdentity identity op now).2.config = l.config := by
  unfold checkIdentity
  cases l.config.identityLimits op with
  | none => rfl
  | some limit =>
    dsimp only
    split_ifs <;> rfl

/-- Limiters that agree give the same verdict, and agree afterwards. -/
lemma Agrees.checkIdentity {l l' : HubRateLimiter} (h : l.Agrees l') (identity : Identity)
    (op : Operation) (now : ℕ) :
    (l.checkIdentity identity op now).1 = (l'.checkIdentity identity op now).1 ∧
      (l.checkIdentity identity op now).2.Agrees (l'.checkIdentity identity op now).2 := by
  have hrecent : ∀ key, l.recent key op now = l'.recent key op now := by
    intro key
    have hwindow : (l.identityWindows op).getD key [] = (l'.identityWindows op).getD key [] :=
      h.window op key
    rw [recent, recent, hwindow, h.config]
  have hcharged : ∀ key, l.charged key op now = l'.charged key op now := by
    intro key
    simp only [charged, h.config, hrecent, h.window]
  refine ⟨?_, ?_, ?_⟩
  · simp only [checkIdentity_fst, h.config, hrecent]
  · rw [config_checkIdentity, config_checkIdentity, h.config]
  · intro op' key
    simp only [window_checkIdentity, hcharged, h.window]

/-- A check at a quota that is used up leaves every window as it is. -/
lemma UsedUp.agrees {l : HubRateLimiter} {identity : Identity} {op : Operation} {now : ℕ}
    (h : l.UsedUp (identityBytes identity) op now) :
    (l.checkIdentity identity op now).2.Agrees l := by
  refine ⟨l.config_checkIdentity identity op now, fun op' key => ?_⟩
  rw [window_checkIdentity]
  split_ifs with hsame
  · obtain ⟨rfl, rfl⟩ := hsame
    exact (l.charged_eq_window_iff _ _ _).2 h
  · rfl

end HubRateLimiter

namespace HubProtocolHook

/-- The hooks have the same policy, the same tenants and the same time, and their limiters agree. -/
structure Agrees (h h' : HubProtocolHook) : Prop where
  policy : h.policy = h'.policy
  tenantManager : h.tenantManager = h'.tenantManager
  rateLimiter : h.rateLimiter.Agrees h'.rateLimiter
  instant : h.instant = h'.instant

lemma Agrees.trans {h h' h'' : HubProtocolHook} (hagrees : h.Agrees h') (hagrees' : h'.Agrees h'') :
    h.Agrees h'' :=
  ⟨hagrees.policy.trans hagrees'.policy, hagrees.tenantManager.trans hagrees'.tenantManager,
    hagrees.rateLimiter.trans hagrees'.rateLimiter, hagrees.instant.trans hagrees'.instant⟩

variable [Crypto]

lemma checked_fst (h : HubProtocolHook) (d : Descriptor) :
    (h.checked d).1 =
      match (h.rateLimiter.checkIdentity d.publisher .store h.instant).1 with
      | .error _ => .error "rate limited"
      | .ok () => h.checkStore d := by
  unfold checked
  rcases h.rateLimiter.checkIdentity d.publisher .store h.instant with ⟨_ | _, rateLimiter⟩ <;> rfl

lemma checked_snd (h : HubProtocolHook) (d : Descriptor) :
    (h.checked d).2 =
      { h with rateLimiter := (h.rateLimiter.checkIdentity d.publisher .store h.instant).2 } := by
  unfold checked
  rcases h.rateLimiter.checkIdentity d.publisher .store h.instant with ⟨_ | _, rateLimiter⟩ <;> rfl

/-- Hooks that agree give the same verdict, and agree afterwards. -/
lemma Agrees.checked {h h' : HubProtocolHook} (hagrees : h.Agrees h') (d : Descriptor) :
    (h.checked d).1 = (h'.checked d).1 ∧ (h.checked d).2.Agrees (h'.checked d).2 := by
  obtain ⟨hverdict, hlimiter⟩ := hagrees.rateLimiter.checkIdentity d.publisher .store h.instant
  refine ⟨?_, ?_⟩
  · rw [checked_fst, checked_fst, hverdict, checkStore, checkStore, isTenant, isTenant,
      hagrees.policy, hagrees.tenantManager, hagrees.instant]
  · rw [checked_snd, checked_snd, ← hagrees.instant]
    exact ⟨hagrees.policy, hagrees.tenantManager, hlimiter, rfl⟩

lemma agrees_checked_of_usedUp {h : HubProtocolHook} {d : Descriptor}
    (hused : h.rateLimiter.UsedUp (identityBytes d.publisher) .store h.instant) :
    (h.checked d).2.Agrees h := by
  rw [checked_snd]
  exact ⟨rfl, rfl, hused.agrees, rfl⟩

end HubProtocolHook

/-! ## A node with the hook -/

section Node

variable [Crypto] [DescriptorCodec]

/-- A node over the disk-backed store, as the hook of the hub guards it. -/
abbrev GuardedNode := DhtNode RedbStorage HubProtocolHook

namespace GuardedNode

/-- What happens to the node: a request, a node heard of in a lookup, a use of the storage by the
node itself, a change of the tenants by the operator, or a tick of the monotonic clock. -/
inductive Step where
  | request (request : Request) (clock : UInt64)
  | learn (node : NodeInfo)
  | storage (call : StorageCall RedbStorage)
  | tenants (tenantManager : TenantManager)
  | tick (instant : ℕ)

/-- Answers a request of its own sender.  A handler that panics has heard the sender. -/
def handle (n : GuardedNode) (request : Request) (clock : UInt64) : Option Response × GuardedNode :=
  match n.dispatchRequest request (some request.sender) clock with
  | some answered => answered
  | none => (none, (n.updateRoutingTable request.sender request.senderAddr clock).getD n)

/-- The node as a machine. -/
def machine : Machine GuardedNode Step (Option Response) where
  step n
    | .request request clock => n.handle request clock
    | .learn node => (none, (n.learn node).getD n)
    | .storage call =>
      (none, { n with store := ((storageMachine RedbStorage).step n.store call).2 })
    | .tenants tenantManager =>
      (none, { n with hooks := n.hooks.map fun hook => { hook with tenantManager } })
    | .tick instant =>
      (none, { n with hooks := n.hooks.map fun hook => { hook with instant } })

/-- The hub's window of a publisher's stores. -/
def hubWindow (n : GuardedNode) (publisher : Identity) : List ℕ :=
  n.hooks.elim [] fun hook => hook.rateLimiter.window .store (identityBytes publisher)

/-- The storage's window of a publisher. -/
def storageWindow (n : GuardedNode) (publisher : Identity) : List UInt64 :=
  n.store.rateTimestamps.getD (identityBytes publisher) []

/-- The publisher's quota at the hook is used up. -/
def QuotaUsedUp (n : GuardedNode) (publisher : Identity) : Prop :=
  ∀ hook, n.hooks = some hook →
    hook.rateLimiter.UsedUp (identityBytes publisher) .store hook.instant

/-- The STORE's descriptor is not valid. -/
def forged : Step → Bool
  | .request (.store storeReq) clock => storeReq.descriptor.validate clock ≠ .ok ()
  | _ => false

/-- What a STORE of a valid descriptor got for an answer. -/
def outcome : Step × Option Response → Option (Option Response)
  | (.request (.store storeReq) clock, response) =>
    if storeReq.descriptor.validate clock = .ok () then some response else none
  | _ => none

/-! ## What the hook and the store see of a step -/

/-- The answer to a STORE and the store afterwards, by the hook's verdict. -/
def stored (hook : HubProtocolHook) (store : RedbStorage) (d : Descriptor) (clock : UInt64) :
    StoreAck × RedbStorage :=
  match (hook.checked d).1 with
  | .error reason => (⟨false, some reason⟩, store)
  | .ok () =>
    match store.storeDescriptorAt d clock with
    | (.ok (), store) => (⟨true, none⟩, store)
    | (.error e, store) => (⟨false, some e.message⟩, store)

/-- The hook after a step. -/
def hookAfter (hook : HubProtocolHook) : Step → HubProtocolHook
  | .request (.store storeReq) _ => (hook.checked storeReq.descriptor).2
  | .tenants tenantManager => { hook with tenantManager }
  | .tick instant => { hook with instant }
  | _ => hook

/-- The store after a step. -/
def storeAfter (hook : HubProtocolHook) (store : RedbStorage) : Step → RedbStorage
  | .request (.store storeReq) clock => (stored hook store storeReq.descriptor clock).2
  | .storage call => ((storageMachine RedbStorage).step store call).2
  | _ => store

variable {n : GuardedNode} {hook : HubProtocolHook}

lemma handle_store (hhook : n.hooks = some hook) (storeReq : Store) (clock : UInt64) :
    ∃ n', n.handle (.store storeReq) clock =
        (some (.storeAck (stored hook n.store storeReq.descriptor clock).1), n') ∧
      n'.hooks = some (hook.checked storeReq.descriptor).2 ∧
      n'.store = (stored hook n.store storeReq.descriptor clock).2 := by
  obtain ⟨n₁, hn₁, hstore, hhooks, -⟩ :=
    n.updateRoutingTable_eq storeReq.sender storeReq.senderAddr clock
  have hbound :
      verifySenderBinding (Request.store storeReq).sender (some storeReq.sender) = .ok () :=
    verifySenderBinding_eq_ok_iff.2 rfl
  have hdispatch : n.dispatchRequest (.store storeReq) (some storeReq.sender) clock =
      (n.handleStore storeReq clock).map fun (ack, n) => (some (.storeAck ack), n) := by
    unfold DhtNode.dispatchRequest
    rw [hbound]
  have hsender : (Request.store storeReq).sender = storeReq.sender := rfl
  unfold handle
  rw [hsender, hdispatch, DhtNode.handleStore, hn₁]
  simp only [Option.bind_eq_bind, Option.bind_some, hhooks, hhook]
  have hpre : ProtocolHook.preStore hook storeReq.descriptor clock =
      hook.checked storeReq.descriptor := rfl
  rw [hpre, stored]
  rcases hook.checked storeReq.descriptor with ⟨reason | _, hook'⟩
  · exact ⟨_, rfl, rfl, hstore⟩
  · dsimp only [Option.pure_def, Option.map_some]
    unfold DhtNode.storeAccepted
    have hcall : DescriptorStorage.storeDescriptor n₁.store storeReq.descriptor clock =
        n.store.storeDescriptorAt storeReq.descriptor clock := by rw [hstore]; rfl
    dsimp only
    rw [hcall]
    rcases n.store.storeDescriptorAt storeReq.descriptor clock with ⟨e | _, store⟩
    · exact ⟨_, rfl, rfl, rfl⟩
    · exact ⟨_, rfl, rfl, rfl⟩

lemma findAccepted_kept {n n' : GuardedNode} {findValue : FindValue} {clock : UInt64}
    {result : FindValueResult} (h : n.findAccepted findValue clock = some (result, n')) :
    n'.hooks = n.hooks ∧ n'.store = n.store := by
  obtain ⟨result', -, hlast⟩ := Option.bind_eq_some_iff.1 h
  obtain ⟨-, rfl⟩ := Prod.mk.inj (Option.some.inj hlast)
  refine ⟨?_, rfl⟩
  cases n.hooks <;> rfl

/-- The other requests leave the hook and the store as they are. -/
lemma dispatchRequest_kept {n n' : GuardedNode} {request : Request}
    (hother : ∀ storeReq, request ≠ .store storeReq) {clock : UInt64} {response : Option Response}
    (h : n.dispatchRequest request (some request.sender) clock = some (response, n')) :
    n'.hooks = n.hooks ∧ n'.store = n.store := by
  rcases DhtNode.dispatchRequest_cases h with ⟨-, -, rfl⟩ | ⟨-, hhandled⟩
  · exact ⟨rfl, rfl⟩
  cases request with
  | ping ping =>
    obtain ⟨pong, hpong, -⟩ := hhandled
    obtain ⟨hstore, hhooks, -⟩ := DhtNode.updateRoutingTable_cases
      (DhtNode.handlePing_cases hpong).1
    exact ⟨hhooks, hstore⟩
  | store storeReq => exact absurd rfl (hother storeReq)
  | findNode findNode =>
    obtain ⟨result, hresult, -⟩ := hhandled
    obtain ⟨hstore, hhooks, -⟩ :=
      DhtNode.updateRoutingTable_cases (DhtNode.handleFindNode_cases hresult)
    exact ⟨hhooks, hstore⟩
  | findValue findValue =>
    obtain ⟨result, hresult, -⟩ := hhandled
    obtain ⟨n₁, hn₁, hcases⟩ := DhtNode.handleFindValue_cases hresult
    obtain ⟨hstore, hhooks, -⟩ := DhtNode.updateRoutingTable_cases hn₁
    rw [← hstore, ← hhooks]
    rcases hcases with ⟨-, haccepted⟩ | ⟨_, _, _, -, hverdict, -⟩ |
      ⟨hook, _, hsome, hverdict, haccepted⟩
    · exact findAccepted_kept haccepted
    · -- the hook lets every query pass
      cases congrArg Prod.fst hverdict
    · obtain rfl : hook = _ := congrArg Prod.snd hverdict
      rw [hsome]
      exact findAccepted_kept haccepted

lemma handle_of_ne_store (n : GuardedNode) {request : Request}
    (hother : ∀ storeReq, request ≠ .store storeReq) (clock : UInt64) :
    (n.handle request clock).2.hooks = n.hooks ∧ (n.handle request clock).2.store = n.store := by
  unfold handle
  split
  case h_1 answered hdispatch => exact dispatchRequest_kept hother hdispatch
  case h_2 =>
    obtain ⟨n₁, hn₁, hstore, hhooks, -⟩ :=
      n.updateRoutingTable_eq request.sender request.senderAddr clock
    rw [hn₁]
    exact ⟨hhooks, hstore⟩

lemma step_hooked (hhook : n.hooks = some hook) (step : Step) :
    (machine.step n step).2.hooks = some (hookAfter hook step) ∧
      (machine.step n step).2.store = storeAfter hook n.store step := by
  cases step with
  | request request clock =>
    by_cases hstoreReq : ∃ storeReq, request = .store storeReq
    · obtain ⟨storeReq, rfl⟩ := hstoreReq
      obtain ⟨n', hn', hhooks, hstore⟩ := handle_store hhook storeReq clock
      have hstep : machine.step n (.request (.store storeReq) clock) = _ := hn'
      rw [hstep]
      exact ⟨hhooks, hstore⟩
    · have hkept := n.handle_of_ne_store (fun storeReq heq => hstoreReq ⟨storeReq, heq⟩) clock
      cases request with
      | store storeReq => exact absurd ⟨storeReq, rfl⟩ hstoreReq
      | _ => exact ⟨hkept.1.trans hhook, hkept.2⟩
  | learn node =>
    obtain ⟨n₁, hn₁, hstore, hhooks, -⟩ :=
      n.updateRoutingTable_eq node.identity node.addr node.lastSeen
    have hlearn : n.learn node = some n₁ := hn₁
    change ((n.learn node).getD n).hooks = _ ∧ ((n.learn node).getD n).store = _
    rw [hlearn]
    exact ⟨hhooks.trans hhook, hstore⟩
  | storage call => exact ⟨hhook, rfl⟩
  | tenants tenantManager =>
    change n.hooks.map _ = _ ∧ _
    rw [hhook]
    exact ⟨rfl, rfl⟩
  | tick instant =>
    change n.hooks.map _ = _ ∧ _
    rw [hhook]
    exact ⟨rfl, rfl⟩

/-! ## Runs with and without forged STOREs -/

/-- The nodes have the same store, and hooks that agree. -/
def SameQuotas (n n' : GuardedNode) : Prop :=
  n.store = n'.store ∧ ∃ hook hook', n.hooks = some hook ∧ n'.hooks = some hook' ∧ hook.Agrees hook'

lemma stored_of_invalid (hook : HubProtocolHook) (store : RedbStorage) {d : Descriptor}
    {clock : UInt64} (hinvalid : d.validate clock ≠ .ok ()) :
    (stored hook store d clock).2 = store := by
  have hrefused : (store.storeDescriptorAt d clock).2 = store ∧
      ∃ e, (store.storeDescriptorAt d clock).1 = .error e := by
    unfold RedbStorage.storeDescriptorAt RedbStorage.checkStore
    cases hvalidate : d.validate clock with
    | error e => exact ⟨rfl, _, rfl⟩
    | ok => exact absurd hvalidate hinvalid
  unfold stored
  split
  · rfl
  · rcases hcall : store.storeDescriptorAt d clock with ⟨e | _, store'⟩
    · rw [hcall] at hrefused
      exact hrefused.1
    · rw [hcall] at hrefused
      obtain ⟨-, e, he⟩ := hrefused
      cases he

lemma stored_agrees {hook hook' : HubProtocolHook} (h : hook.Agrees hook') (store : RedbStorage)
    (d : Descriptor) (clock : UInt64) : stored hook store d clock = stored hook' store d clock := by
  unfold stored
  rw [(h.checked d).1]

lemma forged_eq_true_iff {step : Step} :
    forged step = true ↔ ∃ storeReq clock, step = .request (.store storeReq) clock ∧
      storeReq.descriptor.validate clock ≠ .ok () := by
  constructor
  · intro h
    unfold forged at h
    split at h
    case h_1 storeReq clock => exact ⟨storeReq, clock, rfl, of_decide_eq_true h⟩
    case h_2 => cases h
  · rintro ⟨storeReq, clock, rfl, hinvalid⟩
    exact decide_eq_true hinvalid

/-- A forged STORE that meets a used-up quota leaves the quotas as they are. -/
lemma sameQuotas_forged {n n' : GuardedNode} (h : SameQuotas n n') {storeReq : Store}
    {clock : UInt64} (hinvalid : storeReq.descriptor.validate clock ≠ .ok ())
    (hused : n.QuotaUsedUp storeReq.descriptor.publisher) :
    SameQuotas (machine.step n (.request (.store storeReq) clock)).2 n' := by
  obtain ⟨hstore, hook, hook', hhook, hhook', hagrees⟩ := h
  obtain ⟨hhooks, hafter⟩ := step_hooked hhook (.request (.store storeReq) clock)
  refine ⟨?_, _, hook', hhooks, hhook', ?_⟩
  · rw [hafter, ← hstore]
    exact stored_of_invalid hook n.store hinvalid
  · have hsame := HubProtocolHook.agrees_checked_of_usedUp (hused hook hhook)
    exact hsame.trans hagrees

/-- Any other step keeps the quotas the same, and answers the same to a STORE. -/
lemma sameQuotas_step {n n' : GuardedNode} (h : SameQuotas n n') (step : Step) :
    outcome (step, (machine.step n step).1) = outcome (step, (machine.step n' step).1) ∧
      SameQuotas (machine.step n step).2 (machine.step n' step).2 := by
  obtain ⟨hstore, hook, hook', hhook, hhook', hagrees⟩ := h
  obtain ⟨hhooks, hafter⟩ := step_hooked hhook step
  obtain ⟨hhooks', hafter'⟩ := step_hooked hhook' step
  have hsame : hookAfter hook step |>.Agrees (hookAfter hook' step) := by
    unfold hookAfter
    split
    · exact (hagrees.checked _).2
    · exact ⟨hagrees.policy, rfl, hagrees.rateLimiter, hagrees.instant⟩
    · exact ⟨hagrees.policy, hagrees.tenantManager, hagrees.rateLimiter, rfl⟩
    · exact hagrees
  refine ⟨?_, ?_, _, _, hhooks, hhooks', hsame⟩
  · by_cases hstoreReq : ∃ storeReq clock, step = .request (.store storeReq) clock
    · obtain ⟨storeReq, clock, rfl⟩ := hstoreReq
      obtain ⟨m, hm, -⟩ := handle_store hhook storeReq clock
      obtain ⟨m', hm', -⟩ := handle_store hhook' storeReq clock
      have hanswer : (n.handle (.store storeReq) clock).1 =
          (n'.handle (.store storeReq) clock).1 := by
        rw [hm, hm', stored_agrees hagrees, hstore]
      simp only [outcome, machine, hanswer]
    · have hnone : ∀ response, outcome (step, response) = none := by
        intro response
        unfold outcome
        split
        case h_1 storeReq clock response' heq =>
          exact absurd ⟨storeReq, clock, congrArg Prod.fst heq⟩ hstoreReq
        case h_2 => rfl
      rw [hnone, hnone]
  · rw [hafter, hafter', ← hstore]
    unfold storeAfter
    split
    · rw [stored_agrees hagrees]
    · rfl
    · rfl

lemma unwindsAt_machine :
    Machine.UnwindsAt machine forged outcome
      (fun n step => ∀ storeReq clock, step = .request (.store storeReq) clock →
        storeReq.descriptor.validate clock ≠ .ok () →
        n.QuotaUsedUp storeReq.descriptor.publisher) SameQuotas where
  hide := by
    intro n n' step h hallowed hforged
    obtain ⟨storeReq, clock, rfl, hinvalid⟩ := forged_eq_true_iff.1 hforged
    refine ⟨?_, sameQuotas_forged h hinvalid (hallowed storeReq clock rfl hinvalid)⟩
    exact if_neg hinvalid
  keep := fun h _ _ => sameQuotas_step h _

/-- A forged STORE leaves the storage's windows as they are, and the hub's exactly if the quota at
the hook is used up. -/
lemma windows_kept_iff (hhook : n.hooks = some hook) {storeReq : Store} {clock : UInt64}
    (hinvalid : storeReq.descriptor.validate clock ≠ .ok ()) :
    ((machine.step n (.request (.store storeReq) clock)).2.hubWindow
          storeReq.descriptor.publisher = n.hubWindow storeReq.descriptor.publisher ∧
        (machine.step n (.request (.store storeReq) clock)).2.storageWindow
          storeReq.descriptor.publisher = n.storageWindow storeReq.descriptor.publisher) ↔
      n.QuotaUsedUp storeReq.descriptor.publisher := by
  obtain ⟨hhooks, hstore⟩ := step_hooked hhook (.request (.store storeReq) clock)
  have hstorage : (machine.step n (.request (.store storeReq) clock)).2.storageWindow
      storeReq.descriptor.publisher = n.storageWindow storeReq.descriptor.publisher := by
    rw [storageWindow, hstore, storeAfter, stored_of_invalid hook n.store hinvalid, storageWindow]
  have hhub : (machine.step n (.request (.store storeReq) clock)).2.hubWindow
      storeReq.descriptor.publisher =
        hook.rateLimiter.charged (identityBytes storeReq.descriptor.publisher) .store
          hook.instant := by
    rw [hubWindow, hhooks]
    dsimp only [hookAfter, Option.elim_some]
    rw [HubProtocolHook.checked_snd, HubRateLimiter.window_checkIdentity, if_pos ⟨rfl, rfl⟩]
  have hbefore : n.hubWindow storeReq.descriptor.publisher =
      hook.rateLimiter.window .store (identityBytes storeReq.descriptor.publisher) := by
    rw [hubWindow, hhook, Option.elim_some]
  rw [and_iff_left hstorage, hhub, hbefore, HubRateLimiter.charged_eq_window_iff, QuotaUsedUp]
  constructor
  · intro hused hook' hhook'
    rw [hhook, Option.some.injEq] at hhook'
    exact hhook' ▸ hused
  · exact fun hused => hused hook hhook

lemma hooked_run (n : GuardedNode) (hook : HubProtocolHook) (steps : List Step) :
    ∃ hook', (machine.run (n.withHooks hook) steps).hooks = some hook' := by
  refine Machine.run_invariant (P := fun n : GuardedNode => ∃ hook', n.hooks = some hook')
    ⟨hook, rfl⟩
    ?_ steps
  rintro n step ⟨hook', hhook'⟩
  exact ⟨_, (step_hooked hhook' step).1⟩

/-- Forged STOREs leave the windows of the publishers they name as they are, and no answer to a
STORE of a valid descriptor depends on them, exactly if each of them meets a publisher whose quota
at the hook is used up. -/
theorem forged_harmless_iff (n : GuardedNode) (hook : HubProtocolHook) (steps : List Step) :
    ((∀ pre storeReq clock, pre ++ [.request (.store storeReq) clock] <+: steps →
        storeReq.descriptor.validate clock ≠ .ok () →
        (machine.step (machine.run (n.withHooks hook) pre)
          (.request (.store storeReq) clock)).2.hubWindow
            storeReq.descriptor.publisher =
          (machine.run (n.withHooks hook) pre).hubWindow storeReq.descriptor.publisher ∧
        (machine.step (machine.run (n.withHooks hook) pre)
            (.request (.store storeReq) clock)).2.storageWindow storeReq.descriptor.publisher =
          (machine.run (n.withHooks hook) pre).storageWindow storeReq.descriptor.publisher) ∧
      (machine.trace (n.withHooks hook) steps).filterMap outcome =
        (machine.trace (n.withHooks hook) (Machine.purge forged steps)).filterMap outcome) ↔
      ∀ pre storeReq clock, pre ++ [.request (.store storeReq) clock] <+: steps →
        storeReq.descriptor.validate clock ≠ .ok () →
        (machine.run (n.withHooks hook) pre).QuotaUsedUp storeReq.descriptor.publisher := by
  constructor
  · rintro ⟨hkept, -⟩ pre storeReq clock hpre hinvalid
    obtain ⟨hook', hhook'⟩ := hooked_run n hook pre
    exact (windows_kept_iff hhook' hinvalid).1 (hkept pre storeReq clock hpre hinvalid)
  · intro hused
    refine ⟨fun pre storeReq clock hpre hinvalid => ?_, ?_⟩
    · obtain ⟨hook', hhook'⟩ := hooked_run n hook pre
      exact (windows_kept_iff hhook' hinvalid).2 (hused pre storeReq clock hpre hinvalid)
    · have hself : hook.Agrees hook := ⟨rfl, rfl, ⟨rfl, fun _ _ => rfl⟩, rfl⟩
      refine (unwindsAt_machine.purge_run ⟨rfl, hook, hook, rfl, rfl, hself⟩ ?_).2
      rintro pre step hpre storeReq clock rfl hinvalid
      exact hused pre storeReq clock hpre hinvalid

end GuardedNode

end Node

/-! ## A quota used up by somebody else -/

namespace GuardedNode

/-- `target` as somebody without its publisher's key can send it. -/
def unsignedTarget : Descriptor := { target with signature := [], fit := by decide }

/-- The third publisher sends the copy that nobody signed. -/
def forgedStore : Store := ⟨thirdPublisher, ⟨"quic", "192.0.2.3:4433"⟩, unsignedTarget⟩

/-- The publisher sends its descriptor. -/
def genuineStore : Store := ⟨secondPublisher, ⟨"quic", "192.0.2.2:4433"⟩, target⟩

/-- A new node with an empty store and the default limits, open to everybody. -/
def openNode [Crypto] : GuardedNode :=
  let hook : HubProtocolHook := ⟨{}, ⟨[]⟩, .new {}, 0⟩
  (DhtNode.withStore firstPublisher ⟨"quic", "192.0.2.1:4433"⟩ {} .new).withHooks hook

/-- A forged STORE enters the window of the publisher it names, and twenty use up its quota: the
publisher's own STORE is refused, which is accepted without them. -/
theorem forgeries_block_target :
    letI : Crypto := cryptoOf [target]
    letI : DescriptorCodec := wireCodec
    unsignedTarget.validate 1700000000000000 ≠ .ok () ∧
      openNode.hubWindow secondPublisher = [] ∧
      (machine.run openNode [.request (.store forgedStore) 1700000000000000]).hubWindow
        secondPublisher = [0] ∧
      (machine.trace openNode (.replicate 20 (.request (.store forgedStore) 1700000000000000) ++
        [.request (.store genuineStore) 1700000000000000])).filterMap outcome =
          [some (.storeAck ⟨false, some "rate limited"⟩)] ∧
      (machine.trace openNode (Machine.purge forged
        (.replicate 20 (.request (.store forgedStore) 1700000000000000) ++
          [.request (.store genuineStore) 1700000000000000]))).filterMap outcome =
            [some (.storeAck ⟨true, none⟩)] := by
  let _ : Crypto := cryptoOf [target]
  let _ : DescriptorCodec := wireCodec
  refine ⟨by decide +kernel, by decide +kernel, by decide +kernel, by decide +kernel,
    by decide +kernel⟩

end GuardedNode

end MeshProtocol
