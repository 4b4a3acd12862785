import MeshProtocol.Dht.Crowding
import MeshProtocol.Hub.Dispatch
import MeshProtocol.Hub.Tasks

/-!
# What a hub holds

Whatever the tasks of a hub do, in whatever order, its storage goes through calls of the storage
interface, which store nothing but what a request, a seed or the hub itself has offered
(`Reaches`).  So the storage of a running hub keeps to the descriptors that were offered and
validated (`CachedStorage.KeepsTo`), in the tables and in the cache.
-/

namespace MeshProtocol

open Std DescriptorStorage

/-! ## Calls that store what is offered -/

section Calls

variable {S : Type} [DescriptorStorage S]

/-- Nothing that happens behind the back of the storage's user. -/
def StorageCall.IsCall : StorageCall S → Prop
  | .background _ => False
  | _ => True

/-- The times at which some calls change the storage. -/
def callTimes (calls : List (StorageCall S)) : List UInt64 := calls.filterMap (·.time)

/-- A state that some calls lead to, which store some of the descriptors on offer, each at most
once, and change the storage at the given times only. -/
def Reaches (offered : List Descriptor) (times : List UInt64) (s s' : S) : Prop :=
  ∃ calls : List (StorageCall S), (submitted calls).Sublist offered ∧ callTimes calls ⊆ times ∧
    s' = (storageMachine S).run s calls

lemma Reaches.refl (offered : List Descriptor) (times : List UInt64) (s : S) :
    Reaches offered times s s := ⟨[], List.nil_sublist _, List.nil_subset _, rfl⟩

lemma submitted_append (calls calls' : List (StorageCall S)) :
    submitted (calls ++ calls') = submitted calls ++ submitted calls' :=
  List.filterMap_append

lemma submitted_singleton (c : StorageCall S) :
    submitted [c] = (c.stores.map Prod.fst).toList := submitted_concat [] c

lemma Reaches.trans {offered offered' : List Descriptor} {times times' : List UInt64} {s s' s'' : S}
    (h : Reaches offered times s s') (h' : Reaches offered' times' s' s'') :
    Reaches (offered ++ offered') (times ++ times') s s'' := by
  obtain ⟨calls, hsub, htimes, rfl⟩ := h
  obtain ⟨calls', hsub', htimes', rfl⟩ := h'
  refine ⟨calls ++ calls', ?_, ?_, ((storageMachine S).run_append s calls calls').symm⟩
  · rw [submitted_append]
    exact hsub.append hsub'
  · rw [callTimes, List.filterMap_append]
    exact List.append_subset.2 ⟨List.subset_append_of_subset_left _ htimes,
      List.subset_append_of_subset_right _ htimes'⟩

lemma Reaches.of_call {offered : List Descriptor} {times : List UInt64} (s : S) {c : StorageCall S}
    (h : (submitted [c]).Sublist offered) (htimes : callTimes [c] ⊆ times) :
    Reaches offered times s ((storageMachine S).step s c).2 := ⟨[c], h, htimes, rfl⟩

end Calls

/-! ## Requests -/

/-- The descriptor that a request offers for storing. -/
def Request.offered : Request → List Descriptor
  | .store storeReq => [storeReq.descriptor]
  | _ => []

namespace DhtNode

variable [Crypto] {S H : Type} [DescriptorStorage S] [ProtocolHook H]

lemma store_storeAccepted (n : DhtNode S H) (d : Descriptor) (clock : UInt64) :
    (n.storeAccepted d clock).2.store =
      ((storageMachine S).step n.store (.storeDescriptor d clock)).2 := by
  unfold storeAccepted
  change _ = (storeDescriptor n.store d clock).2
  split <;> simp [*]

lemma store_findAccepted {n n' : DhtNode S H} {f : FindValue} {clock : UInt64}
    {result : FindValueResult} (h : n.findAccepted f clock = some (result, n')) :
    n'.store = ((storageMachine S).step n.store (.getDescriptors f.key f.filters clock)).2 := by
  obtain ⟨result', -, hrest⟩ := Option.bind_eq_some_iff.1 h
  obtain ⟨-, rfl⟩ := Prod.mk.inj (Option.some.inj hrest)
  rfl

/-- A STORE is one call of the storage, or none. -/
lemma store_handleStore {n n' : DhtNode S H} {storeReq : Store} {clock : UInt64} {ack : StoreAck}
    (h : n.handleStore storeReq clock = some (ack, n')) :
    n'.store = n.store ∨
      n'.store = ((storageMachine S).step n.store
        (.storeDescriptor storeReq.descriptor clock)).2 := by
  obtain ⟨n₁, hn₁, hcases⟩ := handleStore_cases h
  have hstore := (updateRoutingTable_cases hn₁).1
  rcases hcases with ⟨-, haccepted⟩ | ⟨_, _, _, -, -, -, rfl⟩ | ⟨_, _, -, -, haccepted⟩
  · obtain rfl : _ = n' := congrArg Prod.snd haccepted
    right
    rw [store_storeAccepted, hstore]
  · exact .inl hstore
  · obtain rfl : _ = n' := congrArg Prod.snd haccepted
    right
    rw [store_storeAccepted]
    dsimp only
    rw [hstore]

/-- A FIND_VALUE is one read of the storage, which finds the descriptors of the answer, or none. -/
lemma store_handleFindValue {n n' : DhtNode S H} {f : FindValue} {clock : UInt64}
    {result : FindValueResult} (h : n.handleFindValue f clock = some (result, n')) :
    (n'.store = n.store ∧ result.descriptors.getD [] = []) ∨
      (n'.store = ((storageMachine S).step n.store (.getDescriptors f.key f.filters clock)).2 ∧
        ∀ d ∈ result.descriptors.getD [],
          d ∈ (getDescriptors n.store f.key f.filters clock).1) := by
  obtain ⟨n₁, hn₁, hcases⟩ := handleFindValue_cases h
  have hstore := (updateRoutingTable_cases hn₁).1
  rcases hcases with ⟨-, haccepted⟩ | ⟨_, _, _, -, -, rfl, rfl⟩ | ⟨_, _, -, -, haccepted⟩
  · right
    rw [store_findAccepted haccepted, descriptors_findAccepted haccepted, hstore]
    exact ⟨rfl, fun d hd => List.mem_of_mem_take hd⟩
  · exact .inl ⟨hstore, rfl⟩
  · right
    rw [store_findAccepted haccepted, descriptors_findAccepted haccepted]
    dsimp only
    rw [hstore]
    exact ⟨rfl, fun d hd => List.mem_of_mem_take hd⟩

/-- A request makes at most one call of the storage, which stores at most what it offers. -/
lemma store_dispatchRequest {n n' : DhtNode S H} {request : Request}
    {peerIdentity : Option Identity} {clock : UInt64} {response : Option Response}
    (h : n.dispatchRequest request peerIdentity clock = some (response, n')) :
    n'.store = n.store ∨ ∃ c : StorageCall S, c.IsCall ∧ (submitted [c]).Sublist request.offered ∧
      callTimes [c] ⊆ [clock] ∧ n'.store = ((storageMachine S).step n.store c).2 := by
  rcases dispatchRequest_cases h with ⟨-, -, rfl⟩ | ⟨-, hhandled⟩
  · exact .inl rfl
  cases request with
  | ping ping =>
    obtain ⟨pong, hpong, -⟩ := hhandled
    exact .inl (updateRoutingTable_cases (handlePing_cases hpong).1).1
  | store storeReq =>
    obtain ⟨ack, hack, -⟩ := hhandled
    refine (store_handleStore hack).imp_right fun heq => ?_
    exact ⟨.storeDescriptor storeReq.descriptor clock, trivial, List.Sublist.refl _,
      List.Subset.refl _, heq⟩
  | findNode findNode =>
    obtain ⟨result, hresult, -⟩ := hhandled
    exact .inl (updateRoutingTable_cases (handleFindNode_cases hresult)).1
  | findValue findValue =>
    obtain ⟨result, hresult, -⟩ := hhandled
    rcases store_handleFindValue hresult with ⟨heq, -⟩ | ⟨heq, -⟩
    · exact .inl heq
    · exact .inr ⟨.getDescriptors findValue.key findValue.filters clock, trivial,
        List.Sublist.refl _, List.nil_subset _, heq⟩

end DhtNode

/-! ## What storage keeps to -/

section Kept

variable [Crypto] [DescriptorCodec]

/-- One of the given descriptors, authentic and within bounds. -/
structure Vouched (P : Set Descriptor) (d : Descriptor) : Prop where
  mem : d ∈ P
  authentic : d.Authentic
  inBounds : d.InBounds

/-- The tables have vouched descriptors in their slots. -/
def RedbStorage.KeepsTo (P : Set Descriptor) (s : RedbStorage) : Prop :=
  ∃ slots, RedbStorage.Stocks P s slots ∧ ∀ k d, slots k = some d → d.InBounds

namespace RedbStorage

variable {P : Set Descriptor}

lemma keepsTo_new : KeepsTo P new := ⟨_, stocks_new P, by simp⟩

lemma KeepsTo.step (hP : Descriptor.NoCollision P) {s : RedbStorage} (h : KeepsTo P s)
    {c : StorageCall RedbStorage} (hc : ∀ d ∈ submitted [c], d ∈ P) :
    KeepsTo P ((storageMachine RedbStorage).step s c).2 := by
  obtain ⟨slots, hstocks, hbounds⟩ := h
  have hcalls : ∀ d now, c.stores = some (d, now) → d ∈ P := fun d now hstores =>
    hc d (mem_submitted.2 ⟨c, List.mem_singleton_self c, now, hstores⟩)
  obtain ⟨slots', hstep, hstocks'⟩ := hstocks.step hP c hcalls
  refine ⟨slots', hstocks', fun k e he => ?_⟩
  cases hstep with
  | stored hstores hok hvalid =>
    rcases Slots.put_eq_some_iff.1 he with ⟨-, rfl⟩ | ⟨-, he⟩
    · exact hvalid.inBounds
    · exact hbounds k e he
  | evicted hstores htime => exact hbounds k e (Slots.evict_eq_some_iff.1 he).1
  | idle hrejected => exact hbounds k e he

lemma KeepsTo.run (hP : Descriptor.NoCollision P) {s : RedbStorage} (h : KeepsTo P s)
    {calls : List (StorageCall RedbStorage)} (hcalls : ∀ d ∈ submitted calls, d ∈ P) :
    KeepsTo P ((storageMachine RedbStorage).run s calls) := by
  induction calls using List.reverseRecOn with
  | nil => exact h
  | append_singleton calls c ih =>
    rw [submitted_append] at hcalls
    rw [Machine.run_concat]
    refine (ih fun d hd => hcalls d (List.mem_append_left _ hd)).step hP fun d hd => ?_
    exact hcalls d (List.mem_append_right _ hd)

lemma KeepsTo.mono {Q : Set Descriptor} {s : RedbStorage} (h : KeepsTo P s) (hsub : P ⊆ Q) :
    KeepsTo Q s := by
  obtain ⟨slots, hstocks, hbounds⟩ := h
  exact ⟨slots, ⟨hstocks.represents, fun hd => hsub (hstocks.mem hd), hstocks.authentic⟩, hbounds⟩

lemma KeepsTo.of_windows {s : RedbStorage} (h : KeepsTo P s)
    (windows : ExtTreeMap (List UInt8) (List UInt64)) (flag : Bool) :
    KeepsTo P { s with rateTimestamps := windows, skipRateLimit := flag } := by
  obtain ⟨slots, hstocks, hbounds⟩ := h
  exact ⟨slots, hstocks.of_windows windows flag, hbounds⟩

/-- What the tables hold is among the descriptors that they keep to. -/
lemma KeepsTo.mem_of_holds {s : RedbStorage} (h : KeepsTo P s) {d : Descriptor} (hd : s.Holds d) :
    d ∈ P := by
  obtain ⟨slots, hstocks, -⟩ := h
  obtain ⟨k, e, hslot, -, hcbor⟩ := (hstocks.represents.descriptors _ _).1 hd
  exact toCbor_injective hcbor ▸ hstocks.mem hslot

/-- Tables that keep to some descriptors keep to those that they hold. -/
lemma KeepsTo.held {s : RedbStorage} (h : KeepsTo P s) : KeepsTo {d | s.Holds d} s := by
  obtain ⟨slots, hstocks, hbounds⟩ := h
  refine ⟨slots, ⟨hstocks.represents, ?_, hstocks.authentic⟩, hbounds⟩
  intro k d hslot
  exact (hstocks.represents.descriptors _ _).2 ⟨k, d, hslot, rfl, rfl⟩

/-- A read finds vouched descriptors that list the key and pass the filters. -/
lemma KeepsTo.vouched {s : RedbStorage} (h : KeepsTo P s) {rk : Hash} {filters : Option FilterSet}
    {t : UInt64} {d : Descriptor} (hd : d ∈ s.getDescriptorsAt rk filters t) :
    Vouched P d ∧ rk ∈ d.routingKeys ∧ admitted filters d = true := by
  obtain ⟨slots, hstocks, hbounds⟩ := h
  obtain ⟨hslot, hlisted, -, hadmitted⟩ := hstocks.represents.mem_getDescriptorsAt.1 hd
  exact ⟨⟨hstocks.mem hslot, hstocks.authentic hslot, hbounds _ d hslot⟩, hlisted, hadmitted⟩

/-- So does the listing that gossip sends. -/
lemma KeepsTo.vouched_of_all {s : RedbStorage} (h : KeepsTo P s) {now : UInt64} {d : Descriptor}
    (hd : d ∈ s.allDescriptors now) : Vouched P d := by
  obtain ⟨slots, hstocks, hbounds⟩ := h
  obtain ⟨⟨i, b⟩, hrow, hread⟩ := List.mem_filterMap.1 (List.mem_of_mem_filter hd)
  obtain ⟨k, e, hslot, -, rfl⟩ := (hstocks.represents.descriptors i b).1
    (ExtTreeMap.mem_toList_iff_getElem?_eq_some.1 hrow)
  rw [DescriptorCodec.fromCbor_toCbor] at hread
  obtain rfl := Option.some.inj hread
  exact ⟨hstocks.mem hslot, hstocks.authentic hslot, hbounds k e hslot⟩

end RedbStorage

namespace CachedStorage

variable {P : Set Descriptor}

/-- The tables and the cache have vouched descriptors, the cache under the keys that they list. -/
structure KeepsTo (P : Set Descriptor) (c : CachedStorage RedbStorage) : Prop where
  inner : c.inner.KeepsTo P
  cached : ∀ {key ds}, c.cache[key]? = some ds → ∀ d ∈ ds,
    Vouched P d ∧ key ∈ d.routingKeys.map hashBytes

lemma keepsTo_new {s : RedbStorage} (h : s.KeepsTo P) : (new s).KeepsTo P where
  inner := h
  cached := by simp [new]

lemma KeepsTo.step (hP : Descriptor.NoCollision P) {c : CachedStorage RedbStorage}
    (h : c.KeepsTo P) {call : StorageCall (CachedStorage RedbStorage)}
    (hcall : ∀ d ∈ submitted [call], d ∈ P) :
    ((storageMachine (CachedStorage RedbStorage)).step c call).2.KeepsTo P := by
  obtain ⟨calls, hsub, hinner, hcache⟩ := inner_step c call
  have hcalls : ∀ d ∈ submitted calls, d ∈ P := by
    intro d hd
    rw [hsub, ← submitted_singleton] at hd
    exact hcall d hd
  constructor
  · rw [hinner]
    exact h.inner.run hP hcalls
  · intro key ds hget d hd
    rcases hcache hget with hold | ⟨rk, clock, rfl, rfl⟩
    · exact h.cached hold d hd
    · obtain ⟨hvouched, hlisted, -⟩ := h.inner.vouched hd
      exact ⟨hvouched, List.mem_map_of_mem hlisted⟩

lemma KeepsTo.reaches (hP : Descriptor.NoCollision P) {offered : List Descriptor}
    (hoffered : ∀ d ∈ offered, d ∈ P) {times : List UInt64} {c c' : CachedStorage RedbStorage}
    (h : c.KeepsTo P) (hreaches : Reaches offered times c c') : c'.KeepsTo P := by
  obtain ⟨calls, hsub, -, rfl⟩ := hreaches
  have hcalls : ∀ d ∈ submitted calls, d ∈ P := fun d hd => hoffered d (hsub.subset hd)
  induction calls using List.reverseRecOn with
  | nil => exact h
  | append_singleton calls call ih =>
    rw [submitted_append] at hsub hcalls
    rw [Machine.run_concat]
    refine (ih ((List.sublist_append_left _ _).trans hsub) fun d hd => ?_).step hP fun d hd => ?_
    · exact hcalls d (List.mem_append_left _ hd)
    · exact hcalls d (List.mem_append_right _ hd)

/-- A read through the cache finds vouched descriptors that list the key and pass the filters. -/
lemma KeepsTo.vouched {c : CachedStorage RedbStorage} (h : c.KeepsTo P) {rk : Hash}
    {filters : Option FilterSet} {clock : UInt64} {d : Descriptor}
    (hd : d ∈ (getDescriptors c rk filters clock).1) :
    Vouched P d ∧ rk ∈ d.routingKeys ∧ admitted filters d = true := by
  obtain ⟨hall, hadmitted⟩ := List.mem_filter.1 hd
  change d ∈ (c.load rk clock).1 at hall
  unfold load at hall
  cases hget : c.cache[hashBytes rk]? with
  | some cached =>
    rw [hget] at hall
    obtain ⟨hvouched, hkey⟩ := h.cached hget d hall
    obtain ⟨rk', hrk', heq⟩ := List.mem_map.1 hkey
    exact ⟨hvouched, hashBytes_inj.1 heq ▸ hrk', hadmitted⟩
  | none =>
    rw [hget] at hall
    obtain ⟨hvouched, hlisted, -⟩ := h.inner.vouched hall
    exact ⟨hvouched, hlisted, hadmitted⟩

end CachedStorage

end Kept

/-! ## The rate limit stays on -/

section Metered

variable [Crypto] [DescriptorCodec]

namespace RedbStorage

lemma skipRateLimit_write (s : RedbStorage) (d : Descriptor) :
    ((s.removeOld d).insertNew d).skipRateLimit = s.skipRateLimit := by
  rw [insertNew, removeOld]
  split <;> rfl

omit [DescriptorCodec] in
lemma skipRateLimit_foldl_remove (ds : List Descriptor) (s : RedbStorage) :
    (ds.foldl remove s).skipRateLimit = s.skipRateLimit := by
  induction ds generalizing s with
  | nil => rfl
  | cons d ds ih => exact ih (remove s d)

/-- Only the owner of the store sets the flag. -/
lemma skipRateLimit_step (s : RedbStorage) {c : StorageCall RedbStorage} (hc : c.IsCall) :
    ((storageMachine RedbStorage).step s c).2.skipRateLimit = s.skipRateLimit := by
  have hstore : ∀ d now, (s.storeDescriptorAt d now).2.skipRateLimit = s.skipRateLimit := by
    intro d now
    rcases s.storeDescriptorAt_cases d now with ⟨e, windows, heq, -⟩ | ⟨windows, heq, -⟩
    · rw [heq]
    · rw [heq]
      exact skipRateLimit_write _ d
  cases c with
  | storeDescriptor d clock => exact hstore d clock
  | storeDescriptorAt d now => exact hstore d now
  | getDescriptors rk filters clock => rfl
  | getDescriptorsAt rk filters now => rfl
  | evictExpired clock => exact skipRateLimit_foldl_remove _ s
  | evictExpiredAt now => exact skipRateLimit_foldl_remove _ s
  | background e => exact hc.elim

end RedbStorage

namespace CachedStorage

/-- The storage keeps its rate limit. -/
def Metered (c : CachedStorage RedbStorage) : Prop := c.inner.skipRateLimit = false

lemma metered_step {c : CachedStorage RedbStorage} (h : c.Metered)
    {call : StorageCall (CachedStorage RedbStorage)} (hcall : call.IsCall) :
    ((storageMachine (CachedStorage RedbStorage)).step c call).2.Metered := by
  have hstore : ∀ d now, (c.afterStore d (c.inner.storeDescriptorAt d now)).2.Metered := by
    intro d now
    rw [Metered, (c.afterStore_snd d _).1]
    exact (c.inner.skipRateLimit_step (c := .storeDescriptorAt d now) trivial).trans h
  cases call with
  | storeDescriptor d clock => exact hstore d clock
  | storeDescriptorAt d now => exact hstore d now
  | getDescriptors rk filters clock =>
    change (c.load rk clock).2.Metered
    rcases c.load_snd rk clock with heq | heq
    · rwa [heq]
    · rw [heq]
      exact h
  | getDescriptorsAt rk filters now => exact h
  | evictExpired clock => exact (RedbStorage.skipRateLimit_foldl_remove _ c.inner).trans h
  | evictExpiredAt now => exact (RedbStorage.skipRateLimit_foldl_remove _ c.inner).trans h
  | background e => exact hcall.elim

/-- The storage went through calls that store some of what is offered, and if its rate limit was on
before, it is on again. -/
structure Advances (offered : List Descriptor) (times : List UInt64)
    (c c' : CachedStorage RedbStorage) : Prop where
  reaches : Reaches offered times c c'
  metered : c.Metered → c'.Metered

variable {offered : List Descriptor} {times : List UInt64} {c c' c'' : CachedStorage RedbStorage}

lemma Advances.refl (offered : List Descriptor) (times : List UInt64)
    (c : CachedStorage RedbStorage) : Advances offered times c c := ⟨.refl offered times c, id⟩

lemma Advances.trans {offered' : List Descriptor} {times' : List UInt64}
    (h : Advances offered times c c') (h' : Advances offered' times' c' c'') :
    Advances (offered ++ offered') (times ++ times') c c'' :=
  ⟨h.reaches.trans h'.reaches, h'.metered ∘ h.metered⟩

lemma Advances.of_call (call : StorageCall (CachedStorage RedbStorage)) (hcall : call.IsCall)
    (h : (submitted [call]).Sublist offered) (htimes : callTimes [call] ⊆ times) :
    Advances offered times c ((storageMachine (CachedStorage RedbStorage)).step c call).2 :=
  ⟨.of_call c h htimes, fun hmetered => metered_step hmetered hcall⟩

/-- The owner switches the rate limit off, makes some calls, and switches it on again. -/
lemma Advances.of_skip (calls : List (StorageCall (CachedStorage RedbStorage)))
    (h : (submitted calls).Sublist offered) (htimes : callTimes calls ⊆ times) :
    Advances offered times c (((storageMachine (CachedStorage RedbStorage)).run
      (c.setSkipRateLimit true) calls).setSkipRateLimit false) := by
  let set (flag : Bool) : StorageCall (CachedStorage RedbStorage) :=
    .background (Event.inner (RedbStorage.Event.setSkipRateLimit flag))
  refine ⟨⟨set true :: (calls ++ [set false]), ?_, ?_, ?_⟩, fun _ => rfl⟩
  · have hsub : submitted (set true :: (calls ++ [set false])) = submitted calls := by
      rw [← List.singleton_append, submitted_append, submitted_append]
      exact List.append_nil _
    rwa [hsub]
  · have heq : callTimes (set true :: (calls ++ [set false])) = callTimes calls := by
      simp [callTimes, set, StorageCall.time]
    rwa [heq]
  · rw [Machine.run, Machine.run_concat]
    rfl

end CachedStorage

end Metered

/-! ## What a hub does to its storage -/

section Hub

variable [Crypto] [DescriptorCodec] {κ : Type}

open CachedStorage

namespace Hub

/-- The look for advertisements stores nothing. -/
lemma advances_isPeerHub (hub : Hub κ) (peerIdentity : Option Identity) (clock : UInt64) :
    Advances [] [] hub.node.store (hub.isPeerHub peerIdentity clock).2.node.store := by
  obtain ⟨-, -, hsame | hload⟩ := hub.node_isPeerHub peerIdentity clock
  · rw [hsame]
    exact .refl _ _ _
  · rw [hload]
    exact .of_call (.getDescriptors ROUTING_KEY_INFRASTRUCTURE_HUB none clock) trivial
      (List.nil_sublist _) (List.nil_subset _)

lemma advances_storeForPeer (hub : Hub κ) (storeReq : Store) (clock : UInt64) :
    Advances [storeReq.descriptor] [clock] hub.node.store
      (hub.storeForPeer storeReq clock).2.node.store :=
  .of_skip [.storeDescriptor storeReq.descriptor clock] (List.Sublist.refl _)
    (List.Subset.refl _)

lemma advances_dispatch {n n' : HubDhtNode} {request : Request} {peerIdentity : Option Identity}
    {clock : UInt64} {response : Option Response}
    (h : n.dispatchRequest request peerIdentity clock = some (response, n')) :
    Advances request.offered [clock] n.store n'.store := by
  rcases DhtNode.store_dispatchRequest h with heq | ⟨c, hcall, hsub, htimes, heq⟩
  · rw [heq]
    exact .refl _ _ _
  · rw [heq]
    exact .of_call c hcall hsub htimes

/-- Handling a request stores at most what it offers. -/
lemma advances_handleChecked {hub hub' : Hub κ} {request : Request}
    {peerIdentity : Option Identity} {isPeerHub : Bool} {clock : UInt64}
    {response : Option Response}
    (h : hub.handleChecked request peerIdentity isPeerHub clock = some (response, hub')) :
    Advances request.offered [clock] hub.node.store hub'.node.store := by
  unfold handleChecked at h
  split at h
  · split at h
    · obtain ⟨-, rfl⟩ := Prod.mk.inj (Option.some.inj h)
      exact .refl _ _ _
    · obtain ⟨-, rfl⟩ := Prod.mk.inj (Option.some.inj h)
      exact hub.advances_storeForPeer _ clock
  · obtain ⟨⟨response', node⟩, hdispatch, heq⟩ := Option.map_eq_some_iff.1 h
    obtain ⟨-, rfl⟩ := Prod.mk.inj heq
    exact advances_dispatch hdispatch

end Hub

end Hub

end MeshProtocol
