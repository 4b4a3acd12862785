import MeshProtocol.Dht.Node
import Mathlib.Data.List.MinMax
import Mathlib.Data.String.Basic

/-!
# Policy and rate limits of a hub (`mesh-hub/src/policy.rs`, `rate_limit.rs`, `hooks.rs`)

What a hub checks before it stores a descriptor for a client: a sliding window for each publisher,
and the store policy.  Both are reached through the hooks of the hub's DHT node.

Of the tenant database (`tenant.rs`) the checks use which identities are registered for a tenant.
The windows hold readings of the monotonic clock, which is not the clock that descriptors are
checked by.  An `Instant` is its nanoseconds since some start; `duration_since` saturates, as
subtraction of natural numbers does.
-/

namespace MeshProtocol

open Std

/-! ## Policy -/

/-- Who may store. -/
inductive StoreMode where
  | «open»
  | tenantOnly
  | allowlist
deriving DecidableEq, Repr

/-- The policy section of a hub's configuration. -/
structure PolicyConfig where
  storeMode : StoreMode := .open
  /-- DIDs. -/
  blockedIdentities : List String := []
  /-- Hex digests. -/
  blockedRoutingKeys : List String := []

/-- `PolicyEngine::check_store`: whether a descriptor is allowed by policy. -/
def PolicyConfig.checkStore [Crypto] (config : PolicyConfig) (d : Descriptor) (isTenant : Bool) :
    Except String Unit :=
  if (config.storeMode = .tenantOnly ∨ config.storeMode = .allowlist) ∧ !isTenant then
    .error "policy"
  else if d.publisher.did ∈ config.blockedIdentities then .error "policy"
  else if ∃ rk ∈ d.routingKeys, rk.toHex ∈ config.blockedRoutingKeys then .error "policy"
  else .ok ()

/-! ## Rate limits -/

/-- Operation types for rate limiting granularity. -/
inductive Operation where
  | connect
  | store
  | query
deriving DecidableEq, Repr

/-- The limits for each identity. -/
structure RateLimitConfig where
  /-- Operations per window; no limit where there is none. -/
  identityLimits : Operation → Option UInt32 := fun
    | .store => some 20
    | .query => some 200
    | .connect => none
  windowSecs : UInt64 := 60

/-- The identity asked too often. -/
inductive RateLimitError where
  | identityRateLimited (did : String) (operation : Operation) (limit : UInt32)
deriving DecidableEq, Repr

/-- Sliding windows for each operation, by identity bytes. -/
structure HubRateLimiter where
  config : RateLimitConfig
  identityWindows : Operation → ExtTreeMap (List UInt8) (List ℕ)

namespace HubRateLimiter

/-- A rate limiter that has seen nothing. -/
def new (config : RateLimitConfig) : HubRateLimiter := ⟨config, fun _ => ∅⟩

/-- The recorded times that are still in the window. -/
def recent (l : HubRateLimiter) (key : List UInt8) (op : Operation) (now : ℕ) : List ℕ :=
  ((l.identityWindows op).getD key []).dropWhile fun front =>
    l.config.windowSecs.toNat * 1000000000 < now - front

/-- Checks whether an identity is within its limit for an operation, and records the request if it
is. -/
def checkIdentity [Crypto] (l : HubRateLimiter) (identity : Identity) (op : Operation)
    (now : ℕ) : Except RateLimitError Unit × HubRateLimiter :=
  match l.config.identityLimits op with
  | none => (.ok (), l)
  | some limit =>
    let key := identityBytes identity
    let deque := l.recent key op now
    let record (deque : List ℕ) : HubRateLimiter :=
      { l with
        identityWindows := Function.update l.identityWindows op
          ((l.identityWindows op).insert key deque) }
    if limit ≤ deque.length.toUInt32 then
      (.error (.identityRateLimited identity.did op limit), record deque)
    else (.ok (), record (deque ++ [now]))

end HubRateLimiter

/-! ## Hooks -/

/-- The identities registered for tenants, each with the id of its tenant. -/
structure TenantManager where
  identities : List (List UInt8 × String)

/-- Which tenant owns an identity.  The query asks for no order and reads the index of the primary
key, whose first column is the tenant, so it meets the smallest id first. -/
def TenantManager.findTenantByIdentity (t : TenantManager) (bytes : List UInt8) : Option String :=
  ((t.identities.filter (·.1 = bytes)).map Prod.snd).argmin id

/-- The hook that enforces policy and rate limits on incoming DHT operations. -/
structure HubProtocolHook where
  policy : PolicyConfig
  tenantManager : TenantManager
  rateLimiter : HubRateLimiter
  /-- What the monotonic clock shows, `Instant::now`. -/
  instant : ℕ

namespace HubProtocolHook

/-- Whether the publisher of a descriptor is a tenant. -/
def isTenant (h : HubProtocolHook) (d : Descriptor) : Bool :=
  (h.tenantManager.findTenantByIdentity (identityBytes d.publisher)).isSome

variable [Crypto]

/-- What the policy says about a descriptor at this moment. -/
def checkStore (h : HubProtocolHook) (d : Descriptor) : Except String Unit :=
  h.policy.checkStore d (h.isTenant d)

/-- The checks before a descriptor is stored: the publisher's rate limit, then the policy. -/
def checked (h : HubProtocolHook) (d : Descriptor) : Except String Unit × HubProtocolHook :=
  match h.rateLimiter.checkIdentity d.publisher .store h.instant with
  | (.error _, rateLimiter) => (.error "rate limited", { h with rateLimiter })
  | (.ok (), rateLimiter) => (h.checkStore d, { h with rateLimiter })

instance : ProtocolHook HubProtocolHook where
  preStore h d _ := h.checked d

/-- The hook lets a descriptor pass only if the policy does. -/
lemma checkStore_of_preStore {h : HubProtocolHook} {d : Descriptor} {clock : UInt64}
    (hpre : (ProtocolHook.preStore h d clock).1 = .ok ()) : h.checkStore d = .ok () := by
  change (h.checked d).1 = .ok () at hpre
  unfold checked at hpre
  split at hpre
  · cases hpre
  · exact hpre

/-- The checks change the windows only. -/
lemma preStore_snd (h : HubProtocolHook) (d : Descriptor) (clock : UInt64) :
    ∃ rateLimiter, (ProtocolHook.preStore h d clock).2 = { h with rateLimiter } := by
  change ∃ rateLimiter, (h.checked d).2 = { h with rateLimiter }
  unfold checked
  split
  · exact ⟨_, rfl⟩
  · exact ⟨_, rfl⟩

end HubProtocolHook

end MeshProtocol
