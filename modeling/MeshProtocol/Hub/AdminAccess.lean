import MeshProtocol.Hub.AdminRoutes
import MeshProtocol.Hub.Redb
import MeshProtocol.Library.Unwinding

/-!
# Who may do what at the admin API (`mesh-hub/src/admin.rs`)

`admin_router` merges two groups of routes.  The operator's need the bearer token, where one is
configured; health, status and the DID-Auth flow are public.  All of them share the tenant database
and the node, which the other tasks of the hub change meanwhile; a task that panics with the node
poisons the lock around it, which `readyz` reports and at which `hub_status` panics in turn.

What the token is worth is said twice, for every run with requests of operators and outsiders in any
order.  An outsider can do nothing but register an identity that signs for itself
(`outsiders_only_verify`), and is told nothing of the tenants but their ids and how many there are
(`outsiders_told_same`).
-/

namespace MeshProtocol

open RequestText

/-! ## The router -/

/-- The body of the status of a hub. -/
structure HubStatus where
  uptimeSecs : ℕ
  descriptorCount : ℕ
  routingKeyCount : ℕ
  tenantCount : ℕ
deriving DecidableEq

/-- A request to a route of the router. -/
inductive ApiRequest where
  | healthz
  | readyz
  | hubStatus
  | prometheusMetrics (authorization : Option String)
  | tenants (request : AdminRequest)

/-- The authorization header of a request, where its route looks at it. -/
def ApiRequest.authorization : ApiRequest → Option String
  | .prometheusMetrics authorization => authorization
  | .tenants request => request.authorization
  | _ => none

/-- An answer of the router. -/
inductive ApiResponse where
  | status (code : ℕ)
  | hubStatus (body : HubStatus)
  | text (code : ℕ) (body : String)
  | tenants (response : AdminResponse)
  /-- The handler panics, and the connection is closed without an answer. -/
  | dropped
deriving DecidableEq

/-- What happens at the router: a request, with what its handler draws and the seconds since the
start; or the other tasks of the hub leave the storage, or the lock around it poisoned, and the
metrics in some state. -/
inductive ApiEvent (S : Type) where
  | request (request : ApiRequest) (draw : Draw) (uptimeSecs : ℕ)
  | work (store : Option S) (metrics : Option String)

/-- The state behind the router. -/
structure AdminApi (S : Type) where
  admin : AdminState
  /-- The storage; `none` once the lock around the node is poisoned. -/
  store : Option S
  /-- What the metrics render as, if they are enabled. -/
  metrics : Option String

namespace AdminApi

variable {S : Type}

/-- Whether the storage is accessible. -/
def readyz (a : AdminApi S) : ApiResponse :=
  match a.store with
  | none => .status 503
  | some _ => .status 200

/-- Counts for the dashboard. -/
def hubStatus [DescriptorStorage S] (a : AdminApi S) (uptimeSecs : ℕ) : ApiResponse :=
  match a.store with
  | none => .dropped
  | some store =>
    .hubStatus
      { uptimeSecs
        descriptorCount := DescriptorStorage.descriptorCount store
        routingKeyCount := DescriptorStorage.routingKeyCount store
        tenantCount := a.admin.tenantManager.listTenants.length }

def prometheusMetrics (a : AdminApi S) (authorization : Option String) : ApiResponse :=
  match a.admin.checkOperatorToken authorization with
  | .error status => .status status
  | .ok () =>
    match a.metrics with
    | none => .text 503 "metrics not enabled"
    | some body => .text 200 body

variable [DescriptorStorage S] [RequestText] [Crypto]

/-- Answers a request. -/
def answer (a : AdminApi S) (draw : Draw) (uptimeSecs : ℕ) :
    ApiRequest → ApiResponse × AdminApi S
  | .healthz => (.status 200, a)
  | .readyz => (a.readyz, a)
  | .hubStatus => (a.hubStatus uptimeSecs, a)
  | .prometheusMetrics authorization => (a.prometheusMetrics authorization, a)
  | .tenants request =>
    let (response, admin) := a.admin.handle draw request
    (.tenants response, { a with admin })

/-- The router as a machine. -/
def machine : Machine (AdminApi S) (ApiEvent S) (Option ApiResponse) where
  step a
    | .request request draw uptimeSecs =>
      let (response, a) := a.answer draw uptimeSecs request
      (some response, a)
    | .work store metrics => (none, { a with store, metrics })

end AdminApi

/-! ## Runs of the router -/

namespace AdminApi

variable {S : Type} {token : String}

/-- The request carries the token of the operator. -/
def carries (token : String) (request : ApiRequest) : Bool :=
  request.authorization = some ("Bearer " ++ token)

/-- A request that does not carry the token. -/
def fromOutside (token : String) : ApiEvent S → Bool
  | .request request _ _ => !carries token request
  | .work _ _ => false

/-- What the operator is told, the removals of identities aside. -/
def toldOperator (token : String) : ApiEvent S × Option ApiResponse → Option ApiResponse
  | (.request (.tenants request) _ _, response) =>
    if carries token (.tenants request) && !request.removes then response else none
  | (.request request _ _, response) => if carries token request then response else none
  | (.work _ _, _) => none

lemma prometheusMetrics_eq {a : AdminApi S} (htoken : a.admin.operatorToken = some token)
    (authorization : Option String) : a.prometheusMetrics authorization =
      if authorization = some ("Bearer " ++ token) then
        (a.metrics.map (ApiResponse.text 200)).getD (.text 503 "metrics not enabled")
      else .status 401 := by
  rw [prometheusMetrics, AdminState.checkOperatorToken_of_some htoken]
  split_ifs
  · cases a.metrics with
    | none => rfl
    | some body => rfl
  · rfl

variable [DescriptorStorage S] [RequestText] [Crypto]

/-- Two routers with the same tenants, node and metrics. -/
structure SameTenants (token : String) (a a' : AdminApi S) : Prop where
  admin : a.admin.SameTenants token a'.admin
  store : a.store = a'.store
  metrics : a.metrics = a'.metrics

/-- Requests from outside do not interfere with the tenants. -/
theorem unwinds_sameTenants (token : String) : Machine.Unwinds (machine (S := S))
    (fromOutside token) (toldOperator token) (fun _ => True) (SameTenants token) where
  hide := by
    intro a a' i h _ hhidden
    cases i with
    | work store metrics => cases hhidden
    | request request draw uptimeSecs =>
      have hnot : carries token request = false := by simpa [fromOutside] using hhidden
      cases request with
      | tenants request =>
        have hrequest : request.authorization ≠ some ("Bearer " ++ token) := of_decide_eq_false hnot
        refine ⟨by simp [toldOperator, hnot], h.admin.hide hrequest draw, h.store, h.metrics⟩
      | _ => exact ⟨by simp [toldOperator, hnot], h⟩
  keep := by
    intro a a' i h _ hshown
    cases i with
    | work store metrics => exact ⟨rfl, h.admin, rfl, rfl⟩
    | request request draw uptimeSecs =>
      have hcarries : carries token request = true := by simpa [fromOutside] using hshown
      cases request with
      | tenants request =>
        have hrequest : request.authorization = some ("Bearer " ++ token) :=
          of_decide_eq_true hcarries
        obtain ⟨hanswer, hadmin⟩ := h.admin.keep hrequest draw
        refine ⟨?_, hadmin, h.store, h.metrics⟩
        cases hremoves : request.removes with
        | true => simp [toldOperator, hremoves]
        | false =>
          have hsame := congrArg (fun r => some (ApiResponse.tenants r)) (hanswer hremoves)
          simp only [toldOperator, hremoves, hcarries, Bool.not_false, Bool.and_self, if_true]
          exact hsame
      | prometheusMetrics authorization =>
        refine ⟨?_, h⟩
        have hsame : a.prometheusMetrics authorization = a'.prometheusMetrics authorization := by
          rw [prometheusMetrics_eq h.admin.token_left, prometheusMetrics_eq h.admin.token_right,
            h.metrics]
        exact congrArg (fun r => if carries token (.prometheusMetrics authorization) then some r
          else none) hsame
      | healthz => cases hcarries
      | readyz => cases hcarries
      | hubStatus => cases hcarries

/-- Two routers that tell outsiders the same. -/
structure SameOutside (token : String) (a a' : AdminApi S) : Prop where
  admin : a.admin.SameOutside token a'.admin
  store : a.store = a'.store

/-- The token stays configured, and each challenge keeps its id for itself. -/
lemma keyed_step {a : AdminApi S} (htoken : a.admin.operatorToken = some token)
    (hkeyed : a.admin.Keyed) (i : ApiEvent S) :
    (machine.step a i).2.admin.operatorToken = some token ∧ (machine.step a i).2.admin.Keyed := by
  cases i with
  | work store metrics => exact ⟨htoken, hkeyed⟩
  | request request draw uptimeSecs =>
    cases request with
    | tenants request =>
      refine ⟨?_, (AdminState.step_owners hkeyed (request, draw)).1⟩
      have hself : a.admin.SameTenants token a.admin := ⟨htoken, htoken, rfl, rfl⟩
      by_cases hcarries : request.authorization = some ("Bearer " ++ token)
      · exact (hself.keep hcarries draw).2.token_left
      · exact (hself.hide hcarries draw).token_left
    | _ => exact ⟨htoken, hkeyed⟩

lemma keyed_run {a : AdminApi S} (htoken : a.admin.operatorToken = some token)
    (hkeyed : a.admin.Keyed) (events : List (ApiEvent S)) :
    (machine.run a events).admin.operatorToken = some token ∧
      (machine.run a events).admin.Keyed :=
  Machine.run_invariant (P := fun b : AdminApi S => b.admin.operatorToken = some token ∧
    b.admin.Keyed) ⟨htoken, hkeyed⟩ (fun _ i h => keyed_step h.1 h.2 i) events

/-- A request of the run vouches for the identity under the tenant, when it comes. -/
def Vouched (token : String) (a : AdminApi S) (events : List (ApiEvent S)) (tenantId : Uuid)
    (bytes : List UInt8) : Prop :=
  ∃ pre request draw uptimeSecs, pre ++ [.request (.tenants request) draw uptimeSecs] <+: events ∧
    (machine.run a pre).admin.Vouches token draw tenantId bytes request

/-- Every identity that is registered after a run was before it, or is vouched for. -/
lemma vouched_of_registered {a : AdminApi S} (htoken : a.admin.operatorToken = some token)
    (hkeyed : a.admin.Keyed) (events : List (ApiEvent S)) (tenantId : Uuid) (bytes : List UInt8) :
    (machine.run a events).admin.Registered tenantId bytes →
      a.admin.Registered tenantId bytes ∨ Vouched token a events tenantId bytes := by
  have hstate := fun pre => keyed_run htoken hkeyed pre
  refine Machine.prefix_induction (P := fun events =>
    (machine.run a events).admin.Registered tenantId bytes →
      a.admin.Registered tenantId bytes ∨ Vouched token a events tenantId bytes)
    .inl fun pre i _ ih h => ?_
  have hbefore (hold : (machine.run a pre).admin.Registered tenantId bytes) :
      a.admin.Registered tenantId bytes ∨ Vouched token a (pre ++ [i]) tenantId bytes := by
    refine (ih hold).imp_right ?_
    rintro ⟨pre', request, draw, uptimeSecs, hpre, hvouches⟩
    exact ⟨pre', request, draw, uptimeSecs, hpre.trans (List.prefix_append pre [i]), hvouches⟩
  rw [Machine.run_concat] at h
  cases i with
  | work store metrics => exact hbefore h
  | request request draw uptimeSecs =>
    cases request with
    | tenants request =>
      obtain ⟨htoken', hkeyed'⟩ := hstate pre
      cases AdminState.registered_step htoken' hkeyed' draw request h with
      | inl hold => exact hbefore hold
      | inr hvouches => exact .inr ⟨pre, request, draw, uptimeSecs, List.prefix_rfl, hvouches⟩
    | _ => exact hbefore h

/-- No registration is lost to a request from outside. -/
lemma registered_of_fromOutside {a : AdminApi S} (htoken : a.admin.operatorToken = some token)
    (hkeyed : a.admin.Keyed) {i : ApiEvent S} (hi : fromOutside token i = true) {tenantId : Uuid}
    {bytes : List UInt8} (h : a.admin.Registered tenantId bytes) :
    (machine.step a i).2.admin.Registered tenantId bytes := by
  cases i with
  | work store metrics => exact h
  | request request draw uptimeSecs =>
    cases request with
    | tenants request =>
      have hnot : carries token (.tenants request) = false := by simpa [fromOutside] using hi
      exact AdminState.registered_of_not_carries htoken hkeyed draw (of_decide_eq_false hnot) h
    | _ => exact h

/-- An outsider can do nothing but register an identity that signs for itself: without the requests
from outside, the tenants and what the operator is told of them are the same; every identity that a
run registers is vouched for; and no registration is lost to a request from outside. -/
theorem outsiders_only_verify {a : AdminApi S} (htoken : a.admin.operatorToken = some token)
    (hkeyed : a.admin.Keyed) (events : List (ApiEvent S)) :
    (machine.run a events).admin.tenantManager.tenants =
        (machine.run a (Machine.purge (fromOutside token) events)).admin.tenantManager.tenants ∧
      (machine.trace a events).filterMap (toldOperator token) =
        (machine.trace a (Machine.purge (fromOutside token) events)).filterMap
          (toldOperator token) ∧
      (∀ tenantId bytes, (machine.run a events).admin.Registered tenantId bytes →
        a.admin.Registered tenantId bytes ∨ Vouched token a events tenantId bytes) ∧
      ∀ pre i, pre ++ [i] <+: events → fromOutside token i = true → ∀ tenantId bytes,
        (machine.run a pre).admin.Registered tenantId bytes →
          (machine.run a (pre ++ [i])).admin.Registered tenantId bytes := by
  obtain ⟨hsame, htold⟩ := (unwinds_sameTenants token).purge_run
    ⟨⟨htoken, htoken, rfl, rfl⟩, rfl, rfl⟩ fun _ _ => trivial
  refine ⟨hsame.admin.tenants, htold, vouched_of_registered htoken hkeyed events, ?_⟩
  intro pre i _ hi tenantId bytes h
  obtain ⟨htoken', hkeyed'⟩ := keyed_run htoken hkeyed pre
  rw [Machine.run_concat]
  exact registered_of_fromOutside htoken' hkeyed' hi h

end AdminApi

/-! ## A guarded router -/

namespace AdminApi

/-- A hub with a token and no tenants. -/
def guarded : AdminApi RedbStorage where
  admin := .new true (some "did:mesh:zHub") (some "s3cret")
  store := some .new
  metrics := none

/-- The operator creates a tenant, an outsider tries to, and the second publisher registers itself
with the tenant. -/
def guardedRun [Crypto] : List (ApiEvent RedbStorage) :=
  let draw (n : ℕ) : Draw := ⟨uuidOf n, AdminState.sampleChallenge.nonce, 1700000000000000⟩
  let request (n : ℕ) (request : AdminRequest) : ApiEvent RedbStorage :=
    .request (.tenants request) (draw n) 60
  [request 1 (.createTenant (some "Bearer s3cret") "first" none),
    request 2 (.createTenant none "second" none),
    request 3 (.createIdentityChallenge (Uuid.hyphenated (uuidOf 1)) "register"),
    request 4 (.verifyIdentity (Uuid.hyphenated (uuidOf 1)) AdminState.crossedVerification)]

local instance : Crypto := tableCrypto []
  [(secondPublisher.publicKey, AdminState.sampleChallenge.toSignableBytes,
    AdminState.sampleSignature)]
local instance : DescriptorCodec := wireCodec
local instance : RequestText := AdminState.tableText [uuidOf 1, uuidOf 3]
  [identityBytes secondPublisher, AdminState.sampleSignature]

/-- The outsider's tenant is not created, and the publisher is registered because it signed. -/
theorem guarded_run_vouched :
    (machine.run guarded guardedRun).admin.tenantManager.tenants.map Tenant.name = ["first"] ∧
      Vouched "s3cret" guarded guardedRun (uuidOf 1) (identityBytes secondPublisher) := by
  have htoken : guarded.admin.operatorToken = some "s3cret" := rfl
  obtain ⟨htenants, -, hvouched, -⟩ := outsiders_only_verify htoken List.nodup_nil guardedRun
  constructor
  · rw [htenants]
    decide +kernel
  · refine (hvouched _ _ ?_).resolve_left ?_
    · unfold AdminState.Registered
      decide +kernel
    · rintro ⟨row, hrow, -⟩
      cases hrow

end AdminApi

end MeshProtocol
