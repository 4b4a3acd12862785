import MeshProtocol.Hub.Tenant
import MeshProtocol.Library.Machine

/-!
# The admin API (`mesh-hub/src/admin.rs`)

The requests that read or change the tenant database.  Operator requests need the bearer token,
where one is configured; the two requests of the DID-Auth flow are public.  A handler holds the
database from its first statement to its last, so a request is one step.
-/

namespace MeshProtocol

/-- The third-party parsers of the texts in a request. -/
class RequestText where
  /-- `Uuid::parse_str`. -/
  parseUuid : String → Option Uuid
  /-- `hex::decode`. -/
  hexDecode : String → Option (List UInt8)

open RequestText

/-! ## Requests and responses -/

/-- Shared state for admin API handlers. -/
structure AdminState where
  tenantManager : TenantDb
  /-- Hub DID for challenge generation. -/
  hubDid : Option String
  /-- Operator bearer token for admin API authentication. -/
  operatorToken : Option String

/-- What the handler of a request draws from the system: a random UUID, random bytes, the clock. -/
structure Draw where
  uuid : Uuid
  nonce : { bytes : List UInt8 // bytes.length = 32 }
  clock : UInt64

/-- The body of a verification request; identity and signature are hex-encoded. -/
structure VerifyIdentityRequest where
  challengeId : String
  identityBytes : String
  did : String
  signature : String

/-- A request, with the text of its authorization header if it is an operator's. -/
inductive AdminRequest where
  | createTenant (authorization : Option String) (name : String) (tier : Option String)
  | listTenants (authorization : Option String)
  | getTenant (authorization : Option String) (id : String)
  | deleteTenant (authorization : Option String) (id : String)
  | registerIdentity (authorization : Option String) (id did identityBytes : String)
  | removeIdentity (authorization : Option String) (id did : String)
  | getTenantUsage (authorization : Option String) (id : String)
  | updateTenantQuota (authorization : Option String) (id : String)
    (maxDescriptors maxStorageBytes : Option UInt64) (muLimit : Option ℤ)
  | createIdentityChallenge (id action : String)
  | verifyIdentity (id : String) (req : VerifyIdentityRequest)

/-- The JSON body of a response. -/
inductive Body where
  | empty
  | error (text : String)
  | tenant (t : Tenant)
  | tenants (ts : List Tenant)
  | usage (u : TenantUsage)
  | challenge (c : DIDAuthChallenge)
  | registered (did : String)
deriving DecidableEq

/-- A status code and a body. -/
structure AdminResponse where
  status : ℕ
  body : Body
deriving DecidableEq

namespace AdminState

/-- A hub with a new tenant database. -/
def new (foreignKeys : Bool) (hubDid operatorToken : Option String) : AdminState :=
  ⟨.new foreignKeys, hubDid, operatorToken⟩

/-! ## Operator requests -/

/-- Validates the operator bearer token; without a configured token access is open. -/
def checkOperatorToken (s : AdminState) (authorization : Option String) : Except ℕ Unit :=
  match s.operatorToken with
  | none => .ok ()
  | some expected =>
    if authorization.getD "" = "Bearer " ++ expected then .ok () else .error 401

/-- An operator's request. -/
def forOperator (s : AdminState) (authorization : Option String)
    (handler : AdminResponse × AdminState) : AdminResponse × AdminState :=
  match s.checkOperatorToken authorization with
  | .error status => (⟨status, .empty⟩, s)
  | .ok () => handler

variable [RequestText]

/-- An operator's request about the tenant in its path. -/
def forTenant (s : AdminState) (authorization : Option String) (id : String)
    (handler : Uuid → AdminResponse × AdminState) : AdminResponse × AdminState :=
  s.forOperator authorization <|
    match parseUuid id with
    | none => (⟨400, .error "invalid uuid"⟩, s)
    | some uuid => handler uuid

omit [RequestText] in
def createTenant (s : AdminState) (draw : Draw) (authorization : Option String) (name : String)
    (tier : Option String) : AdminResponse × AdminState :=
  s.forOperator authorization <|
    match s.tenantManager.createTenant draw.uuid draw.clock name (tier.getD "free") with
    | (.ok tenant, db) => (⟨201, .tenant tenant⟩, { s with tenantManager := db })
    | (.error e, db) => (⟨500, .error e.message⟩, { s with tenantManager := db })

omit [RequestText] in
def listTenants (s : AdminState) (authorization : Option String) : AdminResponse × AdminState :=
  s.forOperator authorization (⟨200, .tenants s.tenantManager.listTenants⟩, s)

def getTenant (s : AdminState) (authorization : Option String) (id : String) :
    AdminResponse × AdminState :=
  s.forTenant authorization id fun uuid =>
    match s.tenantManager.getTenant uuid with
    | some tenant => (⟨200, .tenant tenant⟩, s)
    | none => (⟨404, .empty⟩, s)

def deleteTenant (s : AdminState) (authorization : Option String) (id : String) :
    AdminResponse × AdminState :=
  s.forTenant authorization id fun uuid =>
    let (deleted, db) := s.tenantManager.deleteTenant uuid
    (⟨if deleted then 204 else 404, .empty⟩, { s with tenantManager := db })

/-- Direct identity registration. -/
def registerIdentity (s : AdminState) (draw : Draw) (authorization : Option String)
    (id did identityBytes : String) : AdminResponse × AdminState :=
  s.forTenant authorization id fun uuid =>
    match hexDecode identityBytes with
    | none => (⟨400, .error "invalid hex for identity_bytes"⟩, s)
    | some bytes =>
      match s.tenantManager.registerIdentity draw.clock uuid bytes did with
      | (.ok (), db) => (⟨201, .empty⟩, { s with tenantManager := db })
      | (.error e, db) => (⟨500, .error e.message⟩, { s with tenantManager := db })

def removeIdentity (s : AdminState) (authorization : Option String) (id did : String) :
    AdminResponse × AdminState :=
  s.forTenant authorization id fun uuid =>
    let (removed, db) := s.tenantManager.removeIdentity uuid did
    (⟨if removed then 204 else 404, .empty⟩, { s with tenantManager := db })

def getTenantUsage (s : AdminState) (authorization : Option String) (id : String) :
    AdminResponse × AdminState :=
  s.forTenant authorization id fun uuid =>
    match s.tenantManager.getUsage uuid with
    | .ok usage => (⟨200, .usage usage⟩, s)
    | .error e => (⟨500, .error e.message⟩, s)

def updateTenantQuota (s : AdminState) (authorization : Option String) (id : String)
    (maxDescriptors maxStorageBytes : Option UInt64) (muLimit : Option ℤ) :
    AdminResponse × AdminState :=
  s.forTenant authorization id fun uuid =>
    match s.tenantManager.getTenant uuid with
    | none => (⟨404, .empty⟩, s)
    | some _ =>
      let db := s.tenantManager.updateQuotas uuid maxDescriptors maxStorageBytes muLimit
      let body := ((db.getTenant uuid).map Body.tenant).getD .empty
      (⟨200, body⟩, { s with tenantManager := db })

/-! ## The DID-Auth flow -/

/-- Creates a challenge for the tenant in the path, if there is such a tenant. -/
def createIdentityChallenge (s : AdminState) (draw : Draw) (id action : String) :
    AdminResponse × AdminState :=
  match parseUuid id with
  | none => (⟨400, .error "invalid uuid"⟩, s)
  | some uuid =>
    match s.tenantManager.getTenant uuid with
    | none => (⟨404, .empty⟩, s)
    | some _ =>
      match s.tenantManager.createChallenge draw.uuid draw.nonce draw.clock uuid
        (s.hubDid.getD "") action with
      | (.ok challenge, db) => (⟨201, .challenge challenge⟩, { s with tenantManager := db })
      | (.error e, db) => (⟨500, .error e.message⟩, { s with tenantManager := db })

/-- What a verification request says, parsed. -/
structure Verification where
  tenantUuid : Uuid
  challengeUuid : Uuid
  idBytes : List UInt8
  identity : Identity
  sigBytes : List UInt8

variable [Crypto]

/-- Parses a verification request; the DID must be that of the identity. -/
def parseVerification (id : String) (req : VerifyIdentityRequest) : Except String Verification :=
  match parseUuid id with
  | none => .error "invalid tenant uuid"
  | some tenantUuid =>
    match parseUuid req.challengeId with
    | none => .error "invalid challenge_id"
    | some challengeUuid =>
      match hexDecode req.identityBytes with
      | none => .error "invalid hex for identity_bytes"
      | some idBytes =>
        match hexDecode req.signature with
        | none => .error "invalid hex for signature"
        | some sigBytes =>
          match idBytes with
          | algorithm :: key :: keys =>
            let identity : Identity := ⟨algorithm, key :: keys⟩
            if identity.did ≠ req.did then .error "DID does not match identity"
            else .ok ⟨tenantUuid, challengeUuid, idBytes, identity, sigBytes⟩
          | _ => .error "identity_bytes too short"

/-- Consumes the challenge that the request names, if it is signed by the identity, and registers
the identity under the tenant in the path. -/
def verifyIdentity (s : AdminState) (draw : Draw) (id : String) (req : VerifyIdentityRequest) :
    AdminResponse × AdminState :=
  match parseVerification id req with
  | .error text => (⟨400, .error text⟩, s)
  | .ok v =>
    match s.tenantManager.getChallenge v.challengeUuid with
    | none => (⟨404, .error "challenge not found or already consumed"⟩, s)
    | some challenge =>
      if challenge.isExpired draw.clock then (⟨410, .error "challenge expired"⟩, s)
      else
        match challenge.verify v.identity v.sigBytes with
        | .error e => (⟨403, .error e⟩, s)
        | .ok () =>
          match s.tenantManager.consumeChallenge v.challengeUuid with
          | (.error e, db) => (⟨409, .error e⟩, { s with tenantManager := db })
          | (.ok (), db) =>
            match db.registerIdentity draw.clock v.tenantUuid v.idBytes req.did with
            | (.error e, db) => (⟨500, .error e.message⟩, { s with tenantManager := db })
            | (.ok (), db) => (⟨200, .registered req.did⟩, { s with tenantManager := db })

/-- Answers a request. -/
def handle (s : AdminState) (draw : Draw) : AdminRequest → AdminResponse × AdminState
  | .createTenant authorization name tier => s.createTenant draw authorization name tier
  | .listTenants authorization => s.listTenants authorization
  | .getTenant authorization id => s.getTenant authorization id
  | .deleteTenant authorization id => s.deleteTenant authorization id
  | .registerIdentity authorization id did identityBytes =>
    s.registerIdentity draw authorization id did identityBytes
  | .removeIdentity authorization id did => s.removeIdentity authorization id did
  | .getTenantUsage authorization id => s.getTenantUsage authorization id
  | .updateTenantQuota authorization id maxDescriptors maxStorageBytes muLimit =>
    s.updateTenantQuota authorization id maxDescriptors maxStorageBytes muLimit
  | .createIdentityChallenge id action => s.createIdentityChallenge draw id action
  | .verifyIdentity id req => s.verifyIdentity draw id req

/-- The admin API as a machine. -/
def machine : Machine AdminState (AdminRequest × Draw) AdminResponse where
  step s i := s.handle i.2 i.1

end AdminState

end MeshProtocol
