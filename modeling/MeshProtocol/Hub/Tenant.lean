import MeshProtocol.Hub.Policy
import MeshProtocol.Library.Cbor
import MeshProtocol.Library.Machine

/-!
# Tenants and challenges (`mesh-hub/src/tenant.rs`, `auth.rs`)

The tenant database has three tables: the tenants, the identities registered for them, and the
DID-Auth challenges.  A table is the list of its rows in the order of their row ids, in which a
query that reads no index returns them.  The primary keys are checked on insertion;
whether foreign keys are is decided where SQLite is built, and is a field of the database.

Ids are written to the tables as text and parsed when they are read; the model keeps the ids
themselves.  Random ids and nonces and clock readings are arguments.
-/

namespace MeshProtocol

open Bytes

/-- A UUID: 16 bytes. -/
abbrev Uuid := { bytes : List UInt8 // bytes.length = 16 }

/-- The hyphenated text of a UUID. -/
def Uuid.hyphenated (u : Uuid) : String :=
  String.intercalate "-" ([(0, 4), (4, 2), (6, 2), (8, 2), (10, 6)].map fun (start, n) =>
    hexEncode ((u.val.drop start).take n))

/-- The UUID of a number. -/
def uuidOf (n : ℕ) : Uuid := ⟨beBytes 16 n, length_beBytes 16 n⟩

/-! ## Challenges -/

/-- Challenge validity window: 5 minutes in microseconds. -/
def CHALLENGE_TTL_MICROS : UInt64 := 5 * 60 * 1000000

/-- A DID-Auth challenge issued by the hub. -/
structure DIDAuthChallenge where
  id : Uuid
  nonce : { bytes : List UInt8 // bytes.length = 32 }
  hubDid : String
  action : String
  issuedAt : UInt64
  expiry : UInt64
deriving DecidableEq

namespace DIDAuthChallenge

/-- A new challenge with the given id and nonce, which expires after five minutes. -/
def new (id : Uuid) (nonce : { bytes : List UInt8 // bytes.length = 32 }) (now : UInt64)
    (hubDid action : String) : DIDAuthChallenge where
  id := id
  nonce := nonce
  hubDid := hubDid
  action := action
  issuedAt := now
  expiry := now + CHALLENGE_TTL_MICROS

/-- The bytes that are signed: a CBOR map of nonce, action, hub DID and time of issue. -/
def toSignableBytes (c : DIDAuthChallenge) : List UInt8 :=
  Cbor.encode (.map [
    (.text "nonce", .bytes c.nonce.val),
    (.text "action", .text c.action),
    (.text "hub_did", .text c.hubDid),
    (.text "issued_at", .integer c.issuedAt.toNat)])

/-- Verifies a signature over the signable bytes using the given identity. -/
def verify [Crypto] (c : DIDAuthChallenge) (identity : Identity) (signature : List UInt8) :
    Except String Unit :=
  match identity.verify c.toSignableBytes signature with
  | .error e => .error ("signature verification failed: " ++ e.message)
  | .ok () => .ok ()

/-- Whether the challenge has expired. -/
def isExpired (c : DIDAuthChallenge) (nowMicros : UInt64) : Bool := c.expiry ≤ nowMicros

end DIDAuthChallenge

/-! ## Rows -/

/-- A hub tenant account. -/
structure Tenant where
  id : Uuid
  name : String
  tier : String
  maxDescriptors : UInt64
  maxStorageBytes : UInt64
  maxQueryRate : UInt32
  maxStoreRate : UInt32
  currentDescriptors : UInt64
  currentBytes : UInt64
  muBalance : ℤ
  muLimit : ℤ
  createdAt : UInt64
deriving DecidableEq

/-- Tenant usage summary. -/
structure TenantUsage where
  currentDescriptors : UInt64
  currentBytes : UInt64
  muBalance : ℤ
  muLimit : ℤ
deriving DecidableEq

/-- The quotas of a tier. -/
structure TierQuotas where
  maxDescriptors : UInt64
  maxStorageBytes : UInt64
  maxQueryRate : UInt32
  maxStoreRate : UInt32
  muLimit : ℤ

/-- The quotas of a tier, those of "free" for an unknown one. -/
def tierQuotas : String → TierQuotas
  | "starter" => ⟨1000, 10485760, 50, 5, 100000⟩
  | "pro" => ⟨10000, 104857600, 100, 10, 1000000⟩
  | "enterprise" => ⟨1000000, 10737418240, 1000, 100, 10000000⟩
  | _ => ⟨100, 1048576, 10, 1, 10000⟩

/-- A row of `tenant_identities`. -/
structure IdentityRow where
  tenantId : Uuid
  identityBytes : List UInt8
  did : String
  registeredAt : UInt64
deriving DecidableEq

/-- A row of `did_auth_challenges`. -/
structure ChallengeRow where
  tenantId : Uuid
  challenge : DIDAuthChallenge
  consumed : Bool
deriving DecidableEq

/-! ## The database -/

/-- The errors of the database that its statements can run into. -/
inductive DbError where
  | unique (column : String)
  | foreignKey
  | queryReturnedNoRows
deriving DecidableEq, Repr

/-- The texts of `rusqlite::Error`. -/
def DbError.message : DbError → String
  | .unique column => "UNIQUE constraint failed: " ++ column
  | .foreignKey => "FOREIGN KEY constraint failed"
  | .queryReturnedNoRows => "Query returned no rows"

/-- Error type for MU operations. -/
inductive MuError where
  | insufficientBalance (balance cost : ℤ)
  | db (e : DbError)
deriving DecidableEq, Repr

/-- The `#[error(...)]` texts. -/
def MuError.message : MuError → String
  | .insufficientBalance balance cost =>
    "insufficient MU balance: have " ++ toString balance ++ ", need " ++ toString cost
  | .db e => "database error: " ++ e.message

/-- The tables of the tenant database. -/
structure TenantDb where
  tenants : List Tenant
  identities : List IdentityRow
  challenges : List ChallengeRow
  /-- Whether foreign keys are enforced. -/
  foreignKeys : Bool

namespace TenantDb

/-- `TenantManager::open` on a new file. -/
def new (foreignKeys : Bool) : TenantDb := ⟨[], [], [], foreignKeys⟩

/-- Inserts a tenant with the quotas of its tier. -/
def createTenant (db : TenantDb) (id : Uuid) (now : UInt64) (name tier : String) :
    Except DbError Tenant × TenantDb :=
  let quotas := tierQuotas tier
  let tenant : Tenant :=
    { id, name, tier
      maxDescriptors := quotas.maxDescriptors
      maxStorageBytes := quotas.maxStorageBytes
      maxQueryRate := quotas.maxQueryRate
      maxStoreRate := quotas.maxStoreRate
      currentDescriptors := 0
      currentBytes := 0
      muBalance := quotas.muLimit
      muLimit := quotas.muLimit
      createdAt := now }
  if db.tenants.any (·.id = id) then (.error (.unique "tenants.id"), db)
  else (.ok tenant, { db with tenants := db.tenants ++ [tenant] })

def getTenant (db : TenantDb) (id : Uuid) : Option Tenant := db.tenants.find? (·.id = id)

def listTenants (db : TenantDb) : List Tenant := db.tenants

/-- Deletes a tenant with its identities, and says whether there was one. -/
def deleteTenant (db : TenantDb) (id : Uuid) : Bool × TenantDb :=
  (db.tenants.any (·.id = id),
    { db with
      identities := db.identities.filter (·.tenantId ≠ id)
      tenants := db.tenants.filter (·.id ≠ id) })

/-- `INSERT OR REPLACE` of the row of an identity under a tenant. -/
def registerIdentity (db : TenantDb) (now : UInt64) (tenantId : Uuid) (identityBytes : List UInt8)
    (did : String) : Except DbError Unit × TenantDb :=
  if db.foreignKeys ∧ db.getTenant tenantId = none then (.error .foreignKey, db)
  else
    let others := db.identities.filter fun row =>
      ¬ (row.tenantId = tenantId ∧ row.identityBytes = identityBytes)
    (.ok (), { db with identities := others ++ [⟨tenantId, identityBytes, did, now⟩] })

/-- Deletes an identity of a tenant by its DID, and says whether there was one. -/
def removeIdentity (db : TenantDb) (tenantId : Uuid) (did : String) : Bool × TenantDb :=
  (db.identities.any fun row => row.tenantId = tenantId ∧ row.did = did,
    { db with
      identities := db.identities.filter fun row => ¬ (row.tenantId = tenantId ∧ row.did = did) })

/-- Finds which tenant owns a given identity.  The query asks for no order and selects columns of
the primary key only, so its index is read, and the smallest id, as text, is met first. -/
def findTenantByIdentity (db : TenantDb) (identityBytes : List UInt8) : Option Uuid :=
  ((db.identities.filter (·.identityBytes = identityBytes)).map IdentityRow.tenantId).argmin
    Uuid.hyphenated

/-- Deducts MU from a tenant's balance, unless the balance is below the cost. -/
def deductMu (db : TenantDb) (tenantId : Uuid) (cost : ℤ) : Except MuError Unit × TenantDb :=
  match db.getTenant tenantId with
  | none => (.error (.db .queryReturnedNoRows), db)
  | some tenant =>
    if tenant.muBalance < cost then (.error (.insufficientBalance tenant.muBalance cost), db)
    else
      (.ok (), { db with
        tenants := db.tenants.map fun t =>
          if t.id = tenantId then { t with muBalance := t.muBalance - cost } else t })

/-- The usage summary of a tenant. -/
def getUsage (db : TenantDb) (id : Uuid) : Except DbError TenantUsage :=
  match db.getTenant id with
  | none => .error .queryReturnedNoRows
  | some t => .ok ⟨t.currentDescriptors, t.currentBytes, t.muBalance, t.muLimit⟩

/-- Updates the quota limits of a tenant that are given. -/
def updateQuotas (db : TenantDb) (id : Uuid) (maxDescriptors maxStorageBytes : Option UInt64)
    (muLimit : Option ℤ) : TenantDb :=
  let update (t : Tenant) : Tenant :=
    { t with
      maxDescriptors := maxDescriptors.getD t.maxDescriptors
      maxStorageBytes := maxStorageBytes.getD t.maxStorageBytes
      muLimit := muLimit.getD t.muLimit }
  { db with tenants := db.tenants.map fun t => if t.id = id then update t else t }

/-- Creates and stores a new DID-Auth challenge for a tenant. -/
def createChallenge (db : TenantDb) (id : Uuid)
    (nonce : { bytes : List UInt8 // bytes.length = 32 })
    (now : UInt64) (tenantId : Uuid) (hubDid action : String) :
    Except DbError DIDAuthChallenge × TenantDb :=
  let challenge := DIDAuthChallenge.new id nonce now hubDid action
  if db.challenges.any (·.challenge.id = challenge.id) then
    (.error (.unique "did_auth_challenges.id"), db)
  else (.ok challenge, { db with challenges := db.challenges ++ [⟨tenantId, challenge, false⟩] })

/-- Retrieves a stored challenge by id.  The tenant is not among the columns it selects. -/
def getChallenge (db : TenantDb) (id : Uuid) : Option DIDAuthChallenge :=
  (db.challenges.find? (·.challenge.id = id)).bind fun row =>
    if row.consumed then none else some row.challenge

/-- Marks a challenge as used, unless it is already. -/
def consumeChallenge (db : TenantDb) (id : Uuid) : Except String Unit × TenantDb :=
  match db.challenges.find? (·.challenge.id = id) with
  | none => (.error ("challenge not found: " ++ DbError.queryReturnedNoRows.message), db)
  | some row =>
    if row.consumed then (.error "challenge already consumed", db)
    else
      (.ok (), { db with
        challenges := db.challenges.map fun row =>
          if row.challenge.id = id then { row with consumed := true } else row })

end TenantDb

/-- The calls that change tenants or identities. -/
inductive TenantCall where
  | createTenant (id : Uuid) (now : UInt64) (name tier : String)
  | deleteTenant (id : Uuid)
  | registerIdentity (now : UInt64) (tenantId : Uuid) (identityBytes : List UInt8) (did : String)
  | removeIdentity (tenantId : Uuid) (did : String)
  | deductMu (tenantId : Uuid) (cost : ℤ)
  | updateQuotas (id : Uuid) (maxDescriptors maxStorageBytes : Option UInt64) (muLimit : Option ℤ)

/-- The answer to a call. -/
inductive TenantAnswer where
  | created (result : Except DbError Tenant)
  | deleted (found : Bool)
  | registered (result : Except DbError Unit)
  | removed (found : Bool)
  | deducted (result : Except MuError Unit)
  | updated
deriving DecidableEq

namespace TenantDb

/-- The database as a machine that takes calls. -/
def machine : Machine TenantDb TenantCall TenantAnswer where
  step db
    | .createTenant id now name tier =>
      let (result, db) := db.createTenant id now name tier
      (.created result, db)
    | .deleteTenant id =>
      let (found, db) := db.deleteTenant id
      (.deleted found, db)
    | .registerIdentity now tenantId identityBytes did =>
      let (result, db) := db.registerIdentity now tenantId identityBytes did
      (.registered result, db)
    | .removeIdentity tenantId did =>
      let (found, db) := db.removeIdentity tenantId did
      (.removed found, db)
    | .deductMu tenantId cost =>
      let (result, db) := db.deductMu tenantId cost
      (.deducted result, db)
    | .updateQuotas id maxDescriptors maxStorageBytes muLimit =>
      (.updated, db.updateQuotas id maxDescriptors maxStorageBytes muLimit)

/-! ## What the hooks see -/

/-- The identities of the database as the hooks of the hub see them. -/
def tenantManager (db : TenantDb) : TenantManager :=
  ⟨db.identities.map fun row => (row.identityBytes, Uuid.hyphenated row.tenantId)⟩

/-- The smallest of the values is the value at the element where it is smallest. -/
lemma argmin_id_map {α β : Type*} [LinearOrder β] (f : α → β) (l : List α) :
    (l.map f).argmin id = (l.argmin f).map f := by
  induction l using List.reverseRecOn with
  | nil => rfl
  | append_singleton l a ih =>
    rw [List.map_append, List.map_singleton, List.argmin_concat, List.argmin_concat, ih]
    cases l.argmin f with
    | none => rfl
    | some b => simp only [Option.map_some, id, apply_ite (Option.map f)]

/-- The hooks look an identity up in the table. -/
theorem findTenantByIdentity_tenantManager (db : TenantDb) (bytes : List UInt8) :
    db.tenantManager.findTenantByIdentity bytes =
      (db.findTenantByIdentity bytes).map Uuid.hyphenated := by
  rw [TenantManager.findTenantByIdentity, findTenantByIdentity, ← argmin_id_map]
  congr 1
  simp [tenantManager, List.filter_map, Function.comp_def]

/-! ## Challenges and their tenants -/

/-- The ids of the challenges in the table, each with the tenant it is stored with. -/
def owners (db : TenantDb) : List (Uuid × Uuid) :=
  db.challenges.map fun row => (row.challenge.id, row.tenantId)

/-- A new challenge has an id of its own and is stored with its tenant. -/
lemma createChallenge_cases (db : TenantDb) (id : Uuid)
    (nonce : { bytes : List UInt8 // bytes.length = 32 }) (now : UInt64) (tenantId : Uuid)
    (hubDid action : String) :
    (∃ e, db.createChallenge id nonce now tenantId hubDid action = (.error e, db)) ∨
      ∃ db', db.createChallenge id nonce now tenantId hubDid action =
          (.ok (.new id nonce now hubDid action), db') ∧
        id ∉ db.owners.map Prod.fst ∧ db'.owners = db.owners ++ [(id, tenantId)] := by
  unfold createChallenge
  dsimp only
  split
  · exact .inl ⟨_, rfl⟩
  · rename_i hfresh
    refine .inr ⟨_, rfl, ?_, ?_⟩
    · simp only [owners, List.map_map, List.mem_map, Function.comp_apply, not_exists, not_and]
      intro row hrow hid
      exact hfresh (List.any_eq_true.2 ⟨row, hrow, decide_eq_true hid⟩)
    · simp [owners, DIDAuthChallenge.new]

lemma mem_of_getChallenge {db : TenantDb} {id : Uuid} {c : DIDAuthChallenge}
    (h : db.getChallenge id = some c) :
    ∃ row ∈ db.challenges, row.challenge = c ∧ c.id = id ∧ row.consumed = false := by
  obtain ⟨row, hrow, hunused⟩ := Option.bind_eq_some_iff.1 h
  have hid : row.challenge.id = id := by simpa using List.find?_some hrow
  cases hconsumed : row.consumed with
  | true => simp [hconsumed] at hunused
  | false =>
    obtain rfl : row.challenge = c := by simpa [hconsumed] using hunused
    exact ⟨row, List.mem_of_find?_eq_some hrow, rfl, hid, hconsumed⟩

/-- In a table without double ids, an unused challenge is found. -/
lemma getChallenge_of_mem {db : TenantDb} (hids : (db.owners.map Prod.fst).Nodup)
    {row : ChallengeRow} (hrow : row ∈ db.challenges) (hunused : row.consumed = false) :
    db.getChallenge row.challenge.id = some row.challenge := by
  have hfind : db.challenges.find? (·.challenge.id = row.challenge.id) = some row := by
    rw [owners, List.map_map] at hids
    cases hfound : db.challenges.find? (·.challenge.id = row.challenge.id) with
    | none =>
      have hnot := List.find?_eq_none.1 hfound row hrow
      simp at hnot
    | some row' =>
      have hid : row'.challenge.id = row.challenge.id := by simpa using List.find?_some hfound
      rw [List.inj_on_of_nodup_map hids (List.mem_of_find?_eq_some hfound) hrow hid]
  rw [getChallenge, hfind, Option.bind_some, if_neg]
  rw [hunused]
  exact Bool.false_ne_true

lemma challenges_registerIdentity (db : TenantDb) (now : UInt64) (tenantId : Uuid)
    (identityBytes : List UInt8) (did : String) :
    (db.registerIdentity now tenantId identityBytes did).2.challenges = db.challenges := by
  unfold registerIdentity
  split_ifs <;> rfl

/-- An unused challenge is consumed, which leaves the tenants of all challenges as they are. -/
lemma consumeChallenge_of_getChallenge {db : TenantDb} {id : Uuid} {c : DIDAuthChallenge}
    (h : db.getChallenge id = some c) :
    ∃ db', db.consumeChallenge id = (.ok (), db') ∧ db'.owners = db.owners ∧
      db'.getChallenge id = none ∧ db'.tenants = db.tenants ∧ db'.identities = db.identities ∧
      db'.foreignKeys = db.foreignKeys := by
  obtain ⟨row, hfind, hunused⟩ := Option.bind_eq_some_iff.1 h
  have hconsumed : ¬ row.consumed = true := by
    intro hconsumed
    simp [hconsumed] at hunused
  rw [consumeChallenge, hfind]
  dsimp only
  rw [if_neg hconsumed]
  refine ⟨_, rfl, ?_, ?_, rfl, rfl, rfl⟩
  · rw [owners, owners, List.map_map]
    refine List.map_congr_left fun row' _ => ?_
    dsimp only [Function.comp_apply]
    split <;> rfl
  · rw [getChallenge, List.find?_map]
    have hsame : ((fun row : ChallengeRow => decide (row.challenge.id = id)) ∘ fun row =>
        if row.challenge.id = id then { row with consumed := true } else row) =
        fun row => decide (row.challenge.id = id) := by
      funext row'
      by_cases hid : row'.challenge.id = id <;> simp [hid]
    have hid : row.challenge.id = id := by simpa using List.find?_some hfind
    rw [hsame, hfind]
    simp [hid]

end TenantDb

end MeshProtocol
