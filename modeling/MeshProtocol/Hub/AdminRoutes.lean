import MeshProtocol.Hub.SingleUse

/-!
# Requests with and without the token (`mesh-hub/src/admin.rs`)

What a request about tenants does depends on whether it carries the operator's token.  One without
it is refused or belongs to the DID-Auth flow, which changes no tenant (`SameTenants.hide`) and
registers an identity only after its signature (`registered_step`).  One with it is answered from
the tenants alone, removals of identities aside (`SameTenants.keep`), and what outsiders are told
depends on it only if it creates or deletes a tenant (`SameOutside`).
-/

namespace MeshProtocol

open RequestText

/-- The authorization header of a request, where its route looks at it. -/
def AdminRequest.authorization : AdminRequest → Option String
  | .createTenant authorization _ _ => authorization
  | .listTenants authorization => authorization
  | .getTenant authorization _ => authorization
  | .deleteTenant authorization _ => authorization
  | .registerIdentity authorization _ _ _ => authorization
  | .removeIdentity authorization _ _ => authorization
  | .getTenantUsage authorization _ => authorization
  | .updateTenantQuota authorization _ _ _ _ => authorization
  | .createIdentityChallenge _ _ => none
  | .verifyIdentity _ _ => none

/-- Removes an identity; whether there was one is no matter of the tenants alone. -/
def AdminRequest.removes : AdminRequest → Bool
  | .removeIdentity _ _ _ => true
  | _ => false

/-- Creates or deletes a tenant. -/
def AdminRequest.resizes : AdminRequest → Bool
  | .createTenant _ _ _ => true
  | .deleteTenant _ _ => true
  | _ => false

namespace TenantDb

lemma consumeChallenge_keeps (db : TenantDb) (id : Uuid) :
    ∃ challenges, (db.consumeChallenge id).2 = { db with challenges } := by
  unfold consumeChallenge
  cases db.challenges.find? (·.challenge.id = id) with
  | none => exact ⟨_, rfl⟩
  | some row =>
    dsimp only
    split_ifs <;> exact ⟨_, rfl⟩

lemma registerIdentity_keeps (db : TenantDb) (now : UInt64) (tenantId : Uuid)
    (bytes : List UInt8) (did : String) :
    ∃ identities, (db.registerIdentity now tenantId bytes did).2 = { db with identities } := by
  unfold registerIdentity
  split_ifs <;> exact ⟨_, rfl⟩

lemma getTenant_eq_none_iff {db : TenantDb} {id : Uuid} :
    db.getTenant id = none ↔ id ∉ db.tenants.map Tenant.id := by
  simp [getTenant]

end TenantDb

namespace AdminState

variable {s s' : AdminState} {token : String}

/-- Where a token is configured, the header has to give it. -/
lemma checkOperatorToken_of_some (htoken : s.operatorToken = some token)
    (authorization : Option String) :
    s.checkOperatorToken authorization =
      if authorization = some ("Bearer " ++ token) then .ok () else .error 401 := by
  have hnone : "" ≠ "Bearer " ++ token := by
    intro h
    have hlength := congrArg String.length h
    have hprefix : "Bearer ".length = 7 := by decide
    have hempty : "".length = 0 := rfl
    rw [String.length_append, hprefix, hempty] at hlength
    omega
  rw [checkOperatorToken, htoken]
  cases authorization with
  | none => simp [hnone]
  | some text => simp

lemma forOperator_of_carries (htoken : s.operatorToken = some token)
    {authorization : Option String} (h : authorization = some ("Bearer " ++ token))
    (handler : AdminResponse × AdminState) : s.forOperator authorization handler = handler := by
  rw [forOperator, checkOperatorToken_of_some htoken, if_pos h]

lemma forOperator_of_not (htoken : s.operatorToken = some token)
    {authorization : Option String} (h : authorization ≠ some ("Bearer " ++ token))
    (handler : AdminResponse × AdminState) :
    s.forOperator authorization handler = (⟨401, .empty⟩, s) := by
  rw [forOperator, checkOperatorToken_of_some htoken, if_neg h]

variable [RequestText]

/-- A new challenge is all that a request for one changes. -/
lemma createIdentityChallenge_keeps (s : AdminState) (draw : Draw) (id action : String) :
    ∃ challenges, (s.createIdentityChallenge draw id action).2 =
      { s with tenantManager := { s.tenantManager with challenges } } := by
  unfold createIdentityChallenge
  cases parseUuid id with
  | none => exact ⟨_, rfl⟩
  | some uuid =>
    dsimp only
    cases s.tenantManager.getTenant uuid with
    | none => exact ⟨_, rfl⟩
    | some t =>
      unfold TenantDb.createChallenge
      dsimp only
      by_cases hused : s.tenantManager.challenges.any
          (·.challenge.id = (DIDAuthChallenge.new draw.uuid draw.nonce draw.clock
            (s.hubDid.getD "") action).id) = true
      · rw [if_pos hused]
        exact ⟨_, rfl⟩
      · rw [if_neg hused]
        exact ⟨_, rfl⟩

variable [Crypto]

/-- A verification changes no tenant. -/
lemma verifyIdentity_keeps (s : AdminState) (draw : Draw) (id : String)
    (req : VerifyIdentityRequest) :
    ∃ identities challenges, (s.verifyIdentity draw id req).2 =
      { s with tenantManager := { s.tenantManager with identities, challenges } } := by
  unfold verifyIdentity
  cases parseVerification id req with
  | error text => exact ⟨_, _, rfl⟩
  | ok v =>
    dsimp only
    cases s.tenantManager.getChallenge v.challengeUuid with
    | none => exact ⟨_, _, rfl⟩
    | some challenge =>
      dsimp only
      split_ifs
      · exact ⟨_, _, rfl⟩
      cases challenge.verify v.identity v.sigBytes with
      | error e => exact ⟨_, _, rfl⟩
      | ok u =>
        obtain ⟨challenges, hconsumed⟩ := s.tenantManager.consumeChallenge_keeps v.challengeUuid
        rcases hconsume : s.tenantManager.consumeChallenge v.challengeUuid with ⟨e | u, db⟩
        · rw [hconsume] at hconsumed
          exact ⟨_, challenges, by rw [← hconsumed]⟩
        · obtain rfl : db = { s.tenantManager with challenges } := by
            rw [hconsume] at hconsumed
            exact hconsumed
          obtain ⟨identities, hregistered⟩ := TenantDb.registerIdentity_keeps
            { s.tenantManager with challenges } draw.clock v.tenantUuid v.idBytes req.did
          refine ⟨identities, challenges, ?_⟩
          dsimp only
          rcases hregister : TenantDb.registerIdentity { s.tenantManager with challenges }
            draw.clock v.tenantUuid v.idBytes req.did with ⟨e | u, db⟩
          · rw [hregister] at hregistered
            rw [← hregistered]
          · rw [hregister] at hregistered
            rw [← hregistered]

/-! ## The operator's view -/

/-- A request that does not carry the token is refused, or is one of the DID-Auth flow. -/
lemma handle_of_not_carries (htoken : s.operatorToken = some token) {request : AdminRequest}
    (h : request.authorization ≠ some ("Bearer " ++ token)) (draw : Draw) :
    s.handle draw request = (⟨401, .empty⟩, s) ∨
      (∃ id action, request = .createIdentityChallenge id action) ∨
        ∃ id req, request = .verifyIdentity id req := by
  cases request with
  | createIdentityChallenge id action => exact .inr (.inl ⟨id, action, rfl⟩)
  | verifyIdentity id req => exact .inr (.inr ⟨id, req, rfl⟩)
  | _ => exact .inl (forOperator_of_not htoken h _)

/-- Two states with the same tenants, and the same token. -/
structure SameTenants (token : String) (s s' : AdminState) : Prop where
  token_left : s.operatorToken = some token
  token_right : s'.operatorToken = some token
  tenants : s.tenantManager.tenants = s'.tenantManager.tenants
  foreignKeys : s.tenantManager.foreignKeys = s'.tenantManager.foreignKeys

namespace SameTenants

/-- A request that does not carry the token leaves the tenants as they are. -/
lemma hide (h : SameTenants token s s') {request : AdminRequest}
    (hrequest : request.authorization ≠ some ("Bearer " ++ token)) (draw : Draw) :
    SameTenants token (s.handle draw request).2 s' := by
  rcases handle_of_not_carries h.token_left hrequest draw with
    hrefused | ⟨id, action, rfl⟩ | ⟨id, req, rfl⟩
  · rw [hrefused]
    exact h
  · obtain ⟨challenges, heq⟩ := s.createIdentityChallenge_keeps draw id action
    change SameTenants token (s.createIdentityChallenge draw id action).2 s'
    rw [heq]
    exact ⟨h.token_left, h.token_right, h.tenants, h.foreignKeys⟩
  · obtain ⟨identities, challenges, heq⟩ := s.verifyIdentity_keeps draw id req
    change SameTenants token (s.verifyIdentity draw id req).2 s'
    rw [heq]
    exact ⟨h.token_left, h.token_right, h.tenants, h.foreignKeys⟩

/-- The same answer, unless it is to the removal of an identity, and the same tenants. -/
def Alike (token : String) (removes : Bool) (r r' : AdminResponse × AdminState) : Prop :=
  (removes = false → r.1 = r'.1) ∧ SameTenants token r.2 r'.2

omit [RequestText] [Crypto] in
lemma alike (h : SameTenants token s s') (removes : Bool) (response : AdminResponse) :
    Alike token removes (response, s) (response, s') := ⟨fun _ => rfl, h⟩

omit [RequestText] [Crypto] in
lemma forOperator (h : SameTenants token s s') {authorization : Option String}
    (hcarries : authorization = some ("Bearer " ++ token)) {removes : Bool}
    {handler handler' : AdminResponse × AdminState}
    (halike : Alike token removes handler handler') :
    Alike token removes (s.forOperator authorization handler)
      (s'.forOperator authorization handler') := by
  rw [forOperator_of_carries h.token_left hcarries, forOperator_of_carries h.token_right hcarries]
  exact halike

omit [Crypto] in
lemma forTenant (h : SameTenants token s s') {authorization : Option String}
    (hcarries : authorization = some ("Bearer " ++ token)) (id : String) {removes : Bool}
    {handler handler' : Uuid → AdminResponse × AdminState}
    (halike : ∀ uuid, Alike token removes (handler uuid) (handler' uuid)) :
    Alike token removes (s.forTenant authorization id handler)
      (s'.forTenant authorization id handler') := by
  apply h.forOperator hcarries
  cases parseUuid id with
  | none => exact h.alike removes _
  | some uuid => exact halike uuid

omit [RequestText] [Crypto] in
lemma getTenant (h : SameTenants token s s') (id : Uuid) :
    s.tenantManager.getTenant id = s'.tenantManager.getTenant id := by
  rw [TenantDb.getTenant, TenantDb.getTenant, h.tenants]

/-- A request that carries the token is answered in the same way, unless it removes an identity, and
leaves the same tenants. -/
lemma keep (h : SameTenants token s s') {request : AdminRequest}
    (hrequest : request.authorization = some ("Bearer " ++ token)) (draw : Draw) :
    Alike token request.removes (s.handle draw request) (s'.handle draw request) := by
  cases request with
  | createTenant authorization name tier =>
    apply h.forOperator hrequest
    rw [TenantDb.createTenant, TenantDb.createTenant, h.tenants]
    split_ifs
    · exact h.alike _ _
    · exact ⟨fun _ => rfl, h.token_left, h.token_right, rfl, h.foreignKeys⟩
  | listTenants authorization =>
    apply h.forOperator hrequest
    rw [TenantDb.listTenants, TenantDb.listTenants, h.tenants]
    exact h.alike _ _
  | getTenant authorization id =>
    apply h.forTenant hrequest id
    intro uuid
    rw [h.getTenant]
    cases s'.tenantManager.getTenant uuid with
    | none => exact h.alike _ _
    | some t => exact h.alike _ _
  | deleteTenant authorization id =>
    apply h.forTenant hrequest id
    intro uuid
    rw [TenantDb.deleteTenant, TenantDb.deleteTenant, h.tenants]
    exact ⟨fun _ => rfl, h.token_left, h.token_right, rfl, h.foreignKeys⟩
  | registerIdentity authorization id did identityBytes =>
    apply h.forTenant hrequest id
    intro uuid
    cases hexDecode identityBytes with
    | none => exact h.alike _ _
    | some bytes =>
      dsimp only
      rw [TenantDb.registerIdentity, TenantDb.registerIdentity, h.getTenant, h.foreignKeys]
      split_ifs
      · exact h.alike _ _
      · exact ⟨fun _ => rfl, h.token_left, h.token_right, h.tenants, rfl⟩
  | removeIdentity authorization id did =>
    apply h.forTenant hrequest id
    intro uuid
    refine ⟨fun hnot => ?_, h.token_left, h.token_right, h.tenants, h.foreignKeys⟩
    cases hnot
  | getTenantUsage authorization id =>
    apply h.forTenant hrequest id
    intro uuid
    rw [TenantDb.getUsage, TenantDb.getUsage, h.getTenant]
    cases s'.tenantManager.getTenant uuid with
    | none => exact h.alike _ _
    | some t => exact h.alike _ _
  | updateTenantQuota authorization id maxDescriptors maxStorageBytes muLimit =>
    apply h.forTenant hrequest id
    intro uuid
    rw [h.getTenant]
    cases s'.tenantManager.getTenant uuid with
    | none => exact h.alike _ _
    | some t =>
      dsimp only
      rw [TenantDb.updateQuotas, TenantDb.updateQuotas, TenantDb.getTenant, TenantDb.getTenant,
        h.tenants]
      exact ⟨fun _ => rfl, h.token_left, h.token_right, rfl, h.foreignKeys⟩
  | createIdentityChallenge id action => cases hrequest
  | verifyIdentity id req => cases hrequest

end SameTenants

/-! ## Registrations -/

/-- The request may register the identity under the tenant: it carries the token and names both, or
it is a verification for them that the hub accepts. -/
def Vouches (token : String) (s : AdminState) (draw : Draw) (tenantId : Uuid)
    (bytes : List UInt8) : AdminRequest → Prop
  | .registerIdentity authorization id _ identityBytes =>
    authorization = some ("Bearer " ++ token) ∧ parseUuid id = some tenantId ∧
      hexDecode identityBytes = some bytes
  | .verifyIdentity id req =>
    ∃ v row, s.Acceptable draw id req v row ∧ v.tenantUuid = tenantId ∧ v.idBytes = bytes
  | _ => False

/-- An identity is registered under a tenant. -/
def Registered (s : AdminState) (tenantId : Uuid) (bytes : List UInt8) : Prop :=
  ∃ row ∈ s.tenantManager.identities, row.tenantId = tenantId ∧ row.identityBytes = bytes

variable {tenantId : Uuid} {bytes : List UInt8}

omit [RequestText] [Crypto] in
lemma registered_of_registerIdentity {now : UInt64} {t : Uuid} {b : List UInt8} {did : String}
    {db : TenantDb} (hdb : db.identities = s.tenantManager.identities)
    (h : Registered { s with tenantManager := (db.registerIdentity now t b did).2 }
      tenantId bytes) :
    s.Registered tenantId bytes ∨ (t = tenantId ∧ b = bytes) := by
  obtain ⟨row, hrow, htenant, hbytes⟩ := h
  cases TenantDb.mem_registerIdentity hrow with
  | inl hold => exact .inl ⟨row, hdb ▸ hold, htenant, hbytes⟩
  | inr hnew =>
    subst hnew
    exact .inr ⟨htenant, hbytes⟩

omit [RequestText] [Crypto] in
lemma registered_of_subset {s' : AdminState}
    (hsub : s'.tenantManager.identities ⊆ s.tenantManager.identities)
    (h : s'.Registered tenantId bytes) : s.Registered tenantId bytes := by
  obtain ⟨row, hrow, hsame⟩ := h
  exact ⟨row, hsub hrow, hsame⟩

omit [RequestText] [Crypto] in
lemma identities_forOperator {authorization : Option String} {handler : AdminResponse × AdminState}
    (h : handler.2.tenantManager.identities ⊆ s.tenantManager.identities) :
    (s.forOperator authorization handler).2.tenantManager.identities ⊆
      s.tenantManager.identities := by
  unfold forOperator
  split
  · exact List.Subset.refl _
  · exact h

omit [Crypto] in
lemma identities_forTenant {authorization : Option String} {id : String}
    {handler : Uuid → AdminResponse × AdminState}
    (h : ∀ uuid, (handler uuid).2.tenantManager.identities ⊆ s.tenantManager.identities) :
    (s.forTenant authorization id handler).2.tenantManager.identities ⊆
      s.tenantManager.identities := by
  apply identities_forOperator
  cases parseUuid id with
  | none => exact List.Subset.refl _
  | some uuid => exact h uuid

/-- An identity that is registered after a request was before it, or the request vouches for it. -/
lemma registered_step (htoken : s.operatorToken = some token) (hkeyed : s.Keyed) (draw : Draw)
    (request : AdminRequest) (h : (s.handle draw request).2.Registered tenantId bytes) :
    s.Registered tenantId bytes ∨ s.Vouches token draw tenantId bytes request := by
  have hrefl := List.Subset.refl s.tenantManager.identities
  cases request with
  | createTenant authorization name tier =>
    refine .inl (registered_of_subset (identities_forOperator ?_) h)
    rw [TenantDb.createTenant]
    split_ifs <;> exact hrefl
  | listTenants authorization =>
    exact .inl (registered_of_subset (identities_forOperator hrefl) h)
  | getTenant authorization id =>
    refine .inl (registered_of_subset (identities_forTenant fun uuid => ?_) h)
    cases s.tenantManager.getTenant uuid with
    | none => exact hrefl
    | some t => exact hrefl
  | deleteTenant authorization id =>
    refine .inl (registered_of_subset (identities_forTenant fun uuid => ?_) h)
    exact List.filter_subset_self _
  | registerIdentity authorization id did identityBytes =>
    by_cases hcarries : authorization = some ("Bearer " ++ token)
    · change (s.forOperator authorization _).2.Registered tenantId bytes at h
      rw [forOperator_of_carries htoken hcarries] at h
      cases hid : parseUuid id with
      | none =>
        rw [hid] at h
        exact .inl h
      | some uuid =>
        rw [hid] at h
        cases hhex : hexDecode identityBytes with
        | none =>
          rw [hhex] at h
          exact .inl h
        | some b =>
          rw [hhex] at h
          have hregistered : Registered { s with
              tenantManager := (s.tenantManager.registerIdentity draw.clock uuid b did).2 }
              tenantId bytes := by
            rcases hout : s.tenantManager.registerIdentity draw.clock uuid b did with ⟨e | u, db⟩
            all_goals
              dsimp only at h
              rw [hout] at h
              exact h
          exact (registered_of_registerIdentity rfl hregistered).imp_right
            fun ⟨htenant, hbytes⟩ => ⟨hcarries, htenant ▸ hid, hbytes ▸ hhex⟩
    · change (s.forOperator authorization _).2.Registered tenantId bytes at h
      rw [forOperator_of_not htoken hcarries] at h
      exact .inl h
  | removeIdentity authorization id did =>
    refine .inl (registered_of_subset (identities_forTenant fun uuid => ?_) h)
    exact List.filter_subset_self _
  | getTenantUsage authorization id =>
    refine .inl (registered_of_subset (identities_forTenant fun uuid => ?_) h)
    cases s.tenantManager.getUsage uuid with
    | error e => exact hrefl
    | ok usage => exact hrefl
  | updateTenantQuota authorization id maxDescriptors maxStorageBytes muLimit =>
    refine .inl (registered_of_subset (identities_forTenant fun uuid => ?_) h)
    cases s.tenantManager.getTenant uuid with
    | none => exact hrefl
    | some t => exact hrefl
  | createIdentityChallenge id action =>
    obtain ⟨challenges, heq⟩ := s.createIdentityChallenge_keeps draw id action
    change (s.createIdentityChallenge draw id action).2.Registered tenantId bytes at h
    rw [heq] at h
    exact .inl h
  | verifyIdentity id req =>
    change (s.verifyIdentity draw id req).2.Registered tenantId bytes at h
    rcases verifyIdentity_effect hkeyed draw id req with
      ⟨v, row, hacceptable, heq⟩ | ⟨-, ⟨v, challenge, e, -, -, -, -, heq⟩ | ⟨response, -, -, heq⟩⟩
    · rw [heq] at h
      obtain ⟨challenges, hconsume⟩ := s.tenantManager.consumeChallenge_keeps v.challengeUuid
      have hdb : (s.tenantManager.consumeChallenge v.challengeUuid).2.identities =
          s.tenantManager.identities := by rw [hconsume]
      exact (registered_of_registerIdentity hdb h).imp_right fun ⟨htenant, hbytes⟩ =>
        ⟨v, row, hacceptable, htenant, hbytes⟩
    · rw [heq] at h
      obtain ⟨challenges, hconsume⟩ := s.tenantManager.consumeChallenge_keeps v.challengeUuid
      refine .inl (registered_of_subset ?_ h)
      rw [hconsume]
      exact hrefl
    · rw [heq] at h
      exact .inl h

omit [RequestText] [Crypto] in
lemma registered_registerIdentity {now : UInt64} {t : Uuid} {b : List UInt8} {did : String}
    {db : TenantDb} (hdb : db.identities = s.tenantManager.identities)
    (h : s.Registered tenantId bytes) :
    Registered { s with tenantManager := (db.registerIdentity now t b did).2 } tenantId bytes := by
  obtain ⟨row, hrow, htenant, hbytes⟩ := h
  rw [← hdb] at hrow
  unfold Registered TenantDb.registerIdentity
  split_ifs
  · exact ⟨row, hrow, htenant, hbytes⟩
  · by_cases hsame : row.tenantId = t ∧ row.identityBytes = b
    · refine ⟨_, List.mem_append_right _ (List.mem_singleton_self _), ?_⟩
      exact ⟨hsame.1.symm.trans htenant, hsame.2.symm.trans hbytes⟩
    · refine ⟨row, List.mem_append_left _ (List.mem_filter.2 ⟨hrow, ?_⟩), htenant, hbytes⟩
      exact decide_eq_true hsame

/-- No registration is lost to a request that does not carry the token. -/
lemma registered_of_not_carries (htoken : s.operatorToken = some token) (hkeyed : s.Keyed)
    (draw : Draw) {request : AdminRequest}
    (hrequest : request.authorization ≠ some ("Bearer " ++ token))
    (h : s.Registered tenantId bytes) : (s.handle draw request).2.Registered tenantId bytes := by
  rcases handle_of_not_carries htoken hrequest draw with
    hrefused | ⟨id, action, rfl⟩ | ⟨id, req, rfl⟩
  · rw [hrefused]
    exact h
  · obtain ⟨challenges, heq⟩ := s.createIdentityChallenge_keeps draw id action
    change (s.createIdentityChallenge draw id action).2.Registered tenantId bytes
    rw [heq]
    exact h
  · change (s.verifyIdentity draw id req).2.Registered tenantId bytes
    rcases verifyIdentity_effect hkeyed draw id req with
      ⟨v, row, hacceptable, heq⟩ | ⟨-, ⟨v, challenge, e, -, -, -, -, heq⟩ | ⟨response, -, -, heq⟩⟩
    · rw [heq]
      obtain ⟨challenges, hconsume⟩ := s.tenantManager.consumeChallenge_keeps v.challengeUuid
      exact registered_registerIdentity (by rw [hconsume]) h
    · rw [heq]
      obtain ⟨challenges, hconsume⟩ := s.tenantManager.consumeChallenge_keeps v.challengeUuid
      rw [hconsume]
      exact h
    · rw [heq]
      exact h

/-! ## The outsider's view -/

/-- Two states with the same token, challenges and hub, and with tenants of the same ids. -/
structure SameOutside (token : String) (s s' : AdminState) : Prop where
  token_left : s.operatorToken = some token
  token_right : s'.operatorToken = some token
  hubDid : s.hubDid = s'.hubDid
  ids : s.tenantManager.tenants.map Tenant.id = s'.tenantManager.tenants.map Tenant.id
  challenges : s.tenantManager.challenges = s'.tenantManager.challenges
  foreignKeys : s.tenantManager.foreignKeys = s'.tenantManager.foreignKeys

namespace SameOutside

omit [RequestText] [Crypto] in
lemma getTenant_none_iff (h : SameOutside token s s') (id : Uuid) :
    s.tenantManager.getTenant id = none ↔ s'.tenantManager.getTenant id = none := by
  rw [TenantDb.getTenant_eq_none_iff, TenantDb.getTenant_eq_none_iff, h.ids]

omit [RequestText] [Crypto] in
lemma createChallenge (h : SameOutside token s s') (draw : Draw) (uuid : Uuid)
    (hubDid action : String) : ∃ result challenges,
    s.tenantManager.createChallenge draw.uuid draw.nonce draw.clock uuid hubDid action =
        (result, { s.tenantManager with challenges }) ∧
      s'.tenantManager.createChallenge draw.uuid draw.nonce draw.clock uuid hubDid action =
        (result, { s'.tenantManager with challenges }) := by
  unfold TenantDb.createChallenge
  dsimp only
  rw [h.challenges]
  split_ifs
  · exact ⟨_, s'.tenantManager.challenges, by rw [← h.challenges], rfl⟩
  · exact ⟨_, _, rfl, rfl⟩

omit [Crypto] in
/-- A request for a challenge is answered in the same way. -/
lemma createIdentityChallenge (h : SameOutside token s s') (draw : Draw) (id action : String) :
    (s.createIdentityChallenge draw id action).1 = (s'.createIdentityChallenge draw id action).1 ∧
      SameOutside token (s.createIdentityChallenge draw id action).2
        (s'.createIdentityChallenge draw id action).2 := by
  unfold AdminState.createIdentityChallenge
  cases parseUuid id with
  | none => exact ⟨rfl, h⟩
  | some uuid =>
    have hsome := h.getTenant_none_iff uuid
    cases ht : s.tenantManager.getTenant uuid with
    | none =>
      simp only [ht, hsome.1 ht]
      exact ⟨trivial, h⟩
    | some t =>
      obtain ⟨t', ht'⟩ := Option.ne_none_iff_exists'.1 fun hnone => by
        rw [hsome.2 hnone] at ht
        cases ht
      obtain ⟨result, challenges, hcreate, hcreate'⟩ :=
        h.createChallenge draw uuid (s.hubDid.getD "") action
      rw [h.hubDid] at hcreate hcreate'
      simp only [ht, ht', h.hubDid, hcreate, hcreate']
      cases result with
      | error e => exact ⟨rfl, h.token_left, h.token_right, rfl, h.ids, rfl, h.foreignKeys⟩
      | ok c => exact ⟨rfl, h.token_left, h.token_right, rfl, h.ids, rfl, h.foreignKeys⟩

omit [RequestText] [Crypto] in
lemma consumeChallenge (h : SameOutside token s s') (id : Uuid) : ∃ result challenges,
    s.tenantManager.consumeChallenge id = (result, { s.tenantManager with challenges }) ∧
      s'.tenantManager.consumeChallenge id = (result, { s'.tenantManager with challenges }) := by
  unfold TenantDb.consumeChallenge
  rw [h.challenges]
  cases s'.tenantManager.challenges.find? (·.challenge.id = id) with
  | none => exact ⟨_, s'.tenantManager.challenges, by rw [← h.challenges], rfl⟩
  | some row =>
    dsimp only
    split_ifs
    · exact ⟨_, s'.tenantManager.challenges, by rw [← h.challenges], rfl⟩
    · exact ⟨_, _, rfl, rfl⟩

/-- A verification is answered in the same way. -/
lemma verifyIdentity (h : SameOutside token s s') (draw : Draw) (id : String)
    (req : VerifyIdentityRequest) :
    (s.verifyIdentity draw id req).1 = (s'.verifyIdentity draw id req).1 ∧
      SameOutside token (s.verifyIdentity draw id req).2 (s'.verifyIdentity draw id req).2 := by
  unfold AdminState.verifyIdentity
  cases parseVerification id req with
  | error text => exact ⟨rfl, h⟩
  | ok v =>
    have hget : s.tenantManager.getChallenge v.challengeUuid =
        s'.tenantManager.getChallenge v.challengeUuid := by
      rw [TenantDb.getChallenge, TenantDb.getChallenge, h.challenges]
    dsimp only
    rw [hget]
    cases s'.tenantManager.getChallenge v.challengeUuid with
    | none => exact ⟨rfl, h⟩
    | some challenge =>
      dsimp only
      split_ifs
      · exact ⟨rfl, h⟩
      cases challenge.verify v.identity v.sigBytes with
      | error e => exact ⟨rfl, h⟩
      | ok u =>
        obtain ⟨result, challenges, hconsume, hconsume'⟩ := h.consumeChallenge v.challengeUuid
        simp only [hconsume, hconsume']
        cases result with
        | error e => exact ⟨rfl, h.token_left, h.token_right, h.hubDid, h.ids, rfl, h.foreignKeys⟩
        | ok u =>
          -- the foreign key of the registration looks at the ids only
          have hmissing : (s.tenantManager.foreignKeys = true ∧
                TenantDb.getTenant { s.tenantManager with challenges } v.tenantUuid = none) ↔
              s'.tenantManager.foreignKeys = true ∧
                TenantDb.getTenant { s'.tenantManager with challenges } v.tenantUuid = none := by
            rw [h.foreignKeys]
            exact and_congr_right fun _ => h.getTenant_none_iff v.tenantUuid
          simp only [TenantDb.registerIdentity, hmissing]
          split_ifs
          · exact ⟨rfl, h.token_left, h.token_right, h.hubDid, h.ids, rfl, h.foreignKeys⟩
          · exact ⟨rfl, h.token_left, h.token_right, h.hubDid, h.ids, rfl, h.foreignKeys⟩

omit [RequestText] [Crypto] in
lemma hideOperator (h : SameOutside token s s') {authorization : Option String}
    (hcarries : authorization = some ("Bearer " ++ token))
    {handler : AdminResponse × AdminState} (hhandler : SameOutside token handler.2 s') :
    SameOutside token (s.forOperator authorization handler).2 s' := by
  rw [forOperator_of_carries h.token_left hcarries]
  exact hhandler

omit [Crypto] in
lemma hideTenant (h : SameOutside token s s') {authorization : Option String}
    (hcarries : authorization = some ("Bearer " ++ token)) (id : String)
    {handler : Uuid → AdminResponse × AdminState}
    (hhandler : ∀ uuid, SameOutside token (handler uuid).2 s') :
    SameOutside token (s.forTenant authorization id handler).2 s' := by
  apply h.hideOperator hcarries
  cases parseUuid id with
  | none => exact h
  | some uuid => exact hhandler uuid

/-- A request that carries the token and neither creates nor deletes a tenant changes nothing that
outsiders are told. -/
lemma hide (h : SameOutside token s s') {request : AdminRequest}
    (hrequest : request.authorization = some ("Bearer " ++ token))
    (hsize : request.resizes = false) (draw : Draw) :
    SameOutside token (s.handle draw request).2 s' := by
  cases request with
  | createTenant authorization name tier => cases hsize
  | listTenants authorization => exact h.hideOperator hrequest h
  | getTenant authorization id =>
    apply h.hideTenant hrequest id
    intro uuid
    cases s.tenantManager.getTenant uuid with
    | none => exact h
    | some t => exact h
  | deleteTenant authorization id => cases hsize
  | registerIdentity authorization id did identityBytes =>
    apply h.hideTenant hrequest id
    intro uuid
    cases hexDecode identityBytes with
    | none => exact h
    | some bytes =>
      dsimp only
      rw [TenantDb.registerIdentity]
      split_ifs
      · exact h
      · exact ⟨h.token_left, h.token_right, h.hubDid, h.ids, h.challenges, h.foreignKeys⟩
  | removeIdentity authorization id did =>
    apply h.hideTenant hrequest id
    intro uuid
    exact ⟨h.token_left, h.token_right, h.hubDid, h.ids, h.challenges, h.foreignKeys⟩
  | getTenantUsage authorization id =>
    apply h.hideTenant hrequest id
    intro uuid
    cases s.tenantManager.getUsage uuid with
    | error e => exact h
    | ok usage => exact h
  | updateTenantQuota authorization id maxDescriptors maxStorageBytes muLimit =>
    apply h.hideTenant hrequest id
    intro uuid
    cases s.tenantManager.getTenant uuid with
    | none => exact h
    | some t =>
      refine ⟨h.token_left, h.token_right, h.hubDid, ?_, h.challenges, h.foreignKeys⟩
      rw [← h.ids]
      dsimp only [TenantDb.updateQuotas]
      rw [List.map_map]
      refine List.map_congr_left fun t _ => ?_
      dsimp only [Function.comp_apply]
      split <;> rfl
  | createIdentityChallenge id action => cases hrequest
  | verifyIdentity id req => cases hrequest

/-- Creating or deleting a tenant changes the ids in the same way. -/
lemma keep (h : SameOutside token s s') {request : AdminRequest}
    (hrequest : request.authorization = some ("Bearer " ++ token))
    (hsize : request.resizes = true) (draw : Draw) :
    SameOutside token (s.handle draw request).2 (s'.handle draw request).2 := by
  cases request with
  | createTenant authorization name tier =>
    have hcarries : authorization = some ("Bearer " ++ token) := hrequest
    change SameOutside token (s.forOperator _ _).2 (s'.forOperator _ _).2
    rw [forOperator_of_carries h.token_left hcarries,
      forOperator_of_carries h.token_right hcarries, TenantDb.createTenant, TenantDb.createTenant]
    have hused : s.tenantManager.tenants.any (·.id = draw.uuid) =
        s'.tenantManager.tenants.any (·.id = draw.uuid) := by
      have hids := congrArg (List.any · (· = draw.uuid)) h.ids
      simpa [List.any_map, Function.comp_def] using hids
    rw [hused]
    split_ifs
    · exact h
    · refine ⟨h.token_left, h.token_right, h.hubDid, ?_, h.challenges, h.foreignKeys⟩
      simp only [List.map_append, h.ids, List.map_cons, List.map_nil]
  | deleteTenant authorization id =>
    have hcarries : authorization = some ("Bearer " ++ token) := hrequest
    change SameOutside token (s.forOperator _ _).2 (s'.forOperator _ _).2
    rw [forOperator_of_carries h.token_left hcarries,
      forOperator_of_carries h.token_right hcarries]
    cases parseUuid id with
    | none => exact h
    | some uuid =>
      refine ⟨h.token_left, h.token_right, h.hubDid, ?_, h.challenges, h.foreignKeys⟩
      have hids := congrArg (List.filter (· ≠ uuid)) h.ids
      rw [List.filter_map, List.filter_map] at hids
      exact hids
  | _ => cases hsize

end SameOutside

end AdminState

end MeshProtocol
