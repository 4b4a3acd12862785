import MeshProtocol.Core.Reference
import MeshProtocol.Hub.Admin

/-!
# Challenges and the tenants they are for

A challenge is stored with the tenant it was created for, but `verify_identity` loads it without its
tenant and registers the identity under the tenant of its own URL.

The challenges in the table are those that were issued, each with its tenant, whether they have
been used or not (`owners_run`).  `challengesBound_iff`: in a whole run every registration goes to
the tenant whose challenge it uses up exactly if every acceptable verification names the tenant that
its challenge is stored with.
-/

namespace MeshProtocol

open RequestText Bytes

namespace AdminState

section Handlers

variable [RequestText] [Crypto]

/-! ## What a request does to the challenges -/

/-- An entry of a history that issued a challenge: the challenge and the tenant it is for. -/
def issuedBy : (AdminRequest × Draw) × AdminResponse → Option (Uuid × Uuid)
  | ((.createIdentityChallenge id _, _), ⟨201, .challenge c⟩) => (parseUuid id).map (c.id, ·)
  | _ => none

/-- An entry of a history that registered an identity: the challenge it consumed and the tenant it
registered the identity under. -/
def registeredBy : (AdminRequest × Draw) × AdminResponse → Option (Uuid × Uuid)
  | ((.verifyIdentity id req, _), ⟨200, .registered _⟩) =>
    match parseUuid req.challengeId, parseUuid id with
    | some challenge, some tenant => some (challenge, tenant)
    | _, _ => none
  | _ => none

/-- A verification that the hub accepts, with the row of its challenge. -/
structure Acceptable (s : AdminState) (draw : Draw) (id : String) (req : VerifyIdentityRequest)
    (v : Verification) (row : ChallengeRow) : Prop where
  parsed : parseVerification id req = .ok v
  stored : row ∈ s.tenantManager.challenges
  named : row.challenge.id = v.challengeUuid
  unused : row.consumed = false
  fresh : row.challenge.isExpired draw.clock = false
  signed : row.challenge.verify v.identity v.sigBytes = .ok ()
  exists_tenant : s.tenantManager.foreignKeys = true →
    s.tenantManager.getTenant v.tenantUuid ≠ none

/-- The tables hold one row for each challenge id. -/
def Keyed (s : AdminState) : Prop := (s.tenantManager.owners.map Prod.fst).Nodup

/-- A verification that parses names the tenant and the challenge, and the identity whose DID it
gives. -/
lemma of_parseVerification_ok {id : String} {req : VerifyIdentityRequest} {v : Verification}
    (h : parseVerification id req = .ok v) :
    parseUuid id = some v.tenantUuid ∧ parseUuid req.challengeId = some v.challengeUuid ∧
      identityBytes v.identity = v.idBytes ∧ v.identity.did = req.did := by
  unfold parseVerification at h
  split at h
  · cases h
  rename_i hid
  split at h
  · cases h
  rename_i hchallenge
  split at h
  · cases h
  split at h
  · cases h
  split at h
  · dsimp only at h
    split at h
    · cases h
    · rename_i hdid
      obtain rfl := Except.ok.inj h
      exact ⟨hid, hchallenge, rfl, not_not.1 hdid⟩
  · cases h

omit [RequestText] [Crypto] in
/-- Registering an identity leaves the challenges alone. -/
lemma registerIdentity_cases (db : TenantDb) (now : UInt64) (tenantId : Uuid)
    (identityBytes : List UInt8) (did : String) :
    (∃ e, db.registerIdentity now tenantId identityBytes did = (.error e, db) ∧
        db.foreignKeys = true ∧ db.getTenant tenantId = none) ∨
      ∃ db', db.registerIdentity now tenantId identityBytes did = (.ok (), db') ∧
        db'.challenges = db.challenges ∧
        (db.foreignKeys = true → db.getTenant tenantId ≠ none) := by
  unfold TenantDb.registerIdentity
  split
  · rename_i hmissing
    exact .inl ⟨_, rfl, hmissing⟩
  · rename_i hthere
    exact .inr ⟨_, rfl, rfl, fun hkeys hnone => hthere ⟨hkeys, hnone⟩⟩

lemma getChallenge_of_acceptable {s : AdminState} (hkeyed : s.Keyed) {draw : Draw} {id : String}
    {req : VerifyIdentityRequest} {v : Verification} {row : ChallengeRow}
    (h : s.Acceptable draw id req v row) :
    s.tenantManager.getChallenge v.challengeUuid = some row.challenge := by
  rw [← h.named]
  exact TenantDb.getChallenge_of_mem hkeyed h.stored h.unused

/-- A verification that passes the checks uses its challenge up, and then registers the identity
unless its tenant is missing. -/
lemma verifyIdentity_of_checked {s : AdminState} {draw : Draw} {id : String}
    {req : VerifyIdentityRequest} {v : Verification} {challenge : DIDAuthChallenge}
    (hparse : parseVerification id req = .ok v)
    (hget : s.tenantManager.getChallenge v.challengeUuid = some challenge)
    (hfresh : ¬ challenge.isExpired draw.clock = true)
    (hverify : challenge.verify v.identity v.sigBytes = .ok ()) :
    ((s.tenantManager.foreignKeys = true → s.tenantManager.getTenant v.tenantUuid ≠ none) ∧
      s.verifyIdentity draw id req = (⟨200, .registered req.did⟩,
        { s with tenantManager :=
            ((s.tenantManager.consumeChallenge v.challengeUuid).2.registerIdentity draw.clock
              v.tenantUuid v.idBytes req.did).2 })) ∨
      (s.tenantManager.foreignKeys = true ∧ s.tenantManager.getTenant v.tenantUuid = none) ∧
        ∃ e, s.verifyIdentity draw id req = (⟨500, .error e⟩,
          { s with tenantManager := (s.tenantManager.consumeChallenge v.challengeUuid).2 }) := by
  obtain ⟨db, hconsume, -, -, htenants, -, hforeign⟩ :=
    TenantDb.consumeChallenge_of_getChallenge hget
  have hlookup : db.getTenant v.tenantUuid = s.tenantManager.getTenant v.tenantUuid := by
    rw [TenantDb.getTenant, TenantDb.getTenant, htenants]
  rw [verifyIdentity, hparse]
  simp only [hget, hverify, hconsume, if_neg hfresh, ← hlookup, ← hforeign]
  cases registerIdentity_cases db draw.clock v.tenantUuid v.idBytes req.did with
  | inl hrefused =>
    obtain ⟨e, heq, hmissing⟩ := hrefused
    rw [heq]
    exact .inr ⟨hmissing, e.message, rfl⟩
  | inr hregistered =>
    obtain ⟨db', heq, -, hthere⟩ := hregistered
    rw [heq]
    exact .inl ⟨hthere, rfl⟩

/-- A verification that is acceptable uses its challenge up and registers the identity.  One that
fails changes nothing, unless it is the foreign key of the registration that fails, which comes
after the challenge is used up. -/
theorem verifyIdentity_effect {s : AdminState} (hkeyed : s.Keyed) (draw : Draw) (id : String)
    (req : VerifyIdentityRequest) :
    (∃ v row, s.Acceptable draw id req v row ∧
      s.verifyIdentity draw id req = (⟨200, .registered req.did⟩,
        { s with tenantManager :=
            ((s.tenantManager.consumeChallenge v.challengeUuid).2.registerIdentity draw.clock
              v.tenantUuid v.idBytes req.did).2 })) ∨
      (∀ v row, ¬ s.Acceptable draw id req v row) ∧
        ((∃ v challenge e, s.tenantManager.getChallenge v.challengeUuid = some challenge ∧
            s.tenantManager.foreignKeys = true ∧ s.tenantManager.getTenant v.tenantUuid = none ∧
            parseVerification id req = .ok v ∧
            s.verifyIdentity draw id req = (⟨500, .error e⟩,
              { s with tenantManager :=
                  (s.tenantManager.consumeChallenge v.challengeUuid).2 })) ∨
          ∃ response, response.status ≠ 200 ∧ response.status ≠ 500 ∧
            s.verifyIdentity draw id req = (response, s)) := by
  cases hparse : parseVerification id req with
  | error text =>
    have heq : s.verifyIdentity draw id req = (⟨400, .error text⟩, s) := by
      rw [verifyIdentity, hparse]
    refine .inr ⟨fun v row h => ?_, .inr ⟨_, by simp, by simp, heq⟩⟩
    cases hparse.symm.trans h.parsed
  | ok v =>
    have hsame : ∀ v' row, s.Acceptable draw id req v' row → v' = v := fun v' row h =>
      Except.ok.inj (h.parsed.symm.trans hparse)
    cases hget : s.tenantManager.getChallenge v.challengeUuid with
    | none =>
      have heq : s.verifyIdentity draw id req =
          (⟨404, .error "challenge not found or already consumed"⟩, s) := by
        rw [verifyIdentity, hparse]
        simp only [hget]
      refine .inr ⟨fun v' row h => ?_, .inr ⟨_, by simp, by simp, heq⟩⟩
      obtain rfl := hsame v' row h
      cases hget.symm.trans (getChallenge_of_acceptable hkeyed h)
    | some challenge =>
      obtain ⟨row, hrow, rfl, hid, hunused⟩ := TenantDb.mem_of_getChallenge hget
      -- an acceptable verification names the challenge that is found
      have hfound : ∀ v' row', s.Acceptable draw id req v' row' →
          v' = v ∧ row'.challenge = row.challenge := by
        intro v' row' h
        obtain rfl := hsame v' row' h
        exact ⟨rfl, Option.some.inj ((getChallenge_of_acceptable hkeyed h).symm.trans hget)⟩
      by_cases hexpired : row.challenge.isExpired draw.clock = true
      · have heq : s.verifyIdentity draw id req = (⟨410, .error "challenge expired"⟩, s) := by
          rw [verifyIdentity, hparse]
          simp only [hget, if_pos hexpired]
        refine .inr ⟨fun v' row' h => ?_, .inr ⟨_, by simp, by simp, heq⟩⟩
        have hfresh := h.fresh
        rw [(hfound v' row' h).2, hexpired] at hfresh
        cases hfresh
      cases hverify : row.challenge.verify v.identity v.sigBytes with
      | error e =>
        have heq : s.verifyIdentity draw id req = (⟨403, .error e⟩, s) := by
          rw [verifyIdentity, hparse]
          simp only [hget, if_neg hexpired, hverify]
        refine .inr ⟨fun v' row' h => ?_, .inr ⟨_, by simp, by simp, heq⟩⟩
        obtain ⟨rfl, hchallenge⟩ := hfound v' row' h
        have hsigned := h.signed
        rw [hchallenge, hverify] at hsigned
        cases hsigned
      | ok u =>
        cases verifyIdentity_of_checked hparse hget hexpired hverify with
        | inl hregistered =>
          obtain ⟨hthere, heq⟩ := hregistered
          exact .inl ⟨v, row, ⟨hparse, hrow, hid, hunused, eq_false_of_ne_true hexpired, hverify,
            hthere⟩, heq⟩
        | inr hrefused =>
          obtain ⟨⟨hkeys, hnone⟩, e, heq⟩ := hrefused
          refine .inr ⟨fun v' row' h => ?_,
            .inl ⟨v, row.challenge, e, hget, hkeys, hnone, rfl, heq⟩⟩
          obtain ⟨rfl, -⟩ := hfound v' row' h
          exact h.exists_tenant hkeys hnone

/-- A verification registers the identity and uses the challenge up, or it is not acceptable; either
way the challenges keep their tenants. -/
theorem verifyIdentity_cases {s : AdminState} (hkeyed : s.Keyed) (draw : Draw) (id : String)
    (req : VerifyIdentityRequest) :
    (s.verifyIdentity draw id req).2.tenantManager.owners = s.tenantManager.owners ∧
      ((∃ v row, s.Acceptable draw id req v row ∧
          (s.verifyIdentity draw id req).1 = ⟨200, .registered req.did⟩) ∨
        (s.verifyIdentity draw id req).1.status ≠ 200 ∧
          ∀ v row, ¬ s.Acceptable draw id req v row) := by
  rcases verifyIdentity_effect hkeyed draw id req with
    ⟨v, row, hacceptable, heq⟩ | ⟨hnot, hlost | hrefused⟩
  · rw [heq]
    refine ⟨?_, .inl ⟨v, row, hacceptable, rfl⟩⟩
    have hget := TenantDb.getChallenge_of_mem hkeyed hacceptable.stored hacceptable.unused
    rw [hacceptable.named] at hget
    obtain ⟨db, hconsume, howners, -⟩ := TenantDb.consumeChallenge_of_getChallenge hget
    rw [← howners, hconsume, TenantDb.owners, TenantDb.owners,
      TenantDb.challenges_registerIdentity]
  · obtain ⟨v, challenge, e, hget, -, -, -, heq⟩ := hlost
    obtain ⟨db, hconsume, howners, -⟩ := TenantDb.consumeChallenge_of_getChallenge hget
    rw [heq, hconsume]
    exact ⟨howners, .inr ⟨by simp, hnot⟩⟩
  · obtain ⟨response, hstatus, -, heq⟩ := hrefused
    rw [heq]
    exact ⟨rfl, .inr ⟨hstatus, hnot⟩⟩

/-! ## What the other requests do to the challenges -/

omit [RequestText] [Crypto] in
lemma forOperator_challenges {s : AdminState} {handler : AdminResponse × AdminState}
    (h : handler.2.tenantManager.challenges = s.tenantManager.challenges)
    (authorization : Option String) :
    (s.forOperator authorization handler).2.tenantManager.challenges =
      s.tenantManager.challenges := by
  unfold forOperator
  split
  · rfl
  · exact h

omit [Crypto] in
lemma forTenant_challenges {s : AdminState} {handler : Uuid → AdminResponse × AdminState}
    (h : ∀ uuid, (handler uuid).2.tenantManager.challenges = s.tenantManager.challenges)
    (authorization : Option String) (id : String) :
    (s.forTenant authorization id handler).2.tenantManager.challenges =
      s.tenantManager.challenges := by
  apply forOperator_challenges
  cases parseUuid id with
  | none => rfl
  | some uuid => exact h uuid

omit [RequestText] [Crypto] in
lemma createTenant_challenges (s : AdminState) (draw : Draw) (authorization : Option String)
    (name : String) (tier : Option String) :
    (s.createTenant draw authorization name tier).2.tenantManager.challenges =
      s.tenantManager.challenges := by
  apply forOperator_challenges
  unfold TenantDb.createTenant
  dsimp only
  split
  · rename_i heq
    split at heq
    · cases heq
    · obtain ⟨-, rfl⟩ := Prod.mk.inj heq
      rfl
  · rename_i heq
    split at heq
    · obtain ⟨-, rfl⟩ := Prod.mk.inj heq
      rfl
    · cases heq

omit [Crypto] in
lemma registerIdentity_challenges (s : AdminState) (draw : Draw) (authorization : Option String)
    (id did identityBytes : String) :
    (s.registerIdentity draw authorization id did identityBytes).2.tenantManager.challenges =
      s.tenantManager.challenges := by
  apply forTenant_challenges
  intro uuid
  cases hexDecode identityBytes with
  | none => rfl
  | some bytes =>
    dsimp only
    cases registerIdentity_cases s.tenantManager draw.clock uuid bytes did with
    | inl hrefused =>
      obtain ⟨e, heq, -⟩ := hrefused
      rw [heq]
    | inr hregistered =>
      obtain ⟨db, heq, hchallenges, -⟩ := hregistered
      rw [heq]
      exact hchallenges

omit [Crypto] in
lemma updateTenantQuota_challenges (s : AdminState) (authorization : Option String) (id : String)
    (maxDescriptors maxStorageBytes : Option UInt64) (muLimit : Option ℤ) :
    (s.updateTenantQuota authorization id maxDescriptors maxStorageBytes
      muLimit).2.tenantManager.challenges = s.tenantManager.challenges := by
  apply forTenant_challenges
  intro uuid
  cases s.tenantManager.getTenant uuid with
  | none => rfl
  | some t => rfl

omit [Crypto] in
/-- A request for a challenge issues one for its tenant, or leaves the table as it is. -/
lemma createIdentityChallenge_owners (s : AdminState) (draw : Draw) (id action : String) :
    (issuedBy ((.createIdentityChallenge id action, draw),
        (s.createIdentityChallenge draw id action).1) = none ∧
      (s.createIdentityChallenge draw id action).2.tenantManager.owners =
        s.tenantManager.owners) ∨
      ∃ p : Uuid × Uuid, issuedBy ((.createIdentityChallenge id action, draw),
          (s.createIdentityChallenge draw id action).1) = some p ∧
        p.1 ∉ s.tenantManager.owners.map Prod.fst ∧
        (s.createIdentityChallenge draw id action).2.tenantManager.owners =
          s.tenantManager.owners ++ [p] := by
  unfold createIdentityChallenge
  cases hid : parseUuid id with
  | none => exact .inl ⟨rfl, rfl⟩
  | some uuid =>
    dsimp only
    cases s.tenantManager.getTenant uuid with
    | none => exact .inl ⟨rfl, rfl⟩
    | some t =>
      dsimp only
      cases s.tenantManager.createChallenge_cases draw.uuid draw.nonce draw.clock uuid
        (s.hubDid.getD "") action with
      | inl hrefused =>
        obtain ⟨e, heq⟩ := hrefused
        rw [heq]
        exact .inl ⟨rfl, rfl⟩
      | inr hcreated =>
        obtain ⟨db, heq, hfresh, howners⟩ := hcreated
        rw [heq]
        refine .inr ⟨(draw.uuid, uuid), ?_, hfresh, howners⟩
        simp [issuedBy, hid, DIDAuthChallenge.new]

/-- Only the two requests of the DID-Auth flow change challenges. -/
theorem step_challenges (s : AdminState) {i : AdminRequest × Draw}
    (hcreate : ∀ id action, i.1 ≠ .createIdentityChallenge id action)
    (hverify : ∀ id req, i.1 ≠ .verifyIdentity id req) :
    (machine.step s i).2.tenantManager.challenges = s.tenantManager.challenges := by
  obtain ⟨request, draw⟩ := i
  cases request with
  | createTenant authorization name tier =>
    exact s.createTenant_challenges draw authorization name tier
  | listTenants authorization =>
    apply forOperator_challenges
    rfl
  | getTenant authorization id =>
    apply forTenant_challenges
    intro uuid
    cases s.tenantManager.getTenant uuid <;> rfl
  | deleteTenant authorization id =>
    apply forTenant_challenges
    intro uuid
    rfl
  | registerIdentity authorization id did identityBytes =>
    exact s.registerIdentity_challenges draw authorization id did identityBytes
  | removeIdentity authorization id did =>
    apply forTenant_challenges
    intro uuid
    rfl
  | getTenantUsage authorization id =>
    apply forTenant_challenges
    intro uuid
    cases s.tenantManager.getUsage uuid <;> rfl
  | updateTenantQuota authorization id maxDescriptors maxStorageBytes muLimit =>
    exact s.updateTenantQuota_challenges authorization id maxDescriptors maxStorageBytes muLimit
  | createIdentityChallenge id action => exact absurd rfl (hcreate id action)
  | verifyIdentity id req => exact absurd rfl (hverify id req)

/-- A request adds the challenge it issues to those in the table, and removes none. -/
theorem step_owners {s : AdminState} (hkeyed : s.Keyed) (i : AdminRequest × Draw) :
    (machine.step s i).2.Keyed ∧
      (machine.step s i).2.tenantManager.owners =
        s.tenantManager.owners ++ (issuedBy (i, (machine.step s i).1)).toList := by
  have hkept : ∀ s' : AdminState, s'.tenantManager.owners = s.tenantManager.owners →
      s'.Keyed ∧ s'.tenantManager.owners = s.tenantManager.owners ++ [] := by
    intro s' howners
    rw [Keyed, howners, List.append_nil]
    exact ⟨hkeyed, rfl⟩
  obtain ⟨request, draw⟩ := i
  cases request with
  | createIdentityChallenge id action =>
    cases s.createIdentityChallenge_owners draw id action with
    | inl hnone =>
      obtain ⟨hissued, howners⟩ := hnone
      change _ ∧ _ = _ ++ (issuedBy (_, (s.createIdentityChallenge draw id action).1)).toList
      rw [hissued]
      exact hkept _ howners
    | inr hsome =>
      obtain ⟨p, hissued, hfresh, howners⟩ := hsome
      change (s.createIdentityChallenge draw id action).2.Keyed ∧
        _ = _ ++ (issuedBy (_, (s.createIdentityChallenge draw id action).1)).toList
      rw [hissued, Keyed, howners, List.map_append]
      exact ⟨hkeyed.append (by simp) (by simpa using hfresh), howners⟩
  | verifyIdentity id req => exact hkept _ (verifyIdentity_cases hkeyed draw id req).1
  | _ =>
    apply hkept
    rw [TenantDb.owners, TenantDb.owners, step_challenges s (by simp) (by simp)]

/-! ## Runs -/

/-- The challenges that a run issued, each with the tenant it is for. -/
def issued (s : AdminState) (calls : List (AdminRequest × Draw)) : List (Uuid × Uuid) :=
  (machine.trace s calls).filterMap issuedBy

/-- After a run the table holds the challenges that it issued, with their tenants. -/
theorem owners_run (foreignKeys : Bool) (hubDid operatorToken : Option String)
    (calls : List (AdminRequest × Draw)) :
    (machine.run (new foreignKeys hubDid operatorToken) calls).Keyed ∧
      (machine.run (new foreignKeys hubDid operatorToken) calls).tenantManager.owners =
        issued (new foreignKeys hubDid operatorToken) calls := by
  induction calls using List.reverseRecOn with
  | nil => exact ⟨List.nodup_nil, rfl⟩
  | append_singleton calls i ih =>
    obtain ⟨hkeyed, howners⟩ := ih
    obtain ⟨hkeyed', howners'⟩ := step_owners hkeyed i
    rw [Machine.run_concat]
    refine ⟨hkeyed', ?_⟩
    rw [howners', howners, issued, issued, Machine.trace_concat, List.filterMap_append]
    cases hissued : issuedBy (i, _) with
    | none => simp [hissued]
    | some p => simp [hissued]

/-- Whenever a run registers an identity, the challenge it consumes was issued for the tenant that
it registers the identity under. -/
def ChallengesBound (s : AdminState) (calls : List (AdminRequest × Draw)) : Prop :=
  ∀ pre i, pre ++ [i] <+: calls → ∀ p,
    registeredBy (i, (machine.step (machine.run s pre) i).1) = some p → p ∈ issued s pre

/-- Every acceptable verification of a run names the tenant that its challenge is stored with. -/
def NamesOwnTenant (s : AdminState) (calls : List (AdminRequest × Draw)) : Prop :=
  ∀ pre id req draw, pre ++ [(.verifyIdentity id req, draw)] <+: calls →
    ∀ v row, (machine.run s pre).Acceptable draw id req v row → v.tenantUuid = row.tenantId

lemma registeredBy_of_acceptable {s : AdminState} {draw : Draw} {id : String}
    {req : VerifyIdentityRequest} {v : Verification} {row : ChallengeRow}
    (h : s.Acceptable draw id req v row) :
    registeredBy ((.verifyIdentity id req, draw), ⟨200, .registered req.did⟩) =
      some (row.challenge.id, v.tenantUuid) := by
  obtain ⟨htenant, hchallenge, -⟩ := of_parseVerification_ok h.parsed
  simp only [registeredBy, htenant, hchallenge, h.named]

/-- In a run on a new database every registration goes to the tenant whose challenge it uses up
exactly if every acceptable verification names the tenant that its challenge is stored with. -/
theorem challengesBound_iff (foreignKeys : Bool) (hubDid operatorToken : Option String)
    (calls : List (AdminRequest × Draw)) :
    ChallengesBound (new foreignKeys hubDid operatorToken) calls ↔
      NamesOwnTenant (new foreignKeys hubDid operatorToken) calls := by
  constructor
  · intro hbound pre id req draw hpre v row hacceptable
    obtain ⟨hkeyed, howners⟩ := owners_run foreignKeys hubDid operatorToken pre
    cases (verifyIdentity_cases hkeyed draw id req).2 with
    | inl hregistered =>
      obtain ⟨v', row', -, hanswer⟩ := hregistered
      have hissued := hbound pre (.verifyIdentity id req, draw) hpre _ (by
        change registeredBy (_, (verifyIdentity _ draw id req).1) = _
        rw [hanswer]
        exact registeredBy_of_acceptable hacceptable)
      -- the challenge has one row, so it was issued for the tenant of that row
      rw [← howners] at hissued
      have hrow : (row.challenge.id, row.tenantId) ∈
          (machine.run (new foreignKeys hubDid operatorToken) pre).tenantManager.owners :=
        List.mem_map_of_mem hacceptable.stored
      exact congrArg Prod.snd (List.inj_on_of_nodup_map hkeyed hissued hrow rfl)
    | inr hrefused => exact absurd hacceptable (hrefused.2 v row)
  · intro hnames pre i hpre p hregistered
    obtain ⟨hkeyed, howners⟩ := owners_run foreignKeys hubDid operatorToken pre
    obtain ⟨request, draw⟩ := i
    cases request with
    | verifyIdentity id req =>
      change registeredBy (_, (verifyIdentity _ draw id req).1) = some p at hregistered
      cases (verifyIdentity_cases hkeyed draw id req).2 with
      | inl haccepted =>
        obtain ⟨v, row, hacceptable, hanswer⟩ := haccepted
        rw [hanswer, registeredBy_of_acceptable hacceptable, Option.some.injEq] at hregistered
        rw [← hregistered, ← howners, hnames pre id req draw hpre v row hacceptable]
        exact List.mem_map_of_mem hacceptable.stored
      | inr hrefused =>
        obtain ⟨hstatus, -⟩ := hrefused
        unfold registeredBy at hregistered
        split at hregistered
        · rename_i heq
          simp only [Prod.mk.injEq] at heq
          rw [heq.2] at hstatus
          exact absurd rfl hstatus
        · cases hregistered
    | _ => cases hregistered

end Handlers

/-! ## A challenge for one tenant, used for another -/

/-- The UUIDs and byte strings of the run below. -/
@[reducible] def tableText (uuids : List Uuid) (byteStrings : List (List UInt8)) : RequestText where
  parseUuid s := uuids.find? (·.hyphenated = s)
  hexDecode s := byteStrings.find? (hexEncode · = s)

/-- The challenge of the run below. -/
def sampleChallenge : DIDAuthChallenge :=
  .new (uuidOf 3) ⟨List.replicate 32 7, rfl⟩ 1700000000000000 "did:mesh:zHub" "register"

/-- The second publisher's signature of `sampleChallenge`. -/
def sampleSignature : List UInt8 := beBytes 64
  0x6dcd8508cd316dc075c5689725ca0e9ff6da8da8b2da2e9f6b87cfc64123ab9cc763b643acf0d10caf3a73797845e615368137c5c7b2e50b6660c836dfeb6900

/-- The second publisher verifies itself for the second tenant with the challenge of the first. -/
def crossedVerification [Crypto] : VerifyIdentityRequest where
  challengeId := Uuid.hyphenated (uuidOf 3)
  identityBytes := hexEncode (identityBytes secondPublisher)
  did := secondPublisher.did
  signature := hexEncode sampleSignature

/-- Two tenants, a challenge for the first, and a verification for the second. -/
def crossedRun [Crypto] : List (AdminRequest × Draw) :=
  let draw (n : ℕ) : Draw := ⟨uuidOf n, ⟨List.replicate 32 7, rfl⟩, 1700000000000000⟩
  [(.createTenant none "first" none, draw 1),
    (.createTenant none "second" none, draw 2),
    (.createIdentityChallenge (Uuid.hyphenated (uuidOf 1)) "register", draw 3),
    (.verifyIdentity (Uuid.hyphenated (uuidOf 2)) crossedVerification, draw 4)]

/-- The identity is registered under the tenant for which no challenge was issued. -/
theorem crossed_challenge_registers :
    letI : Crypto := tableCrypto []
      [(secondPublisher.publicKey, sampleChallenge.toSignableBytes, sampleSignature)]
    letI : RequestText := tableText [uuidOf 1, uuidOf 2, uuidOf 3]
      [identityBytes secondPublisher, sampleSignature]
    ¬ ChallengesBound (new true (some "did:mesh:zHub") none) crossedRun := by
  let _ : Crypto := tableCrypto []
    [(secondPublisher.publicKey, sampleChallenge.toSignableBytes, sampleSignature)]
  let _ : RequestText := tableText [uuidOf 1, uuidOf 2, uuidOf 3]
    [identityBytes secondPublisher, sampleSignature]
  intro hbound
  have hissued := hbound (crossedRun.take 3) _ (List.prefix_rfl : crossedRun <+: crossedRun)
    (uuidOf 3, uuidOf 2) (by decide +kernel)
  revert hissued
  decide +kernel

end AdminState

end MeshProtocol
