import MeshProtocol.Hub.Challenges

/-!
# Challenges are used once, and only with a signature

`verify_identity` loads a challenge if it has not been used, checks its expiry and the signature,
marks it as used, and registers the identity.  A challenge that has been used stays used through
every later request (`spent_step`), and a verification that succeeds finds its challenge unused
and leaves it used (`spent_of_verifies`); so no challenge serves twice in a run, in whatever
order the requests come (`singleUse`).
-/

namespace MeshProtocol

open RequestText

/-! ## Used challenges -/

namespace TenantDb

/-- The challenge has been used. -/
def Spent (db : TenantDb) (id : Uuid) : Prop :=
  ∃ row ∈ db.challenges, row.challenge.id = id ∧ row.consumed = true

/-- Marking a challenge as used leaves those used that are. -/
lemma Spent.consumeChallenge {db : TenantDb} {id : Uuid} (h : db.Spent id) (id' : Uuid) :
    (db.consumeChallenge id').2.Spent id := by
  unfold TenantDb.consumeChallenge
  cases db.challenges.find? (·.challenge.id = id') with
  | none => exact h
  | some row' =>
    dsimp only
    split_ifs
    · exact h
    · obtain ⟨row, hrow, hid, hconsumed⟩ := h
      refine ⟨_, List.mem_map_of_mem hrow, ?_⟩
      split_ifs
      · exact ⟨hid, rfl⟩
      · exact ⟨hid, hconsumed⟩

/-- In a table without double ids, a challenge that is found has not been used. -/
lemma not_spent_of_getChallenge {db : TenantDb} (hids : (db.owners.map Prod.fst).Nodup) {id : Uuid}
    {c : DIDAuthChallenge} (h : db.getChallenge id = some c) : ¬ db.Spent id := by
  rintro ⟨row', hrow', hid', hconsumed⟩
  obtain ⟨row, hrow, rfl, hid, hunused⟩ := mem_of_getChallenge h
  rw [owners, List.map_map] at hids
  have hsame : row' = row := List.inj_on_of_nodup_map hids hrow' hrow (hid'.trans hid.symm)
  rw [hsame, hunused] at hconsumed
  exact Bool.false_ne_true hconsumed

lemma spent_consumeChallenge {db : TenantDb} {id : Uuid} {c : DIDAuthChallenge}
    (h : db.getChallenge id = some c) : (db.consumeChallenge id).2.Spent id := by
  obtain ⟨row, hfind, hunused⟩ := Option.bind_eq_some_iff.1 h
  have hid : row.challenge.id = id := by simpa using List.find?_some hfind
  have hrow := List.mem_of_find?_eq_some hfind
  unfold consumeChallenge
  rw [hfind]
  dsimp only
  split_ifs with hconsumed
  · exact ⟨row, hrow, hid, hconsumed⟩
  · refine ⟨_, List.mem_map_of_mem hrow, ?_⟩
    rw [if_pos hid]
    exact ⟨hid, rfl⟩

lemma Spent.registerIdentity {db : TenantDb} {id : Uuid} (h : db.Spent id) (now : UInt64)
    (tenantId : Uuid) (bytes : List UInt8) (did : String) :
    (db.registerIdentity now tenantId bytes did).2.Spent id := by
  rw [Spent, challenges_registerIdentity]
  exact h

lemma Spent.createChallenge {db : TenantDb} {id : Uuid} (h : db.Spent id) (id' : Uuid)
    (nonce : { bytes : List UInt8 // bytes.length = 32 }) (now : UInt64) (tenantId : Uuid)
    (hubDid action : String) :
    (db.createChallenge id' nonce now tenantId hubDid action).2.Spent id := by
  unfold TenantDb.createChallenge
  dsimp only
  split_ifs
  · exact h
  · obtain ⟨row, hrow, hspent⟩ := h
    exact ⟨row, List.mem_append_left _ hrow, hspent⟩

/-- A row after a registration is one from before it, or the new one. -/
lemma mem_registerIdentity {db : TenantDb} {now : UInt64} {tenantId : Uuid} {bytes : List UInt8}
    {did : String} {row : IdentityRow}
    (h : row ∈ (db.registerIdentity now tenantId bytes did).2.identities) :
    row ∈ db.identities ∨ row = ⟨tenantId, bytes, did, now⟩ := by
  unfold registerIdentity at h
  split_ifs at h
  · exact .inl h
  · rcases List.mem_append.1 h with hold | hnew
    · exact .inl (List.mem_of_mem_filter hold)
    · exact .inr (List.mem_singleton.1 hnew)

lemma registerIdentity_mem {db : TenantDb} {tenantId : Uuid}
    (hthere : db.foreignKeys = true → db.getTenant tenantId ≠ none) (now : UInt64)
    (bytes : List UInt8) (did : String) :
    ⟨tenantId, bytes, did, now⟩ ∈
      (db.registerIdentity now tenantId bytes did).2.identities := by
  unfold registerIdentity
  rw [if_neg fun hmissing => hthere hmissing.1 hmissing.2]
  exact List.mem_append_right _ (List.mem_singleton_self _)

end TenantDb

namespace AdminState

variable [RequestText] [Crypto]

/-! ## One request -/

/-- An entry of a history in which a verification that names the challenge succeeded. -/
def verifies (challenge : Uuid) : (AdminRequest × Draw) × AdminResponse → Bool
  | ((.verifyIdentity _ req, _), response) =>
    response.status = 200 ∧ parseUuid req.challengeId = some challenge
  | _ => false

omit [Crypto] in
lemma spent_createIdentityChallenge {s : AdminState} {challenge : Uuid}
    (h : s.tenantManager.Spent challenge) (draw : Draw) (id action : String) :
    (s.createIdentityChallenge draw id action).2.tenantManager.Spent challenge := by
  unfold createIdentityChallenge
  cases parseUuid id with
  | none => exact h
  | some uuid =>
    dsimp only
    cases s.tenantManager.getTenant uuid with
    | none => exact h
    | some t =>
      have hcreated :=
        h.createChallenge draw.uuid draw.nonce draw.clock uuid (s.hubDid.getD "") action
      dsimp only
      split <;> rename_i heq <;> rw [heq] at hcreated <;> exact hcreated

/-- A challenge that has been used stays used. -/
theorem spent_step {s : AdminState} (hkeyed : s.Keyed) {challenge : Uuid}
    (h : s.tenantManager.Spent challenge) (i : AdminRequest × Draw) :
    (machine.step s i).2.tenantManager.Spent challenge := by
  obtain ⟨request, draw⟩ := i
  cases request with
  | createIdentityChallenge id action => exact spent_createIdentityChallenge h draw id action
  | verifyIdentity id req =>
    change (s.verifyIdentity draw id req).2.tenantManager.Spent challenge
    rcases verifyIdentity_effect hkeyed draw id req with
      ⟨v, row, -, heq⟩ | ⟨-, ⟨v, c, e, -, -, -, -, heq⟩ | ⟨response, -, -, heq⟩⟩
    · rw [heq]
      exact (h.consumeChallenge v.challengeUuid).registerIdentity _ _ _ _
    · rw [heq]
      exact h.consumeChallenge v.challengeUuid
    · rw [heq]
      exact h
  | _ =>
    rw [TenantDb.Spent, step_challenges s (by simp) (by simp)]
    exact h

/-- A verification that succeeds finds its challenge unused and leaves it used. -/
theorem spent_of_verifies {s : AdminState} (hkeyed : s.Keyed) {challenge : Uuid}
    {i : AdminRequest × Draw} (h : verifies challenge (i, (machine.step s i).1) = true) :
    ¬ s.tenantManager.Spent challenge ∧ (machine.step s i).2.tenantManager.Spent challenge := by
  obtain ⟨request, draw⟩ := i
  cases request with
  | verifyIdentity id req =>
    have hentry : (s.verifyIdentity draw id req).1.status = 200 ∧
        parseUuid req.challengeId = some challenge := by
      change decide (_ ∧ _) = true at h
      exact of_decide_eq_true h
    obtain ⟨hstatus, hnamed⟩ := hentry
    change _ ∧ (s.verifyIdentity draw id req).2.tenantManager.Spent challenge
    rcases verifyIdentity_effect hkeyed draw id req with
      ⟨v, row, hacceptable, heq⟩ | ⟨-, ⟨v, c, e, -, -, -, -, heq⟩ | ⟨response, hfailed, -, heq⟩⟩
    · obtain ⟨-, hparsed, -⟩ := of_parseVerification_ok hacceptable.parsed
      obtain rfl : v.challengeUuid = challenge := Option.some.inj (hparsed.symm.trans hnamed)
      have hget := getChallenge_of_acceptable hkeyed hacceptable
      refine ⟨TenantDb.not_spent_of_getChallenge hkeyed hget, ?_⟩
      rw [heq]
      exact (TenantDb.spent_consumeChallenge hget).registerIdentity _ _ _ _
    · rw [heq] at hstatus
      cases hstatus
    · rw [heq] at hstatus
      exact absurd hstatus hfailed
  | _ => cases h

/-- What a verification does to the identities and the challenges. -/
structure SoundVerification (s : AdminState) (draw : Draw) (id : String)
    (req : VerifyIdentityRequest) (result : AdminResponse × AdminState) : Prop where
  /-- An identity that is registered has signed a stored challenge that is neither expired nor
  used. -/
  backed : ∀ row ∈ result.2.tenantManager.identities, row ∈ s.tenantManager.identities ∨
    ∃ v challengeRow, s.Acceptable draw id req v challengeRow ∧
      v.identity.verify challengeRow.challenge.toSignableBytes v.sigBytes = .ok () ∧
      row = ⟨v.tenantUuid, identityBytes v.identity, v.identity.did, draw.clock⟩
  /-- A verification that succeeds is one of those. -/
  succeeded : result.1.status = 200 → ∃ v challengeRow, s.Acceptable draw id req v challengeRow ∧
    ⟨v.tenantUuid, identityBytes v.identity, v.identity.did, draw.clock⟩ ∈
      result.2.tenantManager.identities
  /-- One that leaves all challenges as they are registers nothing. -/
  unconsumed : result.2.tenantManager.challenges = s.tenantManager.challenges → result.2 = s
  /-- One that fails registers nothing, and leaves its challenge as it is unless it is the foreign
  key of the registration that fails. -/
  failed : result.1.status ≠ 200 →
    result.2.tenantManager.identities = s.tenantManager.identities ∧
      (result.2 = s ∨ s.tenantManager.foreignKeys = true ∧
        ∃ v, parseVerification id req = .ok v ∧ s.tenantManager.getTenant v.tenantUuid = none)

omit [RequestText] in
lemma verify_of_challenge_verify {c : DIDAuthChallenge} {identity : Identity}
    {signature : List UInt8} (h : c.verify identity signature = .ok ()) :
    identity.verify c.toSignableBytes signature = .ok () := by
  unfold DIDAuthChallenge.verify at h
  cases hverify : identity.verify c.toSignableBytes signature with
  | error e =>
    rw [hverify] at h
    cases h
  | ok u => rfl

theorem soundVerification {s : AdminState} (hkeyed : s.Keyed) (draw : Draw) (id : String)
    (req : VerifyIdentityRequest) :
    SoundVerification s draw id req (s.verifyIdentity draw id req) := by
  -- a state in which the challenge has been used has other challenges than the one before
  have hconsumes : ∀ {uuid : Uuid} {c : DIDAuthChallenge} {s' : AdminState},
      s.tenantManager.getChallenge uuid = some c → s'.tenantManager.Spent uuid →
      s'.tenantManager.challenges = s.tenantManager.challenges → s' = s := by
    intro uuid c s' hget hspent hsame
    rw [TenantDb.Spent, hsame] at hspent
    exact absurd hspent (TenantDb.not_spent_of_getChallenge hkeyed hget)
  rcases verifyIdentity_effect hkeyed draw id req with
    ⟨v, c, hacceptable, heq⟩ |
      ⟨-, ⟨v, c, e, hget, hkeys, hnone, hparsed, heq⟩ | ⟨response, hfailed, -, heq⟩⟩
  · obtain ⟨-, -, hbytes, hdid⟩ := of_parseVerification_ok hacceptable.parsed
    have hget := getChallenge_of_acceptable hkeyed hacceptable
    obtain ⟨db, hconsume, -, -, htenants, hidentities, hforeign⟩ :=
      TenantDb.consumeChallenge_of_getChallenge hget
    rw [heq, hconsume, ← hbytes, ← hdid]
    refine ⟨fun row hrow => ?_, fun _ => ⟨v, c, hacceptable, ?_⟩, ?_, fun hstatus => ?_⟩
    · rw [← hidentities]
      cases TenantDb.mem_registerIdentity hrow with
      | inl hold => exact .inl hold
      | inr hnew =>
        exact .inr ⟨v, c, hacceptable, verify_of_challenge_verify hacceptable.signed, hnew⟩
    · apply TenantDb.registerIdentity_mem
      rw [TenantDb.getTenant, htenants, hforeign]
      exact hacceptable.exists_tenant
    · apply hconsumes hget
      apply TenantDb.Spent.registerIdentity
      have hspent := TenantDb.spent_consumeChallenge hget
      rw [hconsume] at hspent
      exact hspent
    · exact absurd rfl hstatus
  · obtain ⟨db, hconsume, -, -, -, hidentities, -⟩ :=
      TenantDb.consumeChallenge_of_getChallenge hget
    rw [heq]
    refine ⟨fun row hrow => .inl ?_, fun hstatus => ?_, ?_, fun _ => ⟨?_, .inr ⟨hkeys, v, ?_⟩⟩⟩
    · rw [← hidentities]
      rw [hconsume] at hrow
      exact hrow
    · cases hstatus
    · exact hconsumes hget (TenantDb.spent_consumeChallenge hget)
    · rw [hconsume]
      exact hidentities
    · exact ⟨hparsed, hnone⟩
  · rw [heq]
    exact ⟨fun row hrow => .inl hrow, fun hstatus => absurd hstatus hfailed, fun _ => rfl,
      fun _ => ⟨rfl, .inl rfl⟩⟩

/-! ## Runs -/

/-- In every run a challenge serves at most once, and every verification of it is sound. -/
theorem singleUse (foreignKeys : Bool) (hubDid operatorToken : Option String)
    (calls : List (AdminRequest × Draw)) :
    (∀ challenge, (machine.trace (new foreignKeys hubDid operatorToken) calls).countP
        (verifies challenge) ≤ 1) ∧
      ∀ pre id req draw, pre ++ [(.verifyIdentity id req, draw)] <+: calls →
        SoundVerification (machine.run (new foreignKeys hubDid operatorToken) pre) draw id req
          (machine.step (machine.run (new foreignKeys hubDid operatorToken) pre)
            (.verifyIdentity id req, draw)) := by
  constructor
  · intro challenge
    -- a challenge that has served has been used
    have hserved : (machine.trace (new foreignKeys hubDid operatorToken) calls).countP
          (verifies challenge) ≤ 1 ∧
        (0 < (machine.trace (new foreignKeys hubDid operatorToken) calls).countP
            (verifies challenge) →
          (machine.run (new foreignKeys hubDid operatorToken) calls).tenantManager.Spent
            challenge) := by
      induction calls using List.reverseRecOn with
      | nil => simp
      | append_singleton calls i ih =>
        obtain ⟨hkeyed, -⟩ := owners_run foreignKeys hubDid operatorToken calls
        obtain ⟨hcount, hspent⟩ := ih
        rw [Machine.trace_concat, List.countP_append, List.countP_singleton, Machine.run_concat]
        split_ifs with hverifies
        · obtain ⟨hunused, hused⟩ := spent_of_verifies hkeyed hverifies
          have hnever : ¬ 0 < (machine.trace (new foreignKeys hubDid operatorToken) calls).countP
              (verifies challenge) := fun hpos => hunused (hspent hpos)
          exact ⟨by omega, fun _ => hused⟩
        · exact ⟨by omega, fun hpos => spent_step hkeyed (hspent (by omega)) i⟩
    exact hserved.1
  · intro pre id req draw hpre
    exact soundVerification (owners_run foreignKeys hubDid operatorToken pre).1 draw id req

end AdminState

end MeshProtocol
