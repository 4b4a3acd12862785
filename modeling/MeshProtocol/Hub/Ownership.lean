import MeshProtocol.Core.Reference
import MeshProtocol.Hub.Tenant

/-!
# Which tenant owns an identity

`find_tenant_by_identity` reads the table of identities as a function from identities to tenants,
but the primary key of the table is the pair, and registering an identity replaces the row of the
pair only.  An identity that is registered under a second tenant keeps the first, and the query,
which asks for no order, may answer with either.

`oneOwner_iff`: the table is the function that the calls describe in every state of a run exactly if
no call registers an identity while it is registered under another tenant.
-/

namespace MeshProtocol

open Machine

namespace TenantDb

/-- What `find_tenant_by_identity` may answer: the tenant of any row of the identity. -/
def MayFind (db : TenantDb) (identityBytes : List UInt8) : Option Uuid → Prop
  | none => ∀ row ∈ db.identities, row.identityBytes ≠ identityBytes
  | some tenantId => ∃ row ∈ db.identities, row.identityBytes = identityBytes ∧
      row.tenantId = tenantId

lemma mayFind_findTenantByIdentity (db : TenantDb) (identityBytes : List UInt8) :
    db.MayFind identityBytes (db.findTenantByIdentity identityBytes) := by
  cases hfind : db.findTenantByIdentity identityBytes with
  | none => simpa [findTenantByIdentity, MayFind] using hfind
  | some tenantId =>
    obtain ⟨row, hrow, rfl⟩ := List.mem_map.1 (List.argmin_mem hfind)
    exact ⟨row, List.mem_of_mem_filter hrow, by simpa using List.of_mem_filter hrow, rfl⟩

/-! ## Ownership as the calls have it -/

/-- A call registers the identity under the tenant. -/
def Registers (db : TenantDb) (tenantId : Uuid) (identityBytes : List UInt8) (did : String)
    (pre : List TenantCall) (c : TenantCall) : Prop :=
  (∃ now, c = .registerIdentity now tenantId identityBytes did) ∧
    (machine.step (machine.run db pre) c).1 = .registered (.ok ())

/-- A call ends a registration: it deletes the tenant, removes the DID from it, or registers the
identity again, which moves it if it is under another tenant. -/
def Ends (db : TenantDb) (tenantId : Uuid) (identityBytes : List UInt8) (did : String)
    (pre : List TenantCall) (c : TenantCall) : Prop :=
  c = .deleteTenant tenantId ∨ c = .removeIdentity tenantId did ∨
    ∃ tenantId' did', Registers db tenantId' identityBytes did' pre c

/-- The identity was registered under the tenant and not since removed, moved or lost with the
tenant. -/
def Owns (db : TenantDb) (calls : List TenantCall) (tenantId : Uuid)
    (identityBytes : List UInt8) : Prop :=
  ∃ did, Since (Registers db tenantId identityBytes did) (Ends db tenantId identityBytes did) calls

/-- After the calls every identity has one owner, as the calls have it. -/
structure OneOwner (db : TenantDb) (calls : List TenantCall) : Prop where
  unique : ∀ row ∈ (machine.run db calls).identities, ∀ row' ∈ (machine.run db calls).identities,
    row.identityBytes = row'.identityBytes → row.tenantId = row'.tenantId
  found_iff : ∀ identityBytes answer, (machine.run db calls).MayFind identityBytes answer →
    ∀ tenantId, answer = some tenantId ↔ Owns db calls tenantId identityBytes
  removed : ∀ row ∈ (machine.run db calls).identities, ∀ answer,
    ((machine.run db calls).removeIdentity row.tenantId row.did).2.MayFind row.identityBytes
      answer → answer = none

/-- The identity can be registered under the tenant, and is registered under another one. -/
def TakesOver (db : TenantDb) (tenantId : Uuid) (identityBytes : List UInt8) : Prop :=
  (db.foreignKeys = true → db.getTenant tenantId ≠ none) ∧
    ∃ row ∈ db.identities, row.identityBytes = identityBytes ∧ row.tenantId ≠ tenantId

/-! ## The rows after a call -/

/-- The table has a row for the identity under the tenant. -/
def Listed (db : TenantDb) (tenantId : Uuid) (identityBytes : List UInt8) (did : String) : Prop :=
  ∃ now, ⟨tenantId, identityBytes, did, now⟩ ∈ db.identities

lemma listed_of_mem {db : TenantDb} {row : IdentityRow} (h : row ∈ db.identities) :
    db.Listed row.tenantId row.identityBytes row.did := ⟨row.registeredAt, h⟩

lemma registerIdentity_ok_iff {db : TenantDb} {now : UInt64} {tenantId : Uuid}
    {identityBytes : List UInt8} {did : String} :
    (db.registerIdentity now tenantId identityBytes did).1 = .ok () ↔
      (db.foreignKeys = true → db.getTenant tenantId ≠ none) := by
  unfold registerIdentity
  split_ifs with hmissing
  · simp [hmissing]
  · simpa [not_and] using hmissing

/-- A registration adds its row, in the place of an older one of the same pair. -/
lemma listed_registerIdentity {db : TenantDb} {now : UInt64} {tenantId t : Uuid}
    {identityBytes i : List UInt8} {did d : String}
    (hok : (db.registerIdentity now tenantId identityBytes did).1 = .ok ()) :
    (db.registerIdentity now tenantId identityBytes did).2.Listed t i d ↔
      (t = tenantId ∧ i = identityBytes ∧ d = did) ∨
        (db.Listed t i d ∧ ¬ (t = tenantId ∧ i = identityBytes)) := by
  have hthere := registerIdentity_ok_iff.1 hok
  unfold registerIdentity
  rw [if_neg fun hmissing => hthere hmissing.1 hmissing.2]
  simp only [Listed, List.mem_append, List.mem_filter, List.mem_singleton, IdentityRow.mk.injEq,
    decide_eq_true_eq, exists_or, exists_and_right, exists_and_left, exists_eq, and_true]
  exact or_comm

lemma listed_deleteTenant {db : TenantDb} {tenantId t : Uuid} {i : List UInt8} {d : String} :
    (db.deleteTenant tenantId).2.Listed t i d ↔ db.Listed t i d ∧ t ≠ tenantId := by
  simp [deleteTenant, Listed]

lemma listed_removeIdentity {db : TenantDb} {tenantId t : Uuid} {did d : String} {i : List UInt8} :
    (db.removeIdentity tenantId did).2.Listed t i d ↔
      db.Listed t i d ∧ ¬ (t = tenantId ∧ d = did) := by
  simp only [removeIdentity, Listed, List.mem_filter, decide_eq_true_eq, exists_and_right]

lemma identities_createTenant (db : TenantDb) (id : Uuid) (now : UInt64) (name tier : String) :
    (db.createTenant id now name tier).2.identities = db.identities := by
  unfold createTenant
  dsimp only
  split_ifs <;> rfl

lemma identities_deductMu (db : TenantDb) (tenantId : Uuid) (cost : ℤ) :
    (db.deductMu tenantId cost).2.identities = db.identities := by
  unfold deductMu
  cases db.getTenant tenantId with
  | none => rfl
  | some tenant =>
    dsimp only
    split_ifs <;> rfl

/-- A row is there after a call if the call registers it, or it was there and the call does not
delete its tenant, remove its DID or register its pair again. -/
lemma listed_concat (db : TenantDb) (pre : List TenantCall) (c : TenantCall) (t : Uuid)
    (i : List UInt8) (d : String) :
    (machine.run db (pre ++ [c])).Listed t i d ↔
      Registers db t i d pre c ∨ ((machine.run db pre).Listed t i d ∧
        ¬ (c = .deleteTenant t ∨ c = .removeIdentity t d ∨ ∃ d', Registers db t i d' pre c)) := by
  have hother : ∀ after : TenantDb, after.identities = (machine.run db pre).identities →
      (after.Listed t i d ↔ (machine.run db pre).Listed t i d) := by
    intro after hsame
    rw [Listed, Listed, hsame]
  rw [run_concat]
  generalize hs : machine.run db pre = s at hother
  cases c with
  | createTenant id now name tier =>
    have hstate : (machine.step s (.createTenant id now name tier)).2 =
        (s.createTenant id now name tier).2 := rfl
    rw [hstate, hother _ (s.identities_createTenant id now name tier)]
    simp [Registers]
  | deleteTenant id =>
    have hstate : (machine.step s (.deleteTenant id)).2 = (s.deleteTenant id).2 := rfl
    rw [hstate, listed_deleteTenant]
    simp [Registers, eq_comm]
  | registerIdentity now t' i' d' =>
    have hanswer : (machine.step s (.registerIdentity now t' i' d')).1 =
        .registered (s.registerIdentity now t' i' d').1 := rfl
    have hstate : (machine.step s (.registerIdentity now t' i' d')).2 =
        (s.registerIdentity now t' i' d').2 := rfl
    by_cases hok : (s.registerIdentity now t' i' d').1 = .ok ()
    · rw [hstate, listed_registerIdentity hok]
      simp [Registers, hs, hanswer, hok, eq_comm]
    · have hkept : (s.registerIdentity now t' i' d').2 = s := by
        unfold registerIdentity at hok ⊢
        split_ifs with hmissing
        · rfl
        · rw [if_neg hmissing] at hok
          exact absurd rfl hok
      rw [hstate, hkept]
      simp [Registers, hs, hanswer, hok]
  | removeIdentity id did =>
    have hstate : (machine.step s (.removeIdentity id did)).2 = (s.removeIdentity id did).2 := rfl
    rw [hstate, listed_removeIdentity]
    simp [Registers, eq_comm]
  | deductMu id cost =>
    have hstate : (machine.step s (.deductMu id cost)).2 = (s.deductMu id cost).2 := rfl
    rw [hstate, hother _ (s.identities_deductMu id cost)]
    simp [Registers]
  | updateQuotas id maxDescriptors maxStorageBytes muLimit =>
    have hstate : (machine.step s (.updateQuotas id maxDescriptors maxStorageBytes muLimit)).2 =
        s.updateQuotas id maxDescriptors maxStorageBytes muLimit := rfl
    rw [hstate, hother (s.updateQuotas id maxDescriptors maxStorageBytes muLimit) rfl]
    simp [Registers]

/-- The registration of an identity that is not under another tenant is the registration of its only
row: if no call takes an identity over, an old row that a call registers again is the row of the
same tenant. -/
lemma not_takesOver_of_registers {db : TenantDb} {calls pre : List TenantCall} {c : TenantCall}
    (hnone : ∀ pre now t i d, pre ++ [.registerIdentity now t i d] <+: calls →
      ¬ (machine.run db pre).TakesOver t i)
    (hpre : pre ++ [c] <+: calls) {t t' : Uuid} {i : List UInt8} {d d' : String}
    (hregisters : Registers db t i d pre c) (hold : (machine.run db pre).Listed t' i d') :
    t' = t := by
  obtain ⟨⟨now, rfl⟩, hanswer⟩ := hregisters
  obtain ⟨now', hrow⟩ := hold
  by_contra hother
  have hok : ((machine.run db pre).registerIdentity now t i d).1 = .ok () :=
    TenantAnswer.registered.inj hanswer
  apply hnone pre now t i d hpre
  exact ⟨registerIdentity_ok_iff.1 hok, _, hrow, rfl, hother⟩

/-- The rows after the calls are those that the calls describe, one for an identity. -/
structure Described (db : TenantDb) (calls : List TenantCall) : Prop where
  listed_iff : ∀ t i d, (machine.run db calls).Listed t i d ↔
    Since (Registers db t i d) (Ends db t i d) calls
  one : ∀ i t d t' d', (machine.run db calls).Listed t i d →
    (machine.run db calls).Listed t' i d' → t = t' ∧ d = d'

/-- A run in which no identity is taken over leaves the rows that its calls describe. -/
theorem described {foreignKeys : Bool} {calls : List TenantCall}
    (hnone : ∀ pre now t i d, pre ++ [.registerIdentity now t i d] <+: calls →
      ¬ (machine.run (new foreignKeys) pre).TakesOver t i) :
    Described (new foreignKeys) calls := by
  refine prefix_induction (P := Described (new foreignKeys)) ?_ fun pre c hpre ih => ?_
  · have hempty : ∀ t i d, ¬ (new foreignKeys).Listed t i d := by
      rintro t i d ⟨now, hrow⟩
      simp [new] at hrow
    exact ⟨fun t i d => iff_of_false (hempty t i d) not_since_nil,
      fun i t d t' d' h => absurd h (hempty t i d)⟩
  · refine ⟨fun t i d => ?_, fun i t d t' d' hrow hrow' => ?_⟩
    · rw [listed_concat, since_concat_iff, ← ih.listed_iff]
      refine or_congr_right (and_congr_right fun hold => ?_)
      -- a registration of the identity that does not take it over is one under the same tenant
      have hagain : (∃ d', Registers (new foreignKeys) t i d' pre c) ↔
          ∃ t' d', Registers (new foreignKeys) t' i d' pre c := by
        constructor
        · exact fun h => ⟨t, h⟩
        · rintro ⟨t', d', h⟩
          obtain rfl := not_takesOver_of_registers hnone hpre h hold
          exact ⟨d', h⟩
      rw [Ends, hagain]
    · -- the new row and an old one: the registration would have replaced the old one
      have hreplaced : ∀ {t t' : Uuid} {d d' : String}, Registers (new foreignKeys) t i d pre c →
          (machine.run (new foreignKeys) pre).Listed t' i d' →
          ∃ d, Registers (new foreignKeys) t' i d pre c := by
        intro t t' d d' h hold
        obtain rfl := not_takesOver_of_registers hnone hpre h hold
        exact ⟨d, h⟩
      rw [listed_concat] at hrow hrow'
      rcases hrow with hnew | ⟨hold, hkept⟩ <;> rcases hrow' with hnew' | ⟨hold', hkept'⟩
      · obtain ⟨⟨now, rfl⟩, -⟩ := hnew
        obtain ⟨⟨now', hsame⟩, -⟩ := hnew'
        obtain ⟨-, ht, -, hd⟩ := TenantCall.registerIdentity.inj hsame
        exact ⟨ht, hd⟩
      · exact absurd (.inr (.inr (hreplaced hnew hold'))) hkept'
      · exact absurd (.inr (.inr (hreplaced hnew' hold))) hkept
      · exact ih.one i t d t' d' hold hold'

/-- Every identity has one owner in every state of a run exactly if no call of it registers an
identity while it is registered under another tenant. -/
theorem oneOwner_iff (foreignKeys : Bool) (calls : List TenantCall) :
    (∀ pre, pre <+: calls → OneOwner (new foreignKeys) pre) ↔
      ∀ pre now t i d, pre ++ [.registerIdentity now t i d] <+: calls →
        ¬ (machine.run (new foreignKeys) pre).TakesOver t i := by
  constructor
  · rintro hone pre now t i d hpre ⟨hthere, row, hrow, rfl, hother⟩
    have hregisters : Registers (new foreignKeys) t row.identityBytes d pre
        (.registerIdentity now t row.identityBytes d) := by
      refine ⟨⟨now, rfl⟩, ?_⟩
      exact congrArg TenantAnswer.registered (registerIdentity_ok_iff.2 hthere)
    -- the new row and the row under the other tenant are both there
    obtain ⟨now₁, hnew⟩ := (listed_concat _ pre _ t row.identityBytes d).2 (.inl hregisters)
    have hkept : (machine.run (new foreignKeys)
        (pre ++ [.registerIdentity now t row.identityBytes d])).Listed row.tenantId
          row.identityBytes row.did := by
      refine (listed_concat _ pre _ _ _ _).2 (.inr ⟨listed_of_mem hrow, ?_⟩)
      rintro (hdelete | hremove | ⟨d', ⟨now', hsame⟩, -⟩)
      · cases hdelete
      · cases hremove
      · exact hother (TenantCall.registerIdentity.inj hsame).2.1.symm
    obtain ⟨now₂, hold⟩ := hkept
    exact hother ((hone _ hpre).unique _ hold _ hnew rfl)
  · intro hnone pre hpre
    have hdescribed := described fun pre' now t i d h => hnone pre' now t i d (h.trans hpre)
    refine ⟨fun row hrow row' hrow' hsame => ?_, fun i answer hfind t => ?_,
      fun row hrow answer hfind => ?_⟩
    · exact (hdescribed.one _ _ _ _ _ (listed_of_mem hrow)
        (by rw [hsame]; exact listed_of_mem hrow')).1
    · constructor
      · rintro rfl
        obtain ⟨row, hrow, rfl, rfl⟩ := hfind
        exact ⟨row.did, (hdescribed.listed_iff _ _ _).1 (listed_of_mem hrow)⟩
      · rintro ⟨d, hsince⟩
        obtain ⟨now, hrow⟩ := (hdescribed.listed_iff _ _ _).2 hsince
        match answer with
        | none => exact absurd rfl (hfind _ hrow)
        | some t' =>
          obtain ⟨row', hrow', rfl, rfl⟩ := hfind
          rw [(hdescribed.one _ _ _ _ _ ⟨now, hrow⟩ (listed_of_mem hrow')).1]
    · match answer with
      | none => rfl
      | some t =>
        obtain ⟨row', hrow', hsame, rfl⟩ := hfind
        obtain ⟨hold, hkept⟩ := listed_removeIdentity.1 (listed_of_mem hrow')
        rw [hsame] at hold
        exact absurd (hdescribed.one _ _ _ _ _ hold (listed_of_mem hrow)) hkept

/-- One identity, registered under two tenants one after the other. -/
def registeredTwice : List TenantCall :=
  [.createTenant (uuidOf 1) 1 "first" "free", .createTenant (uuidOf 2) 1 "second" "free",
    .registerIdentity 2 (uuidOf 1) (identityBytes firstPublisher) "did:mesh:zFirst",
    .registerIdentity 3 (uuidOf 2) (identityBytes firstPublisher) "did:mesh:zFirst"]

/-- The identity is under both tenants, and removing it from the second leaves it with the first. -/
theorem registeredTwice_two_owners :
    ¬ OneOwner (new true) registeredTwice ∧
      ((machine.run (new true) registeredTwice).removeIdentity (uuidOf 2)
        "did:mesh:zFirst").2.findTenantByIdentity (identityBytes firstPublisher) =
          some (uuidOf 1) := by
  have hrows : (machine.run (new true) registeredTwice).identities =
      [⟨uuidOf 1, identityBytes firstPublisher, "did:mesh:zFirst", 2⟩,
        ⟨uuidOf 2, identityBytes firstPublisher, "did:mesh:zFirst", 3⟩] := by
    decide +kernel
  constructor
  · intro hone
    have hunique := hone.unique
    rw [hrows] at hunique
    revert hunique
    decide +kernel
  · decide +kernel

end TenantDb

end MeshProtocol
