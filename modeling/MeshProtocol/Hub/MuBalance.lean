import MeshProtocol.Hub.Tenant

/-!
# MU balances

A tenant starts with the balance of its tier, and `deduct_mu` is the only call that changes it.  Its
one guard compares the balance with the cost; a negative cost passes the guard and raises the
balance.

`accounted_iff`: the balances of a run stay between zero and what they started with, and no
deduction raises one, exactly if no call deducts a negative cost from a tenant that exists.
-/

namespace MeshProtocol

open Machine

namespace TenantDb

/-! ## What the accounting promises -/

/-- A call creates the tenant. -/
def Creates (db : TenantDb) (tenant : Tenant) (pre : List TenantCall) (c : TenantCall) : Prop :=
  (machine.step (machine.run db pre) c).1 = .created (.ok tenant)

/-- Every balance is between zero and the balance that the tenant was created with. -/
def Bounded (db : TenantDb) (calls : List TenantCall) : Prop :=
  ∀ t ∈ (machine.run db calls).tenants, ∃ t₀ : Tenant, t₀.id = t.id ∧
    Since (Creates db t₀) (fun _ c => c = .deleteTenant t.id) calls ∧
      0 ≤ t.muBalance ∧ t.muBalance ≤ t₀.muBalance

/-- A deduction raises no balance, changes nothing if it fails, and otherwise lowers the balance
of the tenant it names by the cost. -/
structure SoundDeduction (db : TenantDb) (tenantId : Uuid) (cost : ℤ)
    (result : Except MuError Unit × TenantDb) : Prop where
  not_raised : ∀ id t t', db.getTenant id = some t → result.2.getTenant id = some t' →
    t'.muBalance ≤ t.muBalance
  failed : ∀ e, result.1 = .error e → result.2 = db
  deducted : result.1 = .ok () →
    (∃ t, db.getTenant tenantId = some t ∧
      result.2.getTenant tenantId = some { t with muBalance := t.muBalance - cost }) ∧
    ∀ id, id ≠ tenantId → result.2.getTenant id = db.getTenant id

/-- In every state of the run the balances are bounded, and every deduction is sound. -/
structure Accounted (db : TenantDb) (calls : List TenantCall) : Prop where
  bounded : ∀ pre, pre <+: calls → Bounded db pre
  deductions : ∀ pre id cost, pre ++ [.deductMu id cost] <+: calls →
    SoundDeduction (machine.run db pre) id cost ((machine.run db pre).deductMu id cost)

/-! ## One call -/

lemma muLimit_tierQuotas (tier : String) : 0 ≤ (tierQuotas tier).muLimit := by
  unfold tierQuotas
  split <;> decide

/-- The table of tenants has one row for an id. -/
def UniqueIds (db : TenantDb) : Prop := (db.tenants.map Tenant.id).Nodup

lemma getTenant_of_mem {db : TenantDb} (hids : db.UniqueIds) {t : Tenant} (h : t ∈ db.tenants) :
    db.getTenant t.id = some t := by
  rw [getTenant]
  cases hfind : db.tenants.find? (·.id = t.id) with
  | none =>
    have hnot := List.find?_eq_none.1 hfind t h
    simp at hnot
  | some t' =>
    have hid : t'.id = t.id := by simpa using List.find?_some hfind
    rw [List.inj_on_of_nodup_map hids (List.mem_of_find?_eq_some hfind) h hid]

lemma mem_of_getTenant {db : TenantDb} {id : Uuid} {t : Tenant} (h : db.getTenant id = some t) :
    t ∈ db.tenants ∧ t.id = id :=
  ⟨List.mem_of_find?_eq_some h, by simpa using List.find?_some h⟩

/-- A change of the rows of one tenant that keeps their ids. -/
lemma find?_map_of_id (tenants : List Tenant) {f : Tenant → Tenant} (hf : ∀ t, (f t).id = t.id)
    (id : Uuid) :
    (tenants.map f).find? (·.id = id) = (tenants.find? (·.id = id)).map f := by
  rw [List.find?_map]
  congr 2
  funext t
  simp [hf]

/-- The tenants after a deduction. -/
lemma getTenant_deductMu {db : TenantDb} {tenantId : Uuid} {cost : ℤ}
    (h : (db.deductMu tenantId cost).1 = .ok ()) (id : Uuid) :
    (db.deductMu tenantId cost).2.getTenant id = (db.getTenant id).map fun t =>
      if t.id = tenantId then { t with muBalance := t.muBalance - cost } else t := by
  unfold deductMu at h ⊢
  cases hget : db.getTenant tenantId with
  | none =>
    rw [hget] at h
    cases h
  | some tenant =>
    rw [hget] at h
    dsimp only at h ⊢
    split_ifs at h ⊢
    apply find?_map_of_id
    intro t
    split_ifs <;> rfl

/-- A deduction that is allowed is covered by the balance. -/
lemma deductMu_cases (db : TenantDb) (tenantId : Uuid) (cost : ℤ) :
    (∃ e, db.deductMu tenantId cost = (.error e, db)) ∨
      ∃ t, db.getTenant tenantId = some t ∧ cost ≤ t.muBalance ∧
        db.deductMu tenantId cost = (.ok (), { db with
          tenants := db.tenants.map fun t =>
            if t.id = tenantId then { t with muBalance := t.muBalance - cost } else t }) := by
  unfold deductMu
  cases hget : db.getTenant tenantId with
  | none => exact .inl ⟨_, rfl⟩
  | some t =>
    dsimp only
    split_ifs with hcost
    · exact .inl ⟨_, rfl⟩
    · exact .inr ⟨t, rfl, not_lt.1 hcost, rfl⟩

lemma tenants_registerIdentity (db : TenantDb) (now : UInt64) (tenantId : Uuid)
    (identityBytes : List UInt8) (did : String) :
    (db.registerIdentity now tenantId identityBytes did).2.tenants = db.tenants := by
  unfold registerIdentity
  split_ifs <;> rfl

lemma uniqueIds_step {db : TenantDb} (hids : db.UniqueIds) (c : TenantCall) :
    (machine.step db c).2.UniqueIds := by
  -- changing the rows of a tenant keeps the ids
  have hmap : ∀ f : Tenant → Tenant, (∀ t, (f t).id = t.id) →
      ((db.tenants.map f).map Tenant.id).Nodup := by
    intro f hf
    have hsame : Tenant.id ∘ f = Tenant.id := funext hf
    rw [List.map_map, hsame]
    exact hids
  cases c with
  | createTenant id now name tier =>
    change (db.createTenant id now name tier).2.UniqueIds
    unfold createTenant
    dsimp only
    split_ifs with htaken
    · exact hids
    · have hfresh : id ∉ db.tenants.map Tenant.id := by
        intro hmem
        obtain ⟨t, ht, hid⟩ := List.mem_map.1 hmem
        exact htaken (List.any_eq_true.2 ⟨t, ht, decide_eq_true hid⟩)
      rw [UniqueIds, List.map_append]
      exact hids.append (List.nodup_singleton _) (by simpa using hfresh)
  | deleteTenant id => exact hids.sublist (List.filter_sublist.map Tenant.id)
  | registerIdentity now tenantId bytes did =>
    change (db.registerIdentity now tenantId bytes did).2.UniqueIds
    rw [UniqueIds, tenants_registerIdentity]
    exact hids
  | removeIdentity tenantId did => exact hids
  | deductMu tenantId cost =>
    change (db.deductMu tenantId cost).2.UniqueIds
    rcases db.deductMu_cases tenantId cost with ⟨e, heq⟩ | ⟨t, -, -, heq⟩
    · rw [heq]
      exact hids
    · rw [heq]
      apply hmap
      intro t
      split_ifs <;> rfl
  | updateQuotas id maxDescriptors maxStorageBytes muLimit =>
    apply hmap
    intro t
    split_ifs <;> rfl

/-- A tenant after a call is the one that the call creates, or it was there before it, with the same
balance or with one that the call has lowered. -/
lemma mem_tenants_step {db : TenantDb} (hids : db.UniqueIds) {c : TenantCall} {t : Tenant}
    (h : t ∈ (machine.step db c).2.tenants) :
    ((machine.step db c).1 = .created (.ok t) ∧ 0 ≤ t.muBalance) ∨
      ∃ t' ∈ db.tenants, t'.id = t.id ∧ c ≠ .deleteTenant t.id ∧
        (t.muBalance = t'.muBalance ∨ ∃ cost, c = .deductMu t.id cost ∧
          cost ≤ t'.muBalance ∧ t.muBalance = t'.muBalance - cost) := by
  cases c with
  | createTenant id now name tier =>
    change t ∈ (db.createTenant id now name tier).2.tenants at h
    change (TenantAnswer.created (db.createTenant id now name tier).1 = _ ∧ _) ∨ _
    unfold createTenant at h ⊢
    dsimp only at h ⊢
    split_ifs at h ⊢
    · exact .inr ⟨t, h, rfl, by simp, .inl rfl⟩
    · rcases List.mem_append.1 h with hold | hnew
      · exact .inr ⟨t, hold, rfl, by simp, .inl rfl⟩
      · obtain rfl := List.mem_singleton.1 hnew
        exact .inl ⟨rfl, muLimit_tierQuotas tier⟩
  | deleteTenant id =>
    obtain ⟨hold, hother⟩ := List.mem_filter.1 h
    refine .inr ⟨t, hold, rfl, ?_, .inl rfl⟩
    rintro ⟨⟩
    simp at hother
  | registerIdentity now tenantId bytes did =>
    change t ∈ (db.registerIdentity now tenantId bytes did).2.tenants at h
    rw [tenants_registerIdentity] at h
    exact .inr ⟨t, h, rfl, by simp, .inl rfl⟩
  | removeIdentity tenantId did => exact .inr ⟨t, h, rfl, by simp, .inl rfl⟩
  | deductMu tenantId cost =>
    change t ∈ (db.deductMu tenantId cost).2.tenants at h
    rcases db.deductMu_cases tenantId cost with ⟨e, heq⟩ | ⟨found, hget, hcovered, heq⟩
    · rw [heq] at h
      exact .inr ⟨t, h, rfl, by simp, .inl rfl⟩
    · rw [heq] at h
      obtain ⟨t', hold, rfl⟩ := List.mem_map.1 h
      split_ifs with hnamed
      · obtain rfl : t' = found := by
          have hfound := getTenant_of_mem hids hold
          rw [hnamed, hget] at hfound
          exact (Option.some.inj hfound).symm
        exact .inr ⟨t', hold, rfl, by simp, .inr ⟨cost, by rw [← hnamed], hcovered, rfl⟩⟩
      · exact .inr ⟨t', hold, rfl, by simp, .inl rfl⟩
  | updateQuotas id maxDescriptors maxStorageBytes muLimit =>
    obtain ⟨t', hold, rfl⟩ := List.mem_map.1 h
    refine .inr ⟨t', hold, ?_, by simp, .inl ?_⟩
    · split_ifs <;> rfl
    · split_ifs <;> rfl

/-- A deduction is sound unless it deducts a negative cost from a tenant that exists. -/
lemma soundDeduction {db : TenantDb} {tenantId : Uuid} {cost : ℤ}
    (hcost : db.getTenant tenantId ≠ none → 0 ≤ cost) :
    SoundDeduction db tenantId cost (db.deductMu tenantId cost) := by
  rcases db.deductMu_cases tenantId cost with ⟨e, heq⟩ | ⟨found, hget, -, heq⟩
  · rw [heq]
    refine ⟨fun id t t' ht ht' => ?_, fun _ _ => rfl, fun hok => by cases hok⟩
    rw [ht, Option.some.injEq] at ht'
    rw [ht']
  · have hok : (db.deductMu tenantId cost).1 = .ok () := by rw [heq]
    have hnonneg : 0 ≤ cost := by
      apply hcost
      rw [hget]
      exact Option.some_ne_none found
    refine ⟨fun id t t' ht ht' => ?_, fun e he => ?_, fun _ => ⟨⟨found, hget, ?_⟩,
      fun id hid => ?_⟩⟩
    · rw [getTenant_deductMu hok, ht, Option.map_some, Option.some.injEq] at ht'
      rw [← ht']
      split_ifs
      · exact sub_le_self _ hnonneg
      · exact le_rfl
    · rw [hok] at he
      cases he
    · obtain ⟨-, hid⟩ := mem_of_getTenant hget
      rw [getTenant_deductMu hok, hget, Option.map_some, if_pos hid]
    · rw [getTenant_deductMu hok]
      cases hother : db.getTenant id with
      | none => rfl
      | some t =>
        obtain ⟨-, rfl⟩ := mem_of_getTenant hother
        rw [Option.map_some, if_neg hid]

/-! ## Runs -/

lemma uniqueIds_run (foreignKeys : Bool) (calls : List TenantCall) :
    (machine.run (new foreignKeys) calls).UniqueIds :=
  run_invariant (P := UniqueIds) (s := new foreignKeys) List.nodup_nil
    (fun _ c hids => uniqueIds_step hids c) calls

/-- Balances that are bounded stay so through a call that deducts no negative cost. -/
lemma Bounded.concat {foreignKeys : Bool} {pre : List TenantCall} {c : TenantCall}
    (h : Bounded (new foreignKeys) pre)
    (hcost : ∀ id cost, c = .deductMu id cost →
      (machine.run (new foreignKeys) pre).getTenant id ≠ none → 0 ≤ cost) :
    Bounded (new foreignKeys) (pre ++ [c]) := by
  intro t ht
  rw [run_concat] at ht
  have hids := uniqueIds_run foreignKeys pre
  rcases mem_tenants_step hids ht with ⟨hcreated, hnonneg⟩ | ⟨t', hold, hid, hkept, hbalance⟩
  · exact ⟨t, rfl, since_concat_iff.2 (.inl hcreated), hnonneg, le_rfl⟩
  · obtain ⟨t₀, hid₀, hsince, hlow, hhigh⟩ := h t' hold
    rw [hid] at hid₀ hsince
    refine ⟨t₀, hid₀, since_concat_iff.2 (.inr ⟨hsince, hkept⟩), ?_⟩
    rcases hbalance with hsame | ⟨cost, rfl, hcovered, hlowered⟩
    · rw [hsame]
      exact ⟨hlow, hhigh⟩
    · have hnonneg : 0 ≤ cost := by
        apply hcost t.id cost rfl
        rw [← hid, getTenant_of_mem hids hold]
        exact Option.some_ne_none t'
      omega

/-- The balances of a run are accounted for exactly if no call of it deducts a negative cost from a
tenant that exists. -/
theorem accounted_iff (foreignKeys : Bool) (calls : List TenantCall) :
    Accounted (new foreignKeys) calls ↔
      ∀ pre id cost, pre ++ [.deductMu id cost] <+: calls →
        (machine.run (new foreignKeys) pre).getTenant id ≠ none → 0 ≤ cost := by
  constructor
  · intro haccounted pre id cost hpre hthere
    obtain ⟨t, hget⟩ := Option.ne_none_iff_exists'.1 hthere
    obtain ⟨hmem, -⟩ := mem_of_getTenant hget
    obtain ⟨t₀, -, -, hlow, -⟩ :=
      haccounted.bounded pre ((List.prefix_append _ _).trans hpre) t hmem
    by_contra hnegative
    have hsound := haccounted.deductions pre id cost hpre
    rcases deductMu_cases (machine.run (new foreignKeys) pre) id cost with
      ⟨e, heq⟩ | ⟨found, -, -, heq⟩
    · -- a cost below zero is covered by every balance
      unfold deductMu at heq
      rw [hget] at heq
      dsimp only at heq
      rw [if_neg (by omega)] at heq
      cases heq
    · rw [heq] at hsound
      obtain ⟨⟨t', ht', hlowered⟩, -⟩ := hsound.deducted rfl
      have hle := hsound.not_raised id t' _ ht' hlowered
      dsimp only at hle
      omega
  · intro hcost
    refine ⟨fun pre hpre => ?_, fun pre id cost hpre => soundDeduction (hcost pre id cost hpre)⟩
    refine prefix_induction (P := Bounded (new foreignKeys)) ?_ fun pre' c hpre' ih => ?_
    · intro t ht
      cases ht
    · refine ih.concat ?_
      rintro id cost rfl
      exact hcost pre' id cost (hpre'.trans hpre)

/-- A tenant of the free tier, and a cost below zero. -/
def negativeCost : List TenantCall :=
  [.createTenant (uuidOf 1) 1 "first" "free", .deductMu (uuidOf 1) (-1)]

/-- The tenant of the run, with the balance. -/
def freeTenant (muBalance : ℤ) : Tenant :=
  ⟨uuidOf 1, "first", "free", 100, 1048576, 10, 1, 0, 0, muBalance, 10000, 1⟩

/-- The deduction raises the balance above what the tenant started with. -/
theorem negativeCost_raises_balance :
    ¬ Accounted (new true) negativeCost ∧
      ((machine.run (new true) negativeCost).getTenant (uuidOf 1)).map Tenant.muBalance =
        some 10001 := by
  constructor
  · intro haccounted
    have hdeduction := haccounted.deductions (negativeCost.take 1) (uuidOf 1) (-1) List.prefix_rfl
    have hle := hdeduction.not_raised (uuidOf 1)
      (freeTenant 10000) (freeTenant 10001) (by decide +kernel) (by decide +kernel)
    revert hle
    decide
  · decide +kernel

end TenantDb

end MeshProtocol
