import VielHome.Finance.Effect.ChargeItems
import VielHome.Finance.Invariant.Effect

/-!
# What requests leave behind

Before its transaction a service method only reads, except that it may create the default
fund of its building. When it succeeds, the parameters that it computed mean what
`Call.Ok` says, in the store that it leaves.
-/

namespace VielHome.Finance

open Relational

/-! ### Reads -/

namespace FinanceService

variable {s s' : Store}

/-- The building is there. -/
theorem getBuilding_ok {buildingId : ℕ} {b : Building} :
    (getBuilding buildingId).run s = .ok (b, s') ↔
      s.buildings.find? buildingId = some b ∧ s' = s := by
  rw [getBuilding, Tx.run_query_bind, Tx.run_expect_ok]

/-- The unit is there, and of the building. -/
theorem getOwnUnit_ok {buildingId unitId : ℕ} {u : BuildingUnit} :
    (getOwnUnit buildingId unitId).run s = .ok (u, s') ↔
      (s.units.find? unitId = some u ∧ u.buildingId = buildingId) ∧ s' = s := by
  rw [getOwnUnit, Tx.run_query_bind, Tx.run_expect_ok, Option.filter_eq_some_iff, decide_eq_true_eq]

/-- The fund is there, and of the building. -/
theorem getFund_ok {buildingId fundId : ℕ} {f : Fund} :
    (getFund buildingId fundId).run s = .ok (f, s') ↔
      (s.funds.find? fundId = some f ∧ f.buildingId = buildingId) ∧ s' = s := by
  rw [getFund, Tx.run_query_bind, Tx.run_expect_ok, Option.filter_eq_some_iff, decide_eq_true_eq]

/-- The payment is there, and of the building. -/
theorem getOwnPayment_ok {buildingId paymentId : ℕ} {p : Payment} :
    (getOwnPayment buildingId paymentId).run s = .ok (p, s') ↔
      (s.payments.find? paymentId = some p ∧ p.buildingId = buildingId) ∧ s' = s := by
  rw [getOwnPayment, Tx.run_query_bind, Tx.run_expect_ok, Option.filter_eq_some_iff,
    decide_eq_true_eq]

/-- The expense is there, and of the building. -/
theorem getOwnExpense_ok {buildingId expenseId : ℕ} {e : Expense} :
    (getOwnExpense buildingId expenseId).run s = .ok (e, s') ↔
      (s.expenses.find? expenseId = some e ∧ e.buildingId = buildingId) ∧ s' = s := by
  rw [getOwnExpense, Tx.run_query_bind, Tx.run_expect_ok, Option.filter_eq_some_iff,
    decide_eq_true_eq]

/-- The charge is there, and of the building. -/
theorem getChargeBatch_ok {buildingId chargeBatchId : ℕ} {b : ChargeBatch} :
    (getChargeBatch buildingId chargeBatchId).run s = .ok (b, s') ↔
      (s.chargeBatches.find? chargeBatchId = some b ∧ b.buildingId = buildingId) ∧ s' = s := by
  rw [getChargeBatch, Tx.run_query_bind, Tx.run_expect_ok, Option.filter_eq_some_iff,
    decide_eq_true_eq]

/-- The building of a fund. -/
theorem fundBuilding_of_find? {fundId : ℕ} {f : Fund} (h : s.funds.find? fundId = some f) :
    s.fundBuilding fundId = some f.buildingId := by
  rw [Store.fundBuilding, h, Option.map_some]

/-- The building of a unit. -/
theorem unitBuilding_of_find? {unitId : ℕ} {u : BuildingUnit} (h : s.units.find? unitId = some u) :
    s.unitBuilding unitId = some u.buildingId := by
  rw [Store.unitBuilding, h, Option.map_some]

/-- The fund a write uses is one of the building; the store stays or gains the default fund. -/
theorem findFundForWrite_ok {buildingId : ℕ} {fundId : Option ℕ} {f : Fund}
    (h : (findFundForWrite buildingId fundId).run s = .ok (f, s')) :
    s'.funds.find? f.id = some f ∧ f.buildingId = buildingId ∧
      (s' = s ∨ s' = s.withDefaultFund buildingId) := by
  cases fundId with
  | some fundId =>
    obtain ⟨⟨hfind, hbuilding⟩, rfl⟩ := getFund_ok.mp h
    exact ⟨Table.find?_of_mem (Table.mem_of_find? hfind), hbuilding, Or.inl rfl⟩
  | none =>
    obtain ⟨fund, s₁, hfund, h⟩ := Tx.run_bind_ok.mp h
    rw [Tx.run_expect_ok, Option.filter_eq_some_iff] at h
    obtain ⟨⟨hsome, -⟩, rfl⟩ := h
    obtain rfl := Option.some.inj hsome
    obtain ⟨hbuilding, hfind, hstore⟩ := getOrCreateDefaultFund_ok hfund
    exact ⟨hfind, hbuilding, hstore⟩

/-- The fund is of the building, and may have been made on the way. -/
theorem resolveFundForWrite_ok {buildingId : ℕ} {fundId : Option ℕ} {f : Fund}
    (h : (resolveFundForWrite buildingId fundId).run s = (.ok f, s')) :
    s'.funds.find? f.id = some f ∧ f.buildingId = buildingId ∧
      (s' = s ∨ s' = s.withDefaultFund buildingId) := by
  simp only [resolveFundForWrite, Script.run_bind_ok, Script.run_liftM_ok, Script.run_atomically_ok,
    Tx.run_ofExcept_ok, Script.run_pure_ok] at h
  obtain ⟨fund, s₁, hfund, w, s₂, ⟨-, rfl⟩, rfl, rfl⟩ := h
  exact findFundForWrite_ok hfund

/-- The fund of a charge, in the same terms. -/
theorem resolveChargeFund_ok {buildingId : ℕ} {dto : CreateChargeBatchDto} {f : Fund}
    (h : (resolveChargeFund buildingId dto).run s = (.ok f, s')) :
    s'.funds.find? f.id = some f ∧ f.buildingId = buildingId ∧
      (s' = s ∨ s' = s.withDefaultFund buildingId) := by
  rw [resolveChargeFund] at h
  split at h
  case h_1 => exact resolveFundForWrite_ok h
  case h_2 chargeKind hkind =>
    simp only [Script.run_bind_ok, Script.run_atomically_ok, Tx.run_ofExcept_ok] at h
    obtain ⟨w, s₁, ⟨-, rfl⟩, h⟩ := h
    split at h
    case h_1 fundId _ =>
      simp only [Script.run_bind_ok, Script.run_liftM_ok, Script.run_atomically_ok, getFund_ok,
        Tx.run_ofExcept_ok, Script.run_pure_ok] at h
      obtain ⟨fund, s₂, ⟨⟨hfind, hbuilding⟩, rfl⟩, _, s₃, ⟨-, rfl⟩, _, s₄, ⟨-, rfl⟩, rfl, rfl⟩ := h
      exact ⟨Table.find?_of_mem (Table.mem_of_find? hfind), hbuilding, Or.inl rfl⟩
    case h_2 =>
      simp only [Script.run_bind_ok, Script.run_atomically_ok, Tx.run_query, Except.ok.injEq,
        Prod.mk.injEq] at h
      obtain ⟨funds, s₂, ⟨rfl, rfl⟩, h⟩ := h
      split at h
      case h_1 fund hfilter =>
        obtain ⟨rfl, rfl⟩ := Script.run_pure_ok.mp h
        have hmem : f ∈ s'.listActiveChargeOptionFunds buildingId := by
          refine List.mem_of_mem_filter (p := fun f =>
            ChargeFundAlignmentPolicy.isFundCompatible chargeKind f.type) ?_
          rw [hfilter]
          exact List.mem_singleton_self f
        obtain ⟨hmem, hbuilding⟩ := List.mem_filter.mp hmem
        simp only [decide_eq_true_eq] at hbuilding
        exact ⟨Table.find?_of_mem hmem, hbuilding.1, Or.inl rfl⟩
      all_goals
        rw [Script.run_atomically_ok, Tx.run_ofExcept_ok] at h
        exact absurd h.1 (by simp)

/-- Who pays for a unit pays for one of the building. -/
theorem assertCanPayExactUnit_ok {occupancy : Occupancy} {buildingId unitId personId : ℕ}
    {w : PUnit}
    (h : (assertCanPayExactUnit occupancy buildingId unitId personId).run s = .ok (w, s')) :
    s.unitBuilding unitId = some buildingId ∧ s' = s := by
  rw [assertCanPayExactUnit, Tx.run_bind_ok] at h
  obtain ⟨u, s₁, hunit, h⟩ := h
  obtain ⟨⟨hfind, rfl⟩, rfl⟩ := getOwnUnit_ok.mp hunit
  exact ⟨unitBuilding_of_find? hfind, (Tx.run_require_ok.mp h).2⟩

/-! ### What a method keeps -/

/-- The stores a service method passes through: valid, with the rows of the first one, and
different from it at most in the funds. -/
structure KeptFrom (s t : Store) : Prop where
  valid : t.Valid
  rows : s.Extends t
  funds_eq : ∃ funds, t = { s with funds := funds }

/-- A request that writes nothing has kept everything. -/
theorem KeptFrom.refl (h : s.Valid) : KeptFrom s s := ⟨h, .refl s, s.funds, rfl⟩

/-- A default fund may be made on the way. -/
theorem KeptFrom.withDefaultFund {t : Store} (h : KeptFrom s t) (buildingId : ℕ) :
    KeptFrom s (t.withDefaultFund buildingId) := by
  obtain ⟨hvalid, hrows, funds, rfl⟩ := h
  refine ⟨hvalid.createFund rfl, hrows.trans ?_, _, rfl⟩
  exact { Store.Extends.refl _ with fund := fun _ _ hb => Store.fundBuilding_create hb }

/-! ### What requests keep

A property of stores that the creation of a default fund keeps is kept by every request. -/

section Keeps

variable {P : Store → Prop} (hP : ∀ t buildingId, P t → P (t.withDefaultFund buildingId))

include hP in
/-- The look for a fund writes nothing. -/
theorem keeps_findFundForWrite (buildingId : ℕ) (fundId : Option ℕ) :
    Script.Keeps P (Script.atomically (findFundForWrite buildingId fundId)) := by
  refine Script.Keeps.atomically fun t ht => Tx.exec_induction ht fun f t' hrun => ?_
  obtain ⟨-, -, rfl | rfl⟩ := findFundForWrite_ok hrun
  · exact ht
  · exact hP t buildingId ht

include hP in
/-- What resolves a fund makes a default one at most. -/
theorem keeps_resolveFundForWrite (buildingId : ℕ) (fundId : Option ℕ) :
    Script.Keeps P (resolveFundForWrite buildingId fundId) :=
  (keeps_findFundForWrite hP buildingId fundId).bind fun _ =>
    Script.Keeps.ofExcept.bind fun _ => .pure _

/-- The look at the building writes nothing. -/
theorem keeps_getBuilding (buildingId : ℕ) :
    Script.Keeps P (Script.atomically (getBuilding buildingId)) :=
  .of_reads fun _ _ _ hrun => (getBuilding_ok.mp hrun).2

/-- Nor does that at the unit. -/
theorem keeps_getOwnUnit (buildingId unitId : ℕ) :
    Script.Keeps P (Script.atomically (getOwnUnit buildingId unitId)) :=
  .of_reads fun _ _ _ hrun => (getOwnUnit_ok.mp hrun).2

/-- Nor does that at the fund. -/
theorem keeps_getFund (buildingId fundId : ℕ) :
    Script.Keeps P (Script.atomically (getFund buildingId fundId)) :=
  .of_reads fun _ _ _ hrun => (getFund_ok.mp hrun).2

/-- Nor does that at the payment. -/
theorem keeps_getOwnPayment (buildingId paymentId : ℕ) :
    Script.Keeps P (Script.atomically (getOwnPayment buildingId paymentId)) :=
  .of_reads fun _ _ _ hrun => (getOwnPayment_ok.mp hrun).2

/-- Nor does that at the expense. -/
theorem keeps_getOwnExpense (buildingId expenseId : ℕ) :
    Script.Keeps P (Script.atomically (getOwnExpense buildingId expenseId)) :=
  .of_reads fun _ _ _ hrun => (getOwnExpense_ok.mp hrun).2

/-- Nor does that at the charge. -/
theorem keeps_getChargeBatch (buildingId chargeBatchId : ℕ) :
    Script.Keeps P (Script.atomically (getChargeBatch buildingId chargeBatchId)) :=
  .of_reads fun _ _ _ hrun => (getChargeBatch_ok.mp hrun).2

end Keeps

/-- What a passed classification says about a monthly charge. -/
theorem resolveChargeClassification_ok {buildingId : ℕ} {dto : CreateChargeBatchDto} {w : PUnit}
    (h : (resolveChargeClassification buildingId dto).run s = .ok (w, s')) :
    (dto.chargeKind = some .monthly → dto.seriesId.isSome ∧ dto.periodStart.isSome) ∧ s' = s := by
  rw [resolveChargeClassification, Tx.run_bind_ok] at h
  obtain ⟨w₁, s₁, hvalid, h⟩ := h
  rw [Tx.run_ofExcept_ok] at hvalid
  obtain ⟨hvalid, rfl⟩ := hvalid
  split at h
  case isTrue hmonthly =>
    rw [ChargePolicy.assertValidClassification, hmonthly] at hvalid
    obtain ⟨_, hseries, hvalid⟩ := except_bind_ok hvalid
    obtain ⟨_, hperiod, -⟩ := except_bind_ok hvalid
    simp only [Tx.run_query_bind, Tx.run_expect_bind_ok, Tx.run_require_ok] at h
    obtain ⟨series, -, -, rfl⟩ := h
    exact ⟨fun _ => ⟨check_ok.mp hseries, check_ok.mp hperiod⟩, rfl⟩
  case isFalse hmonthly =>
    exact ⟨fun he => absurd he hmonthly, (Tx.run_pure_ok.mp h).2⟩

/-- What resolves the fund of a charge makes a default one at most. -/
theorem keeps_resolveChargeFund {P : Store → Prop}
    (hP : ∀ t buildingId, P t → P (t.withDefaultFund buildingId)) (buildingId : ℕ)
    (dto : CreateChargeBatchDto) : Script.Keeps P (resolveChargeFund buildingId dto) := by
  rw [resolveChargeFund]
  split
  case h_1 => exact keeps_resolveFundForWrite hP buildingId dto.fundId
  case h_2 chargeKind _ =>
    refine Script.Keeps.ofExcept.bind fun _ => ?_
    split
    case h_1 fundId _ =>
      exact (keeps_getFund buildingId fundId).bind fun _ =>
        Script.Keeps.ofExcept.bind fun _ => Script.Keeps.ofExcept.bind fun _ => .pure _
    case h_2 =>
      refine Script.Keeps.query.bind fun funds => ?_
      split
      · exact .pure _
      · exact .ofExcept
      · exact .ofExcept

end FinanceService

/-- A request does nothing but create the default fund, whether or not it leads to a
transaction. -/
theorem Request.keeps_prepare {P : Store → Prop}
    (hP : ∀ t buildingId, P t → P (t.withDefaultFund buildingId)) (r : Request) (now : Time) :
    Script.Keeps P (r.prepare now) := by
  -- only resolving a fund writes, and it writes the default fund
  cases r with
  | createFund b dto =>
    exact ((FinanceService.keeps_getBuilding b).bind fun _ => .pure _).bind fun _ => .pure _
  | updateFund b fundId dto =>
    exact ((FinanceService.keeps_getFund b fundId).bind fun _ => .ofExcept).bind fun _ => .pure _
  | deactivateFund b fundId =>
    exact ((FinanceService.keeps_getFund b fundId).bind fun _ => .ofExcept).bind fun _ => .pure _
  | reactivateFund b fundId =>
    exact ((FinanceService.keeps_getFund b fundId).bind fun _ => .pure _).bind fun _ => .pure _
  | createChargeSeries b name =>
    exact ((FinanceService.keeps_getBuilding b).bind fun _ => .pure _).bind fun _ => .pure _
  | createChargeBatch b dto actor =>
    refine Script.Keeps.bind ?_ fun _ => .pure _
    refine (FinanceService.keeps_getBuilding b).bind fun _ => ?_
    refine Script.Keeps.bind (.of_reads fun _ _ _ hrun =>
      (FinanceService.resolveChargeClassification_ok hrun).2) fun _ => ?_
    exact (FinanceService.keeps_resolveChargeFund hP b dto).bind fun _ =>
      Script.Keeps.query.bind fun _ => Script.Keeps.ofExcept.bind fun _ => .pure _
  | issueChargeBatch b chargeBatchId =>
    exact ((FinanceService.keeps_getChargeBatch b chargeBatchId).bind fun _ =>
      Script.Keeps.ofExcept.bind fun _ => .pure _).bind fun _ => .pure _
  | cancelChargeBatch b chargeBatchId =>
    exact ((FinanceService.keeps_getChargeBatch b chargeBatchId).bind fun _ => .pure _).bind
      fun _ => .pure _
  | createAdjustment b unitId dto actor =>
    refine Script.Keeps.bind ?_ fun _ => .pure _
    refine (FinanceService.keeps_getOwnUnit b unitId).bind fun _ => ?_
    refine Script.Keeps.ofExcept.bind fun _ => ?_
    exact (FinanceService.keeps_resolveFundForWrite hP b dto.fundId).bind fun _ => .pure _
  | applyLateFee b unitId chargeItemId actor =>
    refine Script.Keeps.bind ?_ fun _ => .pure _
    refine Script.Keeps.query.bind fun _ => Script.Keeps.expect.bind fun _ => ?_
    refine Script.Keeps.query.bind fun _ => Script.Keeps.expect.bind fun _ => ?_
    refine Script.Keeps.query.bind fun _ => Script.Keeps.require.bind fun _ => ?_
    exact Script.Keeps.expect.bind fun _ => .pure _
  | correctOpeningBalance b unitId dto actor =>
    refine Script.Keeps.bind ?_ fun _ => .pure _
    refine (FinanceService.keeps_getOwnUnit b unitId).bind fun _ => ?_
    exact (FinanceService.keeps_resolveFundForWrite hP b dto.fundId).bind fun _ => .pure _
  | createPayment occupancy b unitId dto =>
    refine Script.Keeps.bind ?_ fun _ => .pure _
    refine (FinanceService.keeps_getOwnUnit b unitId).bind fun _ => ?_
    refine Script.Keeps.ofExcept.bind fun _ => Script.Keeps.ofExcept.bind fun _ => ?_
    exact (FinanceService.keeps_resolveFundForWrite hP b dto.fundId).bind fun _ => .pure _
  | createExplicitPayment occupancy b unitId dto actor =>
    refine Script.Keeps.bind ?_ fun _ => .pure _
    refine Script.Keeps.bind (.of_reads fun _ _ _ hrun =>
      (FinanceService.assertCanPayExactUnit_ok hrun).2) fun _ => ?_
    exact Script.Keeps.ofExcept.bind fun _ => .pure _
  | approvePayment b paymentId actor =>
    exact ((FinanceService.keeps_getOwnPayment b paymentId).bind fun _ =>
      Script.Keeps.ofExcept.bind fun _ => .pure _).bind fun _ => .pure _
  | rejectPayment b paymentId reason =>
    exact ((FinanceService.keeps_getOwnPayment b paymentId).bind fun _ => .ofExcept).bind
      fun _ => .pure _
  | reversePayment b paymentId =>
    exact ((FinanceService.keeps_getOwnPayment b paymentId).bind fun _ =>
      Script.Keeps.ofExcept.bind fun _ => .pure _).bind fun _ => .pure _
  | refundPayment b paymentId dto actor =>
    refine Script.Keeps.bind ?_ fun _ => .pure _
    refine (FinanceService.keeps_getOwnPayment b paymentId).bind fun _ => ?_
    exact Script.Keeps.query.bind fun _ => Script.Keeps.ofExcept.bind fun _ => .pure _
  | createExpense b dto actor =>
    refine Script.Keeps.bind ?_ fun _ => .pure _
    refine (FinanceService.keeps_getBuilding b).bind fun _ => Script.Keeps.ofExcept.bind fun _ => ?_
    exact (FinanceService.keeps_resolveFundForWrite hP b dto.fundId).bind fun _ =>
      Script.Keeps.ofExcept.bind fun _ => .pure _
  | voidExpense b expenseId voidReason actor =>
    exact ((FinanceService.keeps_getOwnExpense b expenseId).bind fun _ =>
      Script.Keeps.ofExcept.bind fun _ => .pure _).bind fun _ => .pure _

/-! ### What the computed parameters mean -/

namespace FinanceService

variable {s s' : Store}

/-- The fund of a write, and the units, which the choice of the fund does not touch. -/
theorem resolved_ok {buildingId : ℕ} {f : Fund} (h : s'.funds.find? f.id = some f ∧
    f.buildingId = buildingId ∧ (s' = s ∨ s' = s.withDefaultFund buildingId)) :
    s'.fundBuilding f.id = some buildingId ∧ s'.units = s.units := by
  obtain ⟨hfind, rfl, rfl | rfl⟩ := h
  · exact ⟨fundBuilding_of_find? hfind, rfl⟩
  · exact ⟨fundBuilding_of_find? hfind, rfl⟩

/-- The building of a unit only depends on the units. -/
theorem unitBuilding_congr (h : s'.units = s.units) (unitId : ℕ) :
    s'.unitBuilding unitId = s.unitBuilding unitId := by
  rw [Store.unitBuilding, Store.unitBuilding, h]

/-- `createChargeBatch` asks for what the repository relies on. -/
theorem createChargeBatch_ok {buildingId actor : ℕ} {dto : CreateChargeBatchDto}
    {params : CreateChargeBatchParams}
    (h : (createChargeBatch buildingId dto actor).run s = (.ok params, s')) :
    Call.Ok s' (.createChargeBatch params) ∧ params.buildingId = buildingId ∧
      ∃ r, resolveChargeItems s' buildingId dto = .ok r ∧ params.items = r.items := by
  simp only [createChargeBatch, Script.run_bind_ok, Script.run_liftM_ok, Script.run_pure_ok] at h
  obtain ⟨b, s₁, hb, w, s₂, hclass, fund, s₃, hfund, h⟩ := h
  obtain ⟨-, rfl⟩ := getBuilding_ok.mp hb
  obtain ⟨hmonthly, rfl⟩ := resolveChargeClassification_ok hclass
  obtain ⟨hfundBuilding, -⟩ := resolved_ok (resolveChargeFund_ok hfund)
  simp only [Script.run_atomically_ok, Tx.run_query, Except.ok.injEq, Prod.mk.injEq,
    Tx.run_ofExcept_ok] at h
  obtain ⟨x, s₄, ⟨hx, rfl⟩, r, s₅, ⟨hr, rfl⟩, rfl, rfl⟩ := h
  rw [← hx] at hr
  obtain ⟨hamounts, hunits, -⟩ := resolveChargeItems_ok hr
  refine ⟨⟨hfundBuilding, hamounts, hmonthly, fun hmethod i hi => ?_⟩, rfl, r, hr, rfl⟩
  obtain ⟨u, hu, hid, hbuilding⟩ := hunits hmethod i hi
  rw [← hid, unitBuilding_of_find? (Table.find?_of_mem hu), hbuilding]

/-- So does `createAdjustment`. -/
theorem createAdjustment_ok {buildingId unitId actor : ℕ} {dto : CreateAdjustmentDto}
    {params : CreateAdjustmentParams}
    (h : (createAdjustment buildingId unitId dto actor).run s = (.ok params, s')) :
    Call.Ok s' (.createAdjustment params) ∧ params.buildingId = buildingId ∧
      s'.unitBuilding params.unitId = some buildingId := by
  simp only [createAdjustment, Script.run_bind_ok, Script.run_liftM_ok, Script.run_atomically_ok,
    Tx.run_ofExcept_ok, Script.run_pure_ok] at h
  obtain ⟨u, s₁, hu, w, s₂, ⟨-, rfl⟩, fund, s₃, hfund, rfl, rfl⟩ := h
  obtain ⟨⟨hfind, rfl⟩, rfl⟩ := getOwnUnit_ok.mp hu
  obtain ⟨hfundBuilding, hunits⟩ := resolved_ok (resolveFundForWrite_ok hfund)
  have hunit := (unitBuilding_congr hunits unitId).trans (unitBuilding_of_find? hfind)
  refine ⟨⟨hfundBuilding, ?_, by simp⟩, rfl, hunit⟩
  rw [hunit]
  rfl

/-- A late fee is charged to the unit of the item, which is one of the building when the items
are isolated. -/
theorem applyLateFee_ok {buildingId unitId chargeItemId actor : ℕ} {now : Time}
    {params : CreateAdjustmentParams} (hs : s.Valid)
    (h : (applyLateFee buildingId unitId chargeItemId actor now).run s = (.ok params, s')) :
    Call.Ok s' (.createAdjustment params) ∧ params.buildingId = buildingId ∧
      (s'.Isolated → s'.unitBuilding params.unitId = some buildingId) := by
  simp only [applyLateFee, Script.run_bind_ok, Script.run_atomically_ok, Tx.run_query,
    Except.ok.injEq, Prod.mk.injEq, Tx.run_expect_ok, Tx.run_require_ok, Script.run_pure_ok,
    Option.filter_eq_some_iff, decide_eq_true_eq] at h
  obtain ⟨x, s₁, ⟨rfl, rfl⟩, item, s₂, ⟨⟨hitem, hunit⟩, rfl⟩, y, s₃, ⟨rfl, rfl⟩, batch, s₄,
    ⟨⟨hbatch, hbuilding⟩, rfl⟩, _, s₅, ⟨rfl, rfl⟩, _, s₆, ⟨-, rfl⟩, amount, s₇, ⟨-, rfl⟩, rfl,
    rfl⟩ := h
  refine ⟨⟨?_, ?_, by simp⟩, rfl, fun hiso => ?_⟩
  · rw [← hbuilding]
    exact hs.batch_fund batch (Table.mem_of_find? hbatch)
  · rw [← hunit]
    exact hs.item_unit item (Table.mem_of_find? hitem)
  · rw [← hbuilding, ← hunit]
    exact hiso item (Table.mem_of_find? hitem) batch hbatch

/-- So does `correctOpeningBalance`. -/
theorem correctOpeningBalance_ok {buildingId unitId actor : ℕ} {dto : CorrectOpeningBalanceDto}
    {params : ApplyOpeningBalanceCorrectionParams}
    (h : (correctOpeningBalance buildingId unitId dto actor).run s = (.ok params, s')) :
    Call.Ok s' (.applyOpeningBalanceCorrection params) ∧ params.buildingId = buildingId := by
  simp only [correctOpeningBalance, Script.run_bind_ok, Script.run_liftM_ok,
    Script.run_pure_ok] at h
  obtain ⟨u, s₁, hu, fund, s₂, hfund, rfl, rfl⟩ := h
  obtain ⟨⟨hfind, rfl⟩, rfl⟩ := getOwnUnit_ok.mp hu
  obtain ⟨hfundBuilding, hunits⟩ := resolved_ok (resolveFundForWrite_ok hfund)
  exact ⟨⟨hfundBuilding, (unitBuilding_congr hunits unitId).trans (unitBuilding_of_find? hfind)⟩,
    rfl⟩

/-- So does `createPayment`. -/
theorem createPayment_ok {occupancy : Occupancy} {buildingId unitId : ℕ} {dto : CreatePaymentDto}
    {params : CreatePaymentParams}
    (h : (createPayment occupancy buildingId unitId dto).run s = (.ok params, s')) :
    Call.Ok s' (.createPayment params) ∧ params.buildingId = buildingId := by
  simp only [createPayment, Script.run_bind_ok, Script.run_liftM_ok, Script.run_atomically_ok,
    Tx.run_ofExcept_ok, Script.run_pure_ok] at h
  obtain ⟨u, s₁, hu, _, s₂, ⟨-, rfl⟩, _, s₃, ⟨-, rfl⟩, fund, s₄, hfund, rfl, rfl⟩ := h
  obtain ⟨⟨hfind, rfl⟩, rfl⟩ := getOwnUnit_ok.mp hu
  obtain ⟨hfundBuilding, hunits⟩ := resolved_ok (resolveFundForWrite_ok hfund)
  exact ⟨⟨dto.amount_pos, hfundBuilding,
    (unitBuilding_congr hunits unitId).trans (unitBuilding_of_find? hfind)⟩, rfl⟩

/-- So does `createExplicitPayment`. -/
theorem createExplicitPayment_ok {occupancy : Occupancy} {buildingId unitId actor : ℕ}
    {dto : CreateExplicitPaymentDto} {params : CreateExplicitPaymentParams}
    (h : (createExplicitPayment occupancy buildingId unitId dto actor).run s =
      (.ok params, s')) :
    Call.Ok s' (.createExplicitPayment params) ∧ params.buildingId = buildingId := by
  simp only [createExplicitPayment, Script.run_bind_ok, Script.run_liftM_ok,
    Script.run_atomically_ok, Tx.run_ofExcept_ok, Script.run_pure_ok] at h
  obtain ⟨w, s₁, hpay, targets, s₂, ⟨-, rfl⟩, rfl, rfl⟩ := h
  obtain ⟨hunit, rfl⟩ := assertCanPayExactUnit_ok hpay
  exact ⟨hunit, rfl⟩

/-- So does `approvePayment`. -/
theorem approvePayment_ok {buildingId paymentId actor : ℕ} {params : ApprovePaymentParams}
    (h : (approvePayment buildingId paymentId actor).run s = (.ok params, s')) :
    Call.Ok s' (.approvePayment params) ∧ params.buildingId = buildingId := by
  simp only [approvePayment, Script.run_bind_ok, Script.run_liftM_ok, Script.run_atomically_ok,
    Tx.run_ofExcept_ok, Script.run_pure_ok] at h
  obtain ⟨p, s₁, hp, _, s₂, ⟨-, rfl⟩, rfl, rfl⟩ := h
  obtain ⟨⟨hfind, hbuilding⟩, rfl⟩ := getOwnPayment_ok.mp hp
  exact ⟨⟨p, hfind, hbuilding, rfl, rfl, rfl⟩, rfl⟩

/-- So does `reversePayment`. -/
theorem reversePayment_ok {buildingId paymentId : ℕ} {params : ReversePaymentParams}
    (h : (reversePayment buildingId paymentId).run s = (.ok params, s')) :
    Call.Ok s' (.reversePayment params) ∧ params.buildingId = buildingId := by
  simp only [reversePayment, Script.run_bind_ok, Script.run_liftM_ok, Script.run_atomically_ok,
    Tx.run_ofExcept_ok, Script.run_pure_ok] at h
  obtain ⟨p, s₁, hp, _, s₂, ⟨-, rfl⟩, rfl, rfl⟩ := h
  obtain ⟨⟨hfind, hbuilding⟩, rfl⟩ := getOwnPayment_ok.mp hp
  exact ⟨⟨p, hfind, hbuilding, rfl, rfl⟩, rfl⟩

/-- So does `createExpense`. -/
theorem createExpense_ok {buildingId actor : ℕ} {dto : CreateExpenseDto} {now : Time}
    {params : CreateExpenseParams}
    (h : (createExpense buildingId dto actor now).run s = (.ok params, s')) :
    Call.Ok s' (.createExpense params) ∧ params.buildingId = buildingId := by
  simp only [createExpense, Script.run_bind_ok, Script.run_liftM_ok, Script.run_atomically_ok,
    Tx.run_ofExcept_ok, Script.run_pure_ok] at h
  obtain ⟨b, s₁, hb, _, s₂, ⟨-, rfl⟩, fund, s₃, hfund, _, s₄, ⟨-, rfl⟩, rfl, rfl⟩ := h
  exact ⟨(resolved_ok (resolveFundForWrite_ok hfund)).1, rfl⟩

/-- So does `voidExpense`. -/
theorem voidExpense_ok {buildingId expenseId actor : ℕ} {voidReason : String}
    {params : VoidExpenseParams}
    (h : (voidExpense buildingId expenseId voidReason actor).run s = (.ok params, s')) :
    Call.Ok s' (.voidExpense params) ∧ params.buildingId = buildingId := by
  simp only [voidExpense, Script.run_bind_ok, Script.run_liftM_ok, Script.run_atomically_ok,
    Tx.run_ofExcept_ok, Script.run_pure_ok] at h
  obtain ⟨e, s₁, he, _, s₂, ⟨-, rfl⟩, rfl, rfl⟩ := h
  obtain ⟨⟨hfind, hbuilding⟩, rfl⟩ := getOwnExpense_ok.mp he
  exact ⟨⟨e, hfind, hbuilding, rfl, rfl⟩, rfl⟩

/-- A fund is made for the building of the request. -/
theorem createFund_building {buildingId : ℕ} {dto : CreateFundDto} {params : CreateFundParams}
    (h : (createFund buildingId dto).run s = (.ok params, s')) : params.buildingId = buildingId := by
  simp only [createFund, Script.run_bind_ok, Script.run_pure_ok] at h
  obtain ⟨-, -, -, rfl, -⟩ := h
  rfl

/-- A charge is issued in the building of the request. -/
theorem issueChargeBatch_building {buildingId chargeBatchId : ℕ} {params : IssueChargeBatchParams}
    (h : (issueChargeBatch buildingId chargeBatchId).run s = (.ok params, s')) :
    params.buildingId = buildingId := by
  simp only [issueChargeBatch, Script.run_bind_ok, Script.run_pure_ok] at h
  obtain ⟨-, -, -, -, -, -, rfl, -⟩ := h
  rfl

/-- A charge is cancelled in the building of the request. -/
theorem cancelChargeBatch_building {buildingId chargeBatchId : ℕ}
    {params : CancelChargeBatchParams}
    (h : (cancelChargeBatch buildingId chargeBatchId).run s = (.ok params, s')) :
    params.buildingId = buildingId := by
  simp only [cancelChargeBatch, Script.run_bind_ok, Script.run_pure_ok] at h
  obtain ⟨-, -, -, rfl, -⟩ := h
  rfl

/-- A payment is refunded in the building of the request. -/
theorem refundPayment_building {buildingId paymentId actor : ℕ} {dto : RefundPaymentDto}
    {params : CreateRefundParams}
    (h : (refundPayment buildingId paymentId dto actor).run s = (.ok params, s')) :
    params.buildingId = buildingId := by
  simp only [refundPayment, Script.run_bind_ok, Script.run_pure_ok] at h
  obtain ⟨-, -, -, -, -, -, -, -, -, rfl, -⟩ := h
  rfl

end FinanceService

/-- The transaction that a request leads to works on the building of the request, and its
parameters mean what they should. -/
theorem Request.prepare_ok {s s' : Store} {r : Request} {now : Time} {c : Call} (hs : s.Valid)
    (h : (r.prepare now).run s = (.ok c, s')) :
    c.Ok s' ∧ ∀ b, c.buildingId = some b → b = r.buildingId := by
  have named : ∀ {b b' : ℕ}, b' = r.buildingId → some b' = some b → b = r.buildingId :=
    fun hb heq => (Option.some.inj heq).symm.trans hb
  -- each request ends by returning the call that it has prepared
  cases r with
  | createChargeBatch b dto actor =>
    obtain ⟨params, s₁, hparams, hc⟩ := Script.run_bind_ok.mp h
    obtain ⟨rfl, rfl⟩ := Script.run_pure_ok.mp hc
    obtain ⟨hok, hbuilding, -⟩ := FinanceService.createChargeBatch_ok hparams
    exact ⟨hok, fun _ => named hbuilding⟩
  | createAdjustment b unitId dto actor =>
    obtain ⟨params, s₁, hparams, hc⟩ := Script.run_bind_ok.mp h
    obtain ⟨rfl, rfl⟩ := Script.run_pure_ok.mp hc
    obtain ⟨hok, hbuilding, -⟩ := FinanceService.createAdjustment_ok hparams
    exact ⟨hok, fun _ => named hbuilding⟩
  | applyLateFee b unitId chargeItemId actor =>
    obtain ⟨params, s₁, hparams, hc⟩ := Script.run_bind_ok.mp h
    obtain ⟨rfl, rfl⟩ := Script.run_pure_ok.mp hc
    obtain ⟨hok, hbuilding, -⟩ := FinanceService.applyLateFee_ok hs hparams
    exact ⟨hok, fun _ => named hbuilding⟩
  | correctOpeningBalance b unitId dto actor =>
    obtain ⟨params, s₁, hparams, hc⟩ := Script.run_bind_ok.mp h
    obtain ⟨rfl, rfl⟩ := Script.run_pure_ok.mp hc
    obtain ⟨hok, hbuilding⟩ := FinanceService.correctOpeningBalance_ok hparams
    exact ⟨hok, fun _ => named hbuilding⟩
  | createPayment occupancy b unitId dto =>
    obtain ⟨params, s₁, hparams, hc⟩ := Script.run_bind_ok.mp h
    obtain ⟨rfl, rfl⟩ := Script.run_pure_ok.mp hc
    obtain ⟨hok, hbuilding⟩ := FinanceService.createPayment_ok hparams
    exact ⟨hok, fun _ => named hbuilding⟩
  | createExplicitPayment occupancy b unitId dto actor =>
    obtain ⟨params, s₁, hparams, hc⟩ := Script.run_bind_ok.mp h
    obtain ⟨rfl, rfl⟩ := Script.run_pure_ok.mp hc
    obtain ⟨hok, hbuilding⟩ := FinanceService.createExplicitPayment_ok hparams
    exact ⟨hok, fun _ => named hbuilding⟩
  | approvePayment b paymentId actor =>
    obtain ⟨params, s₁, hparams, hc⟩ := Script.run_bind_ok.mp h
    obtain ⟨rfl, rfl⟩ := Script.run_pure_ok.mp hc
    obtain ⟨hok, hbuilding⟩ := FinanceService.approvePayment_ok hparams
    exact ⟨hok, fun _ => named hbuilding⟩
  | reversePayment b paymentId =>
    obtain ⟨params, s₁, hparams, hc⟩ := Script.run_bind_ok.mp h
    obtain ⟨rfl, rfl⟩ := Script.run_pure_ok.mp hc
    obtain ⟨hok, hbuilding⟩ := FinanceService.reversePayment_ok hparams
    exact ⟨hok, fun _ => named hbuilding⟩
  | createExpense b dto actor =>
    obtain ⟨params, s₁, hparams, hc⟩ := Script.run_bind_ok.mp h
    obtain ⟨rfl, rfl⟩ := Script.run_pure_ok.mp hc
    obtain ⟨hok, hbuilding⟩ := FinanceService.createExpense_ok hparams
    exact ⟨hok, fun _ => named hbuilding⟩
  | voidExpense b expenseId voidReason actor =>
    obtain ⟨params, s₁, hparams, hc⟩ := Script.run_bind_ok.mp h
    obtain ⟨rfl, rfl⟩ := Script.run_pure_ok.mp hc
    obtain ⟨hok, hbuilding⟩ := FinanceService.voidExpense_ok hparams
    exact ⟨hok, fun _ => named hbuilding⟩
  | createFund b dto =>
    obtain ⟨params, s₁, hparams, hc⟩ := Script.run_bind_ok.mp h
    obtain ⟨rfl, rfl⟩ := Script.run_pure_ok.mp hc
    exact ⟨trivial, fun _ => named (FinanceService.createFund_building hparams)⟩
  | issueChargeBatch b chargeBatchId =>
    obtain ⟨params, s₁, hparams, hc⟩ := Script.run_bind_ok.mp h
    obtain ⟨rfl, rfl⟩ := Script.run_pure_ok.mp hc
    exact ⟨trivial, fun _ => named (FinanceService.issueChargeBatch_building hparams)⟩
  | cancelChargeBatch b chargeBatchId =>
    obtain ⟨params, s₁, hparams, hc⟩ := Script.run_bind_ok.mp h
    obtain ⟨rfl, rfl⟩ := Script.run_pure_ok.mp hc
    exact ⟨trivial, fun _ => named (FinanceService.cancelChargeBatch_building hparams)⟩
  | refundPayment b paymentId dto actor =>
    obtain ⟨params, s₁, hparams, hc⟩ := Script.run_bind_ok.mp h
    obtain ⟨rfl, rfl⟩ := Script.run_pure_ok.mp hc
    exact ⟨trivial, fun _ => named (FinanceService.refundPayment_building hparams)⟩
  | createChargeSeries b name =>
    obtain ⟨params, s₁, hparams, hc⟩ := Script.run_bind_ok.mp h
    obtain ⟨rfl, rfl⟩ := Script.run_pure_ok.mp hc
    exact ⟨trivial, fun _ => named rfl⟩
  | _ =>
    obtain ⟨params, s₁, hparams, hc⟩ := Script.run_bind_ok.mp h
    obtain ⟨rfl, rfl⟩ := Script.run_pure_ok.mp hc
    exact ⟨trivial, fun _ => nofun⟩

end VielHome.Finance
