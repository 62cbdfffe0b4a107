import VielHome.Finance.Receivables

/-!
# The financial summary of a building

`getFinancialSummary` adds up what the building has outstanding from the charge items of its
batches and from its adjustments, where it takes the whole amount of an adjustment. The debt of a
unit counts what is left of it. So the summary agrees with the units of the building exactly as long
as no positive adjustment of the building has been paid (`totalOutstanding_eq_iff`).
-/

namespace VielHome.Finance

open Relational

/-- What `getFinancialSummary` returns. -/
structure FinancialSummary where
  funds : List Fund
  totalOutstanding : ℤ
  totalCollected : ℤ
  totalExpenses : ℤ
  chargeBatchCount : ℕ

namespace Store

/-- The unpaid items in issued or closed batches of a building. -/
def outstandingItemsOfBuilding (s : Store) (buildingId : ℕ) : List ChargeItem :=
  s.chargeItems.rows.filter fun i =>
    ((s.batchOf i).any fun b => b.buildingId = buildingId ∧ b.status.isBilled) ∧ i.status ≠ .paid

/-- The positive adjustments of a building. -/
def positiveAdjustmentsOfBuilding (s : Store) (buildingId : ℕ) : List Adjustment :=
  s.adjustments.rows.filter fun a => a.buildingId = buildingId ∧ 0 < a.amount

/-- `getFinancialSummary`. -/
def getFinancialSummary (s : Store) (buildingId : ℕ) : FinancialSummary :=
  let outstandingItems := s.outstandingItemsOfBuilding buildingId
  let positiveAdjustments := s.positiveAdjustmentsOfBuilding buildingId
  let collected := s.payments.rows.filter fun p => p.buildingId = buildingId ∧ p.status = .approved
  let refunded := s.refunds.rows.filter fun r =>
    r.buildingId = buildingId ∧ s.isApproved r.paymentId
  let expensed := s.expenses.rows.filter fun e => e.buildingId = buildingId ∧ e.status = .posted
  { funds := s.funds.rows.filter fun f => f.buildingId = buildingId
    totalOutstanding :=
      (outstandingItems.map fun i => i.amount - i.paidAmount).sum +
        (positiveAdjustments.map fun a => a.amount).sum
    totalCollected :=
      (collected.map fun p => p.amount).sum - (refunded.map fun r => r.amount).sum
    totalExpenses := (expensed.map fun e => e.amount).sum
    chargeBatchCount :=
      (s.chargeBatches.rows.filter fun b => b.buildingId = buildingId).length }

/-- The debts of the units of a building. -/
def totalDebtOfUnits (s : Store) (buildingId : ℕ) : ℤ :=
  s.units.sum fun u =>
    if u.buildingId = buildingId then (s.computeDebtSnapshot u.id).totalDebt else 0

/-- Every adjustment is for a unit of the building it names. -/
def AdjustedAtHome (s : Store) : Prop :=
  ∀ a ∈ s.adjustments, s.unitBuilding a.unitId = some a.buildingId

variable {s : Store}

/-! ### The units of a building -/

/-- The debts of the units of a building are owed on items and on adjustments. -/
theorem Valid.totalDebtOfUnits_eq (h : s.Valid) (b : ℕ) :
    s.totalDebtOfUnits b = s.owedOnItems (s.inBuilding b) + s.owedOnAdjustments (s.inBuilding b) := by
  have hunit : ∀ u ∈ s.units,
      (if u.buildingId = b then (s.computeDebtSnapshot u.id).totalDebt else 0) =
        (if u.buildingId = b then s.chargeItems.sum fun i =>
          if i.unitId = u.id then (if s.isBilled i then i.outstanding else 0) else 0 else 0) +
        (if u.buildingId = b then s.adjustments.sum fun a =>
          if a.unitId = u.id then (if 0 < a.amount then a.outstanding else 0) else 0 else 0) := by
    intro u _
    by_cases hb : u.buildingId = b
    · have htotal : (s.computeDebtSnapshot u.id).totalDebt =
          (s.computeDebtSnapshot u.id).chargeItemDebt +
            (s.computeDebtSnapshot u.id).adjustmentDebt := rfl
      simp only [hb, if_true]
      rw [htotal, h.chargeItemDebt_eq, h.adjustmentDebt_eq]
      simp only [owedOnItems, owedOnAdjustments, decide_eq_true_eq, ite_and]
    · simp [hb]
  rw [totalDebtOfUnits, Table.sum_congr hunit, Table.sum_add, sum_units, sum_units]
  simp only [owedOnItems, owedOnAdjustments, ite_and]

/-- What the summary says of the items is what the units of the building owe on them. -/
theorem Isolated.outstandingItems_eq (hiso : s.Isolated) (h : s.Valid) (b : ℕ) :
    ((s.outstandingItemsOfBuilding b).map fun i => i.amount - i.paidAmount).sum =
      s.owedOnItems (s.inBuilding b) := by
  rw [outstandingItemsOfBuilding, Table.sum_filter, owedOnItems]
  refine Table.sum_congr fun i hi => ?_
  obtain ⟨batch, hbatch, -⟩ := h.item_batch i hi
  have hhome := hiso i hi batch hbatch
  by_cases hpaid : i.status = .paid
  · have hzero : i.outstanding = 0 := h.outstanding_eq_zero hi hpaid
    simp [hpaid, hzero]
  · simp [hpaid, inBuilding, hhome, isBilled, hbatch, ChargeItem.outstanding]

/-- What the summary says of the adjustments is more than what the units of the building owe on
them, by what was paid. -/
theorem AdjustedAtHome.positiveAdjustments_eq (hhome : s.AdjustedAtHome) (b : ℕ) :
    ((s.positiveAdjustmentsOfBuilding b).map fun a => a.amount).sum =
      s.owedOnAdjustments (s.inBuilding b) +
        s.adjustments.sum fun a => if a.buildingId = b ∧ 0 < a.amount then a.paidAmount else 0 := by
  rw [positiveAdjustmentsOfBuilding, Table.sum_filter, owedOnAdjustments, ← Table.sum_add]
  refine Table.sum_congr fun a ha => ?_
  have hunit := hhome a ha
  by_cases hcounts : a.buildingId = b ∧ 0 < a.amount
  · simp [inBuilding, hunit, hcounts, Adjustment.outstanding]
  · simp [inBuilding, hunit, hcounts]

end Store

/-! ### Where adjustments come from -/

/-- The adjustment is for the unit of another one, and names its building. -/
def Adjustment.SamePlace (a a' : Adjustment) : Prop :=
  a'.unitId = a.unitId ∧ a'.buildingId = a.buildingId

/-- Settling changes what was paid of the adjustments that are there. -/
theorem Store.samePlace_of_mem_settle {s : Store} {l : Settlement} {a' : Adjustment}
    (ha' : a' ∈ (s.settle l).adjustments) : ∃ a ∈ s.adjustments, a.SamePlace a' := by
  obtain ⟨a, ha, rfl⟩ := mem_settle_adjustments.mp ha'
  exact ⟨a, ha, rfl, rfl⟩

/-- A call adds adjustments for a unit of its building only. -/
theorem Call.Effect.adjustments {now : Time} {s s' : Store} {c : Call}
    (heffect : c.Effect now s s') (hc : c.Ok s) (hhome : c.AtHome s) {a' : Adjustment}
    (ha' : a' ∈ s'.adjustments) :
    (∃ a ∈ s.adjustments, a.SamePlace a') ∨ s.unitBuilding a'.unitId = some a'.buildingId := by
  cases heffect with
  | issueChargeBatch params _ batch plan heffect =>
    rw [heffect.store_eq] at ha'
    exact Or.inl (Store.samePlace_of_mem_settle ha')
  | cancelChargeBatch params _ batch heffect =>
    rw [heffect.store_eq] at ha'
    exact Or.inl ⟨a', ha', rfl, rfl⟩
  | createAdjustment params =>
    rcases (Table.mem_create (h := fun _ => rfl)).mp ha' with ha | rfl
    · exact Or.inl ⟨a', ha, rfl, rfl⟩
    · exact Or.inr hhome
  | applyOpeningBalanceCorrection params hdelta =>
    rcases (Table.mem_create (h := fun _ => rfl)).mp ha' with ha | rfl
    · exact Or.inl (Store.samePlace_of_mem_settle ha)
    · exact Or.inr hc.2
  | createExplicitPayment params _ fundId heffect =>
    rw [heffect.store_eq] at ha'
    exact Or.inl ⟨a', ha', rfl, rfl⟩
  | approvePayment params _ payment l heffect =>
    rw [heffect.store_eq] at ha'
    exact Or.inl (Store.samePlace_of_mem_settle ha')
  | reversePayment params _ payment heffect =>
    rw [heffect.store_eq] at ha'
    exact Or.inl (Store.samePlace_of_mem_settle ha')
  | _ => exact Or.inl ⟨a', ha', rfl, rfl⟩

namespace System

variable {S : System}

/-- Adjustments that are at home stay there. -/
theorem adjustedAtHome_of_extends {s s' : Store} (hs : s.AdjustedAtHome) (hextends : s.Extends s')
    (hrows : ∀ a' ∈ s'.adjustments, (∃ a ∈ s.adjustments, a.SamePlace a') ∨
      s.unitBuilding a'.unitId = some a'.buildingId) : s'.AdjustedAtHome := by
  intro a' ha'
  rcases hrows a' ha' with ⟨a, ha, hunit, hbuilding⟩ | hhome
  · rw [hunit, hbuilding]
    exact hextends.unit _ _ (hs a ha)
  · exact hextends.unit _ _ hhome

/-- A step of an isolated system keeps the adjustments at home. -/
theorem Isolated.adjustedAtHome_step (h : S.Isolated) (hhome : S.store.AdjustedAtHome) (e : Event) :
    (S.step e).store.AdjustedAtHome := by
  have hstep := h.inv.storeStep e
  refine adjustedAtHome_of_extends hhome hstep.rows ?_
  revert hstep
  generalize (S.step e).store = s'
  intro hstep a' ha'
  cases hstep with
  | request r now s' hkept =>
    obtain ⟨funds, rfl⟩ := hkept.funds_eq
    exact Or.inl ⟨a', ha', rfl, rfl⟩
  | commit index now call hget heffect =>
    have hmem := List.mem_of_getElem? hget
    exact heffect.adjustments (h.inv.calls call hmem) (h.calls call hmem) ha'
  | _ => exact Or.inl ⟨a', ha', rfl, rfl⟩

/-- A reachable state with an isolated store is isolated, and its adjustments are at home: its store
always was isolated. -/
theorem isolated_of_reachable (hS : S.Reachable) (hiso : S.store.Isolated) :
    S.Isolated ∧ S.store.AdjustedAtHome := by
  have hstep : ∀ (S : System) (e : Event),
      S.Inv ∧ (S.store.Isolated → S.Isolated ∧ S.store.AdjustedAtHome) →
      (S.step e).Inv ∧ ((S.step e).store.Isolated →
        (S.step e).Isolated ∧ (S.step e).store.AdjustedAtHome) := by
    intro S e ⟨hinv, hind⟩
    refine ⟨hinv.step e, fun hnext => ?_⟩
    -- A step removes nothing, so an item that is at home afterwards was at home before.
    have hbefore := Store.Isolated.of_extends hinv.valid (hinv.storeStep e).rows hnext
    obtain ⟨hsystem, hhome⟩ := hind hbefore
    exact ⟨hsystem.step_of_store hnext, hsystem.adjustedAtHome_step hhome e⟩
  have hinit : init.Inv ∧ (init.store.Isolated → init.Isolated ∧ init.store.AdjustedAtHome) :=
    ⟨inv_init, fun _ => ⟨isolated_init, fun a ha => absurd ha (List.not_mem_nil)⟩⟩
  have hrun := Reachable.induction (P := fun S : System =>
    S.Inv ∧ (S.store.Isolated → S.Isolated ∧ S.store.AdjustedAtHome)) hstep hinit hS
  exact hrun.2 hiso

/-- In every state that can be reached, with every item for a unit of its batch's building, the
summary of a building says what its units owe exactly when no positive adjustment of the building
has been paid. -/
theorem totalOutstanding_eq_iff (hS : S.Reachable) (hiso : S.store.Isolated) (b : ℕ) :
    (S.store.getFinancialSummary b).totalOutstanding = S.store.totalDebtOfUnits b ↔
      ∀ a ∈ S.store.adjustments, a.buildingId = b → 0 < a.amount → a.paidAmount = 0 := by
  have hvalid := (inv_of_reachable hS).valid
  have hhome := (isolated_of_reachable hS hiso).2
  have hsummary : (S.store.getFinancialSummary b).totalOutstanding =
      S.store.totalDebtOfUnits b + S.store.adjustments.sum fun a =>
        if a.buildingId = b ∧ 0 < a.amount then a.paidAmount else 0 := by
    rw [hvalid.totalDebtOfUnits_eq, Store.getFinancialSummary]
    dsimp only
    rw [hiso.outstandingItems_eq hvalid, hhome.positiveAdjustments_eq, add_assoc]
  rw [hsummary, add_eq_left]
  constructor
  · intro hzero a ha hbuilding hpos
    have hnonneg : ∀ a' ∈ S.store.adjustments,
        0 ≤ if a'.buildingId = b ∧ 0 < a'.amount then a'.paidAmount else 0 := by
      intro a' ha'
      split
      · exact (hvalid.adjustment_paid a' ha').1
      · exact le_rfl
    have hle := Table.le_sum hnonneg ha
    rw [hzero, if_pos ⟨hbuilding, hpos⟩] at hle
    exact le_antisymm hle (hvalid.adjustment_paid a ha).1
  · intro hunpaid
    refine Table.sum_eq_zero fun a ha => ?_
    by_cases hcounts : a.buildingId = b ∧ 0 < a.amount
    · rw [if_pos hcounts]
      exact hunpaid a ha hcounts.1 hcounts.2
    · exact if_neg hcounts

end System

/-- In the state after the charge was issued the two agree. -/
theorem totalOutstanding_eq_iff_charged :
    let s := (runFrom System.step System.init System.charged).store
    (s.getFinancialSummary 0).totalOutstanding = s.totalDebtOfUnits 0 := by
  have hisolated := System.isolated_of_eachStep System.charged (by decide +kernel)
  exact (System.totalOutstanding_eq_iff ⟨System.charged, rfl⟩ hisolated.store 0).2
    (by decide +kernel)

/-- A fine of 100 on the only unit, of which 60 are paid. -/
def System.fined : List Event :=
  foundation ++
    [.request (.createAdjustment 0 0 { amount := 100, reason := "fine", fundId := some 0 } 7) 1,
      .commit 0 1,
      .request (.createPayment tenancy 0 0 partPayment) 2, .commit 0 2,
      .request (.approvePayment 0 0 7) 3, .commit 0 3]

/-- The summary says 100 where the unit owes 40. -/
theorem totalOutstanding_ne_fined :
    let S := runFrom System.step System.init System.fined
    S.Reachable ∧ S.store.Isolated ∧ (S.store.getFinancialSummary 0).totalOutstanding = 100 ∧
      S.store.totalDebtOfUnits 0 = 40 := by
  have hisolated := System.isolated_of_eachStep System.fined (by decide +kernel)
  refine ⟨⟨System.fined, rfl⟩, hisolated.store, ?_, ?_⟩ <;> decide +kernel

end VielHome.Finance
