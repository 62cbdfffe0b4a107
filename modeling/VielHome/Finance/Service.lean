import VielHome.Relational.Script
import VielHome.Finance.ChargeItems
import VielHome.Finance.Repository.Adjustments

/-!
# The finance service

A service method reads what it needs, checks the request, and runs one repository
transaction with parameters taken from its reads. The methods here are the statements
before that transaction, and their result is the parameters they pass to it. They are
scripts: the only transaction they run themselves creates the building's default fund when
a request names no fund and the building has none, and it stays when the request fails
afterwards.

Who owns, rents or manages what is kept by another module; its answers are an argument of
the methods that ask for them.
-/

namespace VielHome.Finance

open Relational

/-- The answers of the building module about people: `findCurrentTenancyForUnit`,
`isCurrentOwnerOfUnit`, and whether `getRoles` includes `MANAGER`. -/
structure Occupancy where
  currentTenant : ℕ → Option ℕ
  isCurrentOwnerOfUnit : ℕ → ℕ → Bool
  isManager : ℕ → ℕ → Bool

/-- What a service method runs before its transaction. -/
abbrev Prepare (α : Type) := Script Store Failure α

namespace FinanceService

/-! ### Reads that methods share -/

/-- `getBuilding`. -/
def getBuilding (buildingId : ℕ) : Tx Store Failure Building := do
  let building ← Tx.query fun s => s.buildings.find? buildingId
  Tx.expect building (.notFound "Building not found.")

/-- `getOwnUnit`. -/
def getOwnUnit (buildingId unitId : ℕ) : Tx Store Failure BuildingUnit := do
  let unit ← Tx.query fun s => s.units.find? unitId
  Tx.expect (unit.filter fun u => u.buildingId = buildingId) (.notFound "Unit not found.")

/-- `getFund`. -/
def getFund (buildingId fundId : ℕ) : Tx Store Failure Fund := do
  let fund ← Tx.query fun s => s.funds.find? fundId
  Tx.expect (fund.filter fun f => f.buildingId = buildingId) (.notFound "Fund not found.")

/-- `getOwnPayment`. -/
def getOwnPayment (buildingId paymentId : ℕ) : Tx Store Failure Payment := do
  let payment ← Tx.query fun s => s.payments.find? paymentId
  Tx.expect (payment.filter fun p => p.buildingId = buildingId) (.notFound "Payment not found.")

/-- `getOwnExpense`. -/
def getOwnExpense (buildingId expenseId : ℕ) : Tx Store Failure Expense := do
  let expense ← Tx.query fun s => s.expenses.find? expenseId
  Tx.expect (expense.filter fun e => e.buildingId = buildingId) (.notFound "Expense not found.")

/-- `getChargeBatch`. -/
def getChargeBatch (buildingId chargeBatchId : ℕ) : Tx Store Failure ChargeBatch := do
  let batch ← Tx.query fun s => s.chargeBatches.find? chargeBatchId
  Tx.expect (batch.filter fun b => b.buildingId = buildingId)
    (.notFound "Charge batch not found.")

/-- The named fund, or the building's default fund, which is created if need be. -/
def findFundForWrite (buildingId : ℕ) : Option ℕ → Tx Store Failure Fund
  | some fundId => getFund buildingId fundId
  | none => do
    let fund ← getOrCreateDefaultFund buildingId
    Tx.expect (some fund |>.filter fun f => f.buildingId = buildingId) (.notFound "Fund not found.")

/-- `resolveFundForWrite`. -/
def resolveFundForWrite (buildingId : ℕ) (fundId : Option ℕ) : Prepare Fund := do
  let fund ← findFundForWrite buildingId fundId
  Script.ofExcept (FundPolicy.assertActive fund.isActive)
  pure fund

/-! ### Funds and series -/

/-- `CreateFundDto`. -/
structure CreateFundDto where
  name : String
  type : FundType
  initialBalance : Option ℤ := none
  initialBalance_pos : ∀ b ∈ initialBalance, 0 < b := by first | exact pos_of_mem_none | decide

/-- `createFund`. -/
def createFund (buildingId : ℕ) (dto : CreateFundDto) : Prepare CreateFundParams := do
  let _ ← getBuilding buildingId
  pure { buildingId, name := dto.name, type := dto.type, initialBalance := dto.initialBalance }

/-- `updateFund`. -/
def updateFund (buildingId fundId : ℕ) : Prepare PUnit := do
  let existing ← getFund buildingId fundId
  Script.ofExcept (FundPolicy.assertActive existing.isActive)

/-- `deactivateFund`. -/
def deactivateFund (buildingId fundId : ℕ) : Prepare PUnit := do
  let existing ← getFund buildingId fundId
  Script.ofExcept (FundPolicy.assertDeactivatable existing.isDefault)

/-- `reactivateFund`. -/
def reactivateFund (buildingId fundId : ℕ) : Prepare PUnit := do
  let _ ← getFund buildingId fundId
  pure ⟨⟩

/-- `createChargeSeries`: the name without surrounding blanks. -/
def createChargeSeries (buildingId : ℕ) (name : String) : Prepare String := do
  let _ ← getBuilding buildingId
  pure name.trimAscii.toString

/-! ### Charge batches -/

/-- `resolveChargeClassification`. -/
def resolveChargeClassification (buildingId : ℕ) (dto : CreateChargeBatchDto) :
    Tx Store Failure PUnit := do
  Tx.ofExcept (ChargePolicy.assertValidClassification dto)
  if dto.chargeKind = some .monthly then
    let series ← Tx.query fun s => dto.seriesId.bind s.chargeSeries.find?
    let series ← Tx.expect (series.filter fun r => r.buildingId = buildingId)
      (.notFound "Charge series not found.")
    Tx.require series.isActive
      (.businessRuleViolation "An inactive charge series cannot receive new charges.")

/-- `resolveChargeFund` in the mode `create`. -/
def resolveChargeFund (buildingId : ℕ) (dto : CreateChargeBatchDto) : Prepare Fund :=
  match dto.chargeKind with
  | none => resolveFundForWrite buildingId dto.fundId
  | some chargeKind => do
    Script.ofExcept (ChargeFundAlignmentPolicy.assertSupportedForNewCreation chargeKind)
    match dto.fundId with
    | some fundId => do
      let fund ← getFund buildingId fundId
      Script.ofExcept (FundPolicy.assertActive fund.isActive)
      Script.ofExcept (ChargeFundAlignmentPolicy.assertFundCompatible chargeKind fund.type)
      pure fund
    | none => do
      let funds ← Script.query fun s => s.listActiveChargeOptionFunds buildingId
      match funds.filter fun f => ChargeFundAlignmentPolicy.isFundCompatible chargeKind f.type with
      | [fund] => pure fund
      | [] =>
        Script.ofExcept (.error (.chargeFundSelectionRequired
          "No active compatible fund exists for this charge type."
          [("reason", "NO_COMPATIBLE_FUND"),
            ("chargeKind", ChargeFundAlignmentPolicy.kindString chargeKind)]))
      | _ =>
        Script.ofExcept (.error (.chargeFundSelectionRequired
          "Multiple active compatible funds exist; fundId is required."
          [("reason", "AMBIGUOUS_COMPATIBLE_FUND"),
            ("chargeKind", ChargeFundAlignmentPolicy.kindString chargeKind)]))

/-- `createChargeBatch`. -/
def createChargeBatch (buildingId : ℕ) (dto : CreateChargeBatchDto) (actorPersonId : ℕ) :
    Prepare CreateChargeBatchParams := do
  let _ ← getBuilding buildingId
  resolveChargeClassification buildingId dto
  let fund ← resolveChargeFund buildingId dto
  let resolved ← Script.query fun s => resolveChargeItems s buildingId dto
  let resolved ← Script.ofExcept resolved
  pure
    { buildingId, fundId := fund.id, title := dto.title, description := dto.description,
      calculationMethod := dto.calculationMethod, kind := dto.chargeKind,
      expectedFundType := dto.chargeKind.map fun _ => fund.type, seriesId := dto.seriesId,
      periodStart := dto.periodStart, dueDate := dto.dueDate, createdById := actorPersonId,
      items := resolved.items, unitScope := resolved.effectiveUnitScope,
      payerType := dto.payerType, lateFeeType := dto.lateFeeType,
      lateFeeValue := dto.lateFeeValue, lateFeeGraceDays := dto.lateFeeGraceDays }

/-- `issueChargeBatch`. -/
def issueChargeBatch (buildingId chargeBatchId : ℕ) : Prepare IssueChargeBatchParams := do
  let batch ← getChargeBatch buildingId chargeBatchId
  Script.ofExcept (ChargePolicy.assertIssuable batch.status batch.totalAmount)
  pure { chargeBatchId, buildingId }

/-- `cancelChargeBatch`. -/
def cancelChargeBatch (buildingId chargeBatchId : ℕ) : Prepare CancelChargeBatchParams := do
  let _ ← getChargeBatch buildingId chargeBatchId
  pure { chargeBatchId, buildingId }

/-! ### Adjustments -/

/-- `CreateAdjustmentDto`. -/
structure CreateAdjustmentDto where
  amount : ℤ
  reason : String
  fundId : Option ℕ := none
  amount_ne_zero : amount ≠ 0 := by decide

/-- `createAdjustment`. -/
def createAdjustment (buildingId unitId : ℕ) (dto : CreateAdjustmentDto) (actorPersonId : ℕ) :
    Prepare CreateAdjustmentParams := do
  let _ ← getOwnUnit buildingId unitId
  Script.ofExcept (ChargePolicy.assertValidAdjustmentAmount dto.amount)
  let fund ← resolveFundForWrite buildingId dto.fundId
  pure
    { unitId, buildingId, fundId := fund.id, amount := dto.amount, reason := dto.reason,
      createdById := actorPersonId }

/-- `findAdjustmentBySource('LATE_FEE', chargeItemId)` found one. -/
def lateFeeApplied (s : Store) (chargeItemId : ℕ) : Bool :=
  s.adjustments.rows.any fun a => a.sourceType = some .lateFee ∧ a.sourceId = some chargeItemId

/-- `applyLateFee`. -/
def applyLateFee (buildingId unitId chargeItemId actorPersonId : ℕ) (now : Time) :
    Prepare CreateAdjustmentParams := do
  let item ← Script.query fun s => s.chargeItems.find? chargeItemId
  let item ← Script.expect (item.filter fun i => i.unitId = unitId)
    (.notFound "Charge item not found.")
  let batch ← Script.query fun s => s.batchOf item
  let batch ← Script.expect (batch.filter fun b => b.buildingId = buildingId)
    (.notFound "Charge item not found.")
  let alreadyApplied ← Script.query fun s => lateFeeApplied s chargeItemId
  Script.require (¬ alreadyApplied)
    (.duplicate "A late fee has already been applied to this charge item.")
  let eligibility := ChargePolicy.computeLateFeeEligibility batch now item.amount item.paidAmount
    alreadyApplied
  let amount ← Script.expect eligibility
    (.businessRuleViolation "This charge item is not eligible for a late fee.")
  pure
    { unitId, buildingId, fundId := batch.fundId, amount,
      reason := "Late fee — " ++ batch.title, createdById := actorPersonId,
      sourceType := some .lateFee, sourceId := some chargeItemId }

/-- `CorrectOpeningBalanceDto`. -/
structure CorrectOpeningBalanceDto where
  targetBalance : ℤ
  reason : String
  fundId : Option ℕ := none

/-- `correctOpeningBalance`. -/
def correctOpeningBalance (buildingId unitId : ℕ) (dto : CorrectOpeningBalanceDto)
    (actorPersonId : ℕ) : Prepare ApplyOpeningBalanceCorrectionParams := do
  let _ ← getOwnUnit buildingId unitId
  let fund ← resolveFundForWrite buildingId dto.fundId
  pure
    { unitId, buildingId, fundId := fund.id, targetBalance := dto.targetBalance,
      reason := dto.reason, createdById := actorPersonId }

/-! ### Payments -/

/-- `CreatePaymentDto`. -/
structure CreatePaymentDto where
  payerPersonId : ℕ
  idempotencyKey : String
  fundId : Option ℕ := none
  amount : ℤ
  method : PaymentMethod
  reference : Option String := none
  note : Option String := none
  isManualAmount : Option Bool := none
  amount_pos : 0 < amount := by decide

/-- `assertValidPayerForUnit`. -/
def assertValidPayerForUnit (occupancy : Occupancy) (unitId payerPersonId : ℕ) :
    Except Failure PUnit :=
  match occupancy.currentTenant unitId with
  | some tenant =>
    check (tenant = payerPersonId)
      (.authorization "The payer must be the unit's current tenant.")
  | none =>
    check (occupancy.isCurrentOwnerOfUnit unitId payerPersonId)
      (.authorization "The payer must be one of the unit's current owners.")

/-- `createPayment`. -/
def createPayment (occupancy : Occupancy) (buildingId unitId : ℕ) (dto : CreatePaymentDto) :
    Prepare CreatePaymentParams := do
  let _ ← getOwnUnit buildingId unitId
  Script.ofExcept (assertValidPayerForUnit occupancy unitId dto.payerPersonId)
  Script.ofExcept (PaymentPolicy.assertPositiveAmount dto.amount)
  let fund ← resolveFundForWrite buildingId dto.fundId
  pure
    { buildingId, unitId, fundId := fund.id, payerId := dto.payerPersonId, amount := dto.amount,
      method := dto.method, idempotencyKey := dto.idempotencyKey, reference := dto.reference,
      note := dto.note, isManualAmount := dto.isManualAmount.getD false }

/-- An obligation identifier of a request: the encoding of a target, or some other text. -/
inductive ObligationId
  | encoded (target : ObligationTarget)
  | invalid (text : String)
  deriving DecidableEq

/-- `CreateExplicitPaymentDto`. -/
structure CreateExplicitPaymentDto where
  obligationIds : List ObligationId
  method : PaymentMethod
  idempotencyKey : String
  reference : Option String := none
  note : Option String := none
  obligationIds_ne_nil : obligationIds ≠ [] := by decide

/-- `assertCanPayExactUnit`. -/
def assertCanPayExactUnit (occupancy : Occupancy) (buildingId unitId personId : ℕ) :
    Tx Store Failure PUnit := do
  let _ ← getOwnUnit buildingId unitId
  Tx.require (occupancy.isManager personId buildingId ∨
      occupancy.isCurrentOwnerOfUnit unitId personId ∨
      occupancy.currentTenant unitId = some personId)
    (.authorization "You do not have payment authority for this unit.")

/-- `parseExplicitObligations`. -/
def parseExplicitObligations (obligationIds : List ObligationId) :
    Except Failure (List ObligationTarget) := do
  check obligationIds.Nodup (.duplicate "Duplicate obligation identifiers are not allowed.")
  obligationIds.mapM fun
    | .encoded target => .ok target
    | .invalid _ => .error (.businessRuleViolation "Invalid obligation identifier.")

/-- `createExplicitPayment`. -/
def createExplicitPayment (occupancy : Occupancy) (buildingId unitId : ℕ)
    (dto : CreateExplicitPaymentDto) (actorPersonId : ℕ) : Prepare CreateExplicitPaymentParams := do
  assertCanPayExactUnit occupancy buildingId unitId actorPersonId
  let targets ← Script.ofExcept (parseExplicitObligations dto.obligationIds)
  pure
    { buildingId, unitId, payerId := actorPersonId, method := dto.method,
      idempotencyKey := dto.idempotencyKey, reference := dto.reference, note := dto.note,
      targets }

/-- `approvePayment`. -/
def approvePayment (buildingId paymentId actorPersonId : ℕ) : Prepare ApprovePaymentParams := do
  let payment ← getOwnPayment buildingId paymentId
  Script.ofExcept (PaymentPolicy.assertPending payment.status)
  pure
    { paymentId, buildingId, unitId := payment.unitId, fundId := payment.fundId,
      amount := payment.amount, actorId := actorPersonId }

/-- `rejectPayment`. -/
def rejectPayment (buildingId paymentId : ℕ) : Prepare PUnit := do
  let payment ← getOwnPayment buildingId paymentId
  Script.ofExcept (PaymentPolicy.assertPending payment.status)

/-- `reversePayment`. -/
def reversePayment (buildingId paymentId : ℕ) : Prepare ReversePaymentParams := do
  let payment ← getOwnPayment buildingId paymentId
  Script.ofExcept (PaymentPolicy.assertReversible payment.status)
  pure { paymentId, buildingId, fundId := payment.fundId, amount := payment.amount }

/-- `RefundPaymentDto`. -/
structure RefundPaymentDto where
  amount : Option ℤ := none
  reason : String
  amount_pos : ∀ a ∈ amount, 0 < a := by first | exact pos_of_mem_none | decide

/-- `refundPayment`. -/
def refundPayment (buildingId paymentId : ℕ) (dto : RefundPaymentDto) (actorPersonId : ℕ) :
    Prepare CreateRefundParams := do
  let payment ← getOwnPayment buildingId paymentId
  let refunds ← Script.query fun s => s.refunds
  let alreadyRefunded := refunds.rows.any fun r => r.paymentId = paymentId
  let refundAmount := dto.amount.getD payment.amount
  Script.ofExcept (PaymentPolicy.assertRefundable payment.status refundAmount payment.amount
    alreadyRefunded)
  pure
    { paymentId, unitId := payment.unitId, buildingId, fundId := payment.fundId,
      amount := refundAmount, paymentAmount := payment.amount, reason := dto.reason,
      createdById := actorPersonId }

/-! ### Expenses -/

/-- `CreateExpenseDto`. -/
structure CreateExpenseDto where
  title : String
  description : Option String := none
  category : ExpenseCategory
  amount : ℤ
  fundId : Option ℕ := none
  occurredAt : Option Time := none
  idempotencyKey : Option String := none
  amount_pos : 0 < amount := by decide

/-- `createExpense`. -/
def createExpense (buildingId : ℕ) (dto : CreateExpenseDto) (actorPersonId : ℕ) (now : Time) :
    Prepare CreateExpenseParams := do
  let _ ← getBuilding buildingId
  Script.ofExcept (ExpensePolicy.assertValidAmount dto.amount)
  let fund ← resolveFundForWrite buildingId dto.fundId
  Script.ofExcept (ExpensePolicy.assertSufficientFundBalance fund.balance dto.amount)
  pure
    { buildingId, fundId := fund.id, title := dto.title, description := dto.description,
      category := dto.category, amount := dto.amount, occurredAt := dto.occurredAt.getD now,
      createdById := actorPersonId, idempotencyKey := dto.idempotencyKey }

/-- `voidExpense`. -/
def voidExpense (buildingId expenseId : ℕ) (voidReason : String) (actorPersonId : ℕ) :
    Prepare VoidExpenseParams := do
  let expense ← getOwnExpense buildingId expenseId
  Script.ofExcept (ExpensePolicy.assertVoidable expense.status)
  pure
    { expenseId, buildingId, fundId := expense.fundId, amount := expense.amount, voidReason,
      actorId := actorPersonId }

end FinanceService

end VielHome.Finance
