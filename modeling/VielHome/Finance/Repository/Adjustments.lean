import VielHome.Finance.Repository.Approval

/-!
# Repository: adjustments and expenses

A positive adjustment adds debt to a unit, a negative one waives outstanding charge items,
oldest first; what exceeds them is dropped. An opening-balance correction books the
difference between the requested and the current opening balance of the unit: a downward
one pays the unit's earlier corrections, oldest first, and banks the rest as credit.

An expense takes cash out of a fund, and voiding it puts the cash back.
-/

namespace VielHome.Finance

open Relational

/-- What an adjustment is made from. -/
structure CreateAdjustmentParams where
  unitId : ℕ
  buildingId : ℕ
  fundId : ℕ
  amount : ℤ
  reason : String
  createdById : ℕ
  sourceType : Option AdjustmentSourceType := none
  sourceId : Option ℕ := none
  deriving DecidableEq

namespace Store

/-- The unique index on `(sourceType, sourceId)`, in which nulls never collide. -/
def hasAdjustmentSource (s : Store) (sourceType : Option AdjustmentSourceType)
    (sourceId : Option ℕ) : Bool :=
  s.adjustments.rows.any fun a =>
    sourceType.isSome ∧ sourceId.isSome ∧ a.sourceType = sourceType ∧ a.sourceId = sourceId

/-- A late fee's source item is a billed item of the unit. -/
def isLateFeeSource (s : Store) (unitId chargeItemId : ℕ) : Bool :=
  (s.chargeItems.find? chargeItemId).any fun i => i.unitId = unitId ∧ s.isBilled i

end Store

/-- The `ADJUSTMENT` entry of an adjustment. -/
def postAdjustment (adjustment : Adjustment) (now : Time) : Tx Store Failure PUnit :=
  Tx.write fun s => s.postEntry fun id =>
    { id, buildingId := adjustment.buildingId, fundId := adjustment.fundId,
      entryType := .adjustment, direction := if adjustment.amount < 0 then .credit else .debit,
      amount := |adjustment.amount|, referenceType := .adjustment, referenceId := adjustment.id,
      createdAt := now }

/-- The statements of `createAdjustment` after the check of a late fee's source. -/
def insertAdjustment (params : CreateAdjustmentParams) (now : Time) :
    Tx Store Failure Adjustment := do
  let taken ← Tx.query fun s => s.hasAdjustmentSource params.sourceType params.sourceId
  Tx.require (¬ taken) .uniqueConstraint
  let adjustments ← Tx.query fun s => s.adjustments
  let adjustment : Adjustment :=
    { id := adjustments.next, unitId := params.unitId, buildingId := params.buildingId,
      fundId := params.fundId, amount := params.amount, reason := params.reason,
      createdById := params.createdById, sourceType := params.sourceType,
      sourceId := params.sourceId, createdAt := now }
  Tx.write fun s =>
    { s with adjustments := s.adjustments.create fun id => { adjustment with id } }
  if params.amount < 0 then
    let outstandingItems ← Tx.query fun s => s.outstandingItemsByDueDate params.unitId
    -- what exceeds the outstanding items is not applied any further
    let _ ← oldestFirst ChargeItem.outstanding
      (fun item applied => Tx.write fun s => s.setItemPaid item (item.paidAmount + applied))
      outstandingItems |params.amount|
  postAdjustment adjustment now
  pure adjustment

/-- `createAdjustment`. -/
def createAdjustment (params : CreateAdjustmentParams) (now : Time) :
    Tx Store Failure Adjustment := do
  match params.sourceType, params.sourceId with
  | some .lateFee, some sourceId => do
    let isSource ← Tx.query fun s => s.isLateFeeSource params.unitId sourceId
    Tx.require isSource (.businessRuleViolation
      "A late fee can only be applied to an active issued obligation.")
  | _, _ => pure ⟨⟩
  insertAdjustment params now

/-- What a unit is to owe. -/
structure ApplyOpeningBalanceCorrectionParams where
  unitId : ℕ
  buildingId : ℕ
  fundId : ℕ
  targetBalance : ℤ
  reason : String
  createdById : ℕ
  deriving DecidableEq

/-- What `applyOpeningBalanceCorrection` returns. -/
structure OpeningBalanceCorrection where
  adjustment : Adjustment
  previousBalance : ℤ
  newBalance : ℤ
  delta : ℤ
  deriving DecidableEq

namespace Store

/-- The unit's opening-balance corrections. -/
def openingBalanceCorrections (s : Store) (unitId : ℕ) : List Adjustment :=
  s.adjustments.rows.filter fun a =>
    a.unitId = unitId ∧ a.sourceType = some .openingBalanceCorrection

/-- `getUnitOpeningBalanceCorrectionTotal`: the unit's effective opening balance. -/
def openingBalanceCorrectionTotal (s : Store) (unitId : ℕ) : ℤ :=
  ((s.openingBalanceCorrections unitId).map fun a => a.amount).sum

/-- The unit's upward corrections other than the one just created, oldest first. -/
def priorCorrections (s : Store) (unitId adjustmentId : ℕ) : List Adjustment :=
  ((s.openingBalanceCorrections unitId).filter fun a =>
    0 < a.amount ∧ a.id ≠ adjustmentId).insertionSort fun a b => a.createdAt ≤ b.createdAt

end Store

/-- `applyOpeningBalanceCorrection`. -/
def applyOpeningBalanceCorrection (params : ApplyOpeningBalanceCorrectionParams) (now : Time) :
    Tx Store Failure OpeningBalanceCorrection := do
  let previousBalance ← Tx.query fun s => s.openingBalanceCorrectionTotal params.unitId
  let delta := params.targetBalance - previousBalance
  Tx.require (delta ≠ 0) (.businessRuleViolation
    "The requested opening balance matches the unit's current effective opening balance; no correction is needed.")
  let adjustments ← Tx.query fun s => s.adjustments
  let adjustment : Adjustment :=
    { id := adjustments.next, unitId := params.unitId, buildingId := params.buildingId,
      fundId := params.fundId, amount := delta, reason := params.reason,
      createdById := params.createdById, sourceType := some .openingBalanceCorrection,
      createdAt := now }
  Tx.write fun s =>
    { s with adjustments := s.adjustments.create fun id => { adjustment with id } }
  if delta < 0 then
    let prior ← Tx.query fun s => s.priorCorrections params.unitId adjustment.id
    let remaining ← oldestFirst Adjustment.outstanding
      (fun row applied => Tx.write fun s => s.setAdjustmentPaid row (row.paidAmount + applied))
      prior |delta|
    if 0 < remaining then
      Tx.write fun s => s.upsertCredit params.unitId params.buildingId remaining
  postAdjustment adjustment now
  pure { adjustment, previousBalance, newBalance := params.targetBalance, delta }

/-! ### Expenses -/

/-- What an expense is made from. -/
structure CreateExpenseParams where
  buildingId : ℕ
  fundId : ℕ
  title : String
  description : Option String := none
  category : ExpenseCategory
  amount : ℤ
  occurredAt : Time
  createdById : ℕ
  idempotencyKey : Option String := none
  deriving DecidableEq

/-- `createExpense`. -/
def createExpense (params : CreateExpenseParams) (now : Time) : Tx Store Failure Expense := do
  let fund ← Tx.query fun s => s.funds.find? params.fundId
  let fund ← Tx.expect fund .recordNotFound
  Tx.require (¬ fund.balance < params.amount)
    (.businessRuleViolation "This expense's amount exceeds the fund's current balance.")
  let expenses ← Tx.query fun s => s.expenses
  Tx.require (∀ e ∈ expenses.rows, ¬(params.idempotencyKey.isSome ∧
    e.idempotencyKey = params.idempotencyKey)) .uniqueConstraint
  let expense : Expense :=
    { id := expenses.next, buildingId := params.buildingId, fundId := params.fundId,
      title := params.title, description := params.description, category := params.category,
      amount := params.amount, occurredAt := params.occurredAt,
      createdById := params.createdById, idempotencyKey := params.idempotencyKey,
      createdAt := now }
  Tx.write fun s => { s with expenses := s.expenses.create fun id => { expense with id } }
  Tx.write fun s => s.postEntry fun id =>
    { id, buildingId := params.buildingId, fundId := params.fundId, entryType := .expense,
      direction := .debit, amount := params.amount, referenceType := .expense,
      referenceId := expense.id, createdAt := now }
  updateFundBalance params.fundId (-params.amount)
  pure expense

/-- An expense that is to be undone. -/
structure VoidExpenseParams where
  expenseId : ℕ
  buildingId : ℕ
  fundId : ℕ
  amount : ℤ
  voidReason : String
  actorId : ℕ
  deriving DecidableEq

/-- `voidExpense`. -/
def voidExpense (params : VoidExpenseParams) (now : Time) : Tx Store Failure Expense := do
  let claimed ← Tx.query fun s => s.expenses.find? params.expenseId
  let claimed ← Tx.expect (claimed.filter fun e => e.status = .posted) (.conflict
    "This expense is no longer POSTED (it may have already been voided). Reload and retry.")
  let void : Expense → Expense := fun e =>
    { e with
      status := .voided, voidedAt := some now, voidedById := some params.actorId,
      voidReason := some params.voidReason }
  Tx.write fun s => { s with expenses := s.expenses.modify params.expenseId void }
  Tx.write fun s => s.postEntry fun id =>
    { id, buildingId := params.buildingId, fundId := params.fundId, entryType := .expense,
      direction := .credit, amount := params.amount, referenceType := .expense,
      referenceId := params.expenseId, createdAt := now }
  updateFundBalance params.fundId params.amount
  pure (void claimed)

end VielHome.Finance
