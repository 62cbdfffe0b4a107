import VielHome.Finance.Repository.Payments

/-!
# Repository: approving, reversing and refunding payments

Approving a payment turns it into cash. A payment for selected obligations is applied to
exactly its selections; any other payment is applied to the unit's outstanding charge items
by due date, then to its positive adjustments by age, and what is left becomes credit. Both
ways end with the `PAYMENT` entry and the fund's balance.

Reversing takes the allocations of an approved payment back and posts a `REVERSAL` entry.
-/

namespace VielHome.Finance

open Relational

/-- `paymentAllocation.create`. -/
def Store.allocate (s : Store) (paymentId : ℕ) (target : ObligationTarget) (amount : ℤ) : Store :=
  { s with allocations := s.allocations.create fun id => { id, paymentId, target, amount } }

/-- A payment that is to be approved. -/
structure ApprovePaymentParams where
  paymentId : ℕ
  buildingId : ℕ
  unitId : ℕ
  fundId : ℕ
  amount : ℤ
  actorId : ℕ
  deriving DecidableEq

/-- The update of the payment row on approval. -/
def ApprovePaymentParams.approve (params : ApprovePaymentParams) (now : Time) (p : Payment) :
    Payment :=
  { p with status := .approved, approvedById := some params.actorId, approvedAt := some now }

theorem ApprovePaymentParams.approve_id (params : ApprovePaymentParams) (now : Time)
    (p : Payment) : (params.approve now p).id = p.id := rfl

/-- The last statements of both branches: the `PAYMENT` entry and the fund's balance. -/
def postPayment (params : ApprovePaymentParams) (now : Time) : Tx Store Failure PUnit := do
  Tx.write fun s => s.postEntry fun id =>
    { id, buildingId := params.buildingId, fundId := params.fundId, entryType := .payment,
      direction := .credit, amount := params.amount, referenceType := .payment,
      referenceId := params.paymentId, createdAt := now }
  if affectsFundBalance .payment then updateFundBalance params.fundId params.amount

/-- The loop body of the explicit branch: apply one selection to its obligation. -/
def applySelection (params : ApprovePaymentParams) (selection : PaymentDebtSelection) :
    Tx Store Failure PUnit :=
  match selection.target with
  | .chargeItem id => do
    let item ← Tx.query fun s => s.chargeItems.find? id
    let item ← Tx.expect item .recordNotFound
    let isBilled ← Tx.query fun s => s.isBilled item
    Tx.require (item.outstanding = selection.selectedAmount ∧ item.unitId = params.unitId ∧
      isBilled) (.conflict "Selected ChargeItem changed before approval.")
    Tx.write fun s => s.allocate params.paymentId (.chargeItem item.id) selection.selectedAmount
    Tx.write fun s => s.setItemPaid item (item.paidAmount + selection.selectedAmount)
  | .adjustment id => do
    let adjustment ← Tx.query fun s => s.adjustments.find? id
    let adjustment ← Tx.expect adjustment .recordNotFound
    Tx.require (adjustment.outstanding = selection.selectedAmount ∧
      adjustment.unitId = params.unitId) (.conflict "Selected Adjustment changed before approval.")
    Tx.write fun s =>
      s.allocate params.paymentId (.adjustment adjustment.id) selection.selectedAmount
    Tx.write fun s =>
      s.setAdjustmentPaid adjustment (adjustment.paidAmount + selection.selectedAmount)

/-- The `EXPLICIT_SELECTION` branch of `approvePayment`. -/
def approveExplicitSelection (params : ApprovePaymentParams) (now : Time) (current : Payment) :
    Tx Store Failure PUnit := do
  let debtSelections ← Tx.query fun s => s.selectionsOf params.paymentId
  Tx.require (¬(debtSelections = [] ∨ ∃ d ∈ debtSelections, d.reservationState ≠ .active))
    (.conflict "Explicit payment reservations are no longer active.")
  let selectedTotal := (debtSelections.map fun d => d.selectedAmount).sum
  Tx.require (selectedTotal = current.amount ∧ current.amount = params.amount)
    (.businessRuleViolation "Explicit selection total must equal Payment.amount.")
  forM debtSelections (applySelection params)
  Tx.write fun s =>
    { s with
      debtSelections := s.debtSelections.updateMany
        (fun d => d.paymentId = params.paymentId ∧ d.reservationState = .active)
        fun d => { d with reservationState := .applied } }
  Tx.write fun s =>
    { s with payments := s.payments.modify params.paymentId (params.approve now) }
  postPayment params now

/-- The `LEGACY_AUTOMATIC` branch of `approvePayment`. -/
def approveAutomatic (params : ApprovePaymentParams) (now : Time) : Tx Store Failure PUnit := do
  Tx.write fun s =>
    { s with payments := s.payments.modify params.paymentId (params.approve now) }
  let outstandingItems ← Tx.query fun s => s.outstandingItemsByDueDate params.unitId
  let remaining ← oldestFirst ChargeItem.outstanding
    (fun item applied => do
      Tx.write fun s => s.allocate params.paymentId (.chargeItem item.id) applied
      Tx.write fun s => s.setItemPaid item (item.paidAmount + applied))
    outstandingItems params.amount
  let outstandingAdjustments ← Tx.query fun s => s.positiveAdjustmentsByAge params.unitId
  let remaining ← oldestFirst Adjustment.outstanding
    (fun adjustment applied => do
      Tx.write fun s => s.allocate params.paymentId (.adjustment adjustment.id) applied
      Tx.write fun s => s.setAdjustmentPaid adjustment (adjustment.paidAmount + applied))
    outstandingAdjustments remaining
  if 0 < remaining then
    Tx.write fun s => s.upsertCredit params.unitId params.buildingId remaining
  postPayment params now

/-- `approvePayment`. -/
def approvePayment (params : ApprovePaymentParams) (now : Time) : Tx Store Failure Payment := do
  let current ← Tx.query fun s => s.payments.find? params.paymentId
  let current ← Tx.expect (current.filter fun p => p.status = .pendingApproval)
    (.businessRuleViolation "Only a pending payment can be approved.")
  match current.selectionMode with
  | .explicitSelection => approveExplicitSelection params now current
  | .legacyAutomatic => approveAutomatic params now
  pure (params.approve now current)

/-! ### Reversal -/

/-- A payment that is to be undone. -/
structure ReversePaymentParams where
  paymentId : ℕ
  buildingId : ℕ
  fundId : ℕ
  amount : ℤ
  deriving DecidableEq

namespace Store

/-- The allocations of a payment. -/
def allocationsOf (s : Store) (paymentId : ℕ) : List PaymentAllocation :=
  s.allocations.rows.filter fun a => a.paymentId = paymentId

/-- `paymentAllocation.aggregate`: what a payment's allocations add up to. -/
def allocatedTotal (s : Store) (paymentId : ℕ) : ℤ :=
  ((s.allocationsOf paymentId).map fun a => a.amount).sum

end Store

/-- The loop body of `reversePayment`: take one allocation back, at least down to zero. -/
def rollBackAllocation (alloc : PaymentAllocation) : Tx Store Failure PUnit :=
  match alloc.target with
  | .chargeItem id => do
    let item ← Tx.query fun s => s.chargeItems.find? id
    match item with
    | some item => Tx.write fun s => s.setItemPaid item (max 0 (item.paidAmount - alloc.amount))
    | none => pure ⟨⟩
  | .adjustment id => do
    let adjustment ← Tx.query fun s => s.adjustments.find? id
    match adjustment with
    | some adjustment =>
      Tx.write fun s =>
        s.setAdjustmentPaid adjustment (max 0 (adjustment.paidAmount - alloc.amount))
    | none => pure ⟨⟩

/-- `reversePayment`. -/
def reversePayment (params : ReversePaymentParams) (now : Time) : Tx Store Failure Payment := do
  let candidate ← Tx.query fun s => s.payments.find? params.paymentId
  let current ← Tx.expect candidate (.businessRuleViolation "Payment not found.")
  Tx.require (current.status = .approved)
    (.businessRuleViolation "Only an approved payment can be reversed.")
  let allocatedTotal ← Tx.query fun s => s.allocatedTotal current.id
  Tx.require (¬ current.amount < allocatedTotal)
    (.businessRuleViolation "Payment allocation history exceeds the payment amount.")
  Tx.require (¬ 0 < current.amount - allocatedTotal)
    (.businessRuleViolation "Payments that generated unit credit cannot be reversed in MVP.")
  Tx.write fun s =>
    { s with
      payments := s.payments.modify params.paymentId fun p =>
        { p with status := .reversed, reversedAt := some now } }
  let allocations ← Tx.query fun s => s.allocationsOf params.paymentId
  forM allocations rollBackAllocation
  Tx.write fun s => s.postEntry fun id =>
    { id, buildingId := params.buildingId, fundId := params.fundId, entryType := .reversal,
      direction := .debit, amount := params.amount, referenceType := .payment,
      referenceId := params.paymentId, createdAt := now }
  updateFundBalance params.fundId (-params.amount)
  pure { current with status := .reversed, reversedAt := some now }

/-! ### Refund -/

/-- What a refund is made from. -/
structure CreateRefundParams where
  paymentId : ℕ
  unitId : ℕ
  buildingId : ℕ
  fundId : ℕ
  amount : ℤ
  paymentAmount : ℤ
  reason : String
  createdById : ℕ
  deriving DecidableEq

/-- `createRefund`. -/
def createRefund (params : CreateRefundParams) (now : Time) : Tx Store Failure Refund := do
  let current ← Tx.query fun s => s.payments.find? params.paymentId
  let current ← Tx.expect (current.filter fun p => p.status = .approved)
    (.businessRuleViolation "Only an approved payment can be refunded.")
  let allocatedTotal ← Tx.query fun s => s.allocatedTotal current.id
  Tx.require (¬ current.amount < allocatedTotal)
    (.businessRuleViolation "Payment allocation history exceeds the payment amount.")
  Tx.require (¬ 0 < current.amount - allocatedTotal)
    (.businessRuleViolation "Payments that generated unit credit cannot be refunded in MVP.")
  Tx.require (¬ 0 < allocatedTotal)
    (.businessRuleViolation "Payments allocated to obligations cannot be refunded in MVP.")
  let existingRefunds ← Tx.query fun s =>
    s.refunds.rows.filter fun r => r.paymentId = params.paymentId
  Tx.require (existingRefunds = [])
    (.businessRuleViolation "This payment has already been refunded.")
  let refunds ← Tx.query fun s => s.refunds
  let refund : Refund :=
    { id := refunds.next, paymentId := params.paymentId, unitId := params.unitId,
      buildingId := params.buildingId, amount := params.amount, reason := params.reason,
      createdById := params.createdById, createdAt := now }
  Tx.write fun s => { s with refunds := s.refunds.create fun id => { refund with id } }
  if params.paymentAmount ≤ params.amount then
    Tx.write fun s =>
      { s with
        payments := s.payments.modify params.paymentId fun p => { p with status := .refunded } }
  Tx.write fun s => s.postEntry fun id =>
    { id, buildingId := params.buildingId, fundId := params.fundId, entryType := .refund,
      direction := .debit, amount := params.amount, referenceType := .refund,
      referenceId := refund.id, createdAt := now }
  updateFundBalance params.fundId (-params.amount)
  pure refund

end VielHome.Finance
