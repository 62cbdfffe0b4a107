import VielHome.Relational.OrderBy
import VielHome.Relational.Waterfall
import VielHome.Finance.Schema

/-!
# Obligations and what a unit owes

The reads that every operation on a unit's debt shares: which charge items are billed
(their batch is issued or closed), which are outstanding, the positive adjustments, the
credit balance, and the debt snapshot built from them.

Money reaches an obligation through `ChargeItem.pay` and `Adjustment.pay`; `Store.pay`
addresses one by its target.
-/

namespace VielHome.Finance

open Relational

/-- Entry types whose ledger write moves `Fund.balance`. -/
def affectsFundBalance (entryType : LedgerEntryType) : Bool :=
  entryType = .payment ∨ entryType = .refund ∨ entryType = .reversal ∨ entryType = .expense

/-- `FUND_STATEMENT_ENTRY_TYPES`: the entry types a fund statement lists. -/
def fundStatementEntryTypes : List LedgerEntryType :=
  [.openingBalance, .payment, .expense, .refund, .reversal]

/-- The status of a charge item, recomputed with every write of `paidAmount`. -/
def computeItemStatus (paidAmount amount : ℤ) : ChargeItemStatus :=
  if paidAmount ≤ 0 then .unpaid
  else if amount ≤ paidAmount then .paid
  else .partiallyPaid

/-- `status: { in: ['ISSUED', 'CLOSED'] }`. -/
def ChargeBatchStatus.isBilled (status : ChargeBatchStatus) : Bool :=
  status = .issued ∨ status = .closed

namespace ChargeItem

/-- What is still to be paid. -/
def outstanding (item : ChargeItem) : ℤ := item.amount - item.paidAmount

/-- Add `a` to the paid amount and recompute the status. -/
def pay (a : ℤ) (item : ChargeItem) : ChargeItem :=
  { item with
    paidAmount := item.paidAmount + a
    status := computeItemStatus (item.paidAmount + a) item.amount }

end ChargeItem

namespace Adjustment

/-- What is still to be paid. -/
def outstanding (adjustment : Adjustment) : ℤ := adjustment.amount - adjustment.paidAmount

/-- Add `a` to the paid amount. -/
def pay (a : ℤ) (adjustment : Adjustment) : Adjustment :=
  { adjustment with paidAmount := adjustment.paidAmount + a }

end Adjustment

namespace ObligationTarget

/-- The charge item addressed, if it is one. -/
def chargeItemId? : ObligationTarget → Option ℕ
  | chargeItem id => some id
  | adjustment _ => none

/-- The adjustment addressed, if it is one. -/
def adjustmentId? : ObligationTarget → Option ℕ
  | chargeItem _ => none
  | adjustment id => some id

theorem isPartialInv_chargeItem : Function.IsPartialInv chargeItem chargeItemId? := by
  rintro k (id | id) <;> simp [chargeItemId?, eq_comm]

theorem isPartialInv_adjustment : Function.IsPartialInv adjustment adjustmentId? := by
  rintro k (id | id) <;> simp [adjustmentId?, eq_comm]

end ObligationTarget

/-- The figures `buildDebtSnapshot` returns. -/
structure DebtSnapshot where
  chargeItemDebt : ℤ
  adjustmentDebt : ℤ
  totalDebt : ℤ
  creditBalance : ℤ
  pendingPaymentAmount : ℤ
  remainingPayable : ℤ
  deriving DecidableEq

/-- `buildDebtSnapshot`, from the rows read for one unit. -/
def buildDebtSnapshot (outstandingItems : List ChargeItem) (positiveAdjustments : List Adjustment)
    (creditBalance : ℤ) (pendingPayments : List Payment) : DebtSnapshot :=
  let chargeItemDebt := (outstandingItems.map fun i => i.amount - i.paidAmount).sum
  let adjustmentDebt := (positiveAdjustments.map fun a => max 0 (a.amount - a.paidAmount)).sum
  let totalDebt := chargeItemDebt + adjustmentDebt
  let pendingPaymentAmount := (pendingPayments.map fun p => p.amount).sum
  { chargeItemDebt
    adjustmentDebt
    totalDebt
    creditBalance
    pendingPaymentAmount
    remainingPayable := max (totalDebt - creditBalance - pendingPaymentAmount) 0 }

namespace Store

/-- The batch a charge item belongs to. -/
def batchOf (s : Store) (item : ChargeItem) : Option ChargeBatch :=
  s.chargeBatches.find? item.chargeBatchId

/-- `chargeBatch: { status: { in: ['ISSUED', 'CLOSED'] } }`. -/
def isBilled (s : Store) (item : ChargeItem) : Bool :=
  (s.batchOf item).any fun b => b.status.isBilled

/-- The unit's charge items that are not `PAID`, in issued or closed batches. -/
def outstandingItems (s : Store) (unitId : ℕ) : List ChargeItem :=
  s.chargeItems.rows.filter fun i => i.unitId = unitId ∧ i.status ≠ .paid ∧ s.isBilled i

/-- The unit's debt-adding adjustments. -/
def positiveAdjustments (s : Store) (unitId : ℕ) : List Adjustment :=
  s.adjustments.rows.filter fun a => a.unitId = unitId ∧ 0 < a.amount

/-- `creditBalance.findUnique({ where: { unitId } })`. -/
def creditBalanceOf (s : Store) (unitId : ℕ) : Option CreditBalance :=
  s.creditBalances.rows.find? fun c => c.unitId = unitId

/-- The unit's payments that await approval. -/
def pendingPayments (s : Store) (unitId : ℕ) : List Payment :=
  s.payments.rows.filter fun p => p.unitId = unitId ∧ p.status = .pendingApproval

/-- The unit's debt, credit and pending payments as every reader sees them. -/
def computeDebtSnapshot (s : Store) (unitId : ℕ) : DebtSnapshot :=
  buildDebtSnapshot (s.outstandingItems unitId) (s.positiveAdjustments unitId)
    (((s.creditBalanceOf unitId).map fun c => c.balance).getD 0) (s.pendingPayments unitId)

/-- `orderBy: [{ chargeBatch: { dueDate: 'asc' } }, { createdAt: 'asc' }]`. -/
def byDueDate (s : Store) : ChargeItem → ChargeItem → Prop :=
  ThenBy (fun i j => NullsLast ((s.batchOf i).bind ChargeBatch.dueDate)
    ((s.batchOf j).bind ChargeBatch.dueDate)) fun i j => i.createdAt ≤ j.createdAt

instance (s : Store) : DecidableRel s.byDueDate :=
  inferInstanceAs (DecidableRel (ThenBy _ _))

/-- The unit's outstanding items in the order in which money is applied to them. -/
def outstandingItemsByDueDate (s : Store) (unitId : ℕ) : List ChargeItem :=
  (s.outstandingItems unitId).insertionSort s.byDueDate

/-- The unit's debt-adding adjustments, oldest first. -/
def positiveAdjustmentsByAge (s : Store) (unitId : ℕ) : List Adjustment :=
  (s.positiveAdjustments unitId).insertionSort fun a b => a.createdAt ≤ b.createdAt

/-- Pay `a` towards an obligation. -/
def pay (s : Store) (target : ObligationTarget) (a : ℤ) : Store :=
  { s with
    chargeItems := s.chargeItems.modifyAt target.chargeItemId? (ChargeItem.pay a)
    adjustments := s.adjustments.modifyAt target.adjustmentId? (Adjustment.pay a) }

end Store

end VielHome.Finance
