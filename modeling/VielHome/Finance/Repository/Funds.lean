import VielHome.Common.AppError
import VielHome.Relational.Transaction
import VielHome.Finance.DebtSnapshot

/-!
# Repository: funds, ledger and charge series

The writes that the other repository modules share (posting a ledger entry, moving a
fund's balance, writing the paid amount of an obligation), and the operations on funds and
charge series.
-/

namespace VielHome.Finance

open Relational

/-- The columns a write of a charge item's paid amount sets, from a row that was read. -/
def ChargeItem.setPaid (item : ChargeItem) (newPaidAmount : ℤ) (r : ChargeItem) : ChargeItem :=
  { r with
    paidAmount := newPaidAmount
    status := computeItemStatus newPaidAmount item.amount }

/-- The column a write of an adjustment's paid amount sets. -/
def Adjustment.setPaid (newPaidAmount : ℤ) (r : Adjustment) : Adjustment :=
  { r with paidAmount := newPaidAmount }

namespace Store

/-- `ledgerEntry.create`. -/
def postEntry (s : Store) (entry : ℕ → LedgerEntry)
    (h : ∀ id, (entry id).id = id := by
      intro n; first | with_reducible exact (rfl : n = n) | exact id rfl) : Store :=
  { s with ledger := s.ledger.create entry h }

/-- `fund.update({ data: { balance: { increment } } })`; a decrement is a negative increment. -/
def moveBalance (s : Store) (fundId : ℕ) (increment : ℤ) : Store :=
  { s with funds := s.funds.modify fundId fun f => { f with balance := f.balance + increment } }

/-- `chargeItem.update` of the paid amount and the status, from a row that was read. -/
def setItemPaid (s : Store) (item : ChargeItem) (newPaidAmount : ℤ) : Store :=
  { s with chargeItems := s.chargeItems.modify item.id (item.setPaid newPaidAmount) }

/-- `adjustment.update` of the paid amount. -/
def setAdjustmentPaid (s : Store) (adjustment : Adjustment) (newPaidAmount : ℤ) : Store :=
  { s with
    adjustments := s.adjustments.modify adjustment.id (Adjustment.setPaid newPaidAmount) }

/-- `creditBalance.upsert`: add to the unit's credit, creating the row if there is none. -/
def upsertCredit (s : Store) (unitId buildingId : ℕ) (amount : ℤ) : Store :=
  { s with
    creditBalances :=
      match s.creditBalanceOf unitId with
      | some _ =>
        s.creditBalances.updateMany (fun c => c.unitId = unitId) fun c =>
          { c with balance := c.balance + amount }
      | none =>
        s.creditBalances.create fun id => { id, unitId, buildingId, balance := amount } }

end Store

/-- Increment a fund's balance; the update fails when there is no such fund. -/
def updateFundBalance (fundId : ℕ) (increment : ℤ) : Tx Store Failure PUnit := do
  let fund ← Tx.query fun s => s.funds.find? fundId
  let _ ← Tx.expect fund .recordNotFound
  Tx.write fun s => s.moveBalance fundId increment

/-! ### Funds -/

/-- What a fund is made from. -/
structure CreateFundParams where
  buildingId : ℕ
  name : String
  type : FundType := .current
  isDefault : Bool := false
  initialBalance : Option ℤ := none
  deriving DecidableEq

/-- `createFund`: a positive initial balance is posted as an opening-balance entry. -/
def createFund (params : CreateFundParams) (now : Time) : Tx Store Failure Fund := do
  let funds ← Tx.query fun s => s.funds
  Tx.require (∀ f ∈ funds.rows, ¬(f.buildingId = params.buildingId ∧ f.name = params.name))
    .uniqueConstraint
  let fund : Fund :=
    { id := funds.next, buildingId := params.buildingId, name := params.name, type := params.type,
      isDefault := params.isDefault }
  Tx.write fun s => { s with funds := s.funds.create fun id => { fund with id } }
  let initialBalance := params.initialBalance.getD 0
  if 0 < initialBalance then
    Tx.write fun s => s.postEntry fun id =>
      { id, buildingId := params.buildingId, fundId := fund.id, entryType := .openingBalance,
        direction := .credit, amount := initialBalance, referenceType := .fund,
        referenceId := fund.id, createdAt := now }
    Tx.write fun s => s.moveBalance fund.id initialBalance
    pure { fund with balance := fund.balance + initialBalance }
  else pure fund

/-- What is to be changed of a fund. -/
structure UpdateFundParams where
  name : Option String := none
  type : Option FundType := none
  deriving DecidableEq

/-- `updateFund`. -/
def updateFund (fundId : ℕ) (params : UpdateFundParams) : Tx Store Failure PUnit := do
  let fund ← Tx.query fun s => s.funds.find? fundId
  let fund ← Tx.expect fund .recordNotFound
  let name := params.name.getD fund.name
  let funds ← Tx.query fun s => s.funds
  Tx.require (∀ f ∈ funds.rows, f.id ≠ fundId → ¬(f.buildingId = fund.buildingId ∧ f.name = name))
    .uniqueConstraint
  Tx.write fun s =>
    { s with
      funds := s.funds.modify fundId fun f => { f with name, type := params.type.getD f.type } }

/-- `setFundActive`. -/
def setFundActive (fundId : ℕ) (isActive : Bool) : Tx Store Failure PUnit := do
  let fund ← Tx.query fun s => s.funds.find? fundId
  let _ ← Tx.expect fund .recordNotFound
  Tx.write fun s => { s with funds := s.funds.modify fundId fun f => { f with isActive } }

namespace Store

/-- `findDefaultFund`. -/
def findDefaultFund (s : Store) (buildingId : ℕ) : Option Fund :=
  s.funds.rows.find? fun f => f.buildingId = buildingId ∧ f.isDefault

/-- `listActiveChargeOptionFunds`; the order of the options is not modelled. -/
def listActiveChargeOptionFunds (s : Store) (buildingId : ℕ) : List Fund :=
  s.funds.rows.filter fun f => f.buildingId = buildingId ∧ f.isActive

end Store

/-- `getOrCreateDefaultFund`. -/
def getOrCreateDefaultFund (buildingId : ℕ) : Tx Store Failure Fund := do
  let existing ← Tx.query fun s => s.findDefaultFund buildingId
  match existing with
  | some fund => pure fund
  | none =>
    let funds ← Tx.query fun s => s.funds
    Tx.require (∀ f ∈ funds.rows, ¬(f.buildingId = buildingId ∧ f.name = "صندوق جاری"))
      .uniqueConstraint
    let fund : Fund :=
      { id := funds.next, buildingId, name := "صندوق جاری", type := .current, isDefault := true }
    Tx.write fun s => { s with funds := s.funds.create fun id => { fund with id } }
    pure fund

/-! ### Charge series -/

/-- `createChargeSeries`. -/
def createChargeSeries (buildingId : ℕ) (name : String) : Tx Store Failure ChargeSeries := do
  let series ← Tx.query fun s => s.chargeSeries
  Tx.require (∀ r ∈ series.rows, ¬(r.buildingId = buildingId ∧ r.name = name)) .uniqueConstraint
  let row : ChargeSeries := { id := series.next, buildingId, name }
  Tx.write fun s => { s with chargeSeries := s.chargeSeries.create fun id => { row with id } }
  pure row

end VielHome.Finance
