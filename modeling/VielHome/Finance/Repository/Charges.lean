import VielHome.Finance.Repository.Funds

/-!
# Repository: charge batches

A batch is created as a draft together with its items, issued, and cancelled. Issuing turns
the items into debt and applies each unit's existing credit to them; cancelling takes the
items out of the debt again.

The payer snapshot that `issueChargeBatch` also writes is attributed to people only and is
not modelled.
-/

namespace VielHome.Finance

open Relational

/-- The status as the error messages spell it. -/
def ChargeBatchStatus.toString : ChargeBatchStatus → String
  | draft => "DRAFT"
  | issued => "ISSUED"
  | closed => "CLOSED"
  | cancelled => "CANCELLED"

/-- One entry of `createChargeBatch`'s `items`. -/
structure ChargeItemInput where
  unitId : ℕ
  amount : ℤ
  deriving DecidableEq

/-- What a charge is made from. -/
structure CreateChargeBatchParams where
  buildingId : ℕ
  fundId : ℕ
  title : String
  description : Option String := none
  calculationMethod : ChargeCalculationMethod
  kind : Option ChargeKind := none
  expectedFundType : Option FundType := none
  seriesId : Option ℕ := none
  periodStart : Option Time := none
  dueDate : Option Time := none
  createdById : ℕ
  items : List ChargeItemInput
  unitScope : Option ChargeUnitScope := none
  payerType : Option ChargePayerType := none
  lateFeeType : Option LateFeeType := none
  lateFeeValue : Option ℤ := none
  lateFeeGraceDays : Option ℤ := none
  deriving DecidableEq

namespace Store

/-- The items of a batch. -/
def itemsOfBatch (s : Store) (chargeBatchId : ℕ) : List ChargeItem :=
  s.chargeItems.rows.filter fun i => i.chargeBatchId = chargeBatchId

/-- The row `createChargeBatch` finds and locks before it writes a classified batch. -/
def isCompatibleFund (s : Store) (fundId buildingId : ℕ) (type : FundType) : Bool :=
  (s.funds.find? fundId).any fun f => f.buildingId = buildingId ∧ f.isActive ∧ f.type = type

/-- The partial unique index on `(seriesId, periodStart)` of the monthly batches. -/
def hasMonthlyPeriod (s : Store) (seriesId : Option ℕ) (periodStart : Option Time) : Bool :=
  s.chargeBatches.rows.any fun b =>
    b.kind = some .monthly ∧ b.seriesId = seriesId ∧ b.periodStart = periodStart

/-- `chargeBatch.updateMany` of the status. -/
def setBatchStatus (s : Store) (chargeBatchId : ℕ) (status : ChargeBatchStatus) : Store :=
  { s with chargeBatches := s.chargeBatches.modify chargeBatchId fun b => { b with status } }

end Store

/-- `createChargeBatch`: the batch and its items, `totalAmount` the sum of the items. -/
def createChargeBatch (params : CreateChargeBatchParams) (now : Time) :
    Tx Store Failure ChargeBatch := do
  let totalAmount := (params.items.map fun i => i.amount).sum
  match params.kind, params.expectedFundType with
  | some _, some expectedFundType => do
    let compatible ← Tx.query fun s =>
      s.isCompatibleFund params.fundId params.buildingId expectedFundType
    Tx.require compatible (.conflict
      "The selected fund changed after it was validated. Refresh charge options and try again."
      [("reason", "STALE_CHARGE_FUND_SELECTION")])
  | _, _ => pure ⟨⟩
  let taken ← Tx.query fun s => s.hasMonthlyPeriod params.seriesId params.periodStart
  Tx.require (¬(params.kind = some .monthly ∧ taken)) .uniqueConstraint
  let batches ← Tx.query fun s => s.chargeBatches
  let batch : ChargeBatch :=
    { id := batches.next, buildingId := params.buildingId, fundId := params.fundId,
      title := params.title, description := params.description,
      calculationMethod := params.calculationMethod, totalAmount, status := .draft,
      kind := params.kind, seriesId := params.seriesId, periodStart := params.periodStart,
      dueDate := params.dueDate, unitScope := params.unitScope, payerType := params.payerType,
      lateFeeType := params.lateFeeType, lateFeeValue := params.lateFeeValue,
      lateFeeGraceDays := params.lateFeeGraceDays, createdById := params.createdById,
      createdAt := now }
  Tx.write fun s => { s with chargeBatches := s.chargeBatches.create fun id => { batch with id } }
  let units ← Tx.query fun s => s.units
  Tx.require (∀ i ∈ params.items, (units.find? i.unitId).isSome) .foreignKey
  Tx.write fun s =>
    { s with
      chargeItems := s.chargeItems.createMany params.items fun i id =>
        { id, chargeBatchId := batch.id, unitId := i.unitId, amount := i.amount, createdAt := now } }
  pure batch

/-- A charge that is to be cancelled. -/
structure CancelChargeBatchParams where
  chargeBatchId : ℕ
  buildingId : ℕ
  deriving DecidableEq

/-- `cancelChargeBatch`. The compare-and-set on the status reads the row it has just read,
so it always claims it. -/
def cancelChargeBatch (params : CancelChargeBatchParams) : Tx Store Failure ChargeBatch := do
  let current ← Tx.query fun s => s.chargeBatches.find? params.chargeBatchId
  let current ← Tx.expect (current.filter fun b => b.buildingId = params.buildingId)
    (.businessRuleViolation "Charge batch not found.")
  Tx.require (¬(current.status = .closed ∨ current.status = .cancelled)) (.businessRuleViolation
    ("A " ++ current.status.toString ++ " charge batch cannot be cancelled again."))
  let chargeItems ← Tx.query fun s => s.itemsOfBatch params.chargeBatchId
  Tx.require (∀ item ∈ chargeItems, ¬ 0 < item.paidAmount) (.businessRuleViolation
    "This charge batch has payments already applied to it and cannot be cancelled.")
  Tx.write fun s => s.setBatchStatus params.chargeBatchId .cancelled
  pure { current with status := .cancelled }

/-- A charge that is to be issued. -/
structure IssueChargeBatchParams where
  chargeBatchId : ℕ
  buildingId : ℕ
  deriving DecidableEq

/-- The loop body of `issueChargeBatch`: apply the unit's credit to one item. The guarded
decrement of the credit reads the balance it has just read, so it always claims the row. -/
def applyCreditToItem (buildingId fundId : ℕ) (now : Time) (item : ChargeItem) :
    Tx Store Failure PUnit := do
  let credit ← Tx.query fun s => s.creditBalanceOf item.unitId
  match credit with
  | none => pure ⟨⟩
  | some credit =>
    if credit.balance ≤ 0 then pure ⟨⟩
    else
      let outstanding := item.amount - item.paidAmount
      if outstanding ≤ 0 then pure ⟨⟩
      else
        let applied := min credit.balance outstanding
        let newPaidAmount := item.paidAmount + applied
        Tx.write fun s => s.setItemPaid item newPaidAmount
        Tx.write fun s =>
          { s with
            creditBalances := s.creditBalances.updateMany
              (fun c => c.unitId = item.unitId ∧ applied ≤ c.balance)
              fun c => { c with balance := c.balance - applied } }
        Tx.write fun s => s.postEntry fun id =>
          { id, buildingId, fundId, entryType := .creditApplied, direction := .credit,
            amount := applied, referenceType := .chargeItem, referenceId := item.id,
            createdAt := now }

/-- `issueChargeBatch`. -/
def issueChargeBatch (params : IssueChargeBatchParams) (now : Time) :
    Tx Store Failure ChargeBatch := do
  let current ← Tx.query fun s => s.chargeBatches.find? params.chargeBatchId
  let current ← Tx.expect (current.filter fun b => b.buildingId = params.buildingId)
    (.businessRuleViolation "Charge batch not found.")
  Tx.require (current.status = .draft)
    (.businessRuleViolation "Only a DRAFT charge batch can be issued.")
  let items ← Tx.query fun s => s.itemsOfBatch params.chargeBatchId
  Tx.require (¬(current.totalAmount ≤ 0 ∨ items = []))
    (.businessRuleViolation "A charge batch with no charge items cannot be issued.")
  Tx.write fun s => s.setBatchStatus params.chargeBatchId .issued
  forM items (applyCreditToItem params.buildingId current.fundId now)
  Tx.write fun s => s.postEntry fun id =>
    { id, buildingId := params.buildingId, fundId := current.fundId, entryType := .charge,
      direction := .debit, amount := current.totalAmount, referenceType := .chargeBatch,
      referenceId := params.chargeBatchId, createdAt := now }
  pure { current with status := .issued }

end VielHome.Finance
