import VielHome.Relational.Table
import Mathlib.Data.Rat.Defs

/-!
# The finance tables

One structure for each model of the schema, with the columns that some operation reads or
writes, and the `Store` of all tables. Row ids are natural numbers handed out by the
tables; amounts are whole Rials and instants are milliseconds, both integers. A nullable
column is an `Option`.

The two nullable target columns of a selection and of an allocation, of which a check
constraint demands exactly one, are one `ObligationTarget`.
-/

namespace VielHome.Finance

open Relational

/-- An instant, in milliseconds. -/
abbrev Time := ℤ

/-! ### Enumerations -/

/-- What a unit is used for. -/
inductive UnitType
  | residential
  | commercial
  | parking
  | storage
  deriving DecidableEq

/-- What the money of a fund is for. -/
inductive FundType
  | current
  | reserve
  | emergency
  | renovation
  | insurance
  | custom
  deriving DecidableEq

/-- What a charge is for. -/
inductive ChargeKind
  | monthly
  | reserve
  | repair
  | emergency
  | insurance
  | special
  | other
  deriving DecidableEq

/-- How a charge is divided among the units. -/
inductive ChargeCalculationMethod
  | fixed
  | areaBased
  | mixed
  deriving DecidableEq

/-- Which units a charge is for. -/
inductive ChargeUnitScope
  | all
  | ofType (type : UnitType)
  | manual
  deriving DecidableEq

/-- Who pays a charge. -/
inductive ChargePayerType
  | owner
  | tenant
  | resident
  deriving DecidableEq

/-- How a late fee is computed. -/
inductive LateFeeType
  | fixed
  | percentage
  deriving DecidableEq

/-- How far a charge has come. -/
inductive ChargeBatchStatus
  | draft
  | issued
  | closed
  | cancelled
  deriving DecidableEq

/-- How much of an item is paid. -/
inductive ChargeItemStatus
  | unpaid
  | partiallyPaid
  | paid
  deriving DecidableEq

/-- How a payment was made. -/
inductive PaymentMethod
  | cash
  | bankTransfer
  deriving DecidableEq

/-- What has become of a payment. -/
inductive PaymentStatus
  | pendingApproval
  | approved
  | rejected
  | reversed
  | refunded
  deriving DecidableEq

/-- Who chooses what a payment is for. -/
inductive PaymentSelectionMode
  | legacyAutomatic
  | explicitSelection
  deriving DecidableEq

/-- What has become of a reservation. -/
inductive PaymentDebtReservationState
  | active
  | applied
  | released
  deriving DecidableEq

/-- What an entry of the ledger records. -/
inductive LedgerEntryType
  | charge
  | payment
  | adjustment
  | refund
  | creditApplied
  | reversal
  | openingBalance
  | expense
  deriving DecidableEq

/-- Which way the money goes. -/
inductive LedgerDirection
  | debit
  | credit
  deriving DecidableEq

/-- The values of `LedgerEntry.referenceType`. -/
inductive ReferenceType
  | fund
  | chargeItem
  | chargeBatch
  | payment
  | adjustment
  | refund
  | expense
  deriving DecidableEq

/-- The values of `Adjustment.sourceType`. -/
inductive AdjustmentSourceType
  | lateFee
  | openingBalanceCorrection
  deriving DecidableEq

/-- What an expense is for. -/
inductive ExpenseCategory
  | utilities
  | cleaning
  | maintenance
  | repair
  | elevator
  | security
  | insurance
  | administration
  | other
  deriving DecidableEq

/-- Whether an expense stands. -/
inductive ExpenseStatus
  | posted
  | voided
  deriving DecidableEq

/-! ### Rows -/

/-- A building. -/
structure Building where
  id : ℕ
  deriving DecidableEq

/-- `Unit` of the schema. -/
structure BuildingUnit where
  id : ℕ
  buildingId : ℕ
  unitNumber : String
  type : UnitType := .residential
  areaSqm : Option ℚ := none
  deriving DecidableEq

/-- A fund of a building, with its money. -/
structure Fund where
  id : ℕ
  buildingId : ℕ
  name : String
  type : FundType := .current
  isDefault : Bool := false
  isActive : Bool := true
  balance : ℤ := 0
  deriving DecidableEq

/-- Charges that come again every month. -/
structure ChargeSeries where
  id : ℕ
  buildingId : ℕ
  name : String
  isActive : Bool := true
  deriving DecidableEq

/-- A charge on a building. -/
structure ChargeBatch where
  id : ℕ
  buildingId : ℕ
  fundId : ℕ
  title : String
  description : Option String := none
  calculationMethod : ChargeCalculationMethod := .fixed
  totalAmount : ℤ := 0
  status : ChargeBatchStatus := .draft
  kind : Option ChargeKind := none
  seriesId : Option ℕ := none
  periodStart : Option Time := none
  dueDate : Option Time := none
  unitScope : Option ChargeUnitScope := none
  payerType : Option ChargePayerType := none
  lateFeeType : Option LateFeeType := none
  lateFeeValue : Option ℤ := none
  lateFeeGraceDays : Option ℤ := none
  createdById : ℕ
  createdAt : Time
  deriving DecidableEq

/-- What a unit owes of a charge. -/
structure ChargeItem where
  id : ℕ
  chargeBatchId : ℕ
  unitId : ℕ
  amount : ℤ
  paidAmount : ℤ := 0
  status : ChargeItemStatus := .unpaid
  createdAt : Time
  deriving DecidableEq

/-- A payment for a unit. -/
structure Payment where
  id : ℕ
  buildingId : ℕ
  unitId : ℕ
  fundId : ℕ
  payerId : ℕ
  amount : ℤ
  method : PaymentMethod
  status : PaymentStatus := .pendingApproval
  selectionMode : PaymentSelectionMode := .legacyAutomatic
  idempotencyKey : Option String := none
  reference : Option String := none
  note : Option String := none
  approvedById : Option ℕ := none
  approvedAt : Option Time := none
  rejectedReason : Option String := none
  reversedAt : Option Time := none
  createdAt : Time
  deriving DecidableEq

/-- `ExplicitObligationTarget`, and the target of a selection or an allocation row. -/
inductive ObligationTarget
  | chargeItem (id : ℕ)
  | adjustment (id : ℕ)
  deriving DecidableEq

/-- What a payment is meant for, and how much of it. -/
structure PaymentDebtSelection where
  id : ℕ
  paymentId : ℕ
  target : ObligationTarget
  selectedAmount : ℤ
  reservationState : PaymentDebtReservationState
  deriving DecidableEq

/-- What a payment has paid. -/
structure PaymentAllocation where
  id : ℕ
  paymentId : ℕ
  target : ObligationTarget
  amount : ℤ
  deriving DecidableEq

/-- What a unit has paid in advance. -/
structure CreditBalance where
  id : ℕ
  unitId : ℕ
  buildingId : ℕ
  balance : ℤ := 0
  deriving DecidableEq

/-- An entry of the ledger. -/
structure LedgerEntry where
  id : ℕ
  buildingId : ℕ
  fundId : ℕ
  entryType : LedgerEntryType
  direction : LedgerDirection
  amount : ℤ
  referenceType : ReferenceType
  referenceId : ℕ
  createdAt : Time
  deriving DecidableEq

/-- A correction of what a unit owes: more, or less. -/
structure Adjustment where
  id : ℕ
  unitId : ℕ
  buildingId : ℕ
  fundId : ℕ
  amount : ℤ
  paidAmount : ℤ := 0
  reason : String
  createdById : ℕ
  sourceType : Option AdjustmentSourceType := none
  sourceId : Option ℕ := none
  createdAt : Time
  deriving DecidableEq

/-- Money that is given back. -/
structure Refund where
  id : ℕ
  paymentId : ℕ
  unitId : ℕ
  buildingId : ℕ
  amount : ℤ
  reason : String
  createdById : ℕ
  createdAt : Time
  deriving DecidableEq

/-- Money that is spent from a fund. -/
structure Expense where
  id : ℕ
  buildingId : ℕ
  fundId : ℕ
  title : String
  description : Option String := none
  category : ExpenseCategory
  amount : ℤ
  occurredAt : Time
  status : ExpenseStatus := .posted
  createdById : ℕ
  voidedAt : Option Time := none
  voidedById : Option ℕ := none
  voidReason : Option String := none
  idempotencyKey : Option String := none
  createdAt : Time
  deriving DecidableEq

/-! ### The store -/

/-- The tables the finance module reads and writes. -/
structure Store where
  buildings : Table Building Building.id
  units : Table BuildingUnit BuildingUnit.id
  funds : Table Fund Fund.id
  chargeSeries : Table ChargeSeries ChargeSeries.id
  chargeBatches : Table ChargeBatch ChargeBatch.id
  chargeItems : Table ChargeItem ChargeItem.id
  payments : Table Payment Payment.id
  debtSelections : Table PaymentDebtSelection PaymentDebtSelection.id
  allocations : Table PaymentAllocation PaymentAllocation.id
  creditBalances : Table CreditBalance CreditBalance.id
  ledger : Table LedgerEntry LedgerEntry.id
  adjustments : Table Adjustment Adjustment.id
  refunds : Table Refund Refund.id
  expenses : Table Expense Expense.id

/-- The store before anything happened. -/
def Store.empty : Store where
  buildings := .empty
  units := .empty
  funds := .empty
  chargeSeries := .empty
  chargeBatches := .empty
  chargeItems := .empty
  payments := .empty
  debtSelections := .empty
  allocations := .empty
  creditBalances := .empty
  ledger := .empty
  adjustments := .empty
  refunds := .empty
  expenses := .empty

end VielHome.Finance
