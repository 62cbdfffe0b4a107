import Mathlib.Data.List.Dedup
import VielHome.Finance.Repository.Charges

/-!
# Repository: reporting payments

The two ways to report a payment, `createPayment` for an amount and `createExplicitPayment`
for selected obligations, and the read `listSelectableObligations` that offers them. Both
report a payment that awaits approval, under one idempotency key for each payer and
building.

Every method takes the advisory lock of the payment's unit first and runs as one
transaction, so it is one atomic step here. The partial unique indexes on the active
reservations and the unique idempotency key cannot fail after the checks of the method
itself, and have no guard of their own.
-/

namespace VielHome.Finance

open Relational

namespace Store

/-- The payment an idempotency key already stands for. -/
def paymentByKey (s : Store) (payerId buildingId : ℕ) (idempotencyKey : String) : Option Payment :=
  s.payments.rows.find? fun p =>
    p.payerId = payerId ∧ p.buildingId = buildingId ∧ p.idempotencyKey = some idempotencyKey

/-- The selections of a payment. -/
def selectionsOf (s : Store) (paymentId : ℕ) : List PaymentDebtSelection :=
  s.debtSelections.rows.filter fun d => d.paymentId = paymentId

/-- An active selection of some payment names the obligation. -/
def isReserved (s : Store) (target : ObligationTarget) : Bool :=
  s.debtSelections.rows.any fun d => d.target = target ∧ d.reservationState = .active

end Store

/-! ### Reporting an amount -/

/-- What a payment is made from. -/
structure CreatePaymentParams where
  buildingId : ℕ
  unitId : ℕ
  fundId : ℕ
  payerId : ℕ
  amount : ℤ
  method : PaymentMethod
  idempotencyKey : String
  reference : Option String := none
  note : Option String := none
  isManualAmount : Bool
  deriving DecidableEq

/-- The replay comparison of `createPayment`. -/
def CreatePaymentParams.sameAs (params : CreatePaymentParams) (existing : Payment) : Bool :=
  existing.unitId = params.unitId ∧
  existing.fundId = params.fundId ∧
  existing.amount = params.amount ∧
  existing.method = params.method ∧
  existing.reference = params.reference ∧
  existing.note = params.note

/-- `createPayment`. -/
def createPayment (params : CreatePaymentParams) (now : Time) : Tx Store Failure Payment := do
  let existing ← Tx.query fun s =>
    s.paymentByKey params.payerId params.buildingId params.idempotencyKey
  match existing with
  | some existing =>
    Tx.require (params.sameAs existing)
      (.conflict "Idempotency key was already used with a different payment request.")
    pure existing
  | none =>
    let snapshot ← Tx.query fun s => s.computeDebtSnapshot params.unitId
    Tx.require (params.isManualAmount ∨ ¬ snapshot.remainingPayable < params.amount)
      (.businessRuleViolation ("This amount exceeds the unit's remaining payable amount (" ++
        toString snapshot.remainingPayable ++ "). " ++
        "If you intend to report a different amount, enable manual entry."))
    let payments ← Tx.query fun s => s.payments
    let payment : Payment :=
      { id := payments.next, buildingId := params.buildingId, unitId := params.unitId,
        fundId := params.fundId, payerId := params.payerId, amount := params.amount,
        method := params.method, reference := params.reference, note := params.note,
        idempotencyKey := some params.idempotencyKey, status := .pendingApproval,
        createdAt := now }
    Tx.write fun s => { s with payments := s.payments.create fun id => { payment with id } }
    pure payment

/-! ### The obligations a payment may select -/

/-- Why an obligation is not offered. -/
inductive UnselectableReason
  | pendingReservation
  | olderMonthlyObligationRequired
  deriving DecidableEq

/-- The columns of a fund that the option lists select. -/
structure FundOption where
  id : ℕ
  name : String
  type : FundType
  deriving DecidableEq

/-- One entry of `listSelectableObligations`; `obligationId` encodes the target. -/
structure SelectableObligation where
  obligationId : ObligationTarget
  title : String
  description : Option String
  originalAmount : ℤ
  remainingPayable : ℤ
  fund : Option FundOption
  chargeKind : Option ChargeKind
  seriesId : Option ℕ
  periodStart : Option Time
  selectable : Bool
  unselectableReason : Option UnselectableReason
  blockedByObligationId : Option ObligationTarget
  deriving DecidableEq

namespace Store

/-- `fund: { select: { id: true, name: true, type: true } }`. -/
def fundOption (s : Store) (fundId : ℕ) : Option FundOption :=
  (s.funds.find? fundId).map fun f => { id := f.id, name := f.name, type := f.type }

/-- The series of a charge item, if its batch is a monthly one. -/
def monthlySeries (s : Store) (item : ChargeItem) : Option ℕ :=
  (s.batchOf item).bind fun b => if b.kind = some .monthly then b.seriesId else none

/-- `orderBy: [{ chargeBatch: { periodStart: 'asc' } }, { createdAt: 'asc' }]`. -/
def byPeriodThenAge (s : Store) : ChargeItem → ChargeItem → Prop :=
  ThenBy (fun i j => NullsLast ((s.batchOf i).bind ChargeBatch.periodStart)
    ((s.batchOf j).bind ChargeBatch.periodStart)) fun i j => i.createdAt ≤ j.createdAt

instance (s : Store) : DecidableRel s.byPeriodThenAge :=
  inferInstanceAs (DecidableRel (ThenBy _ _))

/-- `orderBy: { chargeBatch: { periodStart: 'asc' } }`. -/
def byPeriod (s : Store) (i j : ChargeItem) : Prop :=
  NullsLast ((s.batchOf i).bind ChargeBatch.periodStart)
    ((s.batchOf j).bind ChargeBatch.periodStart)

instance (s : Store) : DecidableRel s.byPeriod :=
  fun _ _ => inferInstanceAs (Decidable (NullsLast _ _))

/-- The loop that fills `monthlyPredecessor`: each item with something remaining in a monthly
series, with the latest such item of the series before it. `latest` is the map
`monthlyLatestOutstanding`. -/
def monthlyPredecessors (s : Store) :
    List ChargeItem → (ℕ → Option ℕ) → List (ℕ × ℕ)
  | [], _ => []
  | item :: rest, latest =>
    match s.monthlySeries item with
    | none => monthlyPredecessors s rest latest
    | some seriesId =>
      if 0 < item.outstanding then
        let latest' := Function.update latest seriesId (some item.id)
        match latest seriesId with
        | some predecessorId => (item.id, predecessorId) :: monthlyPredecessors s rest latest'
        | none => monthlyPredecessors s rest latest'
      else monthlyPredecessors s rest latest

/-- `monthlyPredecessor.get(id)`. -/
def monthlyPredecessor (s : Store) (items : List ChargeItem) (id : ℕ) : Option ℕ :=
  ((s.monthlyPredecessors items fun _ => none).find? fun e => e.1 = id).map Prod.snd

/-- The listed entry of a charge item. -/
def selectableItem (s : Store) (items : List ChargeItem) (item : ChargeItem) :
    SelectableObligation :=
  let reserved := s.isReserved (.chargeItem item.id)
  let predecessorId := s.monthlyPredecessor items item.id
  let reason : Option UnselectableReason :=
    if reserved then some .pendingReservation
    else if predecessorId.isSome then some .olderMonthlyObligationRequired
    else none
  let batch := s.batchOf item
  { obligationId := .chargeItem item.id
    title := (batch.map ChargeBatch.title).getD ""
    description := batch.bind ChargeBatch.description
    originalAmount := item.amount
    remainingPayable := item.amount - item.paidAmount
    fund := batch.bind fun b => s.fundOption b.fundId
    chargeKind := batch.bind ChargeBatch.kind
    seriesId := batch.bind ChargeBatch.seriesId
    periodStart := batch.bind ChargeBatch.periodStart
    selectable := reason = none
    unselectableReason := reason
    blockedByObligationId :=
      if reserved then none else predecessorId.map ObligationTarget.chargeItem }

/-- The listed entry of an adjustment. -/
def selectableAdjustment (s : Store) (adjustment : Adjustment) : SelectableObligation :=
  let reserved := s.isReserved (.adjustment adjustment.id)
  { obligationId := .adjustment adjustment.id
    title := adjustment.reason
    description := none
    originalAmount := adjustment.amount
    remainingPayable := adjustment.amount - adjustment.paidAmount
    fund := s.fundOption adjustment.fundId
    chargeKind := none
    seriesId := none
    periodStart := none
    selectable := !reserved
    unselectableReason := if reserved then some .pendingReservation else none
    blockedByObligationId := none }

/-- `listSelectableObligations`. -/
def listSelectableObligations (s : Store) (unitId : ℕ) : List SelectableObligation :=
  let items := (s.outstandingItems unitId).insertionSort s.byPeriodThenAge
  (items.map (s.selectableItem items)).filter (fun o => 0 < o.remainingPayable) ++
    ((s.positiveAdjustmentsByAge unitId).map s.selectableAdjustment).filter
      (fun o => 0 < o.remainingPayable)

end Store

/-! ### Reporting selected obligations -/

/-- What a payment for chosen obligations is made from. -/
structure CreateExplicitPaymentParams where
  buildingId : ℕ
  unitId : ℕ
  payerId : ℕ
  method : PaymentMethod
  idempotencyKey : String
  reference : Option String := none
  note : Option String := none
  targets : List ObligationTarget
  deriving DecidableEq

/-- The replay comparison of `createExplicitPayment`. The sorted encodings of two target
lists agree when the lists are permutations of each other. -/
def CreateExplicitPaymentParams.sameAs (params : CreateExplicitPaymentParams) (existing : Payment)
    (existingTargets : List ObligationTarget) : Bool :=
  existing.selectionMode = .explicitSelection ∧
  existing.unitId = params.unitId ∧
  existing.method = params.method ∧
  existing.reference = params.reference ∧
  existing.note = params.note ∧
  existingTargets.Perm params.targets

namespace Store

/-- The unit's unpaid billed items of one monthly series, oldest period first. -/
def outstandingOfSeries (s : Store) (unitId seriesId : ℕ) : List ChargeItem :=
  ((s.outstandingItems unitId).filter fun i => s.monthlySeries i = some seriesId).insertionSort
    s.byPeriod

/-- The selected items of a series come before the unselected ones. -/
def selectsOldestFirst (s : Store) (unitId seriesId : ℕ) (selectedItemIds : List ℕ) : Bool :=
  let outstanding := s.outstandingOfSeries unitId seriesId
  let selectedCount := (outstanding.filter fun i => i.id ∈ selectedItemIds).length
  (outstanding.take selectedCount).all fun i => i.id ∈ selectedItemIds

end Store

/-- `createExplicitPayment`. -/
def createExplicitPayment (params : CreateExplicitPaymentParams) (now : Time) :
    Tx Store Failure Payment := do
  let existing ← Tx.query fun s =>
    s.paymentByKey params.payerId params.buildingId params.idempotencyKey
  match existing with
  | some existing =>
    let selections ← Tx.query fun s => s.selectionsOf existing.id
    Tx.require (params.sameAs existing (selections.map fun d => d.target))
      (.conflict "Idempotency key was already used with a different payment request.")
    pure existing
  | none =>
    let chargeIds := params.targets.filterMap ObligationTarget.chargeItemId?
    let adjustmentIds := params.targets.filterMap ObligationTarget.adjustmentId?
    let s ← Tx.query fun s => s
    let items := s.chargeItems.rows.filter fun i => i.id ∈ chargeIds
    let adjustments := s.adjustments.rows.filter fun a => a.id ∈ adjustmentIds
    Tx.require (items.length = chargeIds.length ∧ adjustments.length = adjustmentIds.length)
      (.businessRuleViolation "One or more selected obligations do not exist.")
    Tx.require ((∀ i ∈ items, i.unitId = params.unitId ∧
        (s.batchOf i).any fun b => b.buildingId = params.buildingId ∧ b.status.isBilled) ∧
        ∀ a ∈ adjustments, a.unitId = params.unitId ∧ a.buildingId = params.buildingId)
      (.businessRuleViolation "Every obligation must belong to the exact payment unit.")
    Tx.require ((∀ i ∈ items, 0 < i.outstanding ∧ ¬ s.isReserved (.chargeItem i.id)) ∧
        ∀ a ∈ adjustments, 0 < a.outstanding ∧ ¬ s.isReserved (.adjustment a.id))
      (.conflict "One or more obligations are no longer selectable.")
    let selectedMonthlySeries := (items.filterMap s.monthlySeries).dedup
    Tx.require (∀ seriesId ∈ selectedMonthlySeries,
        s.selectsOldestFirst params.unitId seriesId (items.map ChargeItem.id))
      (.businessRuleViolation "Monthly obligations must be selected oldest first without gaps.")
    let fundIds := (items.filterMap (fun i => (s.batchOf i).map ChargeBatch.fundId) ++
      adjustments.map Adjustment.fundId).dedup
    match fundIds with
    | [fundId] =>
      Tx.require ((s.funds.find? fundId).any Fund.isActive)
        (.businessRuleViolation "The selected obligations belong to an inactive fund.")
      let selected : List (ObligationTarget × ℤ) :=
        items.map (fun i => (.chargeItem i.id, i.amount - i.paidAmount)) ++
          adjustments.map fun a => (.adjustment a.id, a.amount - a.paidAmount)
      let payment : Payment :=
        { id := s.payments.next, buildingId := params.buildingId, unitId := params.unitId,
          fundId, payerId := params.payerId, amount := (selected.map Prod.snd).sum,
          method := params.method, reference := params.reference, note := params.note,
          idempotencyKey := some params.idempotencyKey, selectionMode := .explicitSelection,
          createdAt := now }
      Tx.write fun s => { s with payments := s.payments.create fun id => { payment with id } }
      Tx.write fun s =>
        { s with
          debtSelections := s.debtSelections.createMany selected fun e id =>
            { id, paymentId := payment.id, target := e.1, selectedAmount := e.2,
              reservationState := .active } }
      pure payment
    | _ =>
      Tx.fail (.businessRuleViolation "All selected obligations must belong to the same fund.")

/-! ### Rejecting -/

/-- `rejectPayment`. -/
def rejectPayment (paymentId : ℕ) (reason : Option String) : Tx Store Failure Payment := do
  let candidate ← Tx.query fun s => s.payments.find? paymentId
  let current ← Tx.expect candidate (.businessRuleViolation "Payment not found.")
  Tx.require (current.status = .pendingApproval)
    (.businessRuleViolation "Only a pending payment can be rejected.")
  Tx.write fun s =>
    { s with
      payments := s.payments.modify paymentId fun p =>
        { p with status := .rejected, rejectedReason := reason } }
  if current.selectionMode = .explicitSelection then
    Tx.write fun s =>
      { s with
        debtSelections := s.debtSelections.updateMany
          (fun d => d.paymentId = paymentId ∧ d.reservationState = .active)
          fun d => { d with reservationState := .released } }
  pure { current with status := .rejected, rejectedReason := reason }

end VielHome.Finance
