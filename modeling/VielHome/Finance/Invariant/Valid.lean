import VielHome.Finance.Effect.Adjustments
import VielHome.Finance.Effect.Charges
import VielHome.Finance.Effect.Funds
import VielHome.Finance.Effect.Reporting
import VielHome.Finance.Effect.Reversal
import VielHome.Finance.System

/-!
# The invariant of the store

`Store.Valid` is what every transaction keeps, in groups by table. The groups depend on
each other: a reversal can take its allocations back because every obligation is covered by
what approved payments allocated to it, and a batch with such allocations cannot be
cancelled because its items are paid.

A call in flight was computed from an older store. `Call.Ok` says what its parameters still
mean now; it only speaks about columns that no transaction writes, so it stays true while
the store moves on (`Store.Extends`, `Call.Ok.mono`).
-/

namespace VielHome.Finance

open Relational

/-! ### What the invariant speaks about -/

/-- The amount with the sign of its direction: a credit counts up. -/
def LedgerEntry.signedAmount (e : LedgerEntry) : ℤ :=
  match e.direction with
  | .credit => e.amount
  | .debit => -e.amount

/-- The entry is listed on the statement of its fund. -/
def LedgerEntry.onStatement (e : LedgerEntry) : Bool := e.entryType ∈ fundStatementEntryTypes

/-- The columns of a payment that no transaction writes after its creation. -/
def Payment.terms (p : Payment) : Payment :=
  { p with
    status := .pendingApproval
    approvedById := none
    approvedAt := none
    rejectedReason := none
    reversedAt := none }

/-- Payments with the same terms agree in every column that the terms keep. -/
theorem Payment.column_eq {p p' : Payment} (h : p.terms = p'.terms) {α : Type} (c : Payment → α)
    (hc : ∀ p, c p.terms = c p) : c p = c p' :=
  (hc p).symm.trans ((congrArg c h).trans (hc p'))

/-- The columns of an expense that no transaction writes after its creation. -/
def Expense.terms (e : Expense) : Expense :=
  { e with status := .posted, voidedAt := none, voidedById := none, voidReason := none }

/-- The columns of a charge item that no transaction writes after its creation. -/
def ChargeItem.terms (i : ChargeItem) : ChargeItem := { i with paidAmount := 0, status := .unpaid }

/-- The columns of a charge batch that no transaction writes after its creation. -/
def ChargeBatch.terms (b : ChargeBatch) : ChargeBatch := { b with status := .draft }

/-- The state of the selections of a payment with this status. -/
def PaymentStatus.reservationState : PaymentStatus → PaymentDebtReservationState
  | .pendingApproval => .active
  | .rejected => .released
  | .approved | .reversed | .refunded => .applied

namespace Store

/-- What the statement of a fund adds up to. -/
def statementTotal (s : Store) (fundId : ℕ) : ℤ :=
  s.ledger.sum fun e => if e.fundId = fundId ∧ e.onStatement then e.signedAmount else 0

/-- The building of a fund. -/
def fundBuilding (s : Store) (fundId : ℕ) : Option ℕ := (s.funds.find? fundId).map Fund.buildingId

/-- The building of a unit. -/
def unitBuilding (s : Store) (unitId : ℕ) : Option ℕ :=
  (s.units.find? unitId).map BuildingUnit.buildingId

/-- The payment is approved. -/
def isApproved (s : Store) (paymentId : ℕ) : Bool :=
  (s.payments.find? paymentId).any fun p => p.status = .approved

/-- The payment is reversed. -/
def isReversed (s : Store) (paymentId : ℕ) : Bool :=
  (s.payments.find? paymentId).any fun p => p.status = .reversed

/-- What approved payments allocated to an obligation. -/
def approvedAllocated (s : Store) (target : ObligationTarget) : ℤ :=
  s.allocations.sum fun a => if a.target = target ∧ s.isApproved a.paymentId then a.amount else 0

/-! ### The groups -/

/-- Funds: the balance is the total of the statement. -/
structure FundsOk (s : Store) : Prop where
  fund_balance : ∀ f ∈ s.funds, f.balance = s.statementTotal f.id

/-- Foreign keys, and the building column that rows repeat from the fund or the unit. -/
structure ReferencesOk (s : Store) : Prop where
  entry_fund : ∀ e ∈ s.ledger, s.fundBuilding e.fundId = some e.buildingId
  batch_fund : ∀ b ∈ s.chargeBatches, s.fundBuilding b.fundId = some b.buildingId
  item_unit : ∀ i ∈ s.chargeItems, (s.unitBuilding i.unitId).isSome
  adjustment_fund : ∀ a ∈ s.adjustments, s.fundBuilding a.fundId = some a.buildingId
  adjustment_unit : ∀ a ∈ s.adjustments, (s.unitBuilding a.unitId).isSome
  payment_fund : ∀ p ∈ s.payments, s.fundBuilding p.fundId = some p.buildingId
  payment_unit : ∀ p ∈ s.payments, s.unitBuilding p.unitId = some p.buildingId
  credit_unit : ∀ c ∈ s.creditBalances, s.unitBuilding c.unitId = some c.buildingId
  expense_fund : ∀ e ∈ s.expenses, s.fundBuilding e.fundId = some e.buildingId

/-- Charge batches. -/
structure BatchesOk (s : Store) : Prop where
  batch_total : ∀ b ∈ s.chargeBatches,
    b.totalAmount = s.chargeItems.sum fun i => if i.chargeBatchId = b.id then i.amount else 0
  batch_monthly : ∀ b ∈ s.chargeBatches, b.kind = some .monthly →
    b.seriesId.isSome ∧ b.periodStart.isSome
  batch_period : ∀ b ∈ s.chargeBatches, ∀ b' ∈ s.chargeBatches, b.kind = some .monthly →
    b'.kind = some .monthly → b.seriesId = b'.seriesId → b.periodStart = b'.periodStart →
    b.id = b'.id

/-- Charge items. -/
structure ItemsOk (s : Store) : Prop where
  item_batch : ∀ i ∈ s.chargeItems, ∃ b, s.batchOf i = some b ∧ i.createdAt = b.createdAt
  item_status : s.StatusOk
  item_paid : ∀ i ∈ s.chargeItems, 0 ≤ i.paidAmount ∧ i.paidAmount ≤ i.amount
  item_unbilled : ∀ i ∈ s.chargeItems, s.isBilled i = false → i.paidAmount = 0

/-- Adjustments: a positive one is paid up to its amount, any other one not at all. -/
structure AdjustmentsOk (s : Store) : Prop where
  adjustment_paid : ∀ a ∈ s.adjustments, 0 ≤ a.paidAmount ∧ a.paidAmount ≤ max 0 a.amount

/-- Credit balances. -/
structure CreditOk (s : Store) : Prop where
  credit_unique : s.CreditUnique
  credit_nonneg : ∀ c ∈ s.creditBalances, 0 ≤ c.balance

/-- Payments. -/
structure PaymentsOk (s : Store) : Prop where
  payment_pos : ∀ p ∈ s.payments, 0 < p.amount
  payment_not_refunded : ∀ p ∈ s.payments, p.status ≠ .refunded
  payment_key : ∀ p ∈ s.payments, ∀ p' ∈ s.payments, p.payerId = p'.payerId →
    p.buildingId = p'.buildingId → p.idempotencyKey = p'.idempotencyKey →
    p.idempotencyKey.isSome → p.id = p'.id

/-- Selections of explicit payments. -/
structure SelectionsOk (s : Store) : Prop where
  selection_payment : ∀ d ∈ s.debtSelections, ∃ p, s.payments.find? d.paymentId = some p ∧
    p.selectionMode = .explicitSelection ∧ d.reservationState = p.status.reservationState
  selection_pos : ∀ d ∈ s.debtSelections, 0 < d.selectedAmount
  selection_distinct : ∀ p, ((s.selectionsOf p).map (·.target)).Nodup
  selection_reserved : ∀ d ∈ s.debtSelections, ∀ d' ∈ s.debtSelections, d.target = d'.target →
    d.reservationState = .active → d'.reservationState = .active → d.id = d'.id
  selection_total : ∀ p ∈ s.payments, p.selectionMode = .explicitSelection →
    (selectionSettlement (s.selectionsOf p.id)).total = p.amount

/-- Allocations of payments. -/
structure AllocationsOk (s : Store) : Prop where
  allocation_payment : ∀ a ∈ s.allocations, s.isApproved a.paymentId ∨ s.isReversed a.paymentId
  allocation_pos : ∀ a ∈ s.allocations, 0 < a.amount
  allocation_distinct : ∀ p, ((s.allocationsOf p).map (·.target)).Nodup
  allocation_active : ∀ a ∈ s.allocations, ∀ p, s.payments.find? a.paymentId = some p →
    p.status = .approved → s.IsActive p.unitId a.target
  allocation_selected : ∀ p ∈ s.payments, p.selectionMode = .explicitSelection →
    p.status = .approved ∨ p.status = .reversed →
    (s.allocationsOf p.id).map (fun a => (a.target, a.amount)) =
      selectionSettlement (s.selectionsOf p.id)

/-- Every obligation is paid at least what approved payments allocated to it, and one that an
approved payment selected is settled unless an allocation to it was taken back. -/
structure CoverOk (s : Store) : Prop where
  cover_item : ∀ i ∈ s.chargeItems, s.approvedAllocated (.chargeItem i.id) ≤ i.paidAmount
  cover_adjustment : ∀ a ∈ s.adjustments,
    s.approvedAllocated (.adjustment a.id) ≤ a.paidAmount
  cover_settled : ∀ d ∈ s.debtSelections, s.isApproved d.paymentId →
    (∀ a ∈ s.allocations, a.target = d.target → ¬ s.isReversed a.paymentId) →
    s.outstandingOf d.target = 0

/-- The invariant of the store. -/
structure Valid (s : Store) : Prop extends FundsOk s, ReferencesOk s, BatchesOk s, ItemsOk s,
  AdjustmentsOk s, CreditOk s, PaymentsOk s, SelectionsOk s, AllocationsOk s, CoverOk s

theorem valid_empty : Store.empty.Valid := by
  constructor <;> constructor <;>
    first | exact fun _ => List.nodup_nil | exact fun r hr => absurd hr Table.not_mem_empty

/-! ### What stays -/

/-- Rows stay, with the columns that no transaction writes. -/
structure Extends (s s' : Store) : Prop where
  fund : ∀ id b, s.fundBuilding id = some b → s'.fundBuilding id = some b
  unit : ∀ id b, s.unitBuilding id = some b → s'.unitBuilding id = some b
  payment : ∀ id p, s.payments.find? id = some p →
    ∃ p', s'.payments.find? id = some p' ∧ p'.terms = p.terms
  expense : ∀ id e, s.expenses.find? id = some e →
    ∃ e', s'.expenses.find? id = some e' ∧ e'.terms = e.terms
  item : ∀ id i, s.chargeItems.find? id = some i →
    ∃ i', s'.chargeItems.find? id = some i' ∧ i'.terms = i.terms
  batch : ∀ id b, s.chargeBatches.find? id = some b →
    ∃ b', s'.chargeBatches.find? id = some b' ∧ b'.terms = b.terms

theorem Extends.refl (s : Store) : s.Extends s :=
  ⟨fun _ _ h => h, fun _ _ h => h, fun _ p h => ⟨p, h, rfl⟩, fun _ e h => ⟨e, h, rfl⟩,
    fun _ i h => ⟨i, h, rfl⟩, fun _ b h => ⟨b, h, rfl⟩⟩

theorem Extends.trans {s s' s'' : Store} (h : s.Extends s') (h' : s'.Extends s'') :
    s.Extends s'' where
  fund id b hb := h'.fund id b (h.fund id b hb)
  unit id b hb := h'.unit id b (h.unit id b hb)
  payment id p hp := by
    obtain ⟨p', hp', hterms⟩ := h.payment id p hp
    obtain ⟨p'', hp'', hterms'⟩ := h'.payment id p' hp'
    exact ⟨p'', hp'', hterms'.trans hterms⟩
  expense id e he := by
    obtain ⟨e', he', hterms⟩ := h.expense id e he
    obtain ⟨e'', he'', hterms'⟩ := h'.expense id e' he'
    exact ⟨e'', he'', hterms'.trans hterms⟩
  item id i hi := by
    obtain ⟨i', hi', hterms⟩ := h.item id i hi
    obtain ⟨i'', hi'', hterms'⟩ := h'.item id i' hi'
    exact ⟨i'', hi'', hterms'.trans hterms⟩
  batch id b hb := by
    obtain ⟨b', hb', hterms⟩ := h.batch id b hb
    obtain ⟨b'', hb'', hterms'⟩ := h'.batch id b' hb'
    exact ⟨b'', hb'', hterms'.trans hterms⟩

/-- Every charge item belongs to a unit of the building that its batch belongs to. -/
def Isolated (s : Store) : Prop :=
  ∀ i ∈ s.chargeItems, ∀ b, s.batchOf i = some b → s.unitBuilding i.unitId = some b.buildingId

/-- What is isolated now always was. -/
theorem Isolated.of_extends {s s' : Store} (h : s.Valid) (hextends : s.Extends s')
    (hiso : s'.Isolated) : s.Isolated := by
  intro i hi b hb
  obtain ⟨i', hi', hitem⟩ := hextends.item _ i (Table.find?_of_mem hi)
  obtain ⟨b', hb', hbatch⟩ := hextends.batch _ b hb
  have hbatchId : i'.chargeBatchId = i.chargeBatchId :=
    (congrArg ChargeItem.chargeBatchId hitem :)
  have hunitId : i'.unitId = i.unitId := (congrArg ChargeItem.unitId hitem :)
  have hbuilding : b'.buildingId = b.buildingId :=
    (congrArg ChargeBatch.buildingId hbatch :)
  have hthen := hiso i' (Table.mem_of_find? hi') b' (by rw [batchOf, hbatchId]; exact hb')
  obtain ⟨x, hx⟩ := Option.isSome_iff_exists.mp (h.item_unit i hi)
  rw [hunitId, hextends.unit _ _ hx, hbuilding] at hthen
  rw [hx, hthen]

end Store

/-! ### Calls in flight -/

/-- What the parameters of a call mean in the current store. -/
def Call.Ok (s : Store) : Call → Prop
  | createChargeBatch params =>
    s.fundBuilding params.fundId = some params.buildingId ∧ (∀ i ∈ params.items, 0 ≤ i.amount) ∧
      (params.kind = some .monthly → params.seriesId.isSome ∧ params.periodStart.isSome) ∧
      (params.calculationMethod ≠ .mixed →
        ∀ i ∈ params.items, s.unitBuilding i.unitId = some params.buildingId)
  | createAdjustment params =>
    s.fundBuilding params.fundId = some params.buildingId ∧
      (s.unitBuilding params.unitId).isSome ∧
      params.sourceType ≠ some .openingBalanceCorrection
  | applyOpeningBalanceCorrection params =>
    s.fundBuilding params.fundId = some params.buildingId ∧
      s.unitBuilding params.unitId = some params.buildingId
  | createPayment params =>
    0 < params.amount ∧ s.fundBuilding params.fundId = some params.buildingId ∧
      s.unitBuilding params.unitId = some params.buildingId
  | createExplicitPayment params => s.unitBuilding params.unitId = some params.buildingId
  | approvePayment params =>
    ∃ p, s.payments.find? params.paymentId = some p ∧ p.buildingId = params.buildingId ∧
      p.unitId = params.unitId ∧ p.fundId = params.fundId ∧ p.amount = params.amount
  | reversePayment params =>
    ∃ p, s.payments.find? params.paymentId = some p ∧ p.buildingId = params.buildingId ∧
      p.fundId = params.fundId ∧ p.amount = params.amount
  | createExpense params => s.fundBuilding params.fundId = some params.buildingId
  | voidExpense params =>
    ∃ e, s.expenses.find? params.expenseId = some e ∧ e.buildingId = params.buildingId ∧
      e.fundId = params.fundId ∧ e.amount = params.amount
  | _ => True

private theorem isSome_mono {α : Type} {x y : Option α} (h : ∀ a, x = some a → y = some a)
    (hx : x.isSome) : y.isSome := by
  obtain ⟨a, ha⟩ := Option.isSome_iff_exists.mp hx
  exact Option.isSome_iff_exists.mpr ⟨a, h a ha⟩

/-- What the parameters of a call mean stays true. -/
theorem Call.Ok.mono {s s' : Store} (h : s.Extends s') {c : Call} (hc : c.Ok s) : c.Ok s' := by
  cases c with
  | createChargeBatch params =>
    obtain ⟨hfund, hamounts, hmonthly, hunits⟩ := hc
    exact ⟨h.fund _ _ hfund, hamounts, hmonthly, fun hmethod i hi =>
      h.unit _ _ (hunits hmethod i hi)⟩
  | createAdjustment params =>
    exact ⟨h.fund _ _ hc.1, isSome_mono (h.unit _) hc.2.1, hc.2.2⟩
  | applyOpeningBalanceCorrection params => exact ⟨h.fund _ _ hc.1, h.unit _ _ hc.2⟩
  | createPayment params => exact ⟨hc.1, h.fund _ _ hc.2.1, h.unit _ _ hc.2.2⟩
  | createExplicitPayment params => exact h.unit _ _ hc
  | approvePayment params =>
    obtain ⟨p, hp, hbuilding, hunit, hfund, hamount⟩ := hc
    obtain ⟨p', hp', hterms⟩ := h.payment _ p hp
    exact ⟨p', hp', (congrArg Payment.buildingId hterms).trans hbuilding,
      (congrArg Payment.unitId hterms).trans hunit, (congrArg Payment.fundId hterms).trans hfund,
      (congrArg Payment.amount hterms).trans hamount⟩
  | reversePayment params =>
    obtain ⟨p, hp, hbuilding, hfund, hamount⟩ := hc
    obtain ⟨p', hp', hterms⟩ := h.payment _ p hp
    exact ⟨p', hp', (congrArg Payment.buildingId hterms).trans hbuilding,
      (congrArg Payment.fundId hterms).trans hfund,
      (congrArg Payment.amount hterms).trans hamount⟩
  | createExpense params => exact h.fund _ _ hc
  | voidExpense params =>
    obtain ⟨e, he, hbuilding, hfund, hamount⟩ := hc
    obtain ⟨e', he', hterms⟩ := h.expense _ e he
    exact ⟨e', he', (congrArg Expense.buildingId hterms).trans hbuilding,
      (congrArg Expense.fundId hterms).trans hfund,
      (congrArg Expense.amount hterms).trans hamount⟩
  | _ => trivial

end VielHome.Finance
