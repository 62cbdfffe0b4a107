import VielHome.Finance.Effect.Approval

/-!
# What a reversal and a refund do

A reversal settles the allocations of the payment with their amounts negated, as long as
each obligation has been paid at least what the payment allocated to it: then the clamp at
zero of the source never changes a value. A refund never commits for a payment of a
positive amount, because either part of it became credit or part of it was allocated.
-/

namespace VielHome.Finance

open Relational

namespace Store

/-- What has been paid towards an obligation. -/
def paidOf (s : Store) : ObligationTarget → ℤ
  | .chargeItem id => ((s.chargeItems.find? id).map ChargeItem.paidAmount).getD 0
  | .adjustment id => ((s.adjustments.find? id).map Adjustment.paidAmount).getD 0

variable {s : Store}

theorem paidOf_chargeItem {i : ChargeItem} (hi : i ∈ s.chargeItems) :
    s.paidOf (.chargeItem i.id) = i.paidAmount := by
  rw [paidOf, Table.find?_of_mem hi, Option.map_some, Option.getD_some]

theorem paidOf_adjustment {a : Adjustment} (ha : a ∈ s.adjustments) :
    s.paidOf (.adjustment a.id) = a.paidAmount := by
  rw [paidOf, Table.find?_of_mem ha, Option.map_some, Option.getD_some]

/-- Settling raises what has been paid towards an obligation by its share. -/
theorem paidOf_settle {l : Settlement} {unitId : ℕ} {target : ObligationTarget}
    (h : s.IsActive unitId target) :
    (s.settle l).paidOf target = s.paidOf target + share l target := by
  cases target with
  | chargeItem id =>
    obtain ⟨i, hi, -⟩ := h
    obtain rfl := Table.key_of_find? hi
    simp [paidOf, hi]
  | adjustment id =>
    obtain ⟨r, hr, -⟩ := h
    obtain rfl := Table.key_of_find? hr
    simp [paidOf, hr]

end Store

/-- What a reversal settles. -/
def reversalSettlement (allocations : List PaymentAllocation) : Settlement :=
  allocations.map fun a => (a.target, -a.amount)

/-- Taking back an allocation that has been paid is settling it with the amount negated. -/
theorem run_rollBackAllocation {s : Store} (hs : s.StatusOk) {unitId : ℕ} {a : PaymentAllocation}
    (hactive : s.IsActive unitId a.target) (hpaid : a.amount ≤ s.paidOf a.target) :
    (rollBackAllocation a).run s = .ok (⟨⟩, s.settle [(a.target, -a.amount)]) := by
  rw [← Store.pay_eq_settle hs, rollBackAllocation]
  split
  case h_1 id htarget =>
    rw [htarget] at hactive hpaid
    obtain ⟨i, hi, -⟩ := hactive
    obtain rfl := Table.key_of_find? hi
    rw [Store.paidOf_chargeItem (Table.mem_of_find? hi)] at hpaid
    have hclamp : max 0 (i.paidAmount - a.amount) = i.paidAmount + -a.amount := by omega
    rw [Tx.run_query_bind, hi]
    simp only [Tx.run_write, hclamp, Store.setItemPaid_eq_pay hi, htarget]
  case h_2 id htarget =>
    rw [htarget] at hactive hpaid
    obtain ⟨r, hr, -⟩ := hactive
    obtain rfl := Table.key_of_find? hr
    rw [Store.paidOf_adjustment (Table.mem_of_find? hr)] at hpaid
    have hclamp : max 0 (r.paidAmount - a.amount) = r.paidAmount + -a.amount := by omega
    rw [Tx.run_query_bind, hr]
    simp only [Tx.run_write, hclamp, Store.setAdjustmentPaid_eq_pay hr, htarget]

/-- The loop of `reversePayment` over allocations to different obligations. -/
theorem run_rollBackAllocations {s : Store} (hs : s.StatusOk) {unitId : ℕ}
    {l : List PaymentAllocation} (hnodup : (l.map (·.target)).Nodup)
    (hl : ∀ a ∈ l, s.IsActive unitId a.target ∧ a.amount ≤ s.paidOf a.target) :
    (forM l rollBackAllocation).run s = .ok (⟨⟩, s.settle (reversalSettlement l)) := by
  induction l generalizing s with
  | nil => rw [reversalSettlement, List.map_nil, Store.settle_nil hs]; rfl
  | cons a rest ih =>
    obtain ⟨ha, hrest⟩ := List.nodup_cons.mp hnodup
    obtain ⟨hactive, hpaid⟩ := hl a List.mem_cons_self
    rw [List.forM_cons, Tx.run_bind_of_ok (run_rollBackAllocation hs hactive hpaid),
      ih (Store.statusOk_settle _ _) hrest fun b hb => ?_, Store.settle_settle hs]
    · rfl
    · -- the first allocation is to another obligation, so it leaves this one alone
      have hne : a.target ≠ b.target := fun he => ha (List.mem_map.mpr ⟨b, hb, he.symm⟩)
      obtain ⟨hactive', hpaid'⟩ := hl b (List.mem_cons_of_mem _ hb)
      refine ⟨Store.isActive_settle.mpr hactive', ?_⟩
      rw [Store.paidOf_settle hactive']
      simpa [hne] using hpaid'

/-- The update of the payment row on reversal. -/
def Payment.reverse (now : Time) (p : Payment) : Payment :=
  { p with status := .reversed, reversedAt := some now }

/-- The store after a reversal. -/
def Store.reversed (s : Store) (params : ReversePaymentParams) (now : Time) : Store :=
  { s.settle (reversalSettlement (s.allocationsOf params.paymentId)) with
    payments := s.payments.modify params.paymentId (Payment.reverse now)
    ledger := s.ledger.create fun id =>
      { id, buildingId := params.buildingId, fundId := params.fundId, entryType := .reversal,
        direction := .debit, amount := params.amount, referenceType := .payment,
        referenceId := params.paymentId, createdAt := now }
    funds := s.funds.modify params.fundId fun f =>
      { f with balance := f.balance + -params.amount } }

/-- What is known about a committed reversal. -/
structure ReversalEffect (params : ReversePaymentParams) (now : Time) (s s' : Store)
    (payment : Payment) : Prop where
  find : s.payments.find? params.paymentId = some payment
  approved : payment.status = .approved
  allocated : s.allocatedTotal params.paymentId = payment.amount
  fund : ∃ fund, s.funds.find? params.fundId = some fund
  store_eq : s' = s.reversed params now

/-- A reversal commits exactly when the payment is approved and all of it was allocated. -/
theorem reversePayment_ok {s s' : Store} (hs : s.StatusOk) {params : ReversePaymentParams}
    {now : Time} {p : Payment}
    (hnodup : ((s.allocationsOf params.paymentId).map (·.target)).Nodup)
    (hallocations : ∀ payment, s.payments.find? params.paymentId = some payment →
      payment.status = .approved → ∀ a ∈ s.allocationsOf params.paymentId,
        s.IsActive payment.unitId a.target ∧ a.amount ≤ s.paidOf a.target) :
    (reversePayment params now).run s = .ok (p, s') ↔
      ∃ payment, ReversalEffect params now s s' payment ∧
        p = { payment with status := .reversed, reversedAt := some now } := by
  simp only [reversePayment, Tx.run_query_bind, Tx.run_expect_bind_ok, Tx.run_require_bind_ok,
    Tx.run_write_bind]
  set s₁ : Store :=
    { s with
      payments := s.payments.modify params.paymentId (fun p =>
        { p with status := .reversed, reversedAt := some now }) fun _ => rfl } with hs₁
  have hs₁ok : s₁.StatusOk := hs
  have hloop : ∀ payment, s.payments.find? params.paymentId = some payment →
      payment.status = .approved →
      (forM (s₁.allocationsOf params.paymentId) rollBackAllocation).run s₁ =
        .ok (⟨⟩, s₁.settle (reversalSettlement (s.allocationsOf params.paymentId))) :=
    fun payment hfind happroved =>
      run_rollBackAllocations hs₁ok hnodup (hallocations payment hfind happroved)
  constructor
  · rintro ⟨payment, hfind, happroved, hle, hge, h⟩
    have hid : payment.id = params.paymentId := Table.key_of_find? hfind
    rw [hid] at hle hge
    rw [Tx.run_bind_of_ok (hloop payment hfind happroved)] at h
    simp only [Tx.run_write_bind, Tx.run_bind_ok, Tx.run_pure_ok, updateFundBalance_ok] at h
    obtain ⟨w, s₂, ⟨hfund, rfl⟩, rfl, rfl⟩ := h
    exact ⟨payment, ⟨hfind, happroved, by omega, hfund, rfl⟩, rfl⟩
  · rintro ⟨payment, heffect, rfl⟩
    have hid : payment.id = params.paymentId := Table.key_of_find? heffect.find
    have hallocated := heffect.allocated
    refine ⟨payment, heffect.find, heffect.approved, by rw [hid]; omega, by rw [hid]; omega, ?_⟩
    rw [Tx.run_bind_of_ok (hloop payment heffect.find heffect.approved)]
    simp only [Tx.run_write_bind, Tx.run_bind_ok, Tx.run_pure_ok, updateFundBalance_ok]
    exact ⟨⟨⟩, _, ⟨heffect.fund, rfl⟩, trivial, heffect.store_eq⟩

/-! ### Refunds -/

/-- A committed refund found an approved payment without a positive amount. -/
theorem createRefund_ok {s s' : Store} {params : CreateRefundParams} {now : Time} {r : Refund}
    (h : (createRefund params now).run s = .ok (r, s')) :
    ∃ payment, s.payments.find? params.paymentId = some payment ∧ payment.amount ≤ 0 := by
  simp only [createRefund, Tx.run_query_bind, Tx.run_expect_bind_ok, Tx.run_require_bind_ok,
    Option.filter_eq_some_iff] at h
  obtain ⟨payment, ⟨hfind, -⟩, hle, hge, hzero, -⟩ := h
  exact ⟨payment, hfind, by omega⟩

end VielHome.Finance
