import VielHome.Finance.Invariant.Bookkeeping
import VielHome.Finance.Invariant.Payments

/-!
# What a call can do

`Call.Effect` lists, once for all later proofs, what the transaction of a call can do to a
valid store: nothing, or its one committed effect. A refund is not on the list, because it
never commits.

From the list follows that every call keeps the invariant and every row.
-/

namespace VielHome.Finance

open Relational

/-- What the transaction of a call can do to a store. -/
inductive Call.Effect (now : Time) (s : Store) : Call → Store → Prop
  | unchanged (c : Call) : Effect now s c s
  | createFund (params : CreateFundParams) :
    Effect now s (.createFund params) (s.withFund params now)
  | updateFund (fundId : ℕ) (params : UpdateFundParams) (name : String) :
    Effect now s (.updateFund fundId params) (s.withFundEdited fundId name params.type)
  | setFundActive (fundId : ℕ) (isActive : Bool) :
    Effect now s (.setFundActive fundId isActive)
      { s with funds := s.funds.modify fundId fun f => { f with isActive } }
  | createChargeSeries (buildingId : ℕ) (name : String) :
    Effect now s (.createChargeSeries buildingId name)
      { s with chargeSeries := s.chargeSeries.create fun id => { id, buildingId, name } }
  | createChargeBatch (params : CreateChargeBatchParams)
    (period : ¬(params.kind = some .monthly ∧
      s.hasMonthlyPeriod params.seriesId params.periodStart))
    (units : ∀ i ∈ params.items, (s.units.find? i.unitId).isSome) :
    Effect now s (.createChargeBatch params) (s.withBatch params now)
  | issueChargeBatch (params : IssueChargeBatchParams) (s' : Store) (batch : ChargeBatch)
    (plan : List (ChargeItem × ℤ)) (effect : IssueEffect params now s s' batch plan) :
    Effect now s (.issueChargeBatch params) s'
  | cancelChargeBatch (params : CancelChargeBatchParams) (s' : Store) (batch : ChargeBatch)
    (effect : CancellationEffect params s s' batch) : Effect now s (.cancelChargeBatch params) s'
  | createAdjustment (params : CreateAdjustmentParams)
    (source : ¬ s.hasAdjustmentSource params.sourceType params.sourceId)
    (late : ∀ id, params.sourceType = some .lateFee → params.sourceId = some id →
      s.isLateFeeSource params.unitId id) :
    Effect now s (.createAdjustment params) (s.adjusted params now)
  | applyOpeningBalanceCorrection (params : ApplyOpeningBalanceCorrectionParams)
    (delta : params.targetBalance - s.openingBalanceCorrectionTotal params.unitId ≠ 0) :
    Effect now s (.applyOpeningBalanceCorrection params) (s.corrected params now
      (params.targetBalance - s.openingBalanceCorrectionTotal params.unitId))
  | createPayment (params : CreatePaymentParams)
    (fresh : s.paymentByKey params.payerId params.buildingId params.idempotencyKey = none)
    (ceiling : params.isManualAmount ∨
      params.amount ≤ (s.computeDebtSnapshot params.unitId).remainingPayable) :
    Effect now s (.createPayment params) (s.withPayment params now)
  | createExplicitPayment (params : CreateExplicitPaymentParams) (s' : Store) (fundId : ℕ)
    (effect : ExplicitEffect params now s s' fundId) :
    Effect now s (.createExplicitPayment params) s'
  | approvePayment (params : ApprovePaymentParams) (s' : Store) (payment : Payment)
    (l : Settlement) (effect : ApprovalEffect params now s s' payment l) :
    Effect now s (.approvePayment params) s'
  | rejectPayment (paymentId : ℕ) (reason : Option String) (payment : Payment)
    (find : s.payments.find? paymentId = some payment)
    (pending : payment.status = .pendingApproval) :
    Effect now s (.rejectPayment paymentId reason)
      (s.rejected paymentId reason payment.selectionMode)
  | reversePayment (params : ReversePaymentParams) (s' : Store) (payment : Payment)
    (effect : ReversalEffect params now s s' payment) : Effect now s (.reversePayment params) s'
  | createExpense (params : CreateExpenseParams) (fund : Fund)
    (find : s.funds.find? params.fundId = some fund) (sufficient : params.amount ≤ fund.balance) :
    Effect now s (.createExpense params) (s.withExpense params now)
  | voidExpense (params : VoidExpenseParams) (expense : Expense)
    (find : s.expenses.find? params.expenseId = some expense)
    (posted : expense.status = .posted) :
    Effect now s (.voidExpense params) (s.withVoided params now)

variable {s : Store} {now : Time}

/-- A transaction has no effect, or the effect that follows from its commit. -/
private theorem effect_of_exec {α : Type} {x : Tx Store Failure α} {c : Call}
    (h : ∀ a s', x.run s = .ok (a, s') → c.Effect now s s') : c.Effect now s (x.exec s) :=
  Tx.exec_induction (P := c.Effect now s) (.unchanged c) h

/-- A committed approval whose parameters are those of its payment. -/
theorem Store.Valid.approvalEffect (h : s.Valid) {params : ApprovePaymentParams}
    (hc : Call.Ok s (.approvePayment params)) {q : Payment} {s' : Store}
    (hrun : (approvePayment params now).run s = .ok (q, s')) :
    ∃ payment l, ApprovalEffect params now s s' payment l ∧ q = params.approve now payment ∧
      payment.unitId = params.unitId ∧ payment.amount = params.amount := by
  obtain ⟨p, hp, -, hunit, -, hamount⟩ := hc
  have hpos : 0 ≤ params.amount := by
    rw [← hamount]
    exact (h.payment_pos p (Table.mem_of_find? hp)).le
  obtain ⟨payment, l, heffect, hq⟩ := approvePayment_ok h.item_status hpos
    (h.selection_distinct _) (fun d hd => h.selection_pos d (List.mem_filter.mp hd).1) hrun
  obtain rfl : p = payment := Option.some.inj (hp.symm.trans heffect.find)
  exact ⟨p, l, heffect, hq, hunit, hamount⟩

/-- The allocations of an approved payment can be taken back. -/
theorem Store.Valid.covered (h : s.Valid) {paymentId : ℕ} {payment : Payment}
    (hfind : s.payments.find? paymentId = some payment) (hstatus : payment.status = .approved) :
    ∀ a ∈ s.allocationsOf paymentId,
      s.IsActive payment.unitId a.target ∧ a.amount ≤ s.paidOf a.target := by
  have hid := Table.key_of_find? hfind
  rw [← hid] at hfind ⊢
  exact h.allocation_covered hfind hstatus

/-- A committed reversal. -/
theorem Store.Valid.reversalEffect (h : s.Valid) {params : ReversePaymentParams} {q : Payment}
    {s' : Store} (hrun : (reversePayment params now).run s = .ok (q, s')) :
    ∃ payment, ReversalEffect params now s s' payment ∧
      q = { payment with status := .reversed, reversedAt := some now } :=
  (reversePayment_ok h.item_status (h.allocation_distinct _) fun _ hfind => h.covered hfind).mp hrun

/-- Every call has one of the listed effects. -/
theorem Call.exec_effect (h : s.Valid) {c : Call} (hc : c.Ok s) (now : Time) :
    c.Effect now s (c.exec now s) := by
  cases c with
  | createFund params =>
    refine effect_of_exec fun f s' hrun => ?_
    rw [createFund_ok hrun]
    exact .createFund params
  | updateFund fundId params =>
    refine effect_of_exec fun _ s' hrun => ?_
    obtain ⟨name, rfl⟩ := updateFund_ok hrun
    exact .updateFund fundId params name
  | setFundActive fundId isActive =>
    refine effect_of_exec fun _ s' hrun => ?_
    rw [setFundActive_ok hrun]
    exact .setFundActive fundId isActive
  | createChargeSeries buildingId name =>
    refine effect_of_exec fun _ s' hrun => ?_
    rw [createChargeSeries_ok hrun]
    exact .createChargeSeries buildingId name
  | createChargeBatch params =>
    refine effect_of_exec fun _ s' hrun => ?_
    obtain ⟨hperiod, hunits, rfl⟩ := createChargeBatch_ok hrun
    exact .createChargeBatch params hperiod hunits
  | issueChargeBatch params =>
    refine effect_of_exec fun _ s' hrun => ?_
    obtain ⟨batch, heffect⟩ := issueChargeBatch_ok h.item_status h.credit_unique hrun
    exact .issueChargeBatch params s' batch _ heffect
  | cancelChargeBatch params =>
    refine effect_of_exec fun _ s' hrun => ?_
    obtain ⟨batch, heffect⟩ := cancelChargeBatch_ok hrun
    exact .cancelChargeBatch params s' batch heffect
  | createAdjustment params =>
    refine effect_of_exec fun _ s' hrun => ?_
    obtain ⟨⟨hsource, hlate⟩, -, rfl⟩ := (createAdjustment_ok_iff h.item_status).mp hrun
    exact .createAdjustment params hsource hlate
  | applyOpeningBalanceCorrection params =>
    refine effect_of_exec fun _ s' hrun => ?_
    obtain ⟨hdelta, rfl⟩ := applyOpeningBalanceCorrection_ok h.item_status hrun
    exact .applyOpeningBalanceCorrection params hdelta
  | createPayment params =>
    refine effect_of_exec fun _ s' hrun => ?_
    rcases createPayment_ok.mp hrun with ⟨-, -, rfl⟩ | ⟨hfresh, hceiling, -, rfl⟩
    · exact .unchanged _
    · exact .createPayment params hfresh hceiling
  | createExplicitPayment params =>
    refine effect_of_exec fun _ s' hrun => ?_
    rcases createExplicitPayment_ok.mp hrun with ⟨-, -, rfl⟩ | ⟨fundId, heffect, -⟩
    · exact .unchanged _
    · exact .createExplicitPayment params s' fundId heffect
  | approvePayment params =>
    refine effect_of_exec fun _ s' hrun => ?_
    obtain ⟨payment, l, heffect, -⟩ := h.approvalEffect hc hrun
    exact .approvePayment params s' payment l heffect
  | rejectPayment paymentId reason =>
    refine effect_of_exec fun _ s' hrun => ?_
    obtain ⟨payment, hfind, hpending, rfl⟩ := rejectPayment_ok hrun
    exact .rejectPayment paymentId reason payment hfind hpending
  | reversePayment params =>
    refine effect_of_exec fun _ s' hrun => ?_
    obtain ⟨payment, heffect, -⟩ := h.reversalEffect hrun
    exact .reversePayment params s' payment heffect
  | createRefund params =>
    refine effect_of_exec fun _ s' hrun => ?_
    obtain ⟨payment, hfind, hamount⟩ := createRefund_ok hrun
    -- it would succeed for a payment of nothing only, and payments are positive
    have := h.payment_pos payment (Table.mem_of_find? hfind)
    omega
  | createExpense params =>
    refine effect_of_exec fun _ s' hrun => ?_
    obtain ⟨⟨fund, hfind, hle⟩, rfl⟩ := createExpense_ok hrun
    exact .createExpense params fund hfind hle
  | voidExpense params =>
    refine effect_of_exec fun _ s' hrun => ?_
    obtain ⟨⟨expense, hfind, hposted⟩, -, rfl⟩ := voidExpense_ok hrun
    exact .voidExpense params expense hfind hposted

/-! ### The invariant -/

/-- Every effect keeps the invariant. -/
theorem Call.Effect.valid {c : Call} {s' : Store} (heffect : c.Effect now s s') (h : s.Valid)
    (hc : c.Ok s) : s'.Valid := by
  cases heffect with
  | unchanged => exact h
  | createFund params => exact h.withFund params now
  | updateFund fundId params name => exact h.modifyFund fundId (fun _ => rfl) fun _ => rfl
  | setFundActive fundId isActive => exact h.modifyFund fundId (fun _ => rfl) fun _ => rfl
  | createChargeSeries buildingId name => exact { h with }
  | createChargeBatch params hperiod hunits => exact h.withBatch hc hperiod hunits
  | issueChargeBatch params _ batch plan heffect => exact h.issued heffect
  | cancelChargeBatch params _ batch heffect => exact h.cancelled heffect
  | createAdjustment params => exact h.adjusted hc now
  | applyOpeningBalanceCorrection params hdelta => exact h.corrected hc now _
  | createPayment params hfresh hceiling => exact h.withPayment now hc hfresh
  | createExplicitPayment params _ fundId heffect => exact h.withExplicitPayment hc heffect
  | approvePayment params _ payment l heffect => exact h.approved hc heffect
  | rejectPayment paymentId reason payment hfind hpending => exact h.rejected hfind hpending
  | reversePayment params _ payment heffect => exact h.reversed hc heffect
  | createExpense params fund hfind hle => exact h.withExpense now hc
  | voidExpense params expense hfind hposted =>
    obtain ⟨e, he, hbuilding, hfund, -⟩ := hc
    refine h.withVoided now ?_
    rw [← hfund, ← hbuilding]
    exact h.expense_fund e (Table.mem_of_find? he)

/-- Settling keeps the rows. -/
theorem Store.exists_find?_settle {l : Settlement} {id : ℕ} {i : ChargeItem}
    (hi : s.chargeItems.find? id = some i) :
    ∃ i', (s.settle l).chargeItems.find? id = some i' ∧ i'.terms = i.terms := by
  rw [Store.find?_settle_chargeItems, hi]
  exact ⟨_, rfl, rfl⟩

/-- Writing the status of a batch keeps the rows. -/
theorem Store.exists_find?_setBatchStatus {k : ℕ} {status : ChargeBatchStatus} {id : ℕ}
    {b : ChargeBatch} (hb : s.chargeBatches.find? id = some b) :
    ∃ b', (s.setBatchStatus k status).chargeBatches.find? id = some b' ∧ b'.terms = b.terms :=
  Table.exists_find?_modify (f := fun b : ChargeBatch => { b with status }) (h := fun _ => rfl)
    (fun _ => rfl) hb

/-- Every effect keeps the rows. -/
theorem Call.Effect.extends {c : Call} {s' : Store} (heffect : c.Effect now s s') :
    s.Extends s' := by
  -- a call changes few tables, and a table that it leaves alone extends itself
  have hkeep := Store.Extends.refl s
  cases heffect with
  | unchanged => exact hkeep
  | createFund params => exact { hkeep with fund := fun _ _ hb => Store.fundBuilding_create hb }
  | updateFund fundId params name =>
    refine { hkeep with fund := fun id b hb => ?_ }
    rw [Store.withFundEdited, Store.fundBuilding_modify]
    exacts [hb, fun _ => rfl]
  | setFundActive fundId isActive =>
    refine { hkeep with fund := fun id b hb => ?_ }
    rw [Store.fundBuilding_modify]
    exacts [hb, fun _ => rfl]
  | createChargeSeries buildingId name => exact { hkeep with }
  | createChargeBatch params hperiod hunits =>
    exact { hkeep with
      item := fun id i hi => ⟨i, Table.find?_createMany_of_find? hi, rfl⟩
      batch := fun id b hb => ⟨b, Table.find?_create_of_find? (h := fun _ => rfl) hb, rfl⟩ }
  | issueChargeBatch params _ batch plan heffect =>
    rw [heffect.store_eq]
    exact { hkeep with
      item := fun id i hi => Store.exists_find?_settle hi
      batch := fun id b hb => Store.exists_find?_setBatchStatus hb }
  | cancelChargeBatch params _ batch heffect =>
    rw [heffect.store_eq]
    exact { hkeep with batch := fun id b hb => Store.exists_find?_setBatchStatus hb }
  | createAdjustment params =>
    exact { hkeep with item := fun id i hi => Store.exists_find?_settle hi }
  | applyOpeningBalanceCorrection params hdelta =>
    exact { hkeep with item := fun id i hi => Store.exists_find?_settle hi }
  | createPayment params hfresh hceiling =>
    exact { hkeep with
      payment := fun id p hp => ⟨p, Table.find?_create_of_find? (h := fun _ => rfl) hp, rfl⟩ }
  | createExplicitPayment params _ fundId heffect =>
    rw [heffect.store_eq]
    exact { hkeep with
      payment := fun id p hp => ⟨p, Table.find?_create_of_find? (h := fun _ => rfl) hp, rfl⟩ }
  | approvePayment params _ payment l heffect =>
    rw [heffect.store_eq]
    exact { hkeep with
      fund := fun id b hb => (Store.fundBuilding_moveBalance s params.fundId params.amount id).trans hb
      payment := fun id p hp => Table.exists_find?_modify (h := fun _ => rfl) (f := params.approve now)
        (fun _ => rfl) hp
      item := fun id i hi => Store.exists_find?_settle hi }
  | rejectPayment paymentId reason payment hfind hpending =>
    exact { hkeep with
      payment := fun id p hp => Table.exists_find?_modify (h := fun _ => rfl)
        (f := Payment.reject reason) (fun _ => rfl) hp }
  | reversePayment params _ payment heffect =>
    rw [heffect.store_eq]
    exact { hkeep with
      fund := fun id b hb => (Store.fundBuilding_moveBalance s params.fundId (-params.amount) id).trans hb
      payment := fun id p hp => Table.exists_find?_modify (h := fun _ => rfl) (f := Payment.reverse now)
        (fun _ => rfl) hp
      item := fun id i hi => Store.exists_find?_settle hi }
  | createExpense params fund hfind hle =>
    exact { hkeep with
      fund := fun id b hb => (Store.fundBuilding_moveBalance s params.fundId (-params.amount) id).trans hb
      expense := fun id e he => ⟨e, Table.find?_create_of_find? (h := fun _ => rfl) he, rfl⟩ }
  | voidExpense params expense hfind hposted =>
    exact { hkeep with
      fund := fun id b hb => (Store.fundBuilding_moveBalance s params.fundId params.amount id).trans hb
      expense := fun id e he => Table.exists_find?_modify (h := fun _ => rfl) (f := params.void now)
        (fun _ => rfl) he }

end VielHome.Finance
