import VielHome.Finance.Effect.Approval

/-!
# What adjustments and expenses do

A negative adjustment settles outstanding charge items of the unit; a downward
opening-balance correction settles the unit's earlier corrections and banks the rest as
credit. Both also add their own row, which settles nothing and is not settled itself.
-/

namespace VielHome.Finance

open Relational

/-! ### Adjustments -/

/-- The row `createAdjustment` adds. -/
def CreateAdjustmentParams.row (params : CreateAdjustmentParams) (now : Time) (id : ℕ) :
    Adjustment :=
  { id, unitId := params.unitId, buildingId := params.buildingId, fundId := params.fundId,
    amount := params.amount, reason := params.reason, createdById := params.createdById,
    sourceType := params.sourceType, sourceId := params.sourceId, createdAt := now }

/-- The row `applyOpeningBalanceCorrection` adds for a difference of `delta`. -/
def ApplyOpeningBalanceCorrectionParams.row (params : ApplyOpeningBalanceCorrectionParams)
    (now : Time) (delta : ℤ) (id : ℕ) : Adjustment :=
  { id, unitId := params.unitId, buildingId := params.buildingId, fundId := params.fundId,
    amount := delta, reason := params.reason, createdById := params.createdById,
    sourceType := some .openingBalanceCorrection, createdAt := now }

/-- The `ADJUSTMENT` entry of an adjustment. -/
def Adjustment.entry (adjustment : Adjustment) (now : Time) (id : ℕ) : LedgerEntry :=
  { id, buildingId := adjustment.buildingId, fundId := adjustment.fundId,
    entryType := .adjustment, direction := if adjustment.amount < 0 then .credit else .debit,
    amount := |adjustment.amount|, referenceType := .adjustment, referenceId := adjustment.id,
    createdAt := now }

namespace Store

/-- What an adjustment of the given amount settles: a waiver pays charge items by due date. -/
def waiverSettlement (s : Store) (unitId : ℕ) (amount : ℤ) : Settlement :=
  if amount < 0 then
    itemSettlement
      (waterfall ChargeItem.outstanding (s.outstandingItemsByDueDate unitId) |amount|)
  else []

/-- What a correction by `delta` settles: a downward one pays earlier corrections by age. -/
def correctionSettlement (s : Store) (unitId : ℕ) (delta : ℤ) : Settlement :=
  if delta < 0 then
    adjustmentSettlement
      (waterfall Adjustment.outstanding (s.priorCorrections unitId s.adjustments.next) |delta|)
  else []

/-- The store after an adjustment. -/
def adjusted (s : Store) (params : CreateAdjustmentParams) (now : Time) : Store :=
  { s.settle (s.waiverSettlement params.unitId params.amount) with
    adjustments := s.adjustments.create (params.row now)
    ledger := s.ledger.create ((params.row now s.adjustments.next).entry now) }

/-- The store after an opening-balance correction by `delta`. -/
def corrected (s : Store) (params : ApplyOpeningBalanceCorrectionParams) (now : Time)
    (delta : ℤ) : Store :=
  let l := s.correctionSettlement params.unitId delta
  { s.settle l with
    adjustments := (s.settle l).adjustments.create (params.row now delta)
    creditBalances :=
      if delta < 0 ∧ 0 < |delta| - l.total then
        (s.upsertCredit params.unitId params.buildingId (|delta| - l.total)).creditBalances
      else s.creditBalances
    ledger := s.ledger.create ((params.row now delta s.adjustments.next).entry now) }

variable {s : Store}

/-- A loop that writes waivers to charge items. -/
theorem run_waiverLoop (hs : s.StatusOk) {rows : List ChargeItem}
    (hrows : ∀ i ∈ rows, i ∈ s.chargeItems) (hnodup : (rows.map ChargeItem.id).Nodup)
    (amount : ℤ) :
    (oldestFirst ChargeItem.outstanding
      (fun item applied => Tx.write fun s => s.setItemPaid item (item.paidAmount + applied))
      rows amount : Tx Store Failure ℤ).run s =
      .ok (amount - poured ChargeItem.outstanding rows amount,
        s.settle (itemSettlement (waterfall ChargeItem.outstanding rows amount))) := by
  have hsplit : ∀ (plan : List (ChargeItem × ℤ)) (s : Store),
      plan.foldl (fun s e => s.setItemPaid e.1 (e.1.paidAmount + e.2)) s =
        { s with chargeItems := plan.foldl (fun t e =>
            t.modify e.1.id (e.1.setPaid (e.1.paidAmount + e.2)) fun _ => rfl) s.chargeItems } := by
    intro plan
    induction plan with
    | nil => exact fun _ => rfl
    | cons e plan ih => exact fun s => ih (s.setItemPaid e.1 (e.1.paidAmount + e.2))
  set plan := waterfall ChargeItem.outstanding rows amount with hplan
  rw [oldestFirst_eq, Tx.run_bind_of_ok (Tx.run_forM_eq (fun e s => by rfl) _ s), hsplit,
    foldl_chargeItems hs (fun e he => Table.find?_of_mem (hrows _ (fst_mem_of_mem_waterfall he)))
      (nodup_waterfall ChargeItem.outstanding hnodup amount), ← hplan,
    Tx.run_pure, ← settle_itemSettlement_adjustments s plan]
  rfl

/-- A loop that writes corrections back to earlier adjustments. -/
theorem run_correctionLoop (hs : s.StatusOk) {rows : List Adjustment}
    (hrows : ∀ a ∈ rows, a ∈ s.adjustments) (hnodup : (rows.map Adjustment.id).Nodup)
    (amount : ℤ) :
    (oldestFirst Adjustment.outstanding
      (fun row applied => Tx.write fun s => s.setAdjustmentPaid row (row.paidAmount + applied))
      rows amount : Tx Store Failure ℤ).run s =
      .ok (amount - poured Adjustment.outstanding rows amount,
        s.settle (adjustmentSettlement (waterfall Adjustment.outstanding rows amount))) := by
  have hsplit : ∀ (plan : List (Adjustment × ℤ)) (s : Store),
      plan.foldl (fun s e => s.setAdjustmentPaid e.1 (e.1.paidAmount + e.2)) s =
        { s with adjustments := plan.foldl (fun t e =>
            t.modify e.1.id (Adjustment.setPaid (e.1.paidAmount + e.2)) fun _ => rfl) s.adjustments } := by
    intro plan
    induction plan with
    | nil => exact fun _ => rfl
    | cons e plan ih => exact fun s => ih (s.setAdjustmentPaid e.1 (e.1.paidAmount + e.2))
  set plan := waterfall Adjustment.outstanding rows amount with hplan
  rw [oldestFirst_eq, Tx.run_bind_of_ok (Tx.run_forM_eq (fun e s => by rfl) _ s), hsplit,
    foldl_adjustments (fun e he => Table.find?_of_mem (hrows _ (fst_mem_of_mem_waterfall he)))
      (nodup_waterfall Adjustment.outstanding hnodup amount), ← hplan,
    Tx.run_pure, ← settle_adjustmentSettlement_chargeItems hs plan]
  rfl

theorem mem_priorCorrections {unitId id : ℕ} {a : Adjustment} :
    a ∈ s.priorCorrections unitId id ↔
      a ∈ s.adjustments ∧ a.unitId = unitId ∧ a.sourceType = some .openingBalanceCorrection ∧
        0 < a.amount ∧ a.id ≠ id := by
  simp [priorCorrections, openingBalanceCorrections, Table.mem_rows, List.mem_insertionSort]
  tauto

theorem nodup_priorCorrections {unitId id : ℕ} :
    ((s.priorCorrections unitId id).map Adjustment.id).Nodup := by
  have hsub : (((s.openingBalanceCorrections unitId).filter fun a =>
      0 < a.amount ∧ a.id ≠ id).map Adjustment.id).Sublist (s.adjustments.rows.map Adjustment.id) :=
    (List.filter_sublist.trans List.filter_sublist).map Adjustment.id
  exact ((List.perm_insertionSort _ _).map Adjustment.id).nodup_iff.mpr (hsub.nodup s.adjustments.nodup)

theorem due_waiverSettlement (s : Store) (unitId : ℕ) (amount : ℤ) :
    (s.waiverSettlement unitId amount).Due s unitId := by
  rw [waiverSettlement]
  split
  · refine due_itemSettlement (fun i hi => ?_) nodup_outstandingItemsByDueDate
    obtain ⟨hmem, hunit, -, hbilled⟩ :=
      mem_outstandingItems.mp (mem_outstandingItemsByDueDate.mp hi)
    exact ⟨hmem, hunit, hbilled⟩
  · exact ⟨by simp, by simp, by simp, by simp⟩

theorem due_correctionSettlement (s : Store) (unitId : ℕ) (delta : ℤ) :
    (s.correctionSettlement unitId delta).Due s unitId := by
  rw [correctionSettlement]
  split
  · refine due_adjustmentSettlement (fun a ha => ?_) nodup_priorCorrections
    obtain ⟨hmem, hunit, -⟩ := mem_priorCorrections.mp ha
    exact ⟨hmem, hunit⟩
  · exact ⟨by simp, by simp, by simp, by simp⟩

end Store

/-- The statements of an adjustment without a taken source always succeed. -/
private theorem run_insertAdjustment {s : Store} (hs : s.StatusOk) {params : CreateAdjustmentParams}
    {now : Time} (hsource : ¬ s.hasAdjustmentSource params.sourceType params.sourceId) :
    (insertAdjustment params now).run s =
      .ok (params.row now s.adjustments.next, s.adjusted params now) := by
  rw [insertAdjustment, Tx.run_query_bind, Tx.run_bind_of_ok (Tx.run_require_ok (w := ⟨⟩).mpr ⟨hsource, rfl⟩),
    Tx.run_query_bind, Tx.run_write_bind]
  set s₁ : Store :=
    { s with adjustments := s.adjustments.create (params.row now) fun _ => rfl } with hs₁
  have hs₁ok : s₁.StatusOk := hs
  split
  case isTrue hneg =>
    change ((do
      let outstandingItems ← Tx.query fun s : Store => s.outstandingItemsByDueDate params.unitId
      let _ ← oldestFirst ChargeItem.outstanding
        (fun item applied => Tx.write fun s => s.setItemPaid item (item.paidAmount + applied))
        outstandingItems |params.amount|
      postAdjustment (params.row now s.adjustments.next) now
      pure (params.row now s.adjustments.next) : Tx Store Failure Adjustment)).run s₁ = _
    rw [Tx.run_query_bind, Tx.run_bind_of_ok (Store.run_waiverLoop hs₁ok
      (fun i hi => (Store.mem_outstandingItems.mp (Store.mem_outstandingItemsByDueDate.mp hi)).1)
      Store.nodup_outstandingItemsByDueDate |params.amount|), postAdjustment, Tx.run_write_bind,
      Tx.run_pure, Store.adjusted, Store.waiverSettlement, if_pos hneg]
    set plan := waterfall ChargeItem.outstanding (s.outstandingItemsByDueDate params.unitId)
      |params.amount|
    -- the new row is no charge item, so the loop leaves it alone
    have hadj : (s₁.settle (itemSettlement plan)).adjustments = s₁.adjustments :=
      Store.settle_itemSettlement_adjustments s₁ plan
    refine congrArg (fun s' => Except.ok (params.row now s.adjustments.next, s')) ?_
    calc _ = ({ s.settle (itemSettlement plan) with
            adjustments := (s₁.settle (itemSettlement plan)).adjustments
            ledger := s.ledger.create ((params.row now s.adjustments.next).entry now)
              fun _ => rfl } : Store) := rfl
      _ = _ := by rw [hadj]
  case isFalse hneg =>
    have hadjusted : s.adjusted params now =
        s₁.postEntry ((params.row now s.adjustments.next).entry now) := by
      rw [Store.adjusted, Store.waiverSettlement, if_neg hneg, Store.settle_nil hs]
      rfl
    rw [hadjusted]
    rfl

private theorem insertAdjustment_ok {s s' : Store} (hs : s.StatusOk)
    {params : CreateAdjustmentParams} {now : Time} {a : Adjustment}
    (h : (insertAdjustment params now).run s = .ok (a, s')) :
    ¬ s.hasAdjustmentSource params.sourceType params.sourceId ∧
      a = params.row now s.adjustments.next ∧ s' = s.adjusted params now := by
  have hsource : ¬ s.hasAdjustmentSource params.sourceType params.sourceId := by
    simp only [insertAdjustment, Tx.run_query_bind, Tx.run_require_bind_ok] at h
    exact h.1
  rw [run_insertAdjustment hs hsource, Except.ok.injEq, Prod.mk.injEq] at h
  exact ⟨hsource, h.1.symm, h.2.symm⟩

/-- An adjustment is committed exactly when its source is not taken and, for a late fee, is a billed
item of the unit; it settles its waiver and adds its row. -/
theorem createAdjustment_ok_iff {s s' : Store} (hs : s.StatusOk) {params : CreateAdjustmentParams}
    {now : Time} {a : Adjustment} :
    (createAdjustment params now).run s = .ok (a, s') ↔
      (¬ s.hasAdjustmentSource params.sourceType params.sourceId ∧
        ∀ id, params.sourceType = some .lateFee → params.sourceId = some id →
          s.isLateFeeSource params.unitId id) ∧
        a = params.row now s.adjustments.next ∧ s' = s.adjusted params now := by
  have hinsert : (insertAdjustment params now).run s = .ok (a, s') ↔
      ¬ s.hasAdjustmentSource params.sourceType params.sourceId ∧
        a = params.row now s.adjustments.next ∧ s' = s.adjusted params now := by
    refine ⟨insertAdjustment_ok hs, ?_⟩
    rintro ⟨hsource, rfl, rfl⟩
    exact run_insertAdjustment hs hsource
  rw [createAdjustment]
  split
  · rename_i id htype hid
    rw [Tx.run_query_bind, Tx.run_require_bind_ok, hinsert]
    simp only [htype, hid, Option.some.injEq, forall_const, forall_eq']
    tauto
  · rename_i hnone
    change (insertAdjustment params now).run s = _ ↔ _
    rw [hinsert]
    have hvacuous : ∀ id, params.sourceType = some .lateFee → params.sourceId = some id →
        s.isLateFeeSource params.unitId id := fun id htype hid => absurd hid (hnone id htype)
    tauto

/-! ### Opening-balance corrections -/

private theorem run_postAdjustment_ok {s s' : Store} {a : Adjustment} {now : Time} {β : Type}
    {b r : β}
    (h : ((do postAdjustment a now; pure b : Tx Store Failure β)).run s = .ok (r, s')) :
    s' = s.postEntry (a.entry now) := by
  rw [postAdjustment, Tx.run_write_bind, Tx.run_pure_ok] at h
  exact h.2

/-- The row that a correction has just added is not among the earlier ones. -/
private theorem priorCorrections_create {s : Store} {mk : ℕ → Adjustment}
    (hmk : ∀ id, (mk id).id = id) (unitId : ℕ) :
    ({ s with adjustments := s.adjustments.create mk hmk } : Store).priorCorrections unitId
      s.adjustments.next = s.priorCorrections unitId s.adjustments.next := by
  have hrows : (s.adjustments.create mk hmk).rows =
      s.adjustments.rows ++ [mk s.adjustments.next] := rfl
  have hnew : ([mk s.adjustments.next].filter fun a =>
      a.unitId = unitId ∧ a.sourceType = some .openingBalanceCorrection).filter
        (fun a => 0 < a.amount ∧ a.id ≠ s.adjustments.next) = [] := by
    rw [List.filter_eq_nil_iff]
    intro a ha
    obtain rfl : a = mk s.adjustments.next := by simpa using List.mem_of_mem_filter ha
    simp [hmk]
  simp only [Store.priorCorrections, Store.openingBalanceCorrections, hrows, List.filter_append,
    hnew, List.append_nil]

/-- A settlement of rows of the table leaves a row added after they were read alone. -/
private theorem settle_create_adjustments {s : Store} {mk : ℕ → Adjustment}
    (hmk : ∀ id, (mk id).id = id) {l : Settlement}
    (hl : ∀ e ∈ l, e.1 ≠ .adjustment s.adjustments.next) :
    (({ s with adjustments := s.adjustments.create mk hmk } : Store).settle l).adjustments =
      (s.settle l).adjustments.create mk hmk := by
  have hzero : share l (.adjustment s.adjustments.next) = 0 := share_of_forall_ne hl
  refine Table.ext ?_ rfl
  change ((s.adjustments.rows ++ [mk s.adjustments.next]).map _) = _
  rw [List.map_append, List.map_singleton, hmk, hzero, Adjustment.pay_zero]
  rfl

/-- A committed correction books the difference to the requested balance, which is not zero. -/
theorem applyOpeningBalanceCorrection_ok {s s' : Store} (hs : s.StatusOk)
    {params : ApplyOpeningBalanceCorrectionParams} {now : Time} {r : OpeningBalanceCorrection}
    (h : (applyOpeningBalanceCorrection params now).run s = .ok (r, s')) :
    params.targetBalance - s.openingBalanceCorrectionTotal params.unitId ≠ 0 ∧
      s' = s.corrected params now
        (params.targetBalance - s.openingBalanceCorrectionTotal params.unitId) := by
  simp only [applyOpeningBalanceCorrection, Tx.run_query_bind, Tx.run_require_bind_ok,
    Tx.run_write_bind] at h
  obtain ⟨hdelta, h⟩ := h
  refine ⟨hdelta, ?_⟩
  generalize params.targetBalance - s.openingBalanceCorrectionTotal params.unitId = delta at h hdelta ⊢
  set s₁ : Store :=
    { s with adjustments := s.adjustments.create (params.row now delta) fun _ => rfl } with hs₁
  have hs₁ok : s₁.StatusOk := hs
  split at h
  case isFalse hneg =>
    obtain rfl := run_postAdjustment_ok h
    have hcredit : ¬(delta < 0 ∧ 0 < |delta| - Settlement.total []) := fun hc => hneg hc.1
    rw [Store.corrected, Store.correctionSettlement, if_neg hneg, if_neg hcredit,
      Store.settle_nil hs]
    rfl
  case isTrue hneg =>
    -- the new row is not one of the earlier corrections that it settles
    have hread : s₁.priorCorrections params.unitId s.adjustments.next =
        s.priorCorrections params.unitId s.adjustments.next :=
      priorCorrections_create (fun _ => rfl) params.unitId
    have hmem : ∀ a ∈ s.priorCorrections params.unitId s.adjustments.next, a ∈ s₁.adjustments :=
      fun a ha => (Table.mem_create (h := fun _ => rfl)).mpr
        (Or.inl (Store.mem_priorCorrections.mp ha).1)
    have hloop := Store.run_correctionLoop hs₁ok hmem Store.nodup_priorCorrections |delta|
    rw [Tx.run_query_bind] at h
    change Tx.run (oldestFirst Adjustment.outstanding _
      (s₁.priorCorrections params.unitId s.adjustments.next) |delta| >>= _) s₁ = _ at h
    rw [hread, Tx.run_bind_of_ok hloop] at h
    set l := adjustmentSettlement (waterfall Adjustment.outstanding
      (s.priorCorrections params.unitId s.adjustments.next) |delta|) with hl
    have hcorrection : s.correctionSettlement params.unitId delta = l := by
      rw [Store.correctionSettlement, if_pos hneg]
    have htotal : |delta| - poured Adjustment.outstanding
        (s.priorCorrections params.unitId s.adjustments.next) |delta| = |delta| - l.total := by
      rw [hl, Store.total_adjustmentSettlement]
    have hadj : (s₁.settle l).adjustments =
        (s.settle l).adjustments.create (params.row now delta) (fun _ => rfl) := by
      refine settle_create_adjustments (fun _ => rfl) fun e he heq => ?_
      obtain ⟨e', he', rfl⟩ := List.mem_map.mp he
      have hid := (Store.mem_priorCorrections.mp (fst_mem_of_mem_waterfall he')).2.2.2.2
      exact hid (ObligationTarget.adjustment.inj heq)
    rw [htotal] at h
    rw [Store.corrected, hcorrection, ← hadj]
    split at h
    case isTrue hpos =>
      rw [Tx.run_write_bind] at h
      obtain rfl := run_postAdjustment_ok h
      rw [if_pos ⟨hneg, hpos⟩]
      rfl
    case isFalse hpos =>
      obtain rfl := run_postAdjustment_ok h
      rw [if_neg fun hc => hpos hc.2]
      rfl

/-! ### Expenses -/

/-- The row `createExpense` adds. -/
def CreateExpenseParams.row (params : CreateExpenseParams) (now : Time) (id : ℕ) : Expense :=
  { id, buildingId := params.buildingId, fundId := params.fundId, title := params.title,
    description := params.description, category := params.category, amount := params.amount,
    occurredAt := params.occurredAt, createdById := params.createdById,
    idempotencyKey := params.idempotencyKey, createdAt := now }

/-- The update of the expense row that voids it. -/
def VoidExpenseParams.void (params : VoidExpenseParams) (now : Time) (e : Expense) : Expense :=
  { e with
    status := .voided, voidedAt := some now, voidedById := some params.actorId,
    voidReason := some params.voidReason }

namespace Store

/-- The store after an expense. -/
def withExpense (s : Store) (params : CreateExpenseParams) (now : Time) : Store :=
  { s with
    expenses := s.expenses.create (params.row now)
    ledger := s.ledger.create fun id =>
      { id, buildingId := params.buildingId, fundId := params.fundId, entryType := .expense,
        direction := .debit, amount := params.amount, referenceType := .expense,
        referenceId := s.expenses.next, createdAt := now }
    funds := s.funds.modify params.fundId fun f =>
      { f with balance := f.balance + -params.amount } }

/-- The store after an expense was voided. -/
def withVoided (s : Store) (params : VoidExpenseParams) (now : Time) : Store :=
  { s with
    expenses := s.expenses.modify params.expenseId (params.void now)
    ledger := s.ledger.create fun id =>
      { id, buildingId := params.buildingId, fundId := params.fundId, entryType := .expense,
        direction := .credit, amount := params.amount, referenceType := .expense,
        referenceId := params.expenseId, createdAt := now }
    funds := s.funds.modify params.fundId fun f => { f with balance := f.balance + params.amount } }

end Store

/-- A committed expense was within the balance its transaction read. -/
theorem createExpense_ok {s s' : Store} {params : CreateExpenseParams} {now : Time} {e : Expense}
    (h : (createExpense params now).run s = .ok (e, s')) :
    (∃ fund, s.funds.find? params.fundId = some fund ∧ params.amount ≤ fund.balance) ∧
      s' = s.withExpense params now := by
  simp only [createExpense, Tx.run_query_bind, Tx.run_expect_bind_ok, Tx.run_require_bind_ok,
    Tx.run_write_bind] at h
  obtain ⟨fund, hfind, hle, -, h⟩ := h
  obtain ⟨w, s₁, hbalance, h⟩ := Tx.run_bind_ok.mp h
  rw [Tx.run_pure_ok] at h
  obtain ⟨-, rfl⟩ := h
  exact ⟨⟨fund, hfind, not_lt.mp hle⟩, (updateFundBalance_ok.mp hbalance).2⟩

/-- A committed void found the expense posted. -/
theorem voidExpense_ok {s s' : Store} {params : VoidExpenseParams} {now : Time} {e : Expense}
    (h : (voidExpense params now).run s = .ok (e, s')) :
    (∃ expense, s.expenses.find? params.expenseId = some expense ∧ expense.status = .posted) ∧
      (∃ fund, s.funds.find? params.fundId = some fund) ∧ s' = s.withVoided params now := by
  simp only [voidExpense, Tx.run_query_bind, Tx.run_expect_bind_ok, Tx.run_write_bind,
    Option.filter_eq_some_iff, decide_eq_true_eq] at h
  obtain ⟨expense, hfind, h⟩ := h
  obtain ⟨w, s₁, hbalance, h⟩ := Tx.run_bind_ok.mp h
  rw [Tx.run_pure_ok] at h
  obtain ⟨-, rfl⟩ := h
  obtain ⟨hfund, rfl⟩ := updateFundBalance_ok.mp hbalance
  exact ⟨⟨expense, hfind⟩, hfund, rfl⟩

end VielHome.Finance
