import VielHome.Finance.Invariant.Writes

/-!
# Funds, charges, adjustments and expenses keep the invariant

What is left after the single writes: creating a fund with its opening balance, and
creating a batch together with its items. The other transactions here are sequences of
single writes.
-/

namespace VielHome.Finance

open Relational

namespace Store

variable {s : Store}

/-! ### Funds -/

theorem fundBuilding_create {row : ℕ → Fund} {hid : ∀ id, (row id).id = id} {id b : ℕ}
    (h : s.fundBuilding id = some b) :
    ({ s with funds := s.funds.create row hid } : Store).fundBuilding id = some b := by
  obtain ⟨f, hf, hb⟩ := Option.map_eq_some_iff.mp h
  rw [fundBuilding, Table.find?_create_of_find? hf, Option.map_some, hb]

/-- No entry is on the statement of a fund that does not exist. -/
theorem Valid.statementTotal_next (h : s.Valid) : s.statementTotal s.funds.next = 0 := by
  refine Table.sum_eq_zero fun e he => if_neg ?_
  rintro ⟨hfund, -⟩
  have hbuilding := h.entry_fund e he
  rw [hfund, fundBuilding, Table.find?_of_next_le le_rfl] at hbuilding
  exact absurd hbuilding (by simp)

/-- Adding a fund without money. -/
theorem Valid.createFund (h : s.Valid) {row : ℕ → Fund} {hid : ∀ id, (row id).id = id}
    (hbalance : (row s.funds.next).balance = 0) :
    ({ s with funds := s.funds.create row hid } : Store).Valid :=
  { h.toReferencesOk.withFunds fun _ _ hb => fundBuilding_create hb, h with
    fund_balance := by
      intro f hf
      rcases (Table.mem_create (h := hid)).mp hf with hf | rfl
      · exact h.fund_balance f hf
      · rw [hbalance, hid]
        exact h.statementTotal_next.symm }

/-- Creating a fund, with the opening balance posted or without one. -/
theorem Valid.withFund (h : s.Valid) (params : CreateFundParams) (now : Time) :
    (s.withFund params now).Valid := by
  rw [Store.withFund]
  rcases (le_max_left 0 (params.initialBalance.getD 0)).eq_or_lt with hzero | hpos
  · rw [← hzero, if_neg (lt_irrefl 0)]
    exact h.createFund rfl
  · -- the empty fund, then the entry together with the balance
    have hmk : ∀ balance id, (params.row balance id).id = id := fun _ _ => rfl
    have hempty : ({ s with funds := s.funds.create (params.row 0) (hmk 0) } : Store).Valid :=
      h.createFund rfl
    have hposted := hempty.postMoved (fun id =>
      { id, buildingId := params.buildingId, fundId := s.funds.next, entryType := .openingBalance,
        direction := .credit, amount := max 0 (params.initialBalance.getD 0),
        referenceType := .fund, referenceId := s.funds.next, createdAt := now })
      (fun _ => rfl) rfl (by
        rw [fundBuilding, Table.find?_create, if_pos rfl]
        rfl)
    rw [if_pos hpos]
    have hfunds : (s.funds.create (params.row 0) (hmk 0)).modify s.funds.next (fun f =>
        { f with balance := f.balance + max 0 (params.initialBalance.getD 0) }) (fun _ => rfl) =
        s.funds.create (params.row (max 0 (params.initialBalance.getD 0))) (hmk _) := by
      rw [Table.modify_create_next]
      refine Table.ext ?_ rfl
      simp [Table.create, CreateFundParams.row]
    rw [← hfunds]
    exact hposted

/-! ### Charges -/

/-- A batch that no item refers to yet has the next id. -/
theorem ItemsOk.chargeBatchId_lt (h : s.ItemsOk) {i : ChargeItem} (hi : i ∈ s.chargeItems) :
    i.chargeBatchId < s.chargeBatches.next := by
  obtain ⟨b, hb, -⟩ := h.item_batch i hi
  have hb' : s.chargeBatches.find? i.chargeBatchId = some b := hb
  rw [← Table.key_of_find? hb']
  exact s.chargeBatches.lt_next b (Table.mem_of_find? hb')

/-- An obligation that is active has an id that is in use. -/
theorem lt_next_of_isActive {unitId id : ℕ} (h : s.IsActive unitId (.chargeItem id)) :
    id < s.chargeItems.next := by
  obtain ⟨i, hi, -⟩ := h
  rw [← Table.key_of_find? hi]
  exact s.chargeItems.lt_next i (Table.mem_of_find? hi)

theorem mem_withBatch_chargeItems {params : CreateChargeBatchParams} {now : Time} {i : ChargeItem}
    (hi : i ∈ (s.withBatch params now).chargeItems) :
    i ∈ s.chargeItems ∨ ∃ x ∈ params.items, ∃ n, s.chargeItems.next ≤ n ∧
      i = x.row s.chargeBatches.next now n :=
  Table.mem_createMany hi

theorem mem_withBatch_chargeBatches {params : CreateChargeBatchParams} {now : Time}
    {b : ChargeBatch} : b ∈ (s.withBatch params now).chargeBatches ↔
      b ∈ s.chargeBatches ∨ b = params.row now s.chargeBatches.next := by
  rw [withBatch, Table.mem_create]

/-- Creating a batch does not touch the batch of an older item. -/
theorem batchOf_withBatch {params : CreateChargeBatchParams} {now : Time} {i : ChargeItem}
    {b : ChargeBatch} (h : s.batchOf i = some b) : (s.withBatch params now).batchOf i = some b := by
  have h' : s.chargeBatches.find? i.chargeBatchId = some b := h
  exact Table.find?_create_of_find? (h := fun _ => rfl) h'

theorem isBilled_withBatch (h : s.ItemsOk) {params : CreateChargeBatchParams} {now : Time}
    {i : ChargeItem} (hi : i ∈ s.chargeItems) :
    (s.withBatch params now).isBilled i = s.isBilled i := by
  obtain ⟨b, hb, -⟩ := h.item_batch i hi
  rw [isBilled, isBilled, batchOf_withBatch hb, hb]

theorem isActive_withBatch (h : s.ItemsOk) {params : CreateChargeBatchParams} {now : Time}
    {unitId : ℕ} {target : ObligationTarget} (hactive : s.IsActive unitId target) :
    (s.withBatch params now).IsActive unitId target := by
  cases target with
  | adjustment id => exact hactive
  | chargeItem id =>
    obtain ⟨i, hi, hunit, hbilled⟩ := hactive
    refine ⟨i, Table.find?_createMany_of_find? hi, hunit, ?_⟩
    rw [isBilled_withBatch h (Table.mem_of_find? hi), hbilled]

/-- The new batch has the total of its items, and the period of no older one. -/
theorem Valid.batchesOk_withBatch (h : s.Valid) {params : CreateChargeBatchParams} {now : Time}
    (hmonthly : params.kind = some .monthly → params.seriesId.isSome ∧ params.periodStart.isSome)
    (hperiod : ¬(params.kind = some .monthly ∧
      s.hasMonthlyPeriod params.seriesId params.periodStart)) :
    (s.withBatch params now).BatchesOk where
  batch_total := by
    intro b hb
    have hsum : ((s.withBatch params now).chargeItems.sum fun i =>
        if i.chargeBatchId = b.id then i.amount else 0) =
        (s.chargeItems.sum fun i => if i.chargeBatchId = b.id then i.amount else 0) +
          (params.items.map fun x =>
            if s.chargeBatches.next = b.id then x.amount else 0).sum :=
      Table.sum_createMany _ _ _ _ _ _ fun _ _ => rfl
    rw [hsum]
    rcases mem_withBatch_chargeBatches.mp hb with hb | rfl
    · have hne : s.chargeBatches.next ≠ b.id := (s.chargeBatches.lt_next b hb).ne'
      simp [hne, ← h.batch_total b hb]
    · have hzero : (s.chargeItems.sum fun i => if i.chargeBatchId =
          (params.row now s.chargeBatches.next).id then i.amount else 0) = 0 :=
        Table.sum_eq_zero fun i hi => if_neg (h.chargeBatchId_lt hi).ne
      rw [hzero, zero_add]
      simp [CreateChargeBatchParams.row]
  batch_monthly := by
    intro b hb
    rcases mem_withBatch_chargeBatches.mp hb with hb | rfl
    · exact h.batch_monthly b hb
    · exact hmonthly
  batch_period := by
    -- no older monthly batch has the series and the period of the new one
    have hfresh : params.kind = some .monthly → ∀ b ∈ s.chargeBatches, b.kind = some .monthly →
        b.seriesId = params.seriesId → b.periodStart ≠ params.periodStart := by
      intro hkind b hb hbkind hseries hstart
      refine hperiod ⟨hkind, ?_⟩
      rw [hasMonthlyPeriod, List.any_eq_true]
      exact ⟨b, hb, by simp [hbkind, hseries, hstart]⟩
    intro b hb b' hb' hkind hkind' hseries hstart
    rcases mem_withBatch_chargeBatches.mp hb with hb | rfl <;>
      rcases mem_withBatch_chargeBatches.mp hb' with hb' | rfl
    · exact h.batch_period b hb b' hb' hkind hkind' hseries hstart
    · exact absurd hstart (hfresh hkind' b hb hkind hseries)
    · exact absurd hstart.symm (hfresh hkind b' hb' hkind' hseries.symm)
    · rfl

/-- The new items are in the new batch, and nothing of them is paid. -/
theorem Valid.itemsOk_withBatch (h : s.Valid) {params : CreateChargeBatchParams} {now : Time}
    (hamounts : ∀ x ∈ params.items, 0 ≤ x.amount) : (s.withBatch params now).ItemsOk where
  item_batch := by
    intro i hi
    rcases mem_withBatch_chargeItems hi with hi | ⟨x, -, n, -, rfl⟩
    · obtain ⟨b, hb, hcreated⟩ := h.item_batch i hi
      exact ⟨b, batchOf_withBatch hb, hcreated⟩
    · refine ⟨params.row now s.chargeBatches.next, ?_, rfl⟩
      have hmk : ∀ id, (params.row now id).id = id := fun _ => rfl
      change (s.chargeBatches.create (params.row now) hmk).find? s.chargeBatches.next = _
      rw [Table.find?_create, if_pos rfl]
  item_status := by
    intro i hi
    rcases mem_withBatch_chargeItems hi with hi | ⟨x, -, n, -, rfl⟩
    · exact h.item_status i hi
    · exact (if_pos le_rfl).symm
  item_paid := by
    intro i hi
    rcases mem_withBatch_chargeItems hi with hi | ⟨x, hx, n, -, rfl⟩
    · exact h.item_paid i hi
    · exact ⟨le_rfl, hamounts x hx⟩
  item_unbilled := by
    intro i hi hbilled
    rcases mem_withBatch_chargeItems hi with hi | ⟨x, -, n, -, rfl⟩
    · rw [isBilled_withBatch h.toItemsOk hi] at hbilled
      exact h.item_unbilled i hi hbilled
    · rfl

/-- Nothing was allocated to the new items, and nothing else is paid or owed. -/
theorem Valid.coverOk_withBatch (h : s.Valid) {params : CreateChargeBatchParams} {now : Time} :
    (s.withBatch params now).CoverOk :=
  { h.toCoverOk with
    cover_item := by
      intro i hi
      rcases mem_withBatch_chargeItems hi with hi | ⟨x, -, n, hn, rfl⟩
      · exact h.cover_item i hi
      · -- nothing was allocated to a row that did not exist
        refine (Table.sum_eq_zero fun a ha => if_neg ?_).le
        rintro ⟨htarget, happroved⟩
        obtain ⟨unitId, hactive⟩ := h.isActive_of_allocation ha happroved
        rw [htarget] at hactive
        exact absurd (lt_next_of_isActive hactive) (not_lt.mpr hn)
    cover_settled := by
      intro d hd happroved hkept
      rw [← h.cover_settled d hd happroved hkept]
      obtain ⟨unitId, hactive⟩ := h.isActive_of_selection hd happroved
      cases htarget : d.target with
      | adjustment id => rfl
      | chargeItem id =>
        rw [htarget] at hactive
        obtain ⟨i, hi, -⟩ := hactive
        have hi' : (s.withBatch params now).chargeItems.find? id = some i :=
          Table.find?_createMany_of_find? hi
        rw [outstandingOf, outstandingOf, hi, hi'] }

/-- Creating a draft batch with its items. -/
theorem Valid.withBatch (h : s.Valid) {params : CreateChargeBatchParams} {now : Time}
    (hok : Call.Ok s (.createChargeBatch params))
    (hperiod : ¬(params.kind = some .monthly ∧
      s.hasMonthlyPeriod params.seriesId params.periodStart))
    (hunits : ∀ i ∈ params.items, (s.units.find? i.unitId).isSome) :
    (s.withBatch params now).Valid := by
  obtain ⟨hfund, hamounts, hmonthly, -⟩ := hok
  exact
    { h.batchesOk_withBatch hmonthly hperiod, h.itemsOk_withBatch hamounts, h.coverOk_withBatch,
      h with
      batch_fund := by
        intro b hb
        rcases mem_withBatch_chargeBatches.mp hb with hb | rfl
        · exact h.batch_fund b hb
        · exact hfund
      item_unit := by
        intro i hi
        rcases mem_withBatch_chargeItems hi with hi | ⟨x, hx, n, -, rfl⟩
        · exact h.item_unit i hi
        · have hunit := hunits x hx
          change ((s.units.find? x.unitId).map BuildingUnit.buildingId).isSome
          rwa [Option.isSome_map]
      allocation_active := fun a ha p hp happroved =>
        isActive_withBatch h.toItemsOk (h.allocation_active a ha p hp happroved) }

/-- Cancelling a batch of which nothing is paid. -/
theorem Valid.cancelled (h : s.Valid) {s' : Store} {params : CancelChargeBatchParams}
    {batch : ChargeBatch} (heffect : CancellationEffect params s s' batch) : s'.Valid := by
  rw [heffect.store_eq]
  refine h.setBatchStatus _ fun _ i hi hbatch => ?_
  have hle := heffect.unpaid i (mem_itemsOfBatch.mpr ⟨hi, hbatch⟩)
  exact le_antisymm hle (h.item_paid i hi).1

/-- What an issue pays from credit is within the bounds of the items. -/
theorem admissible_creditPlan (h : s.Valid) {chargeBatchId : ℕ} {plan : List (ChargeItem × ℤ)}
    (hplan : CreditPlan s (s.itemsOfBatch chargeBatchId) plan) :
    (s.setBatchStatus chargeBatchId .issued).Admissible (itemSettlement plan) where
  item := by
    intro i hi
    obtain ⟨hnonneg, hle⟩ := h.item_paid i hi
    have hshare : share (itemSettlement plan) (.chargeItem i.id) ≤ i.outstanding := by
      refine share_le ?_ (sub_nonneg.mpr hle) fun e he heq => ?_
      · have hnodup : (plan.map fun e => e.1.id).Nodup := by
          have hsub := (hplan.sublist.trans List.filter_sublist).map ChargeItem.id
          rw [List.map_map] at hsub
          exact hsub.nodup s.chargeItems.nodup
        have := hnodup.map (f := ObligationTarget.chargeItem) fun _ _ h =>
          ObligationTarget.chargeItem.inj h
        simpa [itemSettlement, Function.comp_def] using this
      · obtain ⟨e', he', rfl⟩ := List.mem_map.mp he
        have hmem := (mem_itemsOfBatch.mp (hplan.sublist.subset (List.mem_map_of_mem he'))).1
        obtain rfl := Table.eq_of_key_eq hmem hi (ObligationTarget.chargeItem.inj heq)
        exact (hplan.bounds e' he').2
    have := share_nonneg (fun e he => ?_) (l := itemSettlement plan) (.chargeItem i.id)
    · rw [ChargeItem.outstanding] at hshare
      constructor <;> omega
    · obtain ⟨e', he', rfl⟩ := List.mem_map.mp he
      exact (hplan.bounds e' he').1.le
  unbilled := by
    intro i hi hbilled
    refine share_of_forall_ne fun e he heq => ?_
    obtain ⟨e', he', rfl⟩ := List.mem_map.mp he
    obtain ⟨hmem, hbatch⟩ := mem_itemsOfBatch.mp (hplan.sublist.subset (List.mem_map_of_mem he'))
    obtain rfl := Table.eq_of_key_eq hmem hi (ObligationTarget.chargeItem.inj heq)
    rw [isBilled_setBatchStatus (h.toItemsOk.batchOf_isSome hi), if_pos hbatch] at hbilled
    exact absurd hbilled (by decide)
  adjustment := by
    intro a ha
    rw [share_itemSettlement_adjustment, add_zero]
    exact h.adjustment_paid a ha

theorem share_itemSettlement_nonneg {plan : List (ChargeItem × ℤ)} (h : ∀ e ∈ plan, 0 < e.2)
    (t : ObligationTarget) : 0 ≤ share (itemSettlement plan) t := by
  refine share_nonneg (fun e he => ?_) t
  obtain ⟨e', he', rfl⟩ := List.mem_map.mp he
  exact (h e' he').le

/-- Issuing a batch: the status, the items paid from credit, the credit, the entries. -/
theorem Valid.issued (h : s.Valid) {s' : Store} {params : IssueChargeBatchParams} {now : Time}
    {batch : ChargeBatch} {plan : List (ChargeItem × ℤ)}
    (heffect : IssueEffect params now s s' batch plan) : s'.Valid := by
  have hplan := heffect.plan_ok
  have hbatch : s.fundBuilding batch.fundId = some params.buildingId := by
    rw [← heffect.building]
    exact h.batch_fund batch (Table.mem_of_find? heffect.find)
  have hstatus : (s.setBatchStatus params.chargeBatchId .issued).Valid :=
    h.setBatchStatus _ fun hbilled => absurd hbilled (by decide)
  have hsettled := hstatus.settle (admissible_creditPlan h hplan)
    (share_itemSettlement_nonneg fun e he => (hplan.bounds e he).1)
  have hcredit := hsettled.mapCredit (fun c => c.spend (creditSpent plan c.unitId))
    (fun _ => rfl) (fun _ => rfl) (fun _ => rfl) fun c hc =>
      sub_nonneg.mpr (hplan.spent_le c hc (h.credit_nonneg c hc))
  have hentries := hcredit.postEntries plan (fun e id =>
    { id, buildingId := params.buildingId, fundId := batch.fundId, entryType := .creditApplied,
      direction := .credit, amount := e.2, referenceType := .chargeItem, referenceId := e.1.id,
      createdAt := now }) (fun _ _ => rfl) (fun _ _ _ => rfl) fun _ _ _ => hbatch
  rw [heffect.store_eq]
  exact hentries.postEntry _ _ rfl hbatch

/-! ### Adjustments -/

theorem share_nonneg_of_due {l : Settlement} {unitId : ℕ} (hl : l.Due s unitId)
    (t : ObligationTarget) : 0 ≤ share l t :=
  share_nonneg (fun e he => (hl.pos e he).le) t

/-- An adjustment: the waiver, the row, the entry. -/
theorem Valid.adjusted (h : s.Valid) {params : CreateAdjustmentParams}
    (hok : Call.Ok s (.createAdjustment params)) (now : Time) : (s.adjusted params now).Valid := by
  obtain ⟨hfund, hunit, -⟩ := hok
  have hdue := due_waiverSettlement s params.unitId params.amount
  have hsettled := h.settle (Admissible.of_due h.toItemsOk h.toAdjustmentsOk hdue)
    (share_nonneg_of_due hdue)
  have hadj : (s.settle (s.waiverSettlement params.unitId params.amount)).adjustments =
      s.adjustments := by
    rw [waiverSettlement]
    split
    · exact settle_itemSettlement_adjustments s _
    · rw [settle_nil h.item_status]
  have hrow := hsettled.createAdjustment (params.row now) (fun _ => rfl) rfl hfund hunit
  have hposted := hrow.postEntry ((params.row now s.adjustments.next).entry now)
    (fun _ => rfl) rfl hfund
  rw [Store.adjusted, ← hadj]
  exact hposted

/-- A correction: the earlier corrections, the row, the credit, the entry. -/
theorem Valid.corrected (h : s.Valid) {params : ApplyOpeningBalanceCorrectionParams}
    (hok : Call.Ok s (.applyOpeningBalanceCorrection params)) (now : Time) (delta : ℤ) :
    (s.corrected params now delta).Valid := by
  obtain ⟨hfund, hunit⟩ := hok
  have hunit' : (s.unitBuilding params.unitId).isSome := by rw [hunit]; rfl
  have hdue := due_correctionSettlement s params.unitId delta
  have hsettled := h.settle (Admissible.of_due h.toItemsOk h.toAdjustmentsOk hdue)
    (share_nonneg_of_due hdue)
  have hrow := hsettled.createAdjustment (params.row now delta) (fun _ => rfl) rfl
    hfund hunit'
  rw [Store.corrected]
  split
  case isTrue hspill =>
    have hcredit := hrow.upsertCredit hspill.2.le hunit
    exact hcredit.postEntry ((params.row now delta s.adjustments.next).entry now)
      (fun _ => rfl) rfl hfund
  case isFalse _ =>
    exact hrow.postEntry ((params.row now delta s.adjustments.next).entry now)
      (fun _ => rfl) rfl hfund

/-! ### Expenses -/

theorem Valid.withExpense (h : s.Valid) {params : CreateExpenseParams} (now : Time)
    (hfund : s.fundBuilding params.fundId = some params.buildingId) :
    (s.withExpense params now).Valid := by
  have hmk : ∀ id, (params.row now id).id = id := fun _ => rfl
  have hrow : ({ s with expenses := s.expenses.create (params.row now) hmk } : Store).Valid :=
    { h with
      expense_fund := by
        intro e he
        rcases (Table.mem_create (h := hmk)).mp he with he | rfl
        · exact h.expense_fund e he
        · exact hfund }
  exact hrow.postMoved (fun id =>
    { id, buildingId := params.buildingId, fundId := params.fundId, entryType := .expense,
      direction := .debit, amount := params.amount, referenceType := .expense,
      referenceId := s.expenses.next, createdAt := now }) (fun _ => rfl) rfl hfund

theorem Valid.withVoided (h : s.Valid) {params : VoidExpenseParams} (now : Time)
    (hfund : s.fundBuilding params.fundId = some params.buildingId) :
    (s.withVoided params now).Valid := by
  have hvoid : ∀ e, (params.void now e).id = e.id := fun _ => rfl
  have hrow : ({ s with
      expenses := s.expenses.modify params.expenseId (params.void now) hvoid } : Store).Valid :=
    { h with
      expense_fund := by
        intro e he
        obtain ⟨r, hr, rfl⟩ := (Table.mem_modify (h := hvoid)).mp he
        split <;> exact h.expense_fund r hr }
  exact hrow.postMoved (fun id =>
    { id, buildingId := params.buildingId, fundId := params.fundId, entryType := .expense,
      direction := .credit, amount := params.amount, referenceType := .expense,
      referenceId := params.expenseId, createdAt := now }) (fun _ => rfl) rfl hfund

end Store

end VielHome.Finance
