import VielHome.Finance.Settlement

/-!
# What an approval does

Both branches of `approvePayment` carry out one settlement of obligations of the payment's
unit, bank the rest of the amount as credit, and book the amount as cash. `approvePayment_ok`
says so once, with everything that later proofs need to know about the settlement.
-/

namespace VielHome.Finance

open Relational

/-! ### Settlements that are due -/

namespace Store

/-- The obligation is an active one of the unit: a billed charge item, or an adjustment. -/
def IsActive (s : Store) (unitId : ℕ) : ObligationTarget → Prop
  | .chargeItem id =>
    ∃ i, s.chargeItems.find? id = some i ∧ i.unitId = unitId ∧ s.isBilled i = true
  | .adjustment id => ∃ r, s.adjustments.find? id = some r ∧ r.unitId = unitId

/-- What is still to be paid on an obligation. -/
def outstandingOf (s : Store) : ObligationTarget → ℤ
  | .chargeItem id => ((s.chargeItems.find? id).map ChargeItem.outstanding).getD 0
  | .adjustment id => ((s.adjustments.find? id).map Adjustment.outstanding).getD 0

variable {s : Store}

/-- What is outstanding of an item. -/
theorem outstandingOf_chargeItem {i : ChargeItem} (hi : i ∈ s.chargeItems) :
    s.outstandingOf (.chargeItem i.id) = i.outstanding := by
  rw [outstandingOf, Table.find?_of_mem hi, Option.map_some, Option.getD_some]

/-- What is outstanding of an adjustment. -/
theorem outstandingOf_adjustment {a : Adjustment} (ha : a ∈ s.adjustments) :
    s.outstandingOf (.adjustment a.id) = a.outstanding := by
  rw [outstandingOf, Table.find?_of_mem ha, Option.map_some, Option.getD_some]

/-- Settling does not change what is an active obligation of which unit. -/
@[simp] theorem isActive_settle {l : Settlement} {unitId : ℕ} {target : ObligationTarget} :
    (s.settle l).IsActive unitId target ↔ s.IsActive unitId target := by
  cases target <;> simp [IsActive]

/-- Settling lowers what is outstanding on an obligation by its share. -/
theorem outstandingOf_settle {l : Settlement} {unitId : ℕ} {target : ObligationTarget}
    (h : s.IsActive unitId target) :
    (s.settle l).outstandingOf target = s.outstandingOf target - share l target := by
  cases target with
  | chargeItem id =>
    obtain ⟨i, hi, -⟩ := h
    obtain rfl := Table.key_of_find? hi
    simp [outstandingOf, hi, ChargeItem.outstanding, sub_sub]
  | adjustment id =>
    obtain ⟨r, hr, -⟩ := h
    obtain rfl := Table.key_of_find? hr
    simp [outstandingOf, hr, Adjustment.outstanding, sub_sub]

end Store

/-- The settlement pays different active obligations of the unit, each something and none
more than is outstanding. -/
structure Settlement.Due (l : Settlement) (s : Store) (unitId : ℕ) : Prop where
  nodup : (l.map Prod.fst).Nodup
  pos : ∀ e ∈ l, 0 < e.2
  isActive : ∀ e ∈ l, s.IsActive unitId e.1
  le : ∀ e ∈ l, e.2 ≤ s.outstandingOf e.1

/-- What the settlement pays in total. -/
def Settlement.total (l : Settlement) : ℤ := (l.map Prod.snd).sum

/-- The total of two settlements. -/
theorem Settlement.total_append (l l' : Settlement) :
    Settlement.total (l ++ l') = l.total + Settlement.total l' := by
  simp [total]

/-! ### The reads of the loops -/

namespace Store

variable {s : Store} {unitId : ℕ}

/-- The items of a unit that are billed and not paid. -/
theorem mem_outstandingItems {i : ChargeItem} :
    i ∈ s.outstandingItems unitId ↔
      i ∈ s.chargeItems ∧ i.unitId = unitId ∧ i.status ≠ .paid ∧ s.isBilled i := by
  simp [outstandingItems, Table.mem_rows]

/-- The adjustments of a unit that add to what it owes. -/
theorem mem_positiveAdjustments {a : Adjustment} :
    a ∈ s.positiveAdjustments unitId ↔ a ∈ s.adjustments ∧ a.unitId = unitId ∧ 0 < a.amount := by
  simp [positiveAdjustments, Table.mem_rows]

/-- Rows of a table in another order have different keys. -/
private theorem nodup_ids_of_perm_filter {ρ : Type} {key : ρ → ℕ} (t : Table ρ key) {p : ρ → Bool}
    {l : List ρ} (h : l.Perm (t.rows.filter p)) : (l.map key).Nodup :=
  (h.map key).nodup_iff.mpr ((List.filter_sublist.map key).nodup t.nodup)

/-- No item comes twice. -/
theorem nodup_outstandingItemsByDueDate :
    ((s.outstandingItemsByDueDate unitId).map ChargeItem.id).Nodup :=
  nodup_ids_of_perm_filter s.chargeItems (List.perm_insertionSort _ _)

/-- No adjustment comes twice. -/
theorem nodup_positiveAdjustmentsByAge :
    ((s.positiveAdjustmentsByAge unitId).map Adjustment.id).Nodup :=
  nodup_ids_of_perm_filter s.adjustments (List.perm_insertionSort _ _)

/-- The order changes nothing about which items there are. -/
theorem mem_outstandingItemsByDueDate {i : ChargeItem} :
    i ∈ s.outstandingItemsByDueDate unitId ↔ i ∈ s.outstandingItems unitId :=
  List.mem_insertionSort _

/-- Nor about which adjustments. -/
theorem mem_positiveAdjustmentsByAge {a : Adjustment} :
    a ∈ s.positiveAdjustmentsByAge unitId ↔ a ∈ s.positiveAdjustments unitId :=
  List.mem_insertionSort _

/-- The plan of a loop over charge items of the unit settles what is due. -/
theorem due_itemSettlement {rows : List ChargeItem} {amount : ℤ}
    (hrows : ∀ i ∈ rows, i ∈ s.chargeItems ∧ i.unitId = unitId ∧ s.isBilled i)
    (hnodup : (rows.map ChargeItem.id).Nodup) :
    (itemSettlement (waterfall ChargeItem.outstanding rows amount)).Due s unitId where
  nodup := by
    have h := (nodup_waterfall ChargeItem.outstanding hnodup amount).map
      (f := ObligationTarget.chargeItem) fun _ _ h => ObligationTarget.chargeItem.inj h
    simpa [itemSettlement, Function.comp_def] using h
  pos := by
    intro e he
    obtain ⟨e', he', rfl⟩ := List.mem_map.mp he
    exact (waterfall_bounds he').1
  isActive := by
    intro e he
    obtain ⟨e', he', rfl⟩ := List.mem_map.mp he
    obtain ⟨hmem, hunit, hbilled⟩ := hrows e'.1 (fst_mem_of_mem_waterfall he')
    exact ⟨e'.1, Table.find?_of_mem hmem, hunit, hbilled⟩
  le := by
    intro e he
    obtain ⟨e', he', rfl⟩ := List.mem_map.mp he
    rw [outstandingOf_chargeItem (hrows e'.1 (fst_mem_of_mem_waterfall he')).1]
    exact (waterfall_bounds he').2

/-- The plan of a loop over adjustments of the unit settles what is due. -/
theorem due_adjustmentSettlement {rows : List Adjustment} {amount : ℤ}
    (hrows : ∀ a ∈ rows, a ∈ s.adjustments ∧ a.unitId = unitId)
    (hnodup : (rows.map Adjustment.id).Nodup) :
    (adjustmentSettlement (waterfall Adjustment.outstanding rows amount)).Due s unitId where
  nodup := by
    have h := (nodup_waterfall Adjustment.outstanding hnodup amount).map
      (f := ObligationTarget.adjustment) fun _ _ h => ObligationTarget.adjustment.inj h
    simpa [adjustmentSettlement, Function.comp_def] using h
  pos := by
    intro e he
    obtain ⟨e', he', rfl⟩ := List.mem_map.mp he
    exact (waterfall_bounds he').1
  isActive := by
    intro e he
    obtain ⟨e', he', rfl⟩ := List.mem_map.mp he
    obtain ⟨hmem, hunit⟩ := hrows e'.1 (fst_mem_of_mem_waterfall he')
    exact ⟨e'.1, Table.find?_of_mem hmem, hunit⟩
  le := by
    intro e he
    obtain ⟨e', he', rfl⟩ := List.mem_map.mp he
    rw [outstandingOf_adjustment (hrows e'.1 (fst_mem_of_mem_waterfall he')).1]
    exact (waterfall_bounds he').2

/-- Settlements of charge items and of adjustments never meet. -/
theorem due_append {items : List (ChargeItem × ℤ)} {adjustments : List (Adjustment × ℤ)}
    (hi : (itemSettlement items).Due s unitId)
    (ha : (adjustmentSettlement adjustments).Due s unitId) :
    Settlement.Due (itemSettlement items ++ adjustmentSettlement adjustments) s unitId where
  nodup := by
    rw [List.map_append, List.nodup_append]
    refine ⟨hi.nodup, ha.nodup, ?_⟩
    rintro t ht u hu rfl
    obtain ⟨e, he, rfl⟩ := List.mem_map.mp ht
    obtain ⟨e', he', heq⟩ := List.mem_map.mp hu
    obtain ⟨i, -, rfl⟩ := List.mem_map.mp he
    obtain ⟨r, -, rfl⟩ := List.mem_map.mp he'
    exact absurd heq (by simp)
  pos := by
    intro e he
    rcases List.mem_append.mp he with he | he
    · exact hi.pos e he
    · exact ha.pos e he
  isActive := by
    intro e he
    rcases List.mem_append.mp he with he | he
    · exact hi.isActive e he
    · exact ha.isActive e he
  le := by
    intro e he
    rcases List.mem_append.mp he with he | he
    · exact hi.le e he
    · exact ha.le e he

end Store

/-! ### The automatic branch -/

/-- The allocation that records one entry of a settlement. -/
def allocationRow (paymentId : ℕ) (e : ObligationTarget × ℤ) (id : ℕ) : PaymentAllocation :=
  { id, paymentId, target := e.1, amount := e.2 }

/-- Settle a list and record it as allocations of a payment. -/
def Store.settleFor (s : Store) (paymentId : ℕ) (l : Settlement) : Store :=
  { s.settle l with allocations := s.allocations.createMany l (allocationRow paymentId) }

/-- Move the active selections of a payment to another state. -/
def setReservations (t : Table PaymentDebtSelection PaymentDebtSelection.id) (paymentId : ℕ)
    (state : PaymentDebtReservationState) : Table PaymentDebtSelection PaymentDebtSelection.id :=
  t.updateMany (fun d => d.paymentId = paymentId ∧ d.reservationState = .active)
    fun d => { d with reservationState := state }

/-- A reservation afterwards is one before, moved when it is of the payment. -/
theorem mem_setReservations {t : Table PaymentDebtSelection PaymentDebtSelection.id}
    {paymentId : ℕ} {state : PaymentDebtReservationState} {d : PaymentDebtSelection} :
    d ∈ setReservations t paymentId state ↔
      ∃ r ∈ t, (if r.paymentId = paymentId ∧ r.reservationState = .active then
        { r with reservationState := state } else r) = d := by
  rw [setReservations, Table.mem_updateMany]
  simp only [decide_eq_true_eq]

namespace Store

variable {s : Store}

/-- Afterwards every status is right. -/
theorem statusOk_settleFor (s : Store) (paymentId : ℕ) (l : Settlement) :
    (s.settleFor paymentId l).StatusOk := statusOk_settle s l

/-- The rounds of the loop over the items are one settlement. -/
private theorem foldl_itemRound (hs : s.StatusOk) (paymentId : ℕ) {plan : List (ChargeItem × ℤ)}
    (hread : ∀ e ∈ plan, s.chargeItems.find? e.1.id = some e.1)
    (hplan : (plan.map fun e => e.1.id).Nodup) :
    plan.foldl (fun s e =>
      (s.allocate paymentId (.chargeItem e.1.id) e.2).setItemPaid e.1 (e.1.paidAmount + e.2)) s =
      s.settleFor paymentId (itemSettlement plan) := by
  have hsplit : ∀ s : Store, plan.foldl (fun s e =>
      (s.allocate paymentId (.chargeItem e.1.id) e.2).setItemPaid e.1 (e.1.paidAmount + e.2)) s =
      { s with
        allocations := s.allocations.createMany (itemSettlement plan) (allocationRow paymentId)
          fun _ _ => rfl
        chargeItems := plan.foldl (fun t e =>
          t.modify e.1.id (e.1.setPaid (e.1.paidAmount + e.2)) fun _ => rfl) s.chargeItems } := by
    clear hread hplan
    induction plan with
    | nil => exact fun _ => rfl
    | cons e plan ih =>
      exact fun s => ih ((s.allocate paymentId (.chargeItem e.1.id) e.2).setItemPaid e.1
        (e.1.paidAmount + e.2))
  rw [hsplit, foldl_chargeItems hs hread hplan, settleFor, ← settle_itemSettlement_adjustments s plan]
  rfl

/-- So are those of the loop over the adjustments. -/
private theorem foldl_adjustmentRound (hs : s.StatusOk) (paymentId : ℕ)
    {plan : List (Adjustment × ℤ)} (hread : ∀ e ∈ plan, s.adjustments.find? e.1.id = some e.1)
    (hplan : (plan.map fun e => e.1.id).Nodup) :
    plan.foldl (fun s e =>
      (s.allocate paymentId (.adjustment e.1.id) e.2).setAdjustmentPaid e.1
        (e.1.paidAmount + e.2)) s = s.settleFor paymentId (adjustmentSettlement plan) := by
  have hsplit : ∀ s : Store, plan.foldl (fun s e =>
      (s.allocate paymentId (.adjustment e.1.id) e.2).setAdjustmentPaid e.1
        (e.1.paidAmount + e.2)) s =
      { s with
        allocations :=
          s.allocations.createMany (adjustmentSettlement plan) (allocationRow paymentId)
            fun _ _ => rfl
        adjustments := plan.foldl (fun t e =>
          t.modify e.1.id (Adjustment.setPaid (e.1.paidAmount + e.2)) fun _ => rfl) s.adjustments } := by
    clear hread hplan
    induction plan with
    | nil => exact fun _ => rfl
    | cons e plan ih =>
      exact fun s => ih ((s.allocate paymentId (.adjustment e.1.id) e.2).setAdjustmentPaid e.1
        (e.1.paidAmount + e.2))
  rw [hsplit, foldl_adjustments hread hplan, settleFor,
    ← settle_adjustmentSettlement_chargeItems hs plan]
  rfl

/-- The loop over charge items of an automatic approval. -/
theorem run_itemLoop (hs : s.StatusOk) (paymentId : ℕ) {rows : List ChargeItem}
    (hrows : ∀ i ∈ rows, i ∈ s.chargeItems) (hnodup : (rows.map ChargeItem.id).Nodup)
    (amount : ℤ) :
    (oldestFirst ChargeItem.outstanding
      (fun item applied => do
        Tx.write fun s => s.allocate paymentId (.chargeItem item.id) applied
        Tx.write fun s => s.setItemPaid item (item.paidAmount + applied))
      rows amount : Tx Store Failure ℤ).run s =
      .ok (amount - poured ChargeItem.outstanding rows amount,
        s.settleFor paymentId (itemSettlement (waterfall ChargeItem.outstanding rows amount))) := by
  rw [oldestFirst_eq, Tx.run_bind_of_ok (Tx.run_forM_eq (fun e s => by rfl) _ s),
    foldl_itemRound hs paymentId
      (fun e he => Table.find?_of_mem (hrows _ (fst_mem_of_mem_waterfall he)))
      (nodup_waterfall ChargeItem.outstanding hnodup amount)]
  rfl

/-- The loop over adjustments of an automatic approval. -/
theorem run_adjustmentLoop (hs : s.StatusOk) (paymentId : ℕ) {rows : List Adjustment}
    (hrows : ∀ a ∈ rows, a ∈ s.adjustments) (hnodup : (rows.map Adjustment.id).Nodup)
    (amount : ℤ) :
    (oldestFirst Adjustment.outstanding
      (fun adjustment applied => do
        Tx.write fun s => s.allocate paymentId (.adjustment adjustment.id) applied
        Tx.write fun s => s.setAdjustmentPaid adjustment (adjustment.paidAmount + applied))
      rows amount : Tx Store Failure ℤ).run s =
      .ok (amount - poured Adjustment.outstanding rows amount,
        s.settleFor paymentId
          (adjustmentSettlement (waterfall Adjustment.outstanding rows amount))) := by
  rw [oldestFirst_eq, Tx.run_bind_of_ok (Tx.run_forM_eq (fun e s => by rfl) _ s),
    foldl_adjustmentRound hs paymentId
      (fun e he => Table.find?_of_mem (hrows _ (fst_mem_of_mem_waterfall he)))
      (nodup_waterfall Adjustment.outstanding hnodup amount)]
  rfl

/-- What an automatic approval settles: charge items by due date, then adjustments by age. -/
def automaticSettlement (s : Store) (unitId : ℕ) (amount : ℤ) : Settlement :=
  let items := s.outstandingItemsByDueDate unitId
  let remaining := amount - poured ChargeItem.outstanding items amount
  itemSettlement (waterfall ChargeItem.outstanding items amount) ++
    adjustmentSettlement
      (waterfall Adjustment.outstanding (s.positiveAdjustmentsByAge unitId) remaining)

/-- What is paid was due. -/
theorem due_automaticSettlement (s : Store) (unitId : ℕ) (amount : ℤ) :
    (s.automaticSettlement unitId amount).Due s unitId := by
  refine due_append (due_itemSettlement (fun i hi => ?_) nodup_outstandingItemsByDueDate)
    (due_adjustmentSettlement (fun a ha => ?_) nodup_positiveAdjustmentsByAge)
  · obtain ⟨hmem, hunit, -, hbilled⟩ :=
      mem_outstandingItems.mp (mem_outstandingItemsByDueDate.mp hi)
    exact ⟨hmem, hunit, hbilled⟩
  · obtain ⟨hmem, hunit, -⟩ := mem_positiveAdjustments.mp (mem_positiveAdjustmentsByAge.mp ha)
    exact ⟨hmem, hunit⟩

/-- What the items take of an amount. -/
theorem total_itemSettlement (rows : List ChargeItem) (amount : ℤ) :
    (itemSettlement (waterfall ChargeItem.outstanding rows amount)).total =
      poured ChargeItem.outstanding rows amount := by
  simp [Settlement.total, itemSettlement, poured, Function.comp_def]

/-- What the adjustments take of it. -/
theorem total_adjustmentSettlement (rows : List Adjustment) (amount : ℤ) :
    (adjustmentSettlement (waterfall Adjustment.outstanding rows amount)).total =
      poured Adjustment.outstanding rows amount := by
  simp [Settlement.total, adjustmentSettlement, poured, Function.comp_def]

/-- Together they take no more than there is. -/
theorem total_automaticSettlement_le (s : Store) (unitId : ℕ) {amount : ℤ} (h : 0 ≤ amount) :
    (s.automaticSettlement unitId amount).total ≤ amount := by
  have hitems : poured ChargeItem.outstanding (s.outstandingItemsByDueDate unitId) amount ≤ amount :=
    poured_le _ h
  have hadjustments := @poured_le _ Adjustment.outstanding (s.positiveAdjustmentsByAge unitId) _
    (sub_nonneg.mpr hitems)
  rw [automaticSettlement, Settlement.total_append, total_itemSettlement,
    total_adjustmentSettlement]
  omega

/-- The store after an approval that settles `l` and banks the rest of the amount. -/
def approved (s : Store) (params : ApprovePaymentParams) (now : Time)
    (mode : PaymentSelectionMode) (l : Settlement) : Store :=
  { s.settleFor params.paymentId l with
    payments := s.payments.modify params.paymentId (params.approve now) (params.approve_id now)
    debtSelections :=
      match mode with
      | .explicitSelection => setReservations s.debtSelections params.paymentId .applied
      | .legacyAutomatic => s.debtSelections
    creditBalances :=
      if 0 < params.amount - l.total then
        (s.upsertCredit params.unitId params.buildingId (params.amount - l.total)).creditBalances
      else s.creditBalances
    ledger := s.ledger.create fun id =>
      { id, buildingId := params.buildingId, fundId := params.fundId, entryType := .payment,
        direction := .credit, amount := params.amount, referenceType := .payment,
        referenceId := params.paymentId, createdAt := now }
    funds := s.funds.modify params.fundId fun f => { f with balance := f.balance + params.amount } }

end Store

/-- The update of a balance needs the fund. -/
theorem updateFundBalance_ok {s s' : Store} {fundId : ℕ} {increment : ℤ} {w : PUnit} :
    (updateFundBalance fundId increment).run s = .ok (w, s') ↔
      (∃ fund, s.funds.find? fundId = some fund) ∧ s' = s.moveBalance fundId increment := by
  simp only [updateFundBalance, Tx.run_query_bind, Tx.run_expect_bind_ok, Tx.run_write,
    Except.ok.injEq, Prod.mk.injEq, true_and]
  exact ⟨fun ⟨f, hf, h⟩ => ⟨⟨f, hf⟩, h.symm⟩, fun ⟨⟨f, hf⟩, h⟩ => ⟨f, hf, h.symm⟩⟩

/-- The entry of a payment, and the balance of its fund. -/
theorem postPayment_ok {s s' : Store} {params : ApprovePaymentParams} {now : Time} {w : PUnit} :
    (postPayment params now).run s = .ok (w, s') ↔
      (∃ fund, s.funds.find? params.fundId = some fund) ∧
        s' = (s.postEntry fun id =>
          { id, buildingId := params.buildingId, fundId := params.fundId, entryType := .payment,
            direction := .credit, amount := params.amount, referenceType := .payment,
            referenceId := params.paymentId, createdAt := now }).moveBalance params.fundId
              params.amount := by
  rw [postPayment, Tx.run_write_bind, if_pos (by decide), updateFundBalance_ok]
  rfl

/-- Two settlements for a payment are one of both. -/
theorem Store.settleFor_settleFor {s : Store} (hs : s.StatusOk) (paymentId : ℕ)
    (l l' : Settlement) :
    (s.settleFor paymentId l).settleFor paymentId l' = s.settleFor paymentId (l ++ l') := by
  have hsettle := Store.settle_settle hs l l'
  rw [Store.settleFor, Store.settleFor, Store.settleFor, Table.createMany_append, ← hsettle]
  rfl

/-- An approval without selections, as one write. -/
theorem approveAutomatic_ok {s s' : Store} (hs : s.StatusOk) {params : ApprovePaymentParams}
    {now : Time} {w : PUnit} :
    (approveAutomatic params now).run s = .ok (w, s') ↔
      (∃ fund, s.funds.find? params.fundId = some fund) ∧
        s' = s.approved params now .legacyAutomatic
          (s.automaticSettlement params.unitId params.amount) := by
  rw [approveAutomatic, Tx.run_write_bind, Tx.run_query_bind]
  set s₁ : Store := { s with
    payments := s.payments.modify params.paymentId (params.approve now) fun _ => rfl } with hs₁
  have hs₁ok : s₁.StatusOk := hs
  rw [Tx.run_bind_of_ok (Store.run_itemLoop hs₁ok params.paymentId
    (fun i hi => (Store.mem_outstandingItems.mp (Store.mem_outstandingItemsByDueDate.mp hi)).1)
    Store.nodup_outstandingItemsByDueDate params.amount), Tx.run_query_bind]
  set items := waterfall ChargeItem.outstanding (s₁.outstandingItemsByDueDate params.unitId)
    params.amount with hitems
  set remaining := params.amount -
    poured ChargeItem.outstanding (s₁.outstandingItemsByDueDate params.unitId) params.amount
  -- the loop over the items left the adjustments as they were
  have hadj : (s₁.settleFor params.paymentId (itemSettlement items)).adjustments = s.adjustments :=
    Store.settle_itemSettlement_adjustments s₁ items
  have hrows : (s₁.settleFor params.paymentId (itemSettlement items)).positiveAdjustmentsByAge
      params.unitId = s.positiveAdjustmentsByAge params.unitId := by
    rw [Store.positiveAdjustmentsByAge, Store.positiveAdjustments, hadj]
    rfl
  rw [hrows, Tx.run_bind_of_ok (Store.run_adjustmentLoop (Store.statusOk_settleFor _ _ _)
    params.paymentId (fun a ha => hadj ▸
      (Store.mem_positiveAdjustments.mp (Store.mem_positiveAdjustmentsByAge.mp ha)).1)
    Store.nodup_positiveAdjustmentsByAge remaining),
    Store.settleFor_settleFor hs₁ok]
  have hplan : itemSettlement items ++ adjustmentSettlement (waterfall Adjustment.outstanding
      (s.positiveAdjustmentsByAge params.unitId) remaining) =
      s.automaticSettlement params.unitId params.amount := rfl
  have hrest : remaining - poured Adjustment.outstanding
      (s.positiveAdjustmentsByAge params.unitId) remaining =
      params.amount - (s.automaticSettlement params.unitId params.amount).total := by
    rw [← hplan, Settlement.total_append, Store.total_itemSettlement,
      Store.total_adjustmentSettlement, ← sub_sub]
  rw [hplan, hrest, Store.approved]
  split
  case isTrue hpos =>
    rw [Tx.run_write_bind, postPayment_ok]
    rfl
  case isFalse hpos =>
    change (postPayment params now).run _ = _ ↔ _
    rw [postPayment_ok]
    rfl

/-! ### The explicit branch -/

/-- What the selections of a payment settle. -/
def selectionSettlement (selections : List PaymentDebtSelection) : Settlement :=
  selections.map fun d => (d.target, d.selectedAmount)

/-- A selection is applied when just its amount is outstanding. -/
private theorem applySelection_ok {s s' : Store} (hs : s.StatusOk) {params : ApprovePaymentParams}
    {d : PaymentDebtSelection} {w : PUnit} (h : (applySelection params d).run s = .ok (w, s')) :
    s.IsActive params.unitId d.target ∧ s.outstandingOf d.target = d.selectedAmount ∧
      s' = s.settleFor params.paymentId [(d.target, d.selectedAmount)] := by
  rw [applySelection] at h
  split at h
  case h_1 id htarget =>
    simp only [Tx.run_query_bind, Tx.run_expect_bind_ok, Tx.run_require_bind_ok,
      Tx.run_write_bind, Tx.run_write, Except.ok.injEq, Prod.mk.injEq, true_and] at h
    obtain ⟨i, hi, ⟨hout, hunit, hbilled⟩, rfl⟩ := h
    obtain rfl := Table.key_of_find? hi
    refine ⟨htarget ▸ ⟨i, hi, hunit, hbilled⟩, ?_, ?_⟩
    · rw [htarget, Store.outstandingOf_chargeItem (Table.mem_of_find? hi), hout]
    · have hstatus : (s.allocate params.paymentId (.chargeItem i.id) d.selectedAmount).StatusOk := hs
      rw [Store.setItemPaid_eq_pay (by exact hi), Store.pay_eq_settle hstatus, htarget]
      rfl
  case h_2 id htarget =>
    simp only [Tx.run_query_bind, Tx.run_expect_bind_ok, Tx.run_require_bind_ok,
      Tx.run_write_bind, Tx.run_write, Except.ok.injEq, Prod.mk.injEq, true_and] at h
    obtain ⟨r, hr, ⟨hout, hunit⟩, rfl⟩ := h
    obtain rfl := Table.key_of_find? hr
    refine ⟨htarget ▸ ⟨r, hr, hunit⟩, ?_, ?_⟩
    · rw [htarget, Store.outstandingOf_adjustment (Table.mem_of_find? hr), hout]
    · have hstatus : (s.allocate params.paymentId (.adjustment r.id) d.selectedAmount).StatusOk := hs
      rw [Store.setAdjustmentPaid_eq_pay (by exact hr), Store.pay_eq_settle hstatus, htarget]
      rfl

/-- The loop of the explicit branch: every selection is an active obligation of the unit whose
outstanding amount is the selected one, and all of them are settled. -/
theorem applySelections_ok {s s' : Store} (hs : s.StatusOk) {params : ApprovePaymentParams}
    {selections : List PaymentDebtSelection} (hnodup : (selections.map (·.target)).Nodup)
    {w : PUnit} (h : (forM selections (applySelection params)).run s = .ok (w, s')) :
    (∀ d ∈ selections, s.IsActive params.unitId d.target ∧
        s.outstandingOf d.target = d.selectedAmount) ∧
      s' = s.settleFor params.paymentId (selectionSettlement selections) := by
  induction selections generalizing s with
  | nil =>
    obtain rfl : s = s' := (Prod.mk.inj (Except.ok.inj h)).2
    refine ⟨by simp, ?_⟩
    rw [Store.settleFor, selectionSettlement, List.map_nil, Store.settle_nil hs]
    rfl
  | cons d rest ih =>
    obtain ⟨s₁, hfirst, hrest⟩ := Tx.run_forM_cons_ok.mp h
    obtain ⟨hd, hrestNodup⟩ := List.nodup_cons.mp hnodup
    obtain ⟨hactive, hout, rfl⟩ := applySelection_ok hs hfirst
    obtain ⟨hall, rfl⟩ := ih (Store.statusOk_settleFor _ _ _) hrestNodup hrest
    refine ⟨fun d' hd' => ?_, Store.settleFor_settleFor hs _ _ _⟩
    rcases List.mem_cons.mp hd' with rfl | hd'
    · exact ⟨hactive, hout⟩
    · -- the first selection names another obligation, so it left this one alone
      have hne : d.target ≠ d'.target := fun he =>
        hd (List.mem_map.mpr ⟨d', hd', he.symm⟩)
      obtain ⟨hactive', hout'⟩ := hall d' hd'
      have hactive'' : s.IsActive params.unitId d'.target := Store.isActive_settle.mp hactive'
      refine ⟨hactive'', ?_⟩
      have hsettle : (s.settle [(d.target, d.selectedAmount)]).outstandingOf d'.target =
          d'.selectedAmount := hout'
      rw [Store.outstandingOf_settle hactive''] at hsettle
      simpa [hne] using hsettle

/-- An approval with selections, as one write. -/
theorem approveExplicitSelection_ok {s s' : Store} (hs : s.StatusOk)
    {params : ApprovePaymentParams} {now : Time} {current : Payment} {w : PUnit}
    (hnodup : ((s.selectionsOf params.paymentId).map (·.target)).Nodup)
    (h : (approveExplicitSelection params now current).run s = .ok (w, s')) :
    (∀ d ∈ s.selectionsOf params.paymentId, d.reservationState = .active) ∧
      (selectionSettlement (s.selectionsOf params.paymentId)).total = current.amount ∧
      current.amount = params.amount ∧
      (∀ d ∈ s.selectionsOf params.paymentId, s.IsActive params.unitId d.target ∧
        s.outstandingOf d.target = d.selectedAmount) ∧
      (∃ fund, s.funds.find? params.fundId = some fund) ∧
      s' = s.approved params now .explicitSelection
        (selectionSettlement (s.selectionsOf params.paymentId)) := by
  simp only [approveExplicitSelection, Tx.run_query_bind, Tx.run_require_bind_ok,
    Tx.run_bind_ok (x := forM _ _), Tx.run_write_bind, postPayment_ok] at h
  obtain ⟨hactive, ⟨htotal, hamount⟩, w', s₁, hloop, hfund, rfl⟩ := h
  obtain ⟨hall, rfl⟩ := applySelections_ok hs hnodup hloop
  have htotal' : (selectionSettlement (s.selectionsOf params.paymentId)).total = current.amount := by
    rw [← htotal, Settlement.total, selectionSettlement, List.map_map]
    rfl
  refine ⟨fun d hd => ?_, htotal', hamount, hall, hfund, ?_⟩
  · by_contra hne
    exact hactive (Or.inr ⟨d, hd, hne⟩)
  · have hrest : ¬ 0 < params.amount -
        (selectionSettlement (s.selectionsOf params.paymentId)).total := by omega
    rw [Store.approved, if_neg hrest]
    rfl

/-! ### Both branches -/

/-- What is known about a committed approval: it found the pending payment and the fund, and
it settled `l`, which pays active obligations of the unit within the amount. -/
structure ApprovalEffect (params : ApprovePaymentParams) (now : Time) (s s' : Store)
    (payment : Payment) (l : Settlement) : Prop where
  find : s.payments.find? params.paymentId = some payment
  pending : payment.status = .pendingApproval
  fund : ∃ fund, s.funds.find? params.fundId = some fund
  due : l.Due s params.unitId
  total_le : l.total ≤ params.amount
  automatic : payment.selectionMode = .legacyAutomatic →
    l = s.automaticSettlement params.unitId params.amount
  selected : payment.selectionMode = .explicitSelection →
    l = selectionSettlement (s.selectionsOf params.paymentId) ∧ l.total = params.amount ∧
      (∀ d ∈ s.selectionsOf params.paymentId, d.reservationState = .active) ∧
      ∀ e ∈ l, s.outstandingOf e.1 = e.2
  store_eq : s' = s.approved params now payment.selectionMode l

/-- A committed approval has an `ApprovalEffect`, provided that the selections of the payment
are positive and name different obligations. -/
theorem approvePayment_ok {s s' : Store} (hs : s.StatusOk) {params : ApprovePaymentParams}
    {now : Time} {p : Payment} (hamount : 0 ≤ params.amount)
    (hnodup : ((s.selectionsOf params.paymentId).map (·.target)).Nodup)
    (hpos : ∀ d ∈ s.selectionsOf params.paymentId, 0 < d.selectedAmount)
    (h : (approvePayment params now).run s = .ok (p, s')) :
    ∃ payment l, ApprovalEffect params now s s' payment l ∧ p = params.approve now payment := by
  simp only [approvePayment, Tx.run_query_bind, Tx.run_expect_bind_ok, Option.filter_eq_some_iff,
    decide_eq_true_eq] at h
  obtain ⟨payment, ⟨hfind, hpending⟩, h⟩ := h
  cases hmode : payment.selectionMode with
  | legacyAutomatic =>
    simp only [hmode, Tx.run_bind_ok, Tx.run_pure_ok] at h
    obtain ⟨w, s₁, hbranch, rfl, rfl⟩ := h
    obtain ⟨hfund, rfl⟩ := (approveAutomatic_ok hs).mp hbranch
    refine ⟨payment, _, ⟨hfind, hpending, hfund, Store.due_automaticSettlement s _ _,
      Store.total_automaticSettlement_le s _ hamount, fun _ => rfl, fun he => ?_, ?_⟩, rfl⟩
    · rw [hmode] at he
      exact absurd he (by decide)
    · rw [hmode]
  | explicitSelection =>
    simp only [hmode, Tx.run_bind_ok, Tx.run_pure_ok] at h
    obtain ⟨w, s₁, hbranch, rfl, rfl⟩ := h
    obtain ⟨hactive, htotal, hamount', hall, hfund, rfl⟩ :=
      approveExplicitSelection_ok hs hnodup hbranch
    have hout : ∀ e ∈ selectionSettlement (s.selectionsOf params.paymentId),
        s.IsActive params.unitId e.1 ∧ s.outstandingOf e.1 = e.2 ∧ 0 < e.2 := by
      intro e he
      obtain ⟨d, hd, rfl⟩ := List.mem_map.mp he
      exact ⟨(hall d hd).1, (hall d hd).2, hpos d hd⟩
    refine ⟨payment, _, ⟨hfind, hpending, hfund,
      ⟨?_, fun e he => (hout e he).2.2, fun e he => (hout e he).1, fun e he => (hout e he).2.1.ge⟩,
      (htotal.trans hamount').le, fun he => ?_,
      fun _ => ⟨rfl, htotal.trans hamount', hactive, fun e he => (hout e he).2.1⟩, ?_⟩, rfl⟩
    · rw [selectionSettlement, List.map_map]
      exact hnodup
    · rw [hmode] at he
      exact absurd he (by decide)
    · rw [hmode]

end VielHome.Finance
