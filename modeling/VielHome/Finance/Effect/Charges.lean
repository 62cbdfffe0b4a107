import VielHome.Finance.Effect.Approval

/-!
# What the operations on charge batches do

Creating a batch adds a draft and its items, cancelling it only changes its status. Issuing
it changes its status and moves credit of the charged units to their items: what the loop
takes from the credit of a unit is what it settles on the unit's items.
-/

namespace VielHome.Finance

open Relational

/-! ### Creating and cancelling -/

/-- The batch `createChargeBatch` adds. -/
def CreateChargeBatchParams.row (params : CreateChargeBatchParams) (now : Time) (id : ℕ) :
    ChargeBatch :=
  { id, buildingId := params.buildingId, fundId := params.fundId, title := params.title,
    description := params.description, calculationMethod := params.calculationMethod,
    totalAmount := (params.items.map fun i => i.amount).sum, status := .draft,
    kind := params.kind, seriesId := params.seriesId, periodStart := params.periodStart,
    dueDate := params.dueDate, unitScope := params.unitScope, payerType := params.payerType,
    lateFeeType := params.lateFeeType, lateFeeValue := params.lateFeeValue,
    lateFeeGraceDays := params.lateFeeGraceDays, createdById := params.createdById,
    createdAt := now }

/-- The item `createChargeBatch` adds to its batch for one entry. -/
def ChargeItemInput.row (chargeBatchId : ℕ) (now : Time) (i : ChargeItemInput) (id : ℕ) :
    ChargeItem :=
  { id, chargeBatchId, unitId := i.unitId, amount := i.amount, createdAt := now }

/-- The store after a batch was created. -/
def Store.withBatch (s : Store) (params : CreateChargeBatchParams) (now : Time) : Store :=
  { s with
    chargeBatches := s.chargeBatches.create (params.row now)
    chargeItems :=
      s.chargeItems.createMany params.items (ChargeItemInput.row s.chargeBatches.next now) }

/-- What a new charge needs, and what it writes. -/
theorem createChargeBatch_ok {s s' : Store} {params : CreateChargeBatchParams} {now : Time}
    {b : ChargeBatch} (h : (createChargeBatch params now).run s = .ok (b, s')) :
    ¬(params.kind = some .monthly ∧ s.hasMonthlyPeriod params.seriesId params.periodStart) ∧
      (∀ i ∈ params.items, (s.units.find? i.unitId).isSome) ∧ s' = s.withBatch params now := by
  unfold createChargeBatch at h
  split at h
  · simp only [Tx.run_query_bind, Tx.run_require_bind_ok, Tx.run_write_bind, Tx.run_pure_ok] at h
    obtain ⟨-, hmonthly, hunits, -, rfl⟩ := h
    exact ⟨hmonthly, hunits, rfl⟩
  · dsimp only at h
    simp only [Tx.run_query_bind, Tx.run_require_bind_ok, Tx.run_write_bind, Tx.run_pure_ok] at h
    obtain ⟨hmonthly, hunits, -, rfl⟩ := h
    exact ⟨hmonthly, hunits, rfl⟩

/-- What is known about a committed cancellation. -/
structure CancellationEffect (params : CancelChargeBatchParams) (s s' : Store)
    (batch : ChargeBatch) : Prop where
  find : s.chargeBatches.find? params.chargeBatchId = some batch
  building : batch.buildingId = params.buildingId
  open' : batch.status = .draft ∨ batch.status = .issued
  unpaid : ∀ i ∈ s.itemsOfBatch params.chargeBatchId, i.paidAmount ≤ 0
  store_eq : s' = s.setBatchStatus params.chargeBatchId .cancelled

/-- What a cancellation needs, and what it writes. -/
theorem cancelChargeBatch_ok {s s' : Store} {params : CancelChargeBatchParams} {b : ChargeBatch}
    (h : (cancelChargeBatch params).run s = .ok (b, s')) :
    ∃ batch, CancellationEffect params s s' batch := by
  simp only [cancelChargeBatch, Tx.run_query_bind, Tx.run_expect_bind_ok, Tx.run_require_bind_ok,
    Tx.run_write_bind, Tx.run_pure_ok, Option.filter_eq_some_iff, decide_eq_true_eq] at h
  obtain ⟨batch, ⟨hfind, hbuilding⟩, hstatus, hunpaid, -, rfl⟩ := h
  refine ⟨batch, hfind, hbuilding, ?_, fun i hi => not_lt.mp (hunpaid i hi), rfl⟩
  cases hb : batch.status <;> simp_all

/-! ### Issuing -/

/-- What the credit of each unit loses when `plan` pays charge items from it. -/
def creditSpent (plan : List (ChargeItem × ℤ)) (unitId : ℕ) : ℤ :=
  share (plan.map fun e => (e.1.unitId, e.2)) unitId

/-- Without a plan no credit is spent. -/
@[simp] theorem creditSpent_nil (unitId : ℕ) : creditSpent [] unitId = 0 := rfl

/-- The credit that a unit spends on the first item, and on the others. -/
@[simp] theorem creditSpent_cons (e : ChargeItem × ℤ) (plan : List (ChargeItem × ℤ))
    (unitId : ℕ) : creditSpent (e :: plan) unitId =
      (if e.1.unitId = unitId then e.2 else 0) + creditSpent plan unitId :=
  share_cons _ _ _

/-- Take `a` out of the credit. -/
def CreditBalance.spend (a : ℤ) (c : CreditBalance) : CreditBalance :=
  { c with balance := c.balance - a }

@[simp] theorem CreditBalance.spend_id (a : ℤ) (c : CreditBalance) : (c.spend a).id = c.id := rfl

@[simp] theorem CreditBalance.spend_unitId (a : ℤ) (c : CreditBalance) :
    (c.spend a).unitId = c.unitId := rfl

@[simp] theorem CreditBalance.spend_buildingId (a : ℤ) (c : CreditBalance) :
    (c.spend a).buildingId = c.buildingId := rfl

@[simp] theorem CreditBalance.spend_balance (a : ℤ) (c : CreditBalance) :
    (c.spend a).balance = c.balance - a := rfl

/-- The credit rows after `plan` was paid from them. -/
def spendCredit (t : Table CreditBalance CreditBalance.id) (plan : List (ChargeItem × ℤ)) :
    Table CreditBalance CreditBalance.id :=
  t.map fun c => c.spend (creditSpent plan c.unitId)

/-- A credit afterwards is one before, less what was spent. -/
theorem mem_spendCredit {t : Table CreditBalance CreditBalance.id} {plan : List (ChargeItem × ℤ)}
    {c : CreditBalance} :
    c ∈ spendCredit t plan ↔ ∃ r ∈ t, r.spend (creditSpent plan r.unitId) = c := by
  rw [spendCredit, Table.mem_map]

/-- The store after charge items were paid from their units' credit. -/
def Store.creditApplied (s : Store) (buildingId fundId : ℕ) (now : Time)
    (plan : List (ChargeItem × ℤ)) : Store :=
  { s.settle (itemSettlement plan) with
    creditBalances := spendCredit s.creditBalances plan
    ledger := s.ledger.createMany plan fun e id =>
      { id, buildingId, fundId, entryType := .creditApplied, direction := .credit, amount := e.2,
        referenceType := .chargeItem, referenceId := e.1.id, createdAt := now } }

/-- No unit has two credit rows. -/
def Store.CreditUnique (s : Store) : Prop :=
  ∀ c ∈ s.creditBalances, ∀ c' ∈ s.creditBalances, c.unitId = c'.unitId → c = c'

namespace Store

variable {s : Store} {buildingId fundId : ℕ} {now : Time}

/-- An empty plan changes nothing. -/
theorem creditApplied_nil (hs : s.StatusOk) : s.creditApplied buildingId fundId now [] = s := by
  have hcredit : spendCredit s.creditBalances [] = s.creditBalances :=
    Table.map_id fun c _ => by simp [CreditBalance.spend]
  rw [creditApplied, hcredit, itemSettlement, List.map_nil, settle_nil hs]
  rfl

/-- A plan is applied item by item. -/
theorem creditApplied_creditApplied (hs : s.StatusOk) (e : ChargeItem × ℤ)
    (plan : List (ChargeItem × ℤ)) :
    (s.creditApplied buildingId fundId now [e]).creditApplied buildingId fundId now plan =
      s.creditApplied buildingId fundId now (e :: plan) := by
  have hcredit : spendCredit (spendCredit s.creditBalances [e]) plan =
      spendCredit s.creditBalances (e :: plan) := by
    rw [spendCredit, spendCredit, spendCredit, Table.map_map]
    exact Table.map_congr fun c _ => by simp [CreditBalance.spend, sub_sub]
  have hsettle : (s.settle (itemSettlement [e])).settle (itemSettlement plan) =
      s.settle (itemSettlement (e :: plan)) := settle_settle hs _ _
  simp only [creditApplied, ← hsettle, ← hcredit]
  rfl

/-- The credit that is found is that of the unit. -/
theorem creditBalanceOf_eq_some {unitId : ℕ} {c : CreditBalance}
    (h : s.creditBalanceOf unitId = some c) : c ∈ s.creditBalances ∧ c.unitId = unitId :=
  ⟨List.mem_of_find?_eq_some h, by simpa using List.find?_some h⟩

end Store

/-- The credit of the unit. -/
def Store.availableCredit (s : Store) (unitId : ℕ) : ℤ :=
  (s.creditBalanceOf unitId).elim 0 CreditBalance.balance

/-- The items that issuing pays from the credit of their units, in order, with the amounts. -/
def Store.creditPlan (s : Store) (items : List ChargeItem) : List (ChargeItem × ℤ) :=
  pooledWaterfall ChargeItem.outstanding ChargeItem.unitId items s.availableCredit

namespace Store

variable {s : Store} {buildingId fundId : ℕ} {now : Time}

/-- The credit of a unit, when a plan was applied. -/
theorem creditBalanceOf_creditApplied (s : Store) (buildingId fundId : ℕ) (now : Time)
    (plan : List (ChargeItem × ℤ)) (unitId : ℕ) :
    (s.creditApplied buildingId fundId now plan).creditBalanceOf unitId =
      (s.creditBalanceOf unitId).map (CreditBalance.spend (creditSpent plan unitId)) := by
  change ((s.creditBalances.rows.map fun c => c.spend (creditSpent plan c.unitId)).find? fun c =>
    c.unitId = unitId) = _
  rw [List.find?_map]
  change (s.creditBalanceOf unitId).map (fun c => c.spend (creditSpent plan c.unitId)) = _
  cases hc : s.creditBalanceOf unitId with
  | none => rfl
  | some c => rw [Option.map_some, Option.map_some, (creditBalanceOf_eq_some hc).2]

/-- What is left of it for the next item. -/
theorem availableCredit_creditApplied {item : ChargeItem} {credit : CreditBalance}
    (hc : s.creditBalanceOf item.unitId = some credit) (a : ℤ) :
    (s.creditApplied buildingId fundId now [(item, a)]).availableCredit =
      Function.update s.availableCredit item.unitId (s.availableCredit item.unitId - a) := by
  funext unitId
  rw [availableCredit, creditBalanceOf_creditApplied]
  by_cases hunit : unitId = item.unitId
  · subst hunit
    rw [Function.update_self, availableCredit, hc]
    simp
  · rw [Function.update_of_ne hunit, availableCredit]
    have hnone : creditSpent [(item, a)] unitId = 0 := by simp [Ne.symm hunit]
    rw [hnone]
    cases s.creditBalanceOf unitId with
    | none => rfl
    | some c => exact sub_zero c.balance

end Store

/-- One round of the loop of `issueChargeBatch`. -/
theorem run_applyCreditToItem {s : Store} (hs : s.StatusOk) (hcredit : s.CreditUnique)
    (buildingId fundId : ℕ) (now : Time) {item : ChargeItem}
    (hitem : s.chargeItems.find? item.id = some item) :
    (applyCreditToItem buildingId fundId now item).run s =
      .ok (⟨⟩, s.creditApplied buildingId fundId now (s.creditPlan [item])) := by
  have hskip (h : s.availableCredit item.unitId ≤ 0 ∨ item.outstanding ≤ 0) :
      s.creditApplied buildingId fundId now (s.creditPlan [item]) = s := by
    rw [Store.creditPlan, pooledWaterfall_of_skip h]
    exact Store.creditApplied_nil hs
  rw [applyCreditToItem, Tx.run_query_bind]
  cases hc : s.creditBalanceOf item.unitId with
  | none =>
    rw [hskip (Or.inl (by rw [Store.availableCredit, hc]; exact le_rfl))]
    rfl
  | some credit =>
    obtain ⟨hmem, hunit⟩ := Store.creditBalanceOf_eq_some hc
    have havailable : s.availableCredit item.unitId = credit.balance := by
      rw [Store.availableCredit, hc]
      rfl
    by_cases hleft : credit.balance ≤ 0
    · rw [hskip (Or.inl (havailable.trans_le hleft))]
      simp only [if_pos hleft]
      rfl
    by_cases hout : item.outstanding ≤ 0
    · rw [hskip (Or.inr hout)]
      have hout : item.amount - item.paidAmount ≤ 0 := hout
      simp only [if_neg hleft, if_pos hout]
      rfl
    rw [Store.creditPlan, pooledWaterfall_of_pay (not_or.mpr ⟨havailable ▸ hleft, hout⟩),
      havailable]
    rw [ChargeItem.outstanding] at hout
    simp only [if_neg hleft, if_neg hout, Tx.run_write_bind]
    change _ = Except.ok (PUnit.unit, s.creditApplied buildingId fundId now
      [(item, min credit.balance item.outstanding)])
    set a := min credit.balance item.outstanding with ha
    -- the guard of the decrement holds for the row that was read, which is the unit's only one
    have hupdate : (s.creditBalances.updateMany (fun c => c.unitId = item.unitId ∧ a ≤ c.balance)
        (fun c => { c with balance := c.balance - a }) fun _ => rfl) =
        spendCredit s.creditBalances [(item, a)] := by
      refine Table.map_congr fun c hcmem => ?_
      by_cases hcu : c.unitId = item.unitId
      · obtain rfl := hcredit c hcmem credit hmem (hcu.trans hunit.symm)
        have hle : a ≤ c.balance := min_le_left _ _
        simp [hcu, hle, CreditBalance.spend]
      · have hcu' : ¬ item.unitId = c.unitId := fun he => hcu he.symm
        simp [hcu, hcu', CreditBalance.spend]
    have hpay : s.setItemPaid item (item.paidAmount + a) = s.settle (itemSettlement [(item, a)]) :=
      (Store.setItemPaid_eq_pay hitem a).trans (Store.pay_eq_settle hs _ a)
    rw [Store.creditApplied, ← hpay, ← hupdate]
    rfl

/-- What is known about the credit an issued batch uses: the items it pays, in order, with
the amounts, each within what is outstanding, and in total within each unit's credit. -/
structure CreditPlan (s : Store) (items : List ChargeItem) (plan : List (ChargeItem × ℤ)) :
    Prop where
  sublist : (plan.map Prod.fst).Sublist items
  bounds : ∀ e ∈ plan, 0 < e.2 ∧ e.2 ≤ e.1.outstanding
  credit : ∀ e ∈ plan, ∃ c ∈ s.creditBalances, c.unitId = e.1.unitId
  spent_le : ∀ c ∈ s.creditBalances, 0 ≤ c.balance → creditSpent plan c.unitId ≤ c.balance

/-- A unit has one credit, as before. -/
theorem creditUnique_creditApplied {s : Store} (hcredit : s.CreditUnique) {buildingId fundId : ℕ}
    {now : Time} {plan : List (ChargeItem × ℤ)} :
    (s.creditApplied buildingId fundId now plan).CreditUnique := by
  intro c hc c' hc' hcc
  obtain ⟨r, hr, rfl⟩ := mem_spendCredit.mp hc
  obtain ⟨r', hr', rfl⟩ := mem_spendCredit.mp hc'
  obtain rfl := hcredit r hr r' hr' hcc
  rfl

/-- The loop of `issueChargeBatch`. -/
theorem run_applyCreditToItems {s : Store} (hs : s.StatusOk) (hcredit : s.CreditUnique)
    (buildingId fundId : ℕ) (now : Time) {items : List ChargeItem}
    (hitems : ∀ i ∈ items, s.chargeItems.find? i.id = some i)
    (hnodup : (items.map ChargeItem.id).Nodup) :
    (forM items (applyCreditToItem buildingId fundId now)).run s =
      .ok (⟨⟩, s.creditApplied buildingId fundId now (s.creditPlan items)) := by
  induction items generalizing s with
  | nil =>
    exact congrArg (fun t => Except.ok (PUnit.unit, t)) (Store.creditApplied_nil hs).symm
  | cons item rest ih =>
    obtain ⟨hitem, hrestNodup⟩ := List.nodup_cons.mp hnodup
    have hread := hitems item List.mem_cons_self
    have hrest : ∀ i ∈ rest, s.chargeItems.find? i.id = some i := fun i hi =>
      hitems i (List.mem_cons_of_mem _ hi)
    have hfirst := run_applyCreditToItem hs hcredit buildingId fundId now hread
    rw [List.forM_cons, Tx.run_bind_of_ok hfirst]
    by_cases hskip : s.availableCredit item.unitId ≤ 0 ∨ item.outstanding ≤ 0
    · rw [Store.creditPlan, Store.creditPlan, pooledWaterfall_of_skip hskip,
        pooledWaterfall_of_skip hskip]
      have hsame : s.creditApplied buildingId fundId now [] = s := Store.creditApplied_nil hs
      rw [pooledWaterfall, hsame]
      exact ih hs hcredit hrest hrestNodup
    · rw [Store.creditPlan, Store.creditPlan, pooledWaterfall_of_pay hskip,
        pooledWaterfall_of_pay hskip, pooledWaterfall]
      set a := min (s.availableCredit item.unitId) item.outstanding with ha
      obtain ⟨credit, hc⟩ : ∃ credit, s.creditBalanceOf item.unitId = some credit := by
        by_contra hnone
        have hnone := Option.eq_none_iff_forall_ne_some.mpr fun c hc => hnone ⟨c, hc⟩
        exact hskip (Or.inl (by rw [Store.availableCredit, hnone]; exact le_rfl))
      -- the rows of the other items are still the ones that were read
      have hitems' : ∀ i ∈ rest, (s.creditApplied buildingId fundId now
          [(item, a)]).chargeItems.find? i.id = some i := by
        intro i hi
        have hri := hrest i hi
        have hne : item.id ≠ i.id := fun he => hitem (List.mem_map.mpr ⟨i, hi, he.symm⟩)
        have hstatus : i.StatusOk := hs i (Table.mem_of_find? hri)
        change (s.settle (itemSettlement [(item, a)])).chargeItems.find? i.id = some i
        rw [Store.find?_settle_chargeItems, hri]
        simp [itemSettlement, hne, ChargeItem.pay_zero hstatus]
      have hthen := ih (s := s.creditApplied buildingId fundId now [(item, a)])
        (Store.statusOk_settle _ _) (creditUnique_creditApplied hcredit) hitems' hrestNodup
      rw [Store.creditPlan, Store.availableCredit_creditApplied hc,
        Store.creditApplied_creditApplied hs] at hthen
      exact hthen

namespace Store

variable {s : Store}

/-- What the unit's credit pays in total. -/
theorem creditSpent_creditPlan (items : List ChargeItem) (unitId : ℕ) :
    creditSpent (s.creditPlan items) unitId =
      poured ChargeItem.outstanding (items.filter fun i => i.unitId = unitId)
        (s.availableCredit unitId) :=
  share_pooledWaterfall _ _ items s.availableCredit unitId

/-- What a unit has in advance is its credit. -/
theorem CreditUnique.availableCredit (h : s.CreditUnique) {c : CreditBalance}
    (hc : c ∈ s.creditBalances) : s.availableCredit c.unitId = c.balance := by
  rw [Store.availableCredit]
  cases hfind : s.creditBalanceOf c.unitId with
  | none =>
    have hnone := List.find?_eq_none.mp hfind c hc
    exact absurd (decide_eq_true rfl) hnone
  | some c' =>
    obtain ⟨hmem, hunit⟩ := creditBalanceOf_eq_some hfind
    obtain rfl := h c hc c' hmem hunit.symm
    rfl

/-- The plan keeps the order of the items. -/
theorem creditPlan_sublist (s : Store) (items : List ChargeItem) :
    ((s.creditPlan items).map Prod.fst).Sublist items :=
  pooledWaterfall_sublist items s.availableCredit

/-- The plan spends no more than there is. -/
theorem CreditUnique.creditPlan_ok (h : s.CreditUnique) (items : List ChargeItem) :
    CreditPlan s items (s.creditPlan items) := by
  refine ⟨s.creditPlan_sublist items, fun e he => ?_, fun e he => ?_, fun c hc hnonneg => ?_⟩
  · exact waterfall_bounds (mem_waterfall_of_mem_pooledWaterfall he)
  · have hplanned := mem_waterfall_of_mem_pooledWaterfall he
    cases hc : s.creditBalanceOf e.1.unitId with
    | none =>
      have hzero : s.availableCredit e.1.unitId = 0 := by rw [Store.availableCredit, hc]; rfl
      rw [waterfall_of_nonpos _ hzero.le] at hplanned
      exact absurd hplanned List.not_mem_nil
    | some c => exact ⟨c, creditBalanceOf_eq_some hc⟩
  · rw [creditSpent_creditPlan, h.availableCredit hc]
    exact poured_le _ hnonneg

end Store

/-- The store after a batch was issued with its items paid from credit as planned. -/
def Store.issued (s : Store) (params : IssueChargeBatchParams) (now : Time) (batch : ChargeBatch)
    (plan : List (ChargeItem × ℤ)) : Store :=
  ((s.setBatchStatus params.chargeBatchId .issued).creditApplied params.buildingId batch.fundId
    now plan).postEntry fun id =>
    { id, buildingId := params.buildingId, fundId := batch.fundId, entryType := .charge,
      direction := .debit, amount := batch.totalAmount, referenceType := .chargeBatch,
      referenceId := params.chargeBatchId, createdAt := now }

/-- What is known about a committed issue of a batch. -/
structure IssueEffect (params : IssueChargeBatchParams) (now : Time) (s s' : Store)
    (batch : ChargeBatch) (plan : List (ChargeItem × ℤ)) : Prop where
  find : s.chargeBatches.find? params.chargeBatchId = some batch
  building : batch.buildingId = params.buildingId
  draft : batch.status = .draft
  total_pos : 0 < batch.totalAmount
  plan_ok : CreditPlan s (s.itemsOfBatch params.chargeBatchId) plan
  store_eq : s' = s.issued params now batch plan

/-- The items of a charge. -/
theorem Store.mem_itemsOfBatch {s : Store} {chargeBatchId : ℕ} {i : ChargeItem} :
    i ∈ s.itemsOfBatch chargeBatchId ↔ i ∈ s.chargeItems ∧ i.chargeBatchId = chargeBatchId := by
  simp [Store.itemsOfBatch, Table.mem_rows]

/-- What an issue needs, and what it writes. -/
theorem issueChargeBatch_ok {s s' : Store} (hs : s.StatusOk) (hcredit : s.CreditUnique)
    {params : IssueChargeBatchParams} {now : Time} {b : ChargeBatch}
    (h : (issueChargeBatch params now).run s = .ok (b, s')) :
    ∃ batch, IssueEffect params now s s' batch
      (s.creditPlan (s.itemsOfBatch params.chargeBatchId)) := by
  simp only [issueChargeBatch, Tx.run_query_bind, Tx.run_expect_bind_ok, Tx.run_require_bind_ok,
    Tx.run_write_bind, Option.filter_eq_some_iff, decide_eq_true_eq] at h
  obtain ⟨batch, ⟨hfind, hbuilding⟩, hdraft, hbillable, h⟩ := h
  have htotal : 0 < batch.totalAmount := not_le.mp fun hle => hbillable (Or.inl hle)
  have hs₁ : (s.setBatchStatus params.chargeBatchId .issued).StatusOk := hs
  have hcredit₁ : (s.setBatchStatus params.chargeBatchId .issued).CreditUnique := hcredit
  have hitems : ∀ i ∈ s.itemsOfBatch params.chargeBatchId,
      (s.setBatchStatus params.chargeBatchId .issued).chargeItems.find? i.id = some i := fun i hi =>
    Table.find?_of_mem (Store.mem_itemsOfBatch.mp hi).1
  have hloop := run_applyCreditToItems hs₁ hcredit₁ params.buildingId batch.fundId now hitems
    ((List.filter_sublist.map ChargeItem.id).nodup s.chargeItems.nodup)
  rw [Tx.run_bind_of_ok hloop, Tx.run_write_bind, Tx.run_pure_ok] at h
  exact ⟨batch, hfind, hbuilding, hdraft, htotal, hcredit.creditPlan_ok _, h.2⟩

end VielHome.Finance
