import VielHome.Finance.OldestFirst

/-!
# Credit is applied when a batch is issued

The loop of `issueChargeBatch` reads the credit of a unit again for every item, after the items
before it have taken from it, so the items of one unit are paid as if they were alone with the
credit of their unit (`filter_pooledWaterfall`). What the loop does per unit is then one
waterfall: it hands out the smaller of the credit and of what the items have outstanding, and an
item is paid only after the items before it. A batch leaves the status of a draft for good, so it
is issued at most once.
-/

namespace VielHome.Finance

open Relational

namespace Store

/-- The items of the unit in the batch, in the order in which issuing goes through them. -/
def unitItemsOfBatch (s : Store) (chargeBatchId unitId : ℕ) : List ChargeItem :=
  (s.itemsOfBatch chargeBatchId).filter fun i => i.unitId = unitId

/-- The smaller of the credit of the unit and of what its items in the batch have outstanding. -/
def applicableCredit (s : Store) (chargeBatchId unitId : ℕ) : ℤ :=
  min (s.unitCredit unitId)
    ((s.unitItemsOfBatch chargeBatchId unitId).map ChargeItem.outstanding).sum

/-- What the item is paid from one store to the other. -/
def paidBetween (s s' : Store) (i : ChargeItem) : ℤ :=
  s'.paidOf (.chargeItem i.id) - s.paidOf (.chargeItem i.id)

/-- What the ledger records as credit applied to the items of the unit in the batch. -/
def recordedCredit (s : Store) (chargeBatchId unitId : ℕ) : ℤ :=
  s.ledger.sum fun e =>
    if e.entryType = .creditApplied ∧ e.referenceType = .chargeItem ∧
      (s.chargeItems.find? e.referenceId).any fun i =>
        i.chargeBatchId = chargeBatchId ∧ i.unitId = unitId
    then e.amount else 0

/-- What issuing a batch does with the credit of the charged units. -/
structure CreditAppliedAtIssue (s s' : Store) (chargeBatchId : ℕ) : Prop where
  /-- No item is overpaid, and paying it changes nothing else of it but its status. -/
  items : ∀ i ∈ s.itemsOfBatch chargeBatchId, 0 ≤ s.paidBetween s' i ∧
    s.paidBetween s' i ≤ i.outstanding ∧
    s'.chargeItems.find? i.id = some (i.pay (s.paidBetween s' i))
  /-- An item is paid only when the items of the unit before it are settled. -/
  order : ∀ unitId, (s.unitItemsOfBatch chargeBatchId unitId).Pairwise fun i j =>
    0 < s.paidBetween s' j → s'.outstandingOf (.chargeItem i.id) = 0
  /-- The items of a unit are paid exactly the applicable credit. -/
  total : ∀ unitId, ((s.unitItemsOfBatch chargeBatchId unitId).map (s.paidBetween s')).sum =
    s.applicableCredit chargeBatchId unitId
  /-- The credit of the unit decreases by exactly that, and never below nothing. -/
  credit : ∀ unitId, s'.unitCredit unitId =
    s.unitCredit unitId - s.applicableCredit chargeBatchId unitId ∧ 0 ≤ s'.unitCredit unitId
  /-- The ledger records exactly that. -/
  ledger : ∀ unitId, s'.recordedCredit chargeBatchId unitId =
    s.recordedCredit chargeBatchId unitId + s.applicableCredit chargeBatchId unitId
  /-- The items outside the batch stay as they are. -/
  otherItems : s'.chargeItems.outside (fun i => i.chargeBatchId = chargeBatchId) =
    s.chargeItems.outside fun i => i.chargeBatchId = chargeBatchId
  /-- The credit of the units without an item in the batch stays as it is. -/
  otherCredit : s'.creditBalances.outside
      (fun c => (s.unitItemsOfBatch chargeBatchId c.unitId).length ≠ 0) =
    s.creditBalances.outside fun c => (s.unitItemsOfBatch chargeBatchId c.unitId).length ≠ 0
  /-- The adjustments stay as they are. -/
  adjustments : s'.adjustments = s.adjustments

variable {s s' : Store} {chargeBatchId unitId : ℕ}

theorem mem_unitItemsOfBatch {i : ChargeItem} :
    i ∈ s.unitItemsOfBatch chargeBatchId unitId ↔
      i ∈ s.itemsOfBatch chargeBatchId ∧ i.unitId = unitId := by
  simp [unitItemsOfBatch]

theorem nodup_unitItemsOfBatch (s : Store) (chargeBatchId unitId : ℕ) :
    (s.unitItemsOfBatch chargeBatchId unitId).Nodup :=
  (List.Nodup.of_map ChargeItem.id s.chargeItems.nodup).sublist
    (List.filter_sublist.trans List.filter_sublist)

/-- The credit of a unit is the balance of its row. -/
theorem CreditUnique.unitCredit (h : s.CreditUnique) (unitId : ℕ) :
    s.unitCredit unitId = s.availableCredit unitId := by
  rw [Store.unitCredit, Store.credit]
  cases hfind : s.creditBalanceOf unitId with
  | none =>
    have hnone : ∀ c ∈ s.creditBalances, ¬ c.unitId = unitId := fun c hc hunit =>
      List.find?_eq_none.mp hfind c hc (decide_eq_true hunit)
    rw [Store.availableCredit, hfind]
    exact Table.sum_eq_zero fun c hc => if_neg (by simpa using hnone c hc)
  | some c =>
    obtain ⟨hmem, rfl⟩ := creditBalanceOf_eq_some hfind
    rw [h.availableCredit hmem, ← Table.sum_ite_key (Table.find?_of_mem hmem) CreditBalance.balance]
    refine Table.sum_congr fun c' hc' => ?_
    by_cases hunit : c'.unitId = c.unitId
    · obtain rfl := h c' hc' c hmem hunit
      simp
    · have hid : ¬ c'.id = c.id := fun he => hunit (by rw [Table.eq_of_key_eq hc' hmem he])
      simp [hunit, hid]

/-- What the plan takes from the credit of the unit is the applicable credit. -/
theorem Valid.creditSpent_eq_applicable (h : s.Valid) (chargeBatchId unitId : ℕ) :
    creditSpent (s.creditPlan (s.itemsOfBatch chargeBatchId)) unitId =
      s.applicableCredit chargeBatchId unitId := by
  have hnonneg : 0 ≤ s.availableCredit unitId := by
    rw [availableCredit]
    cases hc : s.creditBalanceOf unitId with
    | none => exact le_rfl
    | some c => exact h.credit_nonneg c (creditBalanceOf_eq_some hc).1
  rw [creditSpent_creditPlan, applicableCredit, h.credit_unique.unitCredit]
  refine poured_eq_min hnonneg fun i hi => ?_
  have hmem := (mem_itemsOfBatch.mp (mem_unitItemsOfBatch.mp hi).1).1
  exact sub_nonneg.mpr (h.item_paid i hmem).2

/-! ### The rows after the issue -/

section Issue

variable {params : IssueChargeBatchParams} {now : Time} {batch : ChargeBatch}
  {plan : List (ChargeItem × ℤ)}

theorem find?_issued (s : Store) (id : ℕ) :
    (s.issued params now batch plan).chargeItems.find? id =
      (s.chargeItems.find? id).map fun i => i.pay (share (itemSettlement plan) (.chargeItem i.id)) :=
  find?_settle_chargeItems (s.setBatchStatus params.chargeBatchId .issued) _ _

theorem paidBetween_issued {i : ChargeItem} (hi : i ∈ s.chargeItems) :
    s.paidBetween (s.issued params now batch plan) i =
      share (itemSettlement plan) (.chargeItem i.id) := by
  rw [paidBetween, paidOf_chargeItem hi, paidOf, find?_issued, Table.find?_of_mem hi]
  simp

theorem outstandingOf_issued {i : ChargeItem} (hi : i ∈ s.chargeItems) :
    (s.issued params now batch plan).outstandingOf (.chargeItem i.id) =
      i.outstanding - share (itemSettlement plan) (.chargeItem i.id) := by
  rw [outstandingOf, find?_issued, Table.find?_of_mem hi]
  simp [ChargeItem.outstanding, sub_sub]

theorem availableCredit_issued (s : Store) (unitId : ℕ) :
    (s.issued params now batch plan).availableCredit unitId =
      (s.creditBalanceOf unitId).elim 0 fun c => c.balance - creditSpent plan unitId := by
  have hrow : (s.issued params now batch plan).creditBalanceOf unitId =
      (s.creditBalanceOf unitId).map (CreditBalance.spend (creditSpent plan unitId)) :=
    creditBalanceOf_creditApplied (s.setBatchStatus params.chargeBatchId .issued) params.buildingId
      batch.fundId now plan unitId
  rw [availableCredit, hrow]
  cases s.creditBalanceOf unitId <;> rfl

end Issue

/-! ### The plan of one unit -/

/-- An item of the unit is paid what its unit's waterfall gives it. -/
theorem mem_waterfall_of_mem_creditPlan {e : ChargeItem × ℤ}
    (he : e ∈ s.creditPlan (s.itemsOfBatch chargeBatchId)) (hunit : e.1.unitId = unitId) :
    e ∈ waterfall ChargeItem.outstanding (s.unitItemsOfBatch chargeBatchId unitId)
      (s.availableCredit unitId) :=
  hunit ▸ mem_waterfall_of_mem_pooledWaterfall he

theorem mem_creditPlan_of_mem_waterfall {e : ChargeItem × ℤ}
    (he : e ∈ waterfall ChargeItem.outstanding (s.unitItemsOfBatch chargeBatchId unitId)
      (s.availableCredit unitId)) : e ∈ s.creditPlan (s.itemsOfBatch chargeBatchId) := by
  have hmem : e ∈ (s.creditPlan (s.itemsOfBatch chargeBatchId)).filter fun e =>
      e.1.unitId = unitId := (filter_pooledWaterfall _ _ _ s.availableCredit unitId).symm ▸ he
  exact (List.mem_filter.mp hmem).1

/-- No item is planned twice. -/
theorem nodup_creditPlan (s : Store) (chargeBatchId : ℕ) :
    ((itemSettlement (s.creditPlan (s.itemsOfBatch chargeBatchId))).map Prod.fst).Nodup := by
  have hsub := ((s.creditPlan_sublist (s.itemsOfBatch chargeBatchId)).trans
    List.filter_sublist).map ChargeItem.id
  rw [List.map_map] at hsub
  have hnodup := (hsub.nodup s.chargeItems.nodup).map (f := ObligationTarget.chargeItem)
    fun _ _ h => ObligationTarget.chargeItem.inj h
  simpa [itemSettlement, Function.comp_def] using hnodup

/-- What the plan gives to an item of the plan. -/
theorem share_of_mem_creditPlan {e : ChargeItem × ℤ}
    (he : e ∈ s.creditPlan (s.itemsOfBatch chargeBatchId)) :
    share (itemSettlement (s.creditPlan (s.itemsOfBatch chargeBatchId))) (.chargeItem e.1.id) =
      e.2 :=
  share_of_mem (s.nodup_creditPlan chargeBatchId) (List.mem_map_of_mem he)

/-- An item that the plan gives something is in the plan. -/
theorem exists_mem_creditPlan {i : ChargeItem} (hi : i ∈ s.chargeItems)
    (hpos : 0 < share (itemSettlement (s.creditPlan (s.itemsOfBatch chargeBatchId)))
      (.chargeItem i.id)) :
    ∃ x, (i, x) ∈ s.creditPlan (s.itemsOfBatch chargeBatchId) := by
  by_contra hnone
  refine hpos.ne' (share_of_forall_ne fun e he heq => hnone ?_)
  obtain ⟨⟨j, x⟩, hj, rfl⟩ := List.mem_map.mp he
  have hfst : j ∈ s.itemsOfBatch chargeBatchId :=
    (s.creditPlan_sublist _).subset (List.mem_map_of_mem hj)
  obtain rfl := Table.eq_of_key_eq (mem_itemsOfBatch.mp hfst).1 hi
    (ObligationTarget.chargeItem.inj heq)
  exact ⟨x, hj⟩

/-- The row of a planned item is an item of the batch. -/
theorem any_find?_of_mem_creditPlan {e : ChargeItem × ℤ}
    (he : e ∈ s.creditPlan (s.itemsOfBatch chargeBatchId)) (unitId : ℕ) :
    ((s.chargeItems.find? e.1.id).any fun i =>
      i.chargeBatchId = chargeBatchId ∧ i.unitId = unitId) = decide (e.1.unitId = unitId) := by
  obtain ⟨hmem, hbatch⟩ := mem_itemsOfBatch.mp
    ((s.creditPlan_sublist _).subset (List.mem_map_of_mem he))
  simp [Table.find?_of_mem hmem, hbatch]

/-- The items of the unit are given together what the plan takes from the unit's credit. -/
theorem sum_share_creditPlan (s : Store) (chargeBatchId unitId : ℕ) :
    ((s.unitItemsOfBatch chargeBatchId unitId).map fun i =>
      share (itemSettlement (s.creditPlan (s.itemsOfBatch chargeBatchId)))
        (.chargeItem i.id)).sum =
      creditSpent (s.creditPlan (s.itemsOfBatch chargeBatchId)) unitId := by
  rw [unitItemsOfBatch, itemsOfBatch, List.filter_filter, Table.sum_filter,
    Table.sum_share ObligationTarget.isPartialInv_chargeItem, ← itemsOfBatch, itemSettlement,
    creditSpent, share, List.map_map, List.map_map]
  refine congrArg List.sum (List.map_congr_left fun e he => ?_)
  have hany := any_find?_of_mem_creditPlan he unitId
  simp only [Bool.decide_and] at hany
  simp [ObligationTarget.chargeItemId?, hany, Bool.and_comm]

/-- The ledger after the issue records what the plan takes from the unit's credit. -/
theorem recordedCredit_issued (s : Store) (params : IssueChargeBatchParams) (now : Time)
    (batch : ChargeBatch) (unitId : ℕ) :
    (s.issued params now batch (s.creditPlan (s.itemsOfBatch params.chargeBatchId))).recordedCredit
        params.chargeBatchId unitId =
      s.recordedCredit params.chargeBatchId unitId +
        creditSpent (s.creditPlan (s.itemsOfBatch params.chargeBatchId)) unitId := by
  set plan := s.creditPlan (s.itemsOfBatch params.chargeBatchId) with hplan
  have hany : ∀ id, ((s.issued params now batch plan).chargeItems.find? id).any (fun i =>
      i.chargeBatchId = params.chargeBatchId ∧ i.unitId = unitId) =
      (s.chargeItems.find? id).any fun i =>
        i.chargeBatchId = params.chargeBatchId ∧ i.unitId = unitId := by
    intro id
    rw [find?_issued]
    cases s.chargeItems.find? id <;> rfl
  simp only [recordedCredit, hany]
  change Table.sum (Table.create (Table.createMany s.ledger plan _ _) _ _) _ = _
  have hadded := Table.sum_createMany s.ledger plan (fun (e : ChargeItem × ℤ) id =>
    ({ id, buildingId := params.buildingId, fundId := batch.fundId, entryType := .creditApplied,
       direction := .credit, amount := e.2, referenceType := .chargeItem, referenceId := e.1.id,
       createdAt := now } : LedgerEntry)) (fun _ _ => rfl)
    (fun e => if e.entryType = .creditApplied ∧ e.referenceType = .chargeItem ∧
      (s.chargeItems.find? e.referenceId).any fun i =>
        i.chargeBatchId = params.chargeBatchId ∧ i.unitId = unitId then e.amount else 0)
    (fun e => if (s.chargeItems.find? e.1.id).any fun i =>
        i.chargeBatchId = params.chargeBatchId ∧ i.unitId = unitId then e.2 else 0)
    (fun e n => by simp)
  rw [Table.sum_create]
  refine (add_eq_left.mpr (if_neg fun h => LedgerEntryType.noConfusion h.1)).trans
    (hadded.trans ?_)
  rw [creditSpent, share, List.map_map]
  refine congrArg₂ (· + ·) rfl (congrArg List.sum (List.map_congr_left fun e he => ?_))
  rw [any_find?_of_mem_creditPlan he unitId]
  simp

/-! ### The issue -/

/-- Issuing a batch applies the credit of the charged units to their items. -/
theorem Valid.creditAppliedAtIssue (h : s.Valid) {params : IssueChargeBatchParams} {now : Time}
    {batch : ChargeBatch} (heffect : IssueEffect params now s s' batch
      (s.creditPlan (s.itemsOfBatch params.chargeBatchId))) :
    s.CreditAppliedAtIssue s' params.chargeBatchId := by
  have hvalid := h.issued heffect
  have hadmissible := admissible_creditPlan h heffect.plan_ok
  have hspent := h.creditSpent_eq_applicable params.chargeBatchId
  obtain rfl := heffect.store_eq
  set plan := s.creditPlan (s.itemsOfBatch params.chargeBatchId) with hplan
  have hnonneg : ∀ i : ChargeItem, 0 ≤ share (itemSettlement plan) (.chargeItem i.id) := fun i =>
    share_itemSettlement_nonneg (fun e he => (heffect.plan_ok.bounds e he).1) _
  -- one goal for each field: the items, their order, the sum, the credit, the ledger, the rest
  refine ⟨fun i hi => ?_, fun unitId => ?_, fun unitId => ?_, fun unitId => ?_, fun unitId => ?_,
    ?_, ?_, ?_⟩
  · have hmem := (mem_itemsOfBatch.mp hi).1
    have hle := (hadmissible.item i hmem).2
    rw [paidBetween_issued hmem, find?_issued, Table.find?_of_mem hmem]
    exact ⟨hnonneg i, by rw [ChargeItem.outstanding]; omega, rfl⟩
  · refine (pairwise_settled ChargeItem.outstanding
      (s.nodup_unitItemsOfBatch params.chargeBatchId unitId) (s.availableCredit unitId)).imp_of_mem fun {i j} hi hj hsettled hpaid => ?_
    obtain ⟨hbatch, hunit⟩ := mem_unitItemsOfBatch.mp hi
    have hmem := (mem_itemsOfBatch.mp hbatch).1
    obtain ⟨hbatch', hunit'⟩ := mem_unitItemsOfBatch.mp hj
    have hmem' := (mem_itemsOfBatch.mp hbatch').1
    rw [paidBetween_issued hmem'] at hpaid
    obtain ⟨x, hx⟩ := exists_mem_creditPlan hmem' hpaid
    rw [outstandingOf_issued hmem]
    have hle := (hadmissible.item i hmem).2
    have hshare := hnonneg i
    by_cases hpos : 0 < i.outstanding
    · have hfull := hsettled ⟨x, mem_waterfall_of_mem_creditPlan hx hunit'⟩ hpos
      rw [share_of_mem_creditPlan (mem_creditPlan_of_mem_waterfall hfull), sub_self]
    · rw [ChargeItem.outstanding] at hpos ⊢
      omega
  · rw [← hspent unitId, ← sum_share_creditPlan]
    refine congrArg List.sum (List.map_congr_left fun i hi => ?_)
    exact paidBetween_issued (mem_itemsOfBatch.mp (mem_unitItemsOfBatch.mp hi).1).1
  · have hcredit : 0 ≤ (s.issued params now batch plan).availableCredit unitId := by
      rw [availableCredit]
      cases hc : (s.issued params now batch plan).creditBalanceOf unitId with
      | none => exact le_rfl
      | some c => exact hvalid.credit_nonneg c (creditBalanceOf_eq_some hc).1
    rw [hvalid.credit_unique.unitCredit, h.credit_unique.unitCredit, ← hspent unitId]
    refine ⟨?_, hcredit⟩
    rw [availableCredit_issued, availableCredit]
    cases hc : s.creditBalanceOf unitId with
    | none =>
      have hzero : s.availableCredit unitId = 0 := by rw [availableCredit, hc]; rfl
      have hnone : creditSpent plan unitId = 0 := by
        rw [hplan, creditSpent_creditPlan, poured, waterfall_of_nonpos _ hzero.le]
        rfl
      rw [hnone]
      rfl
    | some c => rfl
  · rw [← hspent unitId]
    exact s.recordedCredit_issued params now batch unitId
  · refine Table.outside_map (h := by exact fun _ => rfl) (fun _ _ => rfl) fun i hi hother => ?_
    have hnone : share (itemSettlement plan) (.chargeItem i.id) = 0 := by
      refine le_antisymm (not_lt.mp fun hpos => ?_) (hnonneg i)
      obtain ⟨x, hx⟩ := exists_mem_creditPlan hi hpos
      have hbatch := (mem_itemsOfBatch.mp
        ((s.creditPlan_sublist _).subset (List.mem_map_of_mem hx))).2
      exact absurd hbatch (by simpa using hother)
    rw [hnone, ChargeItem.pay_zero (h.item_status i hi)]
  · refine Table.outside_map (h := by exact fun _ => rfl) (fun _ _ => rfl) fun c _ hother => ?_
    have hempty : s.unitItemsOfBatch params.chargeBatchId c.unitId = [] := by simpa using hother
    have hnone : creditSpent plan c.unitId = 0 := by
      rw [hplan, creditSpent_creditPlan, ← unitItemsOfBatch, hempty]
      rfl
    rw [hnone, CreditBalance.spend, sub_zero]
  · exact settle_itemSettlement_adjustments (s.setBatchStatus params.chargeBatchId .issued) plan

/-! ### At most once -/

/-- The batch exists and is no draft any more. -/
def PastDraft (s : Store) (chargeBatchId : ℕ) : Prop :=
  ∃ b, s.chargeBatches.find? chargeBatchId = some b ∧ b.status ≠ .draft

/-- A batch that is no draft is not issued. -/
theorem PastDraft.not_issued {params : IssueChargeBatchParams} (h : s.PastDraft params.chargeBatchId)
    (now : Time) : ∃ error, (issueChargeBatch params now).run s = .error error := by
  cases hrun : (issueChargeBatch params now).run s with
  | error error => exact ⟨error, rfl⟩
  | ok r =>
    obtain ⟨b, t⟩ := r
    obtain ⟨batch, hfind, hstatus⟩ := h
    simp only [issueChargeBatch, Tx.run_query_bind, Tx.run_expect_bind_ok, Tx.run_require_bind_ok,
      Option.filter_eq_some_iff] at hrun
    obtain ⟨batch', ⟨hfind', -⟩, hdraft, -⟩ := hrun
    obtain rfl := Option.some.inj (hfind'.symm.trans hfind)
    exact absurd hdraft hstatus

/-- No write of a status makes a draft. -/
theorem PastDraft.setBatchStatus {k : ℕ} (h : s.PastDraft chargeBatchId)
    {status : ChargeBatchStatus} (hstatus : status ≠ .draft) :
    (s.setBatchStatus k status).PastDraft chargeBatchId := by
  obtain ⟨b, hfind, hb⟩ := h
  by_cases hk : chargeBatchId = k
  · subst hk
    exact ⟨_, Table.find?_modify_self (h := by exact fun _ => rfl) hfind, hstatus⟩
  · exact ⟨b, (Table.find?_modify_ne (h := by exact fun _ => rfl) hk).trans hfind, hb⟩

end Store

/-- A batch that is no draft stays so under every call. -/
theorem Call.Effect.pastDraft {c : Call} {s s' : Store} {now : Time}
    (heffect : c.Effect now s s') {chargeBatchId : ℕ} (h : s.PastDraft chargeBatchId) :
    s'.PastDraft chargeBatchId := by
  cases heffect with
  | createChargeBatch params _ _ =>
    obtain ⟨b, hfind, hb⟩ := h
    exact ⟨b, Table.find?_create_of_find? (h := fun _ => rfl) hfind, hb⟩
  | issueChargeBatch params _ batch plan heffect =>
    rw [heffect.store_eq]
    exact h.setBatchStatus ChargeBatchStatus.noConfusion
  | cancelChargeBatch params _ batch heffect =>
    rw [heffect.store_eq]
    exact h.setBatchStatus ChargeBatchStatus.noConfusion
  | createExplicitPayment params _ fundId heffect =>
    rw [heffect.store_eq]
    exact h
  | approvePayment params _ payment l heffect =>
    rw [heffect.store_eq]
    exact h
  | reversePayment params _ payment heffect =>
    rw [heffect.store_eq]
    exact h
  | _ => exact h

/-- In every reachable state, a batch that is issued applies to each unit the smaller of its
credit and of what its items in the batch have outstanding, in the order of the items, and
nothing else; and whatever happens afterwards, the batch is not issued again. -/
theorem issue_applies_credit {S : System} (h : S.Reachable) {params : IssueChargeBatchParams}
    {now : Time} {b : ChargeBatch} {s : Store}
    (hrun : (issueChargeBatch params now).run S.store = .ok (b, s)) :
    S.store.CreditAppliedAtIssue s params.chargeBatchId ∧
    ∀ inFlight : List Call, inFlight ⊆ S.inFlight →
      ∀ (es : List Event) (params' : IssueChargeBatchParams) (now' : Time),
        params'.chargeBatchId = params.chargeBatchId → ∃ error,
        (issueChargeBatch params' now').run (runFrom System.step ⟨s, inFlight⟩ es).store =
          .error error := by
  have hinv := System.inv_of_reachable h
  obtain ⟨batch, heffect⟩ :=
    issueChargeBatch_ok hinv.valid.item_status hinv.valid.credit_unique hrun
  refine ⟨hinv.valid.creditAppliedAtIssue heffect, fun inFlight hsubset es params' now' hid => ?_⟩
  have hissued : s.PastDraft params.chargeBatchId := by
    rw [heffect.store_eq]
    exact ⟨_, Table.find?_modify_self (h := by exact fun _ => rfl) heffect.find,
      ChargeBatchStatus.noConfusion⟩
  have hextends : S.store.Extends s :=
    (Call.Effect.issueChargeBatch params s batch _ heffect).extends
  have hthen : System.Inv ⟨s, inFlight⟩ :=
    ⟨hinv.valid.issued heffect, fun c hc => (hinv.calls c (hsubset hc)).mono hextends⟩
  have hstays := hthen.stays (P := fun s => s.PastDraft params.chargeBatchId) (fun _ _ h => h)
    (fun _ _ h => h) (fun _ _ h => h) (fun _ _ _ _ heffect h => heffect.pastDraft h) hissued es
  rw [← hid] at hstays
  exact hstays.not_issued now'

/-- A payment of the charge that exceeds it by `50`, which becomes credit, and a draft that
charges the unit twice. -/
def System.credited : List Event :=
  charged ++
    [.request (.createPayment tenancy 0 0
      { payerPersonId := 5, idempotencyKey := "first", fundId := some 0, amount := 150,
        method := .cash, isManualAmount := some true }) 3, .commit 0 3,
      .request (.approvePayment 0 0 7) 4, .commit 0 4,
      .request (.createChargeBatch 0
        { title := "Cleaning", calculationMethod := .mixed, fundId := some 0,
          items := some [(0, 30), (0, 40)] } 7) 5, .commit 0 5]

/-- The two items of the draft are paid `30` and `20` from the credit of `50`. -/
theorem issue_applies_credit_credited :
    ∃ b s, (issueChargeBatch { chargeBatchId := 1, buildingId := 0 } 6).run
        (runFrom System.step System.init System.credited).store = .ok (b, s) ∧
      (runFrom System.step System.init System.credited).store.applicableCredit 1 0 = 50 ∧
      (runFrom System.step System.init System.credited).store.CreditAppliedAtIssue s 1 := by
  obtain ⟨b, -, hrun⟩ := Tx.exists_run_ok
    (x := issueChargeBatch { chargeBatchId := 1, buildingId := 0 } 6)
    (s := (runFrom System.step System.init System.credited).store) (fun _ => true)
    (by decide +kernel)
  exact ⟨b, _, hrun, by decide +kernel, (issue_applies_credit ⟨System.credited, rfl⟩ hrun).1⟩

end VielHome.Finance
