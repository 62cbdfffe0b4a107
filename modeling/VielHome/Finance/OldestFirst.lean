import VielHome.Common.Ranges
import VielHome.Finance.NetDebt
import VielHome.Finance.Invariant.Reachable

/-!
# Automatic approvals pay the oldest debt first

The approval of a payment without selections runs two loops, one over the charge items of the
unit by due date and one over its positive adjustments by age, and hands the remainder from the
first to the second and then to the credit of the unit. The plan of the loops is one list of
amounts (`Store.automaticSettlement`), so what the approval does to an obligation is its share
of that list, and who comes before whom is a property of sorted lists (`settled_before`).

The balances of funds and units are `INTEGER` columns, and an approval that would bring one of them
out of its range is refused as a whole (`approvePaymentInRange`).
-/

namespace VielHome.Finance

open Relational

/-- The parameters with which the service approves a payment. -/
def Payment.approval (p : Payment) (actorId : ℕ) : ApprovePaymentParams :=
  { paymentId := p.id, buildingId := p.buildingId, unitId := p.unitId, fundId := p.fundId,
    amount := p.amount, actorId }

namespace Store

/-- The payment gives something to the obligation. -/
def Receives (s : Store) (paymentId : ℕ) (target : ObligationTarget) : Prop :=
  ∃ a ∈ s.allocationsOf paymentId, a.target = target

/-- The item comes strictly before the other in the order of due date and creation. -/
def DueBefore (s : Store) (j i : ChargeItem) : Prop := s.byDueDate j i ∧ ¬ s.byDueDate i j

/-- The credit of one unit. -/
def unitCredit (s : Store) (unitId : ℕ) : ℤ := s.credit fun u => u = unitId

/-- What the approval of a payment does with its amount. -/
structure PaidOldestFirst (s s' : Store) (p : Payment) : Prop where
  /-- Every allocation is positive and raises the paid amount of its obligation. -/
  positive : ∀ a ∈ s'.allocationsOf p.id, 0 < a.amount ∧ s.IsActive p.unitId a.target ∧
    s'.paidOf a.target = s.paidOf a.target + a.amount
  /-- The allocations and the added credit make up the amount. -/
  total : s'.allocatedTotal p.id + (s'.unitCredit p.unitId - s.unitCredit p.unitId) = p.amount
  /-- An item is paid only after the items that were due before it. -/
  items : ∀ i ∈ s.outstandingItems p.unitId, s'.Receives p.id (.chargeItem i.id) →
    ∀ j ∈ s.outstandingItems p.unitId, s.DueBefore j i → s'.outstandingOf (.chargeItem j.id) = 0
  /-- An adjustment is paid only after all items and the older adjustments. -/
  adjustments : ∀ a ∈ s.positiveAdjustments p.unitId, s'.Receives p.id (.adjustment a.id) →
    (∀ i ∈ s.outstandingItems p.unitId, s'.outstandingOf (.chargeItem i.id) = 0) ∧
    ∀ b ∈ s.positiveAdjustments p.unitId, b.createdAt < a.createdAt →
      s'.outstandingOf (.adjustment b.id) = 0
  /-- Credit is added only when nothing remains. -/
  credit : s.unitCredit p.unitId < s'.unitCredit p.unitId →
    ∀ target, s.IsActive p.unitId target → s'.outstandingOf target ≤ 0

/-- The rows that the approval of a payment leaves alone, and what it does to the rows of the
payment, of its fund and of the ledger. -/
structure TouchedOnlyBy (s s' : Store) (p : Payment) (actorId : ℕ) (now : Time) : Prop where
  others : s'.buildings = s.buildings ∧ s'.units = s.units ∧ s'.chargeSeries = s.chargeSeries ∧
    s'.chargeBatches = s.chargeBatches ∧ s'.debtSelections = s.debtSelections ∧
    s'.refunds = s.refunds ∧ s'.expenses = s.expenses
  items : s'.chargeItems.outside (fun i => i.unitId = p.unitId) =
    s.chargeItems.outside fun i => i.unitId = p.unitId
  adjustments : s'.adjustments.outside (fun a => a.unitId = p.unitId) =
    s.adjustments.outside fun a => a.unitId = p.unitId
  credit : s'.creditBalances.outside (fun c => c.unitId = p.unitId) =
    s.creditBalances.outside fun c => c.unitId = p.unitId
  allocations : s'.allocations.outside (fun a => a.paymentId = p.id) =
    s.allocations.outside fun a => a.paymentId = p.id
  payments : s'.payments = s.payments.modify p.id ((p.approval actorId).approve now)
  funds : s'.funds =
    s.funds.modify p.fundId fun f => { f with balance := f.balance + p.amount }
  ledger : s'.ledger = s.ledger.create fun id =>
    { id, buildingId := p.buildingId, fundId := p.fundId, entryType := .payment,
      direction := .credit, amount := p.amount, referenceType := .payment, referenceId := p.id,
      createdAt := now }

variable {s s' : Store}

/-! ### The approval commits -/

/-- A pending automatic payment is approved. -/
theorem run_approveAutomatic (hs : s.StatusOk) (params : ApprovePaymentParams) {p : Payment}
    (now : Time) (hfind : s.payments.find? params.paymentId = some p)
    (hpending : p.status = .pendingApproval) (hmode : p.selectionMode = .legacyAutomatic)
    (hfund : ∃ fund, s.funds.find? params.fundId = some fund) :
    (approvePayment params now).run s = .ok (params.approve now p,
      s.approved params now .legacyAutomatic
        (s.automaticSettlement params.unitId params.amount)) := by
  have hbranch : (approveAutomatic params now).run s = .ok (⟨⟩,
      s.approved params now .legacyAutomatic
        (s.automaticSettlement params.unitId params.amount)) :=
    (approveAutomatic_ok hs).mpr ⟨hfund, rfl⟩
  have hfilter : (some p).filter (fun p => p.status = .pendingApproval) = some p :=
    Option.filter_eq_some_iff.mpr ⟨rfl, decide_eq_true hpending⟩
  rw [approvePayment, Tx.run_query_bind, hfind, hfilter, Tx.run_expect_bind]
  simp only [hmode]
  exact Tx.run_bind_of_ok hbranch

/-! ### The orders of the loops -/

theorem byDueDate_total (s : Store) (i j : ChargeItem) : s.byDueDate i j ∨ s.byDueDate j i :=
  ThenBy.total (fun _ _ => NullsLast.total _ _) (fun _ _ => le_total _ _) i j

theorem pairwise_outstandingItemsByDueDate (s : Store) (unitId : ℕ) :
    (s.outstandingItemsByDueDate unitId).Pairwise s.byDueDate := by
  have : Std.Total s.byDueDate := ⟨s.byDueDate_total⟩
  have : IsTrans ChargeItem s.byDueDate :=
    ⟨ThenBy.trans (fun _ _ _ => NullsLast.trans _ _ _) fun _ _ _ => le_trans⟩
  exact List.pairwise_insertionSort s.byDueDate _

theorem pairwise_positiveAdjustmentsByAge (s : Store) (unitId : ℕ) :
    (s.positiveAdjustmentsByAge unitId).Pairwise fun a b => a.createdAt ≤ b.createdAt := by
  have : Std.Total fun a b : Adjustment => a.createdAt ≤ b.createdAt := ⟨fun _ _ => le_total _ _⟩
  have : IsTrans Adjustment fun a b => a.createdAt ≤ b.createdAt := ⟨fun _ _ _ => le_trans⟩
  exact List.pairwise_insertionSort _ _

/-! ### What is settled -/

/-- An obligation that is given all it has outstanding, if anything, is settled. -/
theorem outstandingOf_settle_eq_zero_of_mem {l : Settlement} {unitId : ℕ}
    (hl : l.Due s unitId) {target : ObligationTarget} (hactive : s.IsActive unitId target)
    (hnonneg : 0 ≤ s.outstandingOf target)
    (hmem : 0 < s.outstandingOf target → (target, s.outstandingOf target) ∈ l) :
    (s.settle l).outstandingOf target = 0 := by
  have hshare : share l target = s.outstandingOf target := by
    by_cases hpos : 0 < s.outstandingOf target
    · exact share_of_mem hl.nodup (hmem hpos)
    · have hle : share l target ≤ 0 := share_le hl.nodup le_rfl fun e he heq => by
        have := hl.le e he
        rw [heq] at this
        omega
      have hge := share_nonneg (fun e he => (hl.pos e he).le) target
      omega
  rw [outstandingOf_settle hactive, hshare, sub_self]

variable {unitId : ℕ} {amount : ℤ}

/-- What the automatic settlement gives to an item is in the plan of the first loop. -/
theorem mem_waterfall_of_mem_automaticSettlement {i : ChargeItem} (hi : i ∈ s.chargeItems)
    {x : ℤ} (h : (ObligationTarget.chargeItem i.id, x) ∈ s.automaticSettlement unitId amount) :
    (i, x) ∈ waterfall ChargeItem.outstanding (s.outstandingItemsByDueDate unitId) amount := by
  rcases List.mem_append.mp h with h | h
  · obtain ⟨⟨j, y⟩, hj, heq⟩ := List.mem_map.mp h
    obtain ⟨hid, rfl⟩ := Prod.mk.inj heq
    have hmem := mem_outstandingItems.mp
      (mem_outstandingItemsByDueDate.mp (fst_mem_of_mem_waterfall hj))
    rwa [← Table.eq_of_key_eq hmem.1 hi (ObligationTarget.chargeItem.inj hid)]
  · obtain ⟨⟨a, y⟩, -, heq⟩ := List.mem_map.mp h
    exact absurd (congrArg Prod.fst heq) (by simp)

/-- What the first loop leaves for the second. -/
def remainingAfterItems (s : Store) (unitId : ℕ) (amount : ℤ) : ℤ :=
  amount - poured ChargeItem.outstanding (s.outstandingItemsByDueDate unitId) amount

/-- What the automatic settlement gives to an adjustment is in the plan of the second loop. -/
theorem mem_waterfall_of_mem_automaticSettlement' {a : Adjustment} (ha : a ∈ s.adjustments)
    {x : ℤ} (h : (ObligationTarget.adjustment a.id, x) ∈ s.automaticSettlement unitId amount) :
    (a, x) ∈ waterfall Adjustment.outstanding (s.positiveAdjustmentsByAge unitId)
      (s.remainingAfterItems unitId amount) := by
  rcases List.mem_append.mp h with h | h
  · obtain ⟨⟨i, y⟩, -, heq⟩ := List.mem_map.mp h
    exact absurd (congrArg Prod.fst heq) (by simp)
  · obtain ⟨⟨b, y⟩, hb, heq⟩ := List.mem_map.mp h
    obtain ⟨hid, rfl⟩ := Prod.mk.inj heq
    have hmem := mem_positiveAdjustments.mp
      (mem_positiveAdjustmentsByAge.mp (fst_mem_of_mem_waterfall hb))
    rwa [← Table.eq_of_key_eq hmem.1 ha (ObligationTarget.adjustment.inj hid)]

/-- An item that is settled or planned in full has nothing outstanding afterwards. -/
theorem Valid.item_settled (h : s.Valid) {j : ChargeItem} (hj : j ∈ s.outstandingItems unitId)
    (hmem : 0 < j.outstanding → (j, j.outstanding) ∈
      waterfall ChargeItem.outstanding (s.outstandingItemsByDueDate unitId) amount) :
    (s.settle (s.automaticSettlement unitId amount)).outstandingOf (.chargeItem j.id) = 0 := by
  obtain ⟨hjmem, hunit, -, hbilled⟩ := mem_outstandingItems.mp hj
  have hout := outstandingOf_chargeItem hjmem
  refine outstandingOf_settle_eq_zero_of_mem (s.due_automaticSettlement unitId amount)
    ⟨j, Table.find?_of_mem hjmem, hunit, hbilled⟩ ?_ fun hpos => ?_
  · rw [hout]
    exact sub_nonneg.mpr (h.item_paid j hjmem).2
  · rw [hout] at hpos ⊢
    exact List.mem_append_left _ (List.mem_map.mpr ⟨_, hmem hpos, rfl⟩)

/-- An adjustment that is planned in full has nothing outstanding afterwards. -/
theorem Valid.adjustment_settled (h : s.Valid) {b : Adjustment}
    (hb : b ∈ s.positiveAdjustments unitId)
    (hmem : 0 < b.outstanding → (b, b.outstanding) ∈ waterfall Adjustment.outstanding
      (s.positiveAdjustmentsByAge unitId) (s.remainingAfterItems unitId amount)) :
    (s.settle (s.automaticSettlement unitId amount)).outstandingOf (.adjustment b.id) = 0 := by
  obtain ⟨hbmem, hunit, hpositive⟩ := mem_positiveAdjustments.mp hb
  have hout := outstandingOf_adjustment hbmem
  refine outstandingOf_settle_eq_zero_of_mem (s.due_automaticSettlement unitId amount)
    ⟨b, Table.find?_of_mem hbmem, hunit⟩ ?_ fun hpos => ?_
  · have hle := (h.adjustment_paid b hbmem).2
    rw [hout, Adjustment.outstanding]
    omega
  · rw [hout] at hpos ⊢
    exact List.mem_append_right _ (List.mem_map.mpr ⟨_, hmem hpos, rfl⟩)

/-- When the first loop leaves something, every item is settled. -/
theorem Valid.items_settled (h : s.Valid) (hleft : 0 < s.remainingAfterItems unitId amount)
    {j : ChargeItem} (hj : j ∈ s.outstandingItems unitId) :
    (s.settle (s.automaticSettlement unitId amount)).outstandingOf (.chargeItem j.id) = 0 :=
  h.item_settled hj fun hpos => settled_of_poured_lt (sub_pos.mp hleft)
    (mem_outstandingItemsByDueDate.mpr hj) hpos

/-- When an amount is left after both loops, nothing of the unit is outstanding. -/
theorem Valid.all_settled (h : s.Valid)
    (hleft : (s.automaticSettlement unitId amount).total < amount) {target : ObligationTarget}
    (hactive : s.IsActive unitId target) :
    (s.settle (s.automaticSettlement unitId amount)).outstandingOf target ≤ 0 := by
  set l := s.automaticSettlement unitId amount with hl
  have htotal : l.total = (amount - s.remainingAfterItems unitId amount) +
      poured Adjustment.outstanding (s.positiveAdjustmentsByAge unitId)
        (s.remainingAfterItems unitId amount) := by
    rw [hl, automaticSettlement, Settlement.total_append, total_itemSettlement,
      total_adjustmentSettlement, remainingAfterItems]
    omega
  have hpoured : 0 ≤ poured Adjustment.outstanding (s.positiveAdjustmentsByAge unitId)
      (s.remainingAfterItems unitId amount) := poured_nonneg _ _
  have hdue : l.Due s unitId := s.due_automaticSettlement unitId amount
  have hactive' := hactive
  cases target with
  | chargeItem id =>
    obtain ⟨i, hi, hunit, hbilled⟩ := hactive
    obtain rfl := Table.key_of_find? hi
    have hmem := Table.mem_of_find? hi
    by_cases hpaid : i.status = .paid
    · -- a paid item had nothing outstanding to begin with
      have hzero : s.outstandingOf (.chargeItem i.id) = 0 :=
        (outstandingOf_chargeItem hmem).trans (h.outstanding_eq_zero hmem hpaid)
      exact (outstandingOf_settle_eq_zero_of_mem hdue hactive' hzero.ge fun hpos =>
        absurd hpos hzero.not_gt).le
    · exact (h.items_settled (by omega)
        (mem_outstandingItems.mpr ⟨hmem, hunit, hpaid, hbilled⟩)).le
  | adjustment id =>
    obtain ⟨a, ha, hunit⟩ := hactive
    obtain rfl := Table.key_of_find? ha
    have hmem := Table.mem_of_find? ha
    by_cases hpositive : 0 < a.amount
    · have hb := mem_positiveAdjustments.mpr ⟨hmem, hunit, hpositive⟩
      exact (h.adjustment_settled hb fun hpos => settled_of_poured_lt (by omega)
        (mem_positiveAdjustmentsByAge.mpr hb) hpos).le
    · -- a waiver is no debt
      have hshare := share_nonneg (fun e he => (hdue.pos e he).le) (.adjustment a.id)
      have hpaid := (h.adjustment_paid a hmem).1
      rw [outstandingOf_settle hactive', outstandingOf_adjustment hmem, Adjustment.outstanding]
      omega

/-! ### The approval -/

section Approval

variable {p : Payment} {actorId : ℕ} {now : Time}

/-- The allocations of a payment that was just approved are what its approval settled. -/
theorem Valid.allocationsOf_approved (h : s.Valid) (hp : p ∈ s.payments)
    (hpending : p.status = .pendingApproval) (actorId : ℕ) (now : Time)
    (mode : PaymentSelectionMode) (l : Settlement) :
    ((s.approved (p.approval actorId) now mode l).allocationsOf p.id).map
      (fun a => (a.target, a.amount)) = l := by
  have hnone := h.allocationsOf_pending (Table.find?_of_mem hp) hpending
  refine (map_allocationsOf_createMany (l := l)).trans ?_
  rw [Payment.approval, hnone, if_pos rfl]
  rfl

/-- What is not settled becomes credit. -/
theorem Valid.unitCredit_approved (h : s.Valid) {l : Settlement}
    (heffect : ApprovalEffect (p.approval actorId) now s s' p l) :
    s'.unitCredit p.unitId = s.unitCredit p.unitId + (p.amount - l.total) := by
  have hadded := CreditUnique.credit_approved (p := fun u => u = p.unitId) h.credit_unique heffect
  simpa [Store.unitCredit, Payment.approval] using hadded

/-- An automatic approval pays the oldest debt first. -/
theorem Valid.paidOldestFirst (h : s.Valid) {l : Settlement}
    (heffect : ApprovalEffect (p.approval actorId) now s s' p l)
    (hmode : p.selectionMode = .legacyAutomatic) : s.PaidOldestFirst s' p := by
  have hl : l = s.automaticSettlement p.unitId p.amount := heffect.automatic hmode
  have hallocations : (s'.allocationsOf p.id).map (fun a => (a.target, a.amount)) = l := by
    rw [heffect.store_eq]
    exact h.allocationsOf_approved (Table.mem_of_find? heffect.find) heffect.pending _ _ _ _
  have hentry : ∀ a ∈ s'.allocationsOf p.id, (a.target, a.amount) ∈ l := fun a ha =>
    hallocations ▸ List.mem_map.mpr ⟨a, ha, rfl⟩
  -- the obligations after the approval are those after the settlement
  have hpaid : ∀ target, s'.paidOf target = (s.settle l).paidOf target := fun _ => by
    rw [heffect.store_eq]
    rfl
  have hout : ∀ target, s'.outstandingOf target = (s.settle l).outstandingOf target := fun _ => by
    rw [heffect.store_eq]
    rfl
  have hcredit := h.unitCredit_approved heffect
  refine ⟨fun a ha => ?_, ?_, fun i hi hreceives j hj hbefore => ?_, fun a ha hreceives => ?_,
    fun hgrew target hactive => ?_⟩
  · have hmem := hentry a ha
    have hactive : s.IsActive p.unitId a.target := heffect.due.isActive _ hmem
    have hshare : share l a.target = a.amount := share_of_mem heffect.due.nodup hmem
    refine ⟨heffect.due.pos _ hmem, hactive, ?_⟩
    rw [hpaid, paidOf_settle hactive, hshare]
  · have hsum : s'.allocatedTotal p.id = l.total := by
      rw [allocatedTotal, Settlement.total, ← hallocations, List.map_map]
      rfl
    rw [hsum, hcredit]
    omega
  · obtain ⟨a, ha, htarget⟩ := hreceives
    have hmem := hentry a ha
    rw [htarget, hl] at hmem
    have hplanned := mem_waterfall_of_mem_automaticSettlement (mem_outstandingItems.mp hi).1 hmem
    rw [hout, hl]
    refine h.item_settled hj fun hpos => settled_before ?_ ?_ hplanned
      (mem_outstandingItemsByDueDate.mpr hj) (fun he => hbefore.2 (he ▸ hbefore.1)) hbefore.2 hpos
    · exact s.pairwise_outstandingItemsByDueDate p.unitId
    · exact List.Nodup.of_map ChargeItem.id nodup_outstandingItemsByDueDate
  · obtain ⟨a', ha', htarget⟩ := hreceives
    have hmem := hentry a' ha'
    rw [htarget, hl] at hmem
    have hplanned := mem_waterfall_of_mem_automaticSettlement' (mem_positiveAdjustments.mp ha).1 hmem
    refine ⟨fun i hi => ?_, fun b hb hbefore => ?_⟩
    · -- the second loop gave something, so the first one left something
      have hleft : 0 < s.remainingAfterItems p.unitId p.amount := by
        by_contra hnone
        rw [waterfall_of_nonpos _ (not_lt.mp hnone)] at hplanned
        exact absurd hplanned List.not_mem_nil
      rw [hout, hl]
      exact h.items_settled hleft hi
    · rw [hout, hl]
      refine h.adjustment_settled hb fun hpos => settled_before
        (R := fun a b => a.createdAt ≤ b.createdAt) ?_ ?_ hplanned
        (mem_positiveAdjustmentsByAge.mpr hb) (fun he => (he ▸ hbefore).false) (not_le.mpr hbefore)
        hpos
      · exact s.pairwise_positiveAdjustmentsByAge p.unitId
      · exact List.Nodup.of_map Adjustment.id nodup_positiveAdjustmentsByAge
  · rw [hout, hl]
    refine h.all_settled ?_ hactive
    rw [← hl]
    omega

/-- A settlement of the unit's obligations leaves the items of other units alone. -/
theorem outside_settle_chargeItems (hs : s.StatusOk) {l : Settlement} (hl : l.Due s unitId) :
    (s.settle l).chargeItems.outside (fun i => i.unitId = unitId) =
      s.chargeItems.outside fun i => i.unitId = unitId := by
  refine Table.outside_map (h := by exact fun _ => rfl) (fun _ _ => rfl) fun i hi hother => ?_
  have hnone : share l (.chargeItem i.id) = 0 := share_of_forall_ne fun e he heq => by
    have hactive := hl.isActive e he
    rw [heq] at hactive
    obtain ⟨i', hi', hunit, -⟩ := hactive
    obtain rfl := Option.some.inj (hi'.symm.trans (Table.find?_of_mem hi))
    exact absurd hunit (by simpa using hother)
  rw [hnone, ChargeItem.pay_zero (hs i hi)]

/-- A settlement of the unit's obligations leaves the adjustments of other units alone. -/
theorem outside_settle_adjustments {l : Settlement} (hl : l.Due s unitId) :
    (s.settle l).adjustments.outside (fun a => a.unitId = unitId) =
      s.adjustments.outside fun a => a.unitId = unitId := by
  refine Table.outside_map (h := by exact fun _ => rfl) (fun _ _ => rfl) fun a ha hother => ?_
  have hnone : share l (.adjustment a.id) = 0 := share_of_forall_ne fun e he heq => by
    have hactive := hl.isActive e he
    rw [heq] at hactive
    obtain ⟨a', ha', hunit⟩ := hactive
    obtain rfl := Option.some.inj (ha'.symm.trans (Table.find?_of_mem ha))
    exact absurd hunit (by simpa using hother)
  rw [hnone, Adjustment.pay_zero]

/-- Credit of a unit is not credit of another. -/
theorem outside_upsertCredit (s : Store) (unitId buildingId : ℕ) (amount : ℤ) :
    (s.upsertCredit unitId buildingId amount).creditBalances.outside (fun c => c.unitId = unitId) =
      s.creditBalances.outside fun c => c.unitId = unitId := by
  simp only [upsertCredit]
  split
  · refine Table.outside_map (fun c _ => ?_) fun c _ hother => ?_
    · split <;> rfl
    · rw [if_neg (by simpa using hother)]
  · exact Table.outside_create (decide_eq_true rfl)

/-- An automatic approval touches the unit's obligations and credit, the payment, its fund and
the ledger. -/
theorem Valid.touchedOnlyBy (h : s.Valid) {l : Settlement}
    (heffect : ApprovalEffect (p.approval actorId) now s s' p l)
    (hmode : p.selectionMode = .legacyAutomatic) : s.TouchedOnlyBy s' p actorId now := by
  rw [heffect.store_eq, hmode]
  refine ⟨⟨rfl, rfl, rfl, rfl, rfl, rfl, rfl⟩, outside_settle_chargeItems h.item_status heffect.due,
    outside_settle_adjustments heffect.due, ?_, Table.outside_createMany fun _ _ _ => ?_, rfl, rfl,
    rfl⟩
  · simp only [Store.approved]
    split
    · exact s.outside_upsertCredit p.unitId p.buildingId _
    · rfl
  · exact decide_eq_true rfl

end Approval

end Store

/-! ### The columns of the balances -/

namespace Store

/-- The balances that the approval has written fit their columns; the credit of the unit is only
written when an amount is added to it. -/
def BalancesFit (s s' : Store) (params : ApprovePaymentParams) : Prop :=
  (s'.funds.find? params.fundId).all (fun f => decide (FitsInteger f.balance)) = true ∧
    (s'.unitCredit params.unitId = s.unitCredit params.unitId ∨
      FitsInteger (s'.unitCredit params.unitId))

instance (s s' : Store) (params : ApprovePaymentParams) : Decidable (s.BalancesFit s' params) :=
  inferInstanceAs (Decidable (_ ∧ _))

/-- What the unit's debt leaves of the amount of a payment. -/
def leftOver (s : Store) (p : Payment) : ℤ :=
  p.amount - (s.automaticSettlement p.unitId p.amount).total

/-- The fund can take the amount of the payment, and the unit what its debt leaves of it. -/
structure HasRoomFor (s : Store) (p : Payment) : Prop where
  fund : ∀ f, s.funds.find? p.fundId = some f → FitsInteger (f.balance + p.amount)
  credit : 0 < s.leftOver p → FitsInteger (s.unitCredit p.unitId + s.leftOver p)

/-- The balances that an automatic approval writes fit when there is room for the payment. -/
theorem Valid.balancesFit_iff {s s' : Store} (h : s.Valid) {p : Payment} {actorId : ℕ} {now : Time}
    {l : Settlement} (heffect : ApprovalEffect (p.approval actorId) now s s' p l)
    (hmode : p.selectionMode = .legacyAutomatic) :
    s.BalancesFit s' (p.approval actorId) ↔ s.HasRoomFor p := by
  have hleft : s.leftOver p = p.amount - l.total := by
    rw [leftOver, heffect.automatic hmode]
    rfl
  have hnonneg : 0 ≤ s.leftOver p := by
    rw [hleft]
    exact sub_nonneg.mpr heffect.total_le
  have hcredit : s'.unitCredit p.unitId = s.unitCredit p.unitId + s.leftOver p := by
    rw [hleft]
    exact h.unitCredit_approved heffect
  obtain ⟨fund, hfind⟩ := heffect.fund
  have hfund : s'.funds.find? p.fundId = some { fund with balance := fund.balance + p.amount } := by
    rw [heffect.store_eq]
    exact Table.find?_modify_self (h := by exact fun _ => rfl) hfind
  have hcreditFits : (s'.unitCredit p.unitId = s.unitCredit p.unitId ∨
      FitsInteger (s'.unitCredit p.unitId)) ↔
        (0 < s.leftOver p → FitsInteger (s.unitCredit p.unitId + s.leftOver p)) := by
    rw [hcredit, add_eq_left, hnonneg.lt_iff_ne', ne_eq, or_iff_not_imp_left]
  have hfundFits : (s'.funds.find? p.fundId).all (fun f => decide (FitsInteger f.balance)) = true ↔
      ∀ f, s.funds.find? p.fundId = some f → FitsInteger (f.balance + p.amount) := by
    rw [hfund, show s.funds.find? p.fundId = some fund from hfind]
    simp
  constructor
  · rintro ⟨hf, hc⟩
    exact ⟨hfundFits.mp hf, hcreditFits.mp hc⟩
  · rintro ⟨hf, hc⟩
    exact ⟨hfundFits.mpr hf, hcreditFits.mpr hc⟩

end Store

/-- `approvePayment` on a database that refuses to write a balance out of the range of its
column. -/
def approvePaymentInRange (params : ApprovePaymentParams) (now : Time) :
    Tx Store Failure Payment := do
  let before ← Tx.query fun s => s
  let payment ← approvePayment params now
  let after ← Tx.query fun s => s
  Tx.require (before.BalancesFit after params) .invalidArgument
  pure payment

theorem approvePaymentInRange_ok {s s' : Store} {params : ApprovePaymentParams} {now : Time}
    {p : Payment} :
    (approvePaymentInRange params now).run s = .ok (p, s') ↔
      (approvePayment params now).run s = .ok (p, s') ∧ s.BalancesFit s' params := by
  rw [approvePaymentInRange, Tx.run_query_bind, Tx.run_bind_ok]
  simp only [Tx.run_query_bind, Tx.run_require_bind_ok, Tx.run_pure_ok]
  constructor
  · rintro ⟨payment, s₁, hrun, hfit, rfl, rfl⟩
    exact ⟨hrun, hfit⟩
  · rintro ⟨hrun, hfit⟩
    exact ⟨p, s', hrun, hfit, rfl, rfl⟩

/-- In every reachable state, approving a pending payment without selections commits exactly when
the fund and the unit's credit have room for it. Its amount then goes to the unit's charge items by
due date, then to its adjustments by age, then to its credit, and nothing else is touched but the
payment, its fund and the ledger. -/
theorem approval_pays_oldest_first {S : System} (h : S.Reachable) {p : Payment}
    (hp : p ∈ S.store.payments) (hpending : p.status = .pendingApproval)
    (hmode : p.selectionMode = .legacyAutomatic) (actorId : ℕ) (now : Time) :
    ((∃ payment s', (approvePaymentInRange (p.approval actorId) now).run S.store =
        .ok (payment, s')) ↔ S.store.HasRoomFor p) ∧
      ∀ payment s', (approvePaymentInRange (p.approval actorId) now).run S.store =
          .ok (payment, s') →
        payment = (p.approval actorId).approve now p ∧ S.store.PaidOldestFirst s' p ∧
          S.store.TouchedOnlyBy s' p actorId now := by
  have hvalid := System.valid_of_reachable h
  have hfind := Table.find?_of_mem hp
  have hfund : ∃ fund, S.store.funds.find? p.fundId = some fund := by
    obtain ⟨fund, hfund, -⟩ := Option.map_eq_some_iff.mp (hvalid.payment_fund p hp)
    exact ⟨fund, hfund⟩
  -- without the columns the approval always commits, and in one way
  have hrun := Store.run_approveAutomatic hvalid.item_status (p.approval actorId) now hfind hpending
    hmode hfund
  obtain ⟨payment, l, heffect, -⟩ := hvalid.approvalEffect
    ⟨p, hfind, rfl, rfl, rfl, rfl⟩ hrun
  obtain rfl : p = payment := Option.some.inj (hfind.symm.trans heffect.find)
  have hfit := hvalid.balancesFit_iff heffect hmode
  constructor
  · constructor
    · rintro ⟨payment, s', hrange⟩
      obtain ⟨hrun', hfits⟩ := approvePaymentInRange_ok.mp hrange
      obtain ⟨-, rfl⟩ := Prod.mk.inj (Except.ok.inj (hrun.symm.trans hrun'))
      exact hfit.mp hfits
    · intro hroom
      exact ⟨_, _, approvePaymentInRange_ok.mpr ⟨hrun, hfit.mpr hroom⟩⟩
  · intro payment s' hrange
    obtain ⟨rfl, rfl⟩ := Prod.mk.inj (Except.ok.inj
      (hrun.symm.trans (approvePaymentInRange_ok.mp hrange).1))
    exact ⟨rfl, hvalid.paidOldestFirst heffect hmode, hvalid.touchedOnlyBy heffect hmode⟩

/-- The payment of the charge, before its approval. -/
def System.reportedPayment : Payment :=
  { id := 0, buildingId := 0, unitId := 0, fundId := 0, payerId := 5, amount := 100,
    method := .cash, idempotencyKey := some "first", createdAt := 3 }

/-- The approval of the payment of the charge. -/
theorem approval_pays_oldest_first_reported :
    (∃ payment s', (approvePaymentInRange (System.reportedPayment.approval 7) 4).run
        (runFrom System.step System.init System.reported).store = .ok (payment, s') ∧
      (runFrom System.step System.init System.reported).store.PaidOldestFirst s'
        System.reportedPayment ∧
      (runFrom System.step System.init System.reported).store.TouchedOnlyBy s'
        System.reportedPayment 7 4) := by
  have happroval := approval_pays_oldest_first ⟨System.reported, rfl⟩
    (p := System.reportedPayment)
    (Table.mem_rows.mp (List.mem_of_elem_eq_true (by decide +kernel))) rfl rfl 7 4
  obtain ⟨payment, -, hrun⟩ := Tx.exists_run_ok
    (x := approvePaymentInRange (System.reportedPayment.approval 7) 4)
    (s := (runFrom System.step System.init System.reported).store) (fun _ => true)
    (by decide +kernel)
  obtain ⟨-, hpaid, htouched⟩ := happroval.2 payment _ hrun
  exact ⟨payment, _, hrun, hpaid, htouched⟩

/-- A fund of two thousand million, and a charge of five hundred million that is reported as
paid. -/
def System.fullFund : List Event :=
  [.addBuilding, .addUnit 0 "1" .residential none,
    .request (.createFund 0
      { name := "Current", type := .current, initialBalance := some 2000000000 }) 0, .commit 0 0,
    .request (.createChargeBatch 0
      { title := "Repair", calculationMethod := .mixed, fundId := some 0,
        items := some [(0, 500000000)] } 7) 1, .commit 0 1,
    .request (.issueChargeBatch 0 0) 2, .commit 0 2,
    .request (.createPayment tenancy 0 0
      { payerPersonId := 5, idempotencyKey := "first", fundId := some 0, amount := 500000000,
        method := .cash }) 3, .commit 0 3]

/-- The fund cannot hold both, so the pending payment is not approved. -/
theorem full_fund_refuses :
    ¬ ∀ (S : System) (p : Payment), S.Reachable → p ∈ S.store.payments →
      p.status = .pendingApproval → p.selectionMode = .legacyAutomatic →
      ∃ payment s', (approvePaymentInRange (p.approval 7) 4).run S.store = .ok (payment, s') := by
  intro hall
  obtain ⟨payment, s', hrun⟩ := hall (runFrom System.step System.init System.fullFund)
    { System.reportedPayment with amount := 500000000 } ⟨System.fullFund, rfl⟩
    (Table.mem_rows.mp (List.mem_of_elem_eq_true (by decide +kernel))) rfl rfl
  have hrefused : ((approvePaymentInRange
      (Payment.approval { System.reportedPayment with amount := 500000000 } 7) 4).run
        (runFrom System.step System.init System.fullFund).store).toOption.isNone := by
    decide +kernel
  rw [hrun] at hrefused
  exact absurd hrefused (by simp [Except.toOption])

end VielHome.Finance
