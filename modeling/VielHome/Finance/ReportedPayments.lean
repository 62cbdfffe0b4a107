import VielHome.Finance.Invariant.Reachable

/-!
# Reported payments against the debt

The credit of a unit and its pending payments should fit within its debt, or some of the debt
is reported for payment twice. The automatic path keeps this by its ceiling, the remaining
payable amount. The explicit path has no ceiling: it excludes obligations that are reserved,
but an automatic payment reserves nothing.
-/

namespace VielHome.Finance

open Relational

namespace Store

/-- The unit's credit and its pending payments together fit within its debt. -/
def ReportedWithinDebt (s : Store) (unitId : ℕ) : Prop :=
  (s.computeDebtSnapshot unitId).creditBalance +
      (s.computeDebtSnapshot unitId).pendingPaymentAmount ≤
    (s.computeDebtSnapshot unitId).totalDebt

variable {s : Store}

/-- What the snapshot offers for payment. -/
theorem remainingPayable_eq (s : Store) (unitId : ℕ) :
    (s.computeDebtSnapshot unitId).remainingPayable =
      max ((s.computeDebtSnapshot unitId).totalDebt -
        (s.computeDebtSnapshot unitId).creditBalance -
        (s.computeDebtSnapshot unitId).pendingPaymentAmount) 0 := rfl

/-- A new pending payment counts in the snapshot of its unit, and moves nothing else. -/
theorem computeDebtSnapshot_create (row : ℕ → Payment) (hid : ∀ id, (row id).id = id)
    (hpending : (row s.payments.next).status = .pendingApproval)
    (selections : Table PaymentDebtSelection PaymentDebtSelection.id) :
    let s' : Store :=
      { s with payments := s.payments.create row hid, debtSelections := selections }
    let unitId := (row s.payments.next).unitId
    (s'.computeDebtSnapshot unitId).totalDebt = (s.computeDebtSnapshot unitId).totalDebt ∧
      (s'.computeDebtSnapshot unitId).creditBalance =
        (s.computeDebtSnapshot unitId).creditBalance ∧
      (s'.computeDebtSnapshot unitId).pendingPaymentAmount =
        (s.computeDebtSnapshot unitId).pendingPaymentAmount + (row s.payments.next).amount := by
  intro s' unitId
  refine ⟨rfl, rfl, ?_⟩
  have hrows : s'.pendingPayments unitId =
      s.pendingPayments unitId ++ [row s.payments.next] := by
    rw [pendingPayments, pendingPayments]
    change (s.payments.rows ++ [row s.payments.next]).filter _ = _
    rw [List.filter_append, List.filter_singleton]
    simp [unitId, hpending]
  change ((s'.pendingPayments unitId).map _).sum = ((s.pendingPayments unitId).map _).sum + _
  rw [hrows, List.map_append, List.sum_append]
  simp

/-- A positive amount that is reported fits within the debt if and only if it is at most what
remained payable. -/
theorem reportedWithinDebt_create_iff (row : ℕ → Payment) (hid : ∀ id, (row id).id = id)
    (hpending : (row s.payments.next).status = .pendingApproval)
    (selections : Table PaymentDebtSelection PaymentDebtSelection.id)
    (hpos : 0 < (row s.payments.next).amount) :
    ({ s with payments := s.payments.create row hid, debtSelections := selections } :
        Store).ReportedWithinDebt (row s.payments.next).unitId ↔
      (row s.payments.next).amount ≤
        (s.computeDebtSnapshot (row s.payments.next).unitId).remainingPayable := by
  obtain ⟨htotal, hcredit, hamount⟩ :=
    computeDebtSnapshot_create (s := s) row hid hpending selections
  rw [ReportedWithinDebt, htotal, hcredit, hamount, remainingPayable_eq]
  omega

/-- The selected obligations are the targets, each once. -/
theorem perm_selected {targets : List ObligationTarget}
    (hexist : (s.targetItems targets).length =
        (targets.filterMap ObligationTarget.chargeItemId?).length ∧
      (s.targetAdjustments targets).length =
        (targets.filterMap ObligationTarget.adjustmentId?).length) :
    ((s.selected targets).map Prod.fst).Perm targets := by
  have hsub : (s.selected targets).map Prod.fst ⊆ targets := by
    intro t ht
    obtain ⟨e, he, rfl⟩ := List.mem_map.mp ht
    revert e
    exact forall_selected.mpr ⟨fun i hi _ => (mem_targetItems.mp hi).2,
      fun a ha _ => (mem_targetAdjustments.mp ha).2⟩
  have hsplit : (targets.filterMap ObligationTarget.chargeItemId?).length +
      (targets.filterMap ObligationTarget.adjustmentId?).length = targets.length := by
    clear hexist hsub
    induction targets with
    | nil => rfl
    | cons t targets ih =>
      cases t <;> simp only [List.filterMap_cons, ObligationTarget.chargeItemId?,
        ObligationTarget.adjustmentId?, List.length_cons] <;> omega
  have hlength : ((s.selected targets).map Prod.fst).length = targets.length := by
    rw [← hsplit, ← hexist.1, ← hexist.2]
    simp [selected]
  exact (List.subperm_of_subset (nodup_selected s targets) hsub).perm_of_length_le hlength.ge

/-- The amount of an explicit payment is what is outstanding on its targets. -/
theorem total_selected {targets : List ObligationTarget}
    (hexist : (s.targetItems targets).length =
        (targets.filterMap ObligationTarget.chargeItemId?).length ∧
      (s.targetAdjustments targets).length =
        (targets.filterMap ObligationTarget.adjustmentId?).length) :
    (s.selected targets).total = (targets.map s.outstandingOf).sum := by
  have hout : ∀ e ∈ s.selected targets, e.2 = s.outstandingOf e.1 :=
    forall_selected.mpr
      ⟨fun i hi => (outstandingOf_chargeItem (mem_targetItems.mp hi).1).symm,
        fun a ha => (outstandingOf_adjustment (mem_targetAdjustments.mp ha).1).symm⟩
  rw [← ((perm_selected hexist).map s.outstandingOf).sum_eq, List.map_map, Settlement.total]
  exact congrArg List.sum (List.map_congr_left hout)

end Store

/-- A positive total is positive. -/
theorem Settlement.Due.total_pos {l : Settlement} {s : Store} {unitId : ℕ} (h : l.Due s unitId)
    (hne : l ≠ []) : 0 < l.total := by
  cases l with
  | nil => exact absurd rfl hne
  | cons e l =>
    have hfirst := h.pos e List.mem_cons_self
    have hrest : 0 ≤ (l.map Prod.snd).sum := List.sum_nonneg fun x hx => by
      obtain ⟨e', he', rfl⟩ := List.mem_map.mp hx
      exact (h.pos e' (List.mem_cons_of_mem _ he')).le
    rw [Settlement.total, List.map_cons, List.sum_cons]
    omega

/-- After an amount was reported on the automatic path, the unit's credit and pending payments
fit within its debt. After obligations were reported on the explicit path, they do if and only
if what was outstanding on the obligations was at most the unit's remaining payable amount. -/
theorem reported_within_debt {S : System} (h : S.Reachable) :
    (∀ params now q s', .createPayment params ∈ S.inFlight → params.isManualAmount = false →
      S.store.paymentByKey params.payerId params.buildingId params.idempotencyKey = none →
      (createPayment params now).run S.store = .ok (q, s') →
      s'.ReportedWithinDebt params.unitId) ∧
    ∀ params now q s', .createExplicitPayment params ∈ S.inFlight →
      S.store.paymentByKey params.payerId params.buildingId params.idempotencyKey = none →
      (createExplicitPayment params now).run S.store = .ok (q, s') →
      (s'.ReportedWithinDebt params.unitId ↔
        (params.targets.map S.store.outstandingOf).sum ≤
          (S.store.computeDebtSnapshot params.unitId).remainingPayable) := by
  have hinv := System.inv_of_reachable h
  refine ⟨fun params now q s' hcall hmanual hfresh hrun => ?_,
    fun params now q s' hcall hfresh hrun => ?_⟩
  · have hpos : 0 < params.amount := (hinv.calls _ hcall).1
    rcases createPayment_ok.mp hrun with ⟨hkey, -⟩ | ⟨-, hceiling, -, rfl⟩
    · rw [hfresh] at hkey
      exact absurd hkey (by simp)
    · have hle := hceiling.resolve_left (by simp [hmanual])
      exact (Store.reportedWithinDebt_create_iff (params.row now) (fun _ => rfl) rfl
        S.store.debtSelections hpos).mpr hle
  · rcases createExplicitPayment_ok.mp hrun with ⟨hkey, -⟩ | ⟨fundId, heffect, -⟩
    · rw [hfresh] at hkey
      exact absurd hkey (by simp)
    · have hpos := heffect.due.total_pos heffect.ne_nil
      rw [← Store.total_selected heffect.exist, heffect.store_eq]
      exact Store.reportedWithinDebt_create_iff
        (params.row fundId (S.store.selected params.targets).total now) (fun _ => rfl) rfl _ hpos

/-- An amount was reported as entered by the payer. -/
def Event.reportsManualAmount : Event → Bool
  | .request (.createPayment _ _ _ dto) _ => dto.isManualAmount = some true
  | _ => false

/-- The item of 100 is reported automatically, and then selected explicitly. -/
def System.reportedTwice : List Event :=
  charged ++
    [.request (.createPayment tenancy 0 0 cashPayment) 3, .commit 0 3,
      .request (.createExplicitPayment tenancy 0 0 (itemPayment "second") 5) 4]

/-- The automatic payment of the whole debt fits. -/
theorem reported_within_debt_charged :
    ((createPayment
      { buildingId := 0, unitId := 0, fundId := 0, payerId := 5, amount := 100, method := .cash,
        idempotencyKey := "first", isManualAmount := false } 3).exec
      (runFrom System.step System.init
        (System.reportedTwice.take 9)).store).ReportedWithinDebt 0 := by
  obtain ⟨q, -, hrun⟩ := Tx.exists_run_ok
    (s := (runFrom System.step System.init (System.reportedTwice.take 9)).store)
    (x := createPayment
      { buildingId := 0, unitId := 0, fundId := 0, payerId := 5, amount := 100, method := .cash,
        idempotencyKey := "first", isManualAmount := false } 3)
    (fun _ => true) (by decide +kernel)
  exact (reported_within_debt ⟨System.reportedTwice.take 9, rfl⟩).1 _ 3 q _
    (List.mem_of_elem_eq_true (by decide +kernel)) rfl (by decide +kernel) hrun

/-- The explicit payment of the same item commits, and 200 are pending against a debt of 100. -/
theorem reported_twice :
    (∀ e ∈ System.reportedTwice, e.reportsManualAmount = false) ∧
    let s := (runFrom System.step System.init (System.reportedTwice ++ [.commit 0 5])).store
    (s.computeDebtSnapshot 0).totalDebt = 100 ∧
      (s.computeDebtSnapshot 0).pendingPaymentAmount = 200 ∧
      s.payments.rows.length = 2 := by
  decide +kernel

end VielHome.Finance
