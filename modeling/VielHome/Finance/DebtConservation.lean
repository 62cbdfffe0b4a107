import VielHome.Finance.NetDebt

/-!
# Conservation of debt

What a unit owes, net of its credit, is what was charged to it and added to its debt, plus
its opening balance, less what was waived and what its approved payments paid. The opening
balance and the waived amounts are history: they are computed along the run from the calls
that commit.
-/

namespace VielHome.Finance

open Relational

namespace Store

/-- What the unit owes, net of its credit, as its debt snapshot has it. -/
def netDebt (s : Store) (unitId : ℕ) : ℤ :=
  (s.computeDebtSnapshot unitId).totalDebt - (s.computeDebtSnapshot unitId).creditBalance

/-- What has been paid on the unit's charge items. -/
def paidOnItems (s : Store) (unitId : ℕ) : ℤ :=
  s.chargeItems.sum fun i => if i.unitId = unitId then i.paidAmount else 0

end Store

/-- What a call waives on a unit: a negative adjustment, as far as it is applied to items. -/
def Call.waived (unitId : ℕ) (s s' : Store) : Call → ℤ
  | createAdjustment params =>
    if params.unitId = unitId ∧ params.amount < 0 then
      s'.paidOnItems unitId - s.paidOnItems unitId
    else 0
  | _ => 0

namespace System

/-- The amounts that negative adjustments have waived on the unit. -/
def trackWaived (unitId : ℕ) (S : System) (e : Event) (waived : ℤ) : ℤ :=
  match e with
  | .commit index now =>
    match S.inFlight[index]? with
    | some call => waived + call.waived unitId S.store (call.exec now S.store)
    | none => waived
  | _ => waived

/-- The target of the unit's last successful opening-balance correction. -/
def trackOpening (unitId : ℕ) (S : System) (e : Event) (opening : ℤ) : ℤ :=
  match e with
  | .commit index now =>
    match S.inFlight[index]? with
    | some (.applyOpeningBalanceCorrection params) =>
      if params.unitId = unitId ∧
        ((applyOpeningBalanceCorrection params now).run S.store).isOk then params.targetBalance
      else opening
    | _ => opening
  | _ => opening

end System

namespace Store

variable {s : Store}

/-! ### One call -/

/-- What a waiver settles is what it adds to the paid amounts of the unit's items. -/
theorem waived_adjusted (params : CreateAdjustmentParams) (now : Time) (unitId : ℕ) :
    (Call.createAdjustment params).waived unitId s (s.adjusted params now) =
      if params.unitId = unitId then (s.waiverSettlement params.unitId params.amount).total
      else 0 := by
  by_cases hneg : params.amount < 0
  · have hdue := due_waiverSettlement s params.unitId params.amount
    rw [waiverSettlement, if_pos hneg] at hdue ⊢
    set l := itemSettlement (waterfall ChargeItem.outstanding
      (s.outstandingItemsByDueDate params.unitId) |params.amount|) with hl
    have hpaid : (s.adjusted params now).paidOnItems unitId = s.paidOnItems unitId +
        s.chargeItems.sum fun i =>
          if decide (i.unitId = unitId) then share l (.chargeItem i.id) else 0 := by
      rw [Store.adjusted, waiverSettlement, if_pos hneg, paidOnItems, paidOnItems, Store.settle,
        Table.sum_map, ← Table.sum_add]
      refine Table.sum_congr fun i _ => ?_
      by_cases hunit : i.unitId = unitId <;> simp [hunit, hl]
    have hshare : (l.map fun e => if (e.1.chargeItemId?.bind s.chargeItems.find?).any
        (fun i => decide (i.unitId = unitId)) then e.2 else 0) =
        l.map fun e => if params.unitId = unitId then e.2 else 0 := by
      refine List.map_congr_left fun e he => ?_
      obtain ⟨e', he', rfl⟩ := List.mem_map.mp he
      obtain ⟨i, hi, hunit, -⟩ := hdue.isActive _ he
      simp [ObligationTarget.chargeItemId?, hi, hunit]
    rw [Table.sum_share ObligationTarget.isPartialInv_chargeItem, hshare] at hpaid
    simp only [Call.waived, hneg, and_true, hpaid, add_sub_cancel_left]
    split
    · rfl
    · simp
  · rw [Call.waived, if_neg fun hc => hneg hc.2, waiverSettlement, if_neg hneg]
    exact (ite_self 0).symm

end Store

/-- The part of the charged amounts that neither debt nor payments account for. -/
def Figures.residual (f : Figures) : ℤ := f.billed + f.added + f.opening - f.collected - f.netDebt

/-- Every call moves the residual of a unit by what it waives. -/
theorem Call.Effect.residual {now : Time} {s s' : Store} {c : Call} (heffect : c.Effect now s s')
    (h : s.Valid) (hc : c.Ok s) (unitId : ℕ) :
    (s'.figures fun u => u = unitId).residual =
      (s.figures fun u => u = unitId).residual + c.waived unitId s s' := by
  -- the residual is what leaves the net debt without being collected, as only a waiver does
  cases heffect with
  | unchanged =>
    have hzero : c.waived unitId s s = 0 := by
      cases c <;> simp [Call.waived]
    rw [hzero, add_zero]
  | createFund params => exact (add_zero _).symm
  | updateFund fundId params name => exact (add_zero _).symm
  | setFundActive fundId isActive => exact (add_zero _).symm
  | createChargeSeries buildingId name => exact (add_zero _).symm
  | createChargeBatch params hperiod hunits =>
    rw [h.figures_withBatch]
    exact (add_zero _).symm
  | issueChargeBatch params _ batch plan heffect =>
    rw [h.figures_issued heffect]
    simp only [Figures.residual, Call.waived]
    ring
  | cancelChargeBatch params _ batch heffect =>
    rw [h.figures_cancelled heffect]
    simp only [Figures.residual, Call.waived]
    ring
  | createAdjustment params =>
    rw [h.figures_adjusted hc.2.2, Store.waived_adjusted]
    simp only [Figures.residual, decide_eq_true_eq]
    split <;> ring
  | applyOpeningBalanceCorrection params hdelta =>
    rw [h.figures_corrected]
    simp only [Figures.residual, Call.waived]
    ring
  | createPayment params hfresh hceiling =>
    rw [Store.figures_withPayment]
    exact (add_zero _).symm
  | createExplicitPayment params _ fundId heffect =>
    rw [Store.figures_withExplicitPayment heffect]
    exact (add_zero _).symm
  | approvePayment params _ payment l heffect =>
    obtain ⟨q, hq, -, hunit, -, hamount⟩ := hc
    obtain rfl : q = payment := Option.some.inj (hq.symm.trans heffect.find)
    rw [h.figures_approved heffect hunit hamount]
    simp only [Figures.residual, Call.waived]
    ring
  | rejectPayment paymentId reason payment hfind hpending =>
    rw [Store.figures_rejected hfind hpending]
    exact (add_zero _).symm
  | reversePayment params _ payment heffect =>
    rw [h.figures_reversed heffect]
    simp only [Figures.residual, Call.waived]
    ring
  | createExpense params fund hfind hle => exact (add_zero _).symm
  | voidExpense params expense hfind hposted => exact (add_zero _).symm

/-- Only opening-balance corrections move the opening balance of a unit. -/
theorem Call.Effect.opening {now : Time} {s s' : Store} {c : Call} (heffect : c.Effect now s s')
    (h : s.Valid) (hc : c.Ok s) (hne : ∀ params, c ≠ .applyOpeningBalanceCorrection params)
    (unitId : ℕ) : (s'.figures fun u => u = unitId).opening =
      (s.figures fun u => u = unitId).opening := by
  cases heffect with
  | createChargeBatch params hperiod hunits => rw [h.figures_withBatch]
  | issueChargeBatch params _ batch plan heffect => rw [h.figures_issued heffect]
  | cancelChargeBatch params _ batch heffect => rw [h.figures_cancelled heffect]
  | createAdjustment params => rw [h.figures_adjusted hc.2.2]
  | applyOpeningBalanceCorrection params hdelta => exact absurd rfl (hne params)
  | createPayment params hfresh hceiling => rw [Store.figures_withPayment]
  | createExplicitPayment params _ fundId heffect => rw [Store.figures_withExplicitPayment heffect]
  | approvePayment params _ payment l heffect =>
    obtain ⟨q, hq, -, hunit, -, hamount⟩ := hc
    obtain rfl : q = payment := Option.some.inj (hq.symm.trans heffect.find)
    rw [h.figures_approved heffect hunit hamount]
  | rejectPayment paymentId reason payment hfind hpending =>
    rw [Store.figures_rejected hfind hpending]
  | reversePayment params _ payment heffect => rw [h.figures_reversed heffect]
  | _ => rfl

/-- A committed correction sets the opening balance of its unit to its target. -/
theorem Store.Valid.opening_correction {s s' : Store} (h : s.Valid)
    {params : ApplyOpeningBalanceCorrectionParams} {now : Time} {r : OpeningBalanceCorrection}
    (hrun : (applyOpeningBalanceCorrection params now).run s = .ok (r, s')) (unitId : ℕ) :
    s'.openingBalanceCorrectionTotal unitId =
      if params.unitId = unitId then params.targetBalance
      else s.openingBalanceCorrectionTotal unitId := by
  obtain ⟨-, rfl⟩ := applyOpeningBalanceCorrection_ok h.item_status hrun
  rw [← Store.opening_eq, h.figures_corrected, ← Store.opening_eq]
  by_cases hunit : params.unitId = unitId
  · simp only [hunit, decide_true, if_true]
    ring
  · simp only [hunit, decide_false, Bool.false_eq_true, if_false, add_zero]
    exact Store.opening_eq unitId

/-! ### One step -/

namespace System

variable {S : System}

/-- Every step moves the residual of a unit by what it waives. -/
theorem Inv.residual_step (h : S.Inv) (e : Event) (unitId : ℕ) {waived : ℤ}
    (hresidual : (S.store.figures fun u => u = unitId).residual = waived) :
    ((S.step e).store.figures fun u => u = unitId).residual =
      trackWaived unitId S e waived := by
  have hstep := h.storeStep e
  revert hstep
  generalize hs' : (S.step e).store = s'
  intro hstep
  cases hstep with
  | unchanged e =>
    cases e with
    | commit index now =>
      cases hget : S.inFlight[index]? with
      | none =>
        rw [hresidual, trackWaived, hget]
      | some call =>
        -- the call committed without an effect, so it waived nothing
        have hexec : call.exec now S.store = S.store := by
          rw [System.step, hget] at hs'
          exact hs'
        have hok := h.calls call (List.mem_of_getElem? hget)
        have hmove := (Call.exec_effect h.valid hok now).residual h.valid hok unitId
        rw [trackWaived, hget]
        dsimp only
        rw [hexec] at hmove ⊢
        omega
    | _ => exact hresidual
  | addBuilding => exact hresidual
  | addUnit => exact hresidual
  | updateUnit => exact hresidual
  | request r now s' hkept =>
    obtain ⟨funds, rfl⟩ := hkept.funds_eq
    exact hresidual
  | commit index now call hget heffect =>
    rw [heffect.residual h.valid (h.calls call (List.mem_of_getElem? hget)), hresidual, trackWaived,
      hget]

/-- Every step keeps track of the opening balance of a unit. -/
theorem Inv.opening_step (h : S.Inv) (e : Event) (unitId : ℕ) {opening : ℤ}
    (hopening : S.store.openingBalanceCorrectionTotal unitId = opening) :
    (S.step e).store.openingBalanceCorrectionTotal unitId = trackOpening unitId S e opening := by
  cases e with
  | addBuilding => exact hopening
  | addUnit buildingId unitNumber type areaSqm =>
    rw [System.step]
    split <;> exact hopening
  | updateUnit => exact hopening
  | rollback index => exact hopening
  | request r now =>
    obtain ⟨funds, hstore⟩ := (h.receive r now).1.funds_eq
    rw [System.step, hstore]
    exact hopening
  | commit index now =>
    rw [System.step, trackOpening]
    cases hget : S.inFlight[index]? with
    | none => exact hopening
    | some call =>
      have hok := h.calls call (List.mem_of_getElem? hget)
      -- no other call touches the corrections
      have hother : (∀ params, call ≠ .applyOpeningBalanceCorrection params) →
          (call.exec now S.store).openingBalanceCorrectionTotal unitId = opening := by
        intro hne
        have heffect := Call.exec_effect h.valid hok now
        have hkept := heffect.opening h.valid hok hne unitId
        rw [Store.opening_eq, Store.opening_eq] at hkept
        exact hkept.trans hopening
      cases call with
      | applyOpeningBalanceCorrection params =>
        dsimp only
        cases hrun : (applyOpeningBalanceCorrection params now).run S.store with
        | error failure =>
          rw [Call.exec, Tx.exec_of_error hrun, if_neg (by simp [Except.isOk, Except.toBool])]
          exact hopening
        | ok result =>
          obtain ⟨r, s'⟩ := result
          rw [Call.exec, Tx.exec_of_ok hrun, h.valid.opening_correction hrun, hopening]
          simp [Except.isOk, Except.toBool]
      | _ => exact hother fun _ => Call.noConfusion

end System

/-! ### Runs -/

/-- After every run, the net debt of a unit is the amounts billed to it, and added to its debt,
and the target of its last opening-balance correction, less what was waived and the amounts of
its approved payments. Approving a payment lowers the net debt of its unit, and of no other, by
exactly its amount, and reversing it raises it by exactly that; issuing a batch adds exactly its
items, whatever credit it applies; and cancelling a batch that was issued removes exactly its
items. -/
theorem net_debt_conserved (es : List Event) (unitId : ℕ) :
    let S := runFrom System.step System.init es
    let figures := S.store.figures fun u => u = unitId
    (S.store.netDebt unitId = figures.billed + figures.added +
        track System.step (System.trackOpening unitId) 0 System.init es -
        track System.step (System.trackWaived unitId) 0 System.init es - figures.collected) ∧
      (∀ params now q s', .approvePayment params ∈ S.inFlight →
        (approvePayment params now).run S.store = .ok (q, s') →
        s'.netDebt unitId = S.store.netDebt unitId - if q.unitId = unitId then q.amount else 0) ∧
      (∀ params now q s', .reversePayment params ∈ S.inFlight →
        (reversePayment params now).run S.store = .ok (q, s') →
        s'.netDebt unitId = S.store.netDebt unitId + if q.unitId = unitId then q.amount else 0) ∧
      (∀ params now b s', (issueChargeBatch params now).run S.store = .ok (b, s') →
        s'.netDebt unitId = S.store.netDebt unitId +
          S.store.batchTotal (fun u => u = unitId) params.chargeBatchId) ∧
      ∀ params b s', (cancelChargeBatch params).run S.store = .ok (b, s') →
        ∃ batch, S.store.chargeBatches.find? params.chargeBatchId = some batch ∧
          s'.netDebt unitId = S.store.netDebt unitId -
            if batch.status = .issued then
              S.store.batchTotal (fun u => u = unitId) params.chargeBatchId
            else 0 := by
  intro S figures
  have hinv : S.Inv := System.inv_init.runFrom es
  have hvalid := hinv.valid
  have hnet : ∀ {s : Store}, s.Valid → s.netDebt unitId = (s.figures fun u => u = unitId).netDebt :=
    fun hs => hs.netDebt_eq unitId
  refine ⟨?_, fun params now q s' hcall hrun => ?_, fun params now q s' hcall hrun => ?_,
    fun params now b s' hrun => ?_, fun params b s' hrun => ?_⟩
  -- both totals are followed along the run, each beside the invariant
  · have hwaived : S.Inv ∧ figures.residual =
        track System.step (System.trackWaived unitId) 0 System.init es :=
      track_induction (R := fun S waived => System.Inv S ∧
        (S.store.figures fun u => u = unitId).residual = waived)
        (fun S e waived hS => ⟨hS.1.step e, hS.1.residual_step e unitId hS.2⟩)
        ⟨System.inv_init, rfl⟩ es
    have hopening : S.Inv ∧ S.store.openingBalanceCorrectionTotal unitId =
        track System.step (System.trackOpening unitId) 0 System.init es :=
      track_induction (R := fun S opening => System.Inv S ∧
        S.store.openingBalanceCorrectionTotal unitId = opening)
        (fun S e opening hS => ⟨hS.1.step e, hS.1.opening_step e unitId hS.2⟩)
        ⟨System.inv_init, rfl⟩ es
    have hopen : figures.opening = S.store.openingBalanceCorrectionTotal unitId :=
      Store.opening_eq unitId
    have hresidual : figures.residual = figures.billed + figures.added + figures.opening -
      figures.collected - figures.netDebt := rfl
    rw [hnet hvalid, ← hwaived.2, ← hopening.2]
    change figures.netDebt = _
    omega
  · have hok := hinv.calls _ hcall
    obtain ⟨payment, l, heffect, rfl, hunit, hamount⟩ := hvalid.approvalEffect hok hrun
    rw [hnet (hvalid.approved hok heffect), hnet hvalid,
      hvalid.figures_approved heffect hunit hamount]
    by_cases hq : payment.unitId = unitId <;> simp [ApprovePaymentParams.approve, hq]
  · have hok := hinv.calls _ hcall
    obtain ⟨payment, heffect, rfl⟩ := hvalid.reversalEffect hrun
    rw [hnet (hvalid.reversed hok heffect), hnet hvalid, hvalid.figures_reversed heffect]
    by_cases hq : payment.unitId = unitId <;> simp [hq]
  · obtain ⟨batch, heffect⟩ :=
      issueChargeBatch_ok hvalid.item_status hvalid.credit_unique hrun
    rw [hnet (hvalid.issued heffect), hnet hvalid, hvalid.figures_issued heffect]
  · obtain ⟨batch, heffect⟩ := cancelChargeBatch_ok hrun
    refine ⟨batch, heffect.find, ?_⟩
    rw [hnet (hvalid.cancelled heffect), hnet hvalid, hvalid.figures_cancelled heffect]

/-- The unit owes the 100 it was charged, and nothing once the payment is approved. -/
theorem net_debt_conserved_reported :
    (runFrom System.step System.init System.reported).store.netDebt 0 = 100 ∧
      ((approvePayment
        { paymentId := 0, buildingId := 0, unitId := 0, fundId := 0, amount := 100, actorId := 7 }
          4).exec (runFrom System.step System.init System.reported).store).netDebt 0 = 0 := by
  have hconserved := net_debt_conserved System.reported 0
  have hbefore := hconserved.1.trans
    (show _ = (100 : ℤ) by decide +kernel)
  refine ⟨hbefore, ?_⟩
  obtain ⟨q, hq, hrun⟩ := Tx.exists_run_ok
    (s := (runFrom System.step System.init System.reported).store) (x := approvePayment
      { paymentId := 0, buildingId := 0, unitId := 0, fundId := 0, amount := 100, actorId := 7 } 4)
    (fun q => q.unitId = 0 ∧ q.amount = 100) (by decide +kernel)
  rw [decide_eq_true_eq] at hq
  have hafter := hconserved.2.1 _ 4 q _ (List.mem_of_elem_eq_true (by decide +kernel)) hrun
  rw [hafter, hbefore, hq.1, hq.2]
  rfl

end VielHome.Finance
