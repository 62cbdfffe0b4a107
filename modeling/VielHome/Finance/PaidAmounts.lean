import VielHome.Finance.Invariant.Reachable

/-!
# Paid amounts

Six transactions write the paid amount of an obligation, and none of them records in the
row where the money came from. In every reachable state the paid amount still covers what
approved payments allocated to the obligation, so a reversal can take back exactly its own
allocations: the clamp at zero in `reversePayment` never changes a value.
-/

namespace VielHome.Finance

open Relational

namespace Store

variable {s s' : Store}

/-- What a committed reversal leaves paid on the obligations. -/
theorem Valid.paidOf_reversed (h : s.Valid) {params : ReversePaymentParams} {now : Time}
    {p : Payment} (hrun : (reversePayment params now).run s = .ok (p, s')) :
    (∀ a ∈ s.allocationsOf params.paymentId, 0 ≤ s.paidOf a.target - a.amount) ∧
      (∀ i ∈ s.chargeItems, s'.paidOf (.chargeItem i.id) =
        i.paidAmount - s.allocatedTo params.paymentId (.chargeItem i.id)) ∧
      ∀ a ∈ s.adjustments, s'.paidOf (.adjustment a.id) =
        a.paidAmount - s.allocatedTo params.paymentId (.adjustment a.id) := by
  obtain ⟨payment, heffect, -⟩ := h.reversalEffect hrun
  have hpaid := h.covered heffect.find heffect.approved
  refine ⟨fun a ha => ?_, fun i hi => ?_, fun a ha => ?_⟩
  · have hle := (hpaid a ha).2
    omega
  · have hfind := Table.find?_of_mem hi
    have hshare := share_reversalSettlement s params.paymentId (.chargeItem i.id)
    rw [heffect.store_eq, paidOf]
    change (((s.settle _).chargeItems.find? i.id).map ChargeItem.paidAmount).getD 0 = _
    rw [find?_settle_chargeItems, hfind]
    simp only [Option.map_some, Option.getD_some, ChargeItem.pay_paidAmount, hshare]
    ring
  · have hfind := Table.find?_of_mem ha
    have hshare := share_reversalSettlement s params.paymentId (.adjustment a.id)
    rw [heffect.store_eq, paidOf]
    change (((s.settle _).adjustments.find? a.id).map Adjustment.paidAmount).getD 0 = _
    rw [find?_settle_adjustments, hfind]
    simp only [Option.map_some, Option.getD_some, Adjustment.pay_paidAmount, hshare]
    ring

end Store

/-- In every reachable state the paid amount of a charge item is between nothing and its amount,
its status is the computed one, and it covers what approved payments allocated to the item;
so it is for the positive adjustments. A reversal therefore never runs into the clamp at zero,
and subtracts from every obligation what its payment allocated to it. -/
theorem paid_amounts {S : System} (h : S.Reachable) :
    (∀ i ∈ S.store.chargeItems, 0 ≤ i.paidAmount ∧ i.paidAmount ≤ i.amount ∧
        i.status = computeItemStatus i.paidAmount i.amount ∧
        S.store.approvedAllocated (.chargeItem i.id) ≤ i.paidAmount) ∧
      (∀ a ∈ S.store.adjustments, 0 < a.amount → 0 ≤ a.paidAmount ∧ a.paidAmount ≤ a.amount ∧
        S.store.approvedAllocated (.adjustment a.id) ≤ a.paidAmount) ∧
      ∀ (params : ReversePaymentParams) (now : Time) (p : Payment) (s' : Store),
        (reversePayment params now).run S.store = .ok (p, s') →
        (∀ a ∈ S.store.allocationsOf params.paymentId,
          max 0 (S.store.paidOf a.target - a.amount) = S.store.paidOf a.target - a.amount) ∧
        (∀ i ∈ S.store.chargeItems, s'.paidOf (.chargeItem i.id) =
          i.paidAmount - S.store.allocatedTo params.paymentId (.chargeItem i.id)) ∧
        ∀ a ∈ S.store.adjustments, s'.paidOf (.adjustment a.id) =
          a.paidAmount - S.store.allocatedTo params.paymentId (.adjustment a.id) := by
  have hvalid := System.valid_of_reachable h
  refine ⟨fun i hi => ?_, fun a ha hpos => ?_, fun params now p s' hrun => ?_⟩
  · obtain ⟨hnonneg, hle⟩ := hvalid.item_paid i hi
    exact ⟨hnonneg, hle, hvalid.item_status i hi, hvalid.cover_item i hi⟩
  · obtain ⟨hnonneg, hle⟩ := hvalid.adjustment_paid a ha
    rw [max_eq_right hpos.le] at hle
    exact ⟨hnonneg, hle, hvalid.cover_adjustment a ha⟩
  · obtain ⟨hclamp, hitems, hadjustments⟩ := hvalid.paidOf_reversed hrun
    exact ⟨fun a ha => max_eq_right (hclamp a ha), hitems, hadjustments⟩

/-- Reversing the payment of the charge takes the 100 back that it paid. -/
theorem paid_amounts_settled :
    ((reversePayment { paymentId := 0, buildingId := 0, fundId := 0, amount := 100 } 5).exec
      (runFrom System.step System.init System.settled).store).paidOf (.chargeItem 0) = 100 - 100 := by
  obtain ⟨p, -, hrun⟩ := Tx.exists_run_ok
    (s := (runFrom System.step System.init System.settled).store)
    (x := reversePayment { paymentId := 0, buildingId := 0, fundId := 0, amount := 100 } 5)
    (fun _ => true) (by decide +kernel)
  have hitems := ((paid_amounts ⟨System.settled, rfl⟩).2.2 _ 5 p _ hrun).2.1
  have hitem := hitems
    { id := 0, chargeBatchId := 0, unitId := 0, amount := 100, paidAmount := 100, status := .paid,
      createdAt := 1 } (Table.mem_rows.mp (List.mem_of_elem_eq_true (by decide +kernel)))
  exact hitem.trans (by decide +kernel)

end VielHome.Finance
