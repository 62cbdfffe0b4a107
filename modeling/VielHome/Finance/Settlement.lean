import VielHome.Finance.Repository.Adjustments

/-!
# Settlements

Six paths of the repository write the paid amount of charge items and adjustments. What
each of them does to these tables is one `Store.settle`: a list of obligations with
amounts, carried out by adding to every row its share of the list. The loops of the source
are reduced to it here, once for each form of loop.
-/

namespace VielHome.Finance

open Relational

/-! ### Paying one row -/

namespace ChargeItem

@[simp] theorem pay_id (a : ℤ) (i : ChargeItem) : (i.pay a).id = i.id := rfl

@[simp] theorem pay_unitId (a : ℤ) (i : ChargeItem) : (i.pay a).unitId = i.unitId := rfl

@[simp] theorem pay_amount (a : ℤ) (i : ChargeItem) : (i.pay a).amount = i.amount := rfl

@[simp] theorem pay_chargeBatchId (a : ℤ) (i : ChargeItem) :
    (i.pay a).chargeBatchId = i.chargeBatchId := rfl

@[simp] theorem pay_paidAmount (a : ℤ) (i : ChargeItem) :
    (i.pay a).paidAmount = i.paidAmount + a := rfl

@[simp] theorem pay_createdAt (a : ℤ) (i : ChargeItem) : (i.pay a).createdAt = i.createdAt := rfl

@[simp] theorem pay_status (a : ℤ) (i : ChargeItem) :
    (i.pay a).status = computeItemStatus (i.paidAmount + a) i.amount := rfl

/-- Two payments are one of both amounts. -/
theorem pay_pay (a b : ℤ) (i : ChargeItem) : (i.pay a).pay b = i.pay (a + b) := by
  simp [pay, add_assoc]

/-- The status is the one computed from the amounts. -/
def StatusOk (i : ChargeItem) : Prop := i.status = computeItemStatus i.paidAmount i.amount

/-- A payment sets the status that belongs to what is paid. -/
theorem statusOk_pay (a : ℤ) (i : ChargeItem) : (i.pay a).StatusOk := rfl

/-- A payment of nothing changes nothing, where the status is right. -/
theorem pay_zero {i : ChargeItem} (h : i.StatusOk) : i.pay 0 = i := by
  rw [pay, add_zero, ← h]

end ChargeItem

namespace Adjustment

@[simp] theorem pay_id (a : ℤ) (r : Adjustment) : (r.pay a).id = r.id := rfl

@[simp] theorem pay_unitId (a : ℤ) (r : Adjustment) : (r.pay a).unitId = r.unitId := rfl

@[simp] theorem pay_buildingId (a : ℤ) (r : Adjustment) : (r.pay a).buildingId = r.buildingId :=
  rfl

@[simp] theorem pay_fundId (a : ℤ) (r : Adjustment) : (r.pay a).fundId = r.fundId := rfl

@[simp] theorem pay_amount (a : ℤ) (r : Adjustment) : (r.pay a).amount = r.amount := rfl

@[simp] theorem pay_sourceType (a : ℤ) (r : Adjustment) : (r.pay a).sourceType = r.sourceType :=
  rfl

@[simp] theorem pay_paidAmount (a : ℤ) (r : Adjustment) :
    (r.pay a).paidAmount = r.paidAmount + a := rfl

/-- Two payments are one of both amounts. -/
theorem pay_pay (a b : ℤ) (r : Adjustment) : (r.pay a).pay b = r.pay (a + b) := by
  simp [pay, add_assoc]

/-- A payment of nothing changes nothing. -/
theorem pay_zero (r : Adjustment) : r.pay 0 = r := by
  simp [pay]

end Adjustment

/-! ### Settling a list of obligations -/

/-- Obligations with the amounts to be paid towards them. -/
abbrev Settlement := List (ObligationTarget × ℤ)

namespace Store

/-- Pay every obligation of the list its amount. -/
def settle (s : Store) (l : Settlement) : Store :=
  { s with
    chargeItems := s.chargeItems.map fun i => i.pay (share l (.chargeItem i.id))
    adjustments := s.adjustments.map fun a => a.pay (share l (.adjustment a.id)) }

/-- Every charge item has the status computed from its amounts. -/
def StatusOk (s : Store) : Prop := ∀ i ∈ s.chargeItems, i.StatusOk

/-- An item afterwards is one before with its share. -/
theorem mem_settle_chargeItems {s : Store} {l : Settlement} {i : ChargeItem} :
    i ∈ (s.settle l).chargeItems ↔
      ∃ r ∈ s.chargeItems, r.pay (share l (.chargeItem r.id)) = i := by
  simp [settle]

/-- An adjustment afterwards is one before with its share. -/
theorem mem_settle_adjustments {s : Store} {l : Settlement} {a : Adjustment} :
    a ∈ (s.settle l).adjustments ↔
      ∃ r ∈ s.adjustments, r.pay (share l (.adjustment r.id)) = a := by
  simp [settle]

/-- The item that is found gets its share. -/
@[simp] theorem find?_settle_chargeItems (s : Store) (l : Settlement) (id : ℕ) :
    (s.settle l).chargeItems.find? id =
      (s.chargeItems.find? id).map fun i => i.pay (share l (.chargeItem i.id)) := by
  simp [settle]

/-- The adjustment that is found gets its share. -/
@[simp] theorem find?_settle_adjustments (s : Store) (l : Settlement) (id : ℕ) :
    (s.settle l).adjustments.find? id =
      (s.adjustments.find? id).map fun a => a.pay (share l (.adjustment a.id)) := by
  simp [settle]

/-- Whether an item is billed does not depend on what is paid of it. -/
@[simp] theorem isBilled_pay (s : Store) (a : ℤ) (i : ChargeItem) :
    s.isBilled (i.pay a) = s.isBilled i := rfl

/-- Nor on what is paid of others. -/
@[simp] theorem isBilled_settle (s : Store) (l : Settlement) (i : ChargeItem) :
    (s.settle l).isBilled i = s.isBilled i := rfl

/-- Afterwards every status is right. -/
theorem statusOk_settle (s : Store) (l : Settlement) : (s.settle l).StatusOk := by
  intro i hi
  obtain ⟨r, -, rfl⟩ := mem_settle_chargeItems.mp hi
  exact ChargeItem.statusOk_pay _ r

/-- One payment keeps every status right. -/
theorem statusOk_pay {s : Store} (hs : s.StatusOk) (target : ObligationTarget) (a : ℤ) :
    (s.pay target a).StatusOk := by
  cases target with
  | adjustment id => exact hs
  | chargeItem id =>
    intro i hi
    obtain ⟨r, hr, rfl⟩ := (Table.mem_modify (h := ChargeItem.pay_id a)).mp hi
    split
    · exact ChargeItem.statusOk_pay a r
    · exact hs r hr

/-- Paying obligations one by one is settling the list. -/
theorem foldl_pay {s : Store} (hs : s.StatusOk) (l : Settlement) :
    l.foldl (fun s e => s.pay e.1 e.2) s = s.settle l := by
  have hsplit : ∀ s : Store, l.foldl (fun s e => s.pay e.1 e.2) s =
      { s with
        chargeItems := l.foldl (fun t e => t.modifyAt e.1.chargeItemId? (ChargeItem.pay e.2) fun _ => rfl)
          s.chargeItems
        adjustments := l.foldl (fun t e => t.modifyAt e.1.adjustmentId? (Adjustment.pay e.2) fun _ => rfl)
          s.adjustments } := by
    induction l with
    | nil => exact fun _ => rfl
    | cons e l ih => exact fun s => ih (s.pay e.1 e.2)
  have hitems : l.foldl (fun t e => t.modifyAt e.1.chargeItemId? (ChargeItem.pay e.2) fun _ => rfl)
      s.chargeItems = s.chargeItems.map fun i => i.pay (share l (.chargeItem i.id)) :=
    Table.foldl_modifyAt_eq_map ObligationTarget.isPartialInv_chargeItem ChargeItem.pay_id
      ChargeItem.pay_pay (fun i hi => ChargeItem.pay_zero (hs i hi)) l
  have hadjustments : l.foldl (fun t e => t.modifyAt e.1.adjustmentId? (Adjustment.pay e.2) fun _ => rfl)
      s.adjustments = s.adjustments.map fun a => a.pay (share l (.adjustment a.id)) :=
    Table.foldl_modifyAt_eq_map ObligationTarget.isPartialInv_adjustment Adjustment.pay_id
      Adjustment.pay_pay (fun a _ => Adjustment.pay_zero a) l
  rw [hsplit, hitems, hadjustments, settle]

/-- Writing a row that was just read is paying it. -/
theorem setItemPaid_eq_pay {s : Store} {i : ChargeItem} (hi : s.chargeItems.find? i.id = some i)
    (a : ℤ) : s.setItemPaid i (i.paidAmount + a) = s.pay (.chargeItem i.id) a := by
  have h : s.chargeItems.modify i.id (i.setPaid (i.paidAmount + a)) (fun _ => rfl) =
      s.chargeItems.modify i.id (ChargeItem.pay a) (fun _ => rfl) := by
    refine Table.modify_congr fun r hr hri => ?_
    obtain rfl : r = i := Table.eq_of_key_eq hr (Table.mem_of_find? hi) hri
    rfl
  rw [setItemPaid, h]
  rfl

/-- What the source sets is what was paid before and the amount. -/
theorem setAdjustmentPaid_eq_pay {s : Store} {r : Adjustment}
    (hr : s.adjustments.find? r.id = some r) (a : ℤ) :
    s.setAdjustmentPaid r (r.paidAmount + a) = s.pay (.adjustment r.id) a := by
  have h : s.adjustments.modify r.id (Adjustment.setPaid (r.paidAmount + a)) (fun _ => rfl) =
      s.adjustments.modify r.id (Adjustment.pay a) (fun _ => rfl) := by
    refine Table.modify_congr fun r' hr' hrr => ?_
    obtain rfl : r' = r := Table.eq_of_key_eq hr' (Table.mem_of_find? hr) hrr
    rfl
  rw [setAdjustmentPaid, h]
  rfl

end Store

/-! ### Settlements of a loop -/

/-- The settlement a loop over charge items carries out. -/
def itemSettlement (plan : List (ChargeItem × ℤ)) : Settlement :=
  plan.map fun e => (.chargeItem e.1.id, e.2)

/-- The settlement a loop over adjustments carries out. -/
def adjustmentSettlement (plan : List (Adjustment × ℤ)) : Settlement :=
  plan.map fun e => (.adjustment e.1.id, e.2)

namespace Store

/-- A plan for items gives nothing to adjustments. -/
@[simp] theorem share_itemSettlement_adjustment (plan : List (ChargeItem × ℤ)) (id : ℕ) :
    share (itemSettlement plan) (.adjustment id) = 0 :=
  share_of_forall_ne fun e he => by
    obtain ⟨e', -, rfl⟩ := List.mem_map.mp he
    simp

/-- A plan for adjustments gives nothing to items. -/
@[simp] theorem share_adjustmentSettlement_chargeItem (plan : List (Adjustment × ℤ)) (id : ℕ) :
    share (adjustmentSettlement plan) (.chargeItem id) = 0 :=
  share_of_forall_ne fun e he => by
    obtain ⟨e', -, rfl⟩ := List.mem_map.mp he
    simp

private theorem setPaid_id (i : ChargeItem) (a : ℤ) (r : ChargeItem) :
    (i.setPaid (i.paidAmount + a) r).id = r.id := rfl

private theorem setPaid_id' (i : Adjustment) (a : ℤ) (r : Adjustment) :
    (r.setPaid (i.paidAmount + a)).id = r.id := rfl

/-- The table after a loop that writes back charge items read before it. -/
theorem foldl_chargeItems {s : Store} (hs : s.StatusOk) {plan : List (ChargeItem × ℤ)}
    (hread : ∀ e ∈ plan, s.chargeItems.find? e.1.id = some e.1)
    (hplan : (plan.map fun e => e.1.id).Nodup) :
    plan.foldl (fun t e => t.modify e.1.id (e.1.setPaid (e.1.paidAmount + e.2))) s.chargeItems =
      (s.settle (itemSettlement plan)).chargeItems :=
  Table.foldl_put_eq_map ObligationTarget.isPartialInv_chargeItem setPaid_id
    ChargeItem.pay_id (fun _ _ => rfl) ChargeItem.pay_pay
    (fun i hi => ChargeItem.pay_zero (hs i hi)) hread hplan

/-- The table after a loop that writes back adjustments read before it. -/
theorem foldl_adjustments {s : Store} {plan : List (Adjustment × ℤ)}
    (hread : ∀ e ∈ plan, s.adjustments.find? e.1.id = some e.1)
    (hplan : (plan.map fun e => e.1.id).Nodup) :
    plan.foldl (fun t e => t.modify e.1.id (Adjustment.setPaid (e.1.paidAmount + e.2)))
      s.adjustments = (s.settle (adjustmentSettlement plan)).adjustments :=
  Table.foldl_put_eq_map ObligationTarget.isPartialInv_adjustment setPaid_id'
    Adjustment.pay_id (fun _ _ => rfl) Adjustment.pay_pay
    (fun a _ => Adjustment.pay_zero a) hread hplan

/-- No payments change nothing. -/
theorem settle_nil {s : Store} (hs : s.StatusOk) : s.settle [] = s := (foldl_pay hs []).symm

/-- One payment is a settlement. -/
theorem pay_eq_settle {s : Store} (hs : s.StatusOk) (target : ObligationTarget) (a : ℤ) :
    s.pay target a = s.settle [(target, a)] := foldl_pay hs [(target, a)]

/-- Two settlements are one of both. -/
theorem settle_settle {s : Store} (hs : s.StatusOk) (l l' : Settlement) :
    (s.settle l).settle l' = s.settle (l ++ l') := by
  rw [← foldl_pay (statusOk_settle s l), ← foldl_pay hs, ← foldl_pay hs, List.foldl_append]

/-- A plan for items leaves the adjustments as they are. -/
theorem settle_itemSettlement_adjustments (s : Store) (plan : List (ChargeItem × ℤ)) :
    (s.settle (itemSettlement plan)).adjustments = s.adjustments := by
  simp only [settle]
  exact Table.map_id fun a _ => by simp [Adjustment.pay_zero]

/-- A plan for adjustments leaves the items as they are. -/
theorem settle_adjustmentSettlement_chargeItems {s : Store} (hs : s.StatusOk)
    (plan : List (Adjustment × ℤ)) :
    (s.settle (adjustmentSettlement plan)).chargeItems = s.chargeItems := by
  simp only [settle]
  exact Table.map_id fun i hi => by simp [ChargeItem.pay_zero (hs i hi)]

end Store

end VielHome.Finance
