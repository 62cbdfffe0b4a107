import VielHome.Finance.Effect.Approval

/-!
# What reporting and rejecting a payment do

Both ways to report a payment either find the payment that the idempotency key stands for
and change nothing, or add a pending payment. For selected obligations they also add the
selections: each obligation once, unreserved, and with all that is outstanding on it.
-/

namespace VielHome.Finance

open Relational

/-! ### Reporting an amount -/

/-- The row `createPayment` adds. -/
def CreatePaymentParams.row (params : CreatePaymentParams) (now : Time) (id : ℕ) : Payment :=
  { id, buildingId := params.buildingId, unitId := params.unitId, fundId := params.fundId,
    payerId := params.payerId, amount := params.amount, method := params.method,
    reference := params.reference, note := params.note,
    idempotencyKey := some params.idempotencyKey, status := .pendingApproval, createdAt := now }

/-- The store after an amount was reported. -/
def Store.withPayment (s : Store) (params : CreatePaymentParams) (now : Time) : Store :=
  { s with payments := s.payments.create (params.row now) }

/-- A committed `createPayment` replays the payment of its key or adds a new one. -/
theorem createPayment_ok {s s' : Store} {params : CreatePaymentParams} {now : Time} {p : Payment} :
    (createPayment params now).run s = .ok (p, s') ↔
      (s.paymentByKey params.payerId params.buildingId params.idempotencyKey = some p ∧
        params.sameAs p ∧ s' = s) ∨
      (s.paymentByKey params.payerId params.buildingId params.idempotencyKey = none ∧
        (params.isManualAmount ∨
          params.amount ≤ (s.computeDebtSnapshot params.unitId).remainingPayable) ∧
        p = params.row now s.payments.next ∧ s' = s.withPayment params now) := by
  rw [createPayment, Tx.run_query_bind]
  cases hkey : s.paymentByKey params.payerId params.buildingId params.idempotencyKey with
  | some existing =>
    simp only [Tx.run_require_bind_ok, Tx.run_pure_ok, Option.some.injEq, reduceCtorEq, false_and,
      or_false]
    constructor
    · rintro ⟨hsame, rfl, rfl⟩
      exact ⟨rfl, hsame, rfl⟩
    · rintro ⟨rfl, hsame, rfl⟩
      exact ⟨hsame, rfl, rfl⟩
  | none =>
    rw [Tx.run_query_bind, Tx.run_require_bind_ok, Tx.run_query_bind, Tx.run_write_bind,
      Tx.run_pure_ok]
    simp only [not_lt, reduceCtorEq, false_and, false_or, true_and]
    exact Iff.rfl

/-! ### Reporting selected obligations -/

namespace Store

/-- The building an obligation is charged by. -/
def obligationBuilding (s : Store) : ObligationTarget → Option ℕ
  | .chargeItem id => (s.chargeItems.find? id).bind fun i => (s.batchOf i).map ChargeBatch.buildingId
  | .adjustment id => (s.adjustments.find? id).map Adjustment.buildingId

/-- The fund an obligation is collected for. -/
def obligationFund (s : Store) : ObligationTarget → Option ℕ
  | .chargeItem id => (s.chargeItems.find? id).bind fun i => (s.batchOf i).map ChargeBatch.fundId
  | .adjustment id => (s.adjustments.find? id).map Adjustment.fundId

/-- The charge items among the targets. -/
def targetItems (s : Store) (targets : List ObligationTarget) : List ChargeItem :=
  s.chargeItems.rows.filter fun i => i.id ∈ targets.filterMap ObligationTarget.chargeItemId?

/-- The adjustments among the targets. -/
def targetAdjustments (s : Store) (targets : List ObligationTarget) : List Adjustment :=
  s.adjustments.rows.filter fun a => a.id ∈ targets.filterMap ObligationTarget.adjustmentId?

/-- What `createExplicitPayment` selects: every target with all that is outstanding on it. -/
def selected (s : Store) (targets : List ObligationTarget) : Settlement :=
  (s.targetItems targets).map (fun i => (.chargeItem i.id, i.outstanding)) ++
    (s.targetAdjustments targets).map fun a => (.adjustment a.id, a.outstanding)

end Store

/-- The active selection of one obligation by a payment. -/
def selectionRow (paymentId : ℕ) (e : ObligationTarget × ℤ) (id : ℕ) : PaymentDebtSelection :=
  { id, paymentId, target := e.1, selectedAmount := e.2, reservationState := .active }

/-- The row `createExplicitPayment` adds. -/
def CreateExplicitPaymentParams.row (params : CreateExplicitPaymentParams) (fundId : ℕ)
    (amount : ℤ) (now : Time) (id : ℕ) : Payment :=
  { id, buildingId := params.buildingId, unitId := params.unitId, fundId,
    payerId := params.payerId, amount, method := params.method, reference := params.reference,
    note := params.note, idempotencyKey := some params.idempotencyKey,
    selectionMode := .explicitSelection, createdAt := now }

namespace Store

/-- The store after selected obligations were reported. -/
def withExplicitPayment (s : Store) (params : CreateExplicitPaymentParams) (fundId : ℕ)
    (now : Time) : Store :=
  { s with
    payments := s.payments.create (params.row fundId (s.selected params.targets).total now)
    debtSelections := s.debtSelections.createMany (s.selected params.targets)
      (selectionRow s.payments.next) }

theorem mem_targetItems {s : Store} {targets : List ObligationTarget} {i : ChargeItem} :
    i ∈ s.targetItems targets ↔ i ∈ s.chargeItems ∧ .chargeItem i.id ∈ targets := by
  simp only [targetItems, List.mem_filter, Table.mem_rows, List.mem_filterMap, decide_eq_true_eq]
  refine and_congr_right fun _ => ⟨?_, fun h => ⟨_, h, rfl⟩⟩
  rintro ⟨t, ht, hti⟩
  rwa [(ObligationTarget.isPartialInv_chargeItem _ _).mp hti]

theorem mem_targetAdjustments {s : Store} {targets : List ObligationTarget} {a : Adjustment} :
    a ∈ s.targetAdjustments targets ↔ a ∈ s.adjustments ∧ .adjustment a.id ∈ targets := by
  simp only [targetAdjustments, List.mem_filter, Table.mem_rows, List.mem_filterMap,
    decide_eq_true_eq]
  refine and_congr_right fun _ => ⟨?_, fun h => ⟨_, h, rfl⟩⟩
  rintro ⟨t, ht, hti⟩
  rwa [(ObligationTarget.isPartialInv_adjustment _ _).mp hti]

/-- A property of selected entries is one of the selected items and of the selected
adjustments. -/
theorem forall_selected {s : Store} {targets : List ObligationTarget}
    {P : ObligationTarget × ℤ → Prop} :
    (∀ e ∈ s.selected targets, P e) ↔
      (∀ i ∈ s.targetItems targets, P (.chargeItem i.id, i.outstanding)) ∧
        ∀ a ∈ s.targetAdjustments targets, P (.adjustment a.id, a.outstanding) := by
  simp [selected, or_imp, forall_and]

theorem nodup_selected (s : Store) (targets : List ObligationTarget) :
    ((s.selected targets).map Prod.fst).Nodup := by
  have hitems : ((s.targetItems targets).map ChargeItem.id).Nodup :=
    (List.filter_sublist.map ChargeItem.id).nodup s.chargeItems.nodup
  have hadjustments : ((s.targetAdjustments targets).map Adjustment.id).Nodup :=
    (List.filter_sublist.map Adjustment.id).nodup s.adjustments.nodup
  rw [selected, List.map_append, List.map_map, List.map_map, List.nodup_append]
  refine ⟨?_, ?_, ?_⟩
  · simpa [Function.comp_def] using
      hitems.map (f := ObligationTarget.chargeItem) fun _ _ h => ObligationTarget.chargeItem.inj h
  · simpa [Function.comp_def] using
      hadjustments.map (f := ObligationTarget.adjustment) fun _ _ h =>
        ObligationTarget.adjustment.inj h
  · rintro t ht u hu rfl
    obtain ⟨i, -, rfl⟩ := List.mem_map.mp ht
    obtain ⟨a, -, heq⟩ := List.mem_map.mp hu
    exact absurd heq (by simp)

end Store

/-- What is known about a committed report of selected obligations that adds a payment for
the fund `fundId`. -/
structure ExplicitEffect (params : CreateExplicitPaymentParams) (now : Time) (s s' : Store)
    (fundId : ℕ) : Prop where
  fresh : s.paymentByKey params.payerId params.buildingId params.idempotencyKey = none
  exist : (s.targetItems params.targets).length =
      (params.targets.filterMap ObligationTarget.chargeItemId?).length ∧
    (s.targetAdjustments params.targets).length =
      (params.targets.filterMap ObligationTarget.adjustmentId?).length
  due : (s.selected params.targets).Due s params.unitId
  building : ∀ e ∈ s.selected params.targets,
    s.obligationBuilding e.1 = some params.buildingId
  unreserved : ∀ e ∈ s.selected params.targets, s.isReserved e.1 = false
  oldestFirst : ∀ seriesId ∈ ((s.targetItems params.targets).filterMap s.monthlySeries).dedup,
    s.selectsOldestFirst params.unitId seriesId
      ((s.targetItems params.targets).map ChargeItem.id)
  fund : ∀ e ∈ s.selected params.targets, s.obligationFund e.1 = some fundId
  active : (s.funds.find? fundId).any Fund.isActive
  ne_nil : s.selected params.targets ≠ []
  store_eq : s' = s.withExplicitPayment params fundId now

private theorem dedup_eq_singleton_iff {α : Type} [DecidableEq α] {l : List α} {a : α} :
    l.dedup = [a] ↔ l ≠ [] ∧ ∀ x ∈ l, x = a := by
  constructor
  · intro h
    have hmem : ∀ x, x ∈ l ↔ x = a := by
      intro x
      rw [← List.mem_dedup, h, List.mem_singleton]
    refine ⟨?_, fun x hx => (hmem x).mp hx⟩
    rintro rfl
    simp at h
  · rintro ⟨hne, hall⟩
    obtain ⟨x, hx⟩ := List.exists_mem_of_ne_nil l hne
    have hperm : l.dedup.Perm [a] := by
      rw [List.perm_ext_iff_of_nodup (List.nodup_dedup l) (List.nodup_singleton a)]
      intro y
      rw [List.mem_dedup, List.mem_singleton]
      exact ⟨hall y, fun hy => hy ▸ hall x hx ▸ hx⟩
    exact List.perm_singleton.mp hperm

namespace Store

variable {s : Store}

/-- The funds of the selected obligations are one fund. -/
private theorem fundIds_eq_singleton_iff {targets : List ObligationTarget} {fundId : ℕ}
    (hbatch : ∀ i ∈ s.targetItems targets, (s.batchOf i).isSome) :
    ((s.targetItems targets).filterMap (fun i => (s.batchOf i).map ChargeBatch.fundId) ++
        (s.targetAdjustments targets).map Adjustment.fundId).dedup = [fundId] ↔
      s.selected targets ≠ [] ∧
        ∀ e ∈ s.selected targets, s.obligationFund e.1 = some fundId := by
  have hitem : ∀ i ∈ s.targetItems targets,
      s.obligationFund (.chargeItem i.id) = (s.batchOf i).map ChargeBatch.fundId := by
    intro i hi
    rw [obligationFund, Table.find?_of_mem (mem_targetItems.mp hi).1, Option.bind_some]
  have hadjustment : ∀ a ∈ s.targetAdjustments targets,
      s.obligationFund (.adjustment a.id) = some a.fundId := by
    intro a ha
    rw [obligationFund, Table.find?_of_mem (mem_targetAdjustments.mp ha).1, Option.map_some]
  rw [dedup_eq_singleton_iff, forall_selected]
  -- that there is a fund at all, and that it is the only one
  refine and_congr ?_ ?_
  · rw [← not_iff_not, not_not, not_not]
    simp only [selected, List.append_eq_nil_iff, List.map_eq_nil_iff, List.filterMap_eq_nil_iff,
      Option.map_eq_none_iff]
    refine and_congr_left fun _ => ⟨fun h => ?_, fun h => by simp [h]⟩
    by_contra hne
    obtain ⟨i, hi⟩ := List.exists_mem_of_ne_nil _ hne
    have := hbatch i hi
    rw [h i hi] at this
    exact absurd this (by simp)
  · simp only [List.mem_append, List.mem_filterMap, List.mem_map, or_imp, forall_and]
    refine and_congr ⟨fun h i hi => ?_, ?_⟩ ⟨fun h a ha => ?_, ?_⟩
    · obtain ⟨b, hb⟩ := Option.isSome_iff_exists.mp (hbatch i hi)
      have hmap : (s.batchOf i).map ChargeBatch.fundId = some b.fundId := by rw [hb, Option.map_some]
      rw [hitem i hi, hmap, h b.fundId ⟨i, hi, hmap⟩]
    · rintro h x ⟨i, hi, hx⟩
      have := h i hi
      rw [hitem i hi, hx] at this
      exact Option.some.inj this
    · rw [hadjustment a ha, h a.fundId ⟨a, ha, rfl⟩]
    · rintro h x ⟨a, ha, rfl⟩
      have := h a ha
      rw [hadjustment a ha] at this
      exact Option.some.inj this

end Store

namespace Store

variable {s : Store}

/-- The checks of `createExplicitPayment` on single obligations: each is an active one of the
unit, charged by the building, unreserved, and something is outstanding on it. -/
private theorem checks_iff {targets : List ObligationTarget} {unitId buildingId : ℕ} :
    ((∀ i ∈ s.targetItems targets, i.unitId = unitId ∧
          (s.batchOf i).any fun b => b.buildingId = buildingId ∧ b.status.isBilled) ∧
        ∀ a ∈ s.targetAdjustments targets, a.unitId = unitId ∧ a.buildingId = buildingId) ∧
      ((∀ i ∈ s.targetItems targets, 0 < i.outstanding ∧ ¬ s.isReserved (.chargeItem i.id)) ∧
        ∀ a ∈ s.targetAdjustments targets,
          0 < a.outstanding ∧ ¬ s.isReserved (.adjustment a.id)) ↔
    (s.selected targets).Due s unitId ∧
      (∀ e ∈ s.selected targets, s.obligationBuilding e.1 = some buildingId) ∧
      ∀ e ∈ s.selected targets, s.isReserved e.1 = false := by
  have hitem : ∀ i ∈ s.targetItems targets, s.chargeItems.find? i.id = some i :=
    fun i hi => Table.find?_of_mem (mem_targetItems.mp hi).1
  have hadjustment : ∀ a ∈ s.targetAdjustments targets, s.adjustments.find? a.id = some a :=
    fun a ha => Table.find?_of_mem (mem_targetAdjustments.mp ha).1
  -- the selected obligations are items and adjustments: each check is made for both
  simp only [forall_selected]
  constructor
  · rintro ⟨⟨hi, ha⟩, hi', ha'⟩
    refine ⟨⟨nodup_selected s targets, forall_selected.mpr ⟨fun i h => (hi' i h).1,
      fun a h => (ha' a h).1⟩, forall_selected.mpr ⟨fun i h => ?_, fun a h => ?_⟩,
      forall_selected.mpr ⟨fun i h => ?_, fun a h => ?_⟩⟩, ⟨fun i h => ?_, fun a h => ?_⟩,
      fun i h => by simpa using (hi' i h).2, fun a h => by simpa using (ha' a h).2⟩
    · refine ⟨i, hitem i h, (hi i h).1, ?_⟩
      have hany := (hi i h).2
      cases hb : s.batchOf i with
      | none => rw [hb] at hany; exact absurd hany (by simp)
      | some b =>
        rw [hb] at hany
        simp only [Option.any_some, decide_eq_true_eq] at hany
        rw [isBilled, hb]
        exact hany.2
    · exact ⟨a, hadjustment a h, (ha a h).1⟩
    · exact (outstandingOf_chargeItem (mem_targetItems.mp h).1).ge
    · exact (outstandingOf_adjustment (mem_targetAdjustments.mp h).1).ge
    · have hany := (hi i h).2
      rw [obligationBuilding, hitem i h, Option.bind_some]
      cases hb : s.batchOf i with
      | none => rw [hb] at hany; exact absurd hany (by simp)
      | some b =>
        rw [hb] at hany
        simp only [Option.any_some, decide_eq_true_eq] at hany
        rw [Option.map_some, hany.1]
    · rw [obligationBuilding, hadjustment a h, Option.map_some, (ha a h).2]
  · rintro ⟨hdue, ⟨hi, ha⟩, hi', ha'⟩
    obtain ⟨hpos, hpos'⟩ := forall_selected.mp hdue.pos
    obtain ⟨hactive, hactive'⟩ := forall_selected.mp hdue.isActive
    refine ⟨⟨fun i h => ?_, fun a h => ?_⟩, fun i h => ⟨hpos i h, by simpa using hi' i h⟩,
      fun a h => ⟨hpos' a h, by simpa using ha' a h⟩⟩
    · obtain ⟨r, hr, hunit, hbilled⟩ := hactive i h
      obtain rfl : r = i := Option.some.inj (hr.symm.trans (hitem i h))
      have hb := hi r h
      rw [obligationBuilding, hitem r h, Option.bind_some] at hb
      obtain ⟨b, hfind, hbuilding⟩ := Option.map_eq_some_iff.mp hb
      rw [isBilled, hfind] at hbilled
      exact ⟨hunit, by simpa [hfind] using ⟨hbuilding, hbilled⟩⟩
    · obtain ⟨r, hr, hunit⟩ := hactive' a h
      obtain rfl : r = a := Option.some.inj (hr.symm.trans (hadjustment a h))
      have hb := ha r h
      rw [obligationBuilding, hadjustment r h, Option.map_some] at hb
      exact ⟨hunit, Option.some.inj hb⟩

end Store

/-- A committed `createExplicitPayment` replays the payment of its key or adds a new one. -/
theorem createExplicitPayment_ok {s s' : Store} {params : CreateExplicitPaymentParams} {now : Time}
    {p : Payment} :
    (createExplicitPayment params now).run s = .ok (p, s') ↔
      (s.paymentByKey params.payerId params.buildingId params.idempotencyKey = some p ∧
        params.sameAs p ((s.selectionsOf p.id).map fun d => d.target) ∧ s' = s) ∨
      ∃ fundId, ExplicitEffect params now s s' fundId ∧
        p = params.row fundId (s.selected params.targets).total now s.payments.next := by
  rw [createExplicitPayment, Tx.run_query_bind]
  cases hkey : s.paymentByKey params.payerId params.buildingId params.idempotencyKey with
  | some existing =>
    simp only [Tx.run_query_bind, Tx.run_require_bind_ok, Tx.run_pure_ok, Option.some.injEq]
    constructor
    · rintro ⟨hsame, rfl, rfl⟩
      exact Or.inl ⟨rfl, hsame, rfl⟩
    · rintro (⟨rfl, hsame, rfl⟩ | ⟨fundId, heffect, -⟩)
      · exact ⟨hsame, rfl, rfl⟩
      · have hfresh := heffect.fresh
        rw [hkey] at hfresh
        exact absurd hfresh (by simp)
  | none =>
    simp only [reduceCtorEq, false_and, false_or, Tx.run_query_bind, Tx.run_require_bind_ok]
    have hchecks := @Store.checks_iff s params.targets params.unitId params.buildingId
    have hfunds := @Store.fundIds_eq_singleton_iff s params.targets
    constructor
    · rintro ⟨hexist, hmine, hopen, horder, h⟩
      obtain ⟨hdue, hbuilding, hunreserved⟩ := hchecks.mp ⟨hmine, hopen⟩
      have hbatch : ∀ i ∈ s.targetItems params.targets, (s.batchOf i).isSome := by
        intro i hi
        have hany := (hmine.1 i hi).2
        cases hb : s.batchOf i with
        | none => rw [hb] at hany; exact absurd hany (by simp)
        | some b => rfl
      split at h
      case h_2 => exact absurd h (by simp)
      case h_1 fundId hl =>
        obtain ⟨hne, hfund⟩ := (hfunds hbatch).mp hl
        simp only [Tx.run_require_bind_ok, Tx.run_write_bind, Tx.run_pure_ok] at h
        obtain ⟨hactive, rfl, rfl⟩ := h
        exact ⟨fundId, ⟨hkey, hexist, hdue, hbuilding, hunreserved, horder, hfund, hactive, hne, rfl⟩,
          rfl⟩
    · rintro ⟨fundId, heffect, rfl⟩
      obtain ⟨hmine, hopen⟩ := hchecks.mpr ⟨heffect.due, heffect.building, heffect.unreserved⟩
      have hbatch : ∀ i ∈ s.targetItems params.targets, (s.batchOf i).isSome := by
        intro i hi
        have hany := (hmine.1 i hi).2
        cases hb : s.batchOf i with
        | none => rw [hb] at hany; exact absurd hany (by simp)
        | some b => rfl
      have hl := (hfunds hbatch).mpr ⟨heffect.ne_nil, heffect.fund⟩
      refine ⟨heffect.exist, hmine, hopen, heffect.oldestFirst, ?_⟩
      split
      case h_2 hne => exact absurd hl (hne fundId)
      case h_1 fundId' hl' =>
        obtain rfl : fundId' = fundId := by simpa using hl'.symm.trans hl
        simp only [Tx.run_require_bind_ok, Tx.run_write_bind, Tx.run_pure_ok]
        exact ⟨heffect.active, rfl, heffect.store_eq⟩

/-! ### Rejecting -/

/-- The update of the payment row on rejection. -/
def Payment.reject (reason : Option String) (p : Payment) : Payment :=
  { p with status := .rejected, rejectedReason := reason }

/-- The store after a rejection. -/
def Store.rejected (s : Store) (paymentId : ℕ) (reason : Option String)
    (mode : PaymentSelectionMode) : Store :=
  { s with
    payments := s.payments.modify paymentId (Payment.reject reason)
    debtSelections :=
      match mode with
      | .explicitSelection => setReservations s.debtSelections paymentId .released
      | .legacyAutomatic => s.debtSelections }

/-- A committed rejection found the payment pending. -/
theorem rejectPayment_ok {s s' : Store} {paymentId : ℕ} {reason : Option String} {p : Payment}
    (h : (rejectPayment paymentId reason).run s = .ok (p, s')) :
    ∃ payment, s.payments.find? paymentId = some payment ∧ payment.status = .pendingApproval ∧
      s' = s.rejected paymentId reason payment.selectionMode := by
  simp only [rejectPayment, Tx.run_query_bind, Tx.run_expect_bind_ok, Tx.run_require_bind_ok,
    Tx.run_write_bind] at h
  obtain ⟨payment, hfind, hpending, h⟩ := h
  refine ⟨payment, hfind, hpending, ?_⟩
  cases hmode : payment.selectionMode with
  | explicitSelection =>
    rw [if_pos hmode, Tx.run_write_bind, Tx.run_pure_ok] at h
    exact h.2
  | legacyAutomatic =>
    rw [if_neg (by simp [hmode])] at h
    exact (Tx.run_pure_ok.mp h).2

end VielHome.Finance
