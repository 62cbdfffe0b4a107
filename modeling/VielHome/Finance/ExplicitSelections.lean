import VielHome.Common.Ranges
import VielHome.Finance.NetDebt
import VielHome.Finance.PaymentIdempotency
import VielHome.Finance.ReportedPayments

/-!
# Which selections of debts are accepted

The repository reads the selected rows, counts them, checks them one by one and compares, for
every monthly series, the selected items with a slice of the outstanding ones. Over the targets
of the request these checks are one description (`Store.Selects`): different targets that exist
are counted right (`Store.perm_selected_of_isActive`), and the slice holds selected items only
exactly when it holds all of them (`all_take_iff`). The sum of what they have outstanding is
inserted into an `INTEGER` column, so the database refuses a selection whose sum is out of its
range (`createExplicitPaymentInRange`).
-/

namespace VielHome.Finance

open Relational

/-! ### Slices and filters -/

/-- If the first rows, as many as are selected, are selected, they are the selected ones. -/
theorem all_take_iff {α : Type} {l : List α} {p : α → Bool} :
    ((l.take (l.filter p).length).all p = true) ↔ l.take (l.filter p).length = l.filter p := by
  constructor
  · intro hall
    have hself : (l.take (l.filter p).length).filter p = l.take (l.filter p).length :=
      List.filter_eq_self.mpr (List.all_eq_true.mp hall)
    have hsub : (l.take (l.filter p).length).Sublist (l.filter p) := by
      have hsub := (List.take_sublist (l.filter p).length l).filter p
      rwa [hself] at hsub
    refine hsub.eq_of_length ?_
    rw [List.length_take, min_eq_left (List.length_filter_le _ _)]
  · intro heq
    rw [heq]
    exact List.all_eq_true.mpr fun a ha => (List.mem_filter.mp ha).2

namespace Store

variable {s : Store} {targets : List ObligationTarget}

/-! ### The selected rows -/

theorem map_fst_selected (s : Store) (targets : List ObligationTarget) :
    (s.selected targets).map Prod.fst =
      ((s.targetItems targets).map ChargeItem.id).map .chargeItem ++
        ((s.targetAdjustments targets).map Adjustment.id).map .adjustment := by
  simp [selected, Function.comp_def]

/-- Every selected entry carries what its obligation has outstanding. -/
theorem outstandingOf_of_mem_selected {e : ObligationTarget × ℤ} (he : e ∈ s.selected targets) :
    s.outstandingOf e.1 = e.2 :=
  (forall_selected (P := fun e => s.outstandingOf e.1 = e.2)).mpr
    ⟨fun _ hi => outstandingOf_chargeItem (mem_targetItems.mp hi).1,
      fun _ ha => outstandingOf_adjustment (mem_targetAdjustments.mp ha).1⟩ e he

/-- When the selected obligations are the targets, each once, the counts of the rows agree. -/
theorem exist_of_perm (hperm : ((s.selected targets).map Prod.fst).Perm targets) :
    (s.targetItems targets).length = (targets.filterMap ObligationTarget.chargeItemId?).length ∧
      (s.targetAdjustments targets).length =
        (targets.filterMap ObligationTarget.adjustmentId?).length := by
  rw [map_fst_selected] at hperm
  have hitems := (hperm.filterMap ObligationTarget.chargeItemId?).length_eq
  have hadjustments := (hperm.filterMap ObligationTarget.adjustmentId?).length_eq
  constructor
  · simpa [List.filterMap_append, List.filterMap_map, ObligationTarget.chargeItemId?,
      Function.comp_def] using hitems
  · simpa [List.filterMap_append, List.filterMap_map, ObligationTarget.adjustmentId?,
      Function.comp_def] using hadjustments

/-- Different obligations that exist are all found. -/
theorem perm_selected_of_isActive (s : Store) (hnodup : targets.Nodup) {unitId : ℕ}
    (hactive : ∀ t ∈ targets, s.IsActive unitId t) :
    ((s.selected targets).map Prod.fst).Perm targets := by
  refine (List.perm_ext_iff_of_nodup (s.nodup_selected targets) hnodup).mpr
    fun t => ⟨fun ht => ?_, fun ht => ?_⟩
  · obtain ⟨e, he, rfl⟩ := List.mem_map.mp ht
    exact (forall_selected (P := fun e => e.1 ∈ targets)).mpr
      ⟨fun _ hi => (mem_targetItems.mp hi).2, fun _ ha => (mem_targetAdjustments.mp ha).2⟩ e he
  · rw [map_fst_selected, List.mem_append]
    cases t with
    | chargeItem id =>
      obtain ⟨i, hi, -⟩ := hactive _ ht
      obtain rfl := Table.key_of_find? hi
      exact Or.inl (List.mem_map_of_mem
        (List.mem_map_of_mem (mem_targetItems.mpr ⟨Table.mem_of_find? hi, ht⟩)))
    | adjustment id =>
      obtain ⟨a, ha, -⟩ := hactive _ ht
      obtain rfl := Table.key_of_find? ha
      exact Or.inr (List.mem_map_of_mem
        (List.mem_map_of_mem (mem_targetAdjustments.mpr ⟨Table.mem_of_find? ha, ht⟩)))

/-! ### Selections -/

/-- The selected items of one monthly series. -/
def selectedOfSeries (s : Store) (targets : List ObligationTarget) (seriesId : ℕ) :
    List ChargeItem :=
  (s.targetItems targets).filter fun i => s.monthlySeries i = some seriesId

/-- The request selects different obligations of the payment's unit and building that are to be
paid into one active fund, unreserved and with something outstanding, and of every monthly
series the oldest ones; and what they have outstanding adds up to an integer of the database. -/
structure Selects (s : Store) (params : CreateExplicitPaymentParams) (fundId : ℕ) : Prop where
  ne_nil : params.targets ≠ []
  nodup : params.targets.Nodup
  isActive : ∀ t ∈ params.targets, s.IsActive params.unitId t
  building : ∀ t ∈ params.targets, s.obligationBuilding t = some params.buildingId
  fund : ∀ t ∈ params.targets, s.obligationFund t = some fundId
  active : (s.funds.find? fundId).any Fund.isActive
  unreserved : ∀ t ∈ params.targets, s.isReserved t = false
  remainder : ∀ t ∈ params.targets, 0 < s.outstandingOf t
  fits : FitsInteger (params.targets.map s.outstandingOf).sum
  oldestFirst : ∀ seriesId i, i ∈ s.selectedOfSeries params.targets seriesId ↔
    i ∈ (s.outstandingOfSeries params.unitId seriesId).take
      (s.selectedOfSeries params.targets seriesId).length

theorem mem_outstandingOfSeries {unitId seriesId : ℕ} {i : ChargeItem} :
    i ∈ s.outstandingOfSeries unitId seriesId ↔
      i ∈ s.outstandingItems unitId ∧ s.monthlySeries i = some seriesId := by
  simp [outstandingOfSeries, List.mem_insertionSort]

theorem mem_selectedOfSeries {seriesId : ℕ} {i : ChargeItem} :
    i ∈ s.selectedOfSeries targets seriesId ↔
      i ∈ s.targetItems targets ∧ s.monthlySeries i = some seriesId := by
  simp [selectedOfSeries]

theorem nodup_outstandingOfSeries (s : Store) (unitId seriesId : ℕ) :
    (s.outstandingOfSeries unitId seriesId).Nodup := by
  rw [outstandingOfSeries, (List.perm_insertionSort s.byPeriod _).nodup_iff]
  exact (List.Nodup.of_map ChargeItem.id s.chargeItems.nodup).sublist
    (List.filter_sublist.trans List.filter_sublist)

theorem nodup_selectedOfSeries (s : Store) (targets : List ObligationTarget) (seriesId : ℕ) :
    (s.selectedOfSeries targets seriesId).Nodup :=
  (List.Nodup.of_map ChargeItem.id s.chargeItems.nodup).sublist
    (List.filter_sublist.trans List.filter_sublist)

/-- The selected items of a series are among its outstanding ones. -/
theorem Valid.perm_selectedOfSeries (h : s.Valid) {unitId : ℕ}
    (hactive : ∀ t ∈ targets, s.IsActive unitId t) (hpos : ∀ t ∈ targets, 0 < s.outstandingOf t)
    (seriesId : ℕ) :
    ((s.outstandingOfSeries unitId seriesId).filter fun i =>
      i.id ∈ (s.targetItems targets).map ChargeItem.id).Perm
      (s.selectedOfSeries targets seriesId) := by
  refine (List.perm_ext_iff_of_nodup ((s.nodup_outstandingOfSeries unitId seriesId).filter _)
    (s.nodup_selectedOfSeries targets seriesId)).mpr fun i => ?_
  rw [List.mem_filter, mem_outstandingOfSeries, mem_selectedOfSeries]
  simp only [decide_eq_true_eq]
  constructor
  · rintro ⟨⟨hi, hseries⟩, hid⟩
    obtain ⟨j, hj, hji⟩ := List.mem_map.mp hid
    obtain rfl := Table.eq_of_key_eq (mem_targetItems.mp hj).1 (mem_outstandingItems.mp hi).1 hji
    exact ⟨hj, hseries⟩
  · rintro ⟨hi, hseries⟩
    obtain ⟨hmem, htarget⟩ := mem_targetItems.mp hi
    obtain ⟨i', hfind, hunit, hbilled⟩ := hactive _ htarget
    obtain rfl := Option.some.inj (hfind.symm.trans (Table.find?_of_mem hmem))
    have hout := hpos _ htarget
    rw [outstandingOf_chargeItem hmem] at hout
    -- an item with something outstanding is not paid
    have hunpaid : i'.status ≠ .paid := fun hpaid =>
      hout.ne' (h.outstanding_eq_zero hmem hpaid)
    exact ⟨⟨mem_outstandingItems.mpr ⟨hmem, hunit, hunpaid, hbilled⟩, hseries⟩,
      List.mem_map.mpr ⟨i', hi, rfl⟩⟩

/-- The check of one series. -/
theorem Valid.selectsOldestFirst_iff_take (h : s.Valid) {unitId : ℕ}
    (hactive : ∀ t ∈ targets, s.IsActive unitId t) (hpos : ∀ t ∈ targets, 0 < s.outstandingOf t)
    (seriesId : ℕ) :
    s.selectsOldestFirst unitId seriesId ((s.targetItems targets).map ChargeItem.id) = true ↔
      ∀ i, i ∈ s.selectedOfSeries targets seriesId ↔
        i ∈ (s.outstandingOfSeries unitId seriesId).take
          (s.selectedOfSeries targets seriesId).length := by
  have hperm := h.perm_selectedOfSeries hactive hpos seriesId
  rw [← hperm.length_eq]
  constructor
  · intro hselects i
    rw [all_take_iff.mp hselects]
    exact hperm.mem_iff.symm
  · intro hfirst
    refine List.all_eq_true.mpr fun i hi => ?_
    exact (List.mem_filter.mp (hperm.mem_iff.mpr ((hfirst i).mpr hi))).2

/-- The checks of all series. -/
theorem Valid.oldestFirst_iff (h : s.Valid) {unitId : ℕ}
    (hactive : ∀ t ∈ targets, s.IsActive unitId t) (hpos : ∀ t ∈ targets, 0 < s.outstandingOf t) :
    (∀ seriesId ∈ ((s.targetItems targets).filterMap s.monthlySeries).dedup,
        s.selectsOldestFirst unitId seriesId ((s.targetItems targets).map ChargeItem.id)) ↔
      ∀ seriesId i, i ∈ s.selectedOfSeries targets seriesId ↔
        i ∈ (s.outstandingOfSeries unitId seriesId).take
          (s.selectedOfSeries targets seriesId).length := by
  refine ⟨fun hselects seriesId => ?_, fun hfirst seriesId _ =>
    (h.selectsOldestFirst_iff_take hactive hpos seriesId).mpr (hfirst seriesId)⟩
  by_cases hseries : seriesId ∈ ((s.targetItems targets).filterMap s.monthlySeries).dedup
  · exact (h.selectsOldestFirst_iff_take hactive hpos seriesId).mp (hselects seriesId hseries)
  · -- no item of the series is selected, and none is the first of nothing
    have hnone : s.selectedOfSeries targets seriesId = [] :=
      List.eq_nil_iff_forall_not_mem.mpr fun i hi => by
        obtain ⟨hmem, hi⟩ := mem_selectedOfSeries.mp hi
        exact hseries (List.mem_dedup.mpr (List.mem_filterMap.mpr ⟨i, hmem, hi⟩))
    intro i
    rw [hnone, List.length_nil, List.take_zero]

/-- The checks of the repository and of the column accept exactly the described selections. -/
theorem Valid.explicitEffect_iff (h : s.Valid) {params : CreateExplicitPaymentParams} {now : Time}
    {s' : Store} {fundId : ℕ}
    (hfresh : s.paymentByKey params.payerId params.buildingId params.idempotencyKey = none) :
    (ExplicitEffect params now s s' fundId ∧ FitsInteger (s.selected params.targets).total) ↔
      s.Selects params fundId ∧ s' = s.withExplicitPayment params fundId now := by
  constructor
  · rintro ⟨heffect, hfits⟩
    have hperm := perm_selected heffect.exist
    have hentry : ∀ t ∈ params.targets, ∃ e ∈ s.selected params.targets, e.1 = t := fun t ht =>
      List.mem_map.mp (hperm.mem_iff.mpr ht)
    have hactive : ∀ t ∈ params.targets, s.IsActive params.unitId t := fun t ht => by
      obtain ⟨e, he, rfl⟩ := hentry t ht
      exact heffect.due.isActive e he
    have hpos : ∀ t ∈ params.targets, 0 < s.outstandingOf t := fun t ht => by
      obtain ⟨e, he, rfl⟩ := hentry t ht
      exact (heffect.due.pos e he).trans_le (heffect.due.le e he)
    refine ⟨⟨?_, hperm.nodup_iff.mp heffect.due.nodup, hactive, fun t ht => ?_, fun t ht => ?_,
      heffect.active, fun t ht => ?_, hpos, total_selected heffect.exist ▸ hfits,
      (h.oldestFirst_iff hactive hpos).mp heffect.oldestFirst⟩, heffect.store_eq⟩
    · intro hnil
      rw [hnil] at hperm
      exact heffect.ne_nil (hnil ▸ List.map_eq_nil_iff.mp (List.perm_nil.mp hperm))
    · obtain ⟨e, he, rfl⟩ := hentry t ht
      exact heffect.building e he
    · obtain ⟨e, he, rfl⟩ := hentry t ht
      exact heffect.fund e he
    · obtain ⟨e, he, rfl⟩ := hentry t ht
      exact heffect.unreserved e he
  · rintro ⟨hselects, rfl⟩
    have hperm := s.perm_selected_of_isActive hselects.nodup hselects.isActive
    have htarget : ∀ e ∈ s.selected params.targets, e.1 ∈ params.targets := fun e he =>
      hperm.mem_iff.mp (List.mem_map_of_mem he)
    have hexist := exist_of_perm hperm
    refine ⟨⟨hfresh, hexist, ⟨s.nodup_selected _, fun e he => ?_, fun e he => ?_, fun e he => ?_⟩,
      fun e he => hselects.building _ (htarget e he), fun e he => hselects.unreserved _ (htarget e he),
      (h.oldestFirst_iff hselects.isActive hselects.remainder).mpr hselects.oldestFirst,
      fun e he => hselects.fund _ (htarget e he), hselects.active, ?_, rfl⟩,
      (total_selected hexist).symm ▸ hselects.fits⟩
    · rw [← outstandingOf_of_mem_selected he]
      exact hselects.remainder _ (htarget e he)
    · exact hselects.isActive _ (htarget e he)
    · exact (outstandingOf_of_mem_selected he).ge
    · intro hnil
      rw [hnil] at hperm
      exact hselects.ne_nil (List.nil_perm.mp hperm)

end Store

/-- `createExplicitPayment` on a database that refuses to insert an amount out of the range of its
column; a payment that is there already is only read. -/
def createExplicitPaymentInRange (params : CreateExplicitPaymentParams) (now : Time) :
    Tx Store Failure Payment := do
  let existing ← Tx.query fun s =>
    s.paymentByKey params.payerId params.buildingId params.idempotencyKey
  let payment ← createExplicitPayment params now
  Tx.require (existing.isSome ∨ FitsInteger payment.amount) .invalidArgument
  pure payment

theorem createExplicitPaymentInRange_ok {s s' : Store} {params : CreateExplicitPaymentParams}
    {now : Time} {p : Payment} :
    (createExplicitPaymentInRange params now).run s = .ok (p, s') ↔
      (createExplicitPayment params now).run s = .ok (p, s') ∧
        ((s.paymentByKey params.payerId params.buildingId params.idempotencyKey).isSome ∨
          FitsInteger p.amount) := by
  rw [createExplicitPaymentInRange, Tx.run_query_bind, Tx.run_bind_ok]
  simp only [Tx.run_require_bind_ok, Tx.run_pure_ok]
  constructor
  · rintro ⟨payment, s₁, hrun, hfits, rfl, rfl⟩
    exact ⟨hrun, hfits⟩
  · rintro ⟨hrun, hfits⟩
    exact ⟨p, s', hrun, hfits, rfl, rfl⟩

/-- In every reachable state, a request that selects obligations under a fresh key creates a
payment exactly when it selects different, unreserved obligations of the unit and the building
with something outstanding, all to be paid into one active fund, and of every monthly series the
oldest ones, and what they have outstanding adds up to an integer of the database; the payment is
then one of this sum. Under a used key it returns the payment of the key, if that was requested in
the same way, and changes nothing. -/
theorem explicit_payment_iff {S : System} (h : S.Reachable) (params : CreateExplicitPaymentParams)
    (now : Time) (p : Payment) (s : Store) :
    (createExplicitPaymentInRange params now).run S.store = .ok (p, s) ↔
      (S.store.paymentByKey params.payerId params.buildingId params.idempotencyKey = none ∧
        ∃ fundId, S.store.Selects params fundId ∧
          p = params.row fundId (params.targets.map S.store.outstandingOf).sum now
            S.store.payments.next ∧
          s = S.store.withExplicitPayment params fundId now) ∨
      (S.store.paymentByKey params.payerId params.buildingId params.idempotencyKey = some p ∧
        params.sameAs p ((S.store.selectionsOf p.id).map fun d => d.target) ∧ s = S.store) := by
  have hvalid := System.valid_of_reachable h
  rw [createExplicitPaymentInRange_ok, createExplicitPayment_ok, or_comm, or_and_right]
  refine or_congr ?_ ?_
  · constructor
    · rintro ⟨⟨fundId, heffect, rfl⟩, hsome | hfits⟩
      · -- an effect needs a fresh key
        rw [heffect.fresh] at hsome
        exact absurd hsome (by simp)
      · obtain ⟨hselects, rfl⟩ := (hvalid.explicitEffect_iff heffect.fresh).mp ⟨heffect, hfits⟩
        exact ⟨heffect.fresh, fundId, hselects, by rw [Store.total_selected heffect.exist], rfl⟩
    · rintro ⟨hfresh, fundId, hselects, rfl, rfl⟩
      obtain ⟨heffect, -⟩ := (hvalid.explicitEffect_iff hfresh).mpr ⟨hselects, rfl⟩
      exact ⟨⟨fundId, heffect, by rw [Store.total_selected heffect.exist]⟩, Or.inr hselects.fits⟩
  · exact and_iff_left_of_imp fun ⟨hused, _⟩ => Or.inl (by rw [hused]; rfl)

/-- The request for the charge. -/
def System.chargeReport : CreateExplicitPaymentParams :=
  { buildingId := 0, unitId := 0, payerId := 5, method := .cash, idempotencyKey := "key",
    targets := [.chargeItem 0] }

/-- The first report of the charge. -/
theorem explicit_payment_iff_charged :
    ∃ p s, (createExplicitPaymentInRange System.chargeReport 3).run
        (runFrom System.step System.init System.charged).store = .ok (p, s) ∧
      ∃ fundId, (runFrom System.step System.init System.charged).store.Selects
        System.chargeReport fundId := by
  obtain ⟨p, -, hrun⟩ := Tx.exists_run_ok (x := createExplicitPaymentInRange System.chargeReport 3)
    (s := (runFrom System.step System.init System.charged).store) (fun _ => true)
    (by decide +kernel)
  have hfresh : (runFrom System.step System.init System.charged).store.paymentByKey 5 0 "key" =
    none := by decide +kernel
  refine ⟨p, _, hrun, ?_⟩
  rcases (explicit_payment_iff ⟨System.charged, rfl⟩ System.chargeReport 3 p _).mp hrun with
    ⟨-, fundId, hselects, -⟩ | ⟨hused, -⟩
  · exact ⟨fundId, hselects⟩
  · exact absurd (hfresh.symm.trans hused) (Option.some_ne_none p).symm

/-- The charge awaits approval, so it is reserved, and a repetition of the report succeeds. -/
theorem replayed_selection_is_reserved :
    (∃ p s, (createExplicitPaymentInRange System.chargeReport 4).run
        (runFrom System.step System.init System.reportedExplicitly).store = .ok (p, s)) ∧
      ∀ fundId, ¬ (runFrom System.step System.init System.reportedExplicitly).store.Selects
        System.chargeReport fundId := by
  obtain ⟨p, -, hrun⟩ := Tx.exists_run_ok (x := createExplicitPaymentInRange System.chargeReport 4)
    (s := (runFrom System.step System.init System.reportedExplicitly).store) (fun _ => true)
    (by decide +kernel)
  refine ⟨⟨p, _, hrun⟩, fun fundId hselects => ?_⟩
  have hfree := hselects.unreserved (.chargeItem 0) List.mem_cons_self
  have hreserved : (runFrom System.step System.init System.reportedExplicitly).store.isReserved
    (.chargeItem 0) = true := by decide +kernel
  exact absurd (hreserved.symm.trans hfree) (by decide)

end VielHome.Finance
