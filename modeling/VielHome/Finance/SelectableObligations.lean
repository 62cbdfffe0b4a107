import VielHome.Finance.NetDebt

/-!
# Obligations that are offered and obligations that can be paid

`listSelectableObligations` and `createExplicitPayment` both decide which obligations a payment
may select, the one with a map of monthly predecessors and the other by comparing the selection
with a sorted read. They differ on one kind of item: an item of amount zero is never `PAID`, so
it stays in the sorted read and must be selected before the later items of its series, but it
has nothing outstanding, so it is no predecessor and can never be selected.
-/

namespace VielHome.Finance

open Relational

namespace Store

/-- The unit's outstanding items as `listSelectableObligations` reads them. -/
def listedItems (s : Store) (unitId : ℕ) : List ChargeItem :=
  (s.outstandingItems unitId).insertionSort s.byPeriodThenAge

/-- The items of the same series that are listed before the item. -/
def earlierInSeries (s : Store) (unitId : ℕ) (item : ChargeItem) : List ChargeItem :=
  ((s.listedItems unitId).takeWhile fun j => j.id ≠ item.id).filter fun j =>
    s.monthlySeries j = s.monthlySeries item

/-- An unreserved monthly item with something outstanding follows items of its series, and none
of these has anything outstanding. -/
def BehindSettled (s : Store) (unitId : ℕ) : ObligationTarget → Prop
  | .chargeItem id => ∃ item ∈ s.listedItems unitId, item.id = id ∧
      (s.monthlySeries item).isSome ∧ 0 < item.outstanding ∧
      s.isReserved (.chargeItem id) = false ∧ s.earlierInSeries unitId item ≠ [] ∧
      ∀ j ∈ s.earlierInSeries unitId item, j.outstanding ≤ 0
  | .adjustment _ => False

/-- The billed items and the debt-adding adjustments of the unit belong to active funds of the
building. -/
def OwnsObligations (s : Store) (buildingId unitId : ℕ) : Prop :=
  (∀ i ∈ s.chargeItems, i.unitId = unitId → s.isBilled i = true →
    ∀ batch ∈ s.batchOf i, batch.buildingId = buildingId ∧
      (s.funds.find? batch.fundId).any Fund.isActive = true) ∧
  ∀ a ∈ s.adjustments, a.unitId = unitId → 0 < a.amount →
    a.buildingId = buildingId ∧ (s.funds.find? a.fundId).any Fund.isActive = true

instance (s : Store) (buildingId unitId : ℕ) : Decidable (s.OwnsObligations buildingId unitId) := by
  unfold OwnsObligations
  infer_instance

/-- The obligation is offered as selectable. -/
def Offers (s : Store) (unitId : ℕ) (target : ObligationTarget) : Prop :=
  ∃ e ∈ s.listSelectableObligations unitId, e.obligationId = target ∧ e.selectable = true

variable {s : Store} {unitId : ℕ}

/-! ### Monthly predecessors -/

theorem exists_mem_of_monthlyPredecessors {items : List ChargeItem} {latest : ℕ → Option ℕ}
    {e : ℕ × ℕ} (he : e ∈ s.monthlyPredecessors items latest) : ∃ i ∈ items, i.id = e.1 := by
  induction items generalizing latest with
  | nil => exact absurd he List.not_mem_nil
  | cons item rest ih =>
    have hrest : ∀ {latest' : ℕ → Option ℕ}, e ∈ s.monthlyPredecessors rest latest' →
        ∃ i ∈ item :: rest, i.id = e.1 := by
      intro latest' hmem
      obtain ⟨i, hi, hid⟩ := ih hmem
      exact ⟨i, List.mem_cons_of_mem _ hi, hid⟩
    simp only [monthlyPredecessors] at he
    split at he
    · exact hrest he
    · split at he
      · split at he
        · rcases List.mem_cons.mp he with rfl | he
          · exact ⟨item, List.mem_cons_self, rfl⟩
          · exact hrest he
        · exact hrest he
      · exact hrest he

/-- An item has a predecessor exactly when it is a monthly one with something outstanding and so
is an earlier one of its series. -/
theorem exists_monthlyPredecessors_iff {pre post : List ChargeItem} {item : ChargeItem}
    (hpre : ∀ j ∈ pre, j.id ≠ item.id) (hpost : ∀ j ∈ post, j.id ≠ item.id)
    (latest : ℕ → Option ℕ) :
    (∃ e ∈ s.monthlyPredecessors (pre ++ item :: post) latest, e.1 = item.id) ↔
      ∃ seriesId, s.monthlySeries item = some seriesId ∧ 0 < item.outstanding ∧
        ((latest seriesId).isSome ∨
          ∃ j ∈ pre, s.monthlySeries j = some seriesId ∧ 0 < j.outstanding) := by
  induction pre generalizing latest with
  | nil =>
    have hnone : ∀ latest', ¬ ∃ e ∈ s.monthlyPredecessors post latest', e.1 = item.id := by
      rintro latest' ⟨e, he, hid⟩
      obtain ⟨j, hj, hje⟩ := exists_mem_of_monthlyPredecessors he
      exact hpost j hj (hje.trans hid)
    rw [List.nil_append]
    simp only [monthlyPredecessors]
    cases hseries : s.monthlySeries item with
    | none => simpa using hnone latest
    | some seriesId =>
      by_cases hpos : 0 < item.outstanding
      · cases hlatest : latest seriesId with
        | none => simpa [hpos, hlatest] using hnone _
        | some predecessorId => simp [hpos, hlatest]
      · simpa [hpos] using hnone latest
  | cons j pre ih =>
    have hj : j.id ≠ item.id := hpre j List.mem_cons_self
    have hpre' : ∀ k ∈ pre, k.id ≠ item.id := fun k hk => hpre k (List.mem_cons_of_mem _ hk)
    rw [List.cons_append]
    simp only [monthlyPredecessors]
    cases hseries : s.monthlySeries j with
    | none =>
      refine (ih hpre' latest).trans (exists_congr fun seriesId => ?_)
      simp [hseries]
    | some seriesId' =>
      by_cases hpos : 0 < j.outstanding
      · -- `j` becomes the latest outstanding item of its series
        have hupdate := ih hpre' (Function.update latest seriesId' (some j.id))
        simp only [hpos, if_true]
        refine Iff.trans ?_ (hupdate.trans (exists_congr fun seriesId => ?_))
        · cases latest seriesId' with
          | none => rfl
          | some predecessorId => simp [hj]
        by_cases hsame : seriesId = seriesId'
        · simp [hsame, hseries, hpos]
        · have hsame' : ¬ seriesId' = seriesId := fun h => hsame h.symm
          simp [Function.update_of_ne hsame, hseries, hsame']
      · simp only [hpos, if_false]
        refine (ih hpre' latest).trans (exists_congr fun seriesId => ?_)
        simp [hpos]

/-! ### The listed items -/

theorem mem_listedItems {i : ChargeItem} :
    i ∈ s.listedItems unitId ↔
      i ∈ s.chargeItems ∧ i.unitId = unitId ∧ i.status ≠ .paid ∧ s.isBilled i := by
  rw [listedItems, List.mem_insertionSort, mem_outstandingItems]

theorem nodup_listedItems (s : Store) (unitId : ℕ) :
    ((s.listedItems unitId).map ChargeItem.id).Nodup := by
  have hperm := (List.perm_insertionSort s.byPeriodThenAge (s.outstandingItems unitId)).map
    ChargeItem.id
  exact hperm.nodup_iff.mpr ((List.filter_sublist.map ChargeItem.id).nodup s.chargeItems.nodup)

/-- A listed item splits the list into what comes before and what comes after it. -/
theorem exists_listedItems_split {item : ChargeItem} (hitem : item ∈ s.listedItems unitId) :
    ∃ pre post, s.listedItems unitId = pre ++ item :: post ∧
      (∀ j ∈ pre, j.id ≠ item.id) ∧ (∀ j ∈ post, j.id ≠ item.id) ∧
      s.earlierInSeries unitId item =
        pre.filter fun j => s.monthlySeries j = s.monthlySeries item := by
  obtain ⟨pre, post, hsplit⟩ := List.append_of_mem hitem
  have hnodup := nodup_listedItems s unitId
  rw [hsplit, List.map_append, List.map_cons, List.nodup_append] at hnodup
  obtain ⟨-, hpost, hdisjoint⟩ := hnodup
  have hpre : ∀ j ∈ pre, j.id ≠ item.id := fun j hj =>
    hdisjoint _ (List.mem_map_of_mem hj) _ List.mem_cons_self
  refine ⟨pre, post, hsplit, hpre, fun j hj heq => ?_, ?_⟩
  · rw [List.nodup_cons] at hpost
    exact hpost.1 (heq ▸ List.mem_map_of_mem hj)
  · rw [earlierInSeries, hsplit, List.takeWhile_append_of_pos (by simpa using hpre),
      List.takeWhile_cons_of_neg (by simp), List.append_nil]

/-- A listed item has a predecessor exactly when an earlier item of its series has something
outstanding. -/
theorem monthlyPredecessor_isSome_iff {item : ChargeItem} (hitem : item ∈ s.listedItems unitId)
    (hpos : 0 < item.outstanding) :
    (s.monthlyPredecessor (s.listedItems unitId) item.id).isSome ↔
      (s.monthlySeries item).isSome ∧
        ∃ j ∈ s.earlierInSeries unitId item, 0 < j.outstanding := by
  obtain ⟨pre, post, hsplit, hpre, hpost, hearlier⟩ := exists_listedItems_split hitem
  rw [monthlyPredecessor, Option.isSome_map, List.find?_isSome, hsplit, hearlier]
  simp only [decide_eq_true_eq]
  rw [exists_monthlyPredecessors_iff hpre hpost]
  simp only [Option.isSome_none, Bool.false_eq_true, false_or, hpos, true_and, List.mem_filter,
    decide_eq_true_eq, Option.isSome_iff_exists]
  constructor
  · rintro ⟨seriesId, hseries, j, hj, hjseries, hjpos⟩
    exact ⟨⟨seriesId, hseries⟩, j, ⟨hj, hjseries.trans hseries.symm⟩, hjpos⟩
  · rintro ⟨⟨seriesId, hseries⟩, j, ⟨hj, hjseries⟩, hjpos⟩
    exact ⟨seriesId, hseries, j, hj, hjseries.trans hseries, hjpos⟩

/-! ### The sorted read of a series -/

/-- The batch of a monthly item. -/
theorem monthlySeries_eq_some {i : ChargeItem} {seriesId : ℕ}
    (h : s.monthlySeries i = some seriesId) :
    ∃ batch, s.batchOf i = some batch ∧ batch.kind = some .monthly ∧
      batch.seriesId = some seriesId := by
  obtain ⟨batch, hbatch, hkind⟩ := Option.bind_eq_some_iff.mp h
  split at hkind
  case isTrue hmonthly => exact ⟨batch, hbatch, hmonthly, hkind⟩
  case isFalse => exact absurd hkind (by simp)

/-- Within a series the age of an item adds nothing to its period: two items of one period are
items of one batch. -/
theorem Valid.byPeriodThenAge_iff (h : s.Valid) (seriesId : ℕ) {i j : ChargeItem}
    (hi : i ∈ s.chargeItems) (hj : j ∈ s.chargeItems) (hiseries : s.monthlySeries i = some seriesId)
    (hjseries : s.monthlySeries j = some seriesId) : s.byPeriodThenAge i j ↔ s.byPeriod i j := by
  refine ⟨fun hle => hle.1, fun hle => ⟨hle, fun hge => ?_⟩⟩
  obtain ⟨b, hb, hmonthly, hseries⟩ := monthlySeries_eq_some hiseries
  obtain ⟨b', hb', hmonthly', hseries'⟩ := monthlySeries_eq_some hjseries
  have hmem := Table.mem_of_find? hb
  have hmem' := Table.mem_of_find? hb'
  obtain ⟨t, ht⟩ := Option.isSome_iff_exists.mp (h.batch_monthly b hmem hmonthly).2
  obtain ⟨t', ht'⟩ := Option.isSome_iff_exists.mp (h.batch_monthly b' hmem' hmonthly').2
  have hperiod : t = t' := by
    rw [byPeriod, hb, hb', Option.bind_some, Option.bind_some, ht, ht'] at hle
    rw [hb, hb', Option.bind_some, Option.bind_some, ht, ht'] at hge
    exact le_antisymm hle hge
  have hid : b.id = b'.id := h.batch_period b hmem b' hmem' hmonthly hmonthly'
    (hseries.trans hseries'.symm) (by rw [ht, ht', hperiod])
  obtain rfl := Table.eq_of_key_eq hmem hmem' hid
  obtain ⟨c, hc, hage⟩ := h.item_batch i hi
  obtain ⟨c', hc', hage'⟩ := h.item_batch j hj
  rw [hage, hage', Option.some.inj (hc.symm.trans hb), Option.some.inj (hc'.symm.trans hb')]

/-- The read of a series selects from the listed items. -/
theorem Valid.outstandingOfSeries_eq (h : s.Valid) (unitId seriesId : ℕ) :
    s.outstandingOfSeries unitId seriesId =
      (s.listedItems unitId).filter fun i => s.monthlySeries i = some seriesId := by
  have htotal : ∀ i j, s.byPeriodThenAge i j ∨ s.byPeriodThenAge j i :=
    ThenBy.total (fun _ _ => NullsLast.total _ _) fun _ _ => le_total _ _
  have htrans : ∀ i j k, s.byPeriodThenAge i j → s.byPeriodThenAge j k → s.byPeriodThenAge i k :=
    ThenBy.trans (fun _ _ _ => NullsLast.trans _ _ _) fun _ _ _ => le_trans
  rw [listedItems, filter_insertionSort htotal htrans, outstandingOfSeries]
  refine insertionSort_congr fun i hi j hj => (h.byPeriodThenAge_iff seriesId ?_ ?_ ?_ ?_).symm
  · exact (mem_outstandingItems.mp (List.mem_filter.mp hi).1).1
  · exact (mem_outstandingItems.mp (List.mem_filter.mp hj).1).1
  · exact of_decide_eq_true (List.mem_filter.mp hi).2
  · exact of_decide_eq_true (List.mem_filter.mp hj).2

/-- A monthly item alone is selected oldest first exactly when no item of its series is listed
before it. -/
theorem Valid.selectsOldestFirst_iff (h : s.Valid) {item : ChargeItem}
    (hitem : item ∈ s.listedItems unitId) {seriesId : ℕ}
    (hseries : s.monthlySeries item = some seriesId) :
    s.selectsOldestFirst unitId seriesId [item.id] = true ↔
      s.earlierInSeries unitId item = [] := by
  obtain ⟨pre, post, hsplit, hpre, hpost, hearlier⟩ := exists_listedItems_split hitem
  have hread : s.outstandingOfSeries unitId seriesId =
      pre.filter (fun j => s.monthlySeries j = some seriesId) ++
        item :: post.filter fun j => s.monthlySeries j = some seriesId := by
    rw [h.outstandingOfSeries_eq, hsplit, List.filter_append, List.filter_cons_of_pos (by simpa)]
  have hnot : ∀ (l : List ChargeItem), (∀ j ∈ l, j.id ≠ item.id) →
      (l.filter fun j => s.monthlySeries j = some seriesId).filter (fun j => j.id ∈ [item.id]) =
        [] := by
    intro l hl
    refine List.filter_eq_nil_iff.mpr fun j hj => ?_
    simpa using hl j (List.mem_of_mem_filter hj)
  have hcount : ((s.outstandingOfSeries unitId seriesId).filter fun j =>
      j.id ∈ [item.id]).length = 1 := by
    rw [hread, List.filter_append, List.filter_cons_of_pos (by simp), hnot pre hpre,
      hnot post hpost]
    rfl
  rw [selectsOldestFirst, hcount, hread, hearlier, hseries]
  cases hfilter : pre.filter fun j => s.monthlySeries j = some seriesId with
  | nil => simp
  | cons j l =>
    have hj : j ∈ pre := List.mem_of_mem_filter (hfilter ▸ List.mem_cons_self)
    simp [hpre j hj]

/-! ### The two decisions -/

/-- An item with something outstanding is not paid. -/
theorem ItemsOk.mem_listedItems_iff (h : s.ItemsOk) {i : ChargeItem} (hpos : 0 < i.outstanding) :
    i ∈ s.listedItems unitId ↔ i ∈ s.chargeItems ∧ i.unitId = unitId ∧ s.isBilled i = true := by
  rw [mem_listedItems]
  refine ⟨fun ⟨hi, hunit, _, hbilled⟩ => ⟨hi, hunit, hbilled⟩, fun ⟨hi, hunit, hbilled⟩ => ?_⟩
  refine ⟨hi, hunit, fun hpaid => ?_, hbilled⟩
  have hzero := h.outstanding_eq_zero hi hpaid
  omega

/-- When an item is offered. -/
theorem Valid.offers_chargeItem_iff (h : s.Valid) (unitId id : ℕ) :
    s.Offers unitId (.chargeItem id) ↔
      ∃ item ∈ s.chargeItems, item.id = id ∧ item.unitId = unitId ∧ s.isBilled item = true ∧
        0 < item.outstanding ∧ s.isReserved (.chargeItem id) = false ∧
        ((s.monthlySeries item).isSome → ∀ j ∈ s.earlierInSeries unitId item, j.outstanding ≤ 0) := by
  have hentry : ∀ item : ChargeItem,
      (s.selectableItem (s.listedItems unitId) item).selectable = true ↔
        s.isReserved (.chargeItem item.id) = false ∧
          (s.monthlyPredecessor (s.listedItems unitId) item.id).isSome = false := by
    intro item
    simp only [selectableItem]
    cases s.isReserved (.chargeItem item.id) <;>
      cases (s.monthlyPredecessor (s.listedItems unitId) item.id).isSome <;> simp
  have hblocked : ∀ item ∈ s.listedItems unitId, 0 < item.outstanding →
      ((s.monthlyPredecessor (s.listedItems unitId) item.id).isSome = false ↔
        ((s.monthlySeries item).isSome → ∀ j ∈ s.earlierInSeries unitId item, j.outstanding ≤ 0)) := by
    intro item hitem hpos
    rw [← Bool.not_eq_true, monthlyPredecessor_isSome_iff hitem hpos]
    push Not
    rfl
  constructor
  · rintro ⟨e, he, htarget, hselectable⟩
    rw [listSelectableObligations] at he
    rcases List.mem_append.mp he with he | he
    · obtain ⟨hmem, hpos⟩ := List.mem_filter.mp he
      obtain ⟨item, hitem, rfl⟩ := List.mem_map.mp hmem
      obtain rfl : item.id = id := ObligationTarget.chargeItem.inj htarget
      have hpos : 0 < item.outstanding := of_decide_eq_true hpos
      obtain ⟨hreserved, hpred⟩ := (hentry item).mp hselectable
      obtain ⟨hi, hunit, hbilled⟩ := (h.toItemsOk.mem_listedItems_iff hpos).mp hitem
      exact ⟨item, hi, rfl, hunit, hbilled, hpos, hreserved, (hblocked item hitem hpos).mp hpred⟩
    · obtain ⟨a, -, rfl⟩ := List.mem_map.mp (List.mem_filter.mp he).1
      exact absurd htarget (by simp [selectableAdjustment])
  · rintro ⟨item, hi, rfl, hunit, hbilled, hpos, hreserved, hearlier⟩
    have hitem := (h.toItemsOk.mem_listedItems_iff hpos).mpr ⟨hi, hunit, hbilled⟩
    refine ⟨s.selectableItem (s.listedItems unitId) item, ?_, rfl, (hentry item).mpr
      ⟨hreserved, (hblocked item hitem hpos).mpr hearlier⟩⟩
    rw [listSelectableObligations]
    exact List.mem_append_left _
      (List.mem_filter.mpr ⟨List.mem_map_of_mem hitem, decide_eq_true hpos⟩)

/-- When an adjustment is offered. -/
theorem Valid.offers_adjustment_iff (h : s.Valid) (unitId id : ℕ) :
    s.Offers unitId (.adjustment id) ↔
      ∃ a ∈ s.adjustments, a.id = id ∧ a.unitId = unitId ∧ 0 < a.outstanding ∧
        s.isReserved (.adjustment id) = false := by
  constructor
  · rintro ⟨e, he, htarget, hselectable⟩
    rw [listSelectableObligations] at he
    rcases List.mem_append.mp he with he | he
    · obtain ⟨i, -, rfl⟩ := List.mem_map.mp (List.mem_filter.mp he).1
      exact absurd htarget (by simp [selectableItem])
    · obtain ⟨hmem, hpos⟩ := List.mem_filter.mp he
      obtain ⟨a, ha, rfl⟩ := List.mem_map.mp hmem
      obtain rfl : a.id = id := ObligationTarget.adjustment.inj htarget
      obtain ⟨ha, hunit⟩ := List.mem_filter.mp ((List.mem_insertionSort _).mp ha)
      simp only [decide_eq_true_eq] at hunit
      exact ⟨a, ha, rfl, hunit.1, of_decide_eq_true hpos, by simpa [selectableAdjustment] using
        hselectable⟩
  · rintro ⟨a, ha, rfl, hunit, hpos, hreserved⟩
    have hpaid := (h.adjustment_paid a ha).1
    have hamount : 0 < a.amount := by
      rw [Adjustment.outstanding] at hpos
      omega
    refine ⟨s.selectableAdjustment a, ?_, rfl, by simp [selectableAdjustment, hreserved]⟩
    rw [listSelectableObligations]
    refine List.mem_append_right _ (List.mem_filter.mpr ⟨List.mem_map_of_mem ?_,
      decide_eq_true hpos⟩)
    exact (List.mem_insertionSort _).mpr
      (List.mem_filter.mpr ⟨ha, decide_eq_true ⟨hunit, hamount⟩⟩)

theorem targetItems_chargeItem (id : ℕ) :
    s.targetItems [.chargeItem id] = (s.chargeItems.find? id).toList := by
  rw [← Table.filter_key, targetItems]
  simp [ObligationTarget.chargeItemId?]

theorem targetItems_adjustment (id : ℕ) : s.targetItems [.adjustment id] = [] := by
  simp [targetItems, ObligationTarget.chargeItemId?]

theorem targetAdjustments_adjustment (id : ℕ) :
    s.targetAdjustments [.adjustment id] = (s.adjustments.find? id).toList := by
  rw [← Table.filter_key, targetAdjustments]
  simp [ObligationTarget.adjustmentId?]

theorem targetAdjustments_chargeItem (id : ℕ) : s.targetAdjustments [.chargeItem id] = [] := by
  simp [targetAdjustments, ObligationTarget.adjustmentId?]

/-- With a fresh key a report of obligations succeeds when its effect can take place. -/
theorem succeeds_iff {params : CreateExplicitPaymentParams} {now : Time}
    (hfresh : s.paymentByKey params.payerId params.buildingId params.idempotencyKey = none) :
    (∃ p s', (createExplicitPayment params now).run s = .ok (p, s')) ↔
      ∃ fundId s', ExplicitEffect params now s s' fundId := by
  constructor
  · rintro ⟨p, s', hrun⟩
    rcases createExplicitPayment_ok.mp hrun with ⟨hkey, -⟩ | ⟨fundId, heffect, -⟩
    · rw [hfresh] at hkey
      exact absurd hkey (by simp)
    · exact ⟨fundId, s', heffect⟩
  · rintro ⟨fundId, s', heffect⟩
    exact ⟨_, s', createExplicitPayment_ok.mpr (Or.inr ⟨fundId, heffect, rfl⟩)⟩

/-- When an item can be paid alone. -/
theorem Valid.succeeds_chargeItem_iff (h : s.Valid) {id : ℕ} {params : CreateExplicitPaymentParams}
    (now : Time) (htarget : params.targets = [.chargeItem id])
    (hown : s.OwnsObligations params.buildingId params.unitId)
    (hfresh : s.paymentByKey params.payerId params.buildingId params.idempotencyKey = none) :
    (∃ p s', (createExplicitPayment params now).run s = .ok (p, s')) ↔
      ∃ item ∈ s.chargeItems, item.id = id ∧ item.unitId = params.unitId ∧
        s.isBilled item = true ∧ 0 < item.outstanding ∧ s.isReserved (.chargeItem id) = false ∧
        ((s.monthlySeries item).isSome → s.earlierInSeries params.unitId item = []) := by
  rw [succeeds_iff hfresh]
  have hitems := targetItems_chargeItem (s := s) id
  have hadjustments := targetAdjustments_chargeItem (s := s) id
  cases hfind : s.chargeItems.find? id with
  | none =>
    rw [hfind] at hitems
    constructor
    · rintro ⟨fundId, s', heffect⟩
      have hexist := heffect.exist.1
      rw [htarget, hitems] at hexist
      exact absurd hexist (by simp [ObligationTarget.chargeItemId?])
    · rintro ⟨item, hi, hid, -⟩
      exact absurd hid (Table.find?_eq_none_iff.mp hfind item hi)
  | some item =>
    rw [hfind] at hitems
    have hi := Table.mem_of_find? hfind
    obtain rfl := Table.key_of_find? hfind
    have hselected : s.selected params.targets = [(.chargeItem item.id, item.outstanding)] := by
      rw [htarget, selected, hitems, hadjustments]
      rfl
    have hmem : (ObligationTarget.chargeItem item.id, item.outstanding) ∈
        s.selected params.targets := by
      rw [hselected]
      exact List.mem_singleton_self _
    have hids : (s.targetItems params.targets).map ChargeItem.id = [item.id] := by
      rw [htarget, hitems]
      rfl
    have hseries : ∀ seriesId, s.monthlySeries item = some seriesId ↔
        seriesId ∈ ((s.targetItems params.targets).filterMap s.monthlySeries).dedup := by
      intro seriesId
      rw [List.mem_dedup, htarget, hitems]
      simp
    -- the comparison with the sorted read, once the item is known to be listed
    have horder : item.unitId = params.unitId → s.isBilled item = true → 0 < item.outstanding →
        ((∀ seriesId ∈ ((s.targetItems params.targets).filterMap s.monthlySeries).dedup,
            s.selectsOldestFirst params.unitId seriesId
              ((s.targetItems params.targets).map ChargeItem.id)) ↔
          ((s.monthlySeries item).isSome → s.earlierInSeries params.unitId item = [])) := by
      intro hunit hbilled hpos
      have hlisted := (h.toItemsOk.mem_listedItems_iff hpos).mpr ⟨hi, hunit, hbilled⟩
      rw [hids]
      constructor
      · intro hall hsome
        obtain ⟨seriesId, hsome⟩ := Option.isSome_iff_exists.mp hsome
        exact (h.selectsOldestFirst_iff hlisted hsome).mp (hall seriesId ((hseries _).mp hsome))
      · intro hnil seriesId hseriesId
        have hsome := (hseries seriesId).mpr hseriesId
        exact (h.selectsOldestFirst_iff hlisted hsome).mpr (hnil (by rw [hsome]; rfl))
    constructor
    · rintro ⟨fundId, s', heffect⟩
      obtain ⟨i, hfind', hunit, hbilled⟩ := heffect.due.isActive _ hmem
      obtain rfl := Option.some.inj (hfind'.symm.trans hfind)
      have hpos := heffect.due.pos _ hmem
      exact ⟨i, hi, rfl, hunit, hbilled, hpos, heffect.unreserved _ hmem,
        (horder hunit hbilled hpos).mp heffect.oldestFirst⟩
    · rintro ⟨i, hi', hid, hunit, hbilled, hpos, hreserved, hnil⟩
      obtain rfl := Table.eq_of_key_eq hi' hi hid
      obtain ⟨batch, hbatch, -⟩ := h.item_batch i hi
      obtain ⟨hbuilding, hactive⟩ := hown.1 i hi hunit hbilled batch hbatch
      have hsingle : ∀ {P : ObligationTarget × ℤ → Prop}, P (.chargeItem i.id, i.outstanding) →
          ∀ e ∈ s.selected params.targets, P e := by
        intro P hP e he
        rw [hselected] at he
        rw [List.mem_singleton.mp he]
        exact hP
      refine ⟨batch.fundId, _, hfresh, ?_, ⟨?_, hsingle hpos, hsingle ⟨i, hfind, hunit, hbilled⟩,
        hsingle (outstandingOf_chargeItem hi).ge⟩, hsingle ?_, hsingle hreserved,
        (horder hunit hbilled hpos).mpr hnil, hsingle ?_, hactive, ?_, rfl⟩
      · rw [htarget, hitems, hadjustments]
        exact ⟨rfl, rfl⟩
      · rw [hselected]
        exact List.nodup_singleton _
      · rw [obligationBuilding, hfind, Option.bind_some, hbatch, Option.map_some, hbuilding]
      · rw [obligationFund, hfind, Option.bind_some, hbatch, Option.map_some]
      · rw [hselected]
        exact List.cons_ne_nil _ _

/-- When an adjustment can be paid alone. -/
theorem Valid.succeeds_adjustment_iff (h : s.Valid) {id : ℕ}
    {params : CreateExplicitPaymentParams} (now : Time) (htarget : params.targets = [.adjustment id])
    (hown : s.OwnsObligations params.buildingId params.unitId)
    (hfresh : s.paymentByKey params.payerId params.buildingId params.idempotencyKey = none) :
    (∃ p s', (createExplicitPayment params now).run s = .ok (p, s')) ↔
      ∃ a ∈ s.adjustments, a.id = id ∧ a.unitId = params.unitId ∧ 0 < a.outstanding ∧
        s.isReserved (.adjustment id) = false := by
  rw [succeeds_iff hfresh]
  have hitems := targetItems_adjustment (s := s) id
  have hadjustments := targetAdjustments_adjustment (s := s) id
  -- the one target selects the adjustment with this id, if there is one
  cases hfind : s.adjustments.find? id with
  | none =>
    rw [hfind] at hadjustments
    constructor
    · rintro ⟨fundId, s', heffect⟩
      have hexist := heffect.exist.2
      rw [htarget, hadjustments] at hexist
      exact absurd hexist (by simp [ObligationTarget.adjustmentId?])
    · rintro ⟨a, ha, hid, -⟩
      exact absurd hid (Table.find?_eq_none_iff.mp hfind a ha)
  | some a =>
    rw [hfind] at hadjustments
    have ha := Table.mem_of_find? hfind
    obtain rfl := Table.key_of_find? hfind
    have hselected : s.selected params.targets = [(.adjustment a.id, a.outstanding)] := by
      rw [htarget, selected, hitems, hadjustments]
      rfl
    have hmem : (ObligationTarget.adjustment a.id, a.outstanding) ∈
        s.selected params.targets := by
      rw [hselected]
      exact List.mem_singleton_self _
    constructor
    · rintro ⟨fundId, s', heffect⟩
      obtain ⟨r, hfind', hunit⟩ := heffect.due.isActive _ hmem
      obtain rfl := Option.some.inj (hfind'.symm.trans hfind)
      exact ⟨r, ha, rfl, hunit, heffect.due.pos _ hmem, heffect.unreserved _ hmem⟩
    · rintro ⟨r, hr, hid, hunit, hpos, hreserved⟩
      obtain rfl := Table.eq_of_key_eq hr ha hid
      have hamount : 0 < r.amount := by
        have hpaid := (h.adjustment_paid r ha).1
        rw [Adjustment.outstanding] at hpos
        omega
      obtain ⟨hbuilding, hactive⟩ := hown.2 r ha hunit hamount
      -- what is asked of every selected obligation is asked of the one
      have hsingle : ∀ {P : ObligationTarget × ℤ → Prop}, P (.adjustment r.id, r.outstanding) →
          ∀ e ∈ s.selected params.targets, P e := by
        intro P hP e he
        rw [hselected] at he
        rw [List.mem_singleton.mp he]
        exact hP
      refine ⟨r.fundId, _, hfresh, ?_, ⟨?_, hsingle hpos, hsingle ⟨r, hfind, hunit⟩,
        hsingle (outstandingOf_adjustment ha).ge⟩, hsingle ?_, hsingle hreserved, ?_, hsingle ?_,
        hactive, ?_, rfl⟩
      · rw [htarget, hitems, hadjustments]
        exact ⟨rfl, rfl⟩
      · rw [hselected]
        exact List.nodup_singleton _
      · rw [obligationBuilding, hfind, Option.map_some, hbuilding]
      · rw [htarget, hitems]
        simp
      · rw [obligationFund, hfind, Option.map_some]
      · rw [hselected]
        exact List.cons_ne_nil _ _

end Store

/-- For a unit whose obligations belong to active funds of its building, an obligation is offered
as selectable exactly when it can be paid alone, except for an unreserved monthly item with
something outstanding that is listed behind items of its series with nothing outstanding. -/
theorem selectable_iff_succeeds {S : System} (h : S.Reachable) (target : ObligationTarget)
    (params : CreateExplicitPaymentParams) (now : Time) (htarget : params.targets = [target])
    (hown : S.store.OwnsObligations params.buildingId params.unitId)
    (hfresh :
      S.store.paymentByKey params.payerId params.buildingId params.idempotencyKey = none) :
    ((∃ e ∈ S.store.listSelectableObligations params.unitId,
        e.obligationId = target ∧ e.selectable = true) ↔
      ∃ p s', (createExplicitPayment params now).run S.store = .ok (p, s')) ↔
    ¬ S.store.BehindSettled params.unitId target := by
  have hvalid := System.valid_of_reachable h
  cases target with
  | adjustment id =>
    have hoffers := hvalid.offers_adjustment_iff params.unitId id
    have hsucceeds := hvalid.succeeds_adjustment_iff now htarget hown hfresh
    exact iff_of_true (hoffers.trans hsucceeds.symm) not_false
  | chargeItem id =>
    have hoffers := hvalid.offers_chargeItem_iff params.unitId id
    have hsucceeds := hvalid.succeeds_chargeItem_iff now htarget hown hfresh
    change (S.store.Offers params.unitId (.chargeItem id) ↔ _) ↔ _
    rw [hsucceeds, hoffers]
    constructor
    · rintro hiff ⟨item, hlisted, rfl, hseries, hpos, hreserved, hne, hall⟩
      obtain ⟨hi, hunit, hbilled⟩ := (hvalid.toItemsOk.mem_listedItems_iff hpos).mp hlisted
      obtain ⟨item', hi', hid, -, -, -, -, hnil⟩ :=
        hiff.mp ⟨item, hi, rfl, hunit, hbilled, hpos, hreserved, fun _ => hall⟩
      obtain rfl := Table.eq_of_key_eq hi' hi hid
      exact hne (hnil hseries)
    · intro hnot
      constructor
      · rintro ⟨item, hi, rfl, hunit, hbilled, hpos, hreserved, hall⟩
        refine ⟨item, hi, rfl, hunit, hbilled, hpos, hreserved, fun hseries => ?_⟩
        have hlisted := (hvalid.toItemsOk.mem_listedItems_iff hpos).mpr ⟨hi, hunit, hbilled⟩
        by_contra hne
        exact hnot ⟨item, hlisted, rfl, hseries, hpos, hreserved, hne, hall hseries⟩
      · rintro ⟨item, hi, rfl, hunit, hbilled, hpos, hreserved, hnil⟩
        refine ⟨item, hi, rfl, hunit, hbilled, hpos, hreserved, fun hseries j hj => ?_⟩
        rw [hnil hseries] at hj
        exact absurd hj List.not_mem_nil

namespace System

/-- A monthly charge of `totalAmount` for the whole building, for one period of series `0`. -/
def monthlyCharge (totalAmount : ℤ) (periodStart : Time)
    (hpos : ∀ t ∈ some totalAmount, 0 < t := by decide) : CreateChargeBatchDto :=
  { title := "Monthly", calculationMethod := .fixed, fundId := some 0,
    totalAmount := some totalAmount, chargeKind := some .monthly, seriesId := some 0,
    periodStart := some periodStart, totalAmount_pos := hpos }

/-- Of two units the second gets nothing of the first month's total of 1, and 100 of the second
month's total of 200. -/
def twoMonths : List Event :=
  foundation ++
    [.addUnit 0 "2" .residential none,
      .request (.createChargeSeries 0 "Service") 1, .commit 0 1,
      .request (.createChargeBatch 0 (monthlyCharge 1 0) 7) 2, .commit 0 2,
      .request (.issueChargeBatch 0 0) 3, .commit 0 3,
      .request (.createChargeBatch 0 (monthlyCharge 200 86400000) 7) 4, .commit 0 4,
      .request (.issueChargeBatch 0 1) 5, .commit 0 5]

end System

/-- The two decisions on the first unit's item of the first month. -/
theorem selectable_iff_succeeds_monthly :
    ((∃ e ∈ (runFrom System.step System.init System.twoMonths).store.listSelectableObligations 0,
        e.obligationId = .chargeItem 0 ∧ e.selectable = true) ↔
      ∃ p s', (createExplicitPayment
        { buildingId := 0, unitId := 0, payerId := 5, method := .cash, idempotencyKey := "first",
          targets := [.chargeItem 0] } 6).run
        (runFrom System.step System.init System.twoMonths).store = .ok (p, s')) ↔
    ¬ (runFrom System.step System.init System.twoMonths).store.BehindSettled 0 (.chargeItem 0) :=
  selectable_iff_succeeds ⟨System.twoMonths, rfl⟩ (.chargeItem 0)
    { buildingId := 0, unitId := 0, payerId := 5, method := .cash, idempotencyKey := "first",
      targets := [.chargeItem 0] } 6 rfl (by decide +kernel) (by decide +kernel)

/-- The second unit is offered its item of the second month, and cannot pay it. -/
theorem offered_but_not_payable :
    let s := (runFrom System.step System.init System.twoMonths).store
    s.OwnsObligations 0 1 ∧ s.paymentByKey 5 0 "first" = none ∧
    (∃ e ∈ s.listSelectableObligations 1, e.obligationId = .chargeItem 3 ∧ e.selectable = true) ∧
    ((createExplicitPayment
      { buildingId := 0, unitId := 1, payerId := 5, method := .cash, idempotencyKey := "first",
        targets := [.chargeItem 3] } 6).run s).toOption.isNone = true := by
  decide +kernel

end VielHome.Finance
