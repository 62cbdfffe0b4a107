import VielHome.Common.Pagination
import VielHome.Finance.Invariant.Reachable
import VielHome.Relational.Paging

/-!
# The three views of a late fee

The list of a unit's charge items, the debt of the unit and `applyLateFee` all ask the policy which
fee may be charged on an item. The first two read every item of the unit, and the third one only an
item of a batch of the building the request names; and a fee is only booked when it fits its column.
So the three agree exactly where every fee of the unit is for a batch of the unit's building and fits
(`lateFeesAgree_iff`).
-/

namespace VielHome.Finance

open Relational

/-! ### Reads -/

namespace FinanceRepository

/-- The charge items of a unit on a page, the newest first, and the number of all of them. -/
def listChargeItemsByUnit (s : Store) (unitId : ℕ) (pagination : ℕ × ℕ) : List ChargeItem × ℕ :=
  let rows := s.chargeItems.rows.filter fun i => i.unitId = unitId
  (page pagination.1 pagination.2 (rows.insertionSort fun i j => j.createdAt ≤ i.createdAt),
    rows.length)

/-- The items of a unit that are not `PAID`, in issued or closed batches. -/
def listLateFeeEligibleCandidates (s : Store) (unitId : ℕ) : List ChargeItem :=
  s.outstandingItems unitId

/-- The items among the given ones that already have a late fee. -/
def findAppliedLateFeeChargeItemIds (s : Store) (chargeItemIds : List ℕ) : List ℕ :=
  if chargeItemIds = [] then []
  else
    (s.adjustments.rows.filter fun a =>
      a.sourceType = some .lateFee ∧ a.sourceId.any (· ∈ chargeItemIds)).filterMap (·.sourceId)

end FinanceRepository

/-- A charge item with the late fee that may be charged on it. -/
structure UnitChargeItem extends ChargeItem where
  lateFee : Option ℤ
  deriving DecidableEq

/-- An item and its late fee. -/
structure EligibleLateFee where
  chargeItemId : ℕ
  amount : ℤ
  deriving DecidableEq

/-- What `getUnitDebt` of the service returns. -/
structure UnitDebt extends DebtSnapshot where
  eligibleLateFeeTotal : ℤ
  eligibleLateFees : List EligibleLateFee

namespace FinanceService

open FinanceRepository

/-- What the policy says of an item, given the items that already have a late fee. -/
def lateFeeOf (s : Store) (appliedIds : List ℕ) (now : Time) (item : ChargeItem) : Option ℤ :=
  (s.batchOf item).bind fun batch =>
    ChargePolicy.computeLateFeeEligibility batch now item.amount item.paidAmount
      (item.id ∈ appliedIds)

/-- `listUnitChargeItems`. -/
def listUnitChargeItems (buildingId unitId : ℕ) (pagination : PaginationParams) (now : Time) :
    Tx Store Failure (List UnitChargeItem × PaginationMeta) := do
  let _ ← getOwnUnit buildingId unitId
  let (items, total) ← Tx.query fun s => listChargeItemsByUnit s unitId (toSkipTake pagination)
  let appliedIds ← Tx.query fun s => findAppliedLateFeeChargeItemIds s (items.map ChargeItem.id)
  let withLateFee ← Tx.query fun s => items.map fun item =>
    { item with lateFee := lateFeeOf s appliedIds now item : UnitChargeItem }
  pure (withLateFee, buildPaginationMeta pagination total)

/-- `getUnitDebt`. -/
def getUnitDebt (buildingId unitId : ℕ) (now : Time) : Tx Store Failure UnitDebt := do
  let _ ← getOwnUnit buildingId unitId
  let debt ← Tx.query fun s => s.computeDebtSnapshot unitId
  let candidates ← Tx.query fun s => listLateFeeEligibleCandidates s unitId
  let appliedIds ← Tx.query fun s =>
    findAppliedLateFeeChargeItemIds s (candidates.map ChargeItem.id)
  let eligibleLateFees ← Tx.query fun s => candidates.filterMap fun item =>
    (lateFeeOf s appliedIds now item).map fun amount =>
      { chargeItemId := item.id, amount : EligibleLateFee }
  pure { debt with
    eligibleLateFeeTotal := (eligibleLateFees.map EligibleLateFee.amount).sum
    eligibleLateFees }

end FinanceService

namespace Store

/-! ### What the views say of an item -/

/-- On some page the list of the unit shows the fee for the item. -/
def ShowsLateFee (s : Store) (buildingId unitId : ℕ) (now : Time) (item : ChargeItem) (fee : ℤ) :
    Prop :=
  ∃ rawPage rawLimit items pages,
    (FinanceService.listUnitChargeItems buildingId unitId (parsePagination rawPage rawLimit) now).run
      s = .ok ((items, pages), s) ∧ { item with lateFee := some fee : UnitChargeItem } ∈ items

/-- The debt of the unit lists the fee for the item. -/
def ListsLateFee (s : Store) (buildingId unitId : ℕ) (now : Time) (item : ChargeItem) (fee : ℤ) :
    Prop :=
  ∃ debt, (FinanceService.getUnitDebt buildingId unitId now).run s = .ok (debt, s) ∧
    { chargeItemId := item.id, amount := fee : EligibleLateFee } ∈ debt.eligibleLateFees

/-- `applyLateFee`, run alone, books the fee on the item. The client refuses an amount that its
column does not hold. -/
def AppliesLateFee (s : Store) (buildingId unitId actorPersonId : ℕ) (now : Time)
    (item : ChargeItem) (fee : ℤ) : Prop :=
  ∃ params s₁ adjustment s',
    (FinanceService.applyLateFee buildingId unitId item.id actorPersonId now).run s =
      (.ok params, s₁) ∧
    (createAdjustment params now).run s₁ = .ok (adjustment, s') ∧
    adjustment.amount = fee ∧ FitsInteger fee

/-- For every item of a unit the three views say the same fee, and the total is the sum of the
fees that are listed, one for each item. -/
def LateFeesAgree (s : Store) (unit : BuildingUnit) (actorPersonId : ℕ) (now : Time) : Prop :=
  (∀ item ∈ s.chargeItems, item.unitId = unit.id → ∀ fee,
    (s.ShowsLateFee unit.buildingId unit.id now item fee ↔
      s.ListsLateFee unit.buildingId unit.id now item fee) ∧
    (s.ListsLateFee unit.buildingId unit.id now item fee ↔
      s.AppliesLateFee unit.buildingId unit.id actorPersonId now item fee)) ∧
  ∃ debt, (FinanceService.getUnitDebt unit.buildingId unit.id now).run s = .ok (debt, s) ∧
    (debt.eligibleLateFees.map EligibleLateFee.chargeItemId).Nodup ∧
    debt.eligibleLateFeeTotal = (debt.eligibleLateFees.map EligibleLateFee.amount).sum

/-- What the policy says of an item in a state. -/
def lateFee (s : Store) (now : Time) (item : ChargeItem) : Option ℤ :=
  (s.batchOf item).bind fun batch =>
    ChargePolicy.computeLateFeeEligibility batch now item.amount item.paidAmount
      (FinanceService.lateFeeApplied s item.id)

variable {s : Store} {now : Time} {item : ChargeItem} {fee : ℤ}

/-! ### The two views that read all items -/

theorem mem_findAppliedLateFeeChargeItemIds {ids : List ℕ} {id : ℕ} :
    id ∈ FinanceRepository.findAppliedLateFeeChargeItemIds s ids ↔
      id ∈ ids ∧ FinanceService.lateFeeApplied s id := by
  rw [FinanceRepository.findAppliedLateFeeChargeItemIds, FinanceService.lateFeeApplied]
  split
  · rename_i hnone
    simp [hnone]
  · simp only [List.mem_filterMap, List.mem_filter, decide_eq_true_eq, List.any_eq_true]
    constructor
    · rintro ⟨a, ⟨ha, htype, hany⟩, hid⟩
      rw [hid, Option.any_some, decide_eq_true_eq] at hany
      exact ⟨hany, a, ha, htype, hid⟩
    · rintro ⟨hid, a, ha, htype, hsource⟩
      exact ⟨a, ⟨ha, htype, by simpa [hsource] using hid⟩, hsource⟩

/-- Reading the late fees of many items at once says of each what is read of it alone. -/
theorem lateFeeOf_findApplied {items : List ChargeItem} (hitem : item ∈ items) :
    FinanceService.lateFeeOf s
      (FinanceRepository.findAppliedLateFeeChargeItemIds s (items.map ChargeItem.id)) now item =
      s.lateFee now item := by
  have hid : item.id ∈ items.map ChargeItem.id := List.mem_map_of_mem hitem
  have happlied : decide (item.id ∈ FinanceRepository.findAppliedLateFeeChargeItemIds s
      (items.map ChargeItem.id)) = FinanceService.lateFeeApplied s item.id := by
    rw [Bool.eq_iff_iff, decide_eq_true_eq, mem_findAppliedLateFeeChargeItemIds]
    exact and_iff_right hid
  rw [FinanceService.lateFeeOf, lateFee, happlied]

/-- A fee is for an item of an issued batch of which something is left to pay, and it is the first
one. -/
theorem lateFee_eq_some (h : s.lateFee now item = some fee) :
    ∃ batch, s.batchOf item = some batch ∧ batch.status = .issued ∧
      0 < item.amount - item.paidAmount ∧ FinanceService.lateFeeApplied s item.id = false := by
  obtain ⟨batch, hbatch, h⟩ := Option.bind_eq_some_iff.mp h
  refine ⟨batch, hbatch, ?_⟩
  rw [ChargePolicy.computeLateFeeEligibility] at h
  split at h
  · cases h
  · rename_i hissued
    refine ⟨not_not.mp hissued, ?_⟩
    split at h
    · split at h
      · cases h
      · split at h
        · cases h
        · rename_i happlied
          split at h
          · cases h
          · rename_i hopen
            exact ⟨by omega, by simpa using happlied⟩
    · cases h

/-- The list of a unit, page by page. -/
theorem run_listUnitChargeItems {unit : BuildingUnit} (hunit : unit ∈ s.units)
    (pagination : PaginationParams) :
    (FinanceService.listUnitChargeItems unit.buildingId unit.id pagination now).run s =
      .ok (((FinanceRepository.listChargeItemsByUnit s unit.id (toSkipTake pagination)).1.map
          fun item => { item with lateFee := s.lateFee now item : UnitChargeItem },
        buildPaginationMeta pagination
          (FinanceRepository.listChargeItemsByUnit s unit.id (toSkipTake pagination)).2), s) := by
  have hown : (FinanceService.getOwnUnit unit.buildingId unit.id).run s = .ok (unit, s) :=
    FinanceService.getOwnUnit_ok.mpr ⟨⟨Table.find?_of_mem hunit, rfl⟩, rfl⟩
  rw [FinanceService.listUnitChargeItems, Tx.run_bind_of_ok hown]
  refine congrArg (fun items => Except.ok ((items, _), s)) (List.map_congr_left fun i hi => ?_)
  exact congrArg (UnitChargeItem.mk i) (lateFeeOf_findApplied hi)

/-- The debt of a unit. -/
theorem run_getUnitDebt {unit : BuildingUnit} (hunit : unit ∈ s.units) :
    (FinanceService.getUnitDebt unit.buildingId unit.id now).run s =
      .ok ({ s.computeDebtSnapshot unit.id with
        eligibleLateFeeTotal := (((s.outstandingItems unit.id).filterMap fun item =>
          (s.lateFee now item).map fun amount =>
            { chargeItemId := item.id, amount : EligibleLateFee }).map EligibleLateFee.amount).sum
        eligibleLateFees := (s.outstandingItems unit.id).filterMap fun item =>
          (s.lateFee now item).map fun amount =>
            { chargeItemId := item.id, amount : EligibleLateFee } }, s) := by
  have hown : (FinanceService.getOwnUnit unit.buildingId unit.id).run s = .ok (unit, s) :=
    FinanceService.getOwnUnit_ok.mpr ⟨⟨Table.find?_of_mem hunit, rfl⟩, rfl⟩
  have hfees : ((s.outstandingItems unit.id).filterMap fun item =>
      (FinanceService.lateFeeOf s (FinanceRepository.findAppliedLateFeeChargeItemIds s
        ((s.outstandingItems unit.id).map ChargeItem.id)) now item).map fun amount =>
          { chargeItemId := item.id, amount : EligibleLateFee }) =
      (s.outstandingItems unit.id).filterMap fun item =>
        (s.lateFee now item).map fun amount =>
          { chargeItemId := item.id, amount : EligibleLateFee } :=
    List.filterMap_congr fun i hi => by rw [lateFeeOf_findApplied hi]
  rw [FinanceService.getUnitDebt, Tx.run_bind_of_ok hown, ← hfees]
  rfl

/-- Every item of a unit is on some page of its list. -/
theorem exists_page (hitem : item ∈ s.chargeItems) :
    ∃ rawPage, item ∈ (FinanceRepository.listChargeItemsByUnit s item.unitId
      (toSkipTake (parsePagination rawPage none))).1 := by
  set rows := (s.chargeItems.rows.filter fun i => i.unitId = item.unitId).insertionSort
    fun i j => j.createdAt ≤ i.createdAt with hrows
  have hmem : item ∈ rows := by
    rw [hrows, List.mem_insertionSort, List.mem_filter]
    exact ⟨hitem, by simp⟩
  -- the first pages hold at least one item each, so as many pages as items hold all of them
  have hall : rows.take (rows.length * DEFAULT_PAGE_LIMIT) = rows :=
    List.take_of_length_le (Nat.le_mul_of_pos_right _ (Nat.succ_pos 19))
  rw [← hall, ← flatMap_page, List.mem_flatMap] at hmem
  obtain ⟨n, -, hn⟩ := hmem
  refine ⟨some (n + 1 : ℕ), ?_⟩
  have hpage : toSkipTake (parsePagination (some (n + 1 : ℕ)) none) =
      (n * DEFAULT_PAGE_LIMIT, DEFAULT_PAGE_LIMIT) := by
    rw [toSkipTake, parsePagination, positiveInteger_natCast (Nat.le_add_left 1 n)]
    rfl
  rw [hpage]
  exact hn

theorem showsLateFee_iff {unit : BuildingUnit} (hunit : unit ∈ s.units)
    (hitem : item ∈ s.chargeItems) (hid : item.unitId = unit.id) :
    s.ShowsLateFee unit.buildingId unit.id now item fee ↔ s.lateFee now item = some fee := by
  constructor
  · rintro ⟨rawPage, rawLimit, items, pages, hrun, hmem⟩
    rw [run_listUnitChargeItems hunit, Except.ok.injEq, Prod.mk.injEq, Prod.mk.injEq] at hrun
    obtain ⟨⟨rfl, -⟩, -⟩ := hrun
    obtain ⟨i, -, hi⟩ := List.mem_map.mp hmem
    obtain ⟨rfl, hfee⟩ := UnitChargeItem.mk.inj hi
    exact hfee
  · intro hfee
    obtain ⟨rawPage, hpage⟩ := exists_page hitem
    rw [hid] at hpage
    refine ⟨rawPage, none, _, _, run_listUnitChargeItems hunit _, ?_⟩
    rw [← hfee]
    exact List.mem_map_of_mem (f := fun i => (⟨i, s.lateFee now i⟩ : UnitChargeItem)) hpage

theorem listsLateFee_iff (h : s.Valid) {unit : BuildingUnit} (hunit : unit ∈ s.units)
    (hitem : item ∈ s.chargeItems) (hid : item.unitId = unit.id) :
    s.ListsLateFee unit.buildingId unit.id now item fee ↔ s.lateFee now item = some fee := by
  constructor
  · rintro ⟨debt, hrun, hmem⟩
    rw [run_getUnitDebt hunit, Except.ok.injEq, Prod.mk.injEq] at hrun
    obtain ⟨rfl, -⟩ := hrun
    obtain ⟨i, hi, hfee⟩ := List.mem_filterMap.mp hmem
    obtain ⟨amount, hamount, heq⟩ := Option.map_eq_some_iff.mp hfee
    obtain ⟨hkey, rfl⟩ := EligibleLateFee.mk.inj heq
    obtain rfl := s.chargeItems.eq_of_key_eq (mem_outstandingItems.mp hi).1 hitem hkey
    exact hamount
  · intro hfee
    obtain ⟨batch, hbatch, hissued, hopen, -⟩ := lateFee_eq_some hfee
    -- what is not fully paid does not have the status `PAID`
    have hstatus : item.status ≠ .paid := by
      rw [h.item_status item hitem, computeItemStatus]
      split
      · exact nofun
      · rw [if_neg (by omega)]
        exact nofun
    have hbilled : s.isBilled item = true := by
      simp [isBilled, hbatch, hissued, ChargeBatchStatus.isBilled]
    refine ⟨_, run_getUnitDebt hunit, List.mem_filterMap.mpr ⟨item,
      mem_outstandingItems.mpr ⟨hitem, hid, hstatus, hbilled⟩, ?_⟩⟩
    rw [hfee, Option.map_some]

/-! ### The view that books the fee -/

/-- What `applyLateFee` asks its transaction to book. -/
theorem applyLateFee_ok {s' : Store} {buildingId unitId chargeItemId actorPersonId : ℕ}
    {params : CreateAdjustmentParams}
    (h : (FinanceService.applyLateFee buildingId unitId chargeItemId actorPersonId now).run s =
      (.ok params, s')) :
    ∃ item batch, s.chargeItems.find? chargeItemId = some item ∧ item.unitId = unitId ∧
      s.batchOf item = some batch ∧ batch.buildingId = buildingId ∧
      s.lateFee now item = some params.amount ∧ params.unitId = unitId ∧
      params.sourceType = some .lateFee ∧ params.sourceId = some chargeItemId ∧ s' = s := by
  simp only [FinanceService.applyLateFee, Script.run_bind_ok, Script.run_atomically_ok,
    Tx.run_query, Except.ok.injEq, Prod.mk.injEq, Tx.run_expect_ok, Tx.run_require_ok,
    Script.run_pure_ok, Option.filter_eq_some_iff, decide_eq_true_eq] at h
  obtain ⟨x, _, ⟨rfl, rfl⟩, item, _, ⟨⟨hitem, hunit⟩, rfl⟩, y, _, ⟨rfl, rfl⟩, batch, _,
    ⟨⟨hbatch, hbuilding⟩, rfl⟩, _, _, ⟨rfl, rfl⟩, _, _, ⟨-, rfl⟩, amount, _, ⟨hamount, rfl⟩, rfl,
    rfl⟩ := h
  refine ⟨item, batch, hitem, hunit, hbatch, hbuilding, ?_, rfl, rfl, rfl, rfl⟩
  rw [lateFee, hbatch, Table.key_of_find? hitem]
  exact hamount

theorem appliesLateFee_iff (h : s.Valid) (hitem : item ∈ s.chargeItems)
    {buildingId actorPersonId : ℕ} :
    s.AppliesLateFee buildingId item.unitId actorPersonId now item fee ↔
      s.lateFee now item = some fee ∧
        (s.batchOf item).any (fun batch => batch.buildingId = buildingId) ∧ FitsInteger fee := by
  have hfind : s.chargeItems.find? item.id = some item := Table.find?_of_mem hitem
  constructor
  · rintro ⟨params, s₁, adjustment, s', hparams, hrun, rfl, hfits⟩
    obtain ⟨i, batch, hi, -, hbatch, hbuilding, hfee, -, -, -, rfl⟩ := applyLateFee_ok hparams
    obtain rfl : item = i := Option.some.inj (hfind.symm.trans hi)
    obtain ⟨-, rfl, -⟩ := (createAdjustment_ok_iff h.item_status).mp hrun
    exact ⟨hfee, by simp [hbatch, hbuilding], hfits⟩
  · rintro ⟨hfee, hbuilding, hfits⟩
    obtain ⟨batch, hbatch, hissued, -, hfirst⟩ := lateFee_eq_some hfee
    rw [hbatch, Option.any_some, decide_eq_true_eq] at hbuilding
    have hpolicy : ChargePolicy.computeLateFeeEligibility batch now item.amount item.paidAmount
        (FinanceService.lateFeeApplied s item.id) = some fee := by
      rw [lateFee, hbatch] at hfee
      exact hfee
    -- what the service asks for, written out
    set params : CreateAdjustmentParams :=
      { unitId := item.unitId, buildingId, fundId := batch.fundId, amount := fee,
        reason := "Late fee — " ++ batch.title, createdById := actorPersonId,
        sourceType := some .lateFee, sourceId := some item.id } with hparams
    have hprepare : (FinanceService.applyLateFee buildingId item.unitId item.id actorPersonId
        now).run s = (.ok params, s) := by
      simp only [FinanceService.applyLateFee, Script.run_bind_ok, Script.run_atomically_ok,
        Tx.run_query, Except.ok.injEq, Prod.mk.injEq, Tx.run_expect_ok, Tx.run_require_ok,
        Script.run_pure_ok, Option.filter_eq_some_iff, decide_eq_true_eq]
      exact ⟨_, _, ⟨rfl, rfl⟩, item, _, ⟨⟨hfind, rfl⟩, rfl⟩, _, _, ⟨rfl, rfl⟩, batch, _,
        ⟨⟨hbatch, hbuilding⟩, rfl⟩, _, _, ⟨rfl, rfl⟩, ⟨⟩, _, ⟨by simp [hfirst], rfl⟩, fee, _,
        ⟨hpolicy, rfl⟩, rfl, rfl⟩
    -- no late fee of this item has been applied yet
    have hsource : ¬ s.hasAdjustmentSource params.sourceType params.sourceId := by
      intro htaken
      have happlied : FinanceService.lateFeeApplied s item.id = true := by
        simpa [hasAdjustmentSource, hparams, FinanceService.lateFeeApplied] using htaken
      rw [hfirst] at happlied
      cases happlied
    have hlate : s.isLateFeeSource item.unitId item.id = true := by
      simp [isLateFeeSource, hfind, isBilled, hbatch, hissued, ChargeBatchStatus.isBilled]
    have hrun : (createAdjustment params now).run s =
        .ok (params.row now s.adjustments.next, s.adjusted params now) :=
      (createAdjustment_ok_iff h.item_status).mpr
        ⟨⟨hsource, fun id _ hid => by obtain rfl := Option.some.inj hid; exact hlate⟩, rfl, rfl⟩
    exact ⟨params, s, _, _, hprepare, hrun, rfl, hfits⟩

/-- No item is listed twice, and the total is the sum of what is listed. -/
theorem total_getUnitDebt {unit : BuildingUnit} (hunit : unit ∈ s.units) :
    ∃ debt, (FinanceService.getUnitDebt unit.buildingId unit.id now).run s = .ok (debt, s) ∧
      (debt.eligibleLateFees.map EligibleLateFee.chargeItemId).Nodup ∧
      debt.eligibleLateFeeTotal = (debt.eligibleLateFees.map EligibleLateFee.amount).sum := by
  refine ⟨_, run_getUnitDebt hunit, ?_, rfl⟩
  have hids : ((s.outstandingItems unit.id).map ChargeItem.id).Nodup :=
    s.chargeItems.nodup.sublist (List.filter_sublist.map _)
  -- the ids of the listed fees are the ids of the items that have one
  refine hids.sublist ?_
  induction s.outstandingItems unit.id with
  | nil => exact List.Sublist.refl _
  | cons i items ih =>
    rw [List.filterMap_cons]
    cases s.lateFee now i with
    | none => exact ih.cons _
    | some fee => exact ih.cons_cons _

end Store

/-- In every state that can be reached, the three views agree on the late fees of a unit exactly
when every fee that the policy allows on an item of the unit is for a batch of the unit's building
and fits its column. -/
theorem lateFeesAgree_iff {S : System} (hS : S.Reachable) {unit : BuildingUnit}
    (hunit : unit ∈ S.store.units) (actorPersonId : ℕ) (now : Time) :
    S.store.LateFeesAgree unit actorPersonId now ↔
      ∀ item ∈ S.store.chargeItems, item.unitId = unit.id → ∀ fee,
        S.store.lateFee now item = some fee →
        (S.store.batchOf item).any (fun batch => batch.buildingId = unit.buildingId) ∧
          FitsInteger fee := by
  have hvalid := System.valid_of_reachable hS
  have hitems : ∀ item ∈ S.store.chargeItems, item.unitId = unit.id → ∀ fee,
      ((S.store.ShowsLateFee unit.buildingId unit.id now item fee ↔
          S.store.ListsLateFee unit.buildingId unit.id now item fee) ∧
        (S.store.ListsLateFee unit.buildingId unit.id now item fee ↔
          S.store.AppliesLateFee unit.buildingId unit.id actorPersonId now item fee)) ↔
      (S.store.lateFee now item = some fee →
        (S.store.batchOf item).any (fun batch => batch.buildingId = unit.buildingId) ∧
          FitsInteger fee) := by
    intro item hitem hid fee
    have happlies : S.store.AppliesLateFee unit.buildingId item.unitId actorPersonId now item fee ↔
        _ := Store.appliesLateFee_iff hvalid hitem
    rw [hid] at happlies
    rw [Store.showsLateFee_iff hunit hitem hid, Store.listsLateFee_iff hvalid hunit hitem hid,
      happlies]
    tauto
  constructor
  · intro hagree item hitem hid fee
    exact (hitems item hitem hid fee).mp (hagree.1 item hitem hid fee)
  · intro hfees
    exact ⟨fun item hitem hid fee => (hitems item hitem hid fee).mpr (hfees item hitem hid fee),
      Store.total_getUnitDebt hunit⟩

namespace System

/-- A charge that is due at once and has a flat late fee. -/
def dueCharge (unitId : ℕ) : CreateChargeBatchDto :=
  { title := "Repair", calculationMethod := .mixed, fundId := some 0,
    items := some [(unitId, 100)], dueDate := some 0, lateFeeType := some .fixed,
    lateFeeValue := some 5, items_pos := by simp }

/-- The unit of building `0` is charged. -/
def overdue : List Event :=
  foundation ++
    [.request (.createChargeBatch 0 (dueCharge 0) 7) 1, .commit 0 1,
      .request (.issueChargeBatch 0 0) 2, .commit 0 2]

/-- Building `0` charges the unit of building `1`. -/
def overdueElsewhere : List Event :=
  foundation ++
    [.addBuilding, .addUnit 1 "1" .residential none,
      .request (.createChargeBatch 0 (dueCharge 1) 7) 1, .commit 0 1,
      .request (.issueChargeBatch 0 0) 2, .commit 0 2]

end System

/-- The three views agree on the fee of 5 for the charge in the unit's own building. -/
theorem lateFeesAgree_iff_overdue :
    (runFrom System.step System.init System.overdue).store.LateFeesAgree
      { id := 0, buildingId := 0, unitNumber := "1" } 7 3 :=
  (lateFeesAgree_iff ⟨System.overdue, rfl⟩ (List.mem_of_elem_eq_true (by decide +kernel)) 7 3).mpr
    (by decide +kernel)

/-- The debt of the unit of building `1` lists a fee of 5 that cannot be applied there. -/
theorem not_lateFeesAgree_overdueElsewhere :
    ¬ (runFrom System.step System.init System.overdueElsewhere).store.LateFeesAgree
      { id := 1, buildingId := 1, unitNumber := "1" } 7 3 := by
  intro hagree
  have hvalid := System.valid_of_reachable (S := runFrom System.step System.init
    System.overdueElsewhere) ⟨System.overdueElsewhere, rfl⟩
  have hitem : ({ id := 0, chargeBatchId := 0, unitId := 1, amount := 100, createdAt := 1 } :
      ChargeItem) ∈ (runFrom System.step System.init System.overdueElsewhere).store.chargeItems :=
    List.mem_of_elem_eq_true (by decide +kernel)
  have hlists := (hagree.1 _ hitem rfl 5).2
  rw [Store.listsLateFee_iff hvalid (List.mem_of_elem_eq_true (by decide +kernel)) hitem rfl] at hlists
  have happlies := (Store.appliesLateFee_iff hvalid hitem).mp (hlists.mp (by decide +kernel))
  exact absurd happlies.2.1 (by decide +kernel)

end VielHome.Finance
