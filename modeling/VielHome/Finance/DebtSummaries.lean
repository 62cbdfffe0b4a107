import VielHome.Common.Pagination
import VielHome.Finance.Effect.Charges
import VielHome.Relational.Paging

/-!
# What the units of a building have to pay, a page at a time

`listUnitDebtSummaries` reads the rows of all units of a page at once, regroups them by unit, and
builds the snapshot of each unit from its group. It is the snapshot that is computed for the unit
alone, and the pages list every unit of the building once (`listUnitDebtSummaries_spec`).
-/

namespace VielHome.Finance

open Relational

/-- What a unit has still to pay. -/
structure UnitDebtSummary where
  unitId : ℕ
  remainingPayable : ℤ
  deriving DecidableEq

/-- `orderBy: [{ unitNumber: 'asc' }, { id: 'asc' }]`. -/
def byUnitNumber : BuildingUnit → BuildingUnit → Prop :=
  ThenBy (fun u v => u.unitNumber ≤ v.unitNumber) fun u v => u.id ≤ v.id

instance : DecidableRel byUnitNumber := inferInstanceAs (DecidableRel (ThenBy _ _))

namespace FinanceRepository

/-- The units of a building, in the order of their numbers. -/
def unitsByNumber (s : Store) (buildingId : ℕ) : List BuildingUnit :=
  (s.units.rows.filter fun u => u.buildingId = buildingId).insertionSort byUnitNumber

/-- The summaries of the units of a page, and the number of all units. -/
def listUnitDebtSummaries (s : Store) (buildingId : ℕ) (pagination : ℕ × ℕ) :
    List UnitDebtSummary × ℕ :=
  let units := page pagination.1 pagination.2 (unitsByNumber s buildingId)
  let total := (s.units.rows.filter fun u => u.buildingId = buildingId).length
  let unitIds := units.map BuildingUnit.id
  if unitIds = [] then ([], total)
  else
    let chargeItems := s.chargeItems.rows.filter fun i =>
      i.unitId ∈ unitIds ∧ i.status ≠ .paid ∧ s.isBilled i
    let adjustments := s.adjustments.rows.filter fun a => a.unitId ∈ unitIds ∧ 0 < a.amount
    let credits := s.creditBalances.rows.filter fun c => c.unitId ∈ unitIds
    let pendingPayments := s.payments.rows.filter fun p =>
      p.unitId ∈ unitIds ∧ p.status = .pendingApproval
    let chargesByUnit := groupBy ChargeItem.unitId chargeItems
    let adjustmentsByUnit := groupBy Adjustment.unitId adjustments
    let paymentsByUnit := groupBy Payment.unitId pendingPayments
    let creditByUnit := lastBy CreditBalance.unitId CreditBalance.balance credits
    (unitIds.map fun unitId =>
      { unitId
        remainingPayable :=
          (buildDebtSnapshot ((chargesByUnit unitId).getD []) ((adjustmentsByUnit unitId).getD [])
            ((creditByUnit unitId).getD 0) ((paymentsByUnit unitId).getD [])).remainingPayable },
      total)

end FinanceRepository

open FinanceRepository (listUnitDebtSummaries unitsByNumber)

variable {s : Store} {buildingId : ℕ}

theorem mem_unitsByNumber {u : BuildingUnit} :
    u ∈ unitsByNumber s buildingId ↔ u ∈ s.units ∧ u.buildingId = buildingId := by
  simp [unitsByNumber, List.mem_insertionSort, Table.mem_rows]

/-- No unit is listed twice. -/
theorem nodup_unitsByNumber : ((unitsByNumber s buildingId).map BuildingUnit.id).Nodup := by
  have hperm := (List.perm_insertionSort byUnitNumber
    (s.units.rows.filter fun u => u.buildingId = buildingId)).map BuildingUnit.id
  refine hperm.nodup_iff.mpr ?_
  exact s.units.nodup.sublist (List.filter_sublist.map _)

/-- What is read for many units at once and regrouped is, for each of them, what is read for it
alone. -/
theorem summary_eq (h : s.CreditUnique) (pagination : ℕ × ℕ) :
    (listUnitDebtSummaries s buildingId pagination).1 =
      (page pagination.1 pagination.2 (unitsByNumber s buildingId)).map fun u =>
        { unitId := u.id, remainingPayable := (s.computeDebtSnapshot u.id).remainingPayable } := by
  rw [listUnitDebtSummaries]
  generalize page pagination.1 pagination.2 (unitsByNumber s buildingId) = units
  dsimp only
  split
  · rename_i hnone
    rw [List.map_eq_nil_iff.mp hnone]
    rfl
  · refine List.map_map.trans (List.map_congr_left fun u hu => ?_)
    have hunit : u.id ∈ units.map BuildingUnit.id := List.mem_map_of_mem hu
    -- the credit rows of the unit are one at most, so that the last one is the one that is found
    have hcredits : ∀ c ∈ s.creditBalances.rows.filter fun c => c.unitId ∈ units.map BuildingUnit.id,
        ∀ c' ∈ s.creditBalances.rows.filter fun c => c.unitId ∈ units.map BuildingUnit.id,
          c.unitId = u.id → c'.unitId = u.id → c = c' :=
      fun c hc c' hc' hunit hunit' =>
        h c (List.mem_of_mem_filter hc) c' (List.mem_of_mem_filter hc') (hunit.trans hunit'.symm)
    rw [Function.comp_apply, getD_groupBy, getD_groupBy, getD_groupBy, lastBy_eq _ _ hcredits,
      find?_filter_mem hunit, filter_filter_mem hunit, filter_filter_mem hunit,
      filter_filter_mem hunit]
    rfl

/-- The units of all pages up to some number. -/
def listedUnits (s : Store) (buildingId : ℕ) (rawLimit : Option ℚ) (n : ℕ) : List ℕ :=
  (List.range n).flatMap fun i =>
    (listUnitDebtSummaries s buildingId
      (toSkipTake (parsePagination (some (i + 1 : ℕ)) rawLimit))).1.map UnitDebtSummary.unitId

theorem listedUnits_eq (h : s.CreditUnique) (rawLimit : Option ℚ) (n : ℕ) :
    listedUnits s buildingId rawLimit n =
      ((unitsByNumber s buildingId).take (n * (parsePagination none rawLimit).limit)).map
        BuildingUnit.id := by
  rw [← flatMap_page, List.map_flatMap, listedUnits]
  refine List.flatMap_congr fun i _ => ?_
  have hpage : toSkipTake (parsePagination (some (i + 1 : ℕ)) rawLimit) =
      (i * (parsePagination none rawLimit).limit, (parsePagination none rawLimit).limit) := by
    rw [toSkipTake, parsePagination, positiveInteger_natCast (Nat.le_add_left 1 i)]
    rfl
  rw [summary_eq h, hpage, List.map_map]
  rfl

/-- For every unit on a page, what it has to pay is what is computed for it alone; and the pages up
to the last one, whatever the limit, list every unit of the building exactly once. -/
theorem listUnitDebtSummaries_spec (h : s.CreditUnique) (buildingId : ℕ) (rawLimit : Option ℚ) :
    (∀ rawPage, ∀ summary ∈ (listUnitDebtSummaries s buildingId
        (toSkipTake (parsePagination rawPage rawLimit))).1,
      summary.remainingPayable = (s.computeDebtSnapshot summary.unitId).remainingPayable) ∧
    ∀ rawPage n, (buildPaginationMeta (parsePagination rawPage rawLimit)
        (listUnitDebtSummaries s buildingId
          (toSkipTake (parsePagination rawPage rawLimit))).2).totalPages ≤ n →
      (listedUnits s buildingId rawLimit n).Nodup ∧
        ∀ id, id ∈ listedUnits s buildingId rawLimit n ↔
          ∃ u ∈ s.units, u.id = id ∧ u.buildingId = buildingId := by
  constructor
  · intro rawPage summary hsummary
    rw [summary_eq h] at hsummary
    obtain ⟨u, -, rfl⟩ := List.mem_map.mp hsummary
    rfl
  · intro rawPage n hn
    have htotal : (listUnitDebtSummaries s buildingId
        (toSkipTake (parsePagination rawPage rawLimit))).2 = (unitsByNumber s buildingId).length := by
      rw [unitsByNumber, List.length_insertionSort, listUnitDebtSummaries]
      dsimp only
      split <;> rfl
    have hlength : (unitsByNumber s buildingId).length ≤
        n * (parsePagination none rawLimit).limit := by
      have hpos := limit_parsePagination_pos rawPage rawLimit
      calc (unitsByNumber s buildingId).length
          ≤ _ * (parsePagination rawPage rawLimit).limit :=
            total_le_totalPages_mul (parsePagination rawPage rawLimit) hpos _
        _ ≤ n * (parsePagination none rawLimit).limit :=
            Nat.mul_le_mul_right _ (htotal ▸ hn)
    have hlisted : listedUnits s buildingId rawLimit n =
        (unitsByNumber s buildingId).map BuildingUnit.id := by
      rw [listedUnits_eq h, List.take_of_length_le hlength]
    rw [hlisted]
    refine ⟨nodup_unitsByNumber, fun id => ?_⟩
    rw [List.mem_map]
    constructor
    · rintro ⟨u, hu, rfl⟩
      exact ⟨u, (mem_unitsByNumber.mp hu).1, rfl, (mem_unitsByNumber.mp hu).2⟩
    · rintro ⟨u, hu, rfl, hbuilding⟩
      exact ⟨u, mem_unitsByNumber.mpr ⟨hu, hbuilding⟩, rfl⟩

/-- Two units of a building, one of them with credit. -/
def twoUnits : Store :=
  { Store.empty with
    units := Table.empty.createMany ["2", "1"] fun unitNumber id =>
      { id, buildingId := 0, unitNumber }
    creditBalances := Table.empty.create fun id =>
      { id, unitId := 1, buildingId := 0, balance := 5 } }

theorem creditUnique_twoUnits : twoUnits.CreditUnique := by
  unfold Store.CreditUnique
  decide

/-- The two units on two pages. -/
theorem listUnitDebtSummaries_spec_twoUnits :
    (∀ rawPage, ∀ summary ∈ (listUnitDebtSummaries twoUnits 0
        (toSkipTake (parsePagination rawPage (some 1)))).1,
      summary.remainingPayable = (twoUnits.computeDebtSnapshot summary.unitId).remainingPayable) ∧
    ∀ rawPage n, (buildPaginationMeta (parsePagination rawPage (some 1))
        (listUnitDebtSummaries twoUnits 0
          (toSkipTake (parsePagination rawPage (some 1)))).2).totalPages ≤ n →
      (listedUnits twoUnits 0 (some 1) n).Nodup ∧
        ∀ id, id ∈ listedUnits twoUnits 0 (some 1) n ↔
          ∃ u ∈ twoUnits.units, u.id = id ∧ u.buildingId = 0 :=
  listUnitDebtSummaries_spec creditUnique_twoUnits 0 (some 1)

end VielHome.Finance
