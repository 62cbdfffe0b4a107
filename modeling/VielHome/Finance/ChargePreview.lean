import VielHome.Finance.AreaShares
import VielHome.Finance.Invariant.Requests

/-!
# Total amounts and their preview

`previewChargeBatch` answers what `createChargeBatch` would do, without writing. A request that
carries a total amount is divided exactly, over every scope that selects a unit: the items of the
batch add up to the total, and so do those of the preview. Only an equal division over no unit
loses the total: an empty batch is created, where a division by area is refused.
-/

namespace VielHome.Finance

open Relational

/-! ### The preview -/

/-- What `findCurrentTenancyForUnit` and `getCurrentOwnerPersonIds` find. -/
structure Occupants where
  currentTenant : ℕ → Option ℕ
  currentOwners : ℕ → List ℕ

/-- Who has to pay an item. -/
inductive ResolvedPayerType
  | owner
  | resident
  deriving DecidableEq

/-- `resolvePayers`: the tenant, or all owners where there is none. -/
def resolvePayers (occupants : Occupants) (unitId : ℕ) (payerType : Option ChargePayerType) :
    Option (ResolvedPayerType × List ℕ) :=
  payerType.map fun payerType =>
    let tenancy := if payerType = .resident ∨ payerType = .tenant then
      occupants.currentTenant unitId else none
    match tenancy with
    | some personId => (.resident, [personId])
    | none => (.owner, occupants.currentOwners unitId)

/-- One item of a preview. -/
structure PreviewItem where
  unitId : ℕ
  unitNumber : Option String
  unitType : Option UnitType
  amount : ℤ
  resolvedPayerType : Option ResolvedPayerType
  payerPersonIds : List ℕ
  deriving DecidableEq

/-- The late fee of a charge. -/
structure LateFeePolicy where
  type : LateFeeType
  value : Option ℤ
  graceDays : ℤ
  deriving DecidableEq

/-- What `previewChargeBatch` returns. -/
structure ChargeBatchPreview where
  chargeKind : Option ChargeKind
  series : Option (ℕ × String)
  periodStart : Option Time
  fund : Option (ℕ × String)
  willCreateDefaultFund : Bool
  unitScope : Option ChargeUnitScope
  calculationMethod : ChargeCalculationMethod
  items : List PreviewItem
  totalUnitCount : ℕ
  grandTotal : ℤ
  lateFeePolicy : Option LateFeePolicy
  validationWarnings : List String

namespace FinanceService

/-- `resolveChargeFund` in the mode `preview`: the default fund is not created. -/
def resolvePreviewFund (buildingId : ℕ) (dto : CreateChargeBatchDto) :
    Prepare (Option Fund × Bool) :=
  match dto.chargeKind with
  | some _ => do
    let fund ← resolveChargeFund buildingId dto
    pure (some fund, false)
  | none =>
    match dto.fundId with
    | some fundId => do
      let fund ← getFund buildingId fundId
      Script.ofExcept (FundPolicy.assertActive fund.isActive)
      pure (some fund, false)
    | none => do
      let fund ← Script.query fun s => s.findDefaultFund buildingId
      match fund with
      | some fund => do
        Script.ofExcept (FundPolicy.assertActive fund.isActive)
        pure (some fund, false)
      | none => pure (none, true)

/-- The preview of one item. -/
def previewItem (occupants : Occupants) (allUnits : List BuildingUnit)
    (payerType : Option ChargePayerType) (item : ChargeItemInput) : PreviewItem :=
  let unit := allUnits.find? fun u => u.id = item.unitId
  let payer := resolvePayers occupants item.unitId payerType
  { unitId := item.unitId, unitNumber := unit.map BuildingUnit.unitNumber,
    unitType := unit.map BuildingUnit.type, amount := item.amount,
    resolvedPayerType := payer.map Prod.fst, payerPersonIds := (payer.map Prod.snd).getD [] }

/-- The warnings of a preview. -/
def validationWarnings (willCreateDefaultFund : Bool) (items : List PreviewItem)
    (areaUnitsSkippedForMissingArea : ℕ) : List String :=
  let noOwnerCount := (items.filter fun i =>
    i.resolvedPayerType = some .owner ∧ i.payerPersonIds = []).length
  (if willCreateDefaultFund then
    ["No default fund exists for this building yet — one will be created automatically when this charge batch is actually issued via createChargeBatch, not by this preview."]
    else []) ++
  (if 0 < noOwnerCount then [toString noOwnerCount ++ " unit(s) have no current owner on record."]
    else []) ++
  (if items = [] then
    ["No units matched the requested scope — this batch would have zero items."] else []) ++
  (if 0 < areaUnitsSkippedForMissingArea then
    [toString areaUnitsSkippedForMissingArea ++
      " unit(s) in scope were skipped because they have no positive area configured."] else [])

/-- `previewChargeBatch`. -/
def previewChargeBatch (occupants : Occupants) (buildingId : ℕ) (dto : CreateChargeBatchDto) :
    Prepare ChargeBatchPreview := do
  let _ ← getBuilding buildingId
  resolveChargeClassification buildingId dto
  let series ← Script.query fun s =>
    if dto.chargeKind = some .monthly then dto.seriesId.bind s.chargeSeries.find? else none
  let (fund, willCreateDefaultFund) ← resolvePreviewFund buildingId dto
  let resolved ← Script.query fun s => resolveChargeItems s buildingId dto
  let resolved ← Script.ofExcept resolved
  let allUnits ← Script.query fun s => s.listUnits buildingId
  let items := resolved.items.map (previewItem occupants allUnits dto.payerType)
  pure
    { chargeKind := dto.chargeKind, series := series.map fun r => (r.id, r.name),
      periodStart := dto.periodStart, fund := fund.map fun f => (f.id, f.name),
      willCreateDefaultFund, unitScope := resolved.effectiveUnitScope,
      calculationMethod := dto.calculationMethod, items, totalUnitCount := items.length,
      grandTotal := (items.map PreviewItem.amount).sum,
      lateFeePolicy := dto.lateFeeType.map fun type =>
        { type, value := dto.lateFeeValue, graceDays := dto.lateFeeGraceDays.getD 0 }
      validationWarnings := validationWarnings willCreateDefaultFund items
        resolved.areaUnitsSkippedForMissingArea }

variable {s s' : Store}

/-- Whatever fund a creation uses, the preview finds or announces it. -/
theorem exists_run_resolvePreviewFund {buildingId : ℕ} {dto : CreateChargeBatchDto} {f : Fund}
    (h : (resolveChargeFund buildingId dto).run s = (.ok f, s')) :
    ∃ fund, (resolvePreviewFund buildingId dto).run s = (.ok fund, s) := by
  rw [resolvePreviewFund]
  cases hkind : dto.chargeKind with
  | some chargeKind =>
    -- the two modes differ only for a request without a kind
    have hsame : s' = s := by
      rw [resolveChargeFund, hkind] at h
      simp only [Script.run_bind_ok, Script.run_atomically_ok, Tx.run_ofExcept_ok] at h
      obtain ⟨_, s₁, ⟨-, rfl⟩, h⟩ := h
      split at h
      case h_1 fundId _ =>
        simp only [Script.run_bind_ok, Script.run_liftM_ok, Script.run_atomically_ok, getFund_ok,
          Tx.run_ofExcept_ok, Script.run_pure_ok] at h
        obtain ⟨_, s₂, ⟨-, rfl⟩, _, s₃, ⟨-, rfl⟩, _, s₄, ⟨-, rfl⟩, -, rfl⟩ := h
        rfl
      case h_2 =>
        simp only [Script.run_bind_ok, Script.run_atomically_ok, Tx.run_query, Except.ok.injEq,
          Prod.mk.injEq] at h
        obtain ⟨_, s₂, ⟨-, rfl⟩, h⟩ := h
        split at h
        case h_1 => exact (Script.run_pure_ok.mp h).2
        all_goals
          rw [Script.run_atomically_ok, Tx.run_ofExcept_ok] at h
          exact h.2
    exact ⟨(some f, false), Script.run_bind_ok.mpr ⟨f, s, hsame ▸ h, rfl⟩⟩
  | none =>
    rw [resolveChargeFund, hkind] at h
    simp only [resolveFundForWrite, Script.run_bind_ok, Script.run_liftM_ok,
      Script.run_atomically_ok, Tx.run_ofExcept_ok, Script.run_pure_ok] at h
    obtain ⟨fund, s₁, hfund, w, s₂, ⟨hactive, rfl⟩, rfl, rfl⟩ := h
    cases hid : dto.fundId with
    | some fundId =>
      rw [hid] at hfund
      obtain ⟨-, rfl⟩ := getFund_ok.mp hfund
      exact ⟨(some f, false), Script.run_bind_ok.mpr ⟨f, s', Script.run_liftM_ok.mpr hfund,
        Script.run_bind_ok.mpr ⟨w, s', Script.run_atomically_ok.mpr
          (Tx.run_ofExcept_ok.mpr ⟨hactive, rfl⟩), rfl⟩⟩⟩
    | none =>
      rw [hid, findFundForWrite] at hfund
      obtain ⟨found, s₂, hdefault, hfound⟩ := Tx.run_bind_ok.mp hfund
      rw [Tx.run_expect_ok, Option.filter_eq_some_iff] at hfound
      obtain rfl := Option.some.inj hfound.1.1
      rw [getOrCreateDefaultFund, Tx.run_query_bind] at hdefault
      cases hexisting : s.findDefaultFund buildingId with
      | none =>
        refine ⟨(none, true), Script.run_bind_ok.mpr ⟨none, s, ?_, rfl⟩⟩
        rw [Script.run_atomically_ok, Tx.run_query, hexisting]
      | some existing =>
        rw [hexisting] at hdefault
        obtain ⟨rfl, -⟩ := Tx.run_pure_ok.mp hdefault
        refine ⟨(some found, false), Script.run_bind_ok.mpr ⟨some found, s, ?_, ?_⟩⟩
        · rw [Script.run_atomically_ok, Tx.run_query, hexisting]
        · exact Script.run_bind_ok.mpr ⟨w, s, Script.run_atomically_ok.mpr
            (Tx.run_ofExcept_ok.mpr ⟨hactive, rfl⟩), rfl⟩

/-- A request that is accepted can be previewed: the items are those of the request, in the store
where it was made and in the store where the batch is created. -/
theorem exists_run_previewChargeBatch (occupants : Occupants) {buildingId actor : ℕ}
    {dto : CreateChargeBatchDto} {params : CreateChargeBatchParams}
    (h : (createChargeBatch buildingId dto actor).run s = (.ok params, s')) :
    ∃ r preview, resolveChargeItems s buildingId dto = .ok r ∧ params.items = r.items ∧
      (previewChargeBatch occupants buildingId dto).run s = (.ok preview, s) ∧
      preview.items = r.items.map (previewItem occupants (s.listUnits buildingId) dto.payerType) ∧
      preview.grandTotal = (preview.items.map PreviewItem.amount).sum := by
  obtain ⟨-, -, r, hr, hitems⟩ := createChargeBatch_ok h
  simp only [createChargeBatch, Script.run_bind_ok, Script.run_liftM_ok] at h
  obtain ⟨b, s₁, hb, w, s₂, hclass, f, s₃, hfund, h⟩ := h
  obtain ⟨-, rfl⟩ := getBuilding_ok.mp hb
  obtain ⟨-, rfl⟩ := resolveChargeClassification_ok hclass
  have hs' : s' = s₃ := by
    simp only [Script.run_atomically_ok, Tx.run_query, Except.ok.injEq, Prod.mk.injEq,
      Tx.run_ofExcept_ok, Script.run_pure_ok] at h
    obtain ⟨x, s₄, ⟨-, rfl⟩, x', s₅, ⟨-, rfl⟩, -, rfl⟩ := h
    rfl
  -- a default fund that was created is all that the store may have gained
  have hunits : s'.units = s₂.units := by
    rw [hs']
    exact (resolved_ok (resolveChargeFund_ok hfund)).2
  have hr' : resolveChargeItems s₂ buildingId dto = .ok r := by
    rw [← hr]
    simp only [resolveChargeItems, Store.listUnits, hunits]
  obtain ⟨fund, hpreview⟩ := exists_run_resolvePreviewFund hfund
  exact ⟨r, _, hr', hitems, Script.run_bind_ok.mpr ⟨b, s₂, Script.run_liftM_ok.mpr hb,
    Script.run_bind_ok.mpr ⟨w, s₂, Script.run_liftM_ok.mpr hclass,
    Script.run_bind_ok.mpr ⟨_, s₂, rfl, Script.run_bind_ok.mpr ⟨fund, s₂, hpreview,
    Script.run_bind_ok.mpr ⟨_, s₂, rfl, Script.run_bind_ok.mpr ⟨r, s₂, Script.run_atomically_ok.mpr
      (Tx.run_ofExcept_ok.mpr ⟨hr', rfl⟩), Script.run_bind_ok.mpr ⟨_, s₂, rfl, rfl⟩⟩⟩⟩⟩⟩⟩,
    rfl, rfl⟩

end FinanceService

/-! ### Exact totals -/

/-- An equal division among at least one unit gives out the total. -/
theorem sum_allocateEqually {totalAmount : ℤ} {unitIds : List ℕ} (hne : unitIds ≠ []) :
    ((allocateEqually totalAmount unitIds).map ChargeItemInput.amount).sum = totalAmount := by
  have hpos : (0 : ℤ) < unitIds.length := by
    exact_mod_cast List.length_pos_iff.mpr hne
  set n : ℤ := (unitIds.length : ℤ) with hn
  have hremainder : totalAmount - totalAmount / n * n = totalAmount % n := by
    rw [Int.emod_def, mul_comm]
  have hsplit : ∀ (l : List ℕ) (g : ℕ → ℤ),
      (l.mapIdx fun index _ => totalAmount / n + g index).sum =
        l.length * (totalAmount / n) + (l.mapIdx fun index _ => g index).sum := by
    intro l
    induction l with
    | nil => simp
    | cons u l ih =>
      intro g
      rw [List.mapIdx_cons, List.sum_cons, ih fun index => g (index + 1), List.mapIdx_cons,
        List.sum_cons, List.length_cons]
      push_cast
      ring
  calc ((allocateEqually totalAmount unitIds).map ChargeItemInput.amount).sum
      = (unitIds.mapIdx fun index _ => totalAmount / n +
          if (index : ℤ) < totalAmount % n then 1 else 0).sum := by
        refine congrArg List.sum (List.ext_getElem (by simp [allocateEqually]) fun k hk hk' => ?_)
        simp only [allocateEqually, List.getElem_map, List.getElem_mapIdx, ← hn, hremainder]
        split <;> simp
    _ = n * (totalAmount / n) + totalAmount % n := by
        rw [hsplit, Apportionment.sum_mapIdx_lt unitIds (Int.emod_nonneg _ hpos.ne')
          (Int.emod_lt_of_pos _ hpos).le]
    _ = totalAmount := Int.mul_ediv_add_emod totalAmount n

/-- The units that the scope of a request selects. -/
def Selects (s : Store) (buildingId : ℕ) (dto : CreateChargeBatchDto) (units : List BuildingUnit) :
    Prop :=
  filterUnitsByScope (s.listUnits buildingId) (dto.unitScope.getD .all) dto.unitIds = .ok units

theorem filterUnitsByScope_sublist {units selected : List BuildingUnit} {scope : ChargeUnitScope}
    {unitIds : Option (List ℕ)} (h : filterUnitsByScope units scope unitIds = .ok selected) :
    selected.Sublist units := by
  cases scope with
  | all =>
    obtain rfl := Except.ok.inj h
    exact List.Sublist.refl _
  | ofType type =>
    obtain rfl := Except.ok.inj h
    exact List.filter_sublist
  | manual =>
    obtain ⟨_, -, h⟩ := except_bind_ok h
    obtain rfl := Except.ok.inj h
    exact List.filter_sublist

theorem nodup_listUnits (s : Store) (buildingId : ℕ) :
    ((s.listUnits buildingId).map BuildingUnit.id).Nodup := by
  have hperm := (List.perm_insertionSort (fun u v : BuildingUnit => u.unitNumber ≤ v.unitNumber)
    (s.units.rows.filter fun u => u.buildingId = buildingId)).map BuildingUnit.id
  refine hperm.nodup_iff.mpr ?_
  exact (List.filter_sublist.map _).nodup s.units.nodup

theorem map_fst_withArea_sublist (units : List BuildingUnit) :
    ((units.filterMap fun u => (u.areaSqm.filter fun a => 0 < a).map fun a => (u.id, a)).map
      Prod.fst).Sublist (units.map BuildingUnit.id) := by
  induction units with
  | nil => exact List.Sublist.refl _
  | cons u units ih =>
    rw [List.filterMap_cons, List.map_cons]
    cases u.areaSqm.filter fun a => 0 < a with
    | none => exact ih.cons _
    | some a => exact ih.cons_cons _

/-- A division by area is among so few units that the rounding errors stay below one. -/
def DividesAmongFew (s : Store) (buildingId : ℕ) (dto : CreateChargeBatchDto) (totalAmount : ℤ) :
    Prop :=
  dto.calculationMethod = .areaBased →
    ∀ units, Selects s buildingId dto units → FewUnits totalAmount units.length

theorem FewUnits.mono {totalAmount : ℤ} (htotal : 0 < totalAmount) {m n : ℕ} (hle : m ≤ n)
    (h : FewUnits totalAmount n) : FewUnits totalAmount m := by
  have hcast : (m : ℤ) + 3 ≤ n + 3 := by omega
  exact (mul_le_mul_of_nonneg_right hcast (by omega)).trans h

/-- The resolved items of a request with a total amount add up to it, unless it is to be divided
equally among no unit. -/
theorem sum_resolved_iff {s : Store} {buildingId : ℕ} {dto : CreateChargeBatchDto}
    {r : ResolvedChargeItems} (h : resolveChargeItems s buildingId dto = .ok r) {totalAmount : ℤ}
    (htotal : dto.totalAmount = some totalAmount)
    (hfew : DividesAmongFew s buildingId dto totalAmount) :
    (r.items.map ChargeItemInput.amount).sum = totalAmount ↔
      (dto.calculationMethod = .fixed → ¬ Selects s buildingId dto []) := by
  have hpos := dto.totalAmount_pos totalAmount htotal
  rw [resolveChargeItems] at h
  obtain ⟨w, hvalid, h⟩ := except_bind_ok h
  cases hmethod : dto.calculationMethod with
  | mixed =>
    -- a mixed charge carries no total
    rw [ChargePolicy.assertValidCalculationInputs, hmethod] at hvalid
    obtain ⟨_, -, hvalid⟩ := except_bind_ok hvalid
    obtain ⟨_, hnone, -⟩ := except_bind_ok hvalid
    rw [check_ok, htotal] at hnone
    exact absurd hnone (by simp)
  | fixed =>
    simp only [hmethod] at h
    obtain ⟨units, hunits, h⟩ := except_bind_ok h
    simp only [htotal, Except.ok.injEq] at h
    obtain rfl := h
    rw [Selects, hunits]
    cases units with
    | nil => simp [allocateEqually, hpos.ne]
    | cons u units =>
      refine iff_of_true (sum_allocateEqually (List.cons_ne_nil _ _)) fun _ hnone => ?_
      exact List.cons_ne_nil _ _ (Except.ok.inj hnone)
  | areaBased =>
    simp only [hmethod] at h
    obtain ⟨units, hunits, h⟩ := except_bind_ok h
    set areas := units.filterMap fun u =>
      (u.areaSqm.filter fun a => 0 < a).map fun a => (u.id, a) with hareas
    simp only [htotal] at h
    obtain ⟨w', hsome, h⟩ := except_bind_ok h
    obtain rfl := Except.ok.inj h
    rw [check_ok] at hsome
    have hids : (areas.map Prod.fst).Nodup :=
      (map_fst_withArea_sublist units).nodup
        (((filterUnitsByScope_sublist hunits).map _).nodup (nodup_listUnits s _))
    have hareaPos : ∀ e ∈ areas, 0 < e.2 := by
      intro e he
      obtain ⟨u, -, hue⟩ := List.mem_filterMap.mp he
      obtain ⟨a, ha, rfl⟩ := Option.map_eq_some_iff.mp hue
      rw [Option.filter_eq_some_iff, decide_eq_true_eq] at ha
      exact ha.2
    have hlength : areas.length ≤ units.length := List.length_filterMap_le _ _
    refine iff_of_true ?_ fun he => absurd he (by decide)
    exact sum_allocateByArea_binary64 hpos hsome hids hareaPos
      ((hfew hmethod units hunits).mono hpos hlength)

/-- The items that were added between two stores. -/
def createdItems (s s' : Store) : List ChargeItem :=
  s'.chargeItems.rows.drop s.chargeItems.rows.length

theorem map_createdItems (s : Store) (params : CreateChargeBatchParams) (now : Time) :
    (createdItems s (s.withBatch params now)).map (fun i => (i.unitId, i.amount)) =
      params.items.map fun i => (i.unitId, i.amount) := by
  rw [createdItems, Store.withBatch, Table.rows_createMany, List.drop_left]
  refine List.ext_getElem (by simp) fun k hk hk' => ?_
  simp [ChargeItemInput.row]

/-- A total amount is divided exactly, and as previewed: the items of the batch, the total of the
batch, and the items and the total of the preview. -/
structure DividedExactly (occupants : Occupants) (s s₁ s' : Store) (buildingId : ℕ)
    (dto : CreateChargeBatchDto) (totalAmount : ℤ) : Prop where
  items : ((createdItems s₁ s').map ChargeItem.amount).sum = totalAmount
  batch : ∃ row ∈ s'.chargeBatches, row.id = s₁.chargeBatches.next ∧ row.totalAmount = totalAmount
  preview : ∃ preview, (FinanceService.previewChargeBatch occupants buildingId dto).run s =
      (.ok preview, s) ∧
    preview.items.map (fun i => (i.unitId, i.amount)) =
      (createdItems s₁ s').map (fun i => (i.unitId, i.amount)) ∧
    preview.grandTotal = totalAmount

/-- Batch and preview are made of the resolved items, so they are exact when these are. -/
theorem dividedExactly_iff_sum (occupants : Occupants) (totalAmount : ℤ) {s s₁ s' : Store}
    {buildingId actor : ℕ} {dto : CreateChargeBatchDto} {params : CreateChargeBatchParams}
    (haccepted : (FinanceService.createChargeBatch buildingId dto actor).run s = (.ok params, s₁))
    {now : Time} {batch : ChargeBatch}
    (hcreated : (createChargeBatch params now).run s₁ = .ok (batch, s')) :
    ∃ r, resolveChargeItems s buildingId dto = .ok r ∧
      (DividedExactly occupants s s₁ s' buildingId dto totalAmount ↔
        (r.items.map ChargeItemInput.amount).sum = totalAmount) := by
  obtain ⟨r, preview, hr, hitems, hpreview, hpreviewItems, hgrand⟩ :=
    FinanceService.exists_run_previewChargeBatch occupants haccepted
  obtain ⟨-, -, rfl⟩ := createChargeBatch_ok hcreated
  have hmap := map_createdItems s₁ params now
  have hamounts : (createdItems s₁ (s₁.withBatch params now)).map ChargeItem.amount =
      r.items.map ChargeItemInput.amount := by
    have := congrArg (List.map Prod.snd) hmap
    rwa [List.map_map, List.map_map, hitems] at this
  refine ⟨r, hr, fun h => hamounts ▸ h.items, fun hsum => ⟨hamounts ▸ hsum, ?_, preview, hpreview,
    ?_, ?_⟩⟩
  · refine ⟨params.row now s₁.chargeBatches.next, ?_, rfl, ?_⟩
    · exact (Table.mem_create (h := fun _ => rfl)).mpr (Or.inr rfl)
    · rw [CreateChargeBatchParams.row, hitems]
      exact hsum
  · rw [hmap, hpreviewItems, hitems, List.map_map]
    rfl
  · rw [hgrand, hpreviewItems, List.map_map]
    exact hsum

/-- Every accepted request divides its total exactly, and as previewed, if it is to be divided
equally among some unit, or by area among few; if it is to be divided equally among no unit, it does
not. -/
theorem total_divided_exactly (occupants : Occupants) {s s₁ s' : Store} {buildingId actor : ℕ}
    {dto : CreateChargeBatchDto} {totalAmount : ℤ} (htotal : dto.totalAmount = some totalAmount)
    {params : CreateChargeBatchParams}
    (haccepted : (FinanceService.createChargeBatch buildingId dto actor).run s = (.ok params, s₁))
    {now : Time} {batch : ChargeBatch}
    (hcreated : (createChargeBatch params now).run s₁ = .ok (batch, s')) :
    (DividesAmongFew s buildingId dto totalAmount →
        (dto.calculationMethod = .fixed → ¬ Selects s buildingId dto []) →
          DividedExactly occupants s s₁ s' buildingId dto totalAmount) ∧
      (DividedExactly occupants s s₁ s' buildingId dto totalAmount →
        dto.calculationMethod = .fixed → ¬ Selects s buildingId dto []) := by
  obtain ⟨r, hr, hexact⟩ := dividedExactly_iff_sum occupants totalAmount haccepted hcreated
  constructor
  · intro hfew hsome
    exact hexact.mpr ((sum_resolved_iff hr htotal hfew).mpr hsome)
  · intro hdivided hfixed
    -- a fixed amount is not divided by area
    have hfew : DividesAmongFew s buildingId dto totalAmount := fun harea =>
      absurd (harea.symm.trans hfixed) (by decide)
    exact (sum_resolved_iff hr htotal hfew).mp (hexact.mp hdivided) hfixed

/-! ### A total for no unit -/

/-- A building with one apartment. -/
def apartment : Store :=
  { Store.empty with
    buildings := Store.empty.buildings.create fun id => ⟨id⟩
    units := Store.empty.units.create fun id => { id, buildingId := 0, unitNumber := "1" } }

/-- One hundred, to be divided equally over the units of the scope. -/
def hundred (unitScope : ChargeUnitScope) : CreateChargeBatchDto :=
  { title := "Repairs", calculationMethod := .fixed, totalAmount := some 100,
    unitScope := some unitScope }

/-- A building with three apartments. -/
def apartments : Store :=
  { Store.empty with
    buildings := Store.empty.buildings.create fun id => ⟨id⟩
    units := Store.empty.units.createMany [("1", 80), ("2", 20), ("3", 20)] fun unit id =>
      { id, buildingId := 0, unitNumber := unit.1, areaSqm := some unit.2 } }

/-- A million, to be divided by area. -/
def million : CreateChargeBatchDto :=
  { title := "Repairs", calculationMethod := .areaBased, totalAmount := some 1000000 }

/-- Divided over all units, equally or by area, the total is charged in full. -/
theorem total_divided_exactly_all :
    (∃ params s₁ batch s',
      (FinanceService.createChargeBatch 0 (hundred .all) 7).run apartment = (.ok params, s₁) ∧
      (createChargeBatch params 0).run s₁ = .ok (batch, s') ∧
      ((createdItems s₁ s').map ChargeItem.amount).sum = 100) ∧
    ∃ params s₁ batch s',
      (FinanceService.createChargeBatch 0 million 7).run apartments = (.ok params, s₁) ∧
      (createChargeBatch params 0).run s₁ = .ok (batch, s') ∧
      ((createdItems s₁ s').map ChargeItem.amount).sum = 1000000 := by
  constructor
  · obtain ⟨params, s₁, haccepted, hcreates⟩ := Script.exists_run_ok
      (x := FinanceService.createChargeBatch 0 (hundred .all) 7) (s := apartment)
      (fun params s₁ => ((createChargeBatch params 0).run s₁).toOption.any fun _ => true)
      (by decide +kernel)
    obtain ⟨batch, -, hcreated⟩ := Tx.exists_run_ok (fun _ => true) hcreates
    refine ⟨params, s₁, batch, _, haccepted, hcreated, ?_⟩
    refine ((total_divided_exactly ⟨fun _ => none, fun _ => []⟩ rfl haccepted hcreated).1
      (fun harea => ?_) fun _ h => ?_).items
    · exact absurd harea (by decide)
    · exact absurd (Except.ok.inj h) (by decide +kernel)
  · obtain ⟨params, s₁, haccepted, hcreates⟩ := Script.exists_run_ok
      (x := FinanceService.createChargeBatch 0 million 7) (s := apartments)
      (fun params s₁ => ((createChargeBatch params 0).run s₁).toOption.any fun _ => true)
      (by decide +kernel)
    obtain ⟨batch, -, hcreated⟩ := Tx.exists_run_ok (fun _ => true) hcreates
    refine ⟨params, s₁, batch, _, haccepted, hcreated, ?_⟩
    refine ((total_divided_exactly ⟨fun _ => none, fun _ => []⟩ rfl haccepted hcreated).1
      (fun _ units hunits => ?_) fun hfixed => ?_).items
    · obtain rfl := Except.ok.inj hunits
      decide +kernel
    · exact absurd hfixed (by decide)

/-- Divided over the parking spaces, of which there are none, the hundred is accepted and lost. -/
theorem total_lost : ∃ params s₁ batch s',
    (FinanceService.createChargeBatch 0 (hundred (.ofType .parking)) 7).run apartment =
      (.ok params, s₁) ∧
    (createChargeBatch params 0).run s₁ = .ok (batch, s') ∧
    ((createdItems s₁ s').map ChargeItem.amount).sum ≠ 100 := by
  obtain ⟨params, s₁, haccepted, h⟩ := Script.exists_run_ok
    (x := FinanceService.createChargeBatch 0 (hundred (.ofType .parking)) 7) (s := apartment)
    (fun params s₁ => (((createChargeBatch params 0).run s₁).toOption.any fun _ => true) &&
      decide (((createdItems s₁ ((createChargeBatch params 0).exec s₁)).map
        ChargeItem.amount).sum ≠ 100)) (by decide +kernel)
  obtain ⟨hcreates, hlost⟩ := Bool.and_eq_true_iff.mp h
  obtain ⟨batch, -, hcreated⟩ := Tx.exists_run_ok (fun _ => true) hcreates
  exact ⟨params, s₁, batch, _, haccepted, hcreated, of_decide_eq_true hlost⟩

end VielHome.Finance
