import VielHome.Finance.ChargeItems

/-!
# What the resolved items of a charge are

No resolved amount is negative, and except for a mixed charge, whose items the request
lists itself, every unit is one of the building.
-/

namespace VielHome.Finance

open Relational Numeric

/-- The units and amounts of an equal division. -/
theorem allocateEqually_spec {totalAmount : ℤ} (h : 0 ≤ totalAmount) {unitIds : List ℕ}
    {i : ChargeItemInput} (hi : i ∈ allocateEqually totalAmount unitIds) :
    0 ≤ i.amount ∧ i.unitId ∈ unitIds := by
  rw [allocateEqually] at hi
  obtain ⟨k, hk, rfl⟩ := List.mem_mapIdx.mp hi
  have hbase : 0 ≤ totalAmount / (unitIds.length : ℤ) := Int.ediv_nonneg h (Int.natCast_nonneg _)
  refine ⟨?_, List.getElem_mem hk⟩
  dsimp only
  split <;> omega

/-- Doubles round what is not negative to what is not negative. -/
theorem binary64_nonneg {x : ℚ} (h : 0 ≤ x) : 0 ≤ binary64 x :=
  binary64_roundsWithin.nonneg (by norm_num) h

theorem foldl_area_eq (fl : ℚ → ℚ) (units : List (ℕ × ℚ)) :
    units.foldl (fun sum u => fl (sum + u.2)) 0 = roundedSum fl (units.map Prod.snd) := by
  rw [roundedSum, List.foldl_map]

/-- The units and amounts of a division by area. -/
theorem allocateByArea_spec {fl : ℚ → ℚ} {u : ℚ} (hfl : RoundsWithin u fl) (hu : u ≤ 1)
    {totalAmount : ℤ} (h : 0 ≤ totalAmount) {units : List (ℕ × ℚ)}
    (hareas : ∀ u ∈ units, 0 < u.2) {i : ChargeItemInput}
    (hi : i ∈ allocateByArea fl totalAmount units) :
    0 ≤ i.amount ∧ i.unitId ∈ units.map Prod.fst := by
  rw [allocateByArea, foldl_area_eq] at hi
  obtain ⟨share, hshare, rfl⟩ := List.mem_map.mp hi
  obtain ⟨k, hk, rfl⟩ := List.mem_mapIdx.mp hshare
  have hmem : units[k] ∈ units := List.getElem_mem hk
  have hweights : ∀ w ∈ units.map Prod.snd, 0 ≤ w := fun w hw => by
    obtain ⟨e, he, rfl⟩ := List.mem_map.mp hw
    exact (hareas e he).le
  have hexact : 0 ≤ roundedShare fl (totalAmount : ℚ) (units.map Prod.snd) units[k].2 :=
    hfl.roundedShare_nonneg hu (by exact_mod_cast h) hweights (hareas _ hmem).le
  have hfloor : 0 ≤ ⌊roundedShare fl (totalAmount : ℚ) (units.map Prod.snd) units[k].2⌋ :=
    Int.floor_nonneg.mpr hexact
  rw [roundedShare] at hfloor
  refine ⟨?_, List.mem_map.mpr ⟨units[k], hmem, rfl⟩⟩
  dsimp only
  split <;> omega

/-- The units a scope selects are among the given ones. -/
theorem mem_of_filterUnitsByScope {units selected : List BuildingUnit} {scope : ChargeUnitScope}
    {unitIds : Option (List ℕ)} (h : filterUnitsByScope units scope unitIds = .ok selected)
    {u : BuildingUnit} (hu : u ∈ selected) : u ∈ units := by
  cases scope with
  | all =>
    obtain rfl := Except.ok.inj h
    exact hu
  | ofType type =>
    obtain rfl := Except.ok.inj h
    exact List.mem_of_mem_filter hu
  | manual =>
    simp only [filterUnitsByScope] at h
    cases hcheck : ChargePolicy.assertUnitsBelongToBuilding (unitIds.getD [])
        (units.map BuildingUnit.id) with
    | error e =>
      rw [hcheck] at h
      exact absurd h (by simp [bind, Except.bind])
    | ok w =>
      rw [hcheck] at h
      obtain rfl := Except.ok.inj h
      exact List.mem_of_mem_filter hu

theorem Store.mem_listUnits {s : Store} {buildingId : ℕ} {u : BuildingUnit} :
    u ∈ s.listUnits buildingId ↔ u ∈ s.units ∧ u.buildingId = buildingId := by
  simp [Store.listUnits, List.mem_insertionSort, Table.mem_rows]

/-- The resolved items: amounts, and units of the building unless the charge is mixed. -/
theorem resolveChargeItems_ok {s : Store} {buildingId : ℕ} {dto : CreateChargeBatchDto}
    {r : ResolvedChargeItems} (h : resolveChargeItems s buildingId dto = .ok r) :
    (∀ i ∈ r.items, 0 ≤ i.amount) ∧ (dto.calculationMethod ≠ .mixed →
      ∀ i ∈ r.items, ∃ u ∈ s.units, u.id = i.unitId ∧ u.buildingId = buildingId) ∧
      (dto.calculationMethod = .mixed →
        r.items = (dto.items.getD []).map fun i => { unitId := i.1, amount := i.2 }) := by
  rw [resolveChargeItems] at h
  obtain ⟨w, -, h⟩ := except_bind_ok h
  cases hmethod : dto.calculationMethod with
  | mixed =>
    simp only [hmethod, Except.ok.injEq] at h
    obtain rfl := h
    -- the items of a MIXED request are taken as they are: nothing is known of their units
    refine ⟨fun i hi => ?_, fun hne => absurd rfl hne, fun _ => rfl⟩
    obtain ⟨x, hx, rfl⟩ := List.mem_map.mp hi
    cases hitems : dto.items with
    | none => rw [hitems] at hx; exact absurd hx List.not_mem_nil
    | some l =>
      rw [hitems] at hx
      exact (dto.items_pos l hitems x hx).le
  | fixed =>
    simp only [hmethod] at h
    obtain ⟨units, hunits, h⟩ := except_bind_ok h
    -- the scope only filters the units of the building
    have hmem : ∀ u ∈ units, u ∈ s.units ∧ u.buildingId = buildingId := fun u hu =>
      Store.mem_listUnits.mp (mem_of_filterUnitsByScope hunits hu)
    cases htotal : dto.totalAmount with
    | some totalAmount =>
      simp only [htotal, Except.ok.injEq] at h
      obtain rfl := h
      have hspec := fun i hi => @allocateEqually_spec totalAmount
        (dto.totalAmount_pos _ htotal).le (units.map BuildingUnit.id) i hi
      refine ⟨fun i hi => (hspec i hi).1, fun _ i hi => ?_, fun he => absurd he (by decide)⟩
      obtain ⟨u, hu, hid⟩ := List.mem_map.mp (hspec i hi).2
      exact ⟨u, (hmem u hu).1, hid, (hmem u hu).2⟩
    | none =>
      simp only [htotal, Except.ok.injEq] at h
      obtain rfl := h
      refine ⟨fun i hi => ?_, fun _ i hi => ?_, fun he => absurd he (by decide)⟩
      · obtain ⟨u, -, rfl⟩ := List.mem_map.mp hi
        cases hamount : dto.amountPerUnit with
        | none => exact le_rfl
        | some a => exact (dto.amountPerUnit_pos a hamount).le
      · obtain ⟨u, hu, rfl⟩ := List.mem_map.mp hi
        exact ⟨u, (hmem u hu).1, rfl, (hmem u hu).2⟩
  | areaBased =>
    simp only [hmethod] at h
    obtain ⟨units, hunits, h⟩ := except_bind_ok h
    have hmem : ∀ u ∈ units, u ∈ s.units ∧ u.buildingId = buildingId := fun u hu =>
      Store.mem_listUnits.mp (mem_of_filterUnitsByScope hunits hu)
    set areas := units.filterMap fun u =>
      (u.areaSqm.filter fun a => 0 < a).map fun a => (u.id, a) with hareas
    -- a unit without a positive area takes no part
    have harea : ∀ e ∈ areas, 0 < e.2 ∧ ∃ u ∈ units, u.id = e.1 := by
      intro e he
      obtain ⟨u, hu, hue⟩ := List.mem_filterMap.mp he
      obtain ⟨a, ha, rfl⟩ := Option.map_eq_some_iff.mp hue
      rw [Option.filter_eq_some_iff, decide_eq_true_eq] at ha
      exact ⟨ha.2, u, hu, rfl⟩
    cases htotal : dto.totalAmount with
    | some totalAmount =>
      simp only [htotal] at h
      obtain ⟨w', -, h⟩ := except_bind_ok h
      obtain rfl := Except.ok.inj h
      have hspec := fun (i : ChargeItemInput) hi =>
        allocateByArea_spec (i := i) binary64_roundsWithin (by norm_num)
          (dto.totalAmount_pos _ htotal).le (fun e he => (harea e he).1) hi
      refine ⟨fun i hi => (hspec i hi).1, fun _ i hi => ?_, fun he => absurd he (by decide)⟩
      obtain ⟨e, he, hid⟩ := List.mem_map.mp (hspec i hi).2
      obtain ⟨-, u, hu, hue⟩ := harea e he
      exact ⟨u, (hmem u hu).1, hue.trans hid, (hmem u hu).2⟩
    | none =>
      simp only [htotal, Except.ok.injEq] at h
      obtain rfl := h
      refine ⟨fun i hi => ?_, fun _ i hi => ?_, fun he => absurd he (by decide)⟩
      · obtain ⟨e, he, rfl⟩ := List.mem_map.mp hi
        have hrate : (0 : ℤ) ≤ dto.ratePerSqm.getD 0 := by
          cases hr : dto.ratePerSqm with
          | none => exact le_rfl
          | some a => exact (dto.ratePerSqm_pos a hr).le
        have hprod : (0 : ℚ) ≤ binary64 ((dto.ratePerSqm.getD 0 : ℚ) * e.2) :=
          binary64_nonneg (mul_nonneg (by exact_mod_cast hrate) (harea e he).1.le)
        dsimp only
        rw [round_eq]
        exact Int.floor_nonneg.mpr (by linarith)
      · obtain ⟨e, he, rfl⟩ := List.mem_map.mp hi
        obtain ⟨-, u, hu, hue⟩ := harea e he
        exact ⟨u, (hmem u hu).1, hue, (hmem u hu).2⟩

end VielHome.Finance
