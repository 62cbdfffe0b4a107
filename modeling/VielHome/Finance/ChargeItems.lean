import VielHome.Finance.Policies
import VielHome.Finance.Repository.Charges
import VielHome.Numeric.Rounding

/-!
# Resolving the items of a charge

How a request for a charge becomes a list of units and amounts: the units in scope, and the
division of a total among them, equally or in proportion to their areas. Areas are doubles, so
every operation on them is rounded.
-/

namespace VielHome.Finance

open Relational Numeric

/-- `allocateEqually`: the floor for everyone and one more for the first `remainder` units. -/
def allocateEqually (totalAmount : ℤ) (unitIds : List ℕ) : List ChargeItemInput :=
  let n : ℤ := unitIds.length
  let base := totalAmount / n
  let remainder := totalAmount - base * n
  unitIds.mapIdx fun index unitId =>
    { unitId, amount := if (index : ℤ) < remainder then base + 1 else base }

/-- One unit's share of a total that is divided by area. -/
structure AreaShare where
  unitId : ℕ
  index : ℕ
  floorAmount : ℤ
  fraction : ℚ

/-- The order in which the leftover is handed out: largest fraction first, then position. -/
def AreaShare.byRemainderDesc (a b : AreaShare) : Prop :=
  if a.fraction ≠ b.fraction then b.fraction < a.fraction else a.index ≤ b.index

instance : DecidableRel AreaShare.byRemainderDesc := fun a b => by
  unfold AreaShare.byRemainderDesc
  infer_instance

/-- `Array.prototype.slice` from the start: a negative `stop` counts from the end. -/
def slice {α : Type} (l : List α) (stop : ℤ) : List α :=
  l.take (if stop < 0 then l.length + stop else stop).toNat

/-- `allocateByArea`: floors in proportion to the areas, and the leftover one by one to the
largest remainders. Each result of an operation on areas is rounded by `fl`, which is `binary64` in
the code and `id` in exact arithmetic; the amounts are integers, and their sums are exact. -/
def allocateByArea (fl : ℚ → ℚ) (totalAmount : ℤ) (units : List (ℕ × ℚ)) : List ChargeItemInput :=
  let totalArea := units.foldl (fun sum u => fl (sum + u.2)) 0
  let shares : List AreaShare := units.mapIdx fun index u =>
    let exact := fl (fl (totalAmount * u.2) / totalArea)
    { unitId := u.1, index, floorAmount := ⌊exact⌋, fraction := fl (exact - ⌊exact⌋) }
  let allocated := (shares.map AreaShare.floorAmount).sum
  let leftover := totalAmount - allocated
  let bonusUnitIds :=
    (slice (shares.insertionSort AreaShare.byRemainderDesc) leftover).map AreaShare.unitId
  shares.map fun s =>
    { unitId := s.unitId, amount := s.floorAmount + if s.unitId ∈ bonusUnitIds then 1 else 0 }

/-- `listUnits`: the units of a building by unit number. -/
def Store.listUnits (s : Store) (buildingId : ℕ) : List BuildingUnit :=
  (s.units.rows.filter fun u => u.buildingId = buildingId).insertionSort fun u v =>
    u.unitNumber ≤ v.unitNumber

/-- `filterUnitsByScope`. -/
def filterUnitsByScope (units : List BuildingUnit) (scope : ChargeUnitScope)
    (unitIds : Option (List ℕ)) : Except Failure (List BuildingUnit) :=
  match scope with
  | .all => .ok units
  | .manual => do
    let unitIds := unitIds.getD []
    ChargePolicy.assertUnitsBelongToBuilding unitIds (units.map BuildingUnit.id)
    .ok (units.filter fun u => u.id ∈ unitIds)
  | .ofType type => .ok (units.filter fun u => u.type = type)

/-- What `resolveChargeItems` returns. -/
structure ResolvedChargeItems where
  items : List ChargeItemInput
  effectiveUnitScope : Option ChargeUnitScope
  areaUnitsSkippedForMissingArea : ℕ

/-- `resolveChargeItems`. -/
def resolveChargeItems (s : Store) (buildingId : ℕ) (dto : CreateChargeBatchDto) :
    Except Failure ResolvedChargeItems := do
  ChargePolicy.assertValidCalculationInputs dto
  match dto.calculationMethod with
  | .mixed =>
    .ok
      { items := (dto.items.getD []).map fun i => { unitId := i.1, amount := i.2 }
        effectiveUnitScope := none
        areaUnitsSkippedForMissingArea := 0 }
  | .fixed =>
    let scope := dto.unitScope.getD .all
    let units ← filterUnitsByScope (s.listUnits buildingId) scope dto.unitIds
    match dto.totalAmount with
    | some totalAmount =>
      .ok
        { items := allocateEqually totalAmount (units.map BuildingUnit.id)
          effectiveUnitScope := some scope
          areaUnitsSkippedForMissingArea := 0 }
    | none =>
      .ok
        { items := units.map fun u => { unitId := u.id, amount := dto.amountPerUnit.getD 0 }
          effectiveUnitScope := some scope
          areaUnitsSkippedForMissingArea := 0 }
  | .areaBased =>
    let scope := dto.unitScope.getD .all
    let units ← filterUnitsByScope (s.listUnits buildingId) scope dto.unitIds
    let unitsWithArea := units.filterMap fun u =>
      (u.areaSqm.filter fun a => 0 < a).map fun a => (u.id, a)
    let skipped := units.length - unitsWithArea.length
    match dto.totalAmount with
    | some totalAmount => do
      check (unitsWithArea ≠ []) (.businessRuleViolation
        ("An AREA_BASED charge batch requires at least one in-scope unit with a positive area configured; 0 of " ++
          toString units.length ++ " in-scope unit(s) have area set."))
      .ok
        { items := allocateByArea binary64 totalAmount unitsWithArea
          effectiveUnitScope := some scope
          areaUnitsSkippedForMissingArea := skipped }
    | none =>
      .ok
        { items := unitsWithArea.map fun u =>
            { unitId := u.1, amount := round (binary64 ((dto.ratePerSqm.getD 0 : ℚ) * u.2)) }
          effectiveUnitScope := some scope
          areaUnitsSkippedForMissingArea := skipped }

end VielHome.Finance
