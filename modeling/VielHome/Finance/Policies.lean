import VielHome.Common.AppError
import VielHome.Common.Ranges
import VielHome.Finance.Schema
import Mathlib.Data.Rat.Floor

/-!
# Domain policies

The checks of the finance module that need no database: what a request must say, and which
status transitions are allowed. Each returns normally or throws.
-/

namespace VielHome.Finance

/-- Throw `e` unless `c` holds. -/
def check (c : Prop) [Decidable c] (e : Failure) : Except Failure PUnit :=
  if c then .ok ⟨⟩ else .error e

theorem check_ok {c : Prop} [Decidable c] {e : Failure} {a : PUnit} :
    check c e = .ok a ↔ c := by
  rw [check]
  split <;> simp [*]

/-- A check that passed and was followed by one that passed. -/
theorem except_bind_ok {α β : Type} {x : Except Failure α} {f : α → Except Failure β}
    {b : β} (h : (x >>= f) = .ok b) : ∃ a, x = .ok a ∧ f a = .ok b := by
  cases x with
  | error e => exact absurd h (by simp [bind, Except.bind])
  | ok a => exact ⟨a, rfl, h⟩

/-! ### Charges -/

/-- One day in milliseconds. -/
def dayMs : ℤ := 86400000

theorem pos_of_mem_none : ∀ a ∈ (none : Option ℤ), 0 < a := nofun

theorem nonneg_of_mem_none : ∀ a ∈ (none : Option ℤ), 0 ≤ a := nofun

theorem items_pos_of_mem_none : ∀ l ∈ (none : Option (List (ℕ × ℤ))), ∀ i ∈ l, 0 < i.2 := nofun

/-- `CreateChargeBatchDto`. The instants are the parsed date strings, and every amount that
the validators require to be positive is. -/
structure CreateChargeBatchDto where
  chargeKind : Option ChargeKind := none
  seriesId : Option ℕ := none
  fundId : Option ℕ := none
  title : String
  description : Option String := none
  calculationMethod : ChargeCalculationMethod
  amountPerUnit : Option ℤ := none
  ratePerSqm : Option ℤ := none
  totalAmount : Option ℤ := none
  items : Option (List (ℕ × ℤ)) := none
  periodStart : Option Time := none
  dueDate : Option Time := none
  unitScope : Option ChargeUnitScope := none
  unitIds : Option (List ℕ) := none
  payerType : Option ChargePayerType := none
  lateFeeType : Option LateFeeType := none
  lateFeeValue : Option ℤ := none
  lateFeeGraceDays : Option ℤ := none
  amountPerUnit_pos : ∀ a ∈ amountPerUnit, 0 < a := by first | exact pos_of_mem_none | decide
  ratePerSqm_pos : ∀ a ∈ ratePerSqm, 0 < a := by first | exact pos_of_mem_none | decide
  totalAmount_pos : ∀ a ∈ totalAmount, 0 < a := by first | exact pos_of_mem_none | decide
  items_pos : ∀ l ∈ items, ∀ i ∈ l, 0 < i.2 := by first | exact items_pos_of_mem_none | decide
  lateFeeValue_pos : ∀ v ∈ lateFeeValue, 0 < v := by first | exact pos_of_mem_none | decide
  lateFeeGraceDays_nonneg : ∀ d ∈ lateFeeGraceDays, 0 ≤ d := by
    first | exact nonneg_of_mem_none | decide

namespace ChargePolicy

/-- `assertValidClassification`. -/
def assertValidClassification (dto : CreateChargeBatchDto) : Except Failure PUnit :=
  match dto.chargeKind with
  | none =>
    check (dto.seriesId = none)
      (.businessRuleViolation "seriesId requires an explicit chargeKind.")
  | some .monthly => do
    check dto.seriesId.isSome (.businessRuleViolation "A MONTHLY charge requires seriesId.")
    check dto.periodStart.isSome
      (.businessRuleViolation "A MONTHLY charge requires periodStart.")
    check (∀ t ∈ dto.periodStart, t % dayMs = 0) (.businessRuleViolation
      "periodStart must be the canonical UTC boundary of the selected accounting period at 00:00:00.000Z.")
  | some _ =>
    check (dto.seriesId = none ∧ dto.periodStart = none) (.businessRuleViolation
      "seriesId and periodStart are only allowed for MONTHLY charges.")

/-- `assertValidUnitScopeInputs`. -/
def assertValidUnitScopeInputs (unitScope : Option ChargeUnitScope) (unitIds : Option (List ℕ)) :
    Except Failure PUnit :=
  if unitScope ≠ some .manual then .ok ⟨⟩
  else do
    check (unitIds.any fun l => l ≠ [])
      (.businessRuleViolation "unitScope MANUAL requires a non-empty unitIds array.")
    check (∀ l ∈ unitIds, l.Nodup) (.businessRuleViolation "unitIds must not contain duplicates.")

/-- The total or the legacy amount of a `FIXED` or `AREA_BASED` request, exactly one. -/
def assertOneAmount (total legacy : Option ℤ) (both noTotal neither : String) :
    Except Failure PUnit := do
  check (¬(total.isSome ∧ legacy.isSome)) (.businessRuleViolation both)
  match total with
  | some total => check (0 < total) (.businessRuleViolation noTotal)
  | none => check (legacy.any (0 < ·)) (.businessRuleViolation neither)

/-- `assertValidCalculationInputs`. -/
def assertValidCalculationInputs (dto : CreateChargeBatchDto) : Except Failure PUnit :=
  match dto.calculationMethod with
  | .fixed => do
    assertOneAmount dto.totalAmount dto.amountPerUnit
      "Send exactly one of totalAmount (preferred) or the legacy amountPerUnit for a FIXED charge batch, not both."
      "A FIXED charge batch requires a positive totalAmount."
      "A FIXED charge batch requires either a positive totalAmount or the legacy amountPerUnit."
    assertValidUnitScopeInputs dto.unitScope dto.unitIds
  | .areaBased => do
    assertOneAmount dto.totalAmount dto.ratePerSqm
      "Send exactly one of totalAmount (preferred) or the legacy ratePerSqm for an AREA_BASED charge batch, not both."
      "An AREA_BASED charge batch requires a positive totalAmount."
      "An AREA_BASED charge batch requires either a positive totalAmount or the legacy ratePerSqm."
    assertValidUnitScopeInputs dto.unitScope dto.unitIds
  | .mixed => do
    check (dto.unitScope = none ∧ dto.unitIds = none) (.businessRuleViolation
      "unitScope/unitIds cannot be combined with MIXED — unit selection there comes from items.")
    check (dto.totalAmount = none) (.businessRuleViolation
      "totalAmount cannot be combined with MIXED — its items already specify the exact total.")
    check (dto.items.any fun l => l ≠ [])
      (.businessRuleViolation "A MIXED charge batch requires at least one explicit item.")
    check (∀ l ∈ dto.items, ∀ i ∈ l, 0 < i.2)
      (.businessRuleViolation "Every MIXED charge item amount must be positive.")

/-- `assertUnitsBelongToBuilding`. -/
def assertUnitsBelongToBuilding (unitIds validUnitIds : List ℕ) : Except Failure PUnit :=
  let invalid := unitIds.filter fun id => id ∉ validUnitIds
  check (invalid = []) (.businessRuleViolation
    ("One or more selected units do not belong to this building: " ++
      ", ".intercalate (invalid.map toString)))

/-- `assertIssuable`. -/
def assertIssuable (status : ChargeBatchStatus) (totalAmount : ℤ) : Except Failure PUnit := do
  check (status = .draft) (.businessRuleViolation "Only a DRAFT charge batch can be issued.")
  check (0 < totalAmount)
    (.businessRuleViolation "A charge batch with no charge items cannot be issued.")

/-- `assertValidAdjustmentAmount`. -/
def assertValidAdjustmentAmount (amount : ℤ) : Except Failure PUnit :=
  check (amount ≠ 0) (.businessRuleViolation "An adjustment amount must be non-zero.")

/-- The end of the days of grace, which may be no `Date`. -/
def eligibleFrom (dueDate : Time) (lateFeeGraceDays : Option ℤ) : Time :=
  dueDate + lateFeeGraceDays.getD 0 * dayMs

/-- `computeLateFeeEligibility`: the fee that may be charged on an item at `now`. A comparison with
an invalid date is false, so that nothing has to be waited for then. -/
def computeLateFeeEligibility (batch : ChargeBatch) (now : Time)
    (itemAmount itemPaidAmount : ℤ) (alreadyApplied : Bool) : Option ℤ :=
  if batch.status ≠ .issued then none
  else
    match batch.lateFeeType, batch.lateFeeValue, batch.dueDate with
    | some lateFeeType, some lateFeeValue, some dueDate =>
      if lateFeeValue = 0 then none
      else if alreadyApplied then none
      else if itemAmount - itemPaidAmount ≤ 0 then none
      else if IsDate (eligibleFrom dueDate batch.lateFeeGraceDays) ∧
          now < eligibleFrom dueDate batch.lateFeeGraceDays then none
      else
        match lateFeeType with
        | .fixed => some lateFeeValue
        | .percentage => some (round ((itemAmount * lateFeeValue : ℚ) / 100))
    | _, _, _ => none

end ChargePolicy

/-! ### Charge kinds and funds -/

namespace ChargeFundAlignmentPolicy

/-- `compatibleFundTypes`. -/
def compatibleFundTypes : ChargeKind → List FundType
  | .monthly => [.current]
  | .reserve => [.reserve]
  | .repair => [.renovation]
  | .emergency => [.emergency]
  | .insurance => [.insurance]
  | .special => []
  | .other => [.custom]

/-- `isFundCompatible`. -/
def isFundCompatible (chargeKind : ChargeKind) (fundType : FundType) : Bool :=
  fundType ∈ compatibleFundTypes chargeKind

/-- `assertSupportedForNewCreation`. -/
def assertSupportedForNewCreation (chargeKind : ChargeKind) : Except Failure PUnit :=
  check (chargeKind ≠ .special) (.deprecatedChargeKind
    "SPECIAL is a legacy charge type and cannot be used for new charges.")

/-- The kind as the error details spell it. -/
def kindString : ChargeKind → String
  | .monthly => "MONTHLY"
  | .reserve => "RESERVE"
  | .repair => "REPAIR"
  | .emergency => "EMERGENCY"
  | .insurance => "INSURANCE"
  | .special => "SPECIAL"
  | .other => "OTHER"

/-- The fund type as the error details spell it. -/
def fundTypeString : FundType → String
  | .current => "CURRENT"
  | .reserve => "RESERVE"
  | .emergency => "EMERGENCY"
  | .renovation => "RENOVATION"
  | .insurance => "INSURANCE"
  | .custom => "CUSTOM"

/-- `assertFundCompatible`. -/
def assertFundCompatible (chargeKind : ChargeKind) (fundType : FundType) :
    Except Failure PUnit := do
  assertSupportedForNewCreation chargeKind
  check (isFundCompatible chargeKind fundType) (.incompatibleChargeFund
    "The selected fund is not compatible with this charge type."
    [("chargeKind", kindString chargeKind), ("fundType", fundTypeString fundType)])

end ChargeFundAlignmentPolicy

/-! ### Funds, payments and expenses -/

namespace FundPolicy

/-- `assertDeactivatable`. -/
def assertDeactivatable (isDefault : Bool) : Except Failure PUnit :=
  check (¬ isDefault) (.businessRuleViolation
    "The default fund cannot be deactivated. Mark a different fund as default first.")

/-- `assertActive`. -/
def assertActive (isActive : Bool) : Except Failure PUnit :=
  check isActive (.businessRuleViolation "This fund is deactivated and cannot be modified.")

end FundPolicy

namespace PaymentPolicy

/-- The status as the error messages spell it. -/
def statusString : PaymentStatus → String
  | .pendingApproval => "PENDING_APPROVAL"
  | .approved => "APPROVED"
  | .rejected => "REJECTED"
  | .reversed => "REVERSED"
  | .refunded => "REFUNDED"

/-- `assertPositiveAmount`. -/
def assertPositiveAmount (amount : ℤ) : Except Failure PUnit :=
  check (0 < amount) (.businessRuleViolation "A payment amount must be positive.")

/-- `assertPending`. -/
def assertPending (status : PaymentStatus) : Except Failure PUnit :=
  check (status = .pendingApproval) (.businessRuleViolation
    ("This payment has already been " ++ (statusString status).toLower ++ "."))

/-- `assertReversible`. -/
def assertReversible (status : PaymentStatus) : Except Failure PUnit :=
  check (status = .approved) (.businessRuleViolation
    ("Only an APPROVED payment can be reversed (this one is " ++ statusString status ++ ")."))

/-- `assertRefundable`. -/
def assertRefundable (status : PaymentStatus) (refundAmount paymentAmount : ℤ)
    (alreadyRefunded : Bool) : Except Failure PUnit := do
  check (status = .approved) (.businessRuleViolation
    ("Only an APPROVED payment can be refunded (this one is " ++ statusString status ++ ")."))
  check (¬ alreadyRefunded) (.businessRuleViolation "This payment has already been refunded.")
  check (0 < refundAmount) (.businessRuleViolation "A refund amount must be positive.")
  check (refundAmount ≤ paymentAmount)
    (.businessRuleViolation "A refund cannot exceed the original payment amount.")

end PaymentPolicy

namespace ExpensePolicy

/-- `assertValidAmount`. -/
def assertValidAmount (amount : ℤ) : Except Failure PUnit :=
  check (0 < amount) (.businessRuleViolation "An expense amount must be a positive integer.")

/-- `assertSufficientFundBalance`. -/
def assertSufficientFundBalance (fundBalance amount : ℤ) : Except Failure PUnit :=
  check (amount ≤ fundBalance)
    (.businessRuleViolation "This expense's amount exceeds the fund's current balance.")

/-- `assertVoidable`. -/
def assertVoidable (status : ExpenseStatus) : Except Failure PUnit :=
  check (status ≠ .voided) (.businessRuleViolation "This expense has already been voided.")

end ExpensePolicy

end VielHome.Finance
