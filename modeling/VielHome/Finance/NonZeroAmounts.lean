import VielHome.Finance.LateFees

/-!
# Amounts that are not zero

An adjustment of nothing is rejected where an adjustment is requested, and where the correction of an
opening balance makes no difference; but a late fee is computed, and a small percentage of a small
item rounds to nothing. So no adjustment and no ledger entry is of zero as long as the late fees that
are requested by percentage are of half a unit of money at least (`nonZero_of_eachStep`).
-/

namespace VielHome.Finance

open Relational

/-- No adjustment, no ledger entry and no expense is of zero. -/
structure Store.NonZero (s : Store) : Prop where
  adjustments : ∀ a ∈ s.adjustments, a.amount ≠ 0
  ledger : ∀ e ∈ s.ledger, e.amount ≠ 0
  expenses : ∀ e ∈ s.expenses, e.amount ≠ 0

/-- The amount of an adjustment or an expense that is in flight is not zero. -/
def Call.NonZero : Call → Prop
  | createAdjustment params => params.amount ≠ 0
  | createExpense params => params.amount ≠ 0
  | _ => True

namespace Store

variable {s : Store}

/-- Settling writes what was paid, and no amount. -/
theorem NonZero.settle (h : s.NonZero) (l : Settlement) : (s.settle l).NonZero := by
  refine ⟨fun a ha => ?_, h.ledger, h.expenses⟩
  obtain ⟨r, hr, rfl⟩ := mem_settle_adjustments.mp ha
  exact h.adjustments r hr

/-- Rows that are not zero, and one more. -/
theorem forall_ne_create {ρ : Type} {key : ρ → ℕ} {t : Table ρ key} {amount : ρ → ℤ}
    (hrows : ∀ r ∈ t, amount r ≠ 0) {row : ℕ → ρ} {h : ∀ id, key (row id) = id}
    (hamount : amount (row t.next) ≠ 0) : ∀ r ∈ t.create row h, amount r ≠ 0 := by
  intro r hr
  rcases Table.mem_create.mp hr with hr | rfl
  · exact hrows r hr
  · exact hamount

end Store

/-- The effect of a call leaves no zero behind. -/
theorem Call.Effect.nonZero {now : Time} {s s' : Store} {c : Call} (heffect : c.Effect now s s')
    (hvalid : s.Valid) (hc : c.Ok s) (hcall : c.NonZero) (h : s.NonZero) : s'.NonZero := by
  cases heffect with
  | unchanged => exact h
  | createFund params =>
    refine ⟨h.adjustments, ?_, h.expenses⟩
    rw [Store.withFund]
    dsimp only
    split
    · rename_i hopening
      exact Store.forall_ne_create (h := fun _ => rfl) h.ledger hopening.ne'
    · exact h.ledger
  | issueChargeBatch params _ batch plan heffect =>
    rw [heffect.store_eq]
    -- settling items changes what is paid, never an amount
    have hsettled := (show (s.setBatchStatus params.chargeBatchId .issued).NonZero from
      ⟨h.adjustments, h.ledger, h.expenses⟩).settle (itemSettlement plan)
    refine ⟨hsettled.adjustments, Store.forall_ne_create (h := fun _ => rfl) (fun e he => ?_)
      heffect.total_pos.ne', hsettled.expenses⟩
    rcases Table.mem_createMany (h := fun _ _ => rfl) he with he | ⟨x, hx, n, -, rfl⟩
    · exact h.ledger e he
    · exact (heffect.plan_ok.bounds x hx).1.ne'
  | createAdjustment params =>
    exact ⟨Store.forall_ne_create (h := fun _ => rfl) h.adjustments hcall,
      Store.forall_ne_create (h := fun _ => rfl) h.ledger (abs_ne_zero.mpr hcall), h.expenses⟩
  | applyOpeningBalanceCorrection params hdelta =>
    exact ⟨Store.forall_ne_create (h := fun _ => rfl) (h.settle _).adjustments hdelta,
      Store.forall_ne_create (h := fun _ => rfl) h.ledger (abs_ne_zero.mpr hdelta), h.expenses⟩
  | approvePayment params _ payment l heffect =>
    -- the entry has the amount of the payment, which is positive
    obtain ⟨p, hp, -, -, -, hamount⟩ := hc
    have hpos := hvalid.payment_pos p (Table.mem_of_find? hp)
    rw [heffect.store_eq]
    exact ⟨(h.settle l).adjustments,
      Store.forall_ne_create (h := fun _ => rfl) h.ledger (hamount ▸ hpos.ne'), h.expenses⟩
  | reversePayment params _ payment heffect =>
    obtain ⟨p, hp, -, -, hamount⟩ := hc
    have hpos := hvalid.payment_pos p (Table.mem_of_find? hp)
    rw [heffect.store_eq]
    exact ⟨(h.settle _).adjustments,
      Store.forall_ne_create (h := fun _ => rfl) h.ledger (hamount ▸ hpos.ne'), h.expenses⟩
  | createExpense params =>
    exact ⟨h.adjustments, Store.forall_ne_create (h := fun _ => rfl) h.ledger hcall,
      Store.forall_ne_create (h := fun _ => rfl) h.expenses hcall⟩
  | voidExpense params =>
    obtain ⟨e, he, -, -, hamount⟩ := hc
    refine ⟨h.adjustments, Store.forall_ne_create (h := fun _ => rfl) h.ledger
      (hamount ▸ h.expenses e (Table.mem_of_find? he)), fun e' he' => ?_⟩
    obtain ⟨r, hr, rfl⟩ :=
      (Table.mem_modify (f := params.void now) (h := fun _ => rfl)).mp he'
    split
    · exact h.expenses r hr
    · exact h.expenses r hr
  | cancelChargeBatch params _ batch heffect =>
    rw [heffect.store_eq]
    exact ⟨h.adjustments, h.ledger, h.expenses⟩
  | createExplicitPayment params _ fundId heffect =>
    rw [heffect.store_eq]
    exact ⟨h.adjustments, h.ledger, h.expenses⟩
  | _ => exact ⟨h.adjustments, h.ledger, h.expenses⟩

namespace System

/-! ### Runs -/

/-- A late fee that is requested by percentage, and allowed, is of half a unit of money at least. -/
def FeesRoundUp (S : System) : Event → Prop
  | .request (.applyLateFee _ _ chargeItemId _) now =>
    ∀ item, S.store.chargeItems.find? chargeItemId = some item →
      (S.store.lateFee now item).isSome → ∀ batch, S.store.batchOf item = some batch →
        batch.lateFeeType = some .percentage → ∀ value, batch.lateFeeValue = some value →
          50 ≤ item.amount * value
  | _ => True

instance : DecidableRel FeesRoundUp := fun S e => by
  unfold FeesRoundUp
  split <;> infer_instance

/-- Nothing is zero, and nothing in flight will be. -/
structure NonZero (S : System) : Prop where
  inv : S.Inv
  store : S.store.NonZero
  calls : ∀ c ∈ S.inFlight, c.NonZero

variable {S : System}

/-- A fee that the policy allows is not zero, if a percentage of the item is half a unit at
least. -/
theorem lateFee_ne_zero {s : Store} {now : Time} {item : ChargeItem} {fee : ℤ}
    (h : s.lateFee now item = some fee)
    (hround : ∀ batch, s.batchOf item = some batch → batch.lateFeeType = some .percentage →
      ∀ value, batch.lateFeeValue = some value → 50 ≤ item.amount * value) : fee ≠ 0 := by
  obtain ⟨batch, hbatch, h⟩ := Option.bind_eq_some_iff.mp h
  rw [ChargePolicy.computeLateFeeEligibility] at h
  split at h
  · cases h
  · split at h
    · rename_i type value dueDate htype hvalue hdue
      split at h
      · cases h
      · rename_i hne
        -- the last three reasons against a fee
        iterate 3
          split at h
          · cases h
        cases type with
        | fixed =>
          obtain rfl := Option.some.inj h
          exact hne
        | percentage =>
          obtain rfl := Option.some.inj h
          have hhalf : (50 : ℚ) ≤ item.amount * value := by
            exact_mod_cast hround batch hbatch htype value hvalue
          have hone : (1 : ℤ) ≤ round ((item.amount * value : ℚ) / 100) := by
            rw [round_eq, Int.le_floor, Int.cast_one]
            linarith
          exact (lt_of_lt_of_le one_pos hone).ne'
    · cases h

/-- What is requested is not zero. -/
theorem nonZero_of_prepare {r : Request} {now : Time} {c : Call} {s' : Store}
    (h : (r.prepare now).run S.store = (.ok c, s')) (hfees : S.FeesRoundUp (.request r now)) :
    c.NonZero := by
  cases r with
  | createAdjustment b unitId dto actor =>
    obtain ⟨params, s₁, hparams, hc⟩ := Script.run_bind_ok.mp h
    obtain ⟨rfl, rfl⟩ := Script.run_pure_ok.mp hc
    simp only [FinanceService.createAdjustment, Script.run_bind_ok, Script.run_pure_ok] at hparams
    obtain ⟨u, s₂, -, w, s₃, -, fund, s₄, -, rfl, -⟩ := hparams
    exact dto.amount_ne_zero
  | applyLateFee b unitId chargeItemId actor =>
    obtain ⟨params, s₁, hparams, hc⟩ := Script.run_bind_ok.mp h
    obtain ⟨rfl, rfl⟩ := Script.run_pure_ok.mp hc
    obtain ⟨item, _, hitem, -, -, -, hfee, -⟩ := Store.applyLateFee_ok hparams
    refine lateFee_ne_zero hfee (hfees item hitem ?_)
    rw [hfee]
    rfl
  | createExpense b dto actor =>
    obtain ⟨params, s₁, hparams, hc⟩ := Script.run_bind_ok.mp h
    obtain ⟨rfl, rfl⟩ := Script.run_pure_ok.mp hc
    simp only [FinanceService.createExpense, Script.run_bind_ok, Script.run_pure_ok] at hparams
    obtain ⟨b, s₂, -, w, s₃, -, fund, s₄, -, w', s₅, -, rfl, -⟩ := hparams
    exact dto.amount_pos.ne'
  | _ =>
    obtain ⟨params, s₁, -, hc⟩ := Script.run_bind_ok.mp h
    obtain ⟨rfl, -⟩ := Script.run_pure_ok.mp hc
    trivial

theorem nonZero_init : init.NonZero :=
  ⟨inv_init, ⟨fun _ h => absurd h Table.not_mem_empty, fun _ h => absurd h Table.not_mem_empty,
    fun _ h => absurd h Table.not_mem_empty⟩, fun _ hc => absurd hc List.not_mem_nil⟩

/-- A step whose fees round up leaves no zero behind. -/
theorem NonZero.step (h : S.NonZero) {e : Event} (he : S.FeesRoundUp e) : (S.step e).NonZero := by
  have hstep := h.inv.storeStep e
  refine ⟨h.inv.step e, ?_, fun c hc => ?_⟩
  · revert hstep
    generalize (S.step e).store = s'
    intro hstep
    cases hstep with
    | request r now s' hkept =>
      obtain ⟨funds, rfl⟩ := hkept.funds_eq
      exact ⟨h.store.adjustments, h.store.ledger, h.store.expenses⟩
    | commit index now call hget heffect =>
      have hmem := List.mem_of_getElem? hget
      exact heffect.nonZero h.inv.valid (h.inv.calls call hmem) (h.calls call hmem) h.store
    | _ => exact ⟨h.store.adjustments, h.store.ledger, h.store.expenses⟩
  · rcases mem_inFlight_step hc with hold | ⟨r, now, rfl⟩
    · exact h.calls c hold
    · simp only [System.step, System.receive] at hc
      rcases hrun : (r.prepare now).run S.store with ⟨_ | c', s'⟩ <;> rw [hrun] at hc
      · exact h.calls c hc
      · rcases List.mem_append.mp hc with hold | hnew
        · exact h.calls c hold
        · obtain rfl := List.mem_singleton.mp hnew
          exact nonZero_of_prepare hrun he

/-- In a run in which every late fee that is requested by percentage, and allowed, is of half a unit
of money at least, no adjustment and no ledger entry is ever of zero. -/
theorem nonZero_of_eachStep (es : List Event) (h : EachStep System.step FeesRoundUp init es) :
    (runFrom System.step init es).store.NonZero :=
  (runFrom_induction_of_eachStep (P := NonZero) (fun _ _ hS he => hS.step he) nonZero_init h).store

/-- The late fee of the charge of 100 is booked. -/
def overdueApplied : List Event :=
  overdue ++ [.request (.applyLateFee 0 0 0 7) 3, .commit 0 3]

theorem nonZero_of_eachStep_overdueApplied :
    EachStep System.step FeesRoundUp init overdueApplied ∧
      (runFrom System.step init overdueApplied).store.NonZero := by
  have h : EachStep System.step FeesRoundUp init overdueApplied := by decide +kernel
  exact ⟨h, nonZero_of_eachStep overdueApplied h⟩

/-- A charge of 4 with a late fee of ten percent. -/
def smallCharge : CreateChargeBatchDto :=
  { title := "Copies", calculationMethod := .mixed, fundId := some 0, items := some [(0, 4)],
    dueDate := some 0, lateFeeType := some .percentage, lateFeeValue := some 10 }

/-- The late fee of the charge of 4 is booked. -/
def smallFee : List Event :=
  foundation ++
    [.request (.createChargeBatch 0 smallCharge 7) 1, .commit 0 1,
      .request (.issueChargeBatch 0 0) 2, .commit 0 2,
      .request (.applyLateFee 0 0 0 7) 3, .commit 0 3]

/-- Ten percent of 4 round to nothing, and the adjustment and its entry are of zero. -/
theorem not_nonZero_smallFee :
    ¬ (∀ a ∈ (runFrom System.step init smallFee).store.adjustments, a.amount ≠ 0) ∧
      ¬ ∀ e ∈ (runFrom System.step init smallFee).store.ledger, e.amount ≠ 0 := by
  constructor <;> decide +kernel

end System

end VielHome.Finance
