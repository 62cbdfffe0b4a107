import VielHome.Finance.NetDebt

/-!
# Charges stay in their building

A charge batch of which every item is for a unit of the batch's building is isolated, and
while all batches are, nothing that is done for one building reaches the debt or the credit
of a unit of another one: the units of a batch, of a payment and of an adjustment all belong
to the building named in the call.

The items of a mixed charge are the exception that breaks isolation. The request lists them
itself, and no path compares their units with the building.
-/

namespace VielHome.Finance

open Relational

/-! ### Isolation from one store to the next -/

namespace Store

variable {s s' : Store}

/-- Items and batches that stay in place stay isolated. -/
theorem Isolated.of_terms (hiso : s.Isolated) (h : s.Valid) (hextends : s.Extends s')
    {i' : ChargeItem} {b' : ChargeBatch} (hb' : s'.batchOf i' = some b')
    (hitem : ∃ i ∈ s.chargeItems, i'.terms = i.terms) :
    s'.unitBuilding i'.unitId = some b'.buildingId := by
  obtain ⟨i, hi, hterms⟩ := hitem
  have hbatchId : i'.chargeBatchId = i.chargeBatchId :=
    (congrArg ChargeItem.chargeBatchId hterms :)
  have hunitId : i'.unitId = i.unitId := (congrArg ChargeItem.unitId hterms :)
  obtain ⟨b, hb, -⟩ := h.item_batch i hi
  obtain ⟨b'', hb'', hbatch⟩ := hextends.batch _ b hb
  have hsame : b'' = b' := by
    rw [batchOf, hbatchId] at hb'
    exact Option.some.inj (hb''.symm.trans hb')
  have hbuilding : b'.buildingId = b.buildingId := by
    rw [← hsame]
    exact (congrArg ChargeBatch.buildingId hbatch :)
  rw [hunitId, hbuilding]
  exact hextends.unit _ _ (hiso i hi b hb)

end Store

/-- The items of a store with a new batch are the old ones and those of the batch. -/
theorem Store.mem_withBatch {s : Store} {params : CreateChargeBatchParams} {now : Time}
    {i : ChargeItem} (hi : i ∈ (s.withBatch params now).chargeItems) :
    i ∈ s.chargeItems ∨ ∃ x ∈ params.items, i.unitId = x.unitId ∧
      (s.withBatch params now).batchOf i = some (params.row now s.chargeBatches.next) := by
  rcases Table.mem_createMany hi with hi | ⟨x, hx, n, -, rfl⟩
  · exact Or.inl hi
  · refine Or.inr ⟨x, hx, rfl, ?_⟩
    rw [batchOf, Store.withBatch, ChargeItemInput.row, Table.find?_create, if_pos rfl]

/-- The items after a settlement are the old ones. -/
theorem Store.terms_of_mem_settle {s : Store} {l : Settlement} {i' : ChargeItem}
    (hi' : i' ∈ (s.settle l).chargeItems) : ∃ i ∈ s.chargeItems, i'.terms = i.terms := by
  obtain ⟨i, hi, rfl⟩ := mem_settle_chargeItems.mp hi'
  exact ⟨i, hi, rfl⟩

/-- Only a new batch adds items. -/
theorem Call.Effect.items {now : Time} {s s' : Store} {c : Call} (heffect : c.Effect now s s')
    {i' : ChargeItem} (hi' : i' ∈ s'.chargeItems) :
    (∃ i ∈ s.chargeItems, i'.terms = i.terms) ∨
      ∃ params, c = .createChargeBatch params ∧ ∃ x ∈ params.items, i'.unitId = x.unitId ∧
        s'.batchOf i' = some (params.row now s.chargeBatches.next) := by
  cases heffect with
  | createChargeBatch params hperiod hunits =>
    rcases Store.mem_withBatch hi' with hi | ⟨x, hx, hunit, hbatch⟩
    · exact Or.inl ⟨i', hi, rfl⟩
    · exact Or.inr ⟨params, rfl, x, hx, hunit, hbatch⟩
  | issueChargeBatch params _ batch plan heffect =>
    rw [heffect.store_eq] at hi'
    exact Or.inl (Store.terms_of_mem_settle hi')
  | cancelChargeBatch params _ batch heffect =>
    rw [heffect.store_eq] at hi'
    exact Or.inl ⟨i', hi', rfl⟩
  | createAdjustment params => exact Or.inl (Store.terms_of_mem_settle hi')
  | applyOpeningBalanceCorrection params hdelta => exact Or.inl (Store.terms_of_mem_settle hi')
  | createExplicitPayment params _ fundId heffect =>
    rw [heffect.store_eq] at hi'
    exact Or.inl ⟨i', hi', rfl⟩
  | approvePayment params _ payment l heffect =>
    rw [heffect.store_eq] at hi'
    exact Or.inl (Store.terms_of_mem_settle hi')
  | reversePayment params _ payment heffect =>
    rw [heffect.store_eq] at hi'
    exact Or.inl (Store.terms_of_mem_settle hi')
  | _ => exact Or.inl ⟨i', hi', rfl⟩

/-! ### What a call does elsewhere -/

/-- An adjustment is for a unit of its building. -/
def Call.AtHome (s : Store) : Call → Prop
  | createAdjustment params => s.unitBuilding params.unitId = some params.buildingId
  | _ => True

theorem Call.AtHome.mono {s s' : Store} (h : s.Extends s') {c : Call} (hc : c.AtHome s) :
    c.AtHome s' := by
  cases c with
  | createAdjustment params => exact h.unit _ _ hc
  | _ => trivial

/-- Units of different buildings are different. -/
private theorem Store.elsewhere {s : Store} {unitId unitId' b b' : ℕ}
    (hb : s.unitBuilding unitId = some b) (hb' : s.unitBuilding unitId' = some b')
    (hne : some b' ≠ some b) : decide (unitId' = unitId) = false := by
  refine decide_eq_false fun heq => hne ?_
  rw [← hb', ← hb, heq]

/-- No item of an isolated batch is for a unit of another building. -/
theorem Store.Isolated.items_elsewhere {s : Store} (hiso : s.Isolated) {k : ℕ}
    {batch : ChargeBatch} (hfind : s.chargeBatches.find? k = some batch) {unitId b : ℕ}
    (hb : s.unitBuilding unitId = some b) (hne : some batch.buildingId ≠ some b) :
    ∀ i ∈ s.itemsOfBatch k, decide (i.unitId = unitId) = false := by
  intro i hi
  obtain ⟨hmem, hk⟩ := Store.mem_itemsOfBatch.mp hi
  have hbatch : s.batchOf i = some batch := by
    rw [Store.batchOf, hk]
    exact hfind
  exact Store.elsewhere hb (hiso i hmem batch hbatch) hne

theorem Store.Isolated.batchTotal_elsewhere {s : Store} (hiso : s.Isolated) {k : ℕ}
    {batch : ChargeBatch} (hfind : s.chargeBatches.find? k = some batch) {unitId b : ℕ}
    (hb : s.unitBuilding unitId = some b) (hne : some batch.buildingId ≠ some b) :
    s.batchTotal (fun u => u = unitId) k = 0 := by
  refine List.sum_eq_zero fun x hx => ?_
  obtain ⟨i, hi, rfl⟩ := List.mem_map.mp hx
  have hunit := hiso.items_elsewhere hfind hb hne i hi
  exact if_neg (by simpa using hunit)

/-- In an isolated store a call moves neither the net debt nor the credit of a unit that is
not in the building of the call. -/
theorem Call.Effect.elsewhere {now : Time} {s s' : Store} {c : Call}
    (heffect : c.Effect now s s') (h : s.Valid) (hiso : s.Isolated) (hc : c.Ok s)
    (hhome : c.AtHome s) {unitId b : ℕ} (hb : s.unitBuilding unitId = some b)
    (hne : c.buildingId ≠ some b) :
    (s'.figures fun u => u = unitId).netDebt = (s.figures fun u => u = unitId).netDebt ∧
      s'.credit (fun u => u = unitId) = s.credit fun u => u = unitId := by
  cases heffect with
  | createChargeBatch params hperiod hunits =>
    rw [h.figures_withBatch]
    exact ⟨rfl, rfl⟩
  | issueChargeBatch params _ batch plan heffect =>
    rw [Call.buildingId, ← heffect.building] at hne
    have hunits := hiso.items_elsewhere heffect.find hb hne
    have htotal := hiso.batchTotal_elsewhere heffect.find hb hne
    -- the credit spent by the plan is the credit of units of the batch's building
    have hspent : (plan.map fun e => if decide (e.1.unitId = unitId) then e.2 else 0).sum = 0 := by
      refine List.sum_eq_zero fun x hx => ?_
      obtain ⟨e, he, rfl⟩ := List.mem_map.mp hx
      rw [hunits e.1 (heffect.plan_ok.sublist.subset (List.mem_map_of_mem he))]
      rfl
    have hcredit := Store.CreditUnique.credit_creditApplied (p := fun u => decide (u = unitId))
      (s := s.setBatchStatus params.chargeBatchId .issued) h.credit_unique
      params.buildingId batch.fundId now heffect.plan_ok.credit
    rw [h.figures_issued heffect, htotal, add_zero, heffect.store_eq]
    refine ⟨rfl, hcredit.trans ?_⟩
    rw [hspent, sub_zero]
    rfl
  | cancelChargeBatch params _ batch heffect =>
    rw [Call.buildingId, ← heffect.building] at hne
    have htotal := hiso.batchTotal_elsewhere heffect.find hb hne
    rw [h.figures_cancelled heffect, htotal, ite_self, sub_zero, heffect.store_eq]
    exact ⟨rfl, rfl⟩
  | createAdjustment params =>
    -- a call that is at home moves the figures of units of its own building
    have hunit := Store.elsewhere hb hhome hne
    rw [h.figures_adjusted hc.2.2]
    simp only [hunit, Bool.false_eq_true, if_false, add_zero, true_and]
    rfl
  | applyOpeningBalanceCorrection params hdelta =>
    have hunit := Store.elsewhere hb hc.2 hne
    rw [h.figures_corrected, Store.CreditUnique.credit_corrected h.credit_unique]
    simp only [hunit, Bool.false_eq_true, if_false, false_and, add_zero, and_self]
  | createPayment params hfresh hceiling =>
    rw [Store.figures_withPayment]
    exact ⟨rfl, rfl⟩
  | createExplicitPayment params _ fundId heffect =>
    rw [Store.figures_withExplicitPayment heffect, heffect.store_eq]
    exact ⟨rfl, rfl⟩
  | approvePayment params _ payment l heffect =>
    obtain ⟨q, hq, hbuilding, hunit, -, hamount⟩ := hc
    obtain rfl : q = payment := Option.some.inj (hq.symm.trans heffect.find)
    have hhome := h.payment_unit q (Table.mem_of_find? hq)
    rw [hbuilding] at hhome
    have helsewhere := Store.elsewhere hb hhome hne
    rw [h.figures_approved heffect hunit hamount,
      Store.CreditUnique.credit_approved h.credit_unique heffect, ← hunit]
    simp only [helsewhere, Bool.false_eq_true, if_false, add_zero, sub_zero, and_self]
  | rejectPayment paymentId reason payment hfind hpending =>
    rw [Store.figures_rejected hfind hpending]
    exact ⟨rfl, rfl⟩
  | reversePayment params _ payment heffect =>
    obtain ⟨q, hq, hbuilding, -, -⟩ := hc
    obtain rfl : q = payment := Option.some.inj (hq.symm.trans heffect.find)
    have hhome := h.payment_unit q (Table.mem_of_find? hq)
    rw [hbuilding] at hhome
    have helsewhere := Store.elsewhere hb hhome hne
    rw [h.figures_reversed heffect, heffect.store_eq]
    simp only [helsewhere, Bool.false_eq_true, if_false, add_zero, true_and]
    rfl
  | _ => exact ⟨rfl, rfl⟩

/-- The total debt and the credit of a unit, from its figures. -/
theorem Store.Valid.snapshot_eq {s s' : Store} (h : s.Valid) (h' : s'.Valid) {unitId : ℕ}
    (hmove : (s'.figures fun u => u = unitId).netDebt = (s.figures fun u => u = unitId).netDebt ∧
      s'.credit (fun u => u = unitId) = s.credit fun u => u = unitId) :
    (s'.computeDebtSnapshot unitId).totalDebt = (s.computeDebtSnapshot unitId).totalDebt ∧
      (s'.computeDebtSnapshot unitId).creditBalance =
        (s.computeDebtSnapshot unitId).creditBalance := by
  obtain ⟨hnet, hcredit⟩ := hmove
  have hbefore := h.netDebt_eq unitId
  have hafter := h'.netDebt_eq unitId
  rw [h.creditBalance_eq] at hbefore ⊢
  rw [h'.creditBalance_eq] at hafter ⊢
  exact ⟨by omega, hcredit⟩

/-! ### Runs -/

namespace System

/-- A mixed charge that commits lists units of its own building. -/
def ChargesOwnUnits (S : System) : Event → Prop
  | .commit index _ =>
    match S.inFlight[index]? with
    | some (.createChargeBatch params) => params.calculationMethod = .mixed →
      ∀ i ∈ params.items, ∀ u ∈ S.store.units.find? i.unitId, u.buildingId = params.buildingId
    | _ => True
  | _ => True

instance : DecidableRel ChargesOwnUnits := fun S e => by
  unfold ChargesOwnUnits
  repeat' split
  all_goals infer_instance

/-- Isolation of the store, with what it says about the calls in flight. -/
structure Isolated (S : System) : Prop where
  inv : S.Inv
  store : S.store.Isolated
  calls : ∀ c ∈ S.inFlight, c.AtHome S.store

/-- An adjustment is requested for a unit of the building of the request. -/
theorem atHome_of_prepare {s s' : Store} (hs : s.Valid) {r : Request} {now : Time} {c : Call}
    (h : (r.prepare now).run s = (.ok c, s')) (hiso : s'.Isolated) : c.AtHome s' := by
  cases r with
  | createAdjustment b unitId dto actor =>
    obtain ⟨params, s₁, hparams, hc⟩ := Script.run_bind_ok.mp h
    obtain ⟨rfl, rfl⟩ := Script.run_pure_ok.mp hc
    obtain ⟨-, hbuilding, hunit⟩ := FinanceService.createAdjustment_ok hparams
    rw [Call.AtHome, hbuilding]
    exact hunit
  | applyLateFee b unitId chargeItemId actor =>
    obtain ⟨params, s₁, hparams, hc⟩ := Script.run_bind_ok.mp h
    obtain ⟨rfl, rfl⟩ := Script.run_pure_ok.mp hc
    obtain ⟨-, hbuilding, hunit⟩ := FinanceService.applyLateFee_ok hs hparams
    rw [Call.AtHome, hbuilding]
    exact hunit hiso
  | _ =>
    obtain ⟨params, s₁, -, hc⟩ := Script.run_bind_ok.mp h
    obtain ⟨rfl, -⟩ := Script.run_pure_ok.mp hc
    trivial

variable {S : System}

/-- A step that charges own units only keeps the store isolated. -/
theorem Isolated.storeStep (h : S.Isolated) {e : Event} (he : S.ChargesOwnUnits e) :
    (S.step e).store.Isolated := by
  have hvalid := h.inv.valid
  have hstep := h.inv.storeStep e
  have hrows := hstep.rows
  -- whatever leaves the charge items alone keeps them where they are
  have hkept : ∀ {s' : Store}, S.store.Extends s' → s'.chargeItems = S.store.chargeItems →
      s'.Isolated := by
    intro s' hextends hitems i hi b hb
    rw [hitems] at hi
    exact h.store.of_terms hvalid hextends hb ⟨i, hi, rfl⟩
  revert hstep hrows
  generalize (S.step e).store = s'
  intro hstep hrows
  cases hstep with
  | unchanged e => exact h.store
  | addBuilding => exact hkept hrows rfl
  | addUnit => exact hkept hrows rfl
  | updateUnit => exact hkept hrows rfl
  | request r now s' hfunds =>
    obtain ⟨funds, rfl⟩ := hfunds.funds_eq
    exact hkept hrows rfl
  | commit index now call hget heffect =>
    intro i hi b hb
    rcases heffect.items hi with hterms | ⟨params, rfl, x, hx, hunit, hbatch⟩
    · exact h.store.of_terms hvalid hrows hb hterms
    · -- a new item: the service chose its unit, or the request listed it
      obtain rfl : b = params.row now S.store.chargeBatches.next :=
        Option.some.inj (hb.symm.trans hbatch)
      have hitems := h.inv.calls _ (List.mem_of_getElem? hget)
      have hexists := (heffect.valid hvalid hitems).item_unit i hi
      rw [hunit]
      rw [hunit] at hexists
      refine hrows.unit _ _ ?_
      change S.store.unitBuilding x.unitId = some params.buildingId
      by_cases hmethod : params.calculationMethod = .mixed
      · have hunits : (Call.exec now S.store (.createChargeBatch params)).units =
            S.store.units := by
          generalize Call.exec now S.store (.createChargeBatch params) = s' at heffect
          cases heffect <;> rfl
        rw [FinanceService.unitBuilding_congr hunits, Store.unitBuilding, Option.isSome_map] at hexists
        obtain ⟨u, hu⟩ := Option.isSome_iff_exists.mp hexists
        rw [ChargesOwnUnits, hget] at he
        rw [Store.unitBuilding, hu, Option.map_some, he hmethod x hx u hu]
      · exact hitems.2.2.2 hmethod x hx

/-- A step to an isolated store is a step to an isolated system. -/
theorem Isolated.step_of_store (h : S.Isolated) {e : Event}
    (hstore : (S.step e).store.Isolated) : (S.step e).Isolated := by
  have hrows := (h.inv.storeStep e).rows
  refine ⟨h.inv.step e, hstore, fun c hc => ?_⟩
  rcases mem_inFlight_step hc with hc' | ⟨r, now, rfl⟩
  · exact (h.calls c hc').mono hrows
  · simp only [System.step, System.receive] at hc hstore hrows ⊢
    rcases hrun : (r.prepare now).run S.store with ⟨e | c', s'⟩ <;> rw [hrun] at hc hstore hrows
    · exact (h.calls c hc).mono hrows
    · rcases List.mem_append.mp hc with hc | hc
      · exact (h.calls c hc).mono hrows
      · obtain rfl := List.mem_singleton.mp hc
        exact atHome_of_prepare h.inv.valid hrun hstore

/-- A step that charges own units only keeps the system isolated. -/
theorem Isolated.step (h : S.Isolated) {e : Event} (he : S.ChargesOwnUnits e) :
    (S.step e).Isolated :=
  h.step_of_store (h.storeStep he)

theorem isolated_init : init.Isolated :=
  ⟨inv_init, fun _ hi => absurd hi Table.not_mem_empty, fun _ hc => absurd hc List.not_mem_nil⟩

/-- The system stays isolated in a run that charges own units only. -/
theorem isolated_of_eachStep (es : List Event)
    (h : EachStep System.step ChargesOwnUnits init es) :
    (runFrom System.step init es).Isolated :=
  runFrom_induction_of_eachStep (P := Isolated) (fun _ _ hS he => hS.step he) isolated_init h

/-- In building `0` a mixed charge lists the unit of building `1`, and is issued. -/
def strayCharge : List Event :=
  foundation ++
    [.addBuilding, .addUnit 1 "1" .residential none,
      .request (.createChargeBatch 0
        { title := "Repair", calculationMethod := .mixed, fundId := some 0,
          items := some [(1, 100)] } 7) 1, .commit 0 1,
      .request (.issueChargeBatch 0 0) 2, .commit 0 2]

end System

/-- In a run in which every mixed charge that commits lists units of its own building, every
item is for a unit of its batch's building. No call then creates debt for a unit of another
building than the one its request was authorised for, and none consumes the credit of such
a unit; a request itself moves neither. -/
theorem charges_isolated (es : List Event)
    (h : EachStep System.step System.ChargesOwnUnits System.init es) :
    let S := runFrom System.step System.init es
    (∀ i ∈ S.store.chargeItems, ∀ b, S.store.batchOf i = some b →
      S.store.unitBuilding i.unitId = some b.buildingId) ∧
    (∀ r now unitId,
      (S.receive r now).store.computeDebtSnapshot unitId = S.store.computeDebtSnapshot unitId) ∧
    ∀ c ∈ S.inFlight, ∃ r now, .request r now ∈ es ∧ System.LeadsTo r now c ∧
      ∀ now unitId b, S.store.unitBuilding unitId = some b → b ≠ r.buildingId →
        ((c.exec now S.store).computeDebtSnapshot unitId).totalDebt =
            (S.store.computeDebtSnapshot unitId).totalDebt ∧
          ((c.exec now S.store).computeDebtSnapshot unitId).creditBalance =
            (S.store.computeDebtSnapshot unitId).creditBalance := by
  intro S
  have hiso : S.Isolated := System.isolated_of_eachStep es h
  have hvalid := hiso.inv.valid
  refine ⟨hiso.store, fun r now unitId => ?_, fun c hc => ?_⟩
  · obtain ⟨funds, hstore⟩ := (hiso.inv.receive r now).1.funds_eq
    rw [hstore]
    rfl
  · obtain ⟨r, now, hr, hleads⟩ := System.requested_of_mem_inFlight hc
    refine ⟨r, now, hr, hleads, fun now unitId b hb hne => ?_⟩
    have hok := hiso.inv.calls c hc
    have heffect := Call.exec_effect hvalid hok now
    have hother : c.buildingId ≠ some b := fun hcb => hne (hleads.building hcb)
    exact hvalid.snapshot_eq (heffect.valid hvalid hok)
      (heffect.elsewhere hvalid hiso.store hok (hiso.calls c hc) hb hother)

/-- The approval of a payment in building `0` does not touch a unit of building `1`. -/
theorem charges_isolated_reported :
    EachStep System.step System.ChargesOwnUnits System.init System.reported ∧
      ∀ i ∈ (runFrom System.step System.init System.reported).store.chargeItems, ∀ b,
        (runFrom System.step System.init System.reported).store.batchOf i = some b →
        (runFrom System.step System.init System.reported).store.unitBuilding i.unitId =
          some b.buildingId := by
  have h : EachStep System.step System.ChargesOwnUnits System.init System.reported := by
    decide +kernel
  exact ⟨h, (charges_isolated System.reported h).1⟩

/-- A mixed charge of building `0` reaches a unit of building `1`, and puts it in debt. -/
theorem stray_charge :
    let S := runFrom System.step System.init System.strayCharge
    (∃ i ∈ S.store.chargeItems, ∃ b, S.store.batchOf i = some b ∧ b.buildingId = 0 ∧
      S.store.unitBuilding i.unitId = some 1) ∧
    (S.store.computeDebtSnapshot 1).totalDebt = 100 := by
  refine ⟨⟨{ id := 0, chargeBatchId := 0, unitId := 1, amount := 100, createdAt := 1 },
    List.mem_of_elem_eq_true (by decide +kernel), _, by exact rfl, ?_⟩, ?_⟩ <;> decide +kernel

end VielHome.Finance
