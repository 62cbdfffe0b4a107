import VielHome.Finance.LateFees

/-!
# Late fees in flight

`applyLateFee` asks the policy first and books the fee in a later transaction, which looks at the
status of the batch again and not at what is left to pay. The batch of an item is never reopened or
closed once it was issued, so a booked fee is for an issued batch; and it is for an item with
something left to pay as long as nothing settles the item meanwhile (`booksOnOpen_of_keepsOpen`).
-/

namespace VielHome.Finance

open Relational

namespace Store

/-- Something is left to pay of the item. -/
def isOpen (s : Store) (chargeItemId : ℕ) : Bool :=
  (s.chargeItems.find? chargeItemId).any fun i => 0 < i.amount - i.paidAmount

/-- The item is in an issued batch. -/
def isIssued (s : Store) (chargeItemId : ℕ) : Bool :=
  ((s.chargeItems.find? chargeItemId).bind s.batchOf).any fun b => b.status = .issued

/-- No two late fees are for one item. -/
def LateFeeUnique (s : Store) : Prop :=
  ∀ a ∈ s.adjustments, ∀ a' ∈ s.adjustments, a.sourceType = some .lateFee →
    a'.sourceType = some .lateFee → ∀ id, a.sourceId = some id → a'.sourceId = some id → a = a'

/-- No batch is closed: nothing closes one. -/
def NoneClosed (s : Store) : Prop := ∀ b ∈ s.chargeBatches, b.status ≠ .closed

end Store

/-- The item that a call books a late fee on. -/
def Call.lateFeeItem : Call → Option ℕ
  | createAdjustment params => if params.sourceType = some .lateFee then params.sourceId else none
  | _ => none

/-- The late fee that a call books is on an item with something left to pay. -/
def Call.OnOpen (s : Store) : Call → Prop
  | createAdjustment params => params.sourceType = some .lateFee →
    ∃ id, params.sourceId = some id ∧ s.isOpen id
  | _ => True

namespace System

/-- No item is settled while a late fee for it is in flight. -/
def KeepsOpen (S : System) (e : Event) : Prop :=
  ∀ c ∈ S.inFlight, ∀ id, c.lateFeeItem = some id → S.store.isOpen id → (S.step e).store.isOpen id

instance : DecidableRel KeepsOpen := fun S e => by
  unfold KeepsOpen
  infer_instance

/-- A late fee that is booked is for an item of an issued batch with something left to pay. -/
def BooksOnOpen (S : System) (e : Event) : Prop :=
  ∀ a ∈ (S.step e).store.adjustments, (∀ r ∈ S.store.adjustments, r.id ≠ a.id) →
    a.sourceType = some .lateFee →
      ∃ id, a.sourceId = some id ∧ S.store.isIssued id ∧ S.store.isOpen id

end System

variable {s s' : Store} {now : Time}

theorem Store.isLateFeeSource_iff {unitId chargeItemId : ℕ} :
    s.isLateFeeSource unitId chargeItemId ↔
      ∃ item, s.chargeItems.find? chargeItemId = some item ∧ item.unitId = unitId ∧
        s.isBilled item := by
  simp [isLateFeeSource, Option.any_eq_true]

theorem Store.isBilled_iff {item : ChargeItem} :
    s.isBilled item ↔
      ∃ batch, s.batchOf item = some batch ∧ (batch.status = .issued ∨ batch.status = .closed) := by
  simp [isBilled, ChargeBatchStatus.isBilled, Option.any_eq_true]

/-! ### What a call does -/

/-- A call adds no late fee but its own, which is the first one of its item. -/
theorem Call.Effect.lateFees {c : Call} (heffect : c.Effect now s s') {a : Adjustment}
    (ha : a ∈ s'.adjustments) (hlate : a.sourceType = some .lateFee) :
    (∃ r ∈ s.adjustments, r.id = a.id ∧ r.sourceType = a.sourceType ∧ r.sourceId = a.sourceId) ∨
      ∃ params, c = .createAdjustment params ∧ a = params.row now s.adjustments.next ∧
        ¬ s.hasAdjustmentSource a.sourceType a.sourceId ∧
        ∀ id, a.sourceId = some id → s.isLateFeeSource a.unitId id := by
  have hsettled : ∀ l : Settlement, a ∈ (s.settle l).adjustments →
      ∃ r ∈ s.adjustments, r.id = a.id ∧ r.sourceType = a.sourceType ∧ r.sourceId = a.sourceId := by
    intro l hl
    obtain ⟨r, hr, rfl⟩ := Store.mem_settle_adjustments.mp hl
    exact ⟨r, hr, rfl, rfl, rfl⟩
  cases heffect with
  | issueChargeBatch params _ batch plan heffect =>
    rw [heffect.store_eq] at ha
    exact Or.inl (hsettled _ ha)
  | cancelChargeBatch params _ batch heffect =>
    rw [heffect.store_eq] at ha
    exact Or.inl ⟨a, ha, rfl, rfl, rfl⟩
  | createAdjustment params hsource hlateSource =>
    rcases (Table.mem_create (h := fun _ => rfl)).mp ha with ha | rfl
    · exact Or.inl ⟨a, ha, rfl, rfl, rfl⟩
    · exact Or.inr ⟨params, rfl, rfl, hsource, fun id hid => hlateSource id hlate hid⟩
  | applyOpeningBalanceCorrection params hdelta =>
    rcases (Table.mem_create (h := fun _ => rfl)).mp ha with ha | rfl
    · exact Or.inl (hsettled _ ha)
    · cases hlate
  | createExplicitPayment params _ fundId heffect =>
    rw [heffect.store_eq] at ha
    exact Or.inl ⟨a, ha, rfl, rfl, rfl⟩
  | approvePayment params _ payment l heffect =>
    rw [heffect.store_eq] at ha
    exact Or.inl (hsettled _ ha)
  | reversePayment params _ payment heffect =>
    rw [heffect.store_eq] at ha
    exact Or.inl (hsettled _ ha)
  | _ => exact Or.inl ⟨a, ha, rfl, rfl, rfl⟩

/-- What was created before has a smaller id. -/
theorem Store.LateFeeUnique.of_effect (h : s.LateFeeUnique) {c : Call}
    (heffect : c.Effect now s s') : s'.LateFeeUnique := by
  have hfirst : ∀ a ∈ s'.adjustments, ∀ a' ∈ s'.adjustments, a.sourceType = some .lateFee →
      a'.sourceType = some .lateFee → ∀ id, a.sourceId = some id → a'.sourceId = some id →
      (∃ r ∈ s.adjustments, r.id = a.id ∧ r.sourceType = a.sourceType ∧ r.sourceId = a.sourceId) →
      ¬ s.hasAdjustmentSource a'.sourceType a'.sourceId → False := by
    rintro a - a' - hlate hlate' id hid hid' ⟨r, hr, -, htype, hsource⟩ hfree
    refine hfree (List.any_eq_true.mpr ⟨r, hr, ?_⟩)
    simp [htype, hsource, hlate, hlate', hid, hid']
  intro a ha a' ha' hlate hlate' id hid hid'
  refine s'.adjustments.eq_of_key_eq ha ha' ?_
  rcases heffect.lateFees ha hlate with ⟨r, hr, hkey, htype, hsource⟩ | ⟨_, -, hnext, hfree, -⟩ <;>
    rcases heffect.lateFees ha' hlate' with ⟨r', hr', hkey', htype', hsource'⟩ |
      ⟨_, -, hnext', hfree', -⟩
  · have heq : r = r' := h r hr r' hr' (htype.trans hlate) (htype'.trans hlate') id
      (hsource.trans hid) (hsource'.trans hid')
    rw [← hkey, heq, hkey']
  · exact (hfirst a ha a' ha' hlate hlate' id hid hid' ⟨r, hr, hkey, htype, hsource⟩ hfree').elim
  · exact (hfirst a' ha' a ha hlate' hlate id hid' hid ⟨r', hr', hkey', htype', hsource'⟩
      hfree).elim
  · rw [hnext, hnext']
    rfl

/-- Nothing closes a batch. -/
theorem Store.NoneClosed.of_effect (h : s.NoneClosed) {c : Call} (heffect : c.Effect now s s') :
    s'.NoneClosed := by
  have hset : ∀ k status, status ≠ .closed → (s.setBatchStatus k status).NoneClosed := by
    intro k status hstatus b hb
    obtain ⟨r, hr, rfl⟩ := Store.mem_setBatchStatus.mp hb
    split
    · exact hstatus
    · exact h r hr
  cases heffect with
  | createChargeBatch params =>
    intro b hb
    rcases (Table.mem_create (h := fun _ => rfl)).mp hb with hb | rfl
    · exact h b hb
    · exact nofun
  | issueChargeBatch params _ batch plan heffect =>
    rw [heffect.store_eq]
    exact hset _ _ nofun
  | cancelChargeBatch params _ batch heffect =>
    rw [heffect.store_eq]
    exact hset _ _ nofun
  | createExplicitPayment params _ fundId heffect =>
    rw [heffect.store_eq]
    exact h
  | approvePayment params _ payment l heffect =>
    rw [heffect.store_eq]
    exact h
  | reversePayment params _ payment heffect =>
    rw [heffect.store_eq]
    exact h
  | _ => exact h

/-! ### Runs -/

namespace System

variable {S : System}

/-- No batch is closed, and no item has two late fees, in any state that can be reached. -/
theorem lateFeeUnique_runFrom (es : List Event) :
    (runFrom System.step init es).store.NoneClosed ∧
      (runFrom System.step init es).store.LateFeeUnique := by
  refine inv_init.stays (P := fun s => s.NoneClosed ∧ s.LateFeeUnique) (fun _ _ h => h)
    (fun _ _ h => h) (fun _ _ h => h) (fun c now s s' heffect h => ?_)
    ⟨fun _ h => absurd h Table.not_mem_empty, fun _ h => absurd h Table.not_mem_empty⟩ es
  exact ⟨h.1.of_effect heffect, h.2.of_effect heffect⟩

/-- The late fees in flight are on items with something left to pay. -/
structure Timely (S : System) : Prop where
  inv : S.Inv
  closed : S.store.NoneClosed
  calls : ∀ c ∈ S.inFlight, c.OnOpen S.store

theorem timely_init : init.Timely :=
  ⟨inv_init, fun _ h => absurd h Table.not_mem_empty, fun _ h => absurd h List.not_mem_nil⟩

/-- A late fee is requested for an item with something left to pay. -/
theorem onOpen_of_prepare {s s' : Store} {r : Request} {now : Time} {c : Call}
    (h : (r.prepare now).run s = (.ok c, s')) : c.OnOpen s' := by
  cases r with
  | createAdjustment b unitId dto actor =>
    obtain ⟨params, s₁, hparams, hc⟩ := Script.run_bind_ok.mp h
    obtain ⟨rfl, rfl⟩ := Script.run_pure_ok.mp hc
    simp only [FinanceService.createAdjustment, Script.run_bind_ok, Script.run_pure_ok] at hparams
    obtain ⟨u, s₂, -, w, s₃, -, fund, s₄, -, rfl, -⟩ := hparams
    intro hlate
    cases hlate
  | applyLateFee b unitId chargeItemId actor =>
    obtain ⟨params, s₁, hparams, hc⟩ := Script.run_bind_ok.mp h
    obtain ⟨rfl, rfl⟩ := Script.run_pure_ok.mp hc
    obtain ⟨item, batch, hitem, -, -, -, hfee, -, -, hsource, rfl⟩ := Store.applyLateFee_ok hparams
    obtain ⟨-, -, -, hopen, -⟩ := Store.lateFee_eq_some hfee
    exact fun _ => ⟨chargeItemId, hsource, by simpa [Store.isOpen, hitem] using hopen⟩
  | _ =>
    obtain ⟨params, s₁, -, hc⟩ := Script.run_bind_ok.mp h
    obtain ⟨rfl, -⟩ := Script.run_pure_ok.mp hc
    trivial

/-- A step that keeps items open keeps the late fees in flight timely. -/
theorem Timely.step (h : S.Timely) {e : Event} (he : S.KeepsOpen e) : (S.step e).Timely := by
  have hkept : ∀ c ∈ S.inFlight, c.OnOpen (S.step e).store := by
    intro c hc
    have hopen := h.calls c hc
    cases c with
    | createAdjustment params =>
      intro hlate
      obtain ⟨id, hid, hbefore⟩ := hopen hlate
      exact ⟨id, hid, he _ hc id ((if_pos hlate).trans hid) hbefore⟩
    | _ => trivial
  refine ⟨h.inv.step e, ?_, fun c hc => ?_⟩
  · have hstep := h.inv.storeStep e
    revert hstep
    generalize (S.step e).store = s'
    intro hstep
    cases hstep with
    | request r now s' hfunds =>
      obtain ⟨funds, rfl⟩ := hfunds.funds_eq
      exact h.closed
    | commit index now call hget heffect => exact h.closed.of_effect heffect
    | _ => exact h.closed
  · rcases mem_inFlight_step hc with hold | ⟨r, now, rfl⟩
    · exact hkept c hold
    · simp only [System.step, System.receive] at hc hkept ⊢
      rcases hrun : (r.prepare now).run S.store with ⟨_ | c', s'⟩ <;> rw [hrun] at hc hkept
      · exact hkept c hc
      · rcases List.mem_append.mp hc with hold | hnew
        · exact hkept c hold
        · obtain rfl := List.mem_singleton.mp hnew
          exact onOpen_of_prepare hrun

/-- A late fee that is booked while the late fees in flight are timely is for an item of an issued
batch with something left to pay. -/
theorem Timely.booksOnOpen (h : S.Timely) (e : Event) : S.BooksOnOpen e := by
  intro a ha hnew hlate
  have hstep := h.inv.storeStep e
  generalize (S.step e).store = s' at ha hstep
  cases hstep with
  | request r now s' hfunds =>
    obtain ⟨funds, rfl⟩ := hfunds.funds_eq
    exact absurd rfl (hnew a ha)
  | commit index now call hget heffect =>
    rcases heffect.lateFees ha hlate with ⟨r, hr, hid, -⟩ | ⟨params, rfl, rfl, -, hsource⟩
    · exact absurd hid (hnew r hr)
    · obtain ⟨id, hid, hopen⟩ := h.calls _ (List.mem_of_getElem? hget) hlate
      refine ⟨id, hid, ?_, hopen⟩
      -- the transaction has found the batch issued or closed, and nothing is ever closed
      obtain ⟨item, hitem, -, hbilled⟩ := Store.isLateFeeSource_iff.mp (hsource id hid)
      obtain ⟨batch, hbatch, hstatus⟩ := Store.isBilled_iff.mp hbilled
      have hclosed := h.closed batch (Table.mem_of_find? hbatch)
      rw [Store.isIssued, hitem, Option.bind_some, hbatch, Option.any_some, decide_eq_true_eq]
      exact hstatus.resolve_right hclosed
  | _ => exact absurd rfl (hnew a ha)

/-- In a run in which no item is settled while a late fee for it is in flight, every late fee that is
booked is for an item of an issued batch with something left to pay when it is booked; and no item
has two late fees. -/
theorem booksOnOpen_of_keepsOpen (es : List Event) (h : EachStep System.step KeepsOpen init es) :
    EachStep System.step BooksOnOpen init es ∧
      (runFrom System.step init es).store.LateFeeUnique :=
  ⟨EachStep.of_invariant (P := Timely) (fun _ _ hS he => hS.step he)
    (fun _ e hS _ => hS.booksOnOpen e) timely_init h, (lateFeeUnique_runFrom es).2⟩

/-- The item is due, and a fee for it is requested twice and paid in between. -/
def feeBeforePayment : List Event :=
  overdue ++
    [.request (.applyLateFee 0 0 0 7) 3, .request (.applyLateFee 0 0 0 7) 3, .commit 0 3,
      .commit 0 3,
      .request (.createPayment tenancy 0 0 cashPayment) 4, .commit 0 4,
      .request (.approvePayment 0 0 7) 5, .commit 0 5]

theorem booksOnOpen_of_keepsOpen_feeBeforePayment :
    EachStep System.step KeepsOpen init feeBeforePayment ∧
      EachStep System.step BooksOnOpen init feeBeforePayment ∧
        (runFrom System.step init feeBeforePayment).store.LateFeeUnique := by
  have h : EachStep System.step KeepsOpen init feeBeforePayment := by decide +kernel
  exact ⟨h, booksOnOpen_of_keepsOpen feeBeforePayment h⟩

/-- The fee is requested while the item is open, and booked when its payment has been approved. -/
def feeAfterPayment : List Event :=
  overdue ++
    [.request (.createPayment tenancy 0 0 cashPayment) 3, .commit 0 3,
      .request (.applyLateFee 0 0 0 7) 4, .request (.approvePayment 0 0 7) 5, .commit 1 5]

/-- The commit of the fee finds the item paid. -/
theorem not_booksOnOpen_feeAfterPayment :
    ¬ EachStep System.step BooksOnOpen init (feeAfterPayment ++ [.commit 0 6]) := by
  intro h
  have hcommit : (runFrom System.step init feeAfterPayment).BooksOnOpen (.commit 0 6) :=
    (eachStep_append.mp h).2.1
  obtain ⟨id, hid, -, hopen⟩ := hcommit
    { id := 0, unitId := 0, buildingId := 0, fundId := 0, amount := 5,
      reason := "Late fee — Repair", createdById := 7, sourceType := some .lateFee,
      sourceId := some 0, createdAt := 6 }
    (List.mem_of_elem_eq_true (by decide +kernel)) (by decide +kernel) rfl
  obtain rfl := Option.some.inj hid
  exact absurd hopen (by decide +kernel)

end System

end VielHome.Finance
