import VielHome.Finance.BuildingIsolation
import VielHome.Finance.DebtConservation
import VielHome.Finance.FundBalance

/-!
# Receivables and the ledger

What the units of a building owe can be read off its ledger as long as every transaction
posts what it moves. Two do not: cancelling an issued batch takes its items out of the debt
and posts nothing, and a waiver posts its full amount even where less is outstanding.
-/

namespace VielHome.Finance

open Relational

/-! ### What the ledger says -/

/-- How entries of a type count towards the receivables: charges, adjustments and reversals up
as debits, charges, adjustments and payments down as credits. -/
def LedgerEntryType.receivableSign : LedgerEntryType → LedgerDirection → ℤ
  | .charge, .debit | .adjustment, .debit | .reversal, .debit => 1
  | .charge, .credit | .adjustment, .credit | .payment, .credit => -1
  | _, _ => 0

/-- What an entry contributes to the receivables. -/
def LedgerEntry.receivable (e : LedgerEntry) : ℤ :=
  e.entryType.receivableSign e.direction * e.amount

/-- The entry of an adjustment counts with the amount of the adjustment. -/
theorem Adjustment.receivable_entry (a : Adjustment) (now : Time) (id : ℕ) :
    (a.entry now id).receivable = a.amount := by
  rw [LedgerEntry.receivable, Adjustment.entry]
  by_cases hneg : a.amount < 0
  · simp [LedgerEntryType.receivableSign, hneg, abs_of_neg hneg]
  · simp [LedgerEntryType.receivableSign, hneg, abs_of_nonneg (not_lt.mp hneg)]

namespace Store

/-- The units are those of the building. -/
def inBuilding (s : Store) (buildingId unitId : ℕ) : Bool := s.unitBuilding unitId = some buildingId

/-- What the units of a building owe, net of their credit. -/
def receivables (s : Store) (buildingId : ℕ) : ℤ :=
  s.units.sum fun u => if u.buildingId = buildingId then s.netDebt u.id else 0

/-- The entries of one type in the ledger of a building, totalled for one direction. -/
def postedFor (s : Store) (buildingId : ℕ) (entryType : LedgerEntryType)
    (direction : LedgerDirection) : ℤ :=
  s.posted (fun e => e.buildingId = buildingId ∧ e.entryType = entryType) direction

/-- What the ledger of a building adds up to. -/
def ledgerReceivables (s : Store) (buildingId : ℕ) : ℤ :=
  s.ledger.sum fun e => if e.buildingId = buildingId then e.receivable else 0

variable {s : Store}

theorem ledgerReceivables_eq_posted (b : ℕ) :
    s.ledgerReceivables b =
      s.postedFor b .charge .debit - s.postedFor b .charge .credit +
        s.postedFor b .adjustment .debit - s.postedFor b .adjustment .credit -
        s.postedFor b .payment .credit + s.postedFor b .reversal .debit := by
  simp only [postedFor, posted, ledgerReceivables, ← Table.sum_sub, ← Table.sum_add]
  refine Table.sum_congr fun e _ => ?_
  obtain ⟨id, buildingId, fundId, entryType, direction, amount⟩ := e
  by_cases hb : buildingId = b
  · cases entryType <;> cases direction <;>
      simp [LedgerEntry.receivable, LedgerEntryType.receivableSign, hb]
  · simp [hb]

/-! ### Units of a building -/

/-- A weight of the rows that belong to units, totalled unit by unit over a building. -/
theorem sum_units {ρ : Type} {key : ρ → ℕ} (t : Table ρ key) (unitOf : ρ → ℕ) (w : ρ → ℤ) (b : ℕ) :
    (s.units.sum fun u => if u.buildingId = b then
      t.sum fun r => if unitOf r = u.id then w r else 0 else 0) =
      t.sum fun r => if s.inBuilding b (unitOf r) then w r else 0 := by
  have hinner : ∀ u ∈ s.units, (if u.buildingId = b then
      t.sum fun r => if unitOf r = u.id then w r else 0 else 0) =
      t.sum fun r => if u.id = unitOf r then (if u.buildingId = b then w r else 0) else 0 := by
    intro u _
    by_cases hb : u.buildingId = b
    · simp [hb, eq_comm]
    · simpa [hb] using (Table.sum_zero t).symm
  rw [Table.sum_congr hinner, Table.sum_comm]
  refine Table.sum_congr fun r _ => ?_
  rw [inBuilding, unitBuilding]
  cases hfind : s.units.find? (unitOf r) with
  | none =>
    have hzero : ∀ u ∈ s.units, (if u.id = unitOf r then (if u.buildingId = b then w r else 0)
        else 0) = 0 := fun u hu => if_neg (Table.find?_eq_none_iff.mp hfind u hu)
    simpa using Table.sum_eq_zero hzero
  | some u =>
    rw [Table.sum_ite_key hfind fun u => if u.buildingId = b then w r else 0]
    simp

/-- What the units of a building owe is the net debt of the building's units. -/
theorem Valid.receivables_eq (h : s.Valid) (b : ℕ) :
    s.receivables b = (s.figures (s.inBuilding b)).netDebt := by
  have hunit : ∀ u ∈ s.units, (if u.buildingId = b then s.netDebt u.id else 0) =
      (if u.buildingId = b then s.chargeItems.sum fun i =>
        if i.unitId = u.id then (if s.isBilled i then i.outstanding else 0) else 0 else 0) +
      (if u.buildingId = b then s.adjustments.sum fun a =>
        if a.unitId = u.id then (if 0 < a.amount then a.outstanding else 0) else 0 else 0) -
      (if u.buildingId = b then s.creditBalances.sum fun c =>
        if c.unitId = u.id then c.balance else 0 else 0) := by
    intro u _
    by_cases hb : u.buildingId = b
    · simp only [hb, if_true]
      refine (h.netDebt_eq u.id).trans ?_
      simp only [figures, owedOnItems, owedOnAdjustments, credit, decide_eq_true_eq, ite_and]
    · simp [hb]
  rw [receivables, Table.sum_congr hunit, Table.sum_sub, Table.sum_add, sum_units, sum_units,
    sum_units]
  simp only [figures, owedOnItems, owedOnAdjustments, credit, ite_and]

/-- The figures of a set of units depend on the units that exist. -/
theorem Valid.figures_congr (h : s.Valid) {p q : ℕ → Bool}
    (hpq : ∀ u, (s.unitBuilding u).isSome → p u = q u) : s.figures p = s.figures q := by
  have hitem : ∀ i ∈ s.chargeItems, p i.unitId = q i.unitId := fun i hi =>
    hpq _ (h.item_unit i hi)
  have hadjustment : ∀ a ∈ s.adjustments, p a.unitId = q a.unitId := fun a ha =>
    hpq _ (h.adjustment_unit a ha)
  have hcredit : ∀ c ∈ s.creditBalances, p c.unitId = q c.unitId := fun c hc =>
    hpq _ (by rw [h.credit_unit c hc]; rfl)
  have hpayment : ∀ r ∈ s.payments, p r.unitId = q r.unitId := fun r hr =>
    hpq _ (by rw [h.payment_unit r hr]; rfl)
  refine Figures.ext ?_ (Table.sum_congr fun i hi => by rw [hitem i hi])
    (Table.sum_congr fun a ha => by rw [hadjustment a ha])
    (Table.sum_congr fun a ha => by rw [hadjustment a ha])
    (Table.sum_congr fun r hr => by rw [hpayment r hr])
  have hitems : s.owedOnItems p = s.owedOnItems q := Table.sum_congr fun i hi => by rw [hitem i hi]
  have hadjustments : s.owedOnAdjustments p = s.owedOnAdjustments q :=
    Table.sum_congr fun a ha => by rw [hadjustment a ha]
  have hcredits : s.credit p = s.credit q := Table.sum_congr fun c hc => by rw [hcredit c hc]
  simp only [figures, hitems, hadjustments, hcredits]

/-- All items of a batch of an isolated store belong to the building of the batch. -/
theorem Isolated.batchTotal_eq (hiso : s.Isolated) (h : s.Valid) {k : ℕ} {batch : ChargeBatch}
    (hfind : s.chargeBatches.find? k = some batch) (b : ℕ) :
    s.batchTotal (s.inBuilding b) k = if batch.buildingId = b then batch.totalAmount else 0 := by
  have hid := Table.key_of_find? hfind
  have hunits : ∀ i ∈ s.itemsOfBatch k, (if s.inBuilding b i.unitId then i.amount else 0) =
      if batch.buildingId = b then i.amount else 0 := by
    intro i hi
    obtain ⟨hmem, hk⟩ := mem_itemsOfBatch.mp hi
    have hbatch : s.batchOf i = some batch := by
      rw [batchOf, hk]
      exact hfind
    simp [inBuilding, hiso i hmem batch hbatch]
  have htotal : batch.totalAmount = ((s.itemsOfBatch k).map ChargeItem.amount).sum := by
    rw [h.batch_total batch (Table.mem_of_find? hfind), hid, itemsOfBatch, Table.sum_filter]
    simp only [decide_eq_true_eq]
  rw [batchTotal, List.map_congr_left hunits]
  split
  · exact htotal.symm
  · simp

end Store

/-! ### One call -/

/-- The transaction of the call posts what it moves: it does not cancel an issued batch, and
waives no more than the items of the unit have outstanding. -/
def Call.PostsInFull (s : Store) : Call → Prop
  | cancelChargeBatch params => ∀ batch ∈ s.chargeBatches.find? params.chargeBatchId,
      batch.buildingId = params.buildingId → batch.status = .issued →
      ∃ item ∈ s.itemsOfBatch params.chargeBatchId, 0 < item.paidAmount
  | createAdjustment params => params.amount < 0 →
      |params.amount| ≤ (s.computeDebtSnapshot params.unitId).chargeItemDebt
  | _ => True

instance (s : Store) : DecidablePred (Call.PostsInFull s) := fun c => by
  cases c <;> unfold Call.PostsInFull <;> infer_instance

namespace Store

variable {s : Store}

/-- A waiver within the debt on items is applied completely. -/
theorem Valid.total_waiverSettlement (h : s.Valid) {unitId : ℕ} {amount : ℤ} (hneg : amount < 0)
    (hle : |amount| ≤ (s.computeDebtSnapshot unitId).chargeItemDebt) :
    (s.waiverSettlement unitId amount).total = |amount| := by
  rw [waiverSettlement, if_pos hneg, total_itemSettlement]
  refine poured_eq_of_le (abs_nonneg amount) (fun i hi => ?_) (hle.trans (le_of_eq ?_))
  · obtain ⟨hmem, -⟩ := mem_outstandingItems.mp (mem_outstandingItemsByDueDate.mp hi)
    have hpaid := (h.item_paid i hmem).2
    rw [ChargeItem.outstanding]
    omega
  · have hperm := List.perm_insertionSort s.byDueDate (s.outstandingItems unitId)
    exact (hperm.map ChargeItem.outstanding).sum_eq.symm

/-! What each call posts. -/

/-- Cash is no receivable. -/
theorem ledgerReceivables_withFund (params : CreateFundParams) (now : Time) (b : ℕ) :
    (s.withFund params now).ledgerReceivables b = s.ledgerReceivables b := by
  rw [ledgerReceivables, Store.withFund]
  dsimp only
  split
  · rw [Table.sum_create, ledgerReceivables]
    simp [LedgerEntry.receivable, LedgerEntryType.receivableSign]
  · rfl

/-- An issued batch is posted as a whole; the entries of the applied credit do not count. -/
theorem ledgerReceivables_issued {params : IssueChargeBatchParams} {now : Time} {s' : Store}
    {batch : ChargeBatch} {plan : List (ChargeItem × ℤ)}
    (heffect : IssueEffect params now s s' batch plan) (b : ℕ) :
    s'.ledgerReceivables b = s.ledgerReceivables b +
      if params.buildingId = b then batch.totalAmount else 0 := by
  have happlied : ((s.setBatchStatus params.chargeBatchId .issued).creditApplied
      params.buildingId batch.fundId now plan).ledgerReceivables b = s.ledgerReceivables b := by
    refine (Table.sum_createMany _ _ _ _ _ (fun _ => 0) fun e n => ?_).trans ?_
    · simp [LedgerEntry.receivable, LedgerEntryType.receivableSign]
    · simp only [List.map_const', List.sum_replicate, nsmul_zero, add_zero]
      rfl
  rw [← happlied, heffect.store_eq]
  refine (Table.sum_create _ _ _ _).trans ?_
  simp [ledgerReceivables, LedgerEntry.receivable, LedgerEntryType.receivableSign]

theorem ledgerReceivables_adjusted (params : CreateAdjustmentParams) (now : Time) (b : ℕ) :
    (s.adjusted params now).ledgerReceivables b = s.ledgerReceivables b +
      if params.buildingId = b then params.amount else 0 := by
  refine (Table.sum_create _ _ (fun _ => rfl) _).trans ?_
  rw [Adjustment.receivable_entry]
  rfl

theorem ledgerReceivables_corrected (params : ApplyOpeningBalanceCorrectionParams) (now : Time)
    (delta : ℤ) (b : ℕ) :
    (s.corrected params now delta).ledgerReceivables b = s.ledgerReceivables b +
      if params.buildingId = b then delta else 0 := by
  refine (Table.sum_create _ _ (fun _ => rfl) _).trans ?_
  rw [Adjustment.receivable_entry]
  rfl

theorem ledgerReceivables_approved {params : ApprovePaymentParams} {now : Time} {s' : Store}
    {payment : Payment} {l : Settlement} (heffect : ApprovalEffect params now s s' payment l)
    (b : ℕ) :
    s'.ledgerReceivables b = s.ledgerReceivables b +
      -if params.buildingId = b then params.amount else 0 := by
  rw [heffect.store_eq]
  refine (Table.sum_create _ _ (fun _ => rfl) _).trans ?_
  by_cases hb : params.buildingId = b <;>
    simp [ledgerReceivables, LedgerEntry.receivable, LedgerEntryType.receivableSign, hb]

theorem ledgerReceivables_reversed {params : ReversePaymentParams} {now : Time} {s' : Store}
    {payment : Payment} (heffect : ReversalEffect params now s s' payment) (b : ℕ) :
    s'.ledgerReceivables b = s.ledgerReceivables b +
      if params.buildingId = b then params.amount else 0 := by
  rw [heffect.store_eq]
  refine (Table.sum_create _ _ (fun _ => rfl) _).trans ?_
  by_cases hb : params.buildingId = b <;>
    simp [ledgerReceivables, LedgerEntry.receivable, LedgerEntryType.receivableSign, hb]

/-- An expense is paid from the fund, and concerns no unit. -/
theorem ledgerReceivables_withExpense (params : CreateExpenseParams) (now : Time) (b : ℕ) :
    (s.withExpense params now).ledgerReceivables b = s.ledgerReceivables b := by
  refine (Table.sum_create _ _ (fun _ => rfl) _).trans ?_
  simp [ledgerReceivables, LedgerEntry.receivable, LedgerEntryType.receivableSign]

theorem ledgerReceivables_withVoided (params : VoidExpenseParams) (now : Time) (b : ℕ) :
    (s.withVoided params now).ledgerReceivables b = s.ledgerReceivables b := by
  refine (Table.sum_create _ _ (fun _ => rfl) _).trans ?_
  simp [ledgerReceivables, LedgerEntry.receivable, LedgerEntryType.receivableSign]

/-- A call that posts what it moves keeps the receivables of a building in step with its
ledger. -/
theorem Valid.receivables_effect (h : s.Valid) (hiso : s.Isolated) {now : Time} {s' : Store}
    {c : Call} (heffect : c.Effect now s s') (hc : c.Ok s) (hhome : c.AtHome s)
    (hposts : c.PostsInFull s) (b : ℕ) :
    (s'.figures (s.inBuilding b)).netDebt - (s.figures (s.inBuilding b)).netDebt =
      s'.ledgerReceivables b - s.ledgerReceivables b := by
  have hin : ∀ {unitId b' : ℕ}, s.unitBuilding unitId = some b' →
      s.inBuilding b unitId = decide (b' = b) := by
    intro unitId b' hb'
    simp [inBuilding, hb']
  cases heffect with
  | createFund params =>
    rw [ledgerReceivables_withFund, sub_self]
    exact sub_self _
  | createChargeBatch params hperiod hunits =>
    rw [h.figures_withBatch, sub_self]
    exact (sub_self _).symm
  | issueChargeBatch params _ batch plan heffect =>
    rw [h.figures_issued heffect, ledgerReceivables_issued heffect, hiso.batchTotal_eq h heffect.find, heffect.building]
    ring
  | cancelChargeBatch params _ batch heffect =>
    have hissued : ¬ batch.status = .issued := by
      intro hstatus
      obtain ⟨item, hitem, hpaid⟩ := hposts batch heffect.find heffect.building hstatus
      exact absurd (heffect.unpaid item hitem) (not_le.mpr hpaid)
    rw [h.figures_cancelled heffect, if_neg hissued, sub_zero, sub_self, heffect.store_eq]
    exact (sub_self _).symm
  | createAdjustment params =>
    rw [h.figures_adjusted hc.2.2, ledgerReceivables_adjusted, add_sub_cancel_left, hin hhome]
    simp only [decide_eq_true_eq, add_sub_cancel_left]
    by_cases hb : params.buildingId = b
    · rw [if_pos hb, if_pos hb]
      by_cases hneg : params.amount < 0
      · rw [h.total_waiverSettlement hneg (hposts hneg), max_eq_left hneg.le, abs_of_neg hneg]
        ring
      · rw [waiverSettlement, if_neg hneg, max_eq_right (not_lt.mp hneg)]
        exact sub_zero _
    · rw [if_neg hb, if_neg hb]
  | applyOpeningBalanceCorrection params hdelta =>
    rw [h.figures_corrected, ledgerReceivables_corrected, hin hc.2]
    simp only [decide_eq_true_eq, add_sub_cancel_left]
  | createPayment params hfresh hceiling =>
    rw [figures_withPayment, sub_self]
    exact (sub_self _).symm
  | createExplicitPayment params _ fundId heffect =>
    rw [figures_withExplicitPayment heffect, heffect.store_eq, sub_self]
    exact (sub_self _).symm
  | approvePayment params _ payment l heffect =>
    obtain ⟨q, hq, hbuilding, hunit, -, hamount⟩ := hc
    obtain rfl : q = payment := Option.some.inj (hq.symm.trans heffect.find)
    have hplace := h.payment_unit q (Table.mem_of_find? hq)
    rw [hbuilding] at hplace
    rw [h.figures_approved heffect hunit hamount, ledgerReceivables_approved heffect, hin hplace,
      hamount]
    simp only [decide_eq_true_eq]
    ring
  | rejectPayment paymentId reason payment hfind hpending =>
    rw [figures_rejected hfind hpending, sub_self]
    exact (sub_self _).symm
  | reversePayment params _ payment heffect =>
    obtain ⟨q, hq, hbuilding, -, hamount⟩ := hc
    obtain rfl : q = payment := Option.some.inj (hq.symm.trans heffect.find)
    have hplace := h.payment_unit q (Table.mem_of_find? hq)
    rw [hbuilding] at hplace
    rw [h.figures_reversed heffect, ledgerReceivables_reversed heffect, hin hplace, hamount]
    simp only [decide_eq_true_eq, add_sub_cancel_left]
  | createExpense params fund hfind hle =>
    rw [ledgerReceivables_withExpense, sub_self]
    exact sub_self _
  | voidExpense params expense hfind hposted =>
    rw [ledgerReceivables_withVoided, sub_self]
    exact sub_self _
  | _ => exact (sub_self _).trans (sub_self _).symm

end Store

/-! ### Runs -/

namespace System

/-- The event is no commit of a call that posts less or more than it moves. -/
def PostsInFull (S : System) : Event → Prop
  | .commit index _ => ∀ c ∈ S.inFlight[index]?, c.PostsInFull S.store
  | _ => True

instance : DecidableRel PostsInFull
  | S, .commit index _ =>
    inferInstanceAs (Decidable (∀ c ∈ S.inFlight[index]?, c.PostsInFull S.store))
  | _, .addBuilding | _, .addUnit .. | _, .updateUnit .. | _, .request .. | _, .rollback _ =>
    .isTrue trivial

variable {S : System}

/-- A step that posts what it moves keeps the receivables of every building in step with its
ledger, provided that the store is isolated afterwards. -/
theorem Isolated.receivables_step (h : S.Isolated) {e : Event} (he : S.PostsInFull e)
    (hiso : (S.step e).store.Isolated) {b : ℕ}
    (heq : S.store.receivables b = S.store.ledgerReceivables b) :
    (S.step e).store.receivables b = (S.step e).store.ledgerReceivables b := by
  have hvalid := h.inv.valid
  have hstep := h.inv.storeStep e
  have hvalid' := hstep.valid h.inv
  rw [hvalid.receivables_eq] at heq
  rw [hvalid'.receivables_eq]
  revert hstep hvalid' hiso
  generalize (S.step e).store = s'
  intro hiso hstep hvalid'
  -- units that existed before keep their building
  have hkept : ∀ {t : Store}, S.store.Extends t →
      S.store.figures (t.inBuilding b) = S.store.figures (S.store.inBuilding b) := by
    intro t ht
    refine hvalid.figures_congr fun u hu => ?_
    obtain ⟨b', hb'⟩ := Option.isSome_iff_exists.mp hu
    rw [Store.inBuilding, Store.inBuilding, ht.unit u b' hb', hb']
  have hrows := hstep.rows
  cases hstep with
  | unchanged e => exact heq
  | addBuilding => exact heq
  | addUnit => exact (congrArg Figures.netDebt (hkept hrows)).trans heq
  | updateUnit => exact (congrArg Figures.netDebt (hkept hrows)).trans heq
  | request r now s' hfunds =>
    obtain ⟨funds, rfl⟩ := hfunds.funds_eq
    exact heq
  | commit index now call hget heffect =>
    have hmem := List.mem_of_getElem? hget
    have hunits : (call.exec now S.store).inBuilding b = S.store.inBuilding b := by
      generalize call.exec now S.store = s' at heffect
      funext u
      cases heffect <;> first | rfl | (rename_i heffect; rw [heffect.store_eq]; rfl)
    have hmove := hvalid.receivables_effect h.store heffect (h.inv.calls _ hmem) (h.calls _ hmem)
      (he call hget) b
    rw [hunits]
    omega

end System

/-- In a run that cancels no issued batch and waives no more than the items of a unit have
outstanding, the ledger of a building says what its units owe, in every state in which the
items belong to units of their batch's building. -/
theorem receivables_eq_ledger (es : List Event)
    (h : EachStep System.step System.PostsInFull System.init es) :
    let s := (runFrom System.step System.init es).store
    (∀ i ∈ s.chargeItems, ∀ b, s.batchOf i = some b →
      s.unitBuilding i.unitId = some b.buildingId) →
    ∀ b, (s.units.sum fun u => if u.buildingId = b then
        (s.computeDebtSnapshot u.id).totalDebt - (s.computeDebtSnapshot u.id).creditBalance else 0) =
      s.postedFor b .charge .debit - s.postedFor b .charge .credit +
        s.postedFor b .adjustment .debit - s.postedFor b .adjustment .credit -
        s.postedFor b .payment .credit + s.postedFor b .reversal .debit := by
  intro s hiso b
  rw [← Store.ledgerReceivables_eq_posted]
  have hrun : s.Isolated → (runFrom System.step System.init es).Isolated ∧
      s.receivables b = s.ledgerReceivables b := by
    clear hiso
    induction es using List.reverseRecOn with
    | nil => exact fun _ => ⟨System.isolated_init, rfl⟩
    | append_singleton es e ih =>
      obtain ⟨hbefore, he⟩ := eachStep_append.mp h
      intro hiso
      have hinv := System.inv_init.runFrom es
      simp only [s, runFrom_append, runFrom_cons, runFrom_nil] at hiso ⊢
      -- isolation is never regained, so it held before the last event
      have hprior := Store.Isolated.of_extends hinv.valid (hinv.storeStep e).rows hiso
      obtain ⟨hsystem, heq⟩ := ih hbefore hprior
      exact ⟨hsystem.step_of_store hiso, hsystem.receivables_step he.1 hiso heq⟩
  exact (hrun hiso).2

/-- The unit owes nothing net of credit once its payment of the charge is approved. -/
theorem receivables_eq_ledger_settled :
    let s := (runFrom System.step System.init System.settled).store
    (s.units.sum fun u => if u.buildingId = 0 then
        (s.computeDebtSnapshot u.id).totalDebt - (s.computeDebtSnapshot u.id).creditBalance else 0) =
      s.postedFor 0 .charge .debit - s.postedFor 0 .charge .credit +
        s.postedFor 0 .adjustment .debit - s.postedFor 0 .adjustment .credit -
        s.postedFor 0 .payment .credit + s.postedFor 0 .reversal .debit := by
  have hisolated := System.isolated_of_eachStep System.settled (by decide +kernel)
  exact receivables_eq_ledger System.settled (by decide +kernel) hisolated.store 0

/-- The charge is cancelled after it was issued. -/
def System.cancelled : List Event :=
  charged ++ [.request (.cancelChargeBatch 0 0) 3, .commit 0 3]

/-- More is waived than was charged. -/
def System.overWaived : List Event :=
  charged ++ [.request (.createAdjustment 0 0
    { amount := -150, reason := "goodwill", fundId := some 0 } 7) 3, .commit 0 3]

/-- After the cancellation nothing is owed and the ledger says 100; after the waiver nothing is
owed and the ledger says -50. In both states the items are in their building. -/
theorem receivables_ne_ledger :
    let s := (runFrom System.step System.init System.cancelled).store
    let t := (runFrom System.step System.init System.overWaived).store
    (s.Isolated ∧ s.receivables 0 = 0 ∧ s.ledgerReceivables 0 = 100) ∧
      t.Isolated ∧ t.receivables 0 = 0 ∧ t.ledgerReceivables 0 = -50 := by
  have hcancelled := System.isolated_of_eachStep System.cancelled (by decide +kernel)
  have hwaived := System.isolated_of_eachStep System.overWaived (by decide +kernel)
  refine ⟨⟨hcancelled.store, ?_, ?_⟩, hwaived.store, ?_, ?_⟩ <;> decide +kernel

end VielHome.Finance
