import VielHome.Finance.Invariant.Reachable

/-!
# The figures of a set of units

What a set of units owes, net of credit, and the totals it is made of: the billed items, the
adjustments, the opening balances and the approved payments. One theorem for each kind of
write says how it moves these figures. A set of units is a predicate on their ids, so that
the same theorems serve for one unit and for a building.
-/

namespace VielHome.Finance

open Relational

/-- The figures of a set of units. -/
@[ext]
structure Figures where
  /-- Debt minus credit. -/
  netDebt : ℤ
  /-- The amounts of the items in issued or closed batches. -/
  billed : ℤ
  /-- The positive adjustments that are no opening-balance corrections. -/
  added : ℤ
  /-- The opening-balance corrections. -/
  opening : ℤ
  /-- The approved payments. -/
  collected : ℤ

namespace Store

/-- What the units owe on charge items. -/
def owedOnItems (s : Store) (p : ℕ → Bool) : ℤ :=
  s.chargeItems.sum fun i => if p i.unitId ∧ s.isBilled i then i.outstanding else 0

/-- What the units owe on adjustments. -/
def owedOnAdjustments (s : Store) (p : ℕ → Bool) : ℤ :=
  s.adjustments.sum fun a => if p a.unitId ∧ 0 < a.amount then a.outstanding else 0

/-- The credit of the units. -/
def credit (s : Store) (p : ℕ → Bool) : ℤ :=
  s.creditBalances.sum fun c => if p c.unitId then c.balance else 0

/-- The figures of the units that satisfy `p`. -/
def figures (s : Store) (p : ℕ → Bool) : Figures where
  netDebt := s.owedOnItems p + s.owedOnAdjustments p - s.credit p
  billed := s.chargeItems.sum fun i => if p i.unitId ∧ s.isBilled i then i.amount else 0
  added := s.adjustments.sum fun a =>
    if p a.unitId ∧ 0 < a.amount ∧ a.sourceType ≠ some .openingBalanceCorrection then a.amount
    else 0
  opening := s.adjustments.sum fun a =>
    if p a.unitId ∧ a.sourceType = some .openingBalanceCorrection then a.amount else 0
  collected := s.payments.sum fun q => if p q.unitId ∧ q.status = .approved then q.amount else 0

variable {s : Store} {p : ℕ → Bool}

/-! ### The debt snapshot -/

/-- An item that is paid has nothing outstanding. -/
theorem ItemsOk.outstanding_eq_zero (h : s.ItemsOk) {i : ChargeItem} (hi : i ∈ s.chargeItems)
    (hstatus : i.status = .paid) : i.outstanding = 0 := by
  have hle := (h.item_paid i hi).2
  rw [h.item_status i hi, computeItemStatus] at hstatus
  split at hstatus
  · exact absurd hstatus (by decide)
  · split at hstatus
    · rw [ChargeItem.outstanding]
      omega
    · exact absurd hstatus (by decide)

theorem Valid.chargeItemDebt_eq (h : s.Valid) (unitId : ℕ) :
    (s.computeDebtSnapshot unitId).chargeItemDebt = s.owedOnItems fun u => u = unitId := by
  change ((s.chargeItems.rows.filter _).map _).sum = _
  rw [Table.sum_filter, owedOnItems]
  refine Table.sum_congr fun i hi => ?_
  by_cases hpaid : i.status = .paid
  · have hzero : i.outstanding = 0 := h.outstanding_eq_zero hi hpaid
    simp [hpaid, hzero]
  · simp [hpaid, ChargeItem.outstanding]

theorem Valid.adjustmentDebt_eq (h : s.Valid) (unitId : ℕ) :
    (s.computeDebtSnapshot unitId).adjustmentDebt = s.owedOnAdjustments fun u => u = unitId := by
  change ((s.adjustments.rows.filter _).map _).sum = _
  rw [Table.sum_filter, owedOnAdjustments]
  refine Table.sum_congr fun a ha => ?_
  by_cases hpos : 0 < a.amount
  · have hle := (h.adjustment_paid a ha).2
    have hmax : max 0 (a.amount - a.paidAmount) = a.outstanding := by
      rw [Adjustment.outstanding]
      omega
    simp [hpos, hmax]
  · simp [hpos]

/-- Exactly one row holds the credit of a unit that has some. -/
theorem CreditUnique.sum_ite_unit (h : s.CreditUnique) {c : CreditBalance}
    (hc : c ∈ s.creditBalances) (f : CreditBalance → ℤ) :
    (s.creditBalances.sum fun r => if r.unitId = c.unitId then f r else 0) = f c := by
  rw [← Table.sum_ite_key (Table.find?_of_mem hc) f]
  refine Table.sum_congr fun r hr => ?_
  by_cases hunit : r.unitId = c.unitId
  · rw [if_pos hunit, if_pos (congrArg CreditBalance.id (h r hr c hc hunit))]
  · rw [if_neg hunit, if_neg fun hid => hunit ?_]
    rw [Table.eq_of_key_eq hr hc hid]

theorem Valid.creditBalance_eq (h : s.Valid) (unitId : ℕ) :
    (s.computeDebtSnapshot unitId).creditBalance = s.credit fun u => u = unitId := by
  change ((s.creditBalanceOf unitId).map CreditBalance.balance).getD 0 = _
  cases hc : s.creditBalanceOf unitId with
  | none =>
    refine (Table.sum_eq_zero fun c hmem => ?_).symm
    have hne : ¬ c.unitId = unitId := by simpa using List.find?_eq_none.mp hc c hmem
    simp [hne]
  | some c =>
    obtain ⟨hmem, rfl⟩ := creditBalanceOf_eq_some hc
    have hsum := CreditUnique.sum_ite_unit h.credit_unique hmem CreditBalance.balance
    simpa [credit] using hsum.symm

/-- The net debt of one unit is what its debt snapshot says. -/
theorem Valid.netDebt_eq (h : s.Valid) (unitId : ℕ) :
    (s.computeDebtSnapshot unitId).totalDebt - (s.computeDebtSnapshot unitId).creditBalance =
      (s.figures fun u => u = unitId).netDebt := by
  have htotal : (s.computeDebtSnapshot unitId).totalDebt =
      (s.computeDebtSnapshot unitId).chargeItemDebt +
        (s.computeDebtSnapshot unitId).adjustmentDebt := rfl
  rw [htotal, h.chargeItemDebt_eq, h.adjustmentDebt_eq, h.creditBalance_eq]
  rfl

theorem opening_eq (unitId : ℕ) :
    (s.figures fun u => u = unitId).opening = s.openingBalanceCorrectionTotal unitId := by
  rw [openingBalanceCorrectionTotal, openingBalanceCorrections, Table.sum_filter, figures]
  exact Table.sum_congr fun a _ => by simp

/-! ### Settlements -/

theorem owedOnItems_settle (l : Settlement) :
    (s.settle l).owedOnItems p = s.owedOnItems p - (l.map fun e =>
      if (e.1.chargeItemId?.bind s.chargeItems.find?).any fun i => p i.unitId ∧ s.isBilled i
      then e.2 else 0).sum := by
  rw [← Table.sum_share ObligationTarget.isPartialInv_chargeItem, owedOnItems, owedOnItems,
    ← Table.sum_sub, settle, Table.sum_map]
  refine Table.sum_congr fun i _ => ?_
  simp only [ChargeItem.outstanding, ChargeItem.pay_paidAmount, decide_eq_true_eq]
  change (if p i.unitId ∧ s.isBilled i then
    i.amount - (i.paidAmount + share l (.chargeItem i.id)) else 0) = _
  split
  · ring
  · rfl

theorem owedOnAdjustments_settle (l : Settlement) :
    (s.settle l).owedOnAdjustments p = s.owedOnAdjustments p - (l.map fun e =>
      if (e.1.adjustmentId?.bind s.adjustments.find?).any fun a => p a.unitId ∧ 0 < a.amount
      then e.2 else 0).sum := by
  rw [← Table.sum_share ObligationTarget.isPartialInv_adjustment, owedOnAdjustments,
    owedOnAdjustments, ← Table.sum_sub, settle, Table.sum_map]
  refine Table.sum_congr fun a _ => ?_
  simp only [Adjustment.outstanding, Adjustment.pay_paidAmount, decide_eq_true_eq]
  change (if p a.unitId ∧ 0 < a.amount then
    a.amount - (a.paidAmount + share l (.adjustment a.id)) else 0) = _
  split
  · ring
  · rfl

/-- The obligation counts towards the debt of the unit. -/
def Counts (s : Store) (unitId : ℕ) : ObligationTarget → Prop
  | .chargeItem id =>
    ∃ i, s.chargeItems.find? id = some i ∧ i.unitId = unitId ∧ s.isBilled i = true
  | .adjustment id => ∃ a, s.adjustments.find? id = some a ∧ a.unitId = unitId ∧ 0 < a.amount

/-- Settling obligations of one unit lowers its debt by their total. -/
theorem owed_settle {l : Settlement} {unitId : ℕ} (hl : ∀ e ∈ l, s.Counts unitId e.1) :
    (s.settle l).owedOnItems p + (s.settle l).owedOnAdjustments p =
      s.owedOnItems p + s.owedOnAdjustments p - if p unitId then l.total else 0 := by
  have hsplit : ∀ e ∈ l,
      (if (e.1.chargeItemId?.bind s.chargeItems.find?).any fun i => p i.unitId ∧ s.isBilled i
        then e.2 else 0) +
      (if (e.1.adjustmentId?.bind s.adjustments.find?).any fun a => p a.unitId ∧ 0 < a.amount
        then e.2 else 0) = if p unitId then e.2 else 0 := by
    intro e he
    have hcounts := hl e he
    cases htarget : e.1 with
    | chargeItem id =>
      rw [htarget] at hcounts
      obtain ⟨i, hi, hunit, hbilled⟩ := hcounts
      simp [ObligationTarget.chargeItemId?, ObligationTarget.adjustmentId?, hi, hunit, hbilled]
    | adjustment id =>
      rw [htarget] at hcounts
      obtain ⟨a, ha, hunit, hpos⟩ := hcounts
      simp [ObligationTarget.chargeItemId?, ObligationTarget.adjustmentId?, ha, hunit, hpos]
  have htotal : (l.map fun e => if p unitId then e.2 else 0).sum =
      if p unitId then l.total else 0 := by
    split
    · rfl
    · simp
  have hsum := congrArg List.sum (List.map_congr_left hsplit)
  rw [List.sum_map_add, htotal] at hsum
  rw [owedOnItems_settle, owedOnAdjustments_settle, ← hsum]
  ring

/-- What is due counts. -/
theorem AdjustmentsOk.counts_of_due (h : s.AdjustmentsOk) {l : Settlement} {unitId : ℕ}
    (hl : l.Due s unitId) : ∀ e ∈ l, s.Counts unitId e.1 := by
  intro e he
  have hactive := hl.isActive e he
  have hle := hl.le e he
  have hpos := hl.pos e he
  cases htarget : e.1 with
  | chargeItem id =>
    rw [htarget] at hactive
    exact hactive
  | adjustment id =>
    rw [htarget] at hactive hle
    obtain ⟨a, ha, hunit⟩ := hactive
    have hmem := Table.mem_of_find? ha
    obtain rfl := Table.key_of_find? ha
    rw [outstandingOf_adjustment hmem, Adjustment.outstanding] at hle
    have hpaid := (h.adjustment_paid a hmem).1
    exact ⟨a, ha, hunit, by omega⟩

/-! ### How single writes move the figures -/

/-- Settling obligations of one unit. -/
theorem figures_settle {l : Settlement} {unitId : ℕ} (hl : ∀ e ∈ l, s.Counts unitId e.1) :
    (s.settle l).figures p =
      { s.figures p with
        netDebt := (s.figures p).netDebt - if p unitId then l.total else 0 } := by
  have howed := owed_settle (p := p) hl
  refine Figures.ext ?_ ?_ ?_ ?_ rfl
  · have hcredit : (s.settle l).credit p = s.credit p := rfl
    simp only [figures, hcredit, howed]
    ring
  · exact Table.sum_map _ _ (fun i => ChargeItem.pay_id _ i) _
  · exact Table.sum_map _ _ (fun a => Adjustment.pay_id _ a) _
  · exact Table.sum_map _ _ (fun a => Adjustment.pay_id _ a) _

/-- A write that leaves items, batches and adjustments alone moves credit and payments only. -/
theorem figures_of_books {t : Store} (hitems : t.chargeItems = s.chargeItems)
    (hbatches : t.chargeBatches = s.chargeBatches) (hadjustments : t.adjustments = s.adjustments) :
    t.figures p =
      { s.figures p with
        netDebt := (s.figures p).netDebt + (s.credit p - t.credit p)
        collected := (t.figures p).collected } := by
  have hbilled : t.isBilled = s.isBilled := by
    funext i
    rw [isBilled, isBilled, batchOf, batchOf, hbatches]
  refine Figures.ext ?_ ?_ ?_ ?_ rfl
  · simp only [figures, owedOnItems, owedOnAdjustments, hitems, hbilled, hadjustments]
    ring
  · simp only [figures, hitems, hbilled]
  · simp only [figures, hadjustments]
  · simp only [figures, hadjustments]

/-- Adding credit to one unit. -/
theorem CreditUnique.credit_upsert (h : s.CreditUnique) (unitId buildingId : ℕ) (a : ℤ) :
    (s.upsertCredit unitId buildingId a).credit p = s.credit p + if p unitId then a else 0 := by
  rw [upsertCredit, credit]
  cases hc : s.creditBalanceOf unitId with
  | none => exact Table.sum_create _ _ _ _
  | some c =>
    obtain ⟨hmem, rfl⟩ := creditBalanceOf_eq_some hc
    have hsplit : ∀ r ∈ s.creditBalances,
        (if p (if r.unitId = c.unitId then { r with balance := r.balance + a } else r).unitId then
          (if r.unitId = c.unitId then { r with balance := r.balance + a } else r).balance else 0) =
        (if p r.unitId then r.balance else 0) +
          if r.unitId = c.unitId then (if p c.unitId then a else 0) else 0 := by
      intro r _
      by_cases hunit : r.unitId = c.unitId
      · by_cases hp : p c.unitId <;> simp [hunit, hp]
      · simp [hunit]
    have hsum := h.sum_ite_unit hmem fun _ => if p c.unitId then a else 0
    rw [credit, ← hsum, ← Table.sum_add, ← Table.sum_congr hsplit]
    simp only [Table.updateMany, Table.sum_map, decide_eq_true_eq]

/-- A status change of a payment. -/
theorem collected_modify {k : ℕ} (f : Payment → Payment) (hid : ∀ q, (f q).id = q.id)
    {payment : Payment} (hfind : s.payments.find? k = some payment) :
    ({ s with payments := s.payments.modify k f hid } : Store).figures p =
      { s.figures p with
        collected := (s.figures p).collected +
          ((if p (f payment).unitId ∧ (f payment).status = .approved then (f payment).amount
            else 0) -
          if p payment.unitId ∧ payment.status = .approved then payment.amount else 0) } :=
  Figures.ext rfl rfl rfl rfl (Table.sum_modify (h := hid) hfind _)

/-- The items of a batch that belong to the units. -/
def batchTotal (s : Store) (p : ℕ → Bool) (chargeBatchId : ℕ) : ℤ :=
  ((s.itemsOfBatch chargeBatchId).map fun i => if p i.unitId then i.amount else 0).sum

/-- Writing the status of a batch of which nothing is paid. -/
theorem Valid.figures_setBatchStatus (h : s.Valid) {k : ℕ} (status : ChargeBatchStatus)
    {batch : ChargeBatch} (hfind : s.chargeBatches.find? k = some batch)
    (hunpaid : ∀ i ∈ s.itemsOfBatch k, i.paidAmount = 0) :
    (s.setBatchStatus k status).figures p =
      { s.figures p with
        netDebt := (s.figures p).netDebt +
          ((if status.isBilled then s.batchTotal p k else 0) -
            if batch.status.isBilled then s.batchTotal p k else 0)
        billed := (s.figures p).billed +
          ((if status.isBilled then s.batchTotal p k else 0) -
            if batch.status.isBilled then s.batchTotal p k else 0) } := by
  have hwas : ∀ i ∈ s.chargeItems, i.chargeBatchId = k → s.isBilled i = batch.status.isBilled := by
    intro i _ hk
    rw [isBilled, batchOf, hk, hfind]
    rfl
  have hamount : ∀ i ∈ s.chargeItems, i.chargeBatchId = k → i.outstanding = i.amount := by
    intro i hi hk
    rw [ChargeItem.outstanding, hunpaid i (mem_itemsOfBatch.mpr ⟨hi, hk⟩), sub_zero]
  have htotal : ∀ c : Bool, (if c then s.batchTotal p k else 0) = s.chargeItems.sum fun i =>
      if i.chargeBatchId = k then (if p i.unitId ∧ c then i.amount else 0) else 0 := by
    intro c
    cases c with
    | false => exact (Table.sum_eq_zero fun i _ => by simp).symm
    | true => exact (Table.sum_filter _ _ _).trans (Table.sum_congr fun i _ => by simp)
  -- a weight of the items that is their amount on the items of the batch
  have hmove : ∀ f : ChargeItem → ℤ, (∀ i ∈ s.chargeItems, i.chargeBatchId = k → f i = i.amount) →
      (s.chargeItems.sum fun i =>
        if p i.unitId ∧ (s.setBatchStatus k status).isBilled i then f i else 0) =
      (s.chargeItems.sum fun i => if p i.unitId ∧ s.isBilled i then f i else 0) +
        ((if status.isBilled then s.batchTotal p k else 0) -
          if batch.status.isBilled then s.batchTotal p k else 0) := by
    intro f hf
    rw [htotal, htotal, ← Table.sum_sub, ← Table.sum_add]
    refine Table.sum_congr fun i hi => ?_
    rw [isBilled_setBatchStatus (h.toItemsOk.batchOf_isSome hi)]
    by_cases hk : i.chargeBatchId = k
    · simp only [hk, if_true, hwas i hi hk, hf i hi hk]
      ring
    · simp only [hk, if_false, sub_zero, add_zero]
  refine Figures.ext ?_ (hmove _ fun _ _ _ => rfl) rfl rfl rfl
  have hitems : (s.setBatchStatus k status).owedOnItems p = s.owedOnItems p +
      ((if status.isBilled then s.batchTotal p k else 0) -
        if batch.status.isBilled then s.batchTotal p k else 0) := hmove _ hamount
  have hadjustments : (s.setBatchStatus k status).owedOnAdjustments p = s.owedOnAdjustments p := rfl
  have hcredit : (s.setBatchStatus k status).credit p = s.credit p := rfl
  simp only [figures, hitems, hadjustments, hcredit]
  ring

/-- Adding an adjustment of which nothing is paid. -/
theorem figures_createAdjustment (row : ℕ → Adjustment) (hid : ∀ id, (row id).id = id)
    (hpaid : (row s.adjustments.next).paidAmount = 0) :
    ({ s with adjustments := s.adjustments.create row hid } : Store).figures p =
      { s.figures p with
        netDebt := (s.figures p).netDebt +
          if p (row s.adjustments.next).unitId then max 0 (row s.adjustments.next).amount else 0
        added := (s.figures p).added +
          if p (row s.adjustments.next).unitId ∧
            (row s.adjustments.next).sourceType ≠ some .openingBalanceCorrection
          then max 0 (row s.adjustments.next).amount else 0
        opening := (s.figures p).opening +
          if p (row s.adjustments.next).unitId ∧
            (row s.adjustments.next).sourceType = some .openingBalanceCorrection
          then (row s.adjustments.next).amount else 0 } := by
  set r := row s.adjustments.next with hr
  have hmax : 0 < r.amount ∧ max 0 r.amount = r.amount ∨
      ¬ 0 < r.amount ∧ max 0 r.amount = 0 := by omega
  refine Figures.ext ?_ rfl ?_ (Table.sum_create _ _ hid _) rfl
  · have howed : ({ s with adjustments := s.adjustments.create row hid } :
        Store).owedOnAdjustments p = s.owedOnAdjustments p +
          if p r.unitId ∧ 0 < r.amount then r.outstanding else 0 := Table.sum_create _ _ hid _
    have hrow : (if p r.unitId ∧ 0 < r.amount then r.outstanding else 0) =
        if p r.unitId then max 0 r.amount else 0 := by
      rw [Adjustment.outstanding, hpaid, sub_zero]
      rcases hmax with ⟨hpos, hmax⟩ | ⟨hpos, hmax⟩ <;> simp [hpos, hmax]
    have hitems : ({ s with adjustments := s.adjustments.create row hid } : Store).owedOnItems p =
        s.owedOnItems p := rfl
    have hcredit : ({ s with adjustments := s.adjustments.create row hid } : Store).credit p =
        s.credit p := rfl
    simp only [figures, howed, hrow, hitems, hcredit]
    ring
  · refine (Table.sum_create _ _ hid _).trans (congrArg _ ?_)
    rcases hmax with ⟨hpos, hmax⟩ | ⟨hpos, hmax⟩ <;> simp [← hr, hpos, hmax]

/-! ### How the transactions move the figures -/

/-- A new batch is a draft, so its items do not count. -/
theorem Valid.figures_withBatch (h : s.Valid) (params : CreateChargeBatchParams) (now : Time) :
    (s.withBatch params now).figures p = s.figures p := by
  have hdraft : ∀ (x : ChargeItemInput) (n : ℕ),
      (s.withBatch params now).isBilled (x.row s.chargeBatches.next now n) = false := by
    intro x n
    have hbatch : (s.withBatch params now).batchOf (x.row s.chargeBatches.next now n) =
        some (params.row now s.chargeBatches.next) := by
      rw [batchOf, Store.withBatch, ChargeItemInput.row, Table.find?_create, if_pos rfl]
    rw [isBilled, hbatch]
    rfl
  have hsum : ∀ f : ChargeItem → ℤ, ((s.withBatch params now).chargeItems.sum fun i =>
      if p i.unitId ∧ (s.withBatch params now).isBilled i then f i else 0) =
      s.chargeItems.sum fun i => if p i.unitId ∧ s.isBilled i then f i else 0 := by
    intro f
    refine (Table.sum_createMany _ _ _ _ _ (fun _ => 0) fun x n => ?_).trans ?_
    · simp [hdraft]
    · have hnew : (params.items.map fun _ => (0 : ℤ)).sum = 0 := by simp
      rw [hnew, add_zero]
      exact Table.sum_congr fun i hi => by rw [isBilled_withBatch h.toItemsOk hi]
  refine Figures.ext ?_ (hsum _) rfl rfl rfl
  have hitems : (s.withBatch params now).owedOnItems p = s.owedOnItems p := hsum _
  have hadjustments : (s.withBatch params now).owedOnAdjustments p = s.owedOnAdjustments p := rfl
  have hcredit : (s.withBatch params now).credit p = s.credit p := rfl
  simp only [figures, hitems, hadjustments, hcredit]

/-- What a plan takes from the credit of the units. -/
theorem CreditUnique.sum_creditSpent (h : s.CreditUnique) {plan : List (ChargeItem × ℤ)}
    (hplan : ∀ e ∈ plan, ∃ c ∈ s.creditBalances, c.unitId = e.1.unitId) :
    (s.creditBalances.sum fun c => if p c.unitId then creditSpent plan c.unitId else 0) =
      (plan.map fun e => if p e.1.unitId then e.2 else 0).sum := by
  induction plan with
  | nil => exact Table.sum_eq_zero fun c _ => by simp
  | cons e plan ih =>
    obtain ⟨c, hc, hunit⟩ := hplan e List.mem_cons_self
    have hfirst := h.sum_ite_unit hc fun _ => if p e.1.unitId then e.2 else 0
    rw [List.map_cons, List.sum_cons, ← ih fun e he => hplan e (List.mem_cons_of_mem _ he),
      ← hfirst, ← Table.sum_add]
    refine Table.sum_congr fun r _ => ?_
    rw [creditSpent_cons, hunit]
    by_cases heq : r.unitId = e.1.unitId
    · by_cases hp : p e.1.unitId <;> simp [heq, hp]
    · have heq' : ¬ e.1.unitId = r.unitId := fun he => heq he.symm
      by_cases hp : p r.unitId <;> simp [heq, heq', hp]

/-- What the applied credit takes from the credit of the units. -/
theorem CreditUnique.credit_creditApplied (h : s.CreditUnique) (buildingId fundId : ℕ)
    (now : Time) {plan : List (ChargeItem × ℤ)}
    (hcredit : ∀ e ∈ plan, ∃ c ∈ s.creditBalances, c.unitId = e.1.unitId) :
    (s.creditApplied buildingId fundId now plan).credit p = s.credit p -
      (plan.map fun e => if p e.1.unitId then e.2 else 0).sum := by
  rw [← h.sum_creditSpent hcredit, credit, credit, ← Table.sum_sub, creditApplied, spendCredit,
    Table.sum_map]
  refine Table.sum_congr fun c _ => ?_
  by_cases hp : p c.unitId <;> simp [hp]

/-- Paying billed items from the credit of their units leaves the net debt unchanged. -/
theorem CreditUnique.figures_creditApplied (h : s.CreditUnique) (buildingId fundId : ℕ)
    (now : Time) {plan : List (ChargeItem × ℤ)}
    (hitems : ∀ e ∈ plan, s.chargeItems.find? e.1.id = some e.1 ∧ s.isBilled e.1)
    (hcredit : ∀ e ∈ plan, ∃ c ∈ s.creditBalances, c.unitId = e.1.unitId) :
    (s.creditApplied buildingId fundId now plan).figures p = s.figures p := by
  have hpaid : (s.creditApplied buildingId fundId now plan).owedOnItems p = s.owedOnItems p -
      (plan.map fun e => if p e.1.unitId then e.2 else 0).sum := by
    refine (owedOnItems_settle (itemSettlement plan)).trans ?_
    rw [itemSettlement, List.map_map]
    congr 2
    refine List.map_congr_left fun e he => ?_
    obtain ⟨hfind, hbilled⟩ := hitems e he
    simp [ObligationTarget.chargeItemId?, hfind, hbilled]
  have hadjustments : (s.creditApplied buildingId fundId now plan).owedOnAdjustments p =
      s.owedOnAdjustments p := by
    refine (owedOnAdjustments_settle (itemSettlement plan)).trans ?_
    rw [itemSettlement, List.map_map, List.sum_eq_zero, sub_zero]
    intro x hx
    obtain ⟨e, -, rfl⟩ := List.mem_map.mp hx
    simp [ObligationTarget.adjustmentId?]
  have hspent := h.credit_creditApplied (p := p) buildingId fundId now hcredit
  refine Figures.ext ?_ (Table.sum_map _ _ (fun i => ChargeItem.pay_id _ i) _)
    (Table.sum_map _ _ (fun a => Adjustment.pay_id _ a) _)
    (Table.sum_map _ _ (fun a => Adjustment.pay_id _ a) _) rfl
  simp only [figures, hpaid, hadjustments, hspent]
  ring

/-- Nothing is paid on the items of a draft. -/
theorem ItemsOk.unpaid_of_draft (h : s.ItemsOk) {k : ℕ} {batch : ChargeBatch}
    (hfind : s.chargeBatches.find? k = some batch) (hdraft : batch.status = .draft) :
    ∀ i ∈ s.itemsOfBatch k, i.paidAmount = 0 := by
  intro i hi
  obtain ⟨hmem, hk⟩ := mem_itemsOfBatch.mp hi
  refine h.item_unbilled i hmem ?_
  rw [isBilled, batchOf, hk, hfind, Option.any_some, hdraft]
  rfl

/-- Issuing a batch bills its items; the credit it applies changes nothing. -/
theorem Valid.figures_issued (h : s.Valid) {s' : Store} {params : IssueChargeBatchParams}
    {now : Time} {batch : ChargeBatch} {plan : List (ChargeItem × ℤ)}
    (heffect : IssueEffect params now s s' batch plan) :
    s'.figures p =
      { s.figures p with
        netDebt := (s.figures p).netDebt + s.batchTotal p params.chargeBatchId
        billed := (s.figures p).billed + s.batchTotal p params.chargeBatchId } := by
  have hunpaid := h.toItemsOk.unpaid_of_draft heffect.find heffect.draft
  have hstatus := h.figures_setBatchStatus (p := p) .issued heffect.find hunpaid
  have hcredit : (s.setBatchStatus params.chargeBatchId .issued).CreditUnique := h.credit_unique
  have happlied := hcredit.figures_creditApplied (p := p) params.buildingId batch.fundId now
    (fun e he => ?_) heffect.plan_ok.credit
  · rw [heffect.store_eq]
    change ((s.setBatchStatus params.chargeBatchId .issued).creditApplied params.buildingId
      batch.fundId now plan).figures p = _
    rw [happlied, hstatus, heffect.draft]
    simp [ChargeBatchStatus.isBilled]
  · obtain ⟨hmem, hk⟩ :=
      mem_itemsOfBatch.mp (heffect.plan_ok.sublist.subset (List.mem_map_of_mem he))
    refine ⟨Table.find?_of_mem hmem, ?_⟩
    rw [isBilled_setBatchStatus (h.toItemsOk.batchOf_isSome hmem), if_pos hk]
    rfl

/-- Cancelling an issued batch takes its items out, cancelling a draft nothing. -/
theorem Valid.figures_cancelled (h : s.Valid) {s' : Store} {params : CancelChargeBatchParams}
    {batch : ChargeBatch} (heffect : CancellationEffect params s s' batch) :
    s'.figures p =
      { s.figures p with
        netDebt := (s.figures p).netDebt -
          if batch.status = .issued then s.batchTotal p params.chargeBatchId else 0
        billed := (s.figures p).billed -
          if batch.status = .issued then s.batchTotal p params.chargeBatchId else 0 } := by
  have hunpaid : ∀ i ∈ s.itemsOfBatch params.chargeBatchId, i.paidAmount = 0 := fun i hi =>
    le_antisymm (heffect.unpaid i hi) (h.item_paid i (mem_itemsOfBatch.mp hi).1).1
  rw [heffect.store_eq, h.figures_setBatchStatus .cancelled heffect.find hunpaid]
  rcases heffect.open' with hstatus | hstatus <;>
    simp [hstatus, ChargeBatchStatus.isBilled, sub_eq_add_neg]

/-- An adjustment adds its amount or applies what it waives. -/
theorem Valid.figures_adjusted (h : s.Valid) {params : CreateAdjustmentParams}
    (hsource : params.sourceType ≠ some .openingBalanceCorrection) (now : Time) :
    (s.adjusted params now).figures p =
      { s.figures p with
        netDebt := (s.figures p).netDebt + if p params.unitId then max 0 params.amount -
          (s.waiverSettlement params.unitId params.amount).total else 0
        added := (s.figures p).added + if p params.unitId then max 0 params.amount else 0 } := by
  set l := s.waiverSettlement params.unitId params.amount with hl
  have hcounts := h.toAdjustmentsOk.counts_of_due
    (due_waiverSettlement s params.unitId params.amount)
  have hadjustments : (s.settle l).adjustments = s.adjustments := by
    rw [hl, waiverSettlement]
    split
    · exact settle_itemSettlement_adjustments s _
    · rw [settle_nil h.item_status]
  have hrow := figures_createAdjustment (s := s.settle l) (p := p) (params.row now)
    (fun _ => rfl) rfl
  have hstore : (s.adjusted params now).figures p = ({ s.settle l with
      adjustments := (s.settle l).adjustments.create (params.row now) fun _ => rfl } :
      Store).figures p := by
    rw [Store.adjusted, hadjustments]
    rfl
  rw [hstore, hrow, figures_settle hcounts]
  simp only [CreateAdjustmentParams.row, hsource, ne_eq, not_false_iff, and_true, and_false,
    if_false, add_zero]
  refine Figures.ext ?_ rfl rfl rfl rfl
  by_cases hp : p params.unitId
  · simp only [hp, if_true, ← hl]
    ring
  · simp [hp]

/-- What a downward correction settles is at most the difference. -/
theorem total_correctionSettlement_le (s : Store) (unitId : ℕ) (delta : ℤ) :
    (s.correctionSettlement unitId delta).total ≤ |delta| := by
  rw [correctionSettlement]
  split
  · rw [total_adjustmentSettlement]
    exact poured_le _ (abs_nonneg delta)
  · exact abs_nonneg delta

/-- What a correction adds to the credit of its unit: what it lowers the balance by and does
not settle. -/
theorem CreditUnique.credit_corrected (h : s.CreditUnique)
    (params : ApplyOpeningBalanceCorrectionParams) (now : Time) (delta : ℤ) :
    (s.corrected params now delta).credit p = s.credit p + if p params.unitId ∧ delta < 0 then
      |delta| - (s.correctionSettlement params.unitId delta).total else 0 := by
  set l := s.correctionSettlement params.unitId delta with hl
  have hle : l.total ≤ |delta| := total_correctionSettlement_le s params.unitId delta
  have hrows : (s.corrected params now delta).creditBalances =
      if delta < 0 ∧ 0 < |delta| - l.total then (s.upsertCredit params.unitId params.buildingId
        (|delta| - l.total)).creditBalances else s.creditBalances := rfl
  rw [credit, hrows]
  by_cases hspill : delta < 0 ∧ 0 < |delta| - l.total
  · rw [if_pos hspill]
    simp only [hspill.1, and_true]
    exact CreditUnique.credit_upsert h params.unitId params.buildingId _
  · rw [if_neg hspill]
    have hzero : ¬ delta < 0 ∨ |delta| - l.total = 0 := by omega
    rcases hzero with hzero | hzero
    · simp only [hzero, and_false, if_false, add_zero]
      rfl
    · simp only [hzero, ite_self, add_zero]
      rfl

/-- A correction moves the net debt and the opening balance by the difference. -/
theorem Valid.figures_corrected (h : s.Valid) (params : ApplyOpeningBalanceCorrectionParams)
    (now : Time) (delta : ℤ) :
    (s.corrected params now delta).figures p =
      { s.figures p with
        netDebt := (s.figures p).netDebt + if p params.unitId then delta else 0
        opening := (s.figures p).opening + if p params.unitId then delta else 0 } := by
  set l := s.correctionSettlement params.unitId delta with hl
  have hcounts := h.toAdjustmentsOk.counts_of_due
    (due_correctionSettlement s params.unitId delta)
  have hup : 0 ≤ delta → l.total = 0 := by
    intro hdelta
    rw [hl, correctionSettlement, if_neg (not_lt.mpr hdelta)]
    rfl
  have hcredit := CreditUnique.credit_corrected (p := p) h.credit_unique params now delta
  have hrow := figures_createAdjustment (s := s.settle l) (p := p) (params.row now delta)
    (fun _ => rfl) rfl
  have hbooks := figures_of_books (p := p) (s := { s.settle l with
    adjustments := (s.settle l).adjustments.create (params.row now delta) fun _ => rfl })
    (t := s.corrected params now delta) rfl rfl rfl
  have hcollected : ((s.corrected params now delta).figures p).collected =
    (s.figures p).collected := rfl
  rw [hbooks, hrow, figures_settle hcounts, hcredit, hcollected]
  have hbefore : ({ s.settle l with
    adjustments := (s.settle l).adjustments.create (params.row now delta) fun _ => rfl } :
    Store).credit p = s.credit p := rfl
  simp only [ApplyOpeningBalanceCorrectionParams.row, hbefore, ne_eq, not_true_eq_false, and_false,
    and_true, if_false, add_zero]
  refine Figures.ext ?_ rfl rfl rfl rfl
  by_cases hp : p params.unitId
  · simp only [hp, if_true, true_and, ← hl]
    rcases lt_or_ge delta 0 with hneg | hpos
    · rw [if_pos hneg, max_eq_left hneg.le, abs_of_neg hneg]
      ring
    · rw [if_neg (not_lt.mpr hpos), max_eq_right hpos, hup hpos]
      ring
  · simp [hp]

/-- A pending payment moves nothing. -/
theorem figures_withPayment (params : CreatePaymentParams) (now : Time) :
    (s.withPayment params now).figures p = s.figures p := by
  refine Figures.ext rfl rfl rfl rfl ?_
  refine (Table.sum_create _ (params.row now) (fun _ => rfl) _).trans ?_
  simp [CreatePaymentParams.row, figures]

theorem figures_withExplicitPayment {s' : Store} {params : CreateExplicitPaymentParams}
    {now : Time} {fundId : ℕ} (heffect : ExplicitEffect params now s s' fundId) :
    s'.figures p = s.figures p := by
  rw [heffect.store_eq]
  refine Figures.ext rfl rfl rfl rfl ?_
  refine (Table.sum_create _ (params.row fundId _ now) (fun _ => rfl) _).trans ?_
  simp [CreateExplicitPaymentParams.row, figures]

theorem figures_rejected {paymentId : ℕ} {reason : Option String} {payment : Payment}
    (hfind : s.payments.find? paymentId = some payment)
    (hpending : payment.status = .pendingApproval) :
    (s.rejected paymentId reason payment.selectionMode).figures p = s.figures p := by
  have hmodify := collected_modify (p := p) (Payment.reject reason) (fun _ => rfl) hfind
  refine Eq.trans ?_ (hmodify.trans ?_)
  · rfl
  · simp [Payment.reject, hpending]

/-- What an approved payment adds to the credit of its unit: what it does not settle. -/
theorem CreditUnique.credit_approved (h : s.CreditUnique) {s' : Store}
    {params : ApprovePaymentParams} {now : Time} {payment : Payment} {l : Settlement}
    (heffect : ApprovalEffect params now s s' payment l) :
    s'.credit p = s.credit p + if p params.unitId then params.amount - l.total else 0 := by
  have hrows : s'.creditBalances = if 0 < params.amount - l.total then (s.upsertCredit
      params.unitId params.buildingId (params.amount - l.total)).creditBalances
      else s.creditBalances := by
    rw [heffect.store_eq]
    rfl
  rw [credit, hrows]
  by_cases hpos : 0 < params.amount - l.total
  · rw [if_pos hpos]
    exact CreditUnique.credit_upsert h params.unitId params.buildingId _
  · have hzero : params.amount - l.total = 0 := by
      have := heffect.total_le
      omega
    rw [if_neg hpos, hzero, ite_self, add_zero]
    rfl

/-- Approving a payment lowers the net debt of its unit by its amount. -/
theorem Valid.figures_approved (h : s.Valid) {s' : Store} {params : ApprovePaymentParams}
    {now : Time} {payment : Payment} {l : Settlement}
    (heffect : ApprovalEffect params now s s' payment l) (hunit : payment.unitId = params.unitId)
    (hamount : payment.amount = params.amount) :
    s'.figures p =
      { s.figures p with
        netDebt := (s.figures p).netDebt - if p payment.unitId then payment.amount else 0
        collected := (s.figures p).collected + if p payment.unitId then payment.amount else 0 } := by
  have hcounts := h.toAdjustmentsOk.counts_of_due heffect.due
  have hmodify := collected_modify (s := s) (p := p) (params.approve now)
    (fun _ => rfl) heffect.find
  have hcollected : (s'.figures p).collected =
      (s.figures p).collected + if p payment.unitId then payment.amount else 0 := by
    rw [heffect.store_eq]
    refine (congrArg Figures.collected hmodify).trans ?_
    simp [ApprovePaymentParams.approve, heffect.pending]
  have hcredit := CreditUnique.credit_approved (p := p) h.credit_unique heffect
  rw [← hunit, ← hamount] at hcredit
  have hbooks := figures_of_books (s := s.settle l) (t := s') (p := p)
    (by rw [heffect.store_eq]; rfl) (by rw [heffect.store_eq]; rfl) (by rw [heffect.store_eq]; rfl)
  rw [hbooks, hcollected, figures_settle hcounts, hcredit]
  refine Figures.ext ?_ rfl rfl rfl rfl
  have hbefore : (s.settle l).credit p = s.credit p := rfl
  simp only [hbefore, ← hunit]
  split <;> ring

/-- Reversing a payment raises the net debt of its unit by its amount. -/
theorem Valid.figures_reversed (h : s.Valid) {s' : Store} {params : ReversePaymentParams}
    {now : Time} {payment : Payment} (heffect : ReversalEffect params now s s' payment) :
    s'.figures p =
      { s.figures p with
        netDebt := (s.figures p).netDebt + if p payment.unitId then payment.amount else 0
        collected := (s.figures p).collected - if p payment.unitId then payment.amount else 0 } := by
  set l := reversalSettlement (s.allocationsOf params.paymentId) with hl
  have hcovered := h.covered heffect.find heffect.approved
  have hcounts : ∀ e ∈ l, s.Counts payment.unitId e.1 := by
    intro e he
    obtain ⟨a, ha, rfl⟩ := List.mem_map.mp he
    obtain ⟨hactive, hpaid⟩ := hcovered a ha
    cases htarget : a.target with
    | chargeItem id =>
      rw [htarget] at hactive
      exact hactive
    | adjustment id =>
      rw [htarget] at hactive hpaid
      obtain ⟨r, hr, hunit⟩ := hactive
      have hmem := Table.mem_of_find? hr
      obtain rfl := Table.key_of_find? hr
      rw [paidOf_adjustment hmem] at hpaid
      have hpos := h.allocation_pos a (List.mem_filter.mp ha).1
      have hle := (h.adjustment_paid r hmem).2
      exact ⟨r, hr, hunit, by omega⟩
  have htotal : l.total = -payment.amount := by
    rw [← heffect.allocated, hl, Settlement.total, reversalSettlement, List.map_map, allocatedTotal]
    induction s.allocationsOf params.paymentId with
    | nil => rfl
    | cons a rest ih => simp_all; omega
  have hmodify := collected_modify (s := s) (p := p) (Payment.reverse now)
    (fun _ => rfl) heffect.find
  have hcollected : (s'.figures p).collected =
      (s.figures p).collected - if p payment.unitId then payment.amount else 0 := by
    rw [heffect.store_eq]
    refine (congrArg Figures.collected hmodify).trans ?_
    simp [Payment.reverse, heffect.approved, sub_eq_add_neg]
  have hbooks := figures_of_books (s := s.settle l) (t := s') (p := p)
    (by rw [heffect.store_eq]; rfl) (by rw [heffect.store_eq]; rfl) (by rw [heffect.store_eq]; rfl)
  have hcredit : s'.credit p = (s.settle l).credit p := by
    rw [heffect.store_eq]
    rfl
  rw [hbooks, hcollected, figures_settle hcounts, hcredit, htotal]
  refine Figures.ext ?_ rfl rfl rfl rfl
  simp only [sub_self, add_zero]
  split <;> ring

end Store

end VielHome.Finance
