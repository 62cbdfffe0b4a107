import VielHome.Finance.Invariant.Valid

/-!
# Single writes keep the invariant

Most transactions are a sequence of writes each of which keeps the whole invariant. These
writes are treated here, one theorem each: posting entries, moving a fund's balance
together with its statement, changing the status of a batch, settling obligations, adding
an adjustment, and adding to or spending credit.
-/

namespace VielHome.Finance

open Relational

namespace Store

variable {s : Store}

/-! ### Funds and the ledger -/

@[simp] theorem fundBuilding_modify (s : Store) (k : ℕ) {g : Fund → Fund}
    {hid : ∀ f, (g f).id = f.id} (hg : ∀ f, (g f).buildingId = f.buildingId) (id : ℕ) :
    ({ s with funds := s.funds.modify k g hid } : Store).fundBuilding id = s.fundBuilding id :=
  Table.map_find?_modify (h := hid) hg id

@[simp] theorem fundBuilding_moveBalance (s : Store) (k : ℕ) (x : ℤ) (id : ℕ) :
    (s.moveBalance k x).fundBuilding id = s.fundBuilding id := by
  rw [moveBalance, fundBuilding_modify]
  exact fun _ => rfl

theorem mem_moveBalance {k : ℕ} {x : ℤ} {f : Fund} :
    f ∈ (s.moveBalance k x).funds ↔
      ∃ f' ∈ s.funds, (if f'.id = k then { f' with balance := f'.balance + x } else f') = f := by
  rw [moveBalance, Table.mem_modify]

/-- Rows keep their references when no fund moves to another building. -/
theorem ReferencesOk.withFunds (h : s.ReferencesOk) {funds : Table Fund Fund.id}
    (hmono : ∀ id b, s.fundBuilding id = some b →
      ({ s with funds } : Store).fundBuilding id = some b) :
    ({ s with funds } : Store).ReferencesOk :=
  { h with
    entry_fund := fun e he => hmono _ _ (h.entry_fund e he)
    batch_fund := fun b hb => hmono _ _ (h.batch_fund b hb)
    adjustment_fund := fun a ha => hmono _ _ (h.adjustment_fund a ha)
    payment_fund := fun p hp => hmono _ _ (h.payment_fund p hp)
    expense_fund := fun e he => hmono _ _ (h.expense_fund e he) }

/-- Writes to a fund that keep its building and balance. -/
theorem Valid.modifyFund (h : s.Valid) (k : ℕ) {g : Fund → Fund} {hid : ∀ f, (g f).id = f.id}
    (hbuilding : ∀ f, (g f).buildingId = f.buildingId) (hbalance : ∀ f, (g f).balance = f.balance) :
    ({ s with funds := s.funds.modify k g hid } : Store).Valid :=
  { h.toReferencesOk.withFunds fun id b hb => (fundBuilding_modify s k hbuilding id).trans hb, h with
    fund_balance := by
      intro f hf
      obtain ⟨f', hf', rfl⟩ := (Table.mem_modify (h := hid)).mp hf
      split
      · rw [hbalance, hid]
        exact h.fund_balance f' hf'
      · exact h.fund_balance f' hf' }

/-- Posting an entry that no statement lists. -/
theorem Valid.postEntry (h : s.Valid) (entry : ℕ → LedgerEntry) (hid : ∀ id, (entry id).id = id)
    (hquiet : (entry s.ledger.next).onStatement = false)
    (hfund : s.fundBuilding (entry s.ledger.next).fundId =
      some (entry s.ledger.next).buildingId) :
    (s.postEntry entry hid).Valid :=
  { h with
    fund_balance := by
      intro f hf
      rw [h.fund_balance f hf, statementTotal, statementTotal, Store.postEntry, Table.sum_create]
      simp [hquiet]
    entry_fund := by
      intro e he
      rcases (Table.mem_create (h := hid)).mp he with he | rfl
      · exact h.entry_fund e he
      · exact hfund }

/-- Posting one such entry for every element of a list. -/
theorem Valid.postEntries (h : s.Valid) {α : Type} (xs : List α) (entry : α → ℕ → LedgerEntry)
    (hid : ∀ x id, (entry x id).id = id) (hquiet : ∀ x ∈ xs, ∀ id, (entry x id).onStatement = false)
    (hfund : ∀ x ∈ xs, ∀ id, s.fundBuilding (entry x id).fundId = some (entry x id).buildingId) :
    ({ s with ledger := s.ledger.createMany xs entry hid } : Store).Valid := by
  induction xs generalizing s with
  | nil => exact h
  | cons x xs ih =>
    have hfirst : (s.postEntry (entry x) (hid x)).Valid :=
      h.postEntry (entry x) (hid x) (hquiet x List.mem_cons_self _) (hfund x List.mem_cons_self _)
    exact ih hfirst (fun y hy => hquiet y (List.mem_cons_of_mem _ hy))
      fun y hy => hfund y (List.mem_cons_of_mem _ hy)

/-- Posting an entry on a fund's statement and moving the balance by its signed amount. -/
theorem Valid.postMoved (h : s.Valid) (entry : ℕ → LedgerEntry) (hid : ∀ id, (entry id).id = id)
    (hstatement : (entry s.ledger.next).onStatement = true)
    (hfund : s.fundBuilding (entry s.ledger.next).fundId =
      some (entry s.ledger.next).buildingId) :
    ((s.postEntry entry hid).moveBalance (entry s.ledger.next).fundId
      (entry s.ledger.next).signedAmount).Valid := by
  set e := entry s.ledger.next with he
  set s₁ := s.postEntry entry hid with hs₁
  have hreferences : s₁.ReferencesOk :=
    { h.toReferencesOk with
      entry_fund := by
        intro e' he'
        rcases (Table.mem_create (h := hid)).mp he' with he' | rfl
        · exact h.entry_fund e' he'
        · exact hfund }
  have hmono : ∀ id b, s₁.fundBuilding id = some b →
      (s₁.moveBalance e.fundId e.signedAmount).fundBuilding id = some b :=
    fun id b hb => (fundBuilding_moveBalance s₁ _ _ id).trans hb
  have htotal : ∀ id, (s₁.moveBalance e.fundId e.signedAmount).statementTotal id =
      s.statementTotal id + if e.fundId = id then e.signedAmount else 0 := by
    intro id
    refine (Table.sum_create s.ledger entry hid _).trans ?_
    simp [statementTotal, ← he, hstatement]
  exact
    { hreferences.withFunds hmono, h with
      fund_balance := by
        intro f hf
        obtain ⟨f', hf', rfl⟩ := mem_moveBalance.mp hf
        rw [htotal]
        by_cases hid : f'.id = e.fundId
        · rw [if_pos hid, if_pos hid.symm]
          exact congrArg (· + e.signedAmount) (h.fund_balance f' hf')
        · rw [if_neg hid, if_neg (Ne.symm hid), add_zero]
          exact h.fund_balance f' hf' }

/-! ### Settling -/

/-- Every row stays within its bounds when it receives its share, and nothing is paid on an
item that is not billed. -/
structure Admissible (s : Store) (l : Settlement) : Prop where
  item : ∀ i ∈ s.chargeItems, 0 ≤ i.paidAmount + share l (.chargeItem i.id) ∧
    i.paidAmount + share l (.chargeItem i.id) ≤ i.amount
  unbilled : ∀ i ∈ s.chargeItems, s.isBilled i = false → share l (.chargeItem i.id) = 0
  adjustment : ∀ a ∈ s.adjustments, 0 ≤ a.paidAmount + share l (.adjustment a.id) ∧
    a.paidAmount + share l (.adjustment a.id) ≤ max 0 a.amount

/-- A settlement that is due is admissible. -/
theorem Admissible.of_due (hi : s.ItemsOk) (ha : s.AdjustmentsOk) {l : Settlement} {unitId : ℕ}
    (hl : l.Due s unitId) : s.Admissible l where
  item i hmem := by
    obtain ⟨hnonneg, hle⟩ := hi.item_paid i hmem
    have hshare : share l (.chargeItem i.id) ≤ i.outstanding := by
      refine share_le hl.nodup (sub_nonneg.mpr hle) fun e he heq => ?_
      rw [← outstandingOf_chargeItem hmem, ← heq]
      exact hl.le e he
    have := share_nonneg (fun e he => (hl.pos e he).le) (.chargeItem i.id)
    rw [ChargeItem.outstanding] at hshare
    constructor <;> omega
  unbilled i hmem hbilled := by
    refine share_of_forall_ne fun e he heq => ?_
    have hactive := hl.isActive e he
    rw [heq] at hactive
    obtain ⟨i', hi', -, hbilled'⟩ := hactive
    obtain rfl : i' = i := Option.some.inj (hi'.symm.trans (Table.find?_of_mem hmem))
    rw [hbilled] at hbilled'
    exact absurd hbilled' (by simp)
  adjustment a hmem := by
    obtain ⟨hnonneg, hle⟩ := ha.adjustment_paid a hmem
    have hshare : share l (.adjustment a.id) ≤ max 0 a.amount - a.paidAmount := by
      refine share_le hl.nodup (sub_nonneg.mpr hle) fun e he heq => ?_
      have hout := hl.le e he
      rw [heq, outstandingOf_adjustment hmem, Adjustment.outstanding] at hout
      exact hout.trans (sub_le_sub_right (le_max_right _ _) _)
    have := share_nonneg (fun e he => (hl.pos e he).le) (.adjustment a.id)
    constructor <;> omega

theorem BatchesOk.settle (h : s.BatchesOk) (l : Settlement) : (s.settle l).BatchesOk :=
  { h with
    batch_total := by
      intro b hb
      rw [h.batch_total b hb]
      simp only [Store.settle, Table.sum_map]
      rfl }

theorem ItemsOk.settle (h : s.ItemsOk) {l : Settlement} (hl : s.Admissible l) :
    (s.settle l).ItemsOk where
  item_batch := by
    intro i hi
    obtain ⟨r, hr, rfl⟩ := mem_settle_chargeItems.mp hi
    exact h.item_batch r hr
  item_status := statusOk_settle s l
  item_paid := by
    intro i hi
    obtain ⟨r, hr, rfl⟩ := mem_settle_chargeItems.mp hi
    exact hl.item r hr
  item_unbilled := by
    intro i hi hbilled
    obtain ⟨r, hr, rfl⟩ := mem_settle_chargeItems.mp hi
    rw [ChargeItem.pay_paidAmount, hl.unbilled r hr hbilled, h.item_unbilled r hr hbilled, add_zero]

theorem AdjustmentsOk.settle {l : Settlement} (hl : s.Admissible l) :
    (s.settle l).AdjustmentsOk where
  adjustment_paid := by
    intro a ha
    obtain ⟨r, hr, rfl⟩ := mem_settle_adjustments.mp ha
    exact hl.adjustment r hr

theorem ReferencesOk.settle (h : s.ReferencesOk) (l : Settlement) : (s.settle l).ReferencesOk :=
  { h with
    item_unit := by
      intro i hi
      obtain ⟨r, hr, rfl⟩ := mem_settle_chargeItems.mp hi
      exact h.item_unit r hr
    adjustment_fund := by
      intro a ha
      obtain ⟨r, hr, rfl⟩ := mem_settle_adjustments.mp ha
      exact h.adjustment_fund r hr
    adjustment_unit := by
      intro a ha
      obtain ⟨r, hr, rfl⟩ := mem_settle_adjustments.mp ha
      exact h.adjustment_unit r hr }

/-- An obligation that is settled stays settled under payments that stay within bounds. -/
theorem outstandingOf_settle_eq_zero {l : Settlement} (hl : s.Admissible l)
    (ha : s.AdjustmentsOk) {target : ObligationTarget} (hnonneg : 0 ≤ share l target)
    (h : s.outstandingOf target = 0) : (s.settle l).outstandingOf target = 0 := by
  cases target with
  | chargeItem id =>
    cases hf : s.chargeItems.find? id with
    | none => simp [outstandingOf, hf]
    | some i =>
      obtain rfl := Table.key_of_find? hf
      have hmem := Table.mem_of_find? hf
      rw [outstandingOf_chargeItem hmem, ChargeItem.outstanding] at h
      have := (hl.item i hmem).2
      simp only [outstandingOf, find?_settle_chargeItems, hf, Option.map_some, Option.getD_some,
        ChargeItem.outstanding, ChargeItem.pay_amount, ChargeItem.pay_paidAmount]
      omega
  | adjustment id =>
    cases hf : s.adjustments.find? id with
    | none => simp [outstandingOf, hf]
    | some a =>
      obtain rfl := Table.key_of_find? hf
      have hmem := Table.mem_of_find? hf
      rw [outstandingOf_adjustment hmem, Adjustment.outstanding] at h
      have := (hl.adjustment a hmem).2
      have := ha.adjustment_paid a hmem
      simp only [outstandingOf, find?_settle_adjustments, hf, Option.map_some, Option.getD_some,
        Adjustment.outstanding, Adjustment.pay_amount, Adjustment.pay_paidAmount]
      omega

/-- Paying obligations within their bounds. -/
theorem Valid.settle (h : s.Valid) {l : Settlement} (hl : s.Admissible l)
    (hnonneg : ∀ t, 0 ≤ share l t) : (s.settle l).Valid :=
  { h.toReferencesOk.settle l, h.toBatchesOk.settle l, h.toItemsOk.settle hl,
    AdjustmentsOk.settle hl, h with
    allocation_active := fun a ha p hp happroved =>
      isActive_settle.mpr (h.allocation_active a ha p hp happroved)
    cover_item := by
      intro i hi
      obtain ⟨r, hr, rfl⟩ := mem_settle_chargeItems.mp hi
      exact le_trans (h.cover_item r hr) (by simpa using hnonneg (.chargeItem r.id))
    cover_adjustment := by
      intro a ha
      obtain ⟨r, hr, rfl⟩ := mem_settle_adjustments.mp ha
      exact le_trans (h.cover_adjustment r hr) (by simpa using hnonneg (.adjustment r.id))
    cover_settled := fun d hd happroved hkept =>
      outstandingOf_settle_eq_zero hl h.toAdjustmentsOk (hnonneg _)
        (h.cover_settled d hd happroved hkept) }

/-! ### Obligations of approved payments -/

theorem isApproved_iff {id : ℕ} :
    s.isApproved id ↔ ∃ p, s.payments.find? id = some p ∧ p.status = .approved := by
  rw [isApproved]
  cases s.payments.find? id <;> simp

theorem isReversed_iff {id : ℕ} :
    s.isReversed id ↔ ∃ p, s.payments.find? id = some p ∧ p.status = .reversed := by
  rw [isReversed]
  cases s.payments.find? id <;> simp

/-- An approved payment allocated to active obligations of its unit. -/
theorem Valid.isActive_of_allocation (h : s.Valid) {a : PaymentAllocation} (ha : a ∈ s.allocations)
    (happroved : s.isApproved a.paymentId) : ∃ unitId, s.IsActive unitId a.target := by
  obtain ⟨p, hp, hstatus⟩ := isApproved_iff.mp happroved
  exact ⟨p.unitId, h.allocation_active a ha p hp hstatus⟩

/-- The selections of an approved payment became allocations, so they name active obligations. -/
theorem Valid.isActive_of_selection (h : s.Valid) {d : PaymentDebtSelection}
    (hd : d ∈ s.debtSelections) (happroved : s.isApproved d.paymentId) :
    ∃ unitId, s.IsActive unitId d.target := by
  obtain ⟨p, hp, hstatus⟩ := isApproved_iff.mp happroved
  obtain ⟨p', hp', hmode, -⟩ := h.selection_payment d hd
  obtain rfl : p' = p := Option.some.inj (hp'.symm.trans hp)
  have hid := Table.key_of_find? hp
  have hselected := h.allocation_selected p' (Table.mem_of_find? hp) hmode (Or.inl hstatus)
  have hmem : (d.target, d.selectedAmount) ∈ selectionSettlement (s.selectionsOf p'.id) :=
    List.mem_map.mpr ⟨d, List.mem_filter.mpr ⟨hd, by simp [hid]⟩, rfl⟩
  rw [← hselected] at hmem
  obtain ⟨a, ha, hda⟩ := List.mem_map.mp hmem
  obtain ⟨ha, hpayment⟩ := List.mem_filter.mp ha
  have hpayment : a.paymentId = d.paymentId := by simpa [hid] using hpayment
  obtain ⟨unitId, hactive⟩ := h.isActive_of_allocation ha (hpayment ▸ happroved)
  exact ⟨unitId, (Prod.mk.inj hda).1 ▸ hactive⟩

/-! ### The status of a batch -/

theorem mem_setBatchStatus {k : ℕ} {status : ChargeBatchStatus} {b : ChargeBatch} :
    b ∈ (s.setBatchStatus k status).chargeBatches ↔
      ∃ r ∈ s.chargeBatches, (if r.id = k then { r with status } else r) = b := by
  rw [setBatchStatus, Table.mem_modify]

/-- A batch whose status was written is the row with another status. -/
theorem exists_of_mem_setBatchStatus {k : ℕ} {status : ChargeBatchStatus} {b : ChargeBatch}
    (hb : b ∈ (s.setBatchStatus k status).chargeBatches) :
    ∃ r ∈ s.chargeBatches, b = { r with status := b.status } := by
  obtain ⟨r, hr, rfl⟩ := mem_setBatchStatus.mp hb
  refine ⟨r, hr, ?_⟩
  split <;> rfl

theorem isBilled_setBatchStatus {k : ℕ} {status : ChargeBatchStatus} {i : ChargeItem}
    (hbatch : (s.batchOf i).isSome) :
    (s.setBatchStatus k status).isBilled i =
      if i.chargeBatchId = k then status.isBilled else s.isBilled i := by
  obtain ⟨b, hb⟩ := Option.isSome_iff_exists.mp hbatch
  have hb' : s.chargeBatches.find? i.chargeBatchId = some b := hb
  rw [isBilled, isBilled, batchOf, setBatchStatus, Table.find?_modify, batchOf, hb']
  split <;> rfl

theorem ItemsOk.batchOf_isSome (h : s.ItemsOk) {i : ChargeItem} (hi : i ∈ s.chargeItems) :
    (s.batchOf i).isSome := by
  obtain ⟨b, hb, -⟩ := h.item_batch i hi
  exact Option.isSome_iff_exists.mpr ⟨b, hb⟩

/-- Approved allocations are to active obligations, so one with nothing paid has none. -/
theorem Valid.no_allocation (h : s.Valid) {i : ChargeItem} (hi : i ∈ s.chargeItems)
    (hpaid : i.paidAmount = 0) {a : PaymentAllocation} (ha : a ∈ s.allocations)
    (happroved : s.isApproved a.paymentId) : a.target ≠ .chargeItem i.id := by
  intro htarget
  have hle : a.amount ≤ s.approvedAllocated (.chargeItem i.id) := by
    have hsingle := Table.le_sum (t := s.allocations)
      (f := fun a => if a.target = .chargeItem i.id ∧ s.isApproved a.paymentId then a.amount else 0)
      (fun r hr => by
        split
        · exact (h.allocation_pos r hr).le
        · exact le_rfl) ha
    rwa [if_pos ⟨htarget, happroved⟩] at hsingle
  have := h.cover_item i hi
  have := h.allocation_pos a ha
  omega

/-- Writing the status of a batch whose items are unpaid, or that is billed afterwards. -/
theorem Valid.setBatchStatus (h : s.Valid) (k : ℕ) {status : ChargeBatchStatus}
    (hunpaid : status.isBilled = false →
      ∀ i ∈ s.chargeItems, i.chargeBatchId = k → i.paidAmount = 0) :
    (s.setBatchStatus k status).Valid :=
  { h with
    batch_fund := by
      intro b hb
      obtain ⟨r, hr, rfl⟩ := mem_setBatchStatus.mp hb
      split <;> exact h.batch_fund r hr
    batch_total := by
      intro b hb
      obtain ⟨r, hr, rfl⟩ := mem_setBatchStatus.mp hb
      split <;> exact h.batch_total r hr
    batch_monthly := by
      intro b hb
      obtain ⟨r, hr, rfl⟩ := mem_setBatchStatus.mp hb
      split <;> exact h.batch_monthly r hr
    batch_period := by
      intro b hb b' hb'
      obtain ⟨r, hr, hrb⟩ := exists_of_mem_setBatchStatus hb
      obtain ⟨r', hr', hrb'⟩ := exists_of_mem_setBatchStatus hb'
      rw [hrb, hrb']
      exact h.batch_period r hr r' hr'
    item_batch := by
      intro i hi
      obtain ⟨b, hb, hcreated⟩ := h.item_batch i hi
      have hb' : s.chargeBatches.find? i.chargeBatchId = some b := hb
      rw [batchOf, Store.setBatchStatus, Table.find?_modify, hb']
      split
      · exact ⟨_, rfl, hcreated⟩
      · exact ⟨b, rfl, hcreated⟩
    item_unbilled := by
      intro i hi hbilled
      rw [isBilled_setBatchStatus (h.toItemsOk.batchOf_isSome hi)] at hbilled
      split at hbilled
      -- a batch that is no longer billed has no paid item, so nothing was allocated to one
      case isTrue hk => exact hunpaid hbilled i hi hk
      case isFalse hk => exact h.item_unbilled i hi hbilled
    allocation_active := by
      intro a ha p hp happroved
      have hactive := h.allocation_active a ha p hp happroved
      have happroved' : s.isApproved a.paymentId := by
        have hp' : s.payments.find? a.paymentId = some p := hp
        simp [isApproved, hp', happroved]
      cases htarget : a.target with
      | adjustment id => rwa [htarget] at hactive
      | chargeItem id =>
        rw [htarget] at hactive
        obtain ⟨i, hi, hunit, hbilled⟩ := hactive
        have hmem := Table.mem_of_find? hi
        refine ⟨i, hi, hunit, ?_⟩
        rw [isBilled_setBatchStatus (h.toItemsOk.batchOf_isSome hmem)]
        split
        case isFalse hk => exact hbilled
        case isTrue hk =>
          by_contra hstatus
          have hpaid := hunpaid (by simpa using hstatus) i hmem hk
          exact h.no_allocation hmem hpaid ha happroved' (Table.key_of_find? hi ▸ htarget) }

/-! ### Adjustments and credit -/

/-- Adding an adjustment of which nothing is paid. -/
theorem Valid.createAdjustment (h : s.Valid) (row : ℕ → Adjustment) (hid : ∀ id, (row id).id = id)
    (hpaid : (row s.adjustments.next).paidAmount = 0)
    (hfund : s.fundBuilding (row s.adjustments.next).fundId =
      some (row s.adjustments.next).buildingId)
    (hunit : (s.unitBuilding (row s.adjustments.next).unitId).isSome) :
    ({ s with adjustments := s.adjustments.create row hid } : Store).Valid :=
  { h with
    adjustment_fund := by
      intro a ha
      rcases (Table.mem_create (h := hid)).mp ha with ha | rfl
      · exact h.adjustment_fund a ha
      · exact hfund
    adjustment_unit := by
      intro a ha
      rcases (Table.mem_create (h := hid)).mp ha with ha | rfl
      · exact h.adjustment_unit a ha
      · exact hunit
    adjustment_paid := by
      intro a ha
      rcases (Table.mem_create (h := hid)).mp ha with ha | rfl
      · exact h.adjustment_paid a ha
      · rw [hpaid]
        exact ⟨le_rfl, le_max_left _ _⟩
    allocation_active := by
      intro a ha p hp happroved
      have hactive := h.allocation_active a ha p hp happroved
      cases htarget : a.target with
      | chargeItem id => rwa [htarget] at hactive
      | adjustment id =>
        rw [htarget] at hactive
        obtain ⟨r, hr, hunit⟩ := hactive
        exact ⟨r, Table.find?_create_of_find? (h := hid) hr, hunit⟩
    cover_adjustment := by
      intro a ha
      rcases (Table.mem_create (h := hid)).mp ha with ha | rfl
      · exact h.cover_adjustment a ha
      · -- nothing was allocated to a row that did not exist
        rw [hpaid, hid]
        refine (Table.sum_eq_zero fun a ha => if_neg ?_).le
        rintro ⟨htarget, happroved⟩
        obtain ⟨unitId, hactive⟩ := h.isActive_of_allocation ha happroved
        rw [htarget] at hactive
        obtain ⟨r, hr, -⟩ := hactive
        rw [Table.find?_of_next_le le_rfl] at hr
        exact absurd hr (by simp)
    cover_settled := by
      intro d hd happroved hkept
      rw [← h.cover_settled d hd happroved hkept]
      obtain ⟨unitId, hactive⟩ := h.isActive_of_selection hd happroved
      cases htarget : d.target with
      | chargeItem id => rfl
      | adjustment id =>
        rw [htarget] at hactive
        obtain ⟨r, hr, -⟩ := hactive
        have hr' := Table.find?_create_of_find? (h := hid) hr
        rw [outstandingOf, outstandingOf, hr, hr'] }

/-- Rewriting the balances of the credit rows. -/
theorem Valid.mapCredit (h : s.Valid) (f : CreditBalance → CreditBalance)
    (hid : ∀ c, (f c).id = c.id) (hunit : ∀ c, (f c).unitId = c.unitId)
    (hbuilding : ∀ c, (f c).buildingId = c.buildingId)
    (hnonneg : ∀ c ∈ s.creditBalances, 0 ≤ (f c).balance) :
    ({ s with creditBalances := s.creditBalances.map f hid } : Store).Valid :=
  { h with
    credit_unit := by
      intro c hc
      obtain ⟨r, hr, rfl⟩ := (Table.mem_map (h := hid)).mp hc
      rw [hunit, hbuilding]
      exact h.credit_unit r hr
    credit_unique := by
      intro c hc c' hc' heq
      obtain ⟨r, hr, rfl⟩ := (Table.mem_map (h := hid)).mp hc
      obtain ⟨r', hr', rfl⟩ := (Table.mem_map (h := hid)).mp hc'
      rw [hunit, hunit] at heq
      rw [h.credit_unique r hr r' hr' heq]
    credit_nonneg := by
      intro c hc
      obtain ⟨r, hr, rfl⟩ := (Table.mem_map (h := hid)).mp hc
      exact hnonneg r hr }

/-- Adding credit to a unit of the building. -/
theorem Valid.upsertCredit (h : s.Valid) {unitId buildingId : ℕ} {amount : ℤ} (hpos : 0 ≤ amount)
    (hunit : s.unitBuilding unitId = some buildingId) :
    (s.upsertCredit unitId buildingId amount).Valid := by
  rw [Store.upsertCredit]
  cases hc : s.creditBalanceOf unitId with
  | some c =>
    refine h.mapCredit _ _ (fun c => ?_) (fun c => ?_) fun c hc => ?_
    · split <;> rfl
    · split <;> rfl
    · have := h.credit_nonneg c hc
      split
      · exact add_nonneg this hpos
      · exact this
  | none =>
    have hnone : ∀ c ∈ s.creditBalances, c.unitId ≠ unitId := by
      intro c hmem heq
      have := List.find?_eq_none.mp hc c hmem
      simp [heq] at this
    have hmk : ∀ id, ({ id, unitId, buildingId, balance := amount } : CreditBalance).id = id :=
      fun _ => rfl
    exact
      { h with
        credit_unit := by
          intro c hmem
          rcases (Table.mem_create (h := hmk)).mp hmem with hmem | rfl
          · exact h.credit_unit c hmem
          · exact hunit
        credit_unique := by
          intro c hmem c' hmem' heq
          rcases (Table.mem_create (h := hmk)).mp hmem with hmem | rfl <;>
            rcases (Table.mem_create (h := hmk)).mp hmem' with hmem' | rfl
          · exact h.credit_unique c hmem c' hmem' heq
          · exact absurd heq (hnone c hmem)
          · exact absurd heq.symm (hnone c' hmem')
          · rfl
        credit_nonneg := by
          intro c hmem
          rcases (Table.mem_create (h := hmk)).mp hmem with hmem | rfl
          · exact h.credit_nonneg c hmem
          · exact hpos }

end Store

end VielHome.Finance
