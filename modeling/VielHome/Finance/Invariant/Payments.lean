import VielHome.Finance.Invariant.Writes

/-!
# Payments keep the invariant

The life of a payment: it is reported, with or without selections, and then rejected or
approved, and an approved one may be reversed. Each of these moves the status of the
payment, the state of its selections and the paid amounts of obligations at once, so each
has one theorem for the whole of its writes.
-/

namespace VielHome.Finance

open Relational

namespace Store

variable {s : Store}

/-! ### Reporting -/

/-- Rows of selections and allocations refer to payments that exist. -/
theorem Valid.selectionsOf_next (h : s.Valid) : s.selectionsOf s.payments.next = [] := by
  refine List.filter_eq_nil_iff.mpr fun d hd => ?_
  obtain ⟨p, hp, -⟩ := h.selection_payment d hd
  intro he
  rw [of_decide_eq_true he, Table.find?_of_next_le le_rfl] at hp
  exact absurd hp (by simp)

/-- A pending payment has no allocations. -/
theorem Valid.allocationsOf_pending (h : s.Valid) {id : ℕ} {p : Payment}
    (hp : s.payments.find? id = some p) (hpending : p.status = .pendingApproval) :
    s.allocationsOf id = [] := by
  refine List.filter_eq_nil_iff.mpr fun a ha => ?_
  intro he
  have hid : a.paymentId = id := of_decide_eq_true he
  rcases h.allocation_payment a ha with happroved | hreversed
  · obtain ⟨p', hp', hstatus⟩ := isApproved_iff.mp happroved
    obtain rfl : p' = p := Option.some.inj (hp'.symm.trans (hid ▸ hp))
    rw [hpending] at hstatus
    exact absurd hstatus (by decide)
  · obtain ⟨p', hp', hstatus⟩ := isReversed_iff.mp hreversed
    obtain rfl : p' = p := Option.some.inj (hp'.symm.trans (hid ▸ hp))
    rw [hpending] at hstatus
    exact absurd hstatus (by decide)

/-- What the selections of a payment settle, after more selections were inserted. -/
theorem selectionSettlement_createMany {paymentId id : ℕ} {l : Settlement}
    {hid : ∀ e n, (selectionRow paymentId e n).id = n} :
    selectionSettlement
        (({ s with debtSelections := s.debtSelections.createMany l (selectionRow paymentId) hid } :
          Store).selectionsOf id) =
      selectionSettlement (s.selectionsOf id) ++ if paymentId = id then l else [] := by
  refine (Table.map_filter_createMany s.debtSelections l (selectionRow paymentId) hid
    (q := fun _ => paymentId = id) (g := fun e => e) (fun _ _ => rfl) fun _ _ => rfl).trans ?_
  by_cases he : paymentId = id <;> simp [he, selectionSettlement, selectionsOf]

/-- What the selections of a payment are for. -/
theorem map_target_selectionsOf (s : Store) (id : ℕ) :
    (s.selectionsOf id).map (·.target) = (selectionSettlement (s.selectionsOf id)).map Prod.fst := by
  rw [selectionSettlement, List.map_map]
  rfl

/-- The store with one more payment and the selections `l` of it. -/
def report (s : Store) (row : ℕ → Payment) (hid : ∀ id, (row id).id = id) (l : Settlement) : Store :=
  { s with
    payments := s.payments.create row hid
    debtSelections := s.debtSelections.createMany l (selectionRow s.payments.next) fun _ _ => rfl }

/-- The payment is pending and can be added, with the selections `l` if it is an explicit one. -/
structure Reportable (s : Store) (new : Payment) (l : Settlement) : Prop where
  pending : new.status = .pendingApproval
  pos : 0 < new.amount
  fund : s.fundBuilding new.fundId = some new.buildingId
  unit : s.unitBuilding new.unitId = some new.buildingId
  fresh : ∀ p ∈ s.payments, p.payerId = new.payerId → p.buildingId = new.buildingId →
    p.idempotencyKey ≠ new.idempotencyKey
  mode : ∀ e ∈ l, new.selectionMode = .explicitSelection
  nodup : (l.map Prod.fst).Nodup
  selected_pos : ∀ e ∈ l, 0 < e.2
  unreserved : ∀ e ∈ l, s.isReserved e.1 = false
  total : new.selectionMode = .explicitSelection → l.total = new.amount

section Report

variable {row : ℕ → Payment} {hid : ∀ id, (row id).id = id} {l : Settlement}

/-- The payments afterwards are those before and the new one. -/
theorem mem_payments_report {p : Payment} :
    p ∈ (s.report row hid l).payments ↔ p ∈ s.payments ∨ p = row s.payments.next :=
  Table.mem_create (h := hid)

/-- A selection afterwards is one before, or one of the new payment. -/
theorem mem_debtSelections_report {d : PaymentDebtSelection}
    (hd : d ∈ (s.report row hid l).debtSelections) :
    d ∈ s.debtSelections ∨ ∃ e ∈ l, ∃ n, d = selectionRow s.payments.next e n := by
  rcases Table.mem_createMany hd with hd | ⟨e, he, n, -, rfl⟩
  · exact Or.inl hd
  · exact Or.inr ⟨e, he, n, rfl⟩

/-- The new payment has its selections, and the others have theirs. -/
theorem selectionSettlement_report (id : ℕ) :
    selectionSettlement ((s.report row hid l).selectionsOf id) =
      selectionSettlement (s.selectionsOf id) ++ if s.payments.next = id then l else [] :=
  selectionSettlement_createMany

/-- A pending payment is not approved. -/
theorem isApproved_report (hpending : (row s.payments.next).status = .pendingApproval) (id : ℕ) :
    (s.report row hid l).isApproved id = s.isApproved id := by
  have hnext : s.payments.find? s.payments.next = none := Table.find?_of_next_le le_rfl
  change ((s.payments.create row hid).find? id).any _ = _
  rw [Table.find?_create, isApproved]
  split
  case isTrue he => simp [he, hnext, hpending]
  case isFalse => rfl

/-- A pending payment is not reversed. -/
theorem isReversed_report (hpending : (row s.payments.next).status = .pendingApproval) (id : ℕ) :
    (s.report row hid l).isReversed id = s.isReversed id := by
  have hnext : s.payments.find? s.payments.next = none := Table.find?_of_next_le le_rfl
  change ((s.payments.create row hid).find? id).any _ = _
  rw [Table.find?_create, isReversed]
  split
  case isTrue he => simp [he, hnext, hpending]
  case isFalse => rfl

/-- The new rows name what is there. -/
theorem ReferencesOk.report (h : s.ReferencesOk) (hnew : s.Reportable (row s.payments.next) l) :
    (s.report row hid l).ReferencesOk :=
  { h with
    payment_fund := by
      intro p hp
      rcases mem_payments_report.mp hp with hp | rfl
      · exact h.payment_fund p hp
      · exact hnew.fund
    payment_unit := by
      intro p hp
      rcases mem_payments_report.mp hp with hp | rfl
      · exact h.payment_unit p hp
      · exact hnew.unit }

/-- The new payment is as a payment should be. -/
theorem PaymentsOk.report (h : s.PaymentsOk) (hnew : s.Reportable (row s.payments.next) l) :
    (s.report row hid l).PaymentsOk where
  payment_pos := by
    intro p hp
    rcases mem_payments_report.mp hp with hp | rfl
    · exact h.payment_pos p hp
    · exact hnew.pos
  payment_not_refunded := by
    intro p hp
    rcases mem_payments_report.mp hp with hp | rfl
    · exact h.payment_not_refunded p hp
    · rw [hnew.pending]
      decide
  payment_key := by
    intro p hp p' hp' hpayer hbuilding hkey hsome
    rcases mem_payments_report.mp hp with hp | rfl <;>
      rcases mem_payments_report.mp hp' with hp' | rfl
    · exact h.payment_key p hp p' hp' hpayer hbuilding hkey hsome
    · exact absurd hkey (hnew.fresh p hp hpayer hbuilding)
    · exact absurd hkey.symm (hnew.fresh p' hp' hpayer.symm hbuilding.symm)
    · rfl

/-- An obligation that is selected now is not reserved by an earlier selection. -/
theorem Reportable.target_ne (hnew : s.Reportable (row s.payments.next) l) {d : PaymentDebtSelection}
    (hd : d ∈ s.debtSelections) (hactive : d.reservationState = .active) {e : ObligationTarget × ℤ}
    (he : e ∈ l) : d.target ≠ e.1 := by
  intro heq
  have hfalse := hnew.unreserved e he
  rw [isReserved, List.any_eq_false] at hfalse
  exact hfalse d hd (by simp [heq, hactive])

/-- No payment selects an obligation twice. -/
theorem Valid.selection_distinct_report (h : s.Valid)
    (hnew : s.Reportable (row s.payments.next) l) (id : ℕ) :
    (((s.report row hid l).selectionsOf id).map (·.target)).Nodup := by
  rw [map_target_selectionsOf, selectionSettlement_report]
  by_cases he : s.payments.next = id
  · rw [if_pos he, ← he, h.selectionsOf_next]
    exact hnew.nodup
  · rw [if_neg he, List.append_nil, ← map_target_selectionsOf]
    exact h.selection_distinct id

/-- The selections are as they should be. -/
theorem Valid.selectionsOk_report (h : s.Valid) (hnew : s.Reportable (row s.payments.next) l) :
    (s.report row hid l).SelectionsOk where
  selection_payment := by
    intro d hd
    rcases mem_debtSelections_report hd with hd | ⟨e, he, n, rfl⟩
    · obtain ⟨p, hp, hd⟩ := h.selection_payment d hd
      exact ⟨p, Table.find?_create_of_find? (h := hid) hp, hd⟩
    · refine ⟨row s.payments.next, ?_, hnew.mode e he, by rw [hnew.pending]; rfl⟩
      exact (Table.find?_create (h := hid)).trans (if_pos rfl)
  selection_pos := by
    intro d hd
    rcases mem_debtSelections_report hd with hd | ⟨e, he, n, rfl⟩
    · exact h.selection_pos d hd
    · exact hnew.selected_pos e he
  selection_distinct := h.selection_distinct_report hnew
  selection_reserved := by
    intro d hd d' hd' htarget hactive hactive'
    rcases mem_debtSelections_report hd with hold | ⟨e, he, n, hde⟩ <;>
      rcases mem_debtSelections_report hd' with hold' | ⟨e', he', n', hde'⟩
    · exact h.selection_reserved d hold d' hold' htarget hactive hactive'
    · exact absurd (htarget.trans (congrArg (·.target) hde')) (hnew.target_ne hold hactive he')
    · exact absurd (htarget.symm.trans (congrArg (·.target) hde)) (hnew.target_ne hold' hactive' he)
    · -- both belong to the new payment, whose selections are distinct
      have hmem : d ∈ (s.report row hid l).selectionsOf s.payments.next :=
        List.mem_filter.mpr ⟨hd, by simp [hde, selectionRow]⟩
      have hmem' : d' ∈ (s.report row hid l).selectionsOf s.payments.next :=
        List.mem_filter.mpr ⟨hd', by simp [hde', selectionRow]⟩
      exact congrArg _ (List.inj_on_of_nodup_map
        (h.selection_distinct_report hnew s.payments.next) hmem hmem' htarget)
  selection_total := by
    intro p hp hexplicit
    rw [selectionSettlement_report]
    rcases mem_payments_report.mp hp with hp | rfl
    · rw [if_neg (s.payments.lt_next p hp).ne', List.append_nil]
      exact h.selection_total p hp hexplicit
    · rw [if_pos (hid _).symm, hid, h.selectionsOf_next]
      exact hnew.total hexplicit

/-- The new payment has paid nothing yet. -/
theorem AllocationsOk.report (h : s.AllocationsOk) (hnew : s.Reportable (row s.payments.next) l) :
    (s.report row hid l).AllocationsOk :=
  { h with
    allocation_payment := by
      intro a ha
      rw [isApproved_report hnew.pending, isReversed_report hnew.pending]
      exact h.allocation_payment a ha
    allocation_active := by
      intro a ha p hp hstatus
      have hfind := hp
      change (s.payments.create row hid).find? a.paymentId = some p at hfind
      rw [Table.find?_create] at hfind
      split at hfind
      case isTrue he =>
        obtain rfl := Option.some.inj hfind
        rw [hnew.pending] at hstatus
        exact absurd hstatus (by decide)
      case isFalse => exact h.allocation_active a ha p hfind hstatus
    allocation_selected := by
      intro p hp hexplicit hstatus
      rcases mem_payments_report.mp hp with hp | rfl
      · rw [selectionSettlement_report, if_neg (s.payments.lt_next p hp).ne', List.append_nil]
        exact h.allocation_selected p hp hexplicit hstatus
      · rw [hnew.pending] at hstatus
        exact absurd hstatus (by decide) }

/-- What is covered is what was covered before. -/
theorem CoverOk.report (h : s.CoverOk) (hnew : s.Reportable (row s.payments.next) l) :
    (s.report row hid l).CoverOk := by
  have hallocated : ∀ t, (s.report row hid l).approvedAllocated t = s.approvedAllocated t := by
    intro t
    simp only [approvedAllocated, isApproved_report hnew.pending]
    rfl
  refine ⟨fun i hi => ?_, fun a ha => ?_, fun d hd hstatus hkept => ?_⟩
  · rw [hallocated]
    exact h.cover_item i hi
  · rw [hallocated]
    exact h.cover_adjustment a ha
  · rw [isApproved_report hnew.pending] at hstatus
    simp only [isReversed_report hnew.pending] at hkept
    rcases mem_debtSelections_report hd with hold | ⟨e, he, n, rfl⟩
    · exact h.cover_settled d hold hstatus hkept
    · -- the new payment was not there before
      obtain ⟨p, hp, -⟩ := isApproved_iff.mp hstatus
      have hnext : s.payments.find? s.payments.next = none := Table.find?_of_next_le le_rfl
      exact absurd (hp.symm.trans hnext) (by simp)

end Report

/-- A payment is added, pending, with the selections `l` if it is an explicit one. -/
theorem Valid.reported (h : s.Valid) (row : ℕ → Payment) (hid : ∀ id, (row id).id = id)
    (l : Settlement) (hnew : s.Reportable (row s.payments.next) l) :
    (s.report row hid l).Valid :=
  { h.toReferencesOk.report hnew, h.toPaymentsOk.report hnew, h.selectionsOk_report hnew,
    h.toAllocationsOk.report hnew, h.toCoverOk.report hnew, h with }

/-- A payment that is reported keeps the invariant. -/
theorem Valid.withPayment (h : s.Valid) {params : CreatePaymentParams} (now : Time)
    (hok : Call.Ok s (.createPayment params))
    (hfresh : s.paymentByKey params.payerId params.buildingId params.idempotencyKey = none) :
    (s.withPayment params now).Valid := by
  obtain ⟨hpos, hfund, hunit⟩ := hok
  exact h.reported (params.row now) (fun _ => rfl) []
    { pending := rfl
      pos := hpos
      fund := hfund
      unit := hunit
      fresh := fun p hp hpayer hbuilding hkey => by
        have := List.find?_eq_none.mp hfresh p hp
        exact this (by simpa using ⟨hpayer, hbuilding, hkey⟩)
      mode := by simp
      nodup := by simp
      selected_pos := by simp
      unreserved := by simp
      total := by simp [CreatePaymentParams.row] }

/-- The building and the fund of an obligation fit together. -/
theorem Valid.fundBuilding_obligationFund (h : s.Valid) {target : ObligationTarget} {fundId b : ℕ}
    (hfund : s.obligationFund target = some fundId)
    (hbuilding : s.obligationBuilding target = some b) : s.fundBuilding fundId = some b := by
  cases target with
  | chargeItem id =>
    obtain ⟨i, hi, hf⟩ := Option.bind_eq_some_iff.mp hfund
    obtain ⟨batch, hbatch, rfl⟩ := Option.map_eq_some_iff.mp hf
    rw [obligationBuilding, hi, Option.bind_some, hbatch, Option.map_some] at hbuilding
    rw [h.batch_fund batch (Table.mem_of_find? hbatch), hbuilding]
  | adjustment id =>
    obtain ⟨a, ha, rfl⟩ := Option.map_eq_some_iff.mp hfund
    rw [obligationBuilding, ha, Option.map_some] at hbuilding
    rw [h.adjustment_fund a (Table.mem_of_find? ha), hbuilding]

/-- So does one for chosen obligations. -/
theorem Valid.withExplicitPayment (h : s.Valid) {s' : Store} {params : CreateExplicitPaymentParams}
    {now : Time} {fundId : ℕ} (hok : Call.Ok s (.createExplicitPayment params))
    (heffect : ExplicitEffect params now s s' fundId) : s'.Valid := by
  obtain ⟨e, he⟩ := List.exists_mem_of_ne_nil _ heffect.ne_nil
  have hfund : s.fundBuilding fundId = some params.buildingId :=
    h.fundBuilding_obligationFund (heffect.fund e he) (heffect.building e he)
  have hpos : 0 < (s.selected params.targets).total := by
    have hmem : e.2 ∈ (s.selected params.targets).map Prod.snd := List.mem_map_of_mem he
    have hle := List.single_le_sum (fun x hx => ?_) _ hmem
    · exact lt_of_lt_of_le (heffect.due.pos e he) hle
    · obtain ⟨e', he', rfl⟩ := List.mem_map.mp hx
      exact (heffect.due.pos e' he').le
  rw [heffect.store_eq]
  exact h.reported (params.row fundId (s.selected params.targets).total now) (fun _ => rfl) _
    { pending := rfl
      pos := hpos
      fund := hfund
      unit := hok
      fresh := fun p hp hpayer hbuilding hkey => by
        have := List.find?_eq_none.mp heffect.fresh p hp
        exact this (by simpa using ⟨hpayer, hbuilding, hkey⟩)
      mode := fun _ _ => rfl
      nodup := heffect.due.nodup
      selected_pos := heffect.due.pos
      unreserved := heffect.unreserved
      total := fun _ => rfl }

/-! ### Leaving the pending state -/

/-- What moving a pending payment to another status does to the lookups. -/
theorem find?_modify_status {k : ℕ} {f : Payment → Payment} (hid : ∀ p, (f p).id = p.id) {id : ℕ}
    {p' : Payment} (h : (s.payments.modify k f hid).find? id = some p') :
    ∃ p, s.payments.find? id = some p ∧ p' = if id = k then f p else p := by
  rw [Table.find?_modify] at h
  split at h
  case isTrue he =>
    obtain ⟨p, hp, rfl⟩ := Option.map_eq_some_iff.mp h
    exact ⟨p, hp, (if_pos he).symm⟩
  case isFalse he => exact ⟨p', h, (if_neg he).symm⟩

/-- Which payments are approved, after one of them has changed. -/
theorem isApproved_modify {k : ℕ} {f : Payment → Payment} (hid : ∀ p, (f p).id = p.id)
    {payment : Payment} (hk : s.payments.find? k = some payment) (id : ℕ) :
    ({ s with payments := s.payments.modify k f hid } : Store).isApproved id =
      if id = k then decide ((f payment).status = .approved) else s.isApproved id := by
  rw [isApproved, Table.find?_modify]
  split
  case isTrue he => simp [he, hk]
  case isFalse => rfl

/-- Which payments are reversed, after one of them has changed. -/
theorem isReversed_modify {k : ℕ} {f : Payment → Payment} (hid : ∀ p, (f p).id = p.id)
    {payment : Payment} (hk : s.payments.find? k = some payment) (id : ℕ) :
    ({ s with payments := s.payments.modify k f hid } : Store).isReversed id =
      if id = k then decide ((f payment).status = .reversed) else s.isReversed id := by
  rw [isReversed, Table.find?_modify]
  split
  case isTrue he => simp [he, hk]
  case isFalse => rfl

/-- The columns that a status change keeps. -/
theorem PaymentsOk.modify (h : s.PaymentsOk) {k : ℕ} {f : Payment → Payment}
    (hid : ∀ p, (f p).id = p.id) (hterms : ∀ p, (f p).terms = p.terms)
    (hstatus : ∀ p, (f p).status ≠ .refunded) :
    ({ s with payments := s.payments.modify k f hid } : Store).PaymentsOk := by
  have hrow : ∀ p ∈ s.payments.modify k f hid, ∃ r ∈ s.payments, p.terms = r.terms ∧
      p.status ≠ .refunded := by
    intro p hp
    obtain ⟨r, hr, rfl⟩ := Table.mem_modify.mp hp
    refine ⟨r, hr, ?_⟩
    split
    · exact ⟨hterms r, hstatus r⟩
    · exact ⟨rfl, h.payment_not_refunded r hr⟩
  exact
    { payment_pos := by
        intro p hp
        obtain ⟨r, hr, ht, -⟩ := hrow p hp
        rw [Payment.column_eq ht Payment.amount (fun _ => rfl)]
        exact h.payment_pos r hr
      payment_not_refunded := by
        intro p hp
        obtain ⟨r, -, -, hs⟩ := hrow p hp
        exact hs
      payment_key := by
        intro p hp p' hp' hpayer hbuilding hkey hsome
        obtain ⟨r, hr, ht, -⟩ := hrow p hp
        obtain ⟨r', hr', ht', -⟩ := hrow p' hp'
        rw [Payment.column_eq ht Payment.payerId (fun _ => rfl), Payment.column_eq ht' Payment.payerId (fun _ => rfl)] at hpayer
        rw [Payment.column_eq ht Payment.buildingId (fun _ => rfl),
          Payment.column_eq ht' Payment.buildingId (fun _ => rfl)] at hbuilding
        rw [Payment.column_eq ht Payment.idempotencyKey (fun _ => rfl),
          Payment.column_eq ht' Payment.idempotencyKey (fun _ => rfl)] at hkey
        rw [Payment.column_eq ht Payment.idempotencyKey (fun _ => rfl)] at hsome
        rw [Payment.column_eq ht Payment.id (fun _ => rfl), Payment.column_eq ht' Payment.id (fun _ => rfl)]
        exact h.payment_key r hr r' hr' hpayer hbuilding hkey hsome }

/-- A payment that keeps its terms keeps what it names. -/
theorem ReferencesOk.modifyPayment (h : s.ReferencesOk) {k : ℕ} {f : Payment → Payment}
    (hid : ∀ p, (f p).id = p.id) (hterms : ∀ p, (f p).terms = p.terms) :
    ({ s with payments := s.payments.modify k f hid } : Store).ReferencesOk := by
  have hrow : ∀ p ∈ s.payments.modify k f hid, ∃ r ∈ s.payments, p.terms = r.terms := by
    intro p hp
    obtain ⟨r, hr, rfl⟩ := Table.mem_modify.mp hp
    refine ⟨r, hr, ?_⟩
    split
    · exact hterms r
    · rfl
  exact
    { h with
      payment_fund := by
        intro p hp
        obtain ⟨r, hr, ht⟩ := hrow p hp
        rw [Payment.column_eq ht Payment.fundId (fun _ => rfl), Payment.column_eq ht Payment.buildingId (fun _ => rfl)]
        exact h.payment_fund r hr
      payment_unit := by
        intro p hp
        obtain ⟨r, hr, ht⟩ := hrow p hp
        rw [Payment.column_eq ht Payment.unitId (fun _ => rfl), Payment.column_eq ht Payment.buildingId (fun _ => rfl)]
        exact h.payment_unit r hr }

/-- Moving the selections of a payment changes neither their targets nor their amounts. -/
theorem selectionSettlement_setReservations {k : ℕ} {state : PaymentDebtReservationState} (id : ℕ) :
    selectionSettlement (({ s with
      debtSelections := setReservations s.debtSelections k state } : Store).selectionsOf id) =
      selectionSettlement (s.selectionsOf id) := by
  refine Table.map_filter_map s.debtSelections (fun d => by split <;> rfl) (fun d => ?_)
    fun d => ?_ <;> split <;> rfl

/-- The selections after their payment left the pending state: those of an explicit payment
move with it, and another payment has none. -/
def movedSelections (s : Store) (payment : Payment) (state : PaymentDebtReservationState) :
    Table PaymentDebtSelection PaymentDebtSelection.id :=
  match payment.selectionMode with
  | .explicitSelection => setReservations s.debtSelections payment.id state
  | .legacyAutomatic => s.debtSelections

/-- The state of a reservation says nothing of its amount. -/
theorem selectionSettlement_movedSelections (payment : Payment)
    (state : PaymentDebtReservationState) (id : ℕ) :
    selectionSettlement (({ s with
      debtSelections := s.movedSelections payment state } : Store).selectionsOf id) =
      selectionSettlement (s.selectionsOf id) := by
  rw [movedSelections]
  split
  · exact selectionSettlement_setReservations id
  · rfl

/-- Every selection is an old one, perhaps in another state. -/
theorem mem_movedSelections {payment : Payment} {state : PaymentDebtReservationState}
    {d : PaymentDebtSelection} (hd : d ∈ s.movedSelections payment state) :
    ∃ r ∈ s.debtSelections, r.paymentId = d.paymentId ∧ r.target = d.target := by
  rw [movedSelections] at hd
  split at hd
  · obtain ⟨r, hr, rfl⟩ := mem_setReservations.mp hd
    exact ⟨r, hr, by split <;> rfl, by split <;> rfl⟩
  · exact ⟨d, hd, rfl, rfl⟩

/-- The selections follow the status of their payment. -/
theorem SelectionsOk.move (h : s.SelectionsOk) {payment : Payment}
    (hk : s.payments.find? payment.id = some payment) (hpending : payment.status = .pendingApproval)
    {f : Payment → Payment} (hid : ∀ p, (f p).id = p.id) (hterms : ∀ p, (f p).terms = p.terms)
    (hactive : (f payment).status.reservationState ≠ .active) :
    ({ s with
      payments := s.payments.modify payment.id f hid
      debtSelections := s.movedSelections payment (f payment).status.reservationState } :
      Store).SelectionsOk := by
  have hmode : ∀ p : Payment, (f p).selectionMode = p.selectionMode :=
    fun p => Payment.column_eq (hterms p) Payment.selectionMode (fun _ => rfl)
  -- every row is an old one, in the new state exactly when it belongs to the payment
  have hrow : ∀ d ∈ s.movedSelections payment (f payment).status.reservationState,
      ∃ r ∈ s.debtSelections, d.id = r.id ∧ d.paymentId = r.paymentId ∧ d.target = r.target ∧
        d.selectedAmount = r.selectedAmount ∧
        d.reservationState = if r.paymentId = payment.id then
          (f payment).status.reservationState else r.reservationState := by
    intro d hd
    rw [movedSelections] at hd
    split at hd
    case h_1 hexplicit =>
      obtain ⟨r, hr, rfl⟩ := mem_setReservations.mp hd
      refine ⟨r, hr, ?_⟩
      by_cases hpay : r.paymentId = payment.id
      · obtain ⟨p, hp, -, hstate⟩ := h.selection_payment r hr
        obtain rfl : p = payment := Option.some.inj (hp.symm.trans (hpay ▸ hk))
        rw [hpending] at hstate
        simp [hpay, hstate, PaymentStatus.reservationState]
      · simp [hpay]
    case h_2 hlegacy =>
      refine ⟨d, hd, rfl, rfl, rfl, rfl, ?_⟩
      obtain ⟨p, hp, hexplicit, -⟩ := h.selection_payment d hd
      rw [if_neg]
      intro hpay
      obtain rfl : p = payment := Option.some.inj (hp.symm.trans (hpay ▸ hk))
      rw [hlegacy] at hexplicit
      exact absurd hexplicit (by decide)
  exact
    { selection_payment := by
        intro d hd
        obtain ⟨r, hr, -, hpay, -, -, hstate⟩ := hrow d hd
        obtain ⟨p, hp, hexplicit, hr'⟩ := h.selection_payment r hr
        change ∃ p', (s.payments.modify payment.id f hid).find? d.paymentId = some p' ∧ _
        rw [hpay, Table.find?_modify, hp, hstate]
        by_cases he : r.paymentId = payment.id
        · obtain rfl : p = payment := Option.some.inj (hp.symm.trans (he ▸ hk))
          rw [if_pos he, if_pos he]
          exact ⟨f p, rfl, (hmode p).trans hexplicit, rfl⟩
        · rw [if_neg he, if_neg he]
          exact ⟨p, rfl, hexplicit, hr'⟩
      selection_pos := by
        intro d hd
        obtain ⟨r, hr, -, -, -, hamount, -⟩ := hrow d hd
        rw [hamount]
        exact h.selection_pos r hr
      selection_distinct := by
        intro id
        have hsel := selectionSettlement_movedSelections (s := s) payment
          (f payment).status.reservationState id
        rw [map_target_selectionsOf]
        change (List.map _ (selectionSettlement (({ s with debtSelections := _ } :
          Store).selectionsOf id))).Nodup
        rw [hsel, ← map_target_selectionsOf]
        exact h.selection_distinct id
      selection_reserved := by
        intro d hd d' hd' htarget hact hact'
        obtain ⟨r, hr, hdid, -, ht, -, hstate⟩ := hrow d hd
        obtain ⟨r', hr', hdid', -, ht', -, hstate'⟩ := hrow d' hd'
        rw [hact] at hstate
        rw [hact'] at hstate'
        split at hstate
        · exact absurd hstate.symm hactive
        · split at hstate'
          · exact absurd hstate'.symm hactive
          · rw [hdid, hdid']
            exact h.selection_reserved r hr r' hr' (ht ▸ ht' ▸ htarget) hstate.symm hstate'.symm
      selection_total := by
        intro p hp hexplicit
        obtain ⟨r, hr, hrp⟩ := (Table.mem_modify (h := hid)).mp hp
        have hsel := selectionSettlement_movedSelections (s := s) payment
          (f payment).status.reservationState p.id
        have hcolumns : p.id = r.id ∧ p.selectionMode = r.selectionMode ∧ p.amount = r.amount := by
          rw [← hrp]
          split
          · exact ⟨hid r, hmode r, Payment.column_eq (hterms r) Payment.amount (fun _ => rfl)⟩
          · exact ⟨rfl, rfl, rfl⟩
        obtain ⟨hpid, hpmode, hpamount⟩ := hcolumns
        change (selectionSettlement (({ s with debtSelections := _ } :
          Store).selectionsOf p.id)).total = _
        rw [hsel, hpamount, hpid]
        exact h.selection_total r hr (hpmode ▸ hexplicit) }

/-- A payment that is neither approved nor reversed before and after. -/
theorem isApproved_eq_false {id : ℕ} {p : Payment} (hp : s.payments.find? id = some p)
    (hstatus : p.status ≠ .approved) : s.isApproved id = false := by
  simp [isApproved, hp, hstatus]

/-- A payment with another status is not reversed. -/
theorem isReversed_eq_false {id : ℕ} {p : Payment} (hp : s.payments.find? id = some p)
    (hstatus : p.status ≠ .reversed) : s.isReversed id = false := by
  simp [isReversed, hp, hstatus]

/-- Rejecting a pending payment. -/
theorem Valid.rejected (h : s.Valid) {paymentId : ℕ} {reason : Option String} {payment : Payment}
    (hfind : s.payments.find? paymentId = some payment)
    (hpending : payment.status = .pendingApproval) :
    (s.rejected paymentId reason payment.selectionMode).Valid := by
  obtain rfl := Table.key_of_find? hfind
  have hid : ∀ p, (Payment.reject reason p).id = p.id := fun _ => rfl
  set s' := s.rejected payment.id reason payment.selectionMode with hs'
  have happroved : ∀ id, s'.isApproved id = s.isApproved id := by
    intro id
    refine (isApproved_modify hid hfind id).trans ?_
    split
    case isTrue he =>
      rw [he, isApproved_eq_false hfind (by rw [hpending]; decide)]
      rfl
    case isFalse => rfl
  have hreversed : ∀ id, s'.isReversed id = s.isReversed id := by
    intro id
    refine (isReversed_modify hid hfind id).trans ?_
    split
    case isTrue he =>
      rw [he, isReversed_eq_false hfind (by rw [hpending]; decide)]
      rfl
    case isFalse => rfl
  -- a payment without selections has nothing to release
  have hmoved : s'.debtSelections = s.movedSelections payment .released := by
    cases hmode : payment.selectionMode <;>
      simp only [hs', Store.rejected, movedSelections, hmode]
  have hselections : ({ s with
      payments := s.payments.modify payment.id (Payment.reject reason) hid
      debtSelections := s.movedSelections payment .released } : Store).SelectionsOk :=
    h.toSelectionsOk.move hfind hpending hid
      (fun _ => rfl) (by simp [Payment.reject, PaymentStatus.reservationState])
  have hsettlement : ∀ id, selectionSettlement (s'.selectionsOf id) =
      selectionSettlement (s.selectionsOf id) := by
    intro id
    rw [selectionsOf, hmoved]
    exact selectionSettlement_movedSelections _ _ id
  -- a payment that is not rejected is as it was before
  have hold : ∀ {id : ℕ} {p : Payment}, s'.payments.find? id = some p → p.status ≠ .rejected →
      s.payments.find? id = some p := by
    intro id p hp hstatus
    obtain ⟨r, hr, hpr⟩ := find?_modify_status hid hp
    split at hpr
    · rw [hpr] at hstatus
      exact absurd rfl hstatus
    · rw [hpr]
      exact hr
  rw [← hmoved] at hselections
  have hallocated : ∀ t, s'.approvedAllocated t = s.approvedAllocated t := by
    intro t
    simp only [approvedAllocated, happroved]
    rfl
  exact
    { h.toReferencesOk.modifyPayment (f := Payment.reject reason) hid fun _ => rfl,
      h.toPaymentsOk.modify (f := Payment.reject reason) hid (fun _ => rfl)
        fun _ => by simp [Payment.reject], hselections, h with
      allocation_payment := by
        intro a ha
        rw [happroved, hreversed]
        exact h.allocation_payment a ha
      allocation_active := fun a ha p hp hstatus =>
        h.allocation_active a ha p (hold hp (by rw [hstatus]; decide)) hstatus
      allocation_selected := by
        intro p hp hexplicit hstatus
        have hp' := hold (Table.find?_of_mem hp) (by rcases hstatus with hs | hs <;> rw [hs] <;> decide)
        rw [hsettlement]
        exact h.allocation_selected p (Table.mem_of_find? hp') hexplicit hstatus
      cover_item := fun i hi => by
        rw [hallocated]
        exact h.cover_item i hi
      cover_adjustment := fun a ha => by
        rw [hallocated]
        exact h.cover_adjustment a ha
      cover_settled := by
        intro d hd hstatus hkept
        rw [happroved] at hstatus
        simp only [hreversed] at hkept
        rw [hmoved] at hd
        obtain ⟨r, hr, hpayment, htarget⟩ := mem_movedSelections hd
        rw [← htarget] at hkept ⊢
        exact h.cover_settled r hr (hpayment ▸ hstatus) hkept }

/-! ### Approving -/

/-- The targets and amounts of a payment's allocations, after more were inserted. -/
theorem map_allocationsOf_createMany {paymentId id : ℕ} {l : Settlement}
    {hid : ∀ e n, (allocationRow paymentId e n).id = n} :
    ((({ s with allocations := s.allocations.createMany l (allocationRow paymentId) hid } :
        Store).allocationsOf id).map fun a => (a.target, a.amount)) =
      ((s.allocationsOf id).map fun a => (a.target, a.amount)) ++
        if paymentId = id then l else [] := by
  refine (Table.map_filter_createMany s.allocations l (allocationRow paymentId) hid
    (q := fun _ => paymentId = id) (g := fun e => e) (fun _ _ => rfl) fun _ _ => rfl).trans ?_
  by_cases he : paymentId = id <;> simp [he, allocationsOf]

/-- What the allocations of a payment are for. -/
theorem map_target_allocationsOf (s : Store) (id : ℕ) :
    (s.allocationsOf id).map (·.target) =
      ((s.allocationsOf id).map fun a => (a.target, a.amount)).map Prod.fst := by
  rw [List.map_map]
  rfl

/-- The store after the payment has been given its new status by `f`, and has settled `l`. -/
def applied (s : Store) (payment : Payment) (l : Settlement) (f : Payment → Payment)
    (hid : ∀ p, (f p).id = p.id) : Store :=
  { s.settle l with
    allocations := s.allocations.createMany l (allocationRow payment.id) fun _ _ => rfl
    payments := s.payments.modify payment.id f hid
    debtSelections := s.movedSelections payment .applied }

/-- The payment is pending, and settles what is due of its unit; with selections, all that they
select. -/
structure Applicable (s : Store) (payment : Payment) (l : Settlement) (f : Payment → Payment) :
    Prop where
  find : s.payments.find? payment.id = some payment
  pending : payment.status = .pendingApproval
  terms : ∀ p, (f p).terms = p.terms
  approved : ∀ p, (f p).status = .approved
  due : l.Due s payment.unitId
  selected : payment.selectionMode = .explicitSelection →
    l = selectionSettlement (s.selectionsOf payment.id) ∧ ∀ e ∈ l, s.outstandingOf e.1 = e.2

section Applied

variable {payment : Payment} {l : Settlement} {f : Payment → Payment} {hid : ∀ p, (f p).id = p.id}

/-- The payment is approved, and the others are as they were. -/
theorem Applicable.isApproved_applied (hl : s.Applicable payment l f) (id : ℕ) :
    (s.applied payment l f hid).isApproved id =
      if id = payment.id then true else s.isApproved id := by
  refine (isApproved_modify hid hl.find id).trans ?_
  rw [hl.approved]
  rfl

/-- No payment is reversed. -/
theorem Applicable.isReversed_applied (hl : s.Applicable payment l f) (id : ℕ) :
    (s.applied payment l f hid).isReversed id = s.isReversed id := by
  refine (isReversed_modify hid hl.find id).trans ?_
  split
  case isTrue he =>
    rw [he, isReversed_eq_false hl.find (by rw [hl.pending]; decide), hl.approved]
    rfl
  case isFalse => rfl

/-- The other payments are what they were. -/
theorem find?_of_find?_applied {id : ℕ} {p : Payment}
    (hp : (s.applied payment l f hid).payments.find? id = some p) (hne : id ≠ payment.id) :
    s.payments.find? id = some p := by
  obtain ⟨r, hr, hpr⟩ := find?_modify_status hid hp
  rw [if_neg hne] at hpr
  rw [hpr]
  exact hr

/-- The payment has its allocations, and the others have theirs. -/
theorem map_allocationsOf_applied (id : ℕ) :
    ((s.applied payment l f hid).allocationsOf id).map (fun a => (a.target, a.amount)) =
      ((s.allocationsOf id).map fun a => (a.target, a.amount)) ++
        if payment.id = id then l else [] :=
  map_allocationsOf_createMany

/-- No allocation that was there belongs to the payment. -/
theorem Valid.paymentId_ne (h : s.Valid) (hl : s.Applicable payment l f) {a : PaymentAllocation}
    (ha : a ∈ s.allocations) : a.paymentId ≠ payment.id := fun he =>
  List.filter_eq_nil_iff.mp (h.allocationsOf_pending hl.find hl.pending) a ha (by simp [he])

/-- What approved payments have paid grows by the share. -/
theorem Valid.approvedAllocated_applied (h : s.Valid) (hl : s.Applicable payment l f)
    (t : ObligationTarget) :
    (s.applied payment l f hid).approvedAllocated t = s.approvedAllocated t + share l t := by
  refine (Table.sum_createMany _ _ _ _ _ (fun e => if e.1 = t then e.2 else 0)
    fun e n => ?_).trans ?_
  · simp [allocationRow, hl.isApproved_applied]
  · rw [share, approvedAllocated]
    congr 1
    exact Table.sum_congr fun a ha => by
      rw [hl.isApproved_applied, if_neg (h.paymentId_ne hl ha)]

/-- The selections are as they should be. -/
theorem Valid.selectionsOk_applied (h : s.Valid) (hl : s.Applicable payment l f) :
    (s.applied payment l f hid).SelectionsOk := by
  have hmove := h.toSelectionsOk.move hl.find hl.pending hid hl.terms
    (by rw [hl.approved]; decide)
  rw [hl.approved] at hmove
  exact { hmove with }

/-- The allocations are as they should be. -/
theorem Valid.allocationsOk_applied (h : s.Valid) (hl : s.Applicable payment l f) :
    (s.applied payment l f hid).AllocationsOk where
  allocation_payment := by
    intro a ha
    rw [hl.isApproved_applied, hl.isReversed_applied]
    rcases Table.mem_createMany ha with ha | ⟨e, -, n, -, rfl⟩
    · rw [if_neg (h.paymentId_ne hl ha)]
      exact h.allocation_payment a ha
    · exact Or.inl (if_pos rfl)
  allocation_pos := by
    intro a ha
    rcases Table.mem_createMany ha with ha | ⟨e, he, n, -, rfl⟩
    · exact h.allocation_pos a ha
    · exact hl.due.pos e he
  allocation_distinct := by
    intro id
    rw [map_target_allocationsOf, map_allocationsOf_applied]
    by_cases he : payment.id = id
    · rw [if_pos he, ← he, h.allocationsOf_pending hl.find hl.pending]
      exact hl.due.nodup
    · rw [if_neg he, List.append_nil, ← map_target_allocationsOf]
      exact h.allocation_distinct id
  allocation_active := by
    intro a ha p hp hstatus
    rcases Table.mem_createMany ha with ha | ⟨e, he, n, -, rfl⟩
    · exact isActive_settle.mpr
        (h.allocation_active a ha p (find?_of_find?_applied hp (h.paymentId_ne hl ha)) hstatus)
    · obtain ⟨r, hr, hpr⟩ := find?_modify_status hid hp
      obtain rfl : r = payment := Option.some.inj (hr.symm.trans hl.find)
      have hpr' : p = f r := hpr.trans (if_pos rfl)
      rw [hpr', Payment.column_eq (hl.terms r) Payment.unitId (fun _ => rfl)]
      exact isActive_settle.mpr (hl.due.isActive e he)
  allocation_selected := by
    intro p hp hexplicit hstatus
    have hsettlement : selectionSettlement ((s.applied payment l f hid).selectionsOf p.id) =
        selectionSettlement (s.selectionsOf p.id) :=
      selectionSettlement_movedSelections payment .applied p.id
    rw [hsettlement, map_allocationsOf_applied]
    by_cases he : p.id = payment.id
    · obtain ⟨r, hr, hpr⟩ := find?_modify_status hid (Table.find?_of_mem hp)
      obtain rfl : r = payment := Option.some.inj (hr.symm.trans (he ▸ hl.find))
      rw [if_pos he] at hpr
      have hmode : r.selectionMode = .explicitSelection := by
        rw [← Payment.column_eq (hl.terms r) Payment.selectionMode (fun _ => rfl), ← hpr]
        exact hexplicit
      rw [if_pos he.symm, he, h.allocationsOf_pending hl.find hl.pending, ← (hl.selected hmode).1]
      rfl
    · have hp' := find?_of_find?_applied (Table.find?_of_mem hp) he
      rw [if_neg (Ne.symm he), List.append_nil]
      exact h.allocation_selected p (Table.mem_of_find? hp') hexplicit hstatus

/-- What the payment selected is settled, and what was settled before stays so. -/
theorem Valid.outstandingOf_applied (h : s.Valid) (hl : s.Applicable payment l f)
    {r : PaymentDebtSelection} (hr : r ∈ s.debtSelections)
    (hstatus : (s.applied payment l f hid).isApproved r.paymentId = true)
    (hkept : ∀ a ∈ (s.applied payment l f hid).allocations, a.target = r.target →
      ¬ (s.applied payment l f hid).isReversed a.paymentId) :
    (s.settle l).outstandingOf r.target = 0 := by
  by_cases hpay : r.paymentId = payment.id
  · -- a selection of this payment: all that was outstanding is paid
    obtain ⟨p, hp, hexplicit, -⟩ := h.selection_payment r hr
    obtain rfl : p = payment := Option.some.inj (hp.symm.trans (hpay ▸ hl.find))
    obtain ⟨hselected, hout⟩ := hl.selected hexplicit
    have hmem : (r.target, r.selectedAmount) ∈ l := by
      rw [hselected]
      exact List.mem_map.mpr ⟨r, List.mem_filter.mpr ⟨hr, by simp [hpay]⟩, rfl⟩
    have hshare : share l r.target = r.selectedAmount := share_of_mem hl.due.nodup hmem
    have hout' : s.outstandingOf r.target = r.selectedAmount := hout _ hmem
    have hactive : s.IsActive p.unitId r.target := hl.due.isActive _ hmem
    rw [outstandingOf_settle hactive, hshare, hout', sub_self]
  · rw [hl.isApproved_applied, if_neg hpay] at hstatus
    simp only [hl.isReversed_applied] at hkept
    refine outstandingOf_settle_eq_zero (Admissible.of_due h.toItemsOk h.toAdjustmentsOk hl.due)
      h.toAdjustmentsOk (share_nonneg (fun e he => (hl.due.pos e he).le) _)
      (h.cover_settled r hr hstatus ?_)
    exact fun a ha => hkept a (Table.mem_createMany_of_mem ha)

/-- What is paid is covered by what approved payments have paid. -/
theorem Valid.coverOk_applied (h : s.Valid) (hl : s.Applicable payment l f) :
    (s.applied payment l f hid).CoverOk where
  cover_item := by
    intro i hi
    obtain ⟨r, hr, rfl⟩ := mem_settle_chargeItems.mp hi
    rw [h.approvedAllocated_applied hl]
    exact add_le_add_left (h.cover_item r hr) _
  cover_adjustment := by
    intro a ha
    obtain ⟨r, hr, rfl⟩ := mem_settle_adjustments.mp ha
    rw [h.approvedAllocated_applied hl]
    exact add_le_add_left (h.cover_adjustment r hr) _
  cover_settled := by
    intro d hd hstatus hkept
    obtain ⟨r, hr, hpayment, htarget⟩ := mem_movedSelections hd
    rw [← hpayment] at hstatus
    simp only [← htarget] at hkept
    change (s.settle l).outstandingOf d.target = 0
    rw [← htarget]
    exact h.outstandingOf_applied hl hr hstatus hkept

end Applied

/-- Approving a pending payment, before its credit and its cash: it settles `l`, and `l` is what
the payment selected if it is an explicit one. -/
theorem Valid.applied (h : s.Valid) {payment : Payment} {l : Settlement} {f : Payment → Payment}
    (hid : ∀ p, (f p).id = p.id) (hl : s.Applicable payment l f) :
    (s.applied payment l f hid).Valid := by
  have hadmissible := Admissible.of_due h.toItemsOk h.toAdjustmentsOk hl.due
  exact
    { (h.toReferencesOk.settle l).modifyPayment (f := f) hid hl.terms,
      h.toPaymentsOk.modify (f := f) hid hl.terms fun p => by rw [hl.approved]; decide,
      h.selectionsOk_applied hl, h.toBatchesOk.settle l, h.toItemsOk.settle hadmissible,
      AdjustmentsOk.settle hadmissible, h.allocationsOk_applied hl, h.coverOk_applied hl, h with }

/-- Approving a payment: what it settles, its credit, its cash. -/
theorem Valid.approved (h : s.Valid) {s' : Store} {params : ApprovePaymentParams} {now : Time}
    {payment : Payment} {l : Settlement} (hok : Call.Ok s (.approvePayment params))
    (heffect : ApprovalEffect params now s s' payment l) : s'.Valid := by
  obtain ⟨p, hp, hbuilding, hunit, hfund, hamount⟩ := hok
  obtain rfl : p = payment := Option.some.inj (hp.symm.trans heffect.find)
  have hpid : p.id = params.paymentId := Table.key_of_find? hp
  have hmem := Table.mem_of_find? hp
  have hfundBuilding : s.fundBuilding params.fundId = some params.buildingId := by
    rw [← hfund, ← hbuilding]
    exact h.payment_fund p hmem
  have hunitBuilding : s.unitBuilding params.unitId = some params.buildingId := by
    rw [← hunit, ← hbuilding]
    exact h.payment_unit p hmem
  have happlied := h.applied (f := params.approve now) (l := l) (fun _ => rfl)
    { find := hpid ▸ hp
      pending := heffect.pending
      terms := fun _ => rfl
      approved := fun _ => rfl
      due := hunit ▸ heffect.due
      selected := fun hmode => by
        obtain ⟨hl, -, -, hout⟩ := heffect.selected hmode
        exact ⟨hpid ▸ hl, hout⟩ }
  unfold Store.applied at happlied
  have hmoved : s.movedSelections p .applied = match p.selectionMode with
      | .explicitSelection => setReservations s.debtSelections params.paymentId .applied
      | .legacyAutomatic => s.debtSelections := by
    rw [movedSelections, hpid]
  rw [hmoved, hpid] at happlied
  rw [heffect.store_eq]
  unfold Store.approved
  -- only what is left over goes to the credit of the unit
  by_cases hpos : 0 < params.amount - l.total
  · rw [if_pos hpos]
    have hcredit := happlied.upsertCredit hpos.le hunitBuilding
    exact hcredit.postMoved (fun id =>
      { id, buildingId := params.buildingId, fundId := params.fundId, entryType := .payment,
        direction := .credit, amount := params.amount, referenceType := .payment,
        referenceId := params.paymentId, createdAt := now }) (fun _ => rfl) rfl hfundBuilding
  · rw [if_neg hpos]
    exact happlied.postMoved (fun id =>
      { id, buildingId := params.buildingId, fundId := params.fundId, entryType := .payment,
        direction := .credit, amount := params.amount, referenceType := .payment,
        referenceId := params.paymentId, createdAt := now }) (fun _ => rfl) rfl hfundBuilding

/-! ### Reversing -/

/-- What a payment allocated to an obligation. -/
def allocatedTo (s : Store) (paymentId : ℕ) (target : ObligationTarget) : ℤ :=
  s.allocations.sum fun a => if a.target = target ∧ a.paymentId = paymentId then a.amount else 0

/-- A reversal takes back what was allocated. -/
theorem share_reversalSettlement (s : Store) (paymentId : ℕ) (target : ObligationTarget) :
    share (reversalSettlement (s.allocationsOf paymentId)) target =
      -s.allocatedTo paymentId target := by
  have hsum : ((s.allocationsOf paymentId).map fun a =>
      if a.target = target then a.amount else 0).sum = s.allocatedTo paymentId target := by
    refine (Table.sum_filter s.allocations _ _).trans (Table.sum_congr fun a _ => ?_)
    by_cases hp : a.paymentId = paymentId <;> by_cases ht : a.target = target <;> simp [hp, ht]
  rw [← hsum]
  induction s.allocationsOf paymentId with
  | nil => rfl
  | cons a l ih =>
    have hcons : reversalSettlement (a :: l) = (a.target, -a.amount) :: reversalSettlement l := rfl
    rw [hcons, share_cons, ih, List.map_cons, List.sum_cons]
    split <;> ring

/-- No payment has paid less than nothing. -/
theorem Valid.allocatedTo_nonneg (h : s.Valid) (paymentId : ℕ) (target : ObligationTarget) :
    0 ≤ s.allocatedTo paymentId target :=
  Table.sum_nonneg fun a ha => by
    split
    · exact (h.allocation_pos a ha).le
    · exact le_rfl

/-- An approved payment's allocations are among the approved ones. -/
theorem Valid.allocatedTo_le (h : s.Valid) {paymentId : ℕ} (happroved : s.isApproved paymentId)
    (target : ObligationTarget) : s.allocatedTo paymentId target ≤ s.approvedAllocated target := by
  have hrest : 0 ≤ s.allocations.sum fun a =>
      (if a.target = target ∧ s.isApproved a.paymentId then a.amount else 0) -
        if a.target = target ∧ a.paymentId = paymentId then a.amount else 0 := by
    refine Table.sum_nonneg fun a ha => ?_
    have := h.allocation_pos a ha
    by_cases hp : a.paymentId = paymentId
    · simp [hp, happroved]
    · simp only [hp, and_false, if_false, sub_zero]
      split <;> omega
  rw [Table.sum_sub] at hrest
  exact sub_nonneg.mp hrest

/-- Nothing of what an approved payment allocated went anywhere else than to active obligations,
and all of it is still there. -/
theorem Valid.allocation_covered (h : s.Valid) {payment : Payment}
    (hfind : s.payments.find? payment.id = some payment) (hstatus : payment.status = .approved) :
    ∀ a ∈ s.allocationsOf payment.id,
      s.IsActive payment.unitId a.target ∧ a.amount ≤ s.paidOf a.target := by
  intro a ha
  obtain ⟨hmem, hid⟩ := List.mem_filter.mp ha
  have hid : a.paymentId = payment.id := by simpa using hid
  have happroved : s.isApproved payment.id := isApproved_iff.mpr ⟨payment, hfind, hstatus⟩
  have hactive := h.allocation_active a hmem payment (hid ▸ hfind) hstatus
  refine ⟨hactive, ?_⟩
  have hle : a.amount ≤ s.approvedAllocated a.target := by
    have hsingle := Table.le_sum (t := s.allocations)
      (f := fun b => if b.target = a.target ∧ s.isApproved b.paymentId then b.amount else 0)
      (fun r hr => by
        split
        · exact (h.allocation_pos r hr).le
        · exact le_rfl) hmem
    rwa [if_pos ⟨rfl, hid ▸ happroved⟩] at hsingle
  refine hle.trans ?_
  cases htarget : a.target with
  | chargeItem id =>
    rw [htarget] at hactive
    obtain ⟨i, hi, -⟩ := hactive
    obtain rfl := Table.key_of_find? hi
    rw [paidOf_chargeItem (Table.mem_of_find? hi)]
    exact h.cover_item i (Table.mem_of_find? hi)
  | adjustment id =>
    rw [htarget] at hactive
    obtain ⟨r, hr, -⟩ := hactive
    obtain rfl := Table.key_of_find? hr
    rw [paidOf_adjustment (Table.mem_of_find? hr)]
    exact h.cover_adjustment r (Table.mem_of_find? hr)

/-- Taking an approved payment back keeps every obligation within its bounds. -/
theorem Valid.admissible_reversal (h : s.Valid) {paymentId : ℕ} (happroved : s.isApproved paymentId) :
    s.Admissible (reversalSettlement (s.allocationsOf paymentId)) where
  item := by
    intro i hi
    have := h.item_paid i hi
    have := h.cover_item i hi
    have := h.allocatedTo_nonneg paymentId (.chargeItem i.id)
    have := h.allocatedTo_le happroved (.chargeItem i.id)
    rw [share_reversalSettlement]
    constructor <;> omega
  unbilled := by
    intro i hi hbilled
    have := h.item_unbilled i hi hbilled
    have := h.cover_item i hi
    have := h.allocatedTo_nonneg paymentId (.chargeItem i.id)
    have := h.allocatedTo_le happroved (.chargeItem i.id)
    rw [share_reversalSettlement]
    omega
  adjustment := by
    intro a ha
    have := h.adjustment_paid a ha
    have := h.cover_adjustment a ha
    have := h.allocatedTo_nonneg paymentId (.adjustment a.id)
    have := h.allocatedTo_le happroved (.adjustment a.id)
    rw [share_reversalSettlement]
    constructor <;> omega

/-- The store after the payment has been given its new status by `f`, and what it settled has been
taken back. -/
def takenBack (s : Store) (payment : Payment) (f : Payment → Payment)
    (hid : ∀ p, (f p).id = p.id) : Store :=
  { s.settle (reversalSettlement (s.allocationsOf payment.id)) with
    payments := s.payments.modify payment.id f hid }

/-- The payment is approved, and is to be reversed. -/
structure Reversible (s : Store) (payment : Payment) (f : Payment → Payment) : Prop where
  find : s.payments.find? payment.id = some payment
  approved : payment.status = .approved
  terms : ∀ p, (f p).terms = p.terms
  reversed : ∀ p, (f p).status = .reversed

section TakenBack

variable {payment : Payment} {f : Payment → Payment} {hid : ∀ p, (f p).id = p.id}

/-- The payment is no longer approved, and the others are what they were. -/
theorem Reversible.isApproved_takenBack (hr : s.Reversible payment f) (id : ℕ) :
    (s.takenBack payment f hid).isApproved id =
      if id = payment.id then false else s.isApproved id := by
  refine (isApproved_modify hid hr.find id).trans ?_
  rw [hr.reversed]
  rfl

theorem Reversible.isReversed_takenBack (hr : s.Reversible payment f) (id : ℕ) :
    (s.takenBack payment f hid).isReversed id =
      if id = payment.id then true else s.isReversed id := by
  refine (isReversed_modify hid hr.find id).trans ?_
  rw [hr.reversed]
  rfl

/-- The other payments are what they were. -/
theorem find?_of_find?_takenBack {id : ℕ} {p : Payment}
    (hp : (s.takenBack payment f hid).payments.find? id = some p) (hne : id ≠ payment.id) :
    s.payments.find? id = some p := by
  obtain ⟨r, hr, hpr⟩ := find?_modify_status hid hp
  rw [if_neg hne] at hpr
  rw [hpr]
  exact hr

/-- The payment is what `f` makes of it. -/
theorem Reversible.eq_of_find?_takenBack (hr : s.Reversible payment f) {p : Payment}
    (hp : (s.takenBack payment f hid).payments.find? payment.id = some p) : p = f payment := by
  obtain ⟨r, hfind, hpr⟩ := find?_modify_status hid hp
  obtain rfl : r = payment := Option.some.inj (hfind.symm.trans hr.find)
  exact hpr.trans (if_pos rfl)

/-- What approved payments have paid is less by what the payment has paid. -/
theorem Reversible.approvedAllocated_takenBack (hr : s.Reversible payment f)
    (t : ObligationTarget) :
    (s.takenBack payment f hid).approvedAllocated t =
      s.approvedAllocated t - s.allocatedTo payment.id t := by
  have hpayment : s.isApproved payment.id := isApproved_iff.mpr ⟨payment, hr.find, hr.approved⟩
  rw [approvedAllocated, approvedAllocated, allocatedTo, ← Table.sum_sub]
  refine Table.sum_congr fun a _ => ?_
  rw [hr.isApproved_takenBack]
  by_cases hp : a.paymentId = payment.id
  · simp [hp, hpayment]
  · simp [hp]

/-- The selections stay applied, as those of an approved payment are. -/
theorem Valid.selectionsOk_takenBack (h : s.Valid) (hr : s.Reversible payment f) :
    (s.takenBack payment f hid).SelectionsOk :=
  { h.toSelectionsOk with
    selection_payment := by
      intro d hd
      obtain ⟨p, hp, hexplicit, hstate⟩ := h.selection_payment d hd
      change ∃ p', (s.payments.modify payment.id f hid).find? d.paymentId = some p' ∧ _
      rw [Table.find?_modify, hp]
      by_cases he : d.paymentId = payment.id
      · obtain rfl : p = payment := Option.some.inj (hp.symm.trans (he ▸ hr.find))
        rw [if_pos he]
        rw [hr.approved] at hstate
        refine ⟨f p, rfl, ?_, ?_⟩
        · rw [Payment.column_eq (hr.terms p) Payment.selectionMode (fun _ => rfl), hexplicit]
        · rw [hr.reversed]
          exact hstate
      · rw [if_neg he]
        exact ⟨p, rfl, hexplicit, hstate⟩
    selection_total := by
      intro p hp hexplicit
      by_cases he : p.id = payment.id
      · obtain rfl := hr.eq_of_find?_takenBack (he ▸ Table.find?_of_mem hp)
        rw [hid, Payment.column_eq (hr.terms payment) Payment.amount (fun _ => rfl)]
        rw [Payment.column_eq (hr.terms payment) Payment.selectionMode (fun _ => rfl)] at hexplicit
        exact h.selection_total payment (Table.mem_of_find? hr.find) hexplicit
      · exact h.selection_total p
          (Table.mem_of_find? (find?_of_find?_takenBack (Table.find?_of_mem hp) he)) hexplicit }

/-- The allocations stay, now as those of a reversed payment. -/
theorem Valid.allocationsOk_takenBack (h : s.Valid) (hr : s.Reversible payment f) :
    (s.takenBack payment f hid).AllocationsOk :=
  { h.toAllocationsOk with
    allocation_payment := by
      intro a ha
      rw [hr.isApproved_takenBack, hr.isReversed_takenBack]
      by_cases he : a.paymentId = payment.id
      · exact Or.inr (if_pos he)
      · rw [if_neg he, if_neg he]
        exact h.allocation_payment a ha
    allocation_active := by
      intro a ha p hp hstatus
      by_cases he : a.paymentId = payment.id
      · obtain rfl := hr.eq_of_find?_takenBack (he ▸ hp)
        rw [hr.reversed] at hstatus
        exact absurd hstatus (by decide)
      · exact isActive_settle.mpr
          (h.allocation_active a ha p (find?_of_find?_takenBack hp he) hstatus)
    allocation_selected := by
      intro p hp hexplicit hstatus
      by_cases he : p.id = payment.id
      · obtain rfl := hr.eq_of_find?_takenBack (he ▸ Table.find?_of_mem hp)
        rw [Payment.column_eq (hr.terms payment) Payment.selectionMode (fun _ => rfl)] at hexplicit
        rw [hid]
        exact h.allocation_selected payment (Table.mem_of_find? hr.find) hexplicit
          (Or.inl hr.approved)
      · exact h.allocation_selected p
          (Table.mem_of_find? (find?_of_find?_takenBack (Table.find?_of_mem hp) he)) hexplicit
          hstatus }

/-- What is paid is still covered, since it is less by what is no longer counted. -/
theorem Valid.coverOk_takenBack (h : s.Valid) (hr : s.Reversible payment f)
    (hadmissible : s.Admissible (reversalSettlement (s.allocationsOf payment.id))) :
    (s.takenBack payment f hid).CoverOk where
  cover_item := by
    intro i hi
    obtain ⟨r, hmem, rfl⟩ := mem_settle_chargeItems.mp hi
    have := h.cover_item r hmem
    rw [hr.approvedAllocated_takenBack, ChargeItem.pay_paidAmount, ChargeItem.pay_id,
      share_reversalSettlement]
    omega
  cover_adjustment := by
    intro a ha
    obtain ⟨r, hmem, rfl⟩ := mem_settle_adjustments.mp ha
    have := h.cover_adjustment r hmem
    rw [hr.approvedAllocated_takenBack, Adjustment.pay_paidAmount, Adjustment.pay_id,
      share_reversalSettlement]
    omega
  cover_settled := by
    intro d hd hstatus hkept
    simp only [hr.isApproved_takenBack] at hstatus
    simp only [hr.isReversed_takenBack] at hkept
    have hne : d.paymentId ≠ payment.id := by
      intro he
      simp [he] at hstatus
    rw [if_neg hne] at hstatus
    -- no allocation to the obligation was taken back, so none of this payment's was
    have hother : ∀ a ∈ s.allocations, a.target = d.target → a.paymentId ≠ payment.id := by
      intro a ha ht he
      exact hkept a ha ht (if_pos he)
    have hzero : s.allocatedTo payment.id d.target = 0 :=
      Table.sum_eq_zero fun a ha => if_neg fun ⟨ht, he⟩ => hother a ha ht he
    refine outstandingOf_settle_eq_zero hadmissible h.toAdjustmentsOk ?_
      (h.cover_settled d hd hstatus fun a ha ht hrev => hkept a ha ht ?_)
    · rw [share_reversalSettlement, hzero, neg_zero]
    · rw [if_neg (hother a ha ht)]
      exact hrev

end TakenBack

/-- Reversing an approved payment, before its cash. -/
theorem Valid.takenBack (h : s.Valid) {payment : Payment} {f : Payment → Payment}
    (hid : ∀ p, (f p).id = p.id) (hr : s.Reversible payment f) :
    (s.takenBack payment f hid).Valid := by
  have hadmissible : s.Admissible (reversalSettlement (s.allocationsOf payment.id)) :=
    h.admissible_reversal (isApproved_iff.mpr ⟨payment, hr.find, hr.approved⟩)
  exact
    { (h.toReferencesOk.settle _).modifyPayment (f := f) hid hr.terms,
      h.toPaymentsOk.modify (f := f) hid hr.terms fun p => by rw [hr.reversed]; decide,
      h.toBatchesOk.settle _, h.toItemsOk.settle hadmissible, AdjustmentsOk.settle hadmissible,
      h.selectionsOk_takenBack hr, h.allocationsOk_takenBack hr,
      h.coverOk_takenBack hr hadmissible, h with }

/-- Reversing a payment: what it takes back, its cash. -/
theorem Valid.reversed (h : s.Valid) {s' : Store} {params : ReversePaymentParams} {now : Time}
    {payment : Payment} (hok : Call.Ok s (.reversePayment params))
    (heffect : ReversalEffect params now s s' payment) : s'.Valid := by
  obtain ⟨p, hp, hbuilding, hfund, hamount⟩ := hok
  obtain rfl : p = payment := Option.some.inj (hp.symm.trans heffect.find)
  have hpid : p.id = params.paymentId := Table.key_of_find? hp
  have hfundBuilding : s.fundBuilding params.fundId = some params.buildingId := by
    rw [← hfund, ← hbuilding]
    exact h.payment_fund p (Table.mem_of_find? hp)
  have htaken := h.takenBack (f := Payment.reverse now) (fun _ => rfl)
    ⟨hpid ▸ hp, heffect.approved, fun _ => rfl, fun _ => rfl⟩
  unfold Store.takenBack at htaken
  rw [hpid] at htaken
  rw [heffect.store_eq]
  exact htaken.postMoved (fun id =>
    { id, buildingId := params.buildingId, fundId := params.fundId, entryType := .reversal,
      direction := .debit, amount := params.amount, referenceType := .payment,
      referenceId := params.paymentId, createdAt := now }) (fun _ => rfl) rfl hfundBuilding

end Store

end VielHome.Finance
