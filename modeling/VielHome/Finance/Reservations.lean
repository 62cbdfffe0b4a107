import VielHome.Finance.Invariant.Reachable

/-!
# The life of a reservation

An explicit payment reserves the obligations it selects. Its selections follow its status,
add up to its amount, and become its allocations when it is approved. The approval settles
every selected obligation, and it stays settled until a payment that was allocated to it is
reversed: a reversal reopens the debt also where another payment had selected it.
-/

namespace VielHome.Finance

open Relational

namespace Store

/-- The obligation exists and is paid up to its amount. -/
def FullyPaid (s : Store) : ObligationTarget → Prop
  | .chargeItem id => ∃ i, s.chargeItems.find? id = some i ∧ i.paidAmount = i.amount
  | .adjustment id => ∃ a, s.adjustments.find? id = some a ∧ a.paidAmount = a.amount

/-- A payment that was reversed had an allocation on the obligation. -/
def Reopened (s : Store) (target : ObligationTarget) : Prop :=
  ∃ a ∈ s.allocations, a.target = target ∧ s.isReversed a.paymentId = true

variable {s : Store}

/-- An obligation of a unit with nothing outstanding is fully paid. -/
theorem IsActive.fullyPaid {unitId : ℕ} {target : ObligationTarget}
    (hactive : s.IsActive unitId target) (hzero : s.outstandingOf target = 0) :
    s.FullyPaid target := by
  cases target with
  | chargeItem id =>
    obtain ⟨i, hi, -⟩ := hactive
    rw [outstandingOf, hi, Option.map_some, Option.getD_some, ChargeItem.outstanding] at hzero
    exact ⟨i, hi, by omega⟩
  | adjustment id =>
    obtain ⟨a, ha, -⟩ := hactive
    rw [outstandingOf, ha, Option.map_some, Option.getD_some, Adjustment.outstanding] at hzero
    exact ⟨a, ha, by omega⟩

/-- Settling keeps obligations alive. -/
theorem IsActive.settle {unitId : ℕ} {target : ObligationTarget} (h : s.IsActive unitId target)
    (l : Settlement) : (s.settle l).IsActive unitId target := by
  cases target with
  | chargeItem id =>
    obtain ⟨i, hi, hunit, hbilled⟩ := h
    exact ⟨i.pay (share l (.chargeItem i.id)), by rw [find?_settle_chargeItems, hi]; rfl, hunit,
      hbilled⟩
  | adjustment id =>
    obtain ⟨a, ha, hunit⟩ := h
    exact ⟨a.pay (share l (.adjustment a.id)), by rw [find?_settle_adjustments, ha]; rfl, hunit⟩

/-- The status of a payment is the only one with its reservation state, except that approved
and reversed payments share one. -/
theorem reservationState_eq_iff {status : PaymentStatus} (h : status ≠ .refunded) :
    (status.reservationState = .active ↔ status = .pendingApproval) ∧
      (status.reservationState = .released ↔ status = .rejected) ∧
      (status.reservationState = .applied ↔ status = .approved ∨ status = .reversed) := by
  cases status <;> simp_all [PaymentStatus.reservationState]

/-- An explicit payment selects something. -/
theorem Valid.selectionsOf_ne_nil (h : s.Valid) {p : Payment} (hp : p ∈ s.payments)
    (hmode : p.selectionMode = .explicitSelection) : s.selectionsOf p.id ≠ [] := by
  intro hnil
  have htotal := h.selection_total p hp hmode
  have hpos := h.payment_pos p hp
  rw [hnil] at htotal
  change (0 : ℤ) = p.amount at htotal
  omega

/-- The selections of a payment are in the state that its status says. -/
theorem Valid.forall_selectionsOf_iff (h : s.Valid) {p : Payment} (hp : p ∈ s.payments)
    (hmode : p.selectionMode = .explicitSelection) (state : PaymentDebtReservationState) :
    (∀ d ∈ s.selectionsOf p.id, d.reservationState = state) ↔
      p.status.reservationState = state := by
  have hstate : ∀ d ∈ s.selectionsOf p.id, d.reservationState = p.status.reservationState := by
    intro d hd
    obtain ⟨hmem, hpayment⟩ := List.mem_filter.mp hd
    obtain ⟨p', hp', -, hstate⟩ := h.selection_payment d hmem
    rw [of_decide_eq_true hpayment, Table.find?_of_mem hp] at hp'
    rw [hstate, ← Option.some.inj hp']
  constructor
  · intro hall
    obtain ⟨d, hd⟩ := List.exists_mem_of_ne_nil _ (h.selectionsOf_ne_nil hp hmode)
    rw [← hstate d hd, hall d hd]
  · intro hstatus d hd
    rw [hstate d hd, hstatus]

/-- What an approved payment selected is fully paid, unless it was reopened. -/
theorem Valid.fullyPaid_of_approved (h : s.Valid) {p : Payment} (hp : p ∈ s.payments)
    (hmode : p.selectionMode = .explicitSelection) (hstatus : p.status = .approved)
    {d : PaymentDebtSelection} (hd : d ∈ s.selectionsOf p.id) (hopen : ¬ s.Reopened d.target) :
    s.FullyPaid d.target := by
  have hfind := Table.find?_of_mem hp
  obtain ⟨hmem, hpayment⟩ := List.mem_filter.mp hd
  have hpayment := of_decide_eq_true hpayment
  -- the selection became an allocation, and an approved payment keeps its targets alive
  have hallocated : (d.target, d.selectedAmount) ∈
      (s.allocationsOf p.id).map fun a => (a.target, a.amount) := by
    rw [h.allocation_selected p hp hmode (Or.inl hstatus)]
    exact List.mem_map_of_mem hd
  obtain ⟨a, ha, heq⟩ := List.mem_map.mp hallocated
  obtain ⟨hamem, hapayment⟩ := List.mem_filter.mp ha
  have hactive := h.allocation_active a hamem p
    (by rw [of_decide_eq_true hapayment, hfind]) hstatus
  have htarget : a.target = d.target := (congrArg Prod.fst heq :)
  rw [htarget] at hactive
  refine hactive.fullyPaid (h.cover_settled d hmem ?_ fun a' ha' htarget hreversed => ?_)
  · rw [hpayment, isApproved, hfind]
    simp [hstatus]
  · exact hopen ⟨a', ha', htarget, hreversed⟩

/-- The approval of an explicit payment pays everything it selected. -/
theorem fullyPaid_of_approvalEffect {params : ApprovePaymentParams} {now : Time} {s' : Store}
    {payment : Payment} {l : Settlement}
    (heffect : ApprovalEffect params now s s' payment l)
    (hmode : payment.selectionMode = .explicitSelection) :
    ∀ d ∈ s'.selectionsOf params.paymentId, s'.FullyPaid d.target := by
  intro d hd
  obtain ⟨hl, -, -, hout⟩ := heffect.selected hmode
  have hselections : s'.debtSelections =
      setReservations s.debtSelections params.paymentId .applied := by
    rw [heffect.store_eq, hmode]
    rfl
  have hselected : selectionSettlement (s'.selectionsOf params.paymentId) = l := by
    rw [hl, selectionsOf, hselections]
    exact selectionSettlement_setReservations _
  have hmem : (d.target, d.selectedAmount) ∈ l := by
    rw [← hselected]
    exact List.mem_map_of_mem hd
  have hactive := heffect.due.isActive _ hmem
  have hzero : (s.settle l).outstandingOf d.target = 0 := by
    rw [outstandingOf_settle hactive, share_of_mem heffect.due.nodup hmem, hout _ hmem]
    exact sub_self _
  have hpaid := (hactive.settle l).fullyPaid hzero
  rw [heffect.store_eq]
  cases htarget : d.target <;> rw [htarget] at hpaid <;> exact hpaid

end Store

/-- In every reachable state an obligation is reserved at most once; the selections of an
explicit payment are positive, add up to its amount and follow its status; once it was approved
its allocations are its selections; and what an approved payment selected is fully paid unless a
payment with an allocation on it was reversed. The approval itself leaves everything that the
payment selected fully paid. -/
theorem reservation_lifecycle {S : System} (h : S.Reachable) :
    (∀ d ∈ S.store.debtSelections, ∀ d' ∈ S.store.debtSelections, d.target = d'.target →
      d.reservationState = .active → d'.reservationState = .active → d = d') ∧
    (∀ p ∈ S.store.payments, p.selectionMode = .explicitSelection →
      let selections := S.store.selectionsOf p.id
      ((∀ d ∈ selections, d.reservationState = .active) ↔ p.status = .pendingApproval) ∧
      ((∀ d ∈ selections, d.reservationState = .released) ↔ p.status = .rejected) ∧
      ((∀ d ∈ selections, d.reservationState = .applied) ↔
        p.status = .approved ∨ p.status = .reversed) ∧
      (∀ d ∈ selections, 0 < d.selectedAmount) ∧
      (selections.map fun d => d.selectedAmount).sum = p.amount ∧
      (p.status = .approved ∨ p.status = .reversed →
        ((S.store.allocationsOf p.id).map fun a => (a.target, a.amount)) =
          selections.map fun d => (d.target, d.selectedAmount)) ∧
      (p.status = .approved →
        ∀ d ∈ selections, ¬ S.store.Reopened d.target → S.store.FullyPaid d.target)) ∧
    ∀ params now q s', .approvePayment params ∈ S.inFlight →
      (approvePayment params now).run S.store = .ok (q, s') →
      q.selectionMode = .explicitSelection →
      ∀ d ∈ s'.selectionsOf params.paymentId, s'.FullyPaid d.target := by
  have hinv := System.inv_of_reachable h
  have hvalid := hinv.valid
  refine ⟨fun d hd d' hd' htarget hactive hactive' => ?_, fun p hp hmode => ?_,
    fun params now q s' hcall hrun hmode => ?_⟩
  · have hid := hvalid.selection_reserved d hd d' hd' htarget hactive hactive'
    exact Table.eq_of_key_eq hd hd' hid
  · obtain ⟨hpending, hrejected, happlied⟩ :=
      Store.reservationState_eq_iff (hvalid.payment_not_refunded p hp)
    have hstate := hvalid.forall_selectionsOf_iff hp hmode
    refine ⟨(hstate _).trans hpending, (hstate _).trans hrejected, (hstate _).trans happlied,
      fun d hd => ?_, ?_, hvalid.allocation_selected p hp hmode, fun hstatus d hd => ?_⟩
    · exact hvalid.selection_pos d (List.mem_filter.mp hd).1
    · rw [← hvalid.selection_total p hp hmode, Settlement.total, selectionSettlement, List.map_map]
      rfl
    · exact hvalid.fullyPaid_of_approved hp hmode hstatus hd
  · obtain ⟨payment, l, heffect, rfl, -, -⟩ := hvalid.approvalEffect (hinv.calls _ hcall) hrun
    exact Store.fullyPaid_of_approvalEffect heffect hmode

/-- An item of 100 is paid by two payments, 60 automatically and the remaining 40 explicitly, and
the first of them is reversed. -/
def System.reopened : List Event :=
  charged ++
    [.request (.createPayment tenancy 0 0 partPayment) 3, .commit 0 3,
      .request (.approvePayment 0 0 7) 4, .commit 0 4,
      .request (.createExplicitPayment tenancy 0 0 (itemPayment "second") 5) 5, .commit 0 5,
      .request (.approvePayment 0 1 7) 6, .commit 0 6, .request (.reversePayment 0 0) 7, .commit 0 7]

/-- In that state every explicit payment still has the allocations it selected. -/
theorem reservation_lifecycle_reopened :
    ((runFrom System.step System.init System.reopened).store.payments.find? 1).map Payment.status =
      some .approved ∧
    ∀ p ∈ (runFrom System.step System.init System.reopened).store.payments,
      p.selectionMode = .explicitSelection → p.status = .approved →
      (((runFrom System.step System.init System.reopened).store.allocationsOf p.id).map
          fun a => (a.target, a.amount)) =
        ((runFrom System.step System.init System.reopened).store.selectionsOf p.id).map
          fun d => (d.target, d.selectedAmount) := by
  refine ⟨by decide +kernel, fun p hp hmode hstatus => ?_⟩
  have hlife := (reservation_lifecycle ⟨System.reopened, rfl⟩).2.1 p hp hmode
  exact hlife.2.2.2.2.2.1 (Or.inl hstatus)

/-- The second payment is approved and selected the item, of which 40 are paid. -/
theorem selected_not_fully_paid :
    let s := (runFrom System.step System.init System.reopened).store
    ((s.payments.find? 1).map fun p => (p.selectionMode, p.status)) =
        some (.explicitSelection, .approved) ∧
      (s.selectionsOf 1).map (fun d => d.target) = [.chargeItem 0] ∧
      ((s.chargeItems.find? 0).map fun i => (i.amount, i.paidAmount)) = some (100, 40) := by
  decide +kernel

end VielHome.Finance
