import VielHome.Finance.OldestFirst

/-!
# Reversing an approval undoes it

A reversal rebuilds what the approval did from the allocation rows. When the whole amount was
allocated the two settlements cancel, row by row (`Store.settle_negated`). When part of it
became credit the allocations stay below the amount for ever, because the allocations of a
payment are only written by its approval, and a payment is approved at most once; so no later
reversal passes its check.
-/

namespace VielHome.Finance

open Relational

/-- The parameters with which the service reverses a payment. -/
def Payment.reversal (p : Payment) : ReversePaymentParams :=
  { paymentId := p.id, buildingId := p.buildingId, fundId := p.fundId, amount := p.amount }

/-! ### Settling back -/

/-- The settlement with every amount negated. -/
def Settlement.negated (l : Settlement) : Settlement := l.map fun e => (e.1, -e.2)

theorem Settlement.share_append_negated (l : Settlement) (target : ObligationTarget) :
    share (l ++ l.negated) target = 0 := by
  have hnegated : share l.negated target = -share l target := by
    induction l with
    | nil => rfl
    | cons e l ih =>
      have hcons : Settlement.negated (e :: l) = (e.1, -e.2) :: Settlement.negated l := rfl
      rw [hcons, share_cons, share_cons, ih]
      split <;> omega
  rw [share, List.map_append, List.sum_append]
  change share l target + share l.negated target = 0
  rw [hnegated, add_neg_cancel]

namespace Store

variable {s s' : Store}

/-- A settlement and its negation leave every obligation as it was. -/
theorem settle_negated (hs : s.StatusOk) (l : Settlement) : (s.settle l).settle l.negated = s := by
  have hitems : (s.settle (l ++ l.negated)).chargeItems = s.chargeItems := by
    simp only [settle]
    exact Table.map_id fun i hi => by rw [l.share_append_negated, ChargeItem.pay_zero (hs i hi)]
  have hadjustments : (s.settle (l ++ l.negated)).adjustments = s.adjustments := by
    simp only [settle]
    exact Table.map_id fun a _ => by rw [l.share_append_negated, Adjustment.pay_zero]
  rw [settle_settle hs]
  calc s.settle (l ++ l.negated) =
      { s with
        chargeItems := (s.settle (l ++ l.negated)).chargeItems
        adjustments := (s.settle (l ++ l.negated)).adjustments } := rfl
    _ = s := by rw [hitems, hadjustments]

/-- A settlement reads the obligations only. -/
theorem settle_congr {t : Store} (hitems : s.chargeItems = t.chargeItems)
    (hadjustments : s.adjustments = t.adjustments) (l : Settlement) :
    (s.settle l).chargeItems = (t.settle l).chargeItems ∧
      (s.settle l).adjustments = (t.settle l).adjustments := by
  simp only [settle, hitems, hadjustments, and_self]

/-- The reversal of allocations settles the negation of what they settled. -/
theorem reversalSettlement_eq_negated (allocations : List PaymentAllocation) :
    reversalSettlement allocations =
      Settlement.negated (allocations.map fun a => (a.target, a.amount)) := by
  rw [Settlement.negated, List.map_map]
  rfl

variable {p : Payment} {actorId : ℕ} {now : Time} {l : Settlement}

/-- What an approval leaves of the payment. -/
theorem Valid.find?_approved (h : s.Valid)
    (heffect : ApprovalEffect (p.approval actorId) now s s' p l) :
    s'.payments.find? p.id = some ((p.approval actorId).approve now p) ∧
      (s'.allocationsOf p.id).map (fun a => (a.target, a.amount)) = l ∧
      s'.allocatedTotal p.id = l.total := by
  have hallocations : (s'.allocationsOf p.id).map (fun a => (a.target, a.amount)) = l := by
    rw [heffect.store_eq]
    exact h.allocationsOf_approved (Table.mem_of_find? heffect.find) heffect.pending _ _ _ _
  refine ⟨?_, hallocations, ?_⟩
  · rw [heffect.store_eq]
    exact Table.find?_modify_self (h := by exact fun _ => rfl) heffect.find
  · rw [allocatedTotal, Settlement.total, ← hallocations, List.map_map]
    rfl

/-- What an approval adds to the credit of the unit. -/
theorem CreditUnique.unitCredit_approved (h : s.CreditUnique)
    (heffect : ApprovalEffect (p.approval actorId) now s s' p l) :
    s'.unitCredit p.unitId = s.unitCredit p.unitId + (p.amount - l.total) := by
  have hadded := CreditUnique.credit_approved (p := fun u => u = p.unitId) h heffect
  simpa [Store.unitCredit, Payment.approval] using hadded

/-- Reversing an approval that added no credit. -/
theorem Valid.run_reversePayment_of_approved (h : s.Valid)
    (heffect : ApprovalEffect (p.approval actorId) now s s' p l) (htotal : l.total = p.amount)
    (now' : Time) :
    ∃ q t, (reversePayment p.reversal now').run s' = .ok (q, t) ∧
      t.chargeItems = s.chargeItems ∧ t.adjustments = s.adjustments ∧
      t.creditBalances = s.creditBalances ∧ t.funds = s.funds := by
  have hp := Table.mem_of_find? heffect.find
  have hvalid : s'.Valid := h.approved ⟨p, heffect.find, rfl, rfl, rfl, rfl⟩ heffect
  obtain ⟨hfind, hallocations, hallocated⟩ := h.find?_approved heffect
  obtain ⟨fund, hfund⟩ := heffect.fund
  have hfund' : ∃ fund, s'.funds.find? p.fundId = some fund := by
    rw [heffect.store_eq]
    exact ⟨_, Table.find?_modify_self (h := by exact fun _ => rfl) hfund⟩
  have hreversal : ReversalEffect p.reversal now' s' (s'.reversed p.reversal now')
      ((p.approval actorId).approve now p) :=
    ⟨hfind, rfl, hallocated.trans htotal, hfund', rfl⟩
  have hrun := (reversePayment_ok hvalid.item_status (hvalid.allocation_distinct _)
    fun _ hfind => hvalid.covered hfind).mpr ⟨_, hreversal, rfl⟩
  have hback : (s.settle l).settle (reversalSettlement (s'.allocationsOf p.id)) = s := by
    rw [reversalSettlement_eq_negated, hallocations, settle_negated h.item_status]
  obtain ⟨hitems, hadjustments⟩ := settle_congr (s := s') (t := s.settle l)
    (by rw [heffect.store_eq]; rfl) (by rw [heffect.store_eq]; rfl)
    (reversalSettlement (s'.allocationsOf p.id))
  rw [hback] at hitems hadjustments
  refine ⟨_, _, hrun, hitems, hadjustments, ?_, ?_⟩
  · change s'.creditBalances = s.creditBalances
    have hnothing : ¬ 0 < (p.approval actorId).amount - l.total := by
      rw [htotal]
      exact (sub_self p.amount).not_gt
    rw [heffect.store_eq]
    exact if_neg hnothing
  · -- what the approval added to the fund is taken off again
    have hfunds : s'.funds =
        s.funds.modify p.fundId (fun f => { f with balance := f.balance + p.amount })
          fun _ => rfl := by
      rw [heffect.store_eq]
      rfl
    change s'.funds.modify p.fundId (fun f => { f with balance := f.balance + -p.amount })
      (fun _ => rfl) = s.funds
    rw [hfunds, Table.modify_modify]
    exact Table.modify_eq_self fun f _ _ => by simp

/-! ### Approvals that added credit -/

/-- The payment was decided, and its allocations do not make up its amount. -/
def FallsShort (s : Store) (paymentId : ℕ) : Prop :=
  ∃ p, s.payments.find? paymentId = some p ∧ p.status ≠ .pendingApproval ∧
    s.allocatedTotal paymentId < p.amount

/-- A payment that falls short is not reversed. -/
theorem FallsShort.not_reversed {params : ReversePaymentParams}
    (h : s.FallsShort params.paymentId) (now : Time) :
    ∃ error, (reversePayment params now).run s = .error error := by
  cases hrun : (reversePayment params now).run s with
  | error error => exact ⟨error, rfl⟩
  | ok r =>
    obtain ⟨q, t⟩ := r
    obtain ⟨p, hfind, -, hshort⟩ := h
    simp only [reversePayment, Tx.run_query_bind, Tx.run_expect_bind_ok,
      Tx.run_require_bind_ok] at hrun
    obtain ⟨p', hfind', -, -, hcovered, -⟩ := hrun
    obtain rfl := Option.some.inj (hfind'.symm.trans hfind)
    rw [Table.key_of_find? hfind] at hcovered
    omega

/-- The decision on another payment. -/
theorem FallsShort.other {paymentId k : ℕ} (h : s.FallsShort paymentId) {f : Payment → Payment}
    (hid : ∀ p, (f p).id = p.id) (hpayments : s'.payments = s.payments.modify k f hid) {p : Payment}
    (hfind : s.payments.find? k = some p) (hpending : p.status = .pendingApproval)
    (hallocations : paymentId ≠ k → s'.allocatedTotal paymentId = s.allocatedTotal paymentId) :
    s'.FallsShort paymentId := by
  obtain ⟨p', hfind', hdecided, hshort⟩ := h
  have hne : paymentId ≠ k := by
    rintro rfl
    obtain rfl := Option.some.inj (hfind'.symm.trans hfind)
    exact hdecided hpending
  refine ⟨p', ?_, hdecided, ?_⟩
  · rw [hpayments, Table.find?_modify_ne (h := hid) hne]
    exact hfind'
  · rwa [hallocations hne]

/-- A settlement for one payment allocates nothing to another. -/
theorem allocatedTotal_settleFor {paymentId k : ℕ} (hne : paymentId ≠ k) (l : Settlement) :
    (s.settleFor k l).allocatedTotal paymentId = s.allocatedTotal paymentId := by
  have hkept : (((s.settleFor k l).allocationsOf paymentId).map fun a => (a.target, a.amount)) =
      ((s.allocationsOf paymentId).map fun a => (a.target, a.amount)) ++
        if k = paymentId then l else [] := map_allocationsOf_createMany
  rw [if_neg hne.symm, List.append_nil] at hkept
  have hamounts := congrArg (fun l => (l.map Prod.snd).sum) hkept
  simpa [allocatedTotal, Function.comp_def] using hamounts

end Store

/-- Every effect of a call leaves a payment short that falls short. -/
theorem Call.Effect.fallsShort {c : Call} {s s' : Store} {now : Time}
    (heffect : c.Effect now s s') {paymentId : ℕ} (h : s.FallsShort paymentId) :
    s'.FallsShort paymentId := by
  cases heffect with
  | createPayment params hfresh hceiling =>
    obtain ⟨p, hfind, hdecided, hshort⟩ := h
    exact ⟨p, Table.find?_create_of_find? (h := fun _ => rfl) hfind, hdecided, hshort⟩
  | createExplicitPayment params _ fundId heffect =>
    obtain ⟨p, hfind, hdecided, hshort⟩ := h
    rw [heffect.store_eq]
    exact ⟨p, Table.find?_create_of_find? (h := fun _ => rfl) hfind, hdecided, hshort⟩
  | approvePayment params _ payment l heffect =>
    rw [heffect.store_eq]
    exact h.other (by exact fun _ => rfl) rfl heffect.find heffect.pending fun hne =>
      Store.allocatedTotal_settleFor hne l
  | rejectPayment k reason payment hfind hpending =>
    exact h.other (by exact fun _ => rfl) rfl hfind hpending fun _ => rfl
  | reversePayment params _ payment heffect =>
    rw [heffect.store_eq]
    obtain ⟨p, hfind, hdecided, hshort⟩ := h
    by_cases hid : paymentId = params.paymentId
    · subst hid
      exact ⟨p.reverse now, Table.find?_modify_self (h := by exact fun _ => rfl) hfind,
        PaymentStatus.noConfusion, hshort⟩
    · exact ⟨p, (Table.find?_modify_ne (h := by exact fun _ => rfl) hid).trans hfind, hdecided,
        hshort⟩
  | issueChargeBatch params _ batch plan heffect =>
    rw [heffect.store_eq]
    exact h
  | cancelChargeBatch params _ batch heffect =>
    rw [heffect.store_eq]
    exact h
  | _ => exact h

namespace System

/-- A payment that falls short does so after every run. -/
theorem Inv.fallsShort {S : System} (h : S.Inv) {paymentId : ℕ}
    (hshort : S.store.FallsShort paymentId) (es : List Event) :
    (Relational.runFrom System.step S es).store.FallsShort paymentId :=
  h.stays (P := fun s => s.FallsShort paymentId) (fun _ _ h => h) (fun _ _ h => h) (fun _ _ h => h)
    (fun _ _ _ _ heffect h => heffect.fallsShort h) hshort es

end System

/-- In every reachable state, an approval that adds no credit is undone by a reversal: it
commits, and every obligation, every credit balance and every fund is what it was before the
approval. An approval that adds credit is never undone: whatever happens afterwards, a reversal
of the payment fails and changes nothing. -/
theorem reversal_undoes_approval {S : System} (h : S.Reachable) {p : Payment}
    (hp : p ∈ S.store.payments) {actorId : ℕ} {now : Time} {q : Payment} {s : Store}
    (hrun : (approvePayment (p.approval actorId) now).run S.store = .ok (q, s)) :
    (¬ S.store.unitCredit p.unitId < s.unitCredit p.unitId → ∀ now', ∃ q' s',
      (reversePayment p.reversal now').run s = .ok (q', s') ∧
        s'.chargeItems = S.store.chargeItems ∧ s'.adjustments = S.store.adjustments ∧
        s'.creditBalances = S.store.creditBalances ∧ s'.funds = S.store.funds) ∧
    (S.store.unitCredit p.unitId < s.unitCredit p.unitId → ∀ inFlight : List Call,
      inFlight ⊆ S.inFlight → ∀ (es : List Event) (params : ReversePaymentParams) (now' : Time),
        params.paymentId = p.id → ∃ error,
        (reversePayment params now').run (runFrom System.step ⟨s, inFlight⟩ es).store =
          .error error) := by
  have hinv := System.inv_of_reachable h
  have hfind := Table.find?_of_mem hp
  have hok : Call.Ok S.store (.approvePayment (p.approval actorId)) :=
    ⟨p, hfind, rfl, rfl, rfl, rfl⟩
  obtain ⟨payment, l, heffect, -⟩ := hinv.valid.approvalEffect hok hrun
  obtain rfl : p = payment := Option.some.inj (hfind.symm.trans heffect.find)
  have hcredit := Store.CreditUnique.unitCredit_approved hinv.valid.credit_unique heffect
  have hle : l.total ≤ p.amount := heffect.total_le
  refine ⟨fun hsame now' => ?_, fun hgrew inFlight hsubset es params now' hparams => ?_⟩
  · exact hinv.valid.run_reversePayment_of_approved heffect (by omega) now'
  · obtain ⟨hfound, -, hallocated⟩ := hinv.valid.find?_approved heffect
    have hshort : s.FallsShort p.id :=
      ⟨_, hfound, PaymentStatus.noConfusion, by
        rw [hallocated]
        change l.total < p.amount
        omega⟩
    have hextends : S.store.Extends s :=
      (Call.Effect.approvePayment (p.approval actorId) s p l heffect).extends
    have hthen : System.Inv ⟨s, inFlight⟩ :=
      ⟨hinv.valid.approved hok heffect, fun c hc => (hinv.calls c (hsubset hc)).mono hextends⟩
    exact Store.FallsShort.not_reversed (hparams ▸ hthen.fallsShort hshort es) now'

/-- The approval of the payment of the charge, which pays the charge and no more. -/
theorem reversal_undoes_approval_reported :
    ∃ q s, (approvePayment (System.reportedPayment.approval 7) 4).run
        (runFrom System.step System.init System.reported).store = .ok (q, s) ∧
      ∃ q' s', (reversePayment System.reportedPayment.reversal 5).run s = .ok (q', s') ∧
        s'.chargeItems = (runFrom System.step System.init System.reported).store.chargeItems ∧
        s'.adjustments = (runFrom System.step System.init System.reported).store.adjustments ∧
        s'.creditBalances =
          (runFrom System.step System.init System.reported).store.creditBalances ∧
        s'.funds = (runFrom System.step System.init System.reported).store.funds := by
  obtain ⟨q, -, hrun⟩ := Tx.exists_run_ok
    (x := approvePayment (System.reportedPayment.approval 7) 4)
    (s := (runFrom System.step System.init System.reported).store) (fun _ => true)
    (by decide +kernel)
  exact ⟨q, _, hrun, (reversal_undoes_approval ⟨System.reported, rfl⟩
    (List.mem_of_elem_eq_true (by decide +kernel)) hrun).1 (by decide +kernel) 5⟩

end VielHome.Finance
