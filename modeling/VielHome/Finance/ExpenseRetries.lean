import VielHome.Finance.Invariant.Reachable

/-!
# Expenses submitted again

An expense may carry an idempotency key, which no two expenses share. A request whose key is
taken has its insertion refused, and the service then answers with the expense that has the
key. The answer is found by the key alone, and only after the checks that the first request
had to pass.

So a retry returns the original expense exactly when the fund could pay for it a second time
(`retry_returns_iff`), and a request that passes the checks is answered with the expense of
another request when that one took its key (`answers_own_request_iff`).
-/

namespace VielHome.Finance

open Relational

/-! ### The service method -/

namespace Store

/-- `findExpenseByIdempotencyKey`. -/
def findExpenseByIdempotencyKey (s : Store) (idempotencyKey : String) : Option Expense :=
  s.expenses.rows.find? fun e => e.idempotencyKey = some idempotencyKey

end Store

namespace FinanceService

/-- What `createExpense` does about the error of its transaction. -/
def findRetriedExpense (idempotencyKey : Option String) (error : Failure) : Prepare Expense :=
  match error, idempotencyKey with
  | .uniqueConstraint, some key => do
    let existing ← Script.query fun s => s.findExpenseByIdempotencyKey key
    Script.expect existing error
  | _, _ => Script.fail error

/-- `createExpense` after its checks: the transaction, and the answer to a taken key. -/
def recordExpense (params : CreateExpenseParams) (now : Time) : Prepare Expense :=
  Script.tryCatch (Script.atomically (Finance.createExpense params now))
    (findRetriedExpense params.idempotencyKey)

/-- `createExpense`, from the request to its answer. -/
def submitExpense (buildingId : ℕ) (dto : CreateExpenseDto) (actorPersonId : ℕ) (now : Time) :
    Prepare Expense := do
  let params ← createExpense buildingId dto actorPersonId now
  recordExpense params now

end FinanceService

/-! ### What the checks ask for -/

namespace Store

/-- The fund that a write of the building uses, as long as it does not have to be created. -/
def fundForWrite (s : Store) (buildingId : ℕ) : Option ℕ → Option Fund
  | some fundId => (s.funds.find? fundId).filter fun f => f.buildingId = buildingId
  | none => s.findDefaultFund buildingId

/-- An expense of the amount passes the checks: the building exists, and the fund is active and
covers the amount. -/
def Affords (s : Store) (buildingId : ℕ) (fundId : Option ℕ) (amount : ℤ) : Prop :=
  (s.buildings.find? buildingId).isSome ∧
    ∃ f, s.fundForWrite buildingId fundId = some f ∧ f.isActive ∧ amount ≤ f.balance

end Store

variable {s s' : Store}

theorem Store.buildingId_of_fundForWrite {buildingId : ℕ} {fundId : Option ℕ} {f : Fund}
    (h : s.fundForWrite buildingId fundId = some f) :
    s.funds.find? f.id = some f ∧ f.buildingId = buildingId := by
  cases fundId with
  | some fundId =>
    obtain ⟨hfind, hbuilding⟩ := Option.filter_eq_some_iff.mp h
    rw [Table.key_of_find? hfind]
    exact ⟨hfind, of_decide_eq_true hbuilding⟩
  | none =>
    have hdefault := List.find?_some h
    simp only [decide_eq_true_eq] at hdefault
    exact ⟨Table.find?_of_mem (List.mem_of_find?_eq_some h), hdefault.1⟩

namespace FinanceService

variable {buildingId actor : ℕ} {dto : CreateExpenseDto} {now : Time}

/-- The parameters of a request that passes the checks. -/
def CreateExpenseDto.params (dto : CreateExpenseDto) (buildingId fundId actorPersonId : ℕ)
    (now : Time) : CreateExpenseParams :=
  { buildingId, fundId, title := dto.title, description := dto.description,
    category := dto.category, amount := dto.amount, occurredAt := dto.occurredAt.getD now,
    createdById := actorPersonId, idempotencyKey := dto.idempotencyKey }

/-- The fund of a write is found, or it is the default fund just created. -/
theorem findFundForWrite_run {fundId : Option ℕ} {f : Fund}
    (h : s.fundForWrite buildingId fundId = some f) :
    (findFundForWrite buildingId fundId).run s = .ok (f, s) := by
  cases fundId with
  | some fundId =>
    rw [findFundForWrite, getFund, Tx.run_query_bind, Tx.run_expect_ok]
    exact ⟨h, rfl⟩
  | none =>
    have hbuilding := (Store.buildingId_of_fundForWrite h).2
    have hdefault : (getOrCreateDefaultFund buildingId).run s = .ok (f, s) := by
      rw [getOrCreateDefaultFund, Tx.run_query_bind, show s.findDefaultFund buildingId = some f from h]
      rfl
    rw [findFundForWrite, Tx.run_bind_of_ok hdefault, Tx.run_expect_ok, Option.filter_eq_some_iff]
    exact ⟨⟨rfl, decide_eq_true hbuilding⟩, rfl⟩

/-- The fund of a write was there, or it is new and empty. -/
theorem fundForWrite_of_ok {fundId : Option ℕ} {f : Fund}
    (h : (findFundForWrite buildingId fundId).run s = .ok (f, s')) :
    (s.fundForWrite buildingId fundId = some f ∧ s' = s) ∨ f.balance = 0 := by
  cases fundId with
  | some fundId =>
    rw [findFundForWrite, getFund, Tx.run_query_bind, Tx.run_expect_ok] at h
    exact Or.inl h
  | none =>
    obtain ⟨fund, s₁, hfund, h⟩ := Tx.run_bind_ok.mp h
    rw [Tx.run_expect_ok, Option.filter_eq_some_iff] at h
    obtain ⟨⟨hsome, -⟩, rfl⟩ := h
    obtain rfl := Option.some.inj hsome
    rw [getOrCreateDefaultFund, Tx.run_query_bind] at hfund
    cases hfind : s.findDefaultFund buildingId with
    | some f' =>
      rw [hfind] at hfund
      obtain ⟨rfl, rfl⟩ := Tx.run_pure_ok.mp hfund
      exact Or.inl ⟨hfind, rfl⟩
    | none =>
      simp only [hfind, Tx.run_query_bind, Tx.run_require_bind_ok, Tx.run_write_bind,
        Tx.run_pure_ok] at hfund
      obtain ⟨-, rfl, -⟩ := hfund
      exact Or.inr rfl

/-- The checks pass exactly for a request that the fund affords. -/
theorem createExpense_run_ok_iff {params : CreateExpenseParams} :
    (createExpense buildingId dto actor now).run s = (.ok params, s') ↔
      ∃ f, s.fundForWrite buildingId dto.fundId = some f ∧
        s.Affords buildingId dto.fundId dto.amount ∧
        params = dto.params buildingId f.id actor now ∧ s' = s := by
  have hpos := dto.amount_pos
  simp only [createExpense, resolveFundForWrite, Script.run_bind_ok, Script.run_liftM_ok,
    Script.run_atomically_ok, Tx.run_ofExcept_ok, Script.run_pure_ok, getBuilding_ok,
    ExpensePolicy.assertValidAmount, FundPolicy.assertActive,
    ExpensePolicy.assertSufficientFundBalance, check_ok]
  constructor
  · rintro ⟨b, s₁, ⟨hb, rfl⟩, _, _, ⟨-, rfl⟩, f, _, ⟨_, s₃, hfund, _, _, ⟨hactive, rfl⟩, rfl, rfl⟩,
      _, _, ⟨hbalance, rfl⟩, rfl, rfl⟩
    rcases fundForWrite_of_ok hfund with ⟨hfind, rfl⟩ | hempty
    · have hexists : (s'.buildings.find? buildingId).isSome := by rw [hb]; rfl
      exact ⟨f, hfind, ⟨hexists, f, hfind, hactive, hbalance⟩, rfl, rfl⟩
    · -- a fund just created cannot pay for anything
      omega
  · rintro ⟨f, hfind, ⟨hb, f', hfind', hactive, hbalance⟩, rfl, rfl⟩
    obtain rfl := Option.some.inj (hfind.symm.trans hfind')
    obtain ⟨b, hb⟩ := Option.isSome_iff_exists.mp hb
    exact ⟨b, s', ⟨hb, rfl⟩, ⟨⟩, s', ⟨hpos, rfl⟩, f, s', ⟨f, s', findFundForWrite_run hfind, ⟨⟩, s',
      ⟨hactive, rfl⟩, rfl, rfl⟩, ⟨⟩, s', ⟨hbalance, rfl⟩, rfl, rfl⟩

/-! ### What a call returns -/

/-- A committed expense is the row that was inserted, under a key that was free. -/
theorem createExpense_inserted {params : CreateExpenseParams} {e : Expense}
    (h : (Finance.createExpense params now).run s = .ok (e, s')) :
    e = params.row now s.expenses.next ∧ s' = s.withExpense params now ∧
      ∀ key, params.idempotencyKey = some key → s.findExpenseByIdempotencyKey key = none := by
  refine ⟨?_, (Finance.createExpense_ok h).2, fun key hkey => ?_⟩
  all_goals
    simp only [Finance.createExpense, Tx.run_query_bind, Tx.run_expect_bind_ok,
      Tx.run_require_bind_ok, Tx.run_write_bind] at h
    obtain ⟨fund, -, -, hfree, h⟩ := h
    obtain ⟨w, s₁, -, h⟩ := Tx.run_bind_ok.mp h
  · exact (Tx.run_pure_ok.mp h).1
  · refine List.find?_eq_none.mpr fun e' he' htaken => hfree e' he' ⟨?_, ?_⟩
    · rw [hkey]
      rfl
    · rw [of_decide_eq_true htaken, hkey]

/-- A taken key refuses the insertion, however the expense under it differs. -/
theorem createExpense_of_key {params : CreateExpenseParams} {key : String} {f : Fund} {e : Expense}
    (hfund : s.funds.find? params.fundId = some f) (hbalance : params.amount ≤ f.balance)
    (hkey : params.idempotencyKey = some key) (he : s.findExpenseByIdempotencyKey key = some e) :
    (Finance.createExpense params now).run s = .error .uniqueConstraint := by
  have hmem := List.mem_of_find?_eq_some he
  have htaken : e.idempotencyKey = some key := by simpa using List.find?_some he
  have hrefused : ¬ ∀ e ∈ s.expenses.rows, ¬(params.idempotencyKey.isSome ∧
      e.idempotencyKey = params.idempotencyKey) :=
    fun hfree => hfree e hmem ⟨by rw [hkey]; rfl, htaken.trans hkey.symm⟩
  rw [Finance.createExpense, Tx.run_query_bind, hfund, Tx.run_expect_bind]
  exact Tx.run_require_bind.trans ((if_pos (not_lt.mpr hbalance)).trans
    (Tx.run_require_bind.trans (if_neg hrefused)))

/-- Under a taken key the answer is the expense that has it. -/
theorem recordExpense_of_key {params : CreateExpenseParams} {key : String} {f : Fund} {e : Expense}
    (now : Time) (hfund : s.funds.find? params.fundId = some f) (hbalance : params.amount ≤ f.balance)
    (hkey : params.idempotencyKey = some key) (he : s.findExpenseByIdempotencyKey key = some e) :
    (recordExpense params now).run s = (.ok e, s) := by
  rw [recordExpense,
    Script.run_tryCatch_of_error (createExpense_of_key hfund hbalance hkey he), hkey]
  simp only [findRetriedExpense, Script.run_bind_ok, Script.run_atomically_ok, Tx.run_query,
    Except.ok.injEq, Prod.mk.injEq, Tx.run_expect_ok]
  exact ⟨_, s, ⟨rfl, rfl⟩, he, rfl⟩

/-- An answer is the inserted row, or the expense that has the key. -/
theorem recordExpense_ok {params : CreateExpenseParams} {e : Expense}
    (h : (recordExpense params now).run s = (.ok e, s')) :
    (Finance.createExpense params now).run s = .ok (e, s') ∨
      s' = s ∧ ∃ key, params.idempotencyKey = some key ∧
        s.findExpenseByIdempotencyKey key = some e := by
  rw [recordExpense] at h
  cases hrun : (Finance.createExpense params now).run s with
  | ok p =>
    obtain ⟨e', s''⟩ := p
    rw [Script.run_tryCatch_of_ok hrun] at h
    obtain ⟨he, rfl⟩ := Prod.mk.inj h
    rw [Except.ok.inj he]
    exact Or.inl rfl
  | error error =>
    rw [Script.run_tryCatch_of_error hrun] at h
    unfold findRetriedExpense at h
    split at h
    case h_1 key hkey =>
      simp only [Script.run_bind_ok, Script.run_atomically_ok, Tx.run_query, Except.ok.injEq,
        Prod.mk.injEq, Tx.run_expect_ok] at h
      obtain ⟨existing, s₁, ⟨rfl, rfl⟩, he, rfl⟩ := h
      exact Or.inr ⟨rfl, key, hkey, he⟩
    case h_2 =>
      rw [Script.run_atomically_ok] at h
      exact absurd h (by simp)

/-- After an answer, the answer has the key. -/
theorem findExpenseByIdempotencyKey_of_recorded {params : CreateExpenseParams} {key : String}
    {e : Expense} (hkey : params.idempotencyKey = some key)
    (h : (recordExpense params now).run s = (.ok e, s')) :
    s'.findExpenseByIdempotencyKey key = some e := by
  rcases recordExpense_ok h with hcreated | ⟨rfl, key', hkey', he⟩
  · obtain ⟨rfl, rfl, hfree⟩ := createExpense_inserted hcreated
    exact Table.first_create_of_none (h := fun _ => rfl) (hfree key hkey) (decide_eq_true hkey)
  · obtain rfl := Option.some.inj (hkey'.symm.trans hkey)
    exact he

end FinanceService

/-! ### What a request finds again -/

/-- Rows stay, and so do the columns by which the building, the fund and the expense of a
request are found. -/
structure Store.Lasts (s s' : Store) : Prop where
  building : ∀ id, (s.buildings.find? id).isSome → (s'.buildings.find? id).isSome
  fund : ∀ buildingId fundId f, s.fundForWrite buildingId fundId = some f →
    ∃ f', s'.fundForWrite buildingId fundId = some f' ∧ f'.id = f.id
  expense : ∀ key e, s.findExpenseByIdempotencyKey key = some e →
    ∃ e', s'.findExpenseByIdempotencyKey key = some e' ∧ e'.terms = e.terms

namespace Store

theorem Lasts.refl (s : Store) : s.Lasts s :=
  ⟨fun _ h => h, fun _ _ f h => ⟨f, h, rfl⟩, fun _ e h => ⟨e, h, rfl⟩⟩

theorem Lasts.trans {s'' : Store} (h : s.Lasts s') (h' : s'.Lasts s'') : s.Lasts s'' where
  building id hid := h'.building id (h.building id hid)
  fund buildingId fundId f hf := by
    obtain ⟨f', hf', hid⟩ := h.fund buildingId fundId f hf
    obtain ⟨f'', hf'', hid'⟩ := h'.fund buildingId fundId f' hf'
    exact ⟨f'', hf'', hid'.trans hid⟩
  expense key e he := by
    obtain ⟨e', he', hterms⟩ := h.expense key e he
    obtain ⟨e'', he'', hterms'⟩ := h'.expense key e' he'
    exact ⟨e'', he'', hterms'.trans hterms⟩

/-- A created fund comes last. -/
theorem fundForWrite_create {mk : ℕ → Fund} {h : ∀ id, (mk id).id = id}
    (hfunds : s'.funds = s.funds.create mk h) (buildingId : ℕ) (fundId : Option ℕ) (f : Fund)
    (hf : s.fundForWrite buildingId fundId = some f) :
    ∃ f', s'.fundForWrite buildingId fundId = some f' ∧ f'.id = f.id := by
  refine ⟨f, ?_, rfl⟩
  cases fundId with
  | some fundId =>
    obtain ⟨hfind, hbuilding⟩ := Option.filter_eq_some_iff.mp hf
    exact Option.filter_eq_some_iff.mpr
      ⟨hfunds ▸ Table.find?_create_of_find? (h := h) hfind, hbuilding⟩
  | none =>
    rw [fundForWrite, findDefaultFund, hfunds]
    exact Table.first_create (h := h) hf

/-- The columns by which funds are found are never written. -/
theorem fundForWrite_modify {k : ℕ} {g : Fund → Fund} {h : ∀ f, (g f).id = f.id}
    (hfunds : s'.funds = s.funds.modify k g h) (hbuilding : ∀ f, (g f).buildingId = f.buildingId)
    (hdefault : ∀ f, (g f).isDefault = f.isDefault) (buildingId : ℕ) (fundId : Option ℕ) (f : Fund)
    (hf : s.fundForWrite buildingId fundId = some f) :
    ∃ f', s'.fundForWrite buildingId fundId = some f' ∧ f'.id = f.id := by
  cases fundId with
  | some fundId =>
    obtain ⟨hfind, hown⟩ := Option.filter_eq_some_iff.mp hf
    obtain ⟨f', hf', heq⟩ := Table.exists_find?_modify (k := k) (h := h) hbuilding hfind
    refine ⟨f', Option.filter_eq_some_iff.mpr ⟨hfunds ▸ hf', heq ▸ hown⟩, ?_⟩
    exact (Table.key_of_find? hf').trans (Table.key_of_find? hfind).symm
  | none =>
    rw [fundForWrite, findDefaultFund, hfunds]
    exact Table.exists_first_modify (h := h) (fun f => by rw [hbuilding, hdefault]) h hf

/-- Nothing that a request looks for was written. -/
theorem Lasts.of_eq (hbuildings : s'.buildings = s.buildings) (hfunds : s'.funds = s.funds)
    (hexpenses : s'.expenses = s.expenses) : s.Lasts s' where
  building id hid := by rwa [hbuildings]
  fund buildingId fundId f hf := by
    cases fundId with
    | some fundId => exact ⟨f, by rw [fundForWrite, hfunds]; exact hf, rfl⟩
    | none => exact ⟨f, by rw [fundForWrite, findDefaultFund, hfunds]; exact hf, rfl⟩
  expense key e he := ⟨e, by rw [findExpenseByIdempotencyKey, hexpenses]; exact he, rfl⟩

/-- A balance moved, and perhaps an expense was created or voided. -/
theorem Lasts.of_moved {k : ℕ} {increment : ℤ} (hbuildings : s'.buildings = s.buildings)
    (hfunds : s'.funds = (s.moveBalance k increment).funds)
    (hexpense : ∀ key e, s.findExpenseByIdempotencyKey key = some e →
      ∃ e', s'.findExpenseByIdempotencyKey key = some e' ∧ e'.terms = e.terms) : s.Lasts s' where
  building id hid := by rwa [hbuildings]
  fund := fundForWrite_modify (h := by exact fun _ => rfl) hfunds (fun _ => rfl) fun _ => rfl
  expense := hexpense

/-- The fund that a request may create comes last. -/
theorem lasts_withDefaultFund (s : Store) (buildingId : ℕ) :
    s.Lasts (s.withDefaultFund buildingId) := by
  have hfunds : (s.withDefaultFund buildingId).funds = s.funds.create (fun id =>
      { id, buildingId, name := "صندوق جاری", type := .current, isDefault := true })
      fun _ => rfl := rfl
  exact { Lasts.refl s with fund := fundForWrite_create hfunds }

end Store

/-- Every effect of a call lasts. -/
theorem Call.Effect.lasts {c : Call} {now : Time} (heffect : c.Effect now s s') : s.Lasts s' := by
  have hkeep := Store.Lasts.refl s
  cases heffect with
  | unchanged => exact hkeep
  | createFund params => exact { hkeep with fund := Store.fundForWrite_create (h := by exact fun _ => rfl) rfl }
  | updateFund fundId params name =>
    exact { hkeep with fund := Store.fundForWrite_modify (h := by exact fun _ => rfl) rfl (fun _ => rfl) fun _ => rfl }
  | setFundActive fundId isActive =>
    exact { hkeep with fund := Store.fundForWrite_modify (h := by exact fun _ => rfl) rfl (fun _ => rfl) fun _ => rfl }
  | createChargeSeries buildingId name => exact .of_eq rfl rfl rfl
  | createChargeBatch params hperiod hunits => exact .of_eq rfl rfl rfl
  | issueChargeBatch params _ batch plan heffect =>
    rw [heffect.store_eq]
    exact .of_eq rfl rfl rfl
  | cancelChargeBatch params _ batch heffect =>
    rw [heffect.store_eq]
    exact .of_eq rfl rfl rfl
  | createAdjustment params => exact .of_eq rfl rfl rfl
  | applyOpeningBalanceCorrection params hdelta => exact .of_eq rfl rfl rfl
  | createPayment params hfresh hceiling => exact .of_eq rfl rfl rfl
  | createExplicitPayment params _ fundId heffect =>
    rw [heffect.store_eq]
    exact .of_eq rfl rfl rfl
  | approvePayment params _ payment l heffect =>
    rw [heffect.store_eq]
    exact .of_moved rfl rfl hkeep.expense
  | rejectPayment paymentId reason payment hfind hpending => exact .of_eq rfl rfl rfl
  | reversePayment params _ payment heffect =>
    rw [heffect.store_eq]
    exact .of_moved rfl rfl hkeep.expense
  | createExpense params fund hfind hle =>
    exact .of_moved rfl rfl fun key e he =>
      ⟨e, Table.first_create (h := fun _ => rfl) he, rfl⟩
  | voidExpense params expense hfind hposted =>
    exact .of_moved rfl rfl fun key e he =>
      Table.exists_first_modify (h := fun _ => rfl) (f := params.void now) (fun _ => rfl)
        (fun _ => rfl) he

namespace System

variable {S : System}

/-- Every step lasts. -/
theorem Inv.lasts_step (h : S.Inv) (e : Event) : S.store.Lasts (S.step e).store := by
  cases e with
  | request r now =>
    have hkept : S.store.Lasts ((r.prepare now).run S.store).2 :=
      r.keeps_prepare (fun t b ht => ht.trans (t.lasts_withDefaultFund b)) now S.store (.refl _)
    rw [System.step, System.receive]
    rcases hrun : (r.prepare now).run S.store with ⟨e | c, s'⟩ <;> rw [hrun] at hkept <;> exact hkept
  | addBuilding =>
    have hkept := Store.Lasts.refl S.store
    refine ⟨fun id hid => ?_, hkept.fund, hkept.expense⟩
    obtain ⟨b, hb⟩ := Option.isSome_iff_exists.mp hid
    exact Option.isSome_iff_exists.mpr ⟨b, Table.find?_create_of_find? (h := fun _ => rfl) hb⟩
  | addUnit buildingId unitNumber type areaSqm =>
    rw [System.step]
    split <;> exact .of_eq rfl rfl rfl
  | updateUnit unitId unitNumber type areaSqm => exact .of_eq rfl rfl rfl
  | commit index now =>
    rw [System.step]
    split
    case h_1 call hcall =>
      exact (Call.exec_effect h.valid (h.calls call (List.mem_of_getElem? hcall)) now).lasts
    case h_2 => exact .refl _
  | rollback index => exact .refl _

/-- What a request looks for lasts through every run. -/
theorem Inv.lasts (h : S.Inv) (es : List Event) :
    S.store.Lasts (Relational.runFrom System.step S es).store :=
  (runFrom_induction (P := fun S' : System => S'.Inv ∧ S.store.Lasts S'.store)
    (fun _ e hS => ⟨hS.1.step e, hS.2.trans (hS.1.lasts_step e)⟩) ⟨h, .refl _⟩ es).2

end System

/-! ### Retries -/

open FinanceService

/-- The request was answered with `e`, for which the fund `fundId` was resolved, in a run that
went on to `S`. Other calls may have committed between its checks and its transaction. -/
def Answered (buildingId : ℕ) (dto : CreateExpenseDto) (actorPersonId fundId : ℕ) (e : Expense)
    (S : System) : Prop :=
  ∃ (S₀ : System) (now₀ now₁ : Time) (params : CreateExpenseParams) (s₀ s₁ : Store)
    (between after : List Event), S₀.Reachable ∧
    (FinanceService.createExpense buildingId dto actorPersonId now₀).run S₀.store = (.ok params, s₀) ∧
    (recordExpense params now₁).run (runFrom System.step ⟨s₀, S₀.inFlight⟩ between).store =
      (.ok e, s₁) ∧
    params.fundId = fundId ∧
    S = runFrom System.step
      ⟨s₁, (runFrom System.step ⟨s₀, S₀.inFlight⟩ between).inFlight⟩ after

/-- The same request again returns the row of `e`, perhaps voided since, and changes nothing. -/
def Retried (buildingId : ℕ) (dto : CreateExpenseDto) (actorPersonId : ℕ) (now : Time)
    (e : Expense) (s : Store) : Prop :=
  ∃ e', (submitExpense buildingId dto actorPersonId now).run s = (.ok e', s) ∧ e'.terms = e.terms

/-- Recording an expense keeps the invariant of the system. -/
theorem System.Inv.recorded {S : System} (h : S.Inv) {params : CreateExpenseParams} {now : Time}
    {e : Expense} (hparams : S.store.fundBuilding params.fundId = some params.buildingId)
    (hrun : (recordExpense params now).run S.store = (.ok e, s')) :
    System.Inv ⟨s', S.inFlight⟩ ∧ S.store.Lasts s' := by
  rcases recordExpense_ok hrun with hcreated | ⟨rfl, -⟩
  · have heffect : Call.Effect now S.store (.createExpense params) s' := by
      have hexec := Call.exec_effect h.valid (c := .createExpense params) hparams now
      rwa [Call.exec, Tx.exec_of_ok hcreated] at hexec
    exact ⟨⟨heffect.valid h.valid hparams, fun c hc => (h.calls c hc).mono heffect.extends⟩,
      heffect.lasts⟩
  · exact ⟨h, .refl _⟩

/-- What an answered request finds later: its building, its fund and the answer. -/
theorem Answered.finds {buildingId actor fundId : ℕ} {dto : CreateExpenseDto} {key : String}
    {e : Expense} {S : System} (hkey : dto.idempotencyKey = some key)
    (h : Answered buildingId dto actor fundId e S) :
    (S.store.buildings.find? buildingId).isSome ∧
      (∃ f, S.store.fundForWrite buildingId dto.fundId = some f ∧ f.id = fundId) ∧
      ∃ e', S.store.findExpenseByIdempotencyKey key = some e' ∧ e'.terms = e.terms := by
  obtain ⟨S₀, now₀, now₁, params, s₀, s₁, between, after, h₀, hchecked, hrecorded, rfl, rfl⟩ := h
  obtain ⟨f₀, hf₀, ⟨hbuilding, -⟩, rfl, rfl⟩ := createExpense_run_ok_iff.mp hchecked
  have hinv₀ := System.inv_of_reachable h₀
  have hinv₁ := hinv₀.runFrom between
  have hlasts₁ := hinv₀.lasts between
  obtain ⟨f₁, hf₁, hid₁⟩ := hlasts₁.fund _ _ _ hf₀
  have hparams := Store.buildingId_of_fundForWrite hf₁
  obtain ⟨hinv₂, hlasts₂⟩ := hinv₁.recorded
    (by rw [CreateExpenseDto.params, ← hid₁, fundBuilding_of_find? hparams.1, hparams.2]) hrecorded
  have hlasts := hinv₂.lasts after
  obtain ⟨f, hf, hid⟩ := ((hlasts₁.trans hlasts₂).trans hlasts).fund _ _ _ hf₀
  refine ⟨hlasts.building _ (hlasts₂.building _ (hlasts₁.building _ hbuilding)), ⟨f, hf, hid⟩, ?_⟩
  exact hlasts.expense key e (findExpenseByIdempotencyKey_of_recorded hkey hrecorded)

/-- A request with a key that was answered with an expense is answered with it again, whatever
happened since, if and only if its fund, still active, covers its amount once more. -/
theorem retry_returns_iff {buildingId actor fundId : ℕ} {dto : CreateExpenseDto} {key : String}
    {e : Expense} {S : System} {f : Fund} (hkey : dto.idempotencyKey = some key)
    (h : Answered buildingId dto actor fundId e S) (hfund : S.store.funds.find? fundId = some f)
    (hactive : f.isActive) (now : Time) :
    Retried buildingId dto actor now e S.store ↔ dto.amount ≤ f.balance := by
  obtain ⟨hbuilding, ⟨f', hf', rfl⟩, e', he', hterms⟩ := h.finds hkey
  obtain rfl : f' = f :=
    Option.some.inj ((Store.buildingId_of_fundForWrite hf').1.symm.trans hfund)
  constructor
  · rintro ⟨e'', hrun, -⟩
    obtain ⟨params, s₁, hchecked, -⟩ := Script.run_bind_ok.mp hrun
    obtain ⟨f'', hf'', ⟨-, g, hg, -, hbalance⟩, -⟩ := createExpense_run_ok_iff.mp hchecked
    obtain rfl := Option.some.inj (hf'.symm.trans hg)
    exact hbalance
  · intro hbalance
    refine ⟨e', ?_, hterms⟩
    have hchecked : (FinanceService.createExpense buildingId dto actor now).run S.store =
        (.ok (dto.params buildingId f'.id actor now), S.store) :=
      createExpense_run_ok_iff.mpr ⟨f', hf', ⟨hbuilding, f', hf', hactive, hbalance⟩, rfl, rfl⟩
    exact (Script.run_bind_of_ok hchecked).trans (recordExpense_of_key now hfund hbalance hkey he')

/-- A repair paid from the fund of the foundation, which holds 500. -/
def elevatorRepair (amount : ℤ) (h : 0 < amount := by decide) : CreateExpenseDto :=
  { title := "Elevator", category := .repair, amount, fundId := some 0, idempotencyKey := some "key",
    amount_pos := h }

/-- The repair was recorded. -/
def System.repaired (dto : CreateExpenseDto) : System :=
  let S := runFrom System.step System.init System.foundation
  ⟨((recordExpense (dto.params 0 0 7 3) 3).run S.store).2, S.inFlight⟩

private theorem answered_of_recorded {dto : CreateExpenseDto} {e : Expense}
    (hchecked : let s := (runFrom System.step System.init System.foundation).store
      s.fundForWrite 0 dto.fundId = s.funds.find? 0 ∧ (s.buildings.find? 0).isSome ∧
        ∃ f, s.funds.find? 0 = some f ∧ f.isActive ∧ dto.amount ≤ f.balance)
    (he : ((recordExpense (dto.params 0 0 7 3) 3).run
      (runFrom System.step System.init System.foundation).store).1 = .ok e) :
    Answered 0 dto 7 0 e (System.repaired dto) := by
  obtain ⟨hfund, hbuilding, f, hf, hactive, hbalance⟩ := hchecked
  have hresolved := hfund.trans hf
  refine ⟨_, 3, 3, dto.params 0 0 7 3, _, _, [], [], ⟨System.foundation, rfl⟩, ?_,
    Prod.ext he rfl, rfl, rfl⟩
  refine createExpense_run_ok_iff.mpr ⟨f, hresolved, ⟨hbuilding, f, hresolved, hactive, hbalance⟩,
    ?_, rfl⟩
  rw [Table.key_of_find? hf]

/-- After a repair of 200 the fund holds 300, enough for the retry. -/
theorem retry_returns_iff_covered :
    Retried 0 (elevatorRepair 200) 7 4 (((elevatorRepair 200).params 0 0 7 3).row 3 0)
      (System.repaired (elevatorRepair 200)).store := by
  have hanswered : Answered 0 (elevatorRepair 200) 7 0
      (((elevatorRepair 200).params 0 0 7 3).row 3 0) (System.repaired (elevatorRepair 200)) :=
    answered_of_recorded
      ⟨by decide +kernel, by decide +kernel, ⟨0, 0, "Current", .current, false, true, 500⟩,
        by decide +kernel, rfl, by decide⟩ (by decide +kernel)
  have hfund : (System.repaired (elevatorRepair 200)).store.funds.find? 0 =
      some ⟨0, 0, "Current", .current, false, true, 300⟩ := by decide +kernel
  exact (retry_returns_iff rfl hanswered hfund rfl 4).mpr (by decide)

/-- After a repair of 300 the fund holds 200, and the retry fails. -/
theorem retry_not_covered :
    ¬ ∀ (e : Expense) (S : System) (f : Fund) (now : Time),
      Answered 0 (elevatorRepair 300) 7 0 e S → S.store.funds.find? 0 = some f → f.isActive →
        Retried 0 (elevatorRepair 300) 7 now e S.store := by
  intro h
  have hanswered : Answered 0 (elevatorRepair 300) 7 0
      (((elevatorRepair 300).params 0 0 7 3).row 3 0) (System.repaired (elevatorRepair 300)) :=
    answered_of_recorded
      ⟨by decide +kernel, by decide +kernel, ⟨0, 0, "Current", .current, false, true, 500⟩,
        by decide +kernel, rfl, by decide⟩ (by decide +kernel)
  obtain ⟨e', hrun, -⟩ := h _ _ ⟨0, 0, "Current", .current, false, true, 200⟩ 4 hanswered
    (by decide +kernel) rfl
  have hrefused : ((submitExpense 0 (elevatorRepair 300) 7 4).run
      (System.repaired (elevatorRepair 300)).store).1 = .error (.businessRuleViolation
        "This expense's amount exceeds the fund's current balance.") := by decide +kernel
  rw [hrun] at hrefused
  exact absurd hrefused (by simp)

/-! ### Answers to other requests -/

/-- The expense is one that the request asks for. -/
def Expense.RequestedBy (e : Expense) (s : Store) (buildingId : ℕ) (dto : CreateExpenseDto) :
    Prop :=
  e.buildingId = buildingId ∧
    (s.fundForWrite buildingId dto.fundId).map Fund.id = some e.fundId ∧
    e.amount = dto.amount ∧ e.category = dto.category

/-- Another request's expense has the key of the request. -/
def Store.KeyTaken (s : Store) (buildingId : ℕ) (dto : CreateExpenseDto) : Prop :=
  dto.idempotencyKey.isSome ∧ ∃ e ∈ s.expenses, e.idempotencyKey = dto.idempotencyKey ∧
    ¬ e.RequestedBy s buildingId dto

/-- A request is answered with an expense that it asks for only, and with an error when its
key stands for another one. -/
def AnswersOwnRequest (s : Store) (buildingId : ℕ) (dto : CreateExpenseDto) (actorPersonId : ℕ)
    (now : Time) : Prop :=
  (∀ e s', (submitExpense buildingId dto actorPersonId now).run s = (.ok e, s') →
    e.RequestedBy s buildingId dto) ∧
  (s.KeyTaken buildingId dto →
    ∃ error, ((submitExpense buildingId dto actorPersonId now).run s).1 = .error error)

/-- A request gets the expense of another one if and only if that one took its key and it passes
the checks itself. -/
theorem answers_own_request_iff (s : Store) (buildingId : ℕ) (dto : CreateExpenseDto)
    (actor : ℕ) (now : Time) :
    AnswersOwnRequest s buildingId dto actor now ↔
      ¬ (s.KeyTaken buildingId dto ∧ s.Affords buildingId dto.fundId dto.amount) := by
  constructor
  · rintro ⟨-, herror⟩ ⟨htaken, haffords⟩
    obtain ⟨error, hrun⟩ := herror htaken
    obtain ⟨hsome, e, he, hkey, -⟩ := htaken
    obtain ⟨key, hkey'⟩ := Option.isSome_iff_exists.mp hsome
    obtain ⟨f, hf, hactive, hbalance⟩ := haffords.2
    have hchecked : (FinanceService.createExpense buildingId dto actor now).run s =
        (.ok (dto.params buildingId f.id actor now), s) :=
      createExpense_run_ok_iff.mpr ⟨f, hf, haffords, rfl, rfl⟩
    obtain ⟨e', he'⟩ : ∃ e', s.findExpenseByIdempotencyKey key = some e' :=
      Option.isSome_iff_exists.mp
        (List.find?_isSome.mpr ⟨e, he, decide_eq_true (hkey.trans hkey')⟩)
    -- the expense that has the key is returned, though it is another one
    have hanswer : (submitExpense buildingId dto actor now).run s = (.ok e', s) :=
      (Script.run_bind_of_ok hchecked).trans (recordExpense_of_key now
        (Store.buildingId_of_fundForWrite hf).1 hbalance hkey' he')
    rw [hanswer] at hrun
    exact absurd hrun (by simp)
  · intro hnot
    refine ⟨fun e s' hrun => ?_, fun htaken => ?_⟩
    · obtain ⟨params, s₁, hchecked, hrecorded⟩ := Script.run_bind_ok.mp hrun
      obtain ⟨f, hf, haffords, rfl, rfl⟩ := createExpense_run_ok_iff.mp hchecked
      rcases recordExpense_ok hrecorded with hcreated | ⟨rfl, key, hkey, he⟩
      · rw [(createExpense_inserted hcreated).1]
        exact ⟨rfl, by rw [hf]; rfl, rfl, rfl⟩
      · by_contra hother
        have hkey' : e.idempotencyKey = some key := by simpa using List.find?_some he
        have hsome : dto.idempotencyKey.isSome := by
          rw [show dto.idempotencyKey = some key from hkey]
          rfl
        exact hnot ⟨⟨hsome, e, List.mem_of_find?_eq_some he, hkey'.trans hkey.symm, hother⟩,
          haffords⟩
    · cases hrun : (submitExpense buildingId dto actor now).run s with
      | mk answer s' =>
        cases answer with
        | error error => exact ⟨error, rfl⟩
        | ok e =>
          obtain ⟨params, s₁, hchecked, -⟩ := Script.run_bind_ok.mp hrun
          obtain ⟨f, -, haffords, -⟩ := createExpense_run_ok_iff.mp hchecked
          exact absurd ⟨htaken, haffords⟩ hnot

/-- A second building with a fund of 500 of its own. -/
def System.secondBuilding : List Event :=
  foundation ++
    [.addBuilding,
      .request (.createFund 1 currentFund) 1,
      .commit 0 1,
      .request (.createExpense 0 (elevatorRepair 300) 7) 2, .commit 0 2]

/-- The second building's repair, under the key of the first building's, is answered with that
one. -/
theorem answers_other_request :
    ¬ AnswersOwnRequest (runFrom System.step System.init System.secondBuilding).store 1
      { elevatorRepair 100 with fundId := some 1 } 9 4 := by
  rintro ⟨hown, -⟩
  have hanswer : ((submitExpense 1 { elevatorRepair 100 with fundId := some 1 } 9 4).run
      (runFrom System.step System.init System.secondBuilding).store).1 =
        .ok (((elevatorRepair 300).params 0 0 7 2).row 2 0) := by decide +kernel
  have hbuilding := (hown _ _ (Prod.ext hanswer rfl)).1
  exact absurd hbuilding (by decide)

end VielHome.Finance
