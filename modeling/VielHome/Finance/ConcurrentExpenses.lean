import VielHome.Relational.Discipline
import VielHome.Finance.Repository.Adjustments
import Mathlib.Algebra.BigOperators.Group.Finset.Basic
import Mathlib.Algebra.Order.BigOperators.Group.Finset

/-!
# Concurrent expenses

`createExpense` statement by statement under READ COMMITTED, and any number of its calls on
one fund. The sufficiency check is a plain read: no lock stands between it and the
decrement, so two expenses that each fit the balance can both pass it. What the check does
ensure is that each single expense fits the balance it starts from, and what the unique
index ensures is that no two of them carry one idempotency key. So the fund stays covered
in every interleaving exactly when every such set of expenses fits the balance together.
-/

namespace VielHome.Finance

open Relational Relational.ReadCommitted
open Relational.ReadCommitted.Prog (query expect require write writeIf commitAll transaction)

/-- The locks an expense takes: the row of the fund, and the entry of the unique index on
`Expense.idempotencyKey`. The database enforces both. -/
inductive ExpenseLock
  | fund (id : ℕ)
  | idempotencyKey (key : String)
  deriving DecidableEq

/-! ### The statements -/

namespace CreateExpenseParams

variable (params : CreateExpenseParams) (now : Time)

/-- `tx.expense.create`. -/
def createRow (s : Store) : Store :=
  { s with
    expenses := s.expenses.create fun id =>
      { id, buildingId := params.buildingId, fundId := params.fundId, title := params.title,
        description := params.description, category := params.category, amount := params.amount,
        occurredAt := params.occurredAt, createdById := params.createdById,
        idempotencyKey := params.idempotencyKey, createdAt := now } }

/-- `tx.ledgerEntry.create`; the referenced expense is the row created before. -/
def createEntry (s : Store) : Store :=
  s.postEntry fun id =>
    { id, buildingId := params.buildingId, fundId := params.fundId, entryType := .expense,
      direction := .debit, amount := params.amount, referenceType := .expense,
      referenceId := s.expenses.next - 1, createdAt := now }

/-- `tx.fund.update` with a relative decrement. -/
def decrement (s : Store) : Store := s.moveBalance params.fundId (-params.amount)

/-- No expense carries the idempotency key of the request. -/
def KeyUnused (s : Store) : Prop :=
  ∀ e ∈ s.expenses.rows, ¬(params.idempotencyKey.isSome ∧ e.idempotencyKey = params.idempotencyKey)

instance (s : Store) : Decidable (params.KeyUnused s) :=
  inferInstanceAs (Decidable (∀ e ∈ s.expenses.rows, _))

/-- The index entry an insertion holds until its transaction ends. -/
def keyLock : List (ExpenseLock × Mode) :=
  params.idempotencyKey.toList.map fun key => (.idempotencyKey key, .exclusive)

end CreateExpenseParams

namespace Concurrent

/-- The statements of `createExpense` after its check. -/
def recordExpense (params : CreateExpenseParams) (now : Time) :
    Prog Store ExpenseLock Failure PUnit := transaction do
  writeIf params.keyLock (params.KeyUnused ·) .uniqueConstraint (params.createRow now)
  write [] (params.createEntry now)
  writeIf [(.fund params.fundId, .exclusive)] (fun s => (s.funds.find? params.fundId).isSome)
    .recordNotFound params.decrement

/-- The checks of `createExpense` on the fund it read, and its statements after them. -/
def spend (params : CreateExpenseParams) (now : Time) (fund : Option Fund) :
    Prog Store ExpenseLock Failure PUnit := do
  let fund ← expect fund .recordNotFound
  require (¬ fund.balance < params.amount)
    (.businessRuleViolation "This expense's amount exceeds the fund's current balance.")
  recordExpense params now

/-- `createExpense`, statement by statement. Alone they are the transaction
`Finance.createExpense` (`createExpense_alone`). -/
def createExpense (params : CreateExpenseParams) (now : Time) :
    Prog Store ExpenseLock Failure PUnit := do
  let fund ← query fun s => s.funds.find? params.fundId
  spend params now fund

/-- The calls of `createExpense`, one for each session, about to start on a store. -/
def expenses {ι : Type} (s : Store) (params : ι → CreateExpenseParams) (now : ι → Time) :
    Database ι Store ExpenseLock Failure PUnit :=
  Database.start s fun i => createExpense (params i) (now i)

/-- The state after some events, with all locks enforced. -/
def afterExpenses {ι : Type} [DecidableEq ι] (s : Store) (params : ι → CreateExpenseParams)
    (now : ι → Time) (es : List (Event ι Failure)) : Database ι Store ExpenseLock Failure PUnit :=
  runFrom (Database.next fun _ => true) (expenses s params now) es

variable {params : CreateExpenseParams} {now : Time}

theorem recordExpense_eq : recordExpense params now =
    .stmt (fun _ => params.keyLock) (params.createRow now) fun v =>
      if params.KeyUnused v then
        .stmt (fun _ => []) (params.createEntry now) fun _ =>
          .stmt (fun _ => [(.fund params.fundId, .exclusive)]) params.decrement fun v =>
            if (v.funds.find? params.fundId).isSome then .commit [] (.done ⟨⟩)
            else .fail .recordNotFound
      else .fail .uniqueConstraint := by
  simp only [recordExpense, transaction, writeIf, Prog.write_bind,
    Prog.stmt_bind, Prog.ite_bind, Prog.done_bind, Prog.fail_bind, Prog.commitAll_bind,
    Prog.pure_eq, decide_eq_true_eq]

theorem createExpense_eq : createExpense params now =
    .stmt (fun _ => []) id fun v => spend params now (v.funds.find? params.fundId) := rfl

theorem spend_of_lt {fund : Fund} (h : fund.balance < params.amount) :
    spend params now (some fund) =
      .fail (.businessRuleViolation "This expense's amount exceeds the fund's current balance.") := by
  exact Prog.require_bind.trans (if_neg (not_not_intro h))

theorem spend_of_le {fund : Fund} (h : params.amount ≤ fund.balance) :
    spend params now (some fund) = recordExpense params now := by
  exact Prog.require_bind.trans (if_pos (not_lt.mpr h))

theorem solo_recordExpense {s : Store} {fund : Fund}
    (hfund : s.funds.find? params.fundId = some fund) (hkey : params.KeyUnused s) :
    (recordExpense params now).solo s s =
      (.ok ⟨⟩, params.decrement (params.createEntry now (params.createRow now s)),
        params.decrement (params.createEntry now (params.createRow now s))) := by
  have hfound : (params.createEntry now (params.createRow now s)).funds.find? params.fundId =
      some fund := hfund
  simp only [recordExpense_eq, Prog.solo, if_pos hkey, hfound, Option.isSome_some, if_true]

/-- Alone, the statements are the transaction. -/
theorem createExpense_alone (s : Store) :
    (createExpense params now).outcome s = ((Finance.createExpense params now).run s).map (fun _ => ⟨⟩) ∧
      (createExpense params now).exec s = (Finance.createExpense params now).exec s := by
  rw [createExpense_eq, Tx.exec, Finance.createExpense, Tx.run_query_bind, Tx.run_expect_bind]
  simp only [Prog.outcome, Prog.exec, Prog.solo, id]
  cases hfund : s.funds.find? params.fundId with
  | none => exact ⟨rfl, rfl⟩
  | some fund =>
    simp only [Tx.run_require_bind, Tx.run_query_bind]
    rcases lt_or_ge fund.balance params.amount with hbalance | hbalance
    · rw [spend_of_lt hbalance, if_neg (not_not_intro hbalance)]
      exact ⟨rfl, rfl⟩
    · rw [spend_of_le hbalance, if_pos (not_lt.mpr hbalance)]
      by_cases hkey : params.KeyUnused s
      · have hrows : ∀ e ∈ s.expenses.rows, ¬(params.idempotencyKey.isSome ∧
            e.idempotencyKey = params.idempotencyKey) := hkey
        have hpay : ∀ t e, t.funds.find? params.fundId = some fund →
            (updateFundBalance params.fundId (-params.amount) >>= fun _ => pure e :
              Tx Store Failure Expense).run t =
              .ok (e, t.moveBalance params.fundId (-params.amount)) := by
          intro t e ht
          refine Tx.run_bind_of_ok (b := ⟨⟩) ?_
          rw [updateFundBalance, Tx.run_query_bind, ht]
          rfl
        rw [if_pos hrows]
        simp only [Tx.run_write_bind]
        rw [hpay _ _ ?_]
        · rw [solo_recordExpense hfund hkey]
          exact ⟨rfl, rfl⟩
        · exact hfund
      · have hrows : ¬ ∀ e ∈ s.expenses.rows, ¬(params.idempotencyKey.isSome ∧
            e.idempotencyKey = params.idempotencyKey) := hkey
        rw [recordExpense_eq, if_neg hrows]
        simp only [Prog.solo, if_neg hkey]
        exact ⟨rfl, trivial⟩

/-! ### What fits -/

section Fits

variable {ι : Type} (s : Store) (params : ι → CreateExpenseParams) (balance : ℤ)

/-- Expenses that can all pass their checks before the first of them is posted: each one fits
the balance, and no idempotency key is used twice. -/
structure Payable (T : Finset ι) : Prop where
  fits : ∀ i ∈ T, (params i).amount ≤ balance
  unused : ∀ i ∈ T, (params i).KeyUnused s
  distinct : ∀ i ∈ T, ∀ j ∈ T, i ≠ j → ∀ key, (params i).idempotencyKey = some key →
    (params j).idempotencyKey ≠ some key

/-- The fund covers every set of expenses that can all pass their checks. -/
def CoveredTogether : Prop :=
  ∀ T : Finset ι, Payable s params balance T → ∑ i ∈ T, (params i).amount ≤ balance

end Fits

/-! ### Every interleaving -/

section Interleaving

variable {ι : Type} [DecidableEq ι] {s : Store} {params : ι → CreateExpenseParams} {now : ι → Time}
  {fundId : ℕ} {balance : ℤ}

/-- The sessions that run a call each. -/
abbrev Expenses (ι : Type) : Type := Database ι Store ExpenseLock Failure PUnit

/-- An index entry the session holds, under which no expense is stored. -/
def HoldsKey (params : CreateExpenseParams) (i : ι) (d : Expenses ι) : Prop :=
  ∀ key, params.idempotencyKey = some key →
    (i, .idempotencyKey key, .exclusive) ∈ d.held ∧
    ∀ e ∈ d.store.expenses, e.idempotencyKey ≠ some key

/-- How far a call that has not committed has come. -/
inductive Stage (params : CreateExpenseParams) (now : Time) (balance : ℤ) (i : ι)
    (d : Expenses ι) : Session Store ExpenseLock Failure PUnit → Prop
  | start : Stage params now balance i d ⟨createExpense params now, id⟩
  | checked (hfits : params.amount ≤ balance) :
      Stage params now balance i d ⟨recordExpense params now, id⟩
  | recorded (hfits : params.amount ≤ balance) (hkey : HoldsKey params i d) :
      Stage params now balance i d
        ⟨.stmt (fun _ => []) (params.createEntry now) fun _ =>
          .stmt (fun _ => [(.fund params.fundId, .exclusive)]) params.decrement fun v =>
            if (v.funds.find? params.fundId).isSome then .commit [] (.done ⟨⟩)
            else .fail .recordNotFound,
          params.createRow now⟩
  | posted (hfits : params.amount ≤ balance) (hkey : HoldsKey params i d) :
      Stage params now balance i d
        ⟨.stmt (fun _ => [(.fund params.fundId, .exclusive)]) params.decrement fun v =>
            if (v.funds.find? params.fundId).isSome then .commit [] (.done ⟨⟩)
            else .fail .recordNotFound,
          fun s => params.createEntry now (params.createRow now s)⟩
  | paid (hfits : params.amount ≤ balance) (hkey : HoldsKey params i d) :
      Stage params now balance i d
        ⟨.commit [] (.done ⟨⟩),
          fun s => params.decrement (params.createEntry now (params.createRow now s))⟩
  | ended {session : Session Store ExpenseLock Failure PUnit} (h : session.rest.ended = true) :
      Stage params now balance i d session

/-- The calls in `C` have committed, and the balance is what they left of it. -/
structure Progress (s : Store) (params : ι → CreateExpenseParams) (now : ι → Time) (fundId : ℕ)
    (balance : ℤ) (C : Finset ι) (d : Expenses ι) : Prop where
  balance_eq : (d.store.funds.find? fundId).map Fund.balance =
    some (balance - ∑ i ∈ C, (params i).amount)
  payable : Payable s params balance C
  used : ∀ i ∈ C, ∀ key, (params i).idempotencyKey = some key →
    ∃ e ∈ d.store.expenses, e.idempotencyKey = some key
  kept : ∀ e ∈ s.expenses, e ∈ d.store.expenses
  committed : ∀ i ∈ C, (d.session i).rest.ended = true
  stage : ∀ i, Stage (params i) (now i) balance i d (d.session i)

omit [DecidableEq ι] in
/-- A stage only depends on the key its session holds. -/
theorem Stage.mono {params : CreateExpenseParams} {now : Time} {i : ι} {d d' : Expenses ι}
    {session : Session Store ExpenseLock Failure PUnit} (h : Stage params now balance i d session)
    (hkey : HoldsKey params i d → HoldsKey params i d') :
    Stage params now balance i d' session := by
  cases h with
  | start => exact .start
  | checked hfits => exact .checked hfits
  | recorded hfits h => exact .recorded hfits (hkey h)
  | posted hfits h => exact .posted hfits (hkey h)
  | paid hfits h => exact .paid hfits (hkey h)
  | ended h => exact .ended h

/-- A call goes on without committing. -/
theorem Progress.put {C : Finset ι} {d : Expenses ι}
    (h : Progress s params now fundId balance C d) {i : ι} {held : List (ι × ExpenseLock × Mode)}
    {session : Session Store ExpenseLock Failure PUnit} (hi : (d.session i).rest.ended = false)
    (hheld : ∀ l ∈ d.held, l ∈ held)
    (hstage : Stage (params i) (now i) balance i { d with held } session) :
    Progress s params now fundId balance C (Database.put { d with held } i session) := by
  have hstore : (Database.put { d with held } i session).store = d.store := Database.store_put
  refine ⟨by rw [hstore]; exact h.balance_eq, h.payable, by rw [hstore]; exact h.used,
    by rw [hstore]; exact h.kept, fun j hj => ?_, fun j => ?_⟩
  · have hne : j ≠ i := by
      rintro rfl
      simp [h.committed j hj] at hi
    rw [Database.session_put_ne hne]
    exact h.committed j hj
  · by_cases hj : j = i
    · subst hj
      rw [Database.session_put_self]
      by_cases hended : session.rest.ended = true
      · exact .ended hended
      · rw [if_neg hended]
        exact hstage.mono fun hkey => by rwa [Database.put, if_neg hended]
    · rw [Database.session_put_ne hj]
      refine (h.stage j).mono fun hkey key hparams => ?_
      obtain ⟨hlock, hunused⟩ := hkey key hparams
      refine ⟨?_, by rw [hstore]; exact hunused⟩
      rw [Database.put]
      split
      · exact List.mem_filter.mpr ⟨hheld _ hlock, by simpa using hj⟩
      · exact hheld _ hlock

/-- A call commits: its expense is paid, and what it left of the balance is there. -/
theorem Progress.commit {C : Finset ι} {d : Expenses ι}
    (h : Progress s params now fundId balance C d) (hcompatible : d.Compatible fun _ => true) {i : ι}
    (hparams : (params i).fundId = fundId)
    (hi : (d.session i).rest.ended = false) (hfits : (params i).amount ≤ balance)
    (hkey : HoldsKey (params i) i d) :
    Progress s params now fundId balance (insert i C)
      (Database.put
        { d with
          store := (params i).decrement
            ((params i).createEntry (now i) ((params i).createRow (now i) d.store))
          held := d.held.filter fun h => h.1 ≠ i ∨ h.2.1 ∈ ([] : List ExpenseLock) }
        i ⟨.done ⟨⟩, id⟩) := by
  have hnotMem : i ∉ C := fun hC => by simp [h.committed i hC] at hi
  have hnew : ∀ e ∈ d.store.expenses, e ∈ ((params i).createRow (now i) d.store).expenses :=
    fun e he => Table.mem_create.mpr (Or.inl he)
  -- the fund's row after the decrement
  obtain ⟨fund, hfund, hbalance⟩ := Option.map_eq_some_iff.mp h.balance_eq
  refine ⟨?_, ⟨?_, ?_, ?_⟩, ?_, ?_, ?_, ?_⟩
  · rw [Database.store_put]
    change ((d.store.funds.modify (params i).fundId _).find? fundId).map Fund.balance = _
    rw [hparams, Table.find?_modify_self hfund, Option.map_some, Finset.sum_insert hnotMem]
    simp only [Option.some.injEq]
    omega
  · intro j hj
    rcases Finset.mem_insert.mp hj with rfl | hj
    · exact hfits
    · exact h.payable.fits j hj
  · intro j hj
    rcases Finset.mem_insert.mp hj with rfl | hj
    · rintro e he ⟨hsome, hsame⟩
      obtain ⟨key, hkey'⟩ := Option.isSome_iff_exists.mp hsome
      exact (hkey key hkey').2 e (h.kept e he) (hsame.trans hkey')
    · exact h.payable.unused j hj
  · have hother : ∀ j ∈ C, ∀ key, (params i).idempotencyKey = some key →
        (params j).idempotencyKey ≠ some key := by
      intro j hj key hi hj'
      obtain ⟨e, he, hsame⟩ := h.used j hj key hj'
      exact (hkey key hi).2 e he hsame
    intro j hj k hk hne key hkey'
    rcases Finset.mem_insert.mp hj with hj | hj <;> rcases Finset.mem_insert.mp hk with hk | hk
    · exact absurd (hj.trans hk.symm) hne
    · exact hother k hk key (hj ▸ hkey')
    · exact fun hi => hother j hj key (hk ▸ hi) hkey'
    · exact h.payable.distinct j hj k hk hne key hkey'
  · intro j hj key hkey'
    rw [Database.store_put]
    rcases Finset.mem_insert.mp hj with rfl | hj
    · exact ⟨_, Table.mem_create.mpr (Or.inr rfl), hkey'⟩
    · obtain ⟨e, he, hsame⟩ := h.used j hj key hkey'
      exact ⟨e, hnew e he, hsame⟩
  · intro e he
    rw [Database.store_put]
    exact hnew e (h.kept e he)
  · intro j hj
    by_cases hne : j = i
    · rw [hne, Database.session_put_self]
      rfl
    · rw [Database.session_put_ne hne]
      exact h.committed j ((Finset.mem_insert.mp hj).resolve_left hne)
  · intro j
    by_cases hj : j = i
    · rw [hj, Database.session_put_self]
      exact .ended rfl
    · rw [Database.session_put_ne hj]
      refine (h.stage j).mono fun hkeyj key hparamsj => ?_
      obtain ⟨hlock, hunused⟩ := hkeyj key hparamsj
      refine ⟨List.mem_filter.mpr ⟨List.mem_filter.mpr ⟨hlock, by simp [hj]⟩, by simpa using hj⟩, ?_⟩
      rw [Database.store_put]
      intro e he hsame
      rcases Table.mem_create.mp he with he | rfl
      · exact hunused e he hsame
      · -- the two sessions would hold the same index entry
        have hboth := hcompatible _ hlock _ (hkey key hsame).1 hj rfl rfl
        exact absurd hboth (by simp [Mode.compatible])

/-- One event, whatever it is. -/
theorem Progress.next {C : Finset ι} {d : Expenses ι}
    (h : Progress s params now fundId balance C d) (hcompatible : d.Compatible fun _ => true)
    (hparams : ∀ i, (params i).fundId = fundId) (hamount : ∀ i, 0 < (params i).amount)
    (e : Event ι Failure) :
    ∃ C, Progress s params now fundId balance C (d.next (fun _ => true) e) := by
  cases e with
  | abort i e =>
    rw [Database.next]
    by_cases hi : (d.session i).rest.ended = true
    · exact ⟨C, by rwa [if_pos hi]⟩
    · rw [if_neg hi]
      exact ⟨C, h.put (by simpa using hi) (fun _ hl => hl) (.ended rfl)⟩
  | step i =>
    have hstage := h.stage i
    generalize hsession : d.session i = session at hstage
    cases hstage with
    | ended hended =>
      rw [← hsession] at hended
      exact ⟨C, by rwa [Database.next_ended hended]⟩
    | start =>
      rw [createExpense_eq] at hsession
      rcases Database.next_stmt hsession with hnext | hnext
      · exact ⟨C, by rwa [hnext]⟩
      · refine ⟨C, hnext ▸ h.put (by rw [hsession]; rfl) (fun _ => List.mem_append_left _) ?_⟩
        obtain ⟨fund, hfund, hbalance⟩ := Option.map_eq_some_iff.mp h.balance_eq
        have hfound : (id d.store).funds.find? (params i).fundId = some fund := by
          rw [hparams i]
          exact hfund
        rw [hfound]
        rcases lt_or_ge fund.balance (params i).amount with hlt | hle
        · rw [spend_of_lt hlt]
          exact .ended rfl
        · rw [spend_of_le hle]
          -- what is left of the balance is no more than the balance
          have hspent : 0 ≤ ∑ i ∈ C, (params i).amount :=
            Finset.sum_nonneg fun j _ => (hamount j).le
          exact .checked (by omega)
    | checked hfits =>
      rw [recordExpense_eq] at hsession
      rcases Database.next_stmt hsession with hnext | hnext
      · exact ⟨C, by rwa [hnext]⟩
      · refine ⟨C, hnext ▸ h.put (by rw [hsession]; rfl) (fun _ => List.mem_append_left _) ?_⟩
        by_cases hunused : (params i).KeyUnused (id d.store)
        · rw [if_pos hunused]
          refine .recorded hfits fun key hkey => ⟨?_, fun e he hkey' => ?_⟩
          · refine List.mem_append_right _ (List.mem_map.mpr ⟨_, ?_, rfl⟩)
            simp [CreateExpenseParams.keyLock, hkey]
          · exact hunused e he ⟨by simp [hkey], hkey'.trans hkey.symm⟩
        · rw [if_neg hunused]
          exact .ended rfl
    | recorded hfits hkey =>
      rcases Database.next_stmt hsession with hnext | hnext
      · exact ⟨C, by rwa [hnext]⟩
      · refine ⟨C, hnext ▸ h.put (by rw [hsession]; rfl) (fun _ => List.mem_append_left _) ?_⟩
        refine .posted hfits fun key hparams => ?_
        obtain ⟨hlock, hunused⟩ := hkey key hparams
        exact ⟨List.mem_append_left _ hlock, hunused⟩
    | posted hfits hkey =>
      rcases Database.next_stmt hsession with hnext | hnext
      · exact ⟨C, by rwa [hnext]⟩
      · refine ⟨C, hnext ▸ h.put (by rw [hsession]; rfl) (fun _ => List.mem_append_left _) ?_⟩
        split
        · refine .paid hfits fun key hparams => ?_
          obtain ⟨hlock, hunused⟩ := hkey key hparams
          exact ⟨List.mem_append_left _ hlock, hunused⟩
        · exact .ended rfl
    | paid hfits hkey =>
      rw [Database.next_commit hsession]
      exact ⟨insert i C, h.commit hcompatible (hparams i) (by rw [hsession]; rfl) hfits hkey⟩

omit [DecidableEq ι] in
theorem Progress.start {fund : Fund} (hfund : s.funds.find? fundId = some fund) :
    Progress s params now fundId fund.balance ∅ (expenses s params now) where
  balance_eq := by simp [expenses, Database.start, hfund]
  payable := ⟨by simp, by simp, by simp⟩
  used := by simp
  kept _ he := he
  committed := by simp
  stage _ := .start

/-- In every state some calls have committed and none else has had an effect. -/
theorem exists_progress {fund : Fund} (hfund : s.funds.find? fundId = some fund)
    (hparams : ∀ i, (params i).fundId = fundId) (hamount : ∀ i, 0 < (params i).amount)
    (es : List (Event ι Failure)) :
    ∃ C, Progress s params now fundId fund.balance C (afterExpenses s params now es) := by
  suffices h : ∀ d : Expenses ι, d.Compatible (fun _ => true) →
      (∃ C, Progress s params now fundId fund.balance C d) →
      ∃ C, Progress s params now fundId fund.balance C (runFrom (Database.next fun _ => true) d es) by
    exact h _ (by simp [expenses, Database.start, Database.Compatible]) ⟨∅, .start hfund⟩
  induction es with
  | nil => exact fun d _ h => h
  | cons e es ih =>
    rintro d hcompatible ⟨C, h⟩
    exact ih _ (Database.compatible_next hcompatible (Database.orderly_of_enforced (fun _ _ => rfl) d e))
      (h.next hcompatible hparams hamount e)

/-! ### The interleaving that overdraws -/

/-- The listed calls check one after the other, and each passes. -/
theorem exists_run_checks {fund : Fund} (hfund : s.funds.find? fundId = some fund)
    (hparams : ∀ i, (params i).fundId = fundId) {l : List ι} (hl : l.Nodup)
    (hfits : ∀ i ∈ l, (params i).amount ≤ fund.balance) {d : Expenses ι} (hstore : d.store = s)
    (hheld : d.held = []) (hsession : ∀ i ∈ l, d.session i = ⟨createExpense (params i) (now i), id⟩) :
    ∃ es d', runFrom (Database.next fun _ => true) d es = d' ∧ d'.store = s ∧ d'.held = [] ∧
      (∀ i ∈ l, d'.session i = ⟨recordExpense (params i) (now i), id⟩) ∧
      ∀ i ∉ l, d'.session i = d.session i := by
  induction l generalizing d with
  | nil => exact ⟨[], d, rfl, hstore, hheld, by simp, fun _ _ => rfl⟩
  | cons i l ih =>
    obtain ⟨hi, hl⟩ := List.nodup_cons.mp hl
    have hfound : d.store.funds.find? (params i).fundId = some fund := by rw [hstore, hparams, hfund]
    -- the check of the balance takes no lock, so the calls make it one after another
    have hnext : d.next (fun _ => true) (.step i) =
        d.put i ⟨recordExpense (params i) (now i), id⟩ := by
      rw [Database.next, hsession i List.mem_cons_self, createExpense_eq]
      simp only [id, hfound, List.any_nil, Bool.false_eq_true, if_false, List.map_nil,
        List.append_nil, spend_of_le (hfits i List.mem_cons_self)]
      rfl
    have hended : (recordExpense (params i) (now i)).ended = false := by
      rw [recordExpense_eq]
      rfl
    have hother : ∀ j, j ≠ i →
        (d.put i ⟨recordExpense (params i) (now i), id⟩).session j = d.session j :=
      fun j hj => Database.session_put_ne hj
    obtain ⟨es, d', hrun, hstore', hheld', hchecked, hsame⟩ :=
      ih (d := d.put i ⟨recordExpense (params i) (now i), id⟩) hl
        (fun j hj => hfits j (List.mem_cons_of_mem _ hj)) (Database.store_put.trans hstore)
        (by rw [Database.put, hended]; exact hheld)
        (fun j hj => by
          rw [hother j (fun h => hi (h ▸ hj))]
          exact hsession j (List.mem_cons_of_mem _ hj))
    refine ⟨.step i :: es, d', by rw [runFrom_cons, hnext, hrun], hstore', hheld', fun j hj => ?_,
      fun j hj => ?_⟩
    · rcases List.mem_cons.mp hj with rfl | hj
      · rw [hsame j hi, Database.session_put_self, hended]
        rfl
      · exact hchecked j hj
    · rw [List.mem_cons, not_or] at hj
      rw [hsame j hj.2, hother j hj.1]

/-- The listed calls, all past their checks, post and commit one after the other. -/
theorem exists_run_records (hparams : ∀ i, (params i).fundId = fundId) {l : List ι} (hl : l.Nodup)
    (hdistinct : ∀ i ∈ l, ∀ j ∈ l, i ≠ j → ∀ key, (params i).idempotencyKey = some key →
      (params j).idempotencyKey ≠ some key)
    {d : Expenses ι} {b : ℤ} (hbalance : (d.store.funds.find? fundId).map Fund.balance = some b)
    (hheld : d.held = []) (hunused : ∀ i ∈ l, (params i).KeyUnused d.store)
    (hsession : ∀ i ∈ l, d.session i = ⟨recordExpense (params i) (now i), id⟩) :
    ∃ es d', runFrom (Database.next fun _ => true) d es = d' ∧
      (d'.store.funds.find? fundId).map Fund.balance =
        some (b - (l.map fun i => (params i).amount).sum) := by
  induction l generalizing d b with
  | nil => exact ⟨[], d, rfl, by simpa using hbalance⟩
  | cons i l ih =>
    obtain ⟨hi, hl⟩ := List.nodup_cons.mp hl
    obtain ⟨n, d₁, hrun, hstore, hothers, hheld₁⟩ := Database.run_solo (fun _ => true)
      (hsession i List.mem_cons_self) (by simp [hheld])
    obtain ⟨fund, hfund, rfl⟩ := Option.map_eq_some_iff.mp hbalance
    rw [id, solo_recordExpense ((hparams i).symm ▸ hfund) (hunused i List.mem_cons_self)] at hstore
    have hpaid : (d₁.store.funds.find? fundId).map Fund.balance =
        some (fund.balance - (params i).amount) := by
      rw [hstore]
      change ((d.store.funds.modify (params i).fundId _).find? fundId).map Fund.balance = _
      rw [hparams, Table.find?_modify_self hfund]
      rfl
    have hunused₁ : ∀ j ∈ l, (params j).KeyUnused d₁.store := by
      rintro j hj e he ⟨hsome, hsame⟩
      rw [hstore] at he
      rcases Table.mem_create.mp he with he | rfl
      · exact hunused j (List.mem_cons_of_mem _ hj) e he ⟨hsome, hsame⟩
      · -- the row of the call before carries another key
        obtain ⟨key, hkey⟩ := Option.isSome_iff_exists.mp hsome
        refine hdistinct i List.mem_cons_self j (List.mem_cons_of_mem _ hj) ?_ key
          (hsame.trans hkey) hkey
        rintro rfl
        exact hi hj
    have hsession₁ : ∀ j ∈ l, d₁.session j = ⟨recordExpense (params j) (now j), id⟩ := by
      intro j hj
      rw [hothers j fun h => hi (h ▸ hj)]
      exact hsession j (List.mem_cons_of_mem _ hj)
    obtain ⟨es, d', hrun', hbalance'⟩ := ih hl
      (fun j hj k hk => hdistinct j (List.mem_cons_of_mem _ hj) k (List.mem_cons_of_mem _ hk)) hpaid
      (List.eq_nil_iff_forall_not_mem.mpr fun h hh => by simpa [hheld] using (hheld₁ h hh).1)
      hunused₁ hsession₁
    refine ⟨List.replicate n (.step i) ++ es, d', by rw [runFrom_append, hrun, hrun'], ?_⟩
    rw [hbalance', List.map_cons, List.sum_cons]
    congr 1
    omega

/-- Every committed state of every interleaving leaves the fund with a balance that is not
negative if and only if the fund covers together the expenses that it covers one by one. -/
theorem balance_nonneg_iff_coveredTogether {fund : Fund} (hfund : s.funds.find? fundId = some fund)
    (hparams : ∀ i, (params i).fundId = fundId) (hamount : ∀ i, 0 < (params i).amount) :
    (∀ es f, (afterExpenses s params now es).store.funds.find? fundId = some f → 0 ≤ f.balance) ↔
      CoveredTogether s params fund.balance := by
  constructor
  · intro h T hT
    -- all check first, and then each runs to its end
    obtain ⟨es, d, hrun, hstore, hheld, hchecked, -⟩ :=
      exists_run_checks hfund hparams T.nodup_toList (fun i hi => hT.fits i (Finset.mem_toList.mp hi))
        (d := expenses s params now) rfl rfl (fun _ _ => rfl)
    obtain ⟨es', d', hrun', hbalance⟩ :=
      exists_run_records hparams T.nodup_toList
        (fun i hi j hj => hT.distinct i (Finset.mem_toList.mp hi) j (Finset.mem_toList.mp hj))
        (b := fund.balance) (by rw [hstore, hfund]; rfl) hheld
        (fun i hi => hstore ▸ hT.unused i (Finset.mem_toList.mp hi)) hchecked
    have hlast : (afterExpenses s params now (es ++ es')).store.funds.find? fundId =
        d'.store.funds.find? fundId := by
      rw [afterExpenses, runFrom_append, hrun, hrun']
    obtain ⟨f, hf, hleft⟩ := Option.map_eq_some_iff.mp hbalance
    have hnonneg := h (es ++ es') f (hlast.trans hf)
    rw [Finset.sum_map_toList] at hleft
    omega
  · intro h es f hf
    obtain ⟨C, hC⟩ : ∃ C, Progress s params now fundId fund.balance C (afterExpenses s params now es) :=
      exists_progress hfund hparams hamount es
    have hbalance := hC.balance_eq
    rw [hf, Option.map_some, Option.some.injEq] at hbalance
    have hcovered := h C hC.payable
    omega

end Interleaving

/-- A fund that holds 100. -/
def fundOf100 : Store :=
  { Store.empty with
    funds := Store.empty.funds.create fun id =>
      { id, buildingId := 0, name := "Current", isDefault := true, balance := 100 } }

/-- Two sessions that spend on the fund. -/
def spending (first second : ℤ) (i : Fin 2) : CreateExpenseParams :=
  { buildingId := 0, fundId := 0, title := "Repair", category := .repair,
    amount := if i = 0 then first else second, occurredAt := 0, createdById := 7 }

/-- Expenses of 60 and 40 on the fund of 100. -/
theorem balance_nonneg_iff_coveredTogether_spending :
    (∀ es f, (afterExpenses fundOf100 (spending 60 40) (fun _ => 0) es).store.funds.find? 0 = some f →
      0 ≤ f.balance) ↔ CoveredTogether fundOf100 (spending 60 40) 100 :=
  balance_nonneg_iff_coveredTogether (s := fundOf100)
    (by decide : fundOf100.funds.find? 0 =
      some { id := 0, buildingId := 0, name := "Current", isDefault := true, balance := 100 })
    (fun _ => rfl) (by decide)

/-- Two expenses of 60 on the fund of 100: both check the balance before either is posted. -/
theorem expenses_overdraw :
    ((afterExpenses fundOf100 (spending 60 60) (fun _ => 0)
      [Event.step 0, Event.step 1, Event.step 0, Event.step 0, Event.step 0, Event.step 0, Event.step 1, Event.step 1, Event.step 1,
        Event.step 1]).store.funds.find? 0).map Fund.balance = some (-20) := by
  decide +kernel

end Concurrent

end VielHome.Finance
