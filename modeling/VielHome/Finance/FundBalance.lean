import VielHome.Finance.Invariant.Reachable

/-!
# The balance of a fund

`Fund.balance` is a cache: the transactions that post to the ledger move it by hand. In
every reachable state it is what the fund statement adds up to, credits minus debits, and
entries that are no cash movement are not on the statement.
-/

namespace VielHome.Finance

open Relational

namespace Store

/-- The total of the ledger entries of one direction that satisfy `p`. -/
def posted (s : Store) (p : LedgerEntry → Bool) (direction : LedgerDirection) : ℤ :=
  s.ledger.sum fun e => if p e ∧ e.direction = direction then e.amount else 0

/-- The entries `getFundStatement` lists, over all of its pages. -/
def fundStatement (s : Store) (buildingId fundId : ℕ) : List LedgerEntry :=
  s.ledger.rows.filter fun e =>
    e.buildingId = buildingId ∧ e.fundId = fundId ∧ e.entryType ∈ fundStatementEntryTypes

variable {s : Store}

/-- Signed amounts are credits minus debits. -/
theorem sum_signedAmount (p : LedgerEntry → Bool) :
    (s.ledger.sum fun e => if p e then e.signedAmount else 0) =
      s.posted p .credit - s.posted p .debit := by
  rw [posted, posted, ← Table.sum_sub]
  refine Table.sum_congr fun e _ => ?_
  cases hdirection : e.direction <;> by_cases hp : p e <;>
    simp [LedgerEntry.signedAmount, hdirection, hp]

theorem statementTotal_eq_posted (fundId : ℕ) :
    s.statementTotal fundId =
      s.posted (fun e => e.fundId = fundId ∧ e.entryType ∈ fundStatementEntryTypes) .credit -
        s.posted (fun e => e.fundId = fundId ∧ e.entryType ∈ fundStatementEntryTypes) .debit := by
  rw [← sum_signedAmount, statementTotal]
  simp [LedgerEntry.onStatement]

/-- An entry of the fund is an entry of its building, so the statement leaves none out. -/
theorem Valid.sum_fundStatement (h : s.Valid) {f : Fund} (hf : f ∈ s.funds) :
    ((s.fundStatement f.buildingId f.id).map LedgerEntry.signedAmount).sum =
      s.statementTotal f.id := by
  rw [fundStatement, Table.sum_filter, statementTotal]
  refine Table.sum_congr fun e he => ?_
  have hbuilding : e.fundId = f.id → e.buildingId = f.buildingId := by
    intro hfund
    have hentry := h.entry_fund e he
    rw [fundBuilding, hfund, Table.find?_of_mem hf, Option.map_some] at hentry
    exact (Option.some.inj hentry).symm
  by_cases hfund : e.fundId = f.id
  · simp [hfund, hbuilding hfund, LedgerEntry.onStatement]
  · simp [hfund]

theorem fundStatement_entryType {buildingId fundId : ℕ} {e : LedgerEntry}
    (he : e ∈ s.fundStatement buildingId fundId) :
    e.entryType ≠ .charge ∧ e.entryType ≠ .adjustment ∧ e.entryType ≠ .creditApplied := by
  have htype := List.of_mem_filter he
  simp only [decide_eq_true_eq] at htype
  refine ⟨?_, ?_, ?_⟩ <;> rintro heq <;> rw [heq] at htype <;> exact absurd htype.2.2 (by decide)

end Store

/-- In every reachable state the balance of a fund is the sum of the credits minus the sum of
the debits among its entries of the statement types. It is what its statement adds up to, and
the statement lists no charge, no adjustment and no application of credit. -/
theorem fund_balance_eq_statement {S : System} (h : S.Reachable) {f : Fund}
    (hf : f ∈ S.store.funds) :
    f.balance =
        S.store.posted (fun e => e.fundId = f.id ∧ e.entryType ∈ fundStatementEntryTypes) .credit -
          S.store.posted (fun e => e.fundId = f.id ∧ e.entryType ∈ fundStatementEntryTypes)
            .debit ∧
      f.balance =
        ((S.store.fundStatement f.buildingId f.id).map LedgerEntry.signedAmount).sum ∧
      ∀ e ∈ S.store.fundStatement f.buildingId f.id,
        e.entryType ≠ .charge ∧ e.entryType ≠ .adjustment ∧ e.entryType ≠ .creditApplied := by
  have hvalid := System.valid_of_reachable h
  have hbalance := hvalid.fund_balance f hf
  refine ⟨hbalance.trans (Store.statementTotal_eq_posted f.id),
    hbalance.trans (hvalid.sum_fundStatement hf).symm, fun e he => ?_⟩
  exact Store.fundStatement_entryType he

/-- The fund of the foundation after an expense of 120 and its voiding. -/
theorem fund_balance_eq_statement_foundation :
    (500 : ℤ) =
      (((runFrom System.step System.init (System.foundation ++
        [.request (.createExpense 0 { title := "Cleaning", category := .cleaning, amount := 120 } 7)
          1, .commit 0 2, .request (.voidExpense 0 0 "wrong fund" 7) 3, .commit 0 4])).store.fundStatement
        0 0).map LedgerEntry.signedAmount).sum :=
  (fund_balance_eq_statement ⟨_, rfl⟩
    (f := { id := 0, buildingId := 0, name := "Current", balance := 500 })
    (Table.mem_rows.mp (List.mem_of_elem_eq_true (by decide)))).2.1

end VielHome.Finance
