import VielHome.Finance.Effect.Approval

/-!
# What the operations on funds and series do
-/

namespace VielHome.Finance

open Relational

/-- The fund `createFund` adds, with its opening balance. -/
def CreateFundParams.row (params : CreateFundParams) (opening : ℤ) (id : ℕ) : Fund :=
  { id, buildingId := params.buildingId, name := params.name, type := params.type,
    isDefault := params.isDefault, balance := opening }

namespace Store

/-- The store after a fund was created: its balance is the opening balance that was posted. -/
def withFund (s : Store) (params : CreateFundParams) (now : Time) : Store :=
  let opening := max 0 (params.initialBalance.getD 0)
  { s with
    funds := s.funds.create (params.row opening)
    ledger :=
      if 0 < opening then
        s.ledger.create fun id =>
          { id, buildingId := params.buildingId, fundId := s.funds.next,
            entryType := .openingBalance, direction := .credit, amount := opening,
            referenceType := .fund, referenceId := s.funds.next, createdAt := now }
      else s.ledger }

/-- The store after a fund's columns other than its building and balance were written. -/
def withFundEdited (s : Store) (fundId : ℕ) (name : String) (type : Option FundType) : Store :=
  { s with funds := s.funds.modify fundId fun f => { f with name, type := type.getD f.type } }

/-- The store after the building's default fund was created. -/
def withDefaultFund (s : Store) (buildingId : ℕ) : Store :=
  { s with
    funds := s.funds.create fun id =>
      { id, buildingId, name := "صندوق جاری", type := .current, isDefault := true } }

end Store

theorem createFund_ok {s s' : Store} {params : CreateFundParams} {now : Time} {f : Fund}
    (h : (createFund params now).run s = .ok (f, s')) : s' = s.withFund params now := by
  simp only [createFund, Tx.run_query_bind, Tx.run_require_bind_ok, Tx.run_write_bind] at h
  obtain ⟨-, h⟩ := h
  rw [Store.withFund]
  split at h
  case isTrue hpos =>
    simp only [Tx.run_write_bind, Tx.run_pure_ok] at h
    obtain ⟨-, rfl⟩ := h
    rw [max_eq_right hpos.le, if_pos hpos]
    simp only [Store.moveBalance, Store.postEntry, Table.modify_create_next, zero_add]
    rfl
  case isFalse hpos =>
    rw [Tx.run_pure_ok] at h
    obtain ⟨-, rfl⟩ := h
    rw [max_eq_left (not_lt.mp hpos), if_neg (lt_irrefl 0)]
    rfl

theorem updateFund_ok {s s' : Store} {fundId : ℕ} {params : UpdateFundParams} {w : PUnit}
    (h : (updateFund fundId params).run s = .ok (w, s')) :
    ∃ name, s' = s.withFundEdited fundId name params.type := by
  simp only [updateFund, Tx.run_query_bind, Tx.run_expect_bind_ok, Tx.run_require_bind_ok,
    Tx.run_write, Except.ok.injEq, Prod.mk.injEq] at h
  obtain ⟨fund, -, -, -, rfl⟩ := h
  exact ⟨params.name.getD fund.name, rfl⟩

theorem setFundActive_ok {s s' : Store} {fundId : ℕ} {isActive : Bool} {w : PUnit}
    (h : (setFundActive fundId isActive).run s = .ok (w, s')) :
    s' = { s with funds := s.funds.modify fundId fun f => { f with isActive } } := by
  simp only [setFundActive, Tx.run_query_bind, Tx.run_expect_bind_ok, Tx.run_write,
    Except.ok.injEq, Prod.mk.injEq] at h
  obtain ⟨fund, -, -, rfl⟩ := h
  rfl

/-- The default fund that is found or created is a fund of the building. -/
theorem getOrCreateDefaultFund_ok {s s' : Store} {buildingId : ℕ} {f : Fund}
    (h : (getOrCreateDefaultFund buildingId).run s = .ok (f, s')) :
    f.buildingId = buildingId ∧ s'.funds.find? f.id = some f ∧
      (s' = s ∨ s' = s.withDefaultFund buildingId) := by
  rw [getOrCreateDefaultFund, Tx.run_query_bind] at h
  cases hfind : s.findDefaultFund buildingId with
  | some fund =>
    rw [hfind] at h
    obtain ⟨rfl, rfl⟩ := Tx.run_pure_ok.mp h
    have hdefault := List.find?_some hfind
    simp only [decide_eq_true_eq] at hdefault
    exact ⟨hdefault.1, Table.find?_of_mem (List.mem_of_find?_eq_some hfind), Or.inl rfl⟩
  | none =>
    simp only [hfind, Tx.run_query_bind, Tx.run_require_bind_ok, Tx.run_write_bind,
      Tx.run_pure_ok] at h
    obtain ⟨-, rfl, rfl⟩ := h
    refine ⟨rfl, ?_, Or.inr rfl⟩
    rw [Table.find?_create, if_pos rfl]

theorem createChargeSeries_ok {s s' : Store} {buildingId : ℕ} {name : String} {r : ChargeSeries}
    (h : (createChargeSeries buildingId name).run s = .ok (r, s')) :
    s' = { s with
      chargeSeries := s.chargeSeries.create fun id => { id, buildingId, name } } := by
  simp only [createChargeSeries, Tx.run_query_bind, Tx.run_require_bind_ok, Tx.run_write_bind,
    Tx.run_pure_ok] at h
  exact h.2.2

end VielHome.Finance
