import VielHome.Relational.Table

/-!
# How a table may change

A table evolves into another one when no row is gone, every row has changed as a relation on rows
allows, and every row that is new is one that may be created. With a relation that says which status
may follow which this is the lifecycle of the rows; with one that keeps some columns these never
change again.
-/

namespace Relational.Table

universe u

variable {ρ : Type u} {key : ρ → ℕ} {R : ρ → ρ → Prop} {New : ρ → Prop}

/-- The rows of the first table are still there, as `R` allows, and the others are `New`. -/
structure Evolves (R : ρ → ρ → Prop) (New : ρ → Prop) (t t' : Table ρ key) : Prop where
  row : ∀ k r, t.find? k = some r → ∃ r', t'.find? k = some r' ∧ R r r'
  new : ∀ k r', t'.find? k = some r' → t.find? k = none → New r'

variable {t t' t'' : Table ρ key}

theorem Evolves.refl (hR : ∀ r, R r r) (t : Table ρ key) : Evolves R New t t := by
  refine ⟨fun k r hr => ⟨r, hr, hR r⟩, fun k r hr hnone => ?_⟩
  rw [hr] at hnone
  cases hnone

theorem Evolves.trans (htrans : ∀ r r' r'', R r r' → R r' r'' → R r r'')
    (hnew : ∀ r r', New r → R r r' → New r') (h : Evolves R New t t')
    (h' : Evolves R New t' t'') : Evolves R New t t'' := by
  refine ⟨fun k r hr => ?_, fun k r'' hr'' hnone => ?_⟩
  · obtain ⟨r', hr', hstep⟩ := h.row k r hr
    obtain ⟨r'', hr'', hstep'⟩ := h'.row k r' hr'
    exact ⟨r'', hr'', htrans r r' r'' hstep hstep'⟩
  · cases hr' : t'.find? k with
    | none => exact h'.new k r'' hr'' hr'
    | some r' =>
      obtain ⟨r₂, hr₂, hstep⟩ := h'.row k r' hr'
      obtain rfl : r₂ = r'' := Option.some.inj (hr₂.symm.trans hr'')
      exact hnew r' r₂ (h.new k r' hr' hnone) hstep

theorem Evolves.mono {R' : ρ → ρ → Prop} {New' : ρ → Prop} (h : Evolves R New t t')
    (hR : ∀ r r', R r r' → R' r r') (hnew : ∀ r, New r → New' r) : Evolves R' New' t t' := by
  refine ⟨fun k r hr => ?_, fun k r hr hnone => hnew r (h.new k r hr hnone)⟩
  obtain ⟨r', hr', hstep⟩ := h.row k r hr
  exact ⟨r', hr', hR r r' hstep⟩

/-- A row of the second table is new, or an old one that has changed as allowed. -/
theorem Evolves.of_mem (h : Evolves R New t t') {r' : ρ} (hr' : r' ∈ t') :
    New r' ∨ ∃ r ∈ t, R r r' := by
  have hfind := find?_of_mem hr'
  cases hr : t.find? (key r') with
  | none => exact Or.inl (h.new _ r' hfind hr)
  | some r =>
    obtain ⟨r₂, hr₂, hstep⟩ := h.row _ r hr
    obtain rfl : r₂ = r' := Option.some.inj (hr₂.symm.trans hfind)
    exact Or.inr ⟨r, mem_of_find? hr, hstep⟩

/-- What every allowed change keeps is kept of the row with a key. -/
theorem Evolves.keeps {P : ρ → Prop} (h : Evolves R New t t')
    (hP : ∀ r r', R r r' → P r → P r') {k : ℕ} (hk : ∃ r, t.find? k = some r ∧ P r) :
    ∃ r', t'.find? k = some r' ∧ P r' := by
  obtain ⟨r, hr, hpr⟩ := hk
  obtain ⟨r', hr', hstep⟩ := h.row k r hr
  exact ⟨r', hr', hP r r' hstep hpr⟩

/-- An insertion of a row that may be created. -/
theorem evolves_create {mk : ℕ → ρ} {h : ∀ n, key (mk n) = n} (hR : ∀ r, R r r)
    (hnew : New (mk t.next)) : Evolves R New t (t.create mk h) := by
  refine ⟨fun k r hr => ⟨r, find?_create_of_find? hr, hR r⟩, fun k r hr hnone => ?_⟩
  rw [find?_create] at hr
  split at hr
  · exact Option.some.inj hr ▸ hnew
  · rw [hr] at hnone
    cases hnone

/-- An update of one row that changes as allowed. -/
theorem evolves_modify {k : ℕ} {f : ρ → ρ} {h : ∀ r, key (f r) = key r} (hR : ∀ r, R r r)
    (hf : ∀ r, t.find? k = some r → R r (f r)) : Evolves R New t (t.modify k f h) := by
  refine ⟨fun k' r hr => ?_, fun k' r' hr' hnone => ?_⟩
  · by_cases hk : k' = k
    · subst hk
      exact ⟨f r, find?_modify_self hr, hf r hr⟩
    · exact ⟨r, (find?_modify_ne hk).trans hr, hR r⟩
  · rw [find?_modify_eq_map, hnone] at hr'
    cases hr'

end Relational.Table
