import Mathlib.Algebra.BigOperators.Group.List.Basic
import Mathlib.Algebra.Order.BigOperators.Group.List
import Mathlib.Data.List.Nodup
import Mathlib.Tactic.Ring

/-!
# Keyed tables

A `Table ρ key` is a list of rows in insertion order together with the supply of fresh
keys. The two facts every proof about a table needs, that keys are below the supply and
pairwise distinct, are fields of the structure, so no operation has to re-establish them
at its use sites: `create` takes the next key, `map` and `modify` ask for a proof that the
key is kept, and rows are never removed.

The observables are `find?` (the row with a key) and `sum` (a weighted total over all
rows). Each operation comes with one equation for each of them, and the proofs over a
table only use those equations.
-/

namespace Relational

universe u v

/-- An append-only table: the rows in insertion order and the next key to hand out. -/
@[ext]
structure Table (ρ : Type u) (key : ρ → ℕ) where
  /-- The rows, oldest first. -/
  rows : List ρ
  /-- The key the next created row receives. -/
  next : ℕ
  /-- Every key in use is below the supply. -/
  lt_next : ∀ r ∈ rows, key r < next
  /-- No two rows share a key. -/
  nodup : (rows.map key).Nodup

namespace Table

variable {ρ : Type u} {key : ρ → ℕ} {α : Type v}

/-- The table without rows. -/
def empty : Table ρ key := ⟨[], 0, by simp, by simp⟩

instance : Inhabited (Table ρ key) := ⟨empty⟩

instance : Membership ρ (Table ρ key) := ⟨fun t r => r ∈ t.rows⟩

instance (t : Table ρ key) (p : ρ → Prop) [DecidablePred p] : Decidable (∀ r ∈ t, p r) :=
  inferInstanceAs (Decidable (∀ r ∈ t.rows, p r))

instance (t : Table ρ key) (p : ρ → Prop) [DecidablePred p] : Decidable (∃ r ∈ t, p r) :=
  inferInstanceAs (Decidable (∃ r ∈ t.rows, p r))

/-- The rows are the members. -/
theorem mem_rows {t : Table ρ key} {r : ρ} : r ∈ t.rows ↔ r ∈ t := Iff.rfl

/-- The row with the given key. -/
def find? (t : Table ρ key) (k : ℕ) : Option ρ := t.rows.find? fun r => key r = k

/-- Insert one row under the next key. -/
def create (t : Table ρ key) (mk : ℕ → ρ)
    (h : ∀ n, key (mk n) = n := by
      intro n; first | with_reducible exact (rfl : n = n) | exact id rfl) : Table ρ key where
  rows := t.rows ++ [mk t.next]
  next := t.next + 1
  lt_next := by
    intro r hr
    rcases List.mem_append.mp hr with hr | hr
    · exact Nat.lt_succ_of_lt (t.lt_next r hr)
    · rw [List.mem_singleton.mp hr, h]
      exact Nat.lt_succ_self _
  nodup := by
    rw [List.map_append, List.nodup_append]
    refine ⟨t.nodup, List.nodup_singleton _, ?_⟩
    rintro a ha b hb rfl
    obtain ⟨r, hr, rfl⟩ := List.mem_map.mp ha
    rw [List.map_singleton, List.mem_singleton, h] at hb
    exact absurd (t.lt_next r hr) (by omega)

/-- Insert a row for every element of a list, in list order. -/
def createMany (t : Table ρ key) (xs : List α) (mk : α → ℕ → ρ)
    (h : ∀ a n, key (mk a n) = n := by
      intro _ n; first | with_reducible exact (rfl : n = n) | exact id rfl) : Table ρ key :=
  xs.foldl (fun t a => t.create (mk a) (h a)) t

/-- Rewrite every row, keeping its key. -/
def map (t : Table ρ key) (f : ρ → ρ) (h : ∀ r, key (f r) = key r := by intro _; exact id rfl) :
    Table ρ key where
  rows := t.rows.map f
  next := t.next
  lt_next := by
    intro r hr
    obtain ⟨r', hr', rfl⟩ := List.mem_map.mp hr
    rw [h]
    exact t.lt_next r' hr'
  nodup := by
    rw [List.map_map, show key ∘ f = key from funext h]
    exact t.nodup

/-- Rewrite the rows that satisfy `p`. -/
def updateMany (t : Table ρ key) (p : ρ → Bool) (f : ρ → ρ)
    (h : ∀ r, key (f r) = key r := by intro _; exact id rfl) : Table ρ key :=
  t.map (fun r => if p r then f r else r) (fun r => by split <;> simp [h])

/-- Rewrite the row with key `k`; nothing happens when there is none. -/
def modify (t : Table ρ key) (k : ℕ) (f : ρ → ρ)
    (h : ∀ r, key (f r) = key r := by intro _; exact id rfl) : Table ρ key :=
  t.updateMany (fun r => key r = k) f h

/-- The total of `f` over all rows. -/
def sum {M : Type v} [AddCommMonoid M] (t : Table ρ key) (f : ρ → M) : M := (t.rows.map f).sum

/-! ### Lookup -/

/-- The row with a key is the member that has it. -/
theorem find?_eq_some_iff {t : Table ρ key} {k : ℕ} {r : ρ} :
    t.find? k = some r ↔ r ∈ t ∧ key r = k := by
  constructor
  · intro h
    exact ⟨List.mem_of_find?_eq_some h, by simpa using List.find?_some h⟩
  · rintro ⟨hr, rfl⟩
    cases hf : t.find? (key r) with
    | none => exact absurd (List.find?_eq_none.mp hf r hr) (by simp)
    | some r' =>
      have hk : key r' = key r := by simpa using List.find?_some hf
      exact congrArg some (List.inj_on_of_nodup_map t.nodup (List.mem_of_find?_eq_some hf) hr hk)

/-- What is found is a member. -/
theorem mem_of_find? {t : Table ρ key} {k : ℕ} {r : ρ} (h : t.find? k = some r) : r ∈ t :=
  (find?_eq_some_iff.mp h).1

/-- What is found has the key. -/
theorem key_of_find? {t : Table ρ key} {k : ℕ} {r : ρ} (h : t.find? k = some r) : key r = k :=
  (find?_eq_some_iff.mp h).2

/-- A member is found by its key. -/
theorem find?_of_mem {t : Table ρ key} {r : ρ} (h : r ∈ t) : t.find? (key r) = some r :=
  find?_eq_some_iff.mpr ⟨h, rfl⟩

/-- Two rows of a table with one key are the same row. -/
theorem eq_of_key_eq {t : Table ρ key} {r r' : ρ} (hr : r ∈ t) (hr' : r' ∈ t)
    (h : key r = key r') : r = r' :=
  List.inj_on_of_nodup_map t.nodup hr hr' h

/-- Nothing is found where no member has the key. -/
theorem find?_eq_none_iff {t : Table ρ key} {k : ℕ} : t.find? k = none ↔ ∀ r ∈ t, key r ≠ k := by
  simp [find?, List.find?_eq_none, mem_rows]

/-- One row at most has a key. -/
private theorem filter_key_rows {l : List ρ} (hl : (l.map key).Nodup) (k : ℕ) :
    l.filter (fun r => key r = k) = (l.find? fun r => key r = k).toList := by
  induction l with
  | nil => rfl
  | cons r l ih =>
    rw [List.map_cons, List.nodup_cons] at hl
    by_cases hr : key r = k
    · have hrest : l.filter (fun r => key r = k) = [] := by
        refine List.filter_eq_nil_iff.mpr fun r' hr' hkey => hl.1 ?_
        rw [hr, ← of_decide_eq_true hkey]
        exact List.mem_map_of_mem hr'
      rw [List.filter_cons_of_pos (by simpa using hr), hrest, List.find?_cons_of_pos (by simpa using hr)]
      rfl
    · rw [List.filter_cons_of_neg (by simpa using hr), ih hl.2,
        List.find?_cons_of_neg (by simpa using hr)]

/-- The rows with a key are the one row that has it. -/
theorem filter_key (t : Table ρ key) (k : ℕ) :
    t.rows.filter (fun r => key r = k) = (t.find? k).toList :=
  filter_key_rows t.nodup k

/-- No row has a key that was not given yet. -/
theorem find?_of_next_le {t : Table ρ key} {k : ℕ} (h : t.next ≤ k) : t.find? k = none :=
  find?_eq_none_iff.mpr fun r hr he => absurd (t.lt_next r hr) (by omega)

/-! ### Membership and lookup after an operation -/

/-- The empty table has no row. -/
@[simp] theorem not_mem_empty {r : ρ} : r ∉ (empty : Table ρ key) := List.not_mem_nil

/-- The members after an insertion. -/
@[simp] theorem mem_create {t : Table ρ key} {mk : ℕ → ρ} {h : ∀ n, key (mk n) = n} {r : ρ} :
    r ∈ t.create mk h ↔ r ∈ t ∨ r = mk t.next := by
  change r ∈ t.rows ++ [mk t.next] ↔ _
  rw [List.mem_append, List.mem_singleton, mem_rows]

/-- What is found after an insertion. -/
theorem find?_create {t : Table ρ key} {mk : ℕ → ρ} {h : ∀ n, key (mk n) = n} {k : ℕ} :
    (t.create mk h).find? k = if k = t.next then some (mk t.next) else t.find? k := by
  split
  case isTrue hk =>
    exact find?_eq_some_iff.mpr ⟨mem_create.mpr (Or.inr rfl), by rw [h, hk]⟩
  case isFalse hk =>
    have hne : ¬ key (mk t.next) = k := by
      rw [h]
      exact fun he => hk he.symm
    simp [find?, create, List.find?_append, hne]

/-- Creating a row keeps the rows that were there. -/
theorem find?_create_of_find? {t : Table ρ key} {mk : ℕ → ρ} {h : ∀ n, key (mk n) = n} {k : ℕ}
    {r : ρ} (hr : t.find? k = some r) : (t.create mk h).find? k = some r :=
  find?_eq_some_iff.mpr
    ⟨mem_create.mpr (Or.inl (mem_of_find? hr)), key_of_find? hr⟩

/-- The members after an update of all rows. -/
@[simp] theorem mem_map {t : Table ρ key} {f : ρ → ρ} {h : ∀ r, key (f r) = key r} {r : ρ} :
    r ∈ t.map f h ↔ ∃ r' ∈ t, f r' = r :=
  List.mem_map

/-- An update of all rows takes no key. -/
@[simp] theorem next_map {t : Table ρ key} {f : ρ → ρ} {h : ∀ r, key (f r) = key r} :
    (t.map f h).next = t.next := rfl

/-- What is found after it. -/
@[simp] theorem find?_map {t : Table ρ key} {f : ρ → ρ} {h : ∀ r, key (f r) = key r} {k : ℕ} :
    (t.map f h).find? k = (t.find? k).map f := by
  simp only [find?, map, List.find?_map, Function.comp_def, h]

/-- What is found after an `updateMany`. -/
theorem find?_updateMany {t : Table ρ key} {p : ρ → Bool} {f : ρ → ρ}
    {h : ∀ r, key (f r) = key r} {k : ℕ} :
    (t.updateMany p f h).find? k = (t.find? k).map fun r => if p r then f r else r :=
  find?_map

/-- The members after it. -/
theorem mem_updateMany {t : Table ρ key} {p : ρ → Bool} {f : ρ → ρ}
    {h : ∀ r, key (f r) = key r} {r : ρ} :
    r ∈ t.updateMany p f h ↔ ∃ r' ∈ t, (if p r' then f r' else r') = r :=
  mem_map

/-- A row after an update of those that satisfy a condition. -/
theorem mem_updateMany_iff {t : Table ρ key} {p : ρ → Prop} [DecidablePred p] {f : ρ → ρ}
    {h : ∀ r, key (f r) = key r} {r : ρ} :
    r ∈ t.updateMany (fun r => p r) f h ↔ ∃ r₀ ∈ t, r = if p r₀ then f r₀ else r₀ := by
  refine mem_updateMany.trans ⟨?_, ?_⟩
  · rintro ⟨r₀, hr₀, rfl⟩
    exact ⟨r₀, hr₀, by simp only [decide_eq_true_eq]⟩
  · rintro ⟨r₀, hr₀, rfl⟩
    exact ⟨r₀, hr₀, by simp only [decide_eq_true_eq]⟩

/-- Some row satisfies a condition after an insertion: an old one, or the new one. -/
theorem exists_mem_create {t : Table ρ key} {mk : ℕ → ρ} {h : ∀ n, key (mk n) = n} {p : ρ → Prop} :
    (∃ r ∈ t.create mk h, p r) ↔ (∃ r ∈ t, p r) ∨ p (mk t.next) := by
  simp only [mem_create, or_and_right, exists_or, exists_eq_left]

/-- At most one row of a selection: any two of them are the same. -/
theorem length_filter_le_one_iff {t : Table ρ key} {p : ρ → Bool} :
    (t.rows.filter p).length ≤ 1 ↔ ∀ r ∈ t, ∀ r' ∈ t, p r = true → p r' = true → r = r' := by
  have hnodup : (t.rows.filter p).Nodup := (List.Nodup.of_map key t.nodup).filter p
  constructor
  · intro h r hr r' hr' hp hp'
    have hmem := List.mem_filter.mpr ⟨hr, hp⟩
    have hmem' := List.mem_filter.mpr ⟨hr', hp'⟩
    match hrows : t.rows.filter p, h with
    | [], _ => simp [hrows] at hmem
    | [a], _ =>
      rw [hrows, List.mem_singleton] at hmem hmem'
      rw [hmem, hmem']
  · intro h
    match hrows : t.rows.filter p with
    | [] => exact Nat.zero_le 1
    | [a] => exact le_rfl
    | a :: b :: l =>
      have ha : a ∈ t.rows.filter p := hrows ▸ List.mem_cons_self
      have hb : b ∈ t.rows.filter p := hrows ▸ List.mem_cons_of_mem a List.mem_cons_self
      obtain ⟨hat, hap⟩ := List.mem_filter.mp ha
      obtain ⟨hbt, hbp⟩ := List.mem_filter.mp hb
      rw [hrows, h a hat b hbt hap hbp] at hnodup
      simp at hnodup

/-- What is found after an update by the key. -/
theorem find?_modify {t : Table ρ key} {k : ℕ} {f : ρ → ρ} {h : ∀ r, key (f r) = key r} {k' : ℕ} :
    (t.modify k f h).find? k' = if k' = k then (t.find? k').map f else t.find? k' := by
  rw [modify, find?_updateMany]
  cases hr : t.find? k' with
  | none => simp
  | some r => simp [key_of_find? hr, apply_ite some]

/-- The same, as a map of what was found before. -/
theorem find?_modify_eq_map {t : Table ρ key} {k : ℕ} {f : ρ → ρ} {h : ∀ r, key (f r) = key r}
    {k' : ℕ} : (t.modify k f h).find? k' = (t.find? k').map fun r => if k' = k then f r else r := by
  rw [find?_modify]
  split
  · rfl
  · exact Option.map_id'.symm

/-- The members after it. -/
theorem mem_modify {t : Table ρ key} {k : ℕ} {f : ρ → ρ} {h : ∀ r, key (f r) = key r} {r : ρ} :
    r ∈ t.modify k f h ↔ ∃ r' ∈ t, (if key r' = k then f r' else r') = r := by
  simp [modify, mem_updateMany]

/-- Some row satisfies a condition after an update that makes it false of the rows it
rewrites: one that is not rewritten. -/
theorem exists_mem_updateMany {t : Table ρ key} {q : ρ → Prop} [DecidablePred q] {f : ρ → ρ}
    {h : ∀ r, key (f r) = key r} {p : ρ → Prop} (hp : ∀ r, ¬ p (f r)) :
    (∃ r ∈ t.updateMany (fun r => q r) f h, p r) ↔ ∃ r ∈ t, p r ∧ ¬ q r := by
  constructor
  · rintro ⟨r, hr, hpr⟩
    obtain ⟨r₀, hr₀, rfl⟩ := mem_updateMany_iff.mp hr
    by_cases hq : q r₀
    · rw [if_pos hq] at hpr
      exact absurd hpr (hp r₀)
    · rw [if_neg hq] at hpr
      exact ⟨r₀, hr₀, hpr, hq⟩
  · rintro ⟨r, hr, hpr, hq⟩
    exact ⟨r, mem_updateMany_iff.mpr ⟨r, hr, (if_neg hq).symm⟩, hpr⟩

/-- Rewriting the row with key `k` is rewriting that row. -/
theorem find?_modify_self {t : Table ρ key} {k : ℕ} {f : ρ → ρ} {h : ∀ r, key (f r) = key r}
    {r : ρ} (hr : t.find? k = some r) : (t.modify k f h).find? k = some (f r) := by
  rw [find?_modify, if_pos rfl, hr, Option.map_some]

/-- Another row is found as before. -/
theorem find?_modify_ne {t : Table ρ key} {k : ℕ} {f : ρ → ρ} {h : ∀ r, key (f r) = key r}
    {k' : ℕ} (hk : k' ≠ k) : (t.modify k f h).find? k' = t.find? k' := by
  rw [find?_modify, if_neg hk]

/-- A column that a rewrite keeps can be read before or after it. -/
theorem map_find?_modify {β : Type v} {t : Table ρ key} {k : ℕ} {f : ρ → ρ}
    {h : ∀ r, key (f r) = key r} {π : ρ → β} (hπ : ∀ r, π (f r) = π r) (k' : ℕ) :
    ((t.modify k f h).find? k').map π = (t.find? k').map π := by
  rw [find?_modify]
  split
  · rw [Option.map_map]
    exact congrArg (fun g => (t.find? k').map g) (funext hπ)
  · rfl

/-- A row with a given key stays, with the columns that a rewrite keeps. -/
theorem exists_find?_modify {β : Type v} {t : Table ρ key} {k : ℕ} {f : ρ → ρ}
    {h : ∀ r, key (f r) = key r} {π : ρ → β} (hπ : ∀ r, π (f r) = π r) {k' : ℕ} {r : ρ}
    (hr : t.find? k' = some r) : ∃ r', (t.modify k f h).find? k' = some r' ∧ π r' = π r := by
  have hmap := map_find?_modify (k := k) (h := h) hπ k' (t := t)
  rw [hr, Option.map_some] at hmap
  exact Option.map_eq_some_iff.mp hmap

/-- The first row that passes a test stays the first one when a row is created. -/
theorem first_create {t : Table ρ key} {mk : ℕ → ρ} {h : ∀ n, key (mk n) = n} {p : ρ → Bool}
    {r : ρ} (hr : t.rows.find? p = some r) : (t.create mk h).rows.find? p = some r := by
  rw [create, List.find?_append, hr, Option.some_or]

/-- A created row is the first one that passes a test when no other row does. -/
theorem first_create_of_none {t : Table ρ key} {mk : ℕ → ρ} {h : ∀ n, key (mk n) = n}
    {p : ρ → Bool} (hnone : t.rows.find? p = none) (hp : p (mk t.next) = true) :
    (t.create mk h).rows.find? p = some (mk t.next) := by
  rw [create, List.find?_append, hnone, Option.none_or, List.find?_cons_of_pos hp]

/-- The first row that passes a test stays the first one, with the columns that a rewrite keeps,
when the rewrite does not change the outcome of the test. -/
theorem exists_first_modify {β : Type v} {t : Table ρ key} {k : ℕ} {f : ρ → ρ}
    {h : ∀ r, key (f r) = key r} {p : ρ → Bool} (hp : ∀ r, p (f r) = p r) {π : ρ → β}
    (hπ : ∀ r, π (f r) = π r) {r : ρ} (hr : t.rows.find? p = some r) :
    ∃ r', (t.modify k f h).rows.find? p = some r' ∧ π r' = π r := by
  have htest : (p ∘ fun r => if decide (key r = k) = true then f r else r) = p := by
    funext r
    by_cases hk : key r = k <;> simp [hk, hp]
  refine ⟨_, (List.find?_map ..).trans (by rw [htest, hr]; rfl), ?_⟩
  by_cases hk : key r = k
  · simp [hk, hπ]
  · simp [hk]

/-- Two rewrites that agree on every row of the table give the same table. -/
theorem map_congr {t : Table ρ key} {f g : ρ → ρ} {hf : ∀ r, key (f r) = key r}
    {hg : ∀ r, key (g r) = key r} (h : ∀ r ∈ t, f r = g r) : t.map f hf = t.map g hg := by
  refine Table.ext (List.map_congr_left h) rfl

/-- Two rewrites that agree on the row with key `k` are one rewrite of it. -/
theorem modify_congr {t : Table ρ key} {k : ℕ} {f g : ρ → ρ} {hf : ∀ r, key (f r) = key r}
    {hg : ∀ r, key (g r) = key r} (h : ∀ r ∈ t, key r = k → f r = g r) :
    t.modify k f hf = t.modify k g hg := by
  refine Table.ext (List.map_congr_left fun r hr => ?_) rfl
  by_cases hk : key r = k
  · simp [hk, h r hr hk]
  · simp [hk]

/-- An update that changes no row changes nothing. -/
theorem map_id {t : Table ρ key} {f : ρ → ρ} {hf : ∀ r, key (f r) = key r}
    (h : ∀ r ∈ t, f r = r) : t.map f hf = t :=
  Table.ext ((List.map_congr_left h).trans (List.map_id' _)) rfl

/-- Rewriting a row that stays the same. -/
theorem modify_eq_self {t : Table ρ key} {k : ℕ} {f : ρ → ρ} {h : ∀ r, key (f r) = key r}
    (hf : ∀ r ∈ t, key r = k → f r = r) : t.modify k f h = t := by
  rw [modify, updateMany]
  refine map_id fun r hr => ?_
  by_cases hk : key r = k
  · simp [hk, hf r hr hk]
  · simp [hk]

/-- Two updates of all rows are one. -/
theorem map_map {t : Table ρ key} {f g : ρ → ρ} {hf : ∀ r, key (f r) = key r}
    {hg : ∀ r, key (g r) = key r} :
    (t.map f hf).map g hg = t.map (fun r => g (f r)) (fun r => (hg _).trans (hf r)) :=
  Table.ext (List.map_map ..) rfl

/-- Rewriting one row twice. -/
theorem modify_modify {t : Table ρ key} {k : ℕ} {f g : ρ → ρ} {h : ∀ r, key (f r) = key r}
    {h' : ∀ r, key (g r) = key r} :
    (t.modify k f h).modify k g h' = t.modify k (fun r => g (f r)) fun r => (h' _).trans (h r) := by
  rw [modify, updateMany, modify, updateMany, map_map, modify, updateMany]
  refine map_congr fun r _ => ?_
  by_cases hk : key r = k
  · simp [hk, h]
  · simp [hk]

/-- Rewriting the row that was just created is creating the rewritten row. -/
theorem modify_create_next {t : Table ρ key} {mk : ℕ → ρ} {f : ρ → ρ}
    {h : ∀ n, key (mk n) = n} {hf : ∀ r, key (f r) = key r} :
    (t.create mk h).modify t.next f hf = t.create (fun n => f (mk n)) fun n => (hf _).trans (h n) := by
  refine Table.ext ?_ rfl
  have hold : t.rows.map (fun r => if key r = t.next then f r else r) = t.rows := by
    refine (List.map_congr_left fun r hr => ?_).trans (List.map_id' _)
    exact if_neg (t.lt_next r hr).ne
  change (t.rows ++ [mk t.next]).map _ = t.rows ++ [f (mk t.next)]
  simp only [decide_eq_true_eq, List.map_append, hold, List.map_singleton, h, if_true]

/-- A selection from a table does not see a rewrite of columns that it does not read. -/
theorem map_filter_map {β : Type v} (t : Table ρ key) {f : ρ → ρ} (h : ∀ r, key (f r) = key r)
    {p : ρ → Bool} {π : ρ → β} (hp : ∀ r, p (f r) = p r) (hπ : ∀ r, π (f r) = π r) :
    ((t.map f h).rows.filter p).map π = (t.rows.filter p).map π := by
  have hrows : (t.map f h).rows = t.rows.map f := rfl
  have hp' : p ∘ f = p := funext hp
  have hπ' : π ∘ f = π := funext hπ
  rw [hrows, List.filter_map, List.map_map, hp', hπ']

/-- The rows with certain keys, rewritten one after the other. -/
theorem foldl_modify {t : Table ρ key} {p : ρ → Bool} {f : ρ → ρ} {h : ∀ r, key (f r) = key r}
    {ks : List ℕ} (hks : ks.Nodup) (hp : ∀ k ∈ ks, (t.find? k).any p = true) :
    ks.foldl (fun t k => if (t.find? k).any p then t.modify k f h else t) t =
      t.map (fun r => if key r ∈ ks then f r else r) (fun r => by split <;> simp [h]) := by
  induction ks generalizing t with
  | nil => exact (map_id fun r _ => if_neg List.not_mem_nil).symm
  | cons k ks ih =>
    obtain ⟨hk, hks⟩ := List.nodup_cons.mp hks
    rw [List.foldl_cons, if_pos (hp k List.mem_cons_self), ih hks ?_]
    · rw [modify, updateMany, map_map]
      refine map_congr fun r _ => ?_
      -- the row with the first key is not among the rest
      by_cases hr : key r = k
      · simp [hr, hk, h]
      · simp [hr]
    · intro k' hk'
      rw [find?_modify_ne (show k' ≠ k from fun he => hk (he ▸ hk'))]
      exact hp k' (List.mem_cons_of_mem _ hk')

/-- Rewriting the matching rows one after the other rewrites them all. -/
theorem foldl_modify_filter (t : Table ρ key) (p : ρ → Bool) (f : ρ → ρ)
    (h : ∀ r, key (f r) = key r) :
    ((t.rows.filter p).map key).foldl (fun t k => if (t.find? k).any p then t.modify k f h else t) t =
      t.updateMany p f h := by
  have hnodup : ((t.rows.filter p).map key).Nodup :=
    t.nodup.sublist (List.filter_sublist.map key)
  rw [foldl_modify hnodup, updateMany]
  · refine map_congr fun r hr => ?_
    have hmem : key r ∈ (t.rows.filter p).map key ↔ p r = true := by
      constructor
      · intro hk
        obtain ⟨r', hr', he⟩ := List.mem_map.mp hk
        obtain ⟨hr', hp⟩ := List.mem_filter.mp hr'
        rwa [← eq_of_key_eq hr' hr he]
      · exact fun hp => List.mem_map_of_mem (List.mem_filter.mpr ⟨hr, hp⟩)
    by_cases hp : p r
    · rw [if_pos hp, if_pos (hmem.mpr hp)]
    · rw [if_neg hp, if_neg fun hk => hp (hmem.mp hk)]
  · intro k hk
    obtain ⟨r, hr, rfl⟩ := List.mem_map.mp hk
    obtain ⟨hr, hp⟩ := List.mem_filter.mp hr
    rw [find?_of_mem hr]
    exact hp

/-! ### Batches of insertions -/

/-- No insertion. -/
@[simp] theorem createMany_nil {t : Table ρ key} {mk : α → ℕ → ρ} {h : ∀ a n, key (mk a n) = n} :
    t.createMany [] mk h = t := rfl

/-- One insertion, and then the others. -/
@[simp] theorem createMany_cons {t : Table ρ key} {x : α} {xs : List α} {mk : α → ℕ → ρ}
    {h : ∀ a n, key (mk a n) = n} :
    t.createMany (x :: xs) mk h = (t.create (mk x) (h x)).createMany xs mk h := rfl

/-- The new rows come last, in list order. -/
theorem rows_createMany {t : Table ρ key} {xs : List α} {mk : α → ℕ → ρ}
    {h : ∀ a n, key (mk a n) = n} :
    (t.createMany xs mk h).rows = t.rows ++ xs.mapIdx fun k a => mk a (t.next + k) := by
  induction xs generalizing t with
  | nil => simp
  | cons x xs ih =>
    have hrows : (t.create (mk x) (h x)).rows = t.rows ++ [mk x t.next] := rfl
    have hnext : (t.create (mk x) (h x)).next = t.next + 1 := rfl
    rw [createMany_cons, ih, hrows, hnext, List.append_assoc, List.mapIdx_cons]
    simp only [Nat.add_zero, List.singleton_append, Nat.add_right_comm, Nat.add_assoc]

/-- Some insertions, and then others. -/
theorem createMany_append {t : Table ρ key} {xs ys : List α} {mk : α → ℕ → ρ}
    {h : ∀ a n, key (mk a n) = n} :
    t.createMany (xs ++ ys) mk h = (t.createMany xs mk h).createMany ys mk h :=
  List.foldl_append

/-- Old rows stay. -/
theorem mem_createMany_of_mem {t : Table ρ key} {xs : List α} {mk : α → ℕ → ρ}
    {h : ∀ a n, key (mk a n) = n} {r : ρ} (hr : r ∈ t) : r ∈ t.createMany xs mk h := by
  induction xs generalizing t with
  | nil => exact hr
  | cons x xs ih => exact ih (mem_create.mpr (Or.inl hr))

/-- Old rows are found as before. -/
theorem find?_createMany_of_find? {t : Table ρ key} {xs : List α} {mk : α → ℕ → ρ}
    {h : ∀ a n, key (mk a n) = n} {k : ℕ} {r : ρ} (hr : t.find? k = some r) :
    (t.createMany xs mk h).find? k = some r :=
  find?_eq_some_iff.mpr ⟨mem_createMany_of_mem (mem_of_find? hr), key_of_find? hr⟩

/-- A row of a batch insertion is an old row or was made, under a fresh key, from one of
the listed elements. -/
theorem mem_createMany {t : Table ρ key} {xs : List α} {mk : α → ℕ → ρ}
    {h : ∀ a n, key (mk a n) = n} {r : ρ} (hr : r ∈ t.createMany xs mk h) :
    r ∈ t ∨ ∃ x ∈ xs, ∃ n, t.next ≤ n ∧ r = mk x n := by
  induction xs generalizing t with
  | nil => exact Or.inl hr
  | cons x xs ih =>
    rcases ih hr with hr | ⟨y, hy, n, hn, rfl⟩
    · rcases mem_create.mp hr with hr | rfl
      · exact Or.inl hr
      · exact Or.inr ⟨x, List.mem_cons_self, t.next, le_rfl, rfl⟩
    · exact Or.inr ⟨y, List.mem_cons_of_mem _ hy, n, Nat.le_of_succ_le hn, rfl⟩

/-- A selection from a table after a batch insertion: what was selected before, and the
selection from the listed elements. -/
theorem map_filter_createMany {β : Type v} (t : Table ρ key) (xs : List α) (mk : α → ℕ → ρ)
    (h : ∀ a n, key (mk a n) = n) {p : ρ → Bool} {π : ρ → β} {q : α → Bool} {g : α → β}
    (hp : ∀ a n, p (mk a n) = q a) (hπ : ∀ a n, π (mk a n) = g a) :
    ((t.createMany xs mk h).rows.filter p).map π =
      (t.rows.filter p).map π ++ (xs.filter q).map g := by
  induction xs generalizing t with
  | nil => simp
  | cons x xs ih =>
    have hrows : (t.create (mk x) (h x)).rows = t.rows ++ [mk x t.next] := rfl
    rw [createMany_cons, ih, hrows, List.filter_append, List.map_append, List.append_assoc]
    congr 1
    by_cases hq : q x <;> simp [hp, hπ, hq]

/-- A selection that none of the new rows is in. -/
theorem filter_createMany_of_false {t : Table ρ key} {xs : List α} {mk : α → ℕ → ρ}
    {h : ∀ a n, key (mk a n) = n} {p : ρ → Bool} (hp : ∀ a n, p (mk a n) = false) :
    (t.createMany xs mk h).rows.filter p = t.rows.filter p := by
  have hnone : (xs.mapIdx fun k a => mk a (t.next + k)).filter p = [] := by
    refine List.filter_eq_nil_iff.mpr fun r hr => ?_
    obtain ⟨k, hk, rfl⟩ := List.mem_mapIdx.mp hr
    rw [hp]
    exact Bool.false_ne_true
  rw [rows_createMany, List.filter_append, hnone, List.append_nil]

/-- A selection that all new rows are in. -/
theorem filter_createMany_of_true {t : Table ρ key} {xs : List α} {mk : α → ℕ → ρ}
    {h : ∀ a n, key (mk a n) = n} {p : ρ → Bool} (hp : ∀ a n, p (mk a n) = true) :
    (t.createMany xs mk h).rows.filter p =
      t.rows.filter p ++ xs.mapIdx fun k a => mk a (t.next + k) := by
  have hall : (xs.mapIdx fun k a => mk a (t.next + k)).filter p =
      xs.mapIdx fun k a => mk a (t.next + k) := by
    refine List.filter_eq_self.mpr fun r hr => ?_
    obtain ⟨k, hk, rfl⟩ := List.mem_mapIdx.mp hr
    exact hp _ _
  rw [rows_createMany, List.filter_append, hall]

/-! ### The rows outside a selection -/

/-- The rows that do not satisfy `p`, in the order of the table. -/
def outside (t : Table ρ key) (p : ρ → Bool) : List ρ := t.rows.filter fun r => !p r

/-- A rewrite that keeps to the selection. -/
theorem outside_map {t : Table ρ key} {f : ρ → ρ} {h : ∀ r, key (f r) = key r} {p : ρ → Bool}
    (hp : ∀ r ∈ t, p (f r) = p r) (hf : ∀ r ∈ t, p r = false → f r = r) :
    (t.map f h).outside p = t.outside p := by
  have hfilter : t.rows.filter ((fun r => !p r) ∘ f) = t.rows.filter fun r => !p r :=
    List.filter_congr fun r hr => congrArg Bool.not (hp r hr)
  rw [outside, map, List.filter_map, hfilter]
  refine (List.map_congr_left fun r hr => ?_).trans (List.map_id' _)
  obtain ⟨hmem, hr⟩ := List.mem_filter.mp hr
  exact hf r hmem (by simpa using hr)

/-- An insertion into the selection. -/
theorem outside_create {t : Table ρ key} {mk : ℕ → ρ} {h : ∀ n, key (mk n) = n} {p : ρ → Bool}
    (hp : p (mk t.next) = true) : (t.create mk h).outside p = t.outside p := by
  simp [outside, create, List.filter_append, hp]

/-- Insertions into the selection. -/
theorem outside_createMany {t : Table ρ key} {xs : List α} {mk : α → ℕ → ρ}
    {h : ∀ a n, key (mk a n) = n} {p : ρ → Bool} (hp : ∀ a ∈ xs, ∀ n, p (mk a n) = true) :
    (t.createMany xs mk h).outside p = t.outside p := by
  induction xs generalizing t with
  | nil => rfl
  | cons x xs ih =>
    rw [createMany_cons, ih fun a ha => hp a (List.mem_cons_of_mem _ ha),
      outside_create (hp x List.mem_cons_self _)]

/-! ### Totals -/

section Sum

variable {M : Type v} [AddCommMonoid M]

/-- The sum over no rows. -/
@[simp] theorem sum_empty (f : ρ → M) : (empty : Table ρ key).sum f = 0 := rfl

/-- The sum after an insertion. -/
@[simp] theorem sum_create (t : Table ρ key) (mk : ℕ → ρ) (h : ∀ n, key (mk n) = n) (f : ρ → M) :
    (t.create mk h).sum f = t.sum f + f (mk t.next) := by
  simp [sum, create]

/-- The sum after an update of all rows. -/
@[simp] theorem sum_map (t : Table ρ key) (g : ρ → ρ) (h : ∀ r, key (g r) = key r) (f : ρ → M) :
    (t.map g h).sum f = t.sum fun r => f (g r) := by
  simp [sum, map, Function.comp_def]

/-- The sum of two functions that agree on the rows. -/
theorem sum_congr {t : Table ρ key} {f g : ρ → M} (h : ∀ r ∈ t, f r = g r) : t.sum f = t.sum g :=
  congrArg List.sum (List.map_congr_left h)

/-- The sum of two functions. -/
theorem sum_add (t : Table ρ key) (f g : ρ → M) :
    (t.sum fun r => f r + g r) = t.sum f + t.sum g :=
  List.sum_map_add

/-- The sum of nothing. -/
theorem sum_zero (t : Table ρ key) : (t.sum fun _ => (0 : M)) = 0 := by
  simp [sum]

/-- The sum of a function that is zero on the rows. -/
theorem sum_eq_zero {t : Table ρ key} {f : ρ → M} (h : ∀ r ∈ t, f r = 0) : t.sum f = 0 :=
  (sum_congr h).trans (sum_zero t)

/-- A weight that does not depend on the created keys is added once for each element. -/
theorem sum_createMany (t : Table ρ key) (xs : List α) (mk : α → ℕ → ρ)
    (h : ∀ a n, key (mk a n) = n) (f : ρ → M) (g : α → M) (hf : ∀ a n, f (mk a n) = g a) :
    (t.createMany xs mk h).sum f = t.sum f + (xs.map g).sum := by
  induction xs generalizing t with
  | nil => simp
  | cons x xs ih => simp [ih, hf, add_assoc]

/-- The sum of what only one row has. -/
private theorem sum_ite_key_rows {l : List ρ} (hl : (l.map key).Nodup) {k : ℕ} {r : ρ}
    (hr : (l.find? fun r => key r = k) = some r) (f : ρ → M) :
    (l.map fun r => if key r = k then f r else 0).sum = f r := by
  induction l with
  | nil => simp at hr
  | cons a l ih =>
    obtain ⟨ha, hl⟩ := List.nodup_cons.mp hl
    by_cases hk : key a = k
    · obtain rfl : a = r := by simpa [hk] using hr
      have hrest : (l.map fun r => if key r = k then f r else 0).sum = 0 := by
        refine List.sum_eq_zero fun x hx => ?_
        obtain ⟨b, hb, rfl⟩ := List.mem_map.mp hx
        exact if_neg fun hkb => ha (List.mem_map.mpr ⟨b, hb, hkb.trans hk.symm⟩)
      simp [hk, hrest]
    · simpa [hk] using ih hl (by simpa [hk] using hr)

/-- The total of an indicator of one key is the weight of that row. -/
theorem sum_ite_key {t : Table ρ key} {k : ℕ} {r : ρ} (hr : t.find? k = some r) (f : ρ → M) :
    (t.sum fun r => if key r = k then f r else 0) = f r :=
  sum_ite_key_rows t.nodup hr f

/-- Totals of totals commute. -/
theorem sum_comm {ρ' : Type u} {key' : ρ' → ℕ} (t : Table ρ key) (t' : Table ρ' key')
    (f : ρ → ρ' → M) : (t.sum fun r => t'.sum (f r)) = t'.sum fun r' => t.sum fun r => f r r' := by
  simp only [sum]
  induction t.rows with
  | nil => exact (sum_zero t').symm
  | cons r l ih =>
    simp only [List.map_cons, List.sum_cons, ih]
    exact (sum_add t' (f r) fun r' => (l.map fun r => f r r').sum).symm

end Sum

section IntSum

/-- A weight that a rewrite keeps adds up to the same. -/
theorem sum_modify_eq {t : Table ρ key} {k : ℕ} {g : ρ → ρ} {h : ∀ r, key (g r) = key r} {f : ρ → ℤ}
    (hf : ∀ r, f (g r) = f r) : (t.modify k g h).sum f = t.sum f := by
  rw [modify, updateMany, sum_map]
  refine sum_congr fun r _ => ?_
  split
  · exact hf r
  · rfl

/-- Rewriting one row changes a total by that row's own change. -/
theorem sum_modify {t : Table ρ key} {k : ℕ} {g : ρ → ρ} {h : ∀ r, key (g r) = key r} {r : ρ}
    (hr : t.find? k = some r) (f : ρ → ℤ) :
    (t.modify k g h).sum f = t.sum f + (f (g r) - f r) := by
  have hsplit : ∀ r' ∈ t, f (if key r' = k then g r' else r') =
      f r' + if key r' = k then f (g r') - f r' else 0 := by
    intro r' _
    split <;> ring
  rw [modify, updateMany, sum_map]
  simp only [decide_eq_true_eq]
  rw [sum_congr hsplit, sum_add, sum_ite_key hr fun r => f (g r) - f r]

/-- The sum of what is not negative. -/
theorem sum_nonneg {t : Table ρ key} {f : ρ → ℤ} (h : ∀ r ∈ t, 0 ≤ f r) : 0 ≤ t.sum f :=
  List.sum_nonneg fun x hx => by
    obtain ⟨r, hr, rfl⟩ := List.mem_map.mp hx
    exact h r hr

/-- One row weighs at most the total when no row weighs less than nothing. -/
theorem le_sum {t : Table ρ key} {f : ρ → ℤ} (h : ∀ r ∈ t, 0 ≤ f r) {r : ρ} (hr : r ∈ t) :
    f r ≤ t.sum f :=
  List.single_le_sum (fun x hx => by
    obtain ⟨r, hr, rfl⟩ := List.mem_map.mp hx
    exact h r hr) _ (List.mem_map_of_mem hr)

/-- The sum of a difference. -/
theorem sum_sub (t : Table ρ key) (f g : ρ → ℤ) :
    (t.sum fun r => f r - g r) = t.sum f - t.sum g := by
  have h : t.sum f = (t.sum fun r => f r - g r) + t.sum g := by
    rw [← sum_add]
    exact sum_congr fun r _ => (sub_add_cancel _ _).symm
  omega

/-- The rows a filter keeps, totalled, are the rows of the table weighted by an indicator. -/
theorem sum_filter (t : Table ρ key) (p : ρ → Bool) (f : ρ → ℤ) :
    ((t.rows.filter p).map f).sum = t.sum fun r => if p r then f r else 0 := by
  rw [sum]
  induction t.rows with
  | nil => rfl
  | cons r l ih => by_cases hp : p r <;> simp [hp, ih]

end IntSum

end Table

end Relational
