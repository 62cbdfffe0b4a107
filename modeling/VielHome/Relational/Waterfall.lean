import VielHome.Relational.Table
import Mathlib.Algebra.Order.Ring.Int
import Mathlib.Logic.Function.Basic
import Mathlib.Tactic.Linarith

/-!
# Distributing an amount over rows, oldest first

`oldestFirst` is the loop that settles a list of rows in order: it stops when nothing
remains, skips a row with nothing outstanding, and otherwise gives the row the smaller of
what remains and what is outstanding. It runs in any monad, because what it does to a row
is a parameter. `waterfall` is the plan it follows, as a pure list of rows and amounts, and
`oldestFirst_eq` says that the loop is the plan carried out in order.

Carrying out a plan on a table adds to each row its `share`, the sum of what the plan
gives to the row (`Table.foldl_modifyAt_eq_map`). A proof about the table after the loop is
then about one rewrite of the table, and the order of the loop is gone.
-/

namespace Relational

universe u v w

/-! ### Shares -/

section Share

variable {κ : Type v} [DecidableEq κ]

/-- What a list of addressed amounts gives to the address `k`. -/
def share (l : List (κ × ℤ)) (k : κ) : ℤ := (l.map fun e => if e.1 = k then e.2 else 0).sum

@[simp] theorem share_nil (k : κ) : share [] k = 0 := rfl

@[simp] theorem share_cons (e : κ × ℤ) (l : List (κ × ℤ)) (k : κ) :
    share (e :: l) k = (if e.1 = k then e.2 else 0) + share l k := by
  simp [share]

theorem share_nonneg {l : List (κ × ℤ)} (h : ∀ e ∈ l, 0 ≤ e.2) (k : κ) : 0 ≤ share l k := by
  induction l with
  | nil => exact le_rfl
  | cons e l ih =>
    have h₁ := h e List.mem_cons_self
    have h₂ := ih fun e he => h e (List.mem_cons_of_mem _ he)
    rw [share_cons]
    split <;> omega

theorem share_of_forall_ne {l : List (κ × ℤ)} {k : κ} (h : ∀ e ∈ l, e.1 ≠ k) :
    share l k = 0 := by
  induction l with
  | nil => rfl
  | cons e l ih =>
    rw [share_cons, if_neg (h e List.mem_cons_self),
      ih fun e he => h e (List.mem_cons_of_mem _ he), add_zero]

/-- With distinct addresses, an entry's address receives that entry's amount. -/
theorem share_of_mem {l : List (κ × ℤ)} (hl : (l.map Prod.fst).Nodup) {e : κ × ℤ} (he : e ∈ l) :
    share l e.1 = e.2 := by
  induction l with
  | nil => exact absurd he List.not_mem_nil
  | cons a l ih =>
    obtain ⟨ha, hl⟩ := List.nodup_cons.mp hl
    rcases List.mem_cons.mp he with rfl | he
    · have hrest : share l e.1 = 0 :=
        share_of_forall_ne fun b hb hbe => ha (List.mem_map.mpr ⟨b, hb, hbe⟩)
      rw [share_cons, if_pos rfl, hrest, add_zero]
    · have hne : a.1 ≠ e.1 := fun hae => ha (List.mem_map.mpr ⟨e, he, hae.symm⟩)
      rw [share_cons, if_neg hne, zero_add, ih hl he]

/-- A bound on every entry bounds every share when the addresses are distinct. -/
theorem share_le {l : List (κ × ℤ)} (hl : (l.map Prod.fst).Nodup) {k : κ} {b : ℤ} (hb : 0 ≤ b)
    (h : ∀ e ∈ l, e.1 = k → e.2 ≤ b) : share l k ≤ b := by
  by_cases hk : ∃ e ∈ l, e.1 = k
  · obtain ⟨e, he, rfl⟩ := hk
    rw [share_of_mem hl he]
    exact h e he rfl
  · rw [share_of_forall_ne fun e he hek => hk ⟨e, he, hek⟩]
    exact hb

/-- What the rows of one address are given, when every row is paid under its own address. -/
theorem share_map_eq_sum_filter {ρ : Type u} (tag : ρ → κ) (plan : List (ρ × ℤ)) (k : κ) :
    share (plan.map fun e => (tag e.1, e.2)) k =
      ((plan.filter fun e => tag e.1 = k).map Prod.snd).sum := by
  induction plan with
  | nil => rfl
  | cons e plan ih =>
    rw [List.map_cons, share_cons, ih]
    by_cases he : tag e.1 = k
    · rw [if_pos he, List.filter_cons_of_pos (by simpa using he), List.map_cons, List.sum_cons]
    · rw [if_neg he, List.filter_cons_of_neg (by simpa using he), zero_add]

end Share

/-! ### Addressed amounts on a table

Amounts may be addressed to rows of several tables at once. A table takes part through the
address `tag` of each of its keys, with the partial inverse `untag`. -/

namespace Table

variable {ρ : Type u} {key : ρ → ℕ} {κ : Type v} [DecidableEq κ] {tag : ℕ → κ}
  {untag : κ → Option ℕ}

/-- Rewrite the row with the given key, if there is a key. -/
def modifyAt (t : Table ρ key) (k : Option ℕ) (f : ρ → ρ)
    (h : ∀ r, key (f r) = key r := by intro _; exact id rfl) : Table ρ key :=
  match k with
  | some k => t.modify k f h
  | none => t

private theorem sum_share_single (htag : Function.IsPartialInv tag untag) (t : Table ρ key)
    (e : κ × ℤ) (p : ρ → Bool) :
    (t.sum fun r => if p r then (if e.1 = tag (key r) then e.2 else 0) else 0) =
      if ((untag e.1).bind t.find?).any p then e.2 else 0 := by
  cases hu : untag e.1 with
  | none =>
    have hne : ∀ r ∈ t, ¬ e.1 = tag (key r) := by
      intro r _ he
      rw [(htag (key r) e.1).mpr he.symm] at hu
      exact absurd hu (by simp)
    exact (sum_eq_zero fun r hr => by simp [hne r hr]).trans (by simp)
  | some k =>
    have hk : tag k = e.1 := (htag k e.1).mp hu
    have hiff : ∀ r : ρ, e.1 = tag (key r) ↔ key r = k := by
      intro r
      rw [← hk]
      exact ⟨fun h => (Function.IsPartialInv.injective htag h).symm, fun h => by rw [h]⟩
    cases hf : t.find? k with
    | none =>
      refine (sum_eq_zero fun r hr => ?_).trans (by simp [hf])
      simp [hiff, find?_eq_none_iff.mp hf r hr]
    | some r =>
      have hsplit : ∀ r' ∈ t, (if p r' then (if e.1 = tag (key r') then e.2 else 0) else 0) =
          if key r' = k then (if p r' then e.2 else 0) else 0 := by
        intro r' _
        simp only [hiff]
        split <;> split <;> rfl
      rw [sum_congr hsplit, sum_ite_key hf fun r' => if p r' then e.2 else 0]
      simp [hf]

/-- The shares of the rows that satisfy `p` add up to the amounts addressed to them. -/
theorem sum_share (htag : Function.IsPartialInv tag untag) (t : Table ρ key) (l : List (κ × ℤ))
    (p : ρ → Bool) :
    (t.sum fun r => if p r then share l (tag (key r)) else 0) =
      (l.map fun e => if ((untag e.1).bind t.find?).any p then e.2 else 0).sum := by
  induction l with
  | nil => exact sum_eq_zero fun r _ => by simp
  | cons e l ih =>
    have hsplit : ∀ r ∈ t, (if p r then share (e :: l) (tag (key r)) else 0) =
        (if p r then (if e.1 = tag (key r) then e.2 else 0) else 0) +
          (if p r then share l (tag (key r)) else 0) := by
      intro r _
      split <;> simp
    rw [sum_congr hsplit, sum_add, ih, sum_share_single htag, List.map_cons, List.sum_cons]

/-- Carrying out a list of addressed amounts, entry by entry, adds to each row its share.
The action `pay` is additive, and paying nothing leaves the rows of the table as they are. -/
theorem foldl_modifyAt_eq_map (htag : Function.IsPartialInv tag untag) {t : Table ρ key}
    {pay : ℤ → ρ → ρ} (hk : ∀ a r, key (pay a r) = key r)
    (hadd : ∀ a b r, pay b (pay a r) = pay (a + b) r) (hzero : ∀ r ∈ t, pay 0 r = r)
    (l : List (κ × ℤ)) :
    l.foldl (fun t e => t.modifyAt (untag e.1) (pay e.2) (hk e.2)) t =
      t.map (fun r => pay (share l (tag (key r))) r) (fun r => hk _ r) := by
  induction l generalizing t with
  | nil => exact (map_id fun r hr => hzero r hr).symm
  | cons e l ih =>
    rw [List.foldl_cons]
    cases hu : untag e.1 with
    | none =>
      have hne : ∀ k, ¬ e.1 = tag k := by
        intro k he
        rw [(htag k e.1).mpr he.symm] at hu
        exact absurd hu (by simp)
      rw [modifyAt, ih hzero]
      exact map_congr fun r _ => by simp [hne]
    | some k =>
      have hk' : tag k = e.1 := (htag k e.1).mp hu
      have hzero' : ∀ r ∈ t.modify k (pay e.2) (hk e.2), pay 0 r = r := by
        intro r hr
        obtain ⟨r', hr', rfl⟩ := mem_modify.mp hr
        split
        · rw [hadd, add_zero]
        · exact hzero r' hr'
      rw [modifyAt, ih hzero', modify, updateMany, map_map]
      refine map_congr fun r hr => ?_
      by_cases he : key r = k
      · simp [he, hk', hk, hadd]
      · have hne : ¬ e.1 = tag (key r) := by
          rw [← hk']
          exact fun h => he (Function.IsPartialInv.injective htag h).symm
        simp [he, hne]

/-- Writing back rows that were read before the loop is rewriting the current rows, when
every row is written at most once: each is then still the row that was read. -/
theorem foldl_modify_read {t : Table ρ key} {put : ρ → ℤ → ρ → ρ} {pay : ℤ → ρ → ρ}
    (hput : ∀ r a r', key (put r a r') = key r') (hk : ∀ a r, key (pay a r) = key r)
    (heq : ∀ r a, put r a r = pay a r) {l : List (ρ × ℤ)}
    (hread : ∀ e ∈ l, t.find? (key e.1) = some e.1) (hl : (l.map fun e => key e.1).Nodup) :
    l.foldl (fun t e => t.modify (key e.1) (put e.1 e.2) (hput e.1 e.2)) t =
      l.foldl (fun t e => t.modify (key e.1) (pay e.2) (hk e.2)) t := by
  induction l generalizing t with
  | nil => rfl
  | cons e l ih =>
    obtain ⟨he, hl⟩ := List.nodup_cons.mp hl
    have hfirst : t.modify (key e.1) (put e.1 e.2) (hput e.1 e.2) =
        t.modify (key e.1) (pay e.2) (hk e.2) := by
      refine modify_congr fun r hr hr' => ?_
      obtain rfl : r = e.1 := eq_of_key_eq hr (mem_of_find? (hread e List.mem_cons_self)) hr'
      exact heq _ _
    rw [List.foldl_cons, List.foldl_cons, hfirst]
    refine ih (fun e' he' => ?_) hl
    rw [find?_modify_ne fun h => he (List.mem_map.mpr ⟨e', he', h⟩)]
    exact hread e' (List.mem_cons_of_mem _ he')

/-- A loop that writes back rows it read before, each at most once, adds to each row its
share. -/
theorem foldl_put_eq_map (htag : Function.IsPartialInv tag untag) {t : Table ρ key}
    {put : ρ → ℤ → ρ → ρ} {pay : ℤ → ρ → ρ} (hput : ∀ r a r', key (put r a r') = key r')
    (hk : ∀ a r, key (pay a r) = key r) (heq : ∀ r a, put r a r = pay a r)
    (hadd : ∀ a b r, pay b (pay a r) = pay (a + b) r) (hzero : ∀ r ∈ t, pay 0 r = r)
    {l : List (ρ × ℤ)} (hread : ∀ e ∈ l, t.find? (key e.1) = some e.1)
    (hl : (l.map fun e => key e.1).Nodup) :
    l.foldl (fun t e => t.modify (key e.1) (put e.1 e.2) (hput e.1 e.2)) t =
      t.map (fun r => pay (share (l.map fun e => (tag (key e.1), e.2)) (tag (key r))) r)
        (fun r => hk _ r) := by
  rw [foldl_modify_read hput hk heq hread hl, ← foldl_modifyAt_eq_map htag hk hadd hzero,
    List.foldl_map]
  simp only [(htag _ _).mpr rfl, modifyAt]

end Table

/-! ### The loop and its plan -/

section Waterfall

variable {ρ : Type u} (outstanding : ρ → ℤ)

/-- The loop: `break` when nothing remains, `continue` over a settled row, otherwise apply
the smaller of what remains and what is outstanding. Returns what is left. -/
def oldestFirst {m : Type → Type w} [Monad m] (apply : ρ → ℤ → m PUnit) : List ρ → ℤ → m ℤ
  | [], remaining => pure remaining
  | row :: rest, remaining =>
    if remaining ≤ 0 then pure remaining
    else if outstanding row ≤ 0 then oldestFirst apply rest remaining
    else do
      apply row (min remaining (outstanding row))
      oldestFirst apply rest (remaining - min remaining (outstanding row))

/-- The rows the loop applies an amount to, in order, with the amounts. -/
def waterfall : List ρ → ℤ → List (ρ × ℤ)
  | [], _ => []
  | row :: rest, remaining =>
    if remaining ≤ 0 then []
    else if outstanding row ≤ 0 then waterfall rest remaining
    else (row, min remaining (outstanding row)) ::
      waterfall rest (remaining - min remaining (outstanding row))

theorem waterfall_nil (remaining : ℤ) : waterfall outstanding [] remaining = [] := rfl

theorem waterfall_cons (row : ρ) (rest : List ρ) (remaining : ℤ) :
    waterfall outstanding (row :: rest) remaining =
      if remaining ≤ 0 then []
      else if outstanding row ≤ 0 then waterfall outstanding rest remaining
      else (row, min remaining (outstanding row)) ::
        waterfall outstanding rest (remaining - min remaining (outstanding row)) :=
  rfl

/-- What the loop hands out in total. -/
def poured (rows : List ρ) (amount : ℤ) : ℤ := ((waterfall outstanding rows amount).map Prod.snd).sum

/-- The loop carries out its plan and returns what the plan leaves over. -/
theorem oldestFirst_eq {m : Type → Type w} [Monad m] [LawfulMonad m] (apply : ρ → ℤ → m PUnit)
    (rows : List ρ) (amount : ℤ) :
    oldestFirst outstanding apply rows amount = (do
      forM (waterfall outstanding rows amount) fun e => apply e.1 e.2
      pure (amount - poured outstanding rows amount)) := by
  induction rows generalizing amount with
  | nil => simp [oldestFirst, waterfall_nil, poured]
  | cons row rest ih =>
    by_cases h₁ : amount ≤ 0
    · simp [oldestFirst, waterfall_cons, poured, h₁]
    · by_cases h₂ : outstanding row ≤ 0
      · simp only [oldestFirst, waterfall_cons, poured, h₁, h₂, if_false, if_true, ih]
      · simp only [oldestFirst, waterfall_cons, poured, h₁, h₂, if_false, ih, List.forM_cons, bind_assoc,
          List.map_cons, List.sum_cons, sub_sub]

variable {outstanding}

/-- Every planned amount is positive and within what its row has outstanding. -/
theorem waterfall_bounds {rows : List ρ} {amount : ℤ} {e : ρ × ℤ}
    (he : e ∈ waterfall outstanding rows amount) : 0 < e.2 ∧ e.2 ≤ outstanding e.1 := by
  induction rows generalizing amount with
  | nil => exact absurd he List.not_mem_nil
  | cons row rest ih =>
    rw [waterfall_cons] at he
    split_ifs at he with h₁ h₂
    · exact absurd he List.not_mem_nil
    · exact ih he
    · rcases List.mem_cons.mp he with rfl | he
      · exact ⟨lt_min (by omega) (by omega), min_le_right _ _⟩
      · exact ih he

/-- The planned rows are rows of the list, in list order. -/
theorem waterfall_sublist (rows : List ρ) (amount : ℤ) :
    ((waterfall outstanding rows amount).map Prod.fst).Sublist rows := by
  induction rows generalizing amount with
  | nil => exact List.Sublist.refl _
  | cons row rest ih =>
    rw [waterfall_cons]
    split_ifs
    · exact List.nil_sublist _
    · exact (ih amount).cons _
    · exact (ih _).cons_cons row

theorem fst_mem_of_mem_waterfall {rows : List ρ} {amount : ℤ} {e : ρ × ℤ}
    (he : e ∈ waterfall outstanding rows amount) : e.1 ∈ rows :=
  (waterfall_sublist rows amount).subset (List.mem_map_of_mem he)

/-- Rows with distinct keys are planned at most once. -/
theorem nodup_waterfall (outstanding : ρ → ℤ) {κ : Type v} {key : ρ → κ} {rows : List ρ}
    (h : (rows.map key).Nodup) (amount : ℤ) :
    ((waterfall outstanding rows amount).map fun e => key e.1).Nodup := by
  have hsub : (((waterfall outstanding rows amount).map Prod.fst).map key).Nodup :=
    ((waterfall_sublist rows amount).map key).nodup h
  rwa [List.map_map] at hsub

theorem waterfall_of_nonpos (rows : List ρ) {amount : ℤ} (h : amount ≤ 0) :
    waterfall outstanding rows amount = [] := by
  cases rows with
  | nil => rfl
  | cons row rest => rw [waterfall_cons, if_pos h]

/-- The plan of a longer list: first the plan of its front, then that of the rest, with what
the front leaves. -/
theorem waterfall_append (front rest : List ρ) (amount : ℤ) :
    waterfall outstanding (front ++ rest) amount =
      waterfall outstanding front amount ++
        waterfall outstanding rest (amount - poured outstanding front amount) := by
  induction front generalizing amount with
  | nil => simp [waterfall_nil, poured]
  | cons row front ih =>
    by_cases h₁ : amount ≤ 0
    · have hle : amount - poured outstanding (row :: front) amount ≤ 0 := by
        simp [poured, waterfall_of_nonpos _ h₁, h₁]
      rw [waterfall_of_nonpos _ h₁, waterfall_of_nonpos _ h₁, waterfall_of_nonpos _ hle]
      rfl
    · by_cases h₂ : outstanding row ≤ 0
      · simp only [List.cons_append, waterfall_cons, poured, h₁, h₂, if_false, if_true]
        exact ih amount
      · simp only [List.cons_append, waterfall_cons, poured, h₁, h₂, if_false, List.map_cons,
          List.sum_cons, ← sub_sub]
        exact congrArg _ (ih _)

/-- The loop never hands out more than it is given. -/
theorem poured_le (rows : List ρ) {amount : ℤ} (h : 0 ≤ amount) :
    poured outstanding rows amount ≤ amount := by
  induction rows generalizing amount with
  | nil => exact h
  | cons row rest ih =>
    rw [poured, waterfall_cons]
    split_ifs with h₁ h₂
    · exact h
    · exact ih h
    · have := @ih (amount - min amount (outstanding row))
        (sub_nonneg.mpr (min_le_left _ _))
      rw [poured] at this
      rw [List.map_cons, List.sum_cons]
      omega

theorem poured_nonneg (rows : List ρ) (amount : ℤ) : 0 ≤ poured outstanding rows amount := by
  have h : ∀ x ∈ (waterfall outstanding rows amount).map Prod.snd, 0 ≤ x := by
    intro x hx
    obtain ⟨e, he, rfl⟩ := List.mem_map.mp hx
    exact (waterfall_bounds he).1.le
  exact List.sum_nonneg h

/-- If something is left, every row was settled. -/
theorem settled_of_poured_lt {rows : List ρ} {amount : ℤ}
    (h : poured outstanding rows amount < amount) {r : ρ} (hr : r ∈ rows) (hpos : 0 < outstanding r) :
    (r, outstanding r) ∈ waterfall outstanding rows amount := by
  induction rows generalizing amount with
  | nil => exact absurd hr List.not_mem_nil
  | cons row rest ih =>
    by_cases h₁ : amount ≤ 0
    · rw [poured, waterfall_of_nonpos _ h₁] at h
      exact absurd h (not_lt.mpr h₁)
    · by_cases h₂ : outstanding row ≤ 0
      · simp only [poured, waterfall_cons, h₁, h₂, if_false, if_true] at h ⊢
        rcases List.mem_cons.mp hr with rfl | hr
        · omega
        · exact ih h hr
      · simp only [poured, waterfall_cons, h₁, h₂, if_false, List.map_cons, List.sum_cons] at h ⊢
        have hrest : 0 ≤ poured outstanding rest (amount - min amount (outstanding row)) :=
          poured_nonneg rest _
        rw [poured] at hrest
        -- the row cannot have taken everything, so it took what it had outstanding
        have hmin : min amount (outstanding row) = outstanding row := by omega
        rcases List.mem_cons.mp hr with rfl | hr
        · rw [hmin]
          exact List.mem_cons_self
        · exact List.mem_cons_of_mem _ (ih (by rw [poured]; omega) hr)

/-- What is handed out is the amount, or everything outstanding if that is less. -/
theorem poured_eq_min {rows : List ρ} {amount : ℤ} (h : 0 ≤ amount)
    (hrows : ∀ r ∈ rows, 0 ≤ outstanding r) :
    poured outstanding rows amount = min amount (rows.map outstanding).sum := by
  induction rows generalizing amount with
  | nil => simp [poured, waterfall_nil, h]
  | cons row rest ih =>
    have hrow := hrows row List.mem_cons_self
    have hrest : ∀ r ∈ rest, 0 ≤ outstanding r := fun r hr => hrows r (List.mem_cons_of_mem _ hr)
    have hsum : 0 ≤ (rest.map outstanding).sum := List.sum_nonneg fun x hx => by
      obtain ⟨r, hr, rfl⟩ := List.mem_map.mp hx
      exact hrest r hr
    rw [List.map_cons, List.sum_cons, poured, waterfall_cons]
    split_ifs with h₁ h₂
    · simp only [List.map_nil, List.sum_nil]
      omega
    · have hih := ih h hrest
      rw [poured] at hih
      omega
    · have hih := @ih (amount - min amount (outstanding row)) (by omega) hrest
      rw [poured] at hih
      rw [List.map_cons, List.sum_cons, hih]
      omega

/-- An amount within the total outstanding is handed out completely. -/
theorem poured_eq_of_le {rows : List ρ} {amount : ℤ} (h : 0 ≤ amount)
    (hrows : ∀ r ∈ rows, 0 ≤ outstanding r) (hle : amount ≤ (rows.map outstanding).sum) :
    poured outstanding rows amount = amount := by
  rw [poured_eq_min h hrows, min_eq_left hle]

/-- When a row is given something, the rows before it are settled. -/
theorem settled_of_front {front rest : List ρ} {r r' : ρ} (hnodup : (front ++ r :: rest).Nodup)
    {amount x : ℤ} (hr : (r, x) ∈ waterfall outstanding (front ++ r :: rest) amount)
    (hr' : r' ∈ front) (hpos : 0 < outstanding r') :
    (r', outstanding r') ∈ waterfall outstanding (front ++ r :: rest) amount := by
  have hfront : r ∉ front := fun hmem =>
    (List.nodup_append.mp hnodup).2.2 r hmem r List.mem_cons_self rfl
  rw [waterfall_append] at hr ⊢
  have hr : (r, x) ∈ waterfall outstanding (r :: rest)
      (amount - poured outstanding front amount) :=
    (List.mem_append.mp hr).resolve_left fun hmem => hfront (fst_mem_of_mem_waterfall hmem)
  have hleft : poured outstanding front amount < amount := by
    by_contra hnone
    rw [waterfall_of_nonpos _ (by omega)] at hr
    exact absurd hr List.not_mem_nil
  exact List.mem_append_left _ (settled_of_poured_lt hleft hr' hpos)

/-- In a sorted list of different rows, a row is given something only if every row that comes
strictly before it is settled. -/
theorem settled_before {R : ρ → ρ → Prop} {rows : List ρ} (hsorted : rows.Pairwise R)
    (hnodup : rows.Nodup) {amount x : ℤ} {r r' : ρ}
    (hr : (r, x) ∈ waterfall outstanding rows amount) (hr' : r' ∈ rows) (hne : r' ≠ r)
    (hbefore : ¬ R r r') (hpos : 0 < outstanding r') :
    (r', outstanding r') ∈ waterfall outstanding rows amount := by
  obtain ⟨front, rest, rfl⟩ := List.append_of_mem (fst_mem_of_mem_waterfall hr)
  refine settled_of_front hnodup hr ?_ hpos
  rcases List.mem_append.mp hr' with hr' | hr'
  · exact hr'
  · have hpairwise := (List.pairwise_append.mp hsorted).2.1
    exact absurd (List.rel_of_pairwise_cons hpairwise ((List.mem_cons.mp hr').resolve_left hne))
      hbefore

/-- Of two rows of a list of different rows, the later one is given something only if the
earlier one is settled. -/
theorem pairwise_settled (outstanding : ρ → ℤ) {rows : List ρ} (hnodup : rows.Nodup) (amount : ℤ) :
    rows.Pairwise fun r r' => (∃ x, (r', x) ∈ waterfall outstanding rows amount) →
      0 < outstanding r → (r, outstanding r) ∈ waterfall outstanding rows amount := by
  refine List.pairwise_iff_getElem.mpr fun i j hi hj hij ⟨x, hx⟩ hpos => ?_
  have hrows : rows = rows.take j ++ rows[j] :: rows.drop (j + 1) := by
    rw [← List.drop_eq_getElem_cons hj, List.take_append_drop]
  have hfront : rows[i] ∈ rows.take j := List.mem_take_iff_getElem.mpr ⟨i, by omega, rfl⟩
  generalize rows[i] = r at hfront hpos ⊢
  generalize rows[j] = r' at hrows hx
  generalize rows.take j = front at hrows hfront
  generalize rows.drop (j + 1) = rest at hrows
  subst hrows
  exact settled_of_front hnodup hx hfront hpos

end Waterfall

/-! ### Several pools

The rows of one list may draw on different amounts, each row on the pool of its key. The rows
of one pool are then paid as if the others were not there. -/

section Pools

variable {ρ : Type u} {κ : Type v} [DecidableEq κ] (outstanding : ρ → ℤ) (pool : ρ → κ)

/-- The rows that a loop pays from the pools, in order, with the amounts. -/
def pooledWaterfall : List ρ → (κ → ℤ) → List (ρ × ℤ)
  | [], _ => []
  | row :: rest, left =>
    if left (pool row) ≤ 0 ∨ outstanding row ≤ 0 then pooledWaterfall rest left
    else (row, min (left (pool row)) (outstanding row)) ::
      pooledWaterfall rest (Function.update left (pool row)
        (left (pool row) - min (left (pool row)) (outstanding row)))

theorem pooledWaterfall_cons (row : ρ) (rest : List ρ) (left : κ → ℤ) :
    pooledWaterfall outstanding pool (row :: rest) left =
      if left (pool row) ≤ 0 ∨ outstanding row ≤ 0 then
        pooledWaterfall outstanding pool rest left
      else (row, min (left (pool row)) (outstanding row)) ::
        pooledWaterfall outstanding pool rest (Function.update left (pool row)
          (left (pool row) - min (left (pool row)) (outstanding row))) :=
  rfl

/-- The rows of one pool. -/
theorem filter_pooledWaterfall (rows : List ρ) (left : κ → ℤ) (k : κ) :
    ((pooledWaterfall outstanding pool rows left).filter fun e => pool e.1 = k) =
      waterfall outstanding (rows.filter fun r => pool r = k) (left k) := by
  induction rows generalizing left with
  | nil => rfl
  | cons row rest ih =>
    by_cases hk : pool row = k
    · subst hk
      rw [pooledWaterfall_cons, List.filter_cons_of_pos (by simp), waterfall_cons]
      by_cases h₁ : left (pool row) ≤ 0
      · rw [if_pos (Or.inl h₁), if_pos h₁, ih, waterfall_of_nonpos _ h₁]
      · by_cases h₂ : outstanding row ≤ 0
        · rw [if_pos (Or.inr h₂), if_neg h₁, if_pos h₂, ih]
        · rw [if_neg (not_or.mpr ⟨h₁, h₂⟩), if_neg h₁, if_neg h₂,
            List.filter_cons_of_pos (by simp), ih, Function.update_self]
    · rw [pooledWaterfall_cons, List.filter_cons_of_neg (by simpa using hk)]
      split
      · exact ih left
      · rw [List.filter_cons_of_neg (by simpa using hk), ih,
          Function.update_of_ne (Ne.symm hk)]

/-- What the rows of one pool are paid in total. -/
theorem share_pooledWaterfall (rows : List ρ) (left : κ → ℤ) (k : κ) :
    share ((pooledWaterfall outstanding pool rows left).map fun e => (pool e.1, e.2)) k =
      poured outstanding (rows.filter fun r => pool r = k) (left k) := by
  rw [poured, ← filter_pooledWaterfall, share_map_eq_sum_filter]

variable {outstanding pool}

theorem pooledWaterfall_of_skip {row : ρ} {rest : List ρ} {left : κ → ℤ}
    (h : left (pool row) ≤ 0 ∨ outstanding row ≤ 0) :
    pooledWaterfall outstanding pool (row :: rest) left =
      pooledWaterfall outstanding pool rest left := by
  rw [pooledWaterfall_cons, if_pos h]

theorem pooledWaterfall_of_pay {row : ρ} {rest : List ρ} {left : κ → ℤ}
    (h : ¬(left (pool row) ≤ 0 ∨ outstanding row ≤ 0)) :
    pooledWaterfall outstanding pool (row :: rest) left =
      (row, min (left (pool row)) (outstanding row)) ::
        pooledWaterfall outstanding pool rest (Function.update left (pool row)
          (left (pool row) - min (left (pool row)) (outstanding row))) := by
  rw [pooledWaterfall_cons, if_neg h]

theorem mem_waterfall_of_mem_pooledWaterfall {rows : List ρ} {left : κ → ℤ} {e : ρ × ℤ}
    (he : e ∈ pooledWaterfall outstanding pool rows left) :
    e ∈ waterfall outstanding (rows.filter fun r => pool r = pool e.1) (left (pool e.1)) := by
  rw [← filter_pooledWaterfall]
  exact List.mem_filter.mpr ⟨he, decide_eq_true rfl⟩

/-- The paid rows are rows of the list, in list order. -/
theorem pooledWaterfall_sublist (rows : List ρ) (left : κ → ℤ) :
    ((pooledWaterfall outstanding pool rows left).map Prod.fst).Sublist rows := by
  induction rows generalizing left with
  | nil => exact List.Sublist.refl _
  | cons row rest ih =>
    rw [pooledWaterfall_cons]
    split
    · exact (ih left).cons row
    · exact (ih _).cons_cons row

end Pools

end Relational
