import Mathlib.Data.List.Sort
import Mathlib.Order.Basic

/-!
# Ordered reads

A read with an `ORDER BY` clause returns the matching rows sorted by a list of keys. The
sort is Mathlib's `List.insertionSort`, which is stable: rows that tie on every key keep
the order of the table. `NullsLast` is the ascending comparison of a nullable column, with
the missing values at the end, and `ThenBy` chains a second key after a first.

Two facts relate reads that select or order differently. Sorting commutes with a filter
(`filter_insertionSort`), and two orders that agree on the rows at hand sort them alike
(`insertionSort_congr`).
-/

namespace Relational

universe u

variable {α : Type u}

/-- Ascending comparison of a nullable column; missing values come last. -/
def NullsLast : Option ℤ → Option ℤ → Prop
  | _, none => True
  | none, some _ => False
  | some a, some b => a ≤ b

instance : DecidableRel NullsLast
  | _, none => isTrue (by simp [NullsLast])
  | none, some _ => isFalse (by simp [NullsLast])
  | some a, some b => inferInstanceAs (Decidable (a ≤ b))

theorem NullsLast.total (a b : Option ℤ) : NullsLast a b ∨ NullsLast b a := by
  cases a <;> cases b <;> simp [NullsLast, le_total]

theorem NullsLast.trans (a b c : Option ℤ) (h₁ : NullsLast a b) (h₂ : NullsLast b c) :
    NullsLast a c := by
  cases a <;> cases b <;> cases c <;> simp_all [NullsLast]
  exact h₁.trans h₂

/-- Compare by `r`, and by `s` where `r` ties. -/
def ThenBy (r s : α → α → Prop) (a b : α) : Prop := r a b ∧ (r b a → s a b)

instance (r s : α → α → Prop) [DecidableRel r] [DecidableRel s] : DecidableRel (ThenBy r s) :=
  fun a b => inferInstanceAs (Decidable (r a b ∧ (r b a → s a b)))

theorem ThenBy.total {r s : α → α → Prop} (hr : ∀ a b, r a b ∨ r b a)
    (hs : ∀ a b, s a b ∨ s b a) (a b : α) : ThenBy r s a b ∨ ThenBy r s b a := by
  by_cases h₁ : r a b <;> by_cases h₂ : r b a
  · rcases hs a b with h | h
    · exact Or.inl ⟨h₁, fun _ => h⟩
    · exact Or.inr ⟨h₂, fun _ => h⟩
  · exact Or.inl ⟨h₁, fun h => absurd h h₂⟩
  · exact Or.inr ⟨h₂, fun h => absurd h h₁⟩
  · exact absurd (hr a b) (by simp [h₁, h₂])

theorem ThenBy.trans {r s : α → α → Prop} (hr : ∀ a b c, r a b → r b c → r a c)
    (hs : ∀ a b c, s a b → s b c → s a c) (a b c : α) (h₁ : ThenBy r s a b)
    (h₂ : ThenBy r s b c) : ThenBy r s a c :=
  ⟨hr a b c h₁.1 h₂.1,
    fun hca => hs a b c (h₁.2 (hr b c a h₂.1 hca)) (h₂.2 (hr c a b hca h₁.1))⟩

/-- Two rows that tie in both orders tie in the second one. -/
theorem ThenBy.ties {r s : α → α → Prop} {a b : α} (h₁ : ThenBy r s a b) (h₂ : ThenBy r s b a) :
    s a b ∧ s b a :=
  ⟨h₁.2 h₂.1, h₂.2 h₁.1⟩

/-! ### Sorting and filtering -/

section Sorting

variable {r : α → α → Prop} [DecidableRel r]

/-- Sorting reads a relation only between the elements of the list. -/
theorem insertionSort_congr {s : α → α → Prop} [DecidableRel s] {l : List α}
    (h : ∀ a ∈ l, ∀ b ∈ l, r a b ↔ s a b) : l.insertionSort r = l.insertionSort s := by
  simpa using List.map_insertionSort r s id l h

private theorem filter_orderedInsert (htrans : ∀ a b c, r a b → r b c → r a c) (p : α → Bool)
    (a : α) {l : List α} (hl : l.Pairwise r) :
    (l.orderedInsert r a).filter p =
      if p a then (l.filter p).orderedInsert r a else l.filter p := by
  induction l with
  | nil => by_cases ha : p a <;> simp [ha]
  | cons b l ih =>
    obtain ⟨hb, hl⟩ := List.pairwise_cons.mp hl
    by_cases hab : r a b
    · -- everything after `b` is above `a`, so `a` goes in front of whatever is kept
      have hall : ∀ c ∈ (b :: l).filter p, r a c := by
        intro c hc
        rcases List.mem_cons.mp (List.mem_of_mem_filter hc) with rfl | hc
        · exact hab
        · exact htrans a b c hab (hb c hc)
      have hfront : ((b :: l).filter p).orderedInsert r a = a :: (b :: l).filter p := by
        cases hf : (b :: l).filter p with
        | nil => rfl
        | cons c cs => exact List.orderedInsert_cons_of_le r cs (hall c (hf ▸ List.mem_cons_self))
      rw [List.orderedInsert_cons_of_le r l hab, hfront]
      by_cases ha : p a <;> simp [ha]
    · rw [List.orderedInsert_of_not_le r l hab]
      by_cases hpb : p b
      · rw [List.filter_cons_of_pos hpb, ih hl, List.filter_cons_of_pos hpb,
          List.orderedInsert_of_not_le r _ hab]
        split <;> rfl
      · rw [List.filter_cons_of_neg hpb, ih hl, List.filter_cons_of_neg hpb]

/-- Selecting from a sorted read is sorting the selection. -/
theorem filter_insertionSort (htotal : ∀ a b, r a b ∨ r b a)
    (htrans : ∀ a b c, r a b → r b c → r a c) (p : α → Bool) (l : List α) :
    (l.insertionSort r).filter p = (l.filter p).insertionSort r := by
  have : Std.Total r := ⟨htotal⟩
  have : IsTrans α r := ⟨htrans⟩
  induction l with
  | nil => rfl
  | cons a l ih =>
    rw [List.insertionSort_cons,
      filter_orderedInsert htrans p a (List.pairwise_insertionSort r l), ih]
    by_cases ha : p a <;> simp [ha]

/-- A sorted read begins with a row that comes before all others. -/
theorem rel_of_head?_insertionSort (htotal : ∀ a b, r a b ∨ r b a)
    (htrans : ∀ a b c, r a b → r b c → r a c) {l : List α} {a b : α}
    (ha : (l.insertionSort r).head? = some a) (hb : b ∈ l) : r a b := by
  have : Std.Total r := ⟨htotal⟩
  have : IsTrans α r := ⟨htrans⟩
  obtain ⟨as, hsorted⟩ := List.head?_eq_some_iff.mp ha
  have hpairwise := List.pairwise_insertionSort r l
  have hmem : b ∈ l.insertionSort r := (List.mem_insertionSort r).mpr hb
  rw [hsorted] at hpairwise hmem
  rcases List.mem_cons.mp hmem with rfl | hmem
  · exact (htotal b b).elim id id
  · exact List.rel_of_pairwise_cons hpairwise hmem

/-! ### Limits -/

/-- In a list without ties, in its order, a row is one of the first `n` when fewer than `n` rows come
before it. -/
theorem mem_take_iff_countP_lt (htotal : ∀ a b, r a b ∨ r b a) {l : List α}
    (hl : l.Pairwise fun a b => ¬ r b a) {a : α} {n : ℕ} :
    a ∈ l.take n ↔ a ∈ l ∧ l.countP (fun b => ¬ r a b) < n := by
  induction l generalizing n with
  | nil => simp
  | cons b l ih =>
    obtain ⟨hb, hl⟩ := List.pairwise_cons.mp hl
    have hrefl : r b b := (htotal b b).elim id id
    cases n with
    | zero => simp
    | succ n =>
      rw [List.take_succ_cons, List.mem_cons, List.mem_cons]
      by_cases hab : a = b
      · -- nothing comes before the first row
        subst hab
        have hnone : (a :: l).countP (fun c => ¬ r a c) = 0 := by
          refine List.countP_eq_zero.mpr fun c hc => ?_
          rw [decide_eq_true_eq, not_not]
          rcases List.mem_cons.mp hc with rfl | hc
          · exact hrefl
          · exact (htotal a c).resolve_right (hb c hc)
        exact iff_of_true (Or.inl rfl) ⟨Or.inl rfl, hnone ▸ Nat.succ_pos n⟩
      · rw [or_iff_right hab, or_iff_right hab, ih hl]
        refine and_congr_right fun ha => ?_
        rw [List.countP_cons_of_pos (p := fun c => decide ¬ r a c) (decide_eq_true (hb a ha)),
          Nat.add_lt_add_iff_right]

/-- A read with a limit returns the rows that fewer than `n` others come before. -/
theorem mem_take_insertionSort (htotal : ∀ a b, r a b ∨ r b a)
    (htrans : ∀ a b c, r a b → r b c → r a c) {l : List α} (hnodup : l.Nodup)
    (hties : ∀ a ∈ l, ∀ b ∈ l, r a b → r b a → a = b) {a : α} {n : ℕ} :
    a ∈ (l.insertionSort r).take n ↔ a ∈ l ∧ l.countP (fun b => ¬ r a b) < n := by
  have : Std.Total r := ⟨htotal⟩
  have : IsTrans α r := ⟨htrans⟩
  have hperm := List.perm_insertionSort r l
  have hstrict : (l.insertionSort r).Pairwise fun a b => ¬ r b a := by
    have hsorted := List.pairwise_insertionSort r l
    have hdistinct := hperm.nodup_iff.mpr hnodup
    refine (hsorted.and hdistinct).imp_of_mem fun ha hb hab hba => hab.2 ?_
    exact hties _ (hperm.mem_iff.mp ha) _ (hperm.mem_iff.mp hb) hab.1 hba
  rw [mem_take_iff_countP_lt htotal hstrict, hperm.mem_iff, hperm.countP_eq]

end Sorting

end Relational
