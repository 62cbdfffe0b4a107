import Mathlib.Algebra.BigOperators.Group.List.Basic
import Mathlib.Algebra.Order.BigOperators.Group.List
import Mathlib.Algebra.Order.Floor.Ring
import Mathlib.Tactic.Linarith

/-!
# Largest remainders

A total is divided into shares that are rounded down, and the leftover is handed out one by
one, in the order of what was dropped from each share. What is proved here is about a list of
dropped fractions that is sorted in descending order and adds up to a whole number `k`: there
are more than `k` of them, the first `k` are positive, and whoever dropped more than one of the
first `k` is among them too.
-/

universe u v

namespace Apportionment

variable {ι : Type u} {κ : Type v}

section Fractions

variable {K : Type v} [Field K] [LinearOrder K] [IsStrictOrderedRing K] {fraction : ι → K}

/-- Fractions below one add up to less than their number. -/
theorem sum_lt_length {l : List ι} (hlt : ∀ i ∈ l, fraction i < 1) (hne : l ≠ []) :
    (l.map fraction).sum < l.length := by
  induction l with
  | nil => exact absurd rfl hne
  | cons i l ih =>
    have hi := hlt i List.mem_cons_self
    rw [List.map_cons, List.sum_cons, List.length_cons, Nat.cast_succ]
    cases l with
    | nil => simpa using hi
    | cons j l =>
      have := ih (fun i hi => hlt i (List.mem_cons_of_mem _ hi)) (List.cons_ne_nil _ _)
      linarith

/-- In descending order, the first `k` of fractions that add up to `k` are positive. -/
theorem pos_of_mem_take {l : List ι} (hlt : ∀ i ∈ l, fraction i < 1)
    (hsorted : l.Pairwise fun i j => fraction j ≤ fraction i) {k : ℕ}
    (hsum : (l.map fraction).sum = k) {i : ι} (hi : i ∈ l.take k) : 0 < fraction i := by
  by_contra hnonpos
  have hsplit : (l.map fraction).sum =
      ((l.take k).map fraction).sum + ((l.drop k).map fraction).sum := by
    rw [← List.sum_append, ← List.map_append, List.take_append_drop]
  have htake : ((l.take k).map fraction).sum < k := by
    have hlength := sum_lt_length (l := l.take k)
      (fun i hi => hlt i (List.mem_of_mem_take hi)) (List.ne_nil_of_mem hi)
    refine hlength.trans_le ?_
    exact_mod_cast List.length_take_le k l
  -- nothing after the first `k` is larger than the one that is not positive
  have hdrop : ((l.drop k).map fraction).sum ≤ 0 := by
    rw [← List.take_append_drop k l, List.pairwise_append] at hsorted
    have hle : ∀ x ∈ (l.drop k).map fraction, x ≤ 0 := by
      intro x hx
      obtain ⟨j, hj, rfl⟩ := List.mem_map.mp hx
      exact (hsorted.2.2 i hi j hj).trans (not_lt.mp hnonpos)
    simpa using List.sum_le_card_nsmul _ 0 hle
  linarith

end Fractions

/-- In a sorted list, what comes strictly before one of the first `k` is one of them. -/
theorem mem_take_of_before {r : ι → ι → Prop} {l : List ι} (hsorted : l.Pairwise r) {k : ℕ}
    {i j : ι} (hi : i ∈ l.take k) (hj : j ∈ l) (hbefore : ¬ r i j) : j ∈ l.take k := by
  rw [← List.take_append_drop k l] at hj
  rcases List.mem_append.mp hj with hj | hj
  · exact hj
  · rw [← List.take_append_drop k l, List.pairwise_append] at hsorted
    exact absurd (hsorted.2.2 i hi j hj) hbefore

/-- One for each key of `chosen`, over keys that `chosen` is a part of. -/
theorem sum_ite_mem [DecidableEq κ] {keys chosen rest : List κ} (hnodup : keys.Nodup)
    (hperm : keys.Perm (chosen ++ rest)) :
    (keys.map fun k => if k ∈ chosen then (1 : ℤ) else 0).sum = chosen.length := by
  have hdisjoint := (List.nodup_append.mp (hperm.nodup_iff.mp hnodup)).2.2
  have hchosen : ∀ l : List κ, (∀ k ∈ l, k ∈ chosen) →
      (l.map fun k => if k ∈ chosen then (1 : ℤ) else 0).sum = l.length := by
    intro l hl
    induction l with
    | nil => rfl
    | cons k l ih =>
      rw [List.map_cons, List.sum_cons, if_pos (hl k List.mem_cons_self),
        ih fun k hk => hl k (List.mem_cons_of_mem _ hk), List.length_cons]
      omega
  have hrest : (rest.map fun k => if k ∈ chosen then (1 : ℤ) else 0).sum = 0 := by
    refine List.sum_eq_zero fun x hx => ?_
    obtain ⟨k, hk, rfl⟩ := List.mem_map.mp hx
    exact if_neg fun hmem => hdisjoint k hmem k hk rfl
  rw [(hperm.map _).sum_eq, List.map_append, List.sum_append, hchosen chosen fun k hk => hk,
    hrest, add_zero]

/-- One for each of the first `k` positions. -/
theorem sum_mapIdx_lt (l : List ι) {k : ℤ} (hnonneg : 0 ≤ k) (hle : k ≤ l.length) :
    (l.mapIdx fun index _ => if (index : ℤ) < k then (1 : ℤ) else 0).sum = k := by
  induction l generalizing k with
  | nil =>
    rw [List.length_nil, Nat.cast_zero] at hle
    simp only [List.mapIdx_nil, List.sum_nil]
    omega
  | cons i l ih =>
    rw [List.length_cons, Nat.cast_succ] at hle
    rw [List.mapIdx_cons, List.sum_cons]
    simp only [Nat.cast_add, Nat.cast_one, Nat.cast_zero]
    rcases hnonneg.eq_or_lt with rfl | hpos
    · -- nobody is before position zero
      have hrest : ∀ x ∈ l.mapIdx (fun index _ => if (index : ℤ) + 1 < 0 then (1 : ℤ) else 0), x = 0 := by
        intro x hx
        obtain ⟨index, -, rfl⟩ := List.mem_mapIdx.mp hx
        exact if_neg (by omega)
      rw [List.sum_eq_zero hrest, if_neg (by omega), add_zero]
    · have hshift : ∀ index : ℕ, (index : ℤ) + 1 < k ↔ (index : ℤ) < k - 1 := fun index => by omega
      simp only [hshift, ih (k := k - 1) (by omega) (by omega), if_pos hpos]
      omega

end Apportionment
