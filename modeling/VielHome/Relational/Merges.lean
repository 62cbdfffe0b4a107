import Mathlib.Logic.Relation
import Mathlib.Logic.Function.Basic
import Mathlib.Tactic.Common

/-!
# Merging things into one another

Reports of one defect, or accounts of one person: one thing is merged into another, and it is
closed from then on. `Merges` says what each thing is merged into and which things are closed.
They are a `Forest` when nothing leads back to itself and all that was merged is closed.

`Step` is what may happen to a forest: something is merged into a thing that is not merged
itself, or nothing is merged and what was merged stays closed. `Step.forest` says that it stays
a forest, and `Step.into_eq` that a merge is final. Both conditions of a merge are needed: two
things that are merged into each other at once lead back to themselves.
-/

namespace Relational

variable {κ : Type}

/-- What each thing is merged into, and which things are closed. -/
@[ext]
structure Merges (κ : Type) where
  into : κ → Option κ
  closed : κ → Prop

namespace Merges

/-- The first thing is merged into the second one. -/
def Into (m : Merges κ) (k t : κ) : Prop := m.into k = some t

/-- Nothing leads back to itself. -/
def Acyclic (m : Merges κ) : Prop := ∀ k, ¬ Relation.TransGen m.Into k k

/-- Nothing leads back to itself, and all that is merged is closed. -/
structure Forest (m : Merges κ) : Prop where
  acyclic : m.Acyclic
  closed : ∀ k t, m.into k = some t → m.closed k

/-- Where nothing is merged, there is a forest. -/
theorem forest_of_unmerged {m : Merges κ} (h : ∀ k, m.into k = none) : m.Forest where
  acyclic k hk := by
    obtain ⟨t, hfirst, -⟩ := Relation.TransGen.head'_iff.mp hk
    exact absurd ((h k).symm.trans hfirst) (by simp)
  closed k t hk := absurd ((h k).symm.trans hk) (by simp)

variable [DecidableEq κ] {m m' : Merges κ}

/-- What may happen: nothing is merged, or `k` is merged into `t`, which is not merged. -/
inductive Step (m m' : Merges κ) : Prop
  | quiet (hinto : m'.into = m.into)
      (hclosed : ∀ k t, m.into k = some t → m.closed k → m'.closed k)
  | merge (k t : κ) (hne : t ≠ k) (hk : m.into k = none) (ht : m.into t = none)
      (hinto : m'.into = Function.update m.into k (some t)) (hclosed : m'.closed k)
      (hothers : ∀ j, j ≠ k → m.closed j → m'.closed j)

/-- Nothing has changed. -/
theorem Step.of_eq (h : m' = m) : Step m m' := by
  subst h
  exact .quiet rfl fun _ _ _ hclosed => hclosed

section Merge

variable {k t : κ} (hne : t ≠ k) (ht : m.into t = none)
  (hinto : m'.into = Function.update m.into k (some t))

include hne ht hinto

/-- Nothing leads on from what has just been merged into. -/
private theorem into_target : m'.into t = none := by
  rw [hinto, Function.update_of_ne hne, ht]

/-- What leads to a thing after the merge led there before, unless this is the target. -/
private theorem transGen_merge {x y : κ} (h : Relation.TransGen m'.Into x y) :
    Relation.TransGen m.Into x y ∨ y = t := by
  have hstep : ∀ {a b : κ}, m'.Into a b → m.Into a b ∨ b = t := by
    intro a b hab
    rw [Into, hinto] at hab
    by_cases hak : a = k
    · rw [hak, Function.update_self] at hab
      exact Or.inr (Option.some.inj hab).symm
    · rw [Function.update_of_ne hak] at hab
      exact Or.inl hab
  induction h with
  | single hxy => exact (hstep hxy).imp_left Relation.TransGen.single
  | tail _ hlast ih =>
    -- a path ends at the target, since nothing leads on from there
    rcases ih with ih | rfl
    · exact (hstep hlast).imp_left ih.tail
    · exact absurd ((into_target hne ht hinto).symm.trans hlast) (by simp)

private theorem acyclic_merge (h : m.Acyclic) : m'.Acyclic := by
  intro x hx
  rcases transGen_merge hne ht hinto hx with hold | rfl
  · exact h x hold
  · obtain ⟨y, hfirst, -⟩ := Relation.TransGen.head'_iff.mp hx
    exact absurd ((into_target hne ht hinto).symm.trans hfirst) (by simp)

end Merge

/-- A forest stays a forest. -/
theorem Step.forest (h : Step m m') (hm : m.Forest) : m'.Forest := by
  cases h with
  | quiet hinto hclosed =>
    have hedges : m'.Into = m.Into := by
      funext k t
      rw [Into, Into, hinto]
    refine ⟨fun k hk => hm.acyclic k (hedges ▸ hk), fun k t hk => ?_⟩
    rw [hinto] at hk
    exact hclosed k t hk (hm.closed k t hk)
  | merge k t hne hk ht hinto hclosed hothers =>
    refine ⟨acyclic_merge hne ht hinto hm.acyclic, fun j u hj => ?_⟩
    by_cases hjk : j = k
    · exact hjk ▸ hclosed
    · rw [hinto, Function.update_of_ne hjk] at hj
      exact hothers j hjk (hm.closed j u hj)

/-- What is merged stays merged, into the same thing. -/
theorem Step.into_eq (h : Step m m') {j u : κ} (hj : m.into j = some u) : m'.into j = some u := by
  cases h with
  | quiet hinto _ => rw [hinto, hj]
  | merge k t hne hk ht hinto hclosed hothers =>
    have hjk : j ≠ k := fun hjk => by simp [hjk, hk] at hj
    rw [hinto, Function.update_of_ne hjk, hj]

end Merges

end Relational
