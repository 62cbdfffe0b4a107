import Mathlib.Data.Set.Basic
import Mathlib.Logic.Function.Basic
import Mathlib.Tactic.Common

/-!
# Flags that are overridden and given back

An override sets the flag of a key and remembers what it found there; when it is taken back,
the flag gets the remembered value. Any number of overrides may hold one flag, and the flag
may also be set and unset directly. `Step` says what one change does, under two premises
that a program may or may not keep: `fresh`, that an override remembers what the flag is when
it is set, and that no flag is unset while it is held; `counted`, that a flag of `spare` is
only set directly while another one of `spare` is not.

* `holds_iff`: every held flag stays set, unless an override that found it unset is taken
  back before another one (`Exposes`).
* `Step.before_iff`: what the flag was before all the overrides that hold it is not
  forgotten, in whichever order they are taken back.
* `spares_iff`: some flag of `spare` stays unset, unless an override sets the last one
  (`Exhausts`).
-/

namespace Relational

variable {κ ι : Type}

/-- The flag of every key, and for every override that is not taken back which flag it holds,
and what it found there. -/
structure Overrides (κ ι : Type) where
  flag : κ → Bool
  active : ι → Option (κ × Bool)

namespace Overrides

/-- Every flag that is held is set. -/
def Holds (o : Overrides κ ι) : Prop := ∀ i k b, o.active i = some (k, b) → o.flag k = true

/-- No override holds the flag. -/
def Unheld (o : Overrides κ ι) (k : κ) : Prop := ∀ i b, o.active i ≠ some (k, b)

/-- The flag was set before the overrides that hold it. -/
def Before (o : Overrides κ ι) (k : κ) : Prop :=
  o.flag k = true ∧ ∀ i, o.active i ≠ some (k, false)

/-- Some flag of `spare` is not set. -/
def Spares (spare : Set κ) (o : Overrides κ ι) : Prop := ∃ k ∈ spare, o.flag k = false

/-- One change of the flags. -/
inductive Step [DecidableEq κ] [DecidableEq ι] (fresh counted : Prop) (spare : Set κ)
    (o o' : Overrides κ ι) : Prop
  | quiet (hflag : o'.flag = o.flag) (hactive : o'.active = o.active)
  /-- An override sets a flag. -/
  | take (i : ι) (k : κ) (b : Bool) (hnew : o.active i = none) (hfresh : fresh → b = o.flag k)
      (hflag : o'.flag = Function.update o.flag k true)
      (hactive : o'.active = Function.update o.active i (some (k, b)))
  /-- An override is taken back. -/
  | giveBack (i : ι) (k : κ) (b : Bool) (hheld : o.active i = some (k, b)) (hset : o.flag k = true)
      (hflag : o'.flag = Function.update o.flag k b)
      (hactive : o'.active = Function.update o.active i none)
  /-- A flag is set directly. -/
  | set (k : κ) (hspare : counted → k ∈ spare → ∃ k' ∈ spare, k' ≠ k ∧ o.flag k' = false)
      (hflag : o'.flag = Function.update o.flag k true) (hactive : o'.active = o.active)
  /-- A flag is unset directly. -/
  | unset (k : κ) (hunheld : fresh → o.Unheld k)
      (hflag : o'.flag = Function.update o.flag k false) (hactive : o'.active = o.active)

/-- An override that found the flag unset is taken back while another one holds it. -/
def Exposes (o o' : Overrides κ ι) : Prop :=
  ∃ i k, o.active i = some (k, false) ∧ o'.active i = none ∧
    ∃ j b, j ≠ i ∧ o.active j = some (k, b)

/-- The flag is set or unset directly. -/
def Direct (k : κ) (o o' : Overrides κ ι) : Prop :=
  o'.flag k ≠ o.flag k ∧ o'.active = o.active

/-- An override sets the last flag of `spare` that is not set. -/
def Exhausts (spare : Set κ) (o o' : Overrides κ ι) : Prop :=
  ∃ i k b, o.active i = none ∧ o'.active i = some (k, b) ∧
    ∀ k' ∈ spare, o.flag k' = false → k' = k

variable {o o' : Overrides κ ι}

theorem before_of_unheld {k : κ} (h : o.Unheld k) : o.Before k ↔ o.flag k = true :=
  ⟨And.left, fun hflag => ⟨hflag, fun i => h i false⟩⟩

theorem not_exposes_of_active_eq (h : o'.active = o.active) : ¬ o.Exposes o' := by
  rintro ⟨i, k, hheld, hnone, -⟩
  rw [h, hheld] at hnone
  cases hnone

theorem not_exhausts_of_le {spare : Set κ}
    (h : ∀ i, o'.active i = none ∨ o'.active i = o.active i) : ¬ o.Exhausts spare o' := by
  rintro ⟨i, k, b, hnone, hsome, -⟩
  rcases h i with h | h
  · rw [h] at hsome
    cases hsome
  · rw [h, hnone] at hsome
    cases hsome

section Step

variable [DecidableEq κ] [DecidableEq ι] {fresh counted : Prop} {spare : Set κ}

/-- A held flag stays set, unless the step exposes it. -/
theorem holds_iff (h : Step fresh counted spare o o') (hfresh : fresh) (ho : o.Holds) :
    o'.Holds ↔ ¬ o.Exposes o' := by
  cases h with
  | quiet hflag hactive =>
    refine iff_of_true (fun i k b hheld => ?_) (not_exposes_of_active_eq hactive)
    rw [hflag]
    exact ho i k b (hactive ▸ hheld)
  | take i k b hnew _ hflag hactive =>
    refine iff_of_true (fun j l c hheld => ?_) ?_
    · rw [hflag]
      rw [hactive] at hheld
      by_cases hl : l = k
      · rw [hl, Function.update_self]
      · rw [Function.update_of_ne hl]
        by_cases hj : j = i
        · rw [hj, Function.update_self] at hheld
          exact absurd (congrArg Prod.fst (Option.some.inj hheld)).symm hl
        · rw [Function.update_of_ne hj] at hheld
          exact ho j l c hheld
    · rintro ⟨j, l, hheld, hnone, -⟩
      rw [hactive] at hnone
      by_cases hj : j = i
      · rw [hj, hnew] at hheld
        cases hheld
      · rw [Function.update_of_ne hj, hheld] at hnone
        cases hnone
  | giveBack i k b hheld hset hflag hactive =>
    constructor
    · rintro hholds ⟨i', k', hheld', hnone, j, c, hne, hj⟩
      -- only the override that was taken back is gone
      obtain rfl : i' = i := by
        by_contra hi
        rw [hactive, Function.update_of_ne hi, hheld'] at hnone
        cases hnone
      obtain ⟨rfl, rfl⟩ := Prod.mk.inj (Option.some.inj (hheld.symm.trans hheld'))
      have hflag' := hholds j k c (by rw [hactive, Function.update_of_ne hne, hj])
      rw [hflag, Function.update_self] at hflag'
      cases hflag'
    · intro hexposes j l c hj
      have hne : j ≠ i := by
        rintro rfl
        rw [hactive, Function.update_self] at hj
        cases hj
      rw [hactive, Function.update_of_ne hne] at hj
      rw [hflag]
      by_cases hl : l = k
      · subst hl
        rw [Function.update_self]
        cases b with
        | true => rfl
        | false =>
          refine absurd ⟨i, l, hheld, ?_, j, c, hne, hj⟩ hexposes
          rw [hactive, Function.update_self]
      · rw [Function.update_of_ne hl]
        exact ho j l c hj
  | set k _ hflag hactive =>
    refine iff_of_true (fun i l b hheld => ?_) (not_exposes_of_active_eq hactive)
    rw [hflag]
    by_cases hl : l = k
    · rw [hl, Function.update_self]
    · rw [Function.update_of_ne hl]
      exact ho i l b (hactive ▸ hheld)
  | unset k hunheld hflag hactive =>
    refine iff_of_true (fun i l b hheld => ?_) (not_exposes_of_active_eq hactive)
    rw [hactive] at hheld
    have hl : l ≠ k := by
      rintro rfl
      exact hunheld hfresh i b hheld
    rw [hflag, Function.update_of_ne hl]
    exact ho i l b hheld

/-- What a flag was before its overrides, while nobody changes it directly. -/
theorem Step.before_iff (h : Step fresh counted spare o o') (hfresh : fresh) {k : κ}
    (hdirect : ¬ o.Direct k o') : o'.Before k ↔ o.Before k := by
  cases h with
  | quiet hflag hactive => rw [Before, Before, hflag, hactive]
  | take i l b hnew hseen hflag hactive =>
    rw [Before, Before, hflag, hactive]
    by_cases hl : l = k
    · subst hl
      rw [Function.update_self]
      -- the override remembers the flag as it was, and adds nothing to what is remembered
      constructor
      · rintro ⟨-, hnone⟩
        have hb : b = true := by
          cases b with
          | true => rfl
          | false => exact absurd (Function.update_self i _ _) (hnone i)
        refine ⟨(hseen hfresh).symm.trans hb, fun j hj => ?_⟩
        by_cases hji : j = i
        · rw [hji, hnew] at hj
          cases hj
        · exact hnone j (by rw [Function.update_of_ne hji, hj])
      · rintro ⟨hset, hnone⟩
        refine ⟨rfl, fun j hj => ?_⟩
        by_cases hji : j = i
        · rw [hji, Function.update_self, hseen hfresh, hset] at hj
          cases hj
        · rw [Function.update_of_ne hji] at hj
          exact hnone j hj
    · rw [Function.update_of_ne (Ne.symm hl)]
      refine and_congr_right fun _ => forall_congr' fun j => not_congr ?_
      by_cases hji : j = i
      · rw [hji, Function.update_self, hnew]
        refine iff_of_false (fun hj => ?_) nofun
        exact hl (congrArg Prod.fst (Option.some.inj hj))
      · rw [Function.update_of_ne hji]
  | giveBack i l b hheld hset hflag hactive =>
    rw [Before, Before, hflag, hactive]
    by_cases hl : l = k
    · subst hl
      rw [Function.update_self, hset]
      constructor
      · rintro ⟨rfl, hnone⟩
        refine ⟨rfl, fun j hj => ?_⟩
        by_cases hji : j = i
        · rw [hji, hheld] at hj
          cases hj
        · exact hnone j (by rw [Function.update_of_ne hji, hj])
      · rintro ⟨-, hnone⟩
        refine ⟨?_, fun j hj => ?_⟩
        · cases b with
          | true => rfl
          | false => exact absurd hheld (hnone i)
        · by_cases hji : j = i
          · rw [hji, Function.update_self] at hj
            cases hj
          · rw [Function.update_of_ne hji] at hj
            exact hnone j hj
    · rw [Function.update_of_ne (Ne.symm hl)]
      refine and_congr_right fun _ => forall_congr' fun j => not_congr ?_
      by_cases hji : j = i
      · rw [hji, Function.update_self, hheld]
        exact iff_of_false nofun fun hj => hl (congrArg Prod.fst (Option.some.inj hj))
      · rw [Function.update_of_ne hji]
  | set l _ hflag hactive =>
    have hk : o'.flag k = o.flag k := by
      by_contra hne
      exact hdirect ⟨hne, hactive⟩
    rw [Before, Before, hk, hactive]
  | unset l _ hflag hactive =>
    have hk : o'.flag k = o.flag k := by
      by_contra hne
      exact hdirect ⟨hne, hactive⟩
    rw [Before, Before, hk, hactive]

/-- A flag of `spare` stays unset, unless an override sets the last one. -/
theorem spares_iff (h : Step fresh counted spare o o') (hcounted : counted) (ho : o.Spares spare) :
    o'.Spares spare ↔ ¬ o.Exhausts spare o' := by
  obtain ⟨k₀, hk₀, hunset⟩ := ho
  cases h with
  | quiet hflag hactive =>
    refine iff_of_true ⟨k₀, hk₀, hflag ▸ hunset⟩ (not_exhausts_of_le fun i => Or.inr ?_)
    rw [hactive]
  | take i k b hnew _ hflag hactive =>
    constructor
    · rintro ⟨k', hk', hflag'⟩ ⟨j, l, c, hnone, hsome, hlast⟩
      -- the override that was added set the flag that was the last one
      obtain rfl : j = i := by
        by_contra hj
        rw [hactive, Function.update_of_ne hj, hnone] at hsome
        cases hsome
      rw [hactive, Function.update_self] at hsome
      obtain rfl := congrArg Prod.fst (Option.some.inj hsome)
      rw [hflag] at hflag'
      by_cases hl : k' = k
      · rw [hl, Function.update_self] at hflag'
        cases hflag'
      · rw [Function.update_of_ne hl] at hflag'
        exact hl (hlast k' hk' hflag')
    · intro hexhausts
      by_contra hspares
      refine hexhausts ⟨i, k, b, hnew, by rw [hactive, Function.update_self], fun k' hk' hflag' => ?_⟩
      by_contra hl
      exact hspares ⟨k', hk', by rw [hflag, Function.update_of_ne hl, hflag']⟩
  | giveBack i k b hheld hset hflag hactive =>
    have hne : k₀ ≠ k := by
      rintro rfl
      rw [hset] at hunset
      cases hunset
    refine iff_of_true ⟨k₀, hk₀, by rw [hflag, Function.update_of_ne hne, hunset]⟩
      (not_exhausts_of_le fun j => ?_)
    by_cases hj : j = i
    · exact Or.inl (by rw [hactive, hj, Function.update_self])
    · exact Or.inr (by rw [hactive, Function.update_of_ne hj])
  | set k hspare hflag hactive =>
    refine iff_of_true ?_ (not_exhausts_of_le fun i => Or.inr (by rw [hactive]))
    by_cases hk : k ∈ spare
    · obtain ⟨k', hk', hne, hflag'⟩ := hspare hcounted hk
      exact ⟨k', hk', by rw [hflag, Function.update_of_ne hne, hflag']⟩
    · have hne : k₀ ≠ k := fun heq => hk (heq ▸ hk₀)
      exact ⟨k₀, hk₀, by rw [hflag, Function.update_of_ne hne, hunset]⟩
  | unset k _ hflag hactive =>
    refine iff_of_true ⟨k₀, hk₀, ?_⟩ (not_exhausts_of_le fun i => Or.inr (by rw [hactive]))
    rw [hflag]
    by_cases hk : k₀ = k
    · rw [hk, Function.update_self]
    · rw [Function.update_of_ne hk, hunset]

end Step

end Overrides

end Relational
