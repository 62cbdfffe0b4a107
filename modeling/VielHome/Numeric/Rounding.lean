import Mathlib.Algebra.BigOperators.Ring.List
import Mathlib.Algebra.Order.BigOperators.Group.List
import Mathlib.Algebra.Order.Ring.Pow
import Mathlib.Algebra.Order.Round
import Mathlib.Data.Int.Log
import Mathlib.Data.Rat.Floor
import Mathlib.Tactic.FieldSimp
import Mathlib.Tactic.Linarith

/-!
# Rounded arithmetic

A computation with floating-point numbers rounds the result of each of its operations. What is
proved of it needs only that a rounded result is within a relative error of the exact one
(`RoundsWithin`): sums of amounts that are not negative, and the division of a total in proportion
to weights. As long as the errors of all operations together stay below one in the total, the shares
of the division, rounded down, leave between nothing and one for each weight
(`RoundsWithin.total_sub_floors`).

The rounding of doubles is to 53 binary digits, ties to even (`binary64`); their exponents are not
bounded here.
-/

namespace Numeric

/-! ### Relative errors -/

section

variable {K : Type*} [Field K] [LinearOrder K] [IsStrictOrderedRing K]

/-- Every result is rounded within the relative error `u`. -/
def RoundsWithin (u : K) (fl : K → K) : Prop := ∀ x, |fl x - x| ≤ u * |x|

/-- Exact arithmetic makes no error. -/
theorem roundsWithin_id : RoundsWithin 0 (id : K → K) := fun x => by
  rw [id, sub_self, abs_zero, zero_mul]

namespace RoundsWithin

variable {u : K} {fl : K → K} {x : K}

theorem le (h : RoundsWithin u fl) (hx : 0 ≤ x) : fl x ≤ (1 + u) * x := by
  have hle := (abs_le.mp (h x)).2
  rw [abs_of_nonneg hx] at hle
  linarith

theorem ge (h : RoundsWithin u fl) (hx : 0 ≤ x) : (1 - u) * x ≤ fl x := by
  have hge := (abs_le.mp (h x)).1
  rw [abs_of_nonneg hx] at hge
  linarith

theorem nonneg (h : RoundsWithin u fl) (hu : u ≤ 1) (hx : 0 ≤ x) : 0 ≤ fl x :=
  (mul_nonneg (sub_nonneg.mpr hu) hx).trans (h.ge hx)

end RoundsWithin

/-! ### Sums -/

/-- The sum from left to right, each partial sum rounded. -/
def roundedSum (fl : K → K) (l : List K) : K := l.foldl (fun sum x => fl (sum + x)) 0

namespace RoundsWithin

variable {u : K} {fl : K → K} {l : List K}

theorem foldl_nonneg (h : RoundsWithin u fl) (hu : u ≤ 1) (hl : ∀ x ∈ l, 0 ≤ x) {s : K}
    (hs : 0 ≤ s) : 0 ≤ l.foldl (fun sum x => fl (sum + x)) s := by
  induction l generalizing s with
  | nil => exact hs
  | cons x l ih =>
    exact ih (fun y hy => hl y (List.mem_cons_of_mem _ hy))
      (h.nonneg hu (add_nonneg hs (hl x List.mem_cons_self)))

theorem foldl_le (h : RoundsWithin u fl) (hu : 0 ≤ u) (hu1 : u ≤ 1) (hl : ∀ x ∈ l, 0 ≤ x) {s : K}
    (hs : 0 ≤ s) :
    l.foldl (fun sum x => fl (sum + x)) s ≤ (1 + u) ^ l.length * (s + l.sum) := by
  induction l generalizing s with
  | nil => simp
  | cons x l ih =>
    have hx := hl x List.mem_cons_self
    have hrest : ∀ y ∈ l, 0 ≤ y := fun y hy => hl y (List.mem_cons_of_mem _ hy)
    have hsum : 0 ≤ l.sum := List.sum_nonneg hrest
    have hfl := h.le (add_nonneg hs hx)
    have hstep : fl (s + x) + l.sum ≤ (1 + u) * (s + (x + l.sum)) := by
      have := mul_nonneg hu hsum
      linarith
    rw [List.foldl_cons, List.length_cons, List.sum_cons, pow_succ, mul_assoc]
    exact (ih hrest (h.nonneg hu1 (add_nonneg hs hx))).trans
      (mul_le_mul_of_nonneg_left hstep (pow_nonneg (by linarith) _))

theorem le_foldl (h : RoundsWithin u fl) (hu : 0 ≤ u) (hu1 : u ≤ 1) (hl : ∀ x ∈ l, 0 ≤ x) {s : K}
    (hs : 0 ≤ s) :
    (1 - u) ^ l.length * (s + l.sum) ≤ l.foldl (fun sum x => fl (sum + x)) s := by
  induction l generalizing s with
  | nil => simp
  | cons x l ih =>
    have hx := hl x List.mem_cons_self
    have hrest : ∀ y ∈ l, 0 ≤ y := fun y hy => hl y (List.mem_cons_of_mem _ hy)
    have hsum : 0 ≤ l.sum := List.sum_nonneg hrest
    have hfl := h.ge (add_nonneg hs hx)
    have hstep : (1 - u) * (s + (x + l.sum)) ≤ fl (s + x) + l.sum := by
      have := mul_nonneg hu hsum
      linarith
    rw [List.foldl_cons, List.length_cons, List.sum_cons, pow_succ, mul_assoc]
    exact (mul_le_mul_of_nonneg_left hstep (pow_nonneg (by linarith) _)).trans
      (ih hrest (h.nonneg hu1 (add_nonneg hs hx)))

theorem roundedSum_nonneg (h : RoundsWithin u fl) (hu : u ≤ 1) (hl : ∀ x ∈ l, 0 ≤ x) :
    0 ≤ roundedSum fl l := h.foldl_nonneg hu hl le_rfl

theorem roundedSum_le (h : RoundsWithin u fl) (hu : 0 ≤ u) (hu1 : u ≤ 1) (hl : ∀ x ∈ l, 0 ≤ x) :
    roundedSum fl l ≤ (1 + u) ^ l.length * l.sum := by
  simpa [roundedSum] using h.foldl_le hu hu1 hl le_rfl

theorem le_roundedSum (h : RoundsWithin u fl) (hu : 0 ≤ u) (hu1 : u ≤ 1) (hl : ∀ x ∈ l, 0 ≤ x) :
    (1 - u) ^ l.length * l.sum ≤ roundedSum fl l := by
  simpa [roundedSum] using h.le_foldl hu hu1 hl le_rfl

end RoundsWithin

omit [LinearOrder K] [IsStrictOrderedRing K] in
/-- Exact arithmetic sums exactly. -/
theorem roundedSum_id (l : List K) : roundedSum id l = l.sum := by
  rw [roundedSum, List.sum_eq_foldl]
  rfl

/-! ### Shares of a total -/

/-- The share of a total that belongs to a weight: the product and the quotient are rounded. -/
def roundedShare (fl : K → K) (total : K) (weights : List K) (weight : K) : K :=
  fl (fl (total * weight) / roundedSum fl weights)

omit [LinearOrder K] [IsStrictOrderedRing K] in
theorem roundedShare_id (total : K) (weights : List K) (weight : K) :
    roundedShare id total weights weight = total * weight / weights.sum := by
  rw [roundedShare, roundedSum_id]
  rfl

/-- The floors of a list of numbers are at most one each below them. -/
theorem sum_floors [FloorRing K] {ι : Type*} (l : List ι) (f : ι → K) :
    (((l.map fun i => ⌊f i⌋).sum : ℤ) : K) ≤ (l.map f).sum ∧
      (l.map f).sum ≤ ((l.map fun i => ⌊f i⌋).sum : ℤ) + l.length := by
  induction l with
  | nil => simp
  | cons i l ih =>
    have hle := Int.floor_le (f i)
    have hlt := Int.lt_floor_add_one (f i)
    simp only [List.map_cons, List.sum_cons, List.length_cons, Int.cast_add, Nat.cast_add,
      Nat.cast_one]
    constructor
    · linarith [ih.1]
    · linarith [ih.2]

namespace RoundsWithin

variable {u : K} {fl : K → K} {weights : List K} {total : K}

theorem roundedShare_nonneg (h : RoundsWithin u fl) (hu1 : u ≤ 1) (htotal : 0 ≤ total)
    (hweights : ∀ w ∈ weights, 0 ≤ w) {w : K} (hw : 0 ≤ w) :
    0 ≤ roundedShare fl total weights w :=
  h.nonneg hu1 (div_nonneg (h.nonneg hu1 (mul_nonneg htotal hw))
    (h.roundedSum_nonneg hu1 hweights))

/-- A share is within two roundings of the quotient by the rounded sum. -/
theorem roundedShare_bounds (h : RoundsWithin u fl) (hu : 0 ≤ u) (hu1 : u ≤ 1)
    (htotal : 0 ≤ total) (hweights : ∀ w ∈ weights, 0 ≤ w) {w : K} (hw : 0 ≤ w) :
    (1 - u) ^ 2 * total / roundedSum fl weights * w ≤ roundedShare fl total weights w ∧
      roundedShare fl total weights w ≤ (1 + u) ^ 2 * total / roundedSum fl weights * w := by
  have hproduct := mul_nonneg htotal hw
  have hsum := h.roundedSum_nonneg hu1 hweights
  have hquotient := div_nonneg (h.nonneg hu1 hproduct) hsum
  constructor
  · calc (1 - u) ^ 2 * total / roundedSum fl weights * w
        = (1 - u) * ((1 - u) * (total * w) / roundedSum fl weights) := by ring
      _ ≤ (1 - u) * (fl (total * w) / roundedSum fl weights) :=
          mul_le_mul_of_nonneg_left (div_le_div_of_nonneg_right (h.ge hproduct) hsum)
            (sub_nonneg.mpr hu1)
      _ ≤ roundedShare fl total weights w := h.ge hquotient
  · calc roundedShare fl total weights w
        ≤ (1 + u) * (fl (total * w) / roundedSum fl weights) := h.le hquotient
      _ ≤ (1 + u) * ((1 + u) * (total * w) / roundedSum fl weights) :=
          mul_le_mul_of_nonneg_left (div_le_div_of_nonneg_right (h.le hproduct) hsum)
            (by linarith)
      _ = (1 + u) ^ 2 * total / roundedSum fl weights * w := by ring

theorem sum_roundedShare_bounds (h : RoundsWithin u fl) (hu : 0 ≤ u) (hu1 : u ≤ 1)
    (htotal : 0 ≤ total) (hweights : ∀ w ∈ weights, 0 ≤ w) :
    (1 - u) ^ 2 * total / roundedSum fl weights * weights.sum ≤
        (weights.map (roundedShare fl total weights)).sum ∧
      (weights.map (roundedShare fl total weights)).sum ≤
        (1 + u) ^ 2 * total / roundedSum fl weights * weights.sum := by
  have hbounds : ∀ w ∈ weights, _ ∧ _ := fun w hw =>
    h.roundedShare_bounds hu hu1 htotal hweights (hweights w hw)
  have hfactor : ∀ c : K, c * weights.sum = (weights.map fun w => c * w).sum := fun c => by
    rw [List.sum_map_mul_left, List.map_id']
  rw [hfactor, hfactor]
  exact ⟨List.sum_le_sum fun w hw => (hbounds w hw).1, List.sum_le_sum fun w hw => (hbounds w hw).2⟩

/-- The errors of the division of `total` among `n` are below one in the total. -/
theorem errors_lt_one (hu : 0 < u) (hu1 : u ≤ 1) (htotal : 1 ≤ total) {n : ℕ}
    (hsmall : (n + 3) * (total + 1) * u ≤ 1) :
    (1 + u) ^ 2 * total < (total + 1) * (1 - u) ^ n ∧
      (total - 1) * (1 + u) ^ n < (1 - u) ^ 2 * total := by
  have hn : (0 : K) ≤ n := Nat.cast_nonneg n
  have hnu : 0 ≤ n * u := mul_nonneg hn hu.le
  have hbernoulli : ∀ m : ℕ, 1 - m * u ≤ (1 - u) ^ m := fun m => by
    have h := one_add_mul_le_pow (a := -u) (by linarith) m
    rwa [mul_neg, ← sub_eq_add_neg, ← sub_eq_add_neg] at h
  have hsquare : (1 + u) ^ 2 ≤ 1 + 3 * u := by nlinarith
  constructor
  · calc (1 + u) ^ 2 * total
        ≤ (1 + 3 * u) * total := mul_le_mul_of_nonneg_right hsquare (by linarith)
      _ < (total + 1) * (1 - n * u) := by nlinarith
      _ ≤ (total + 1) * (1 - u) ^ n := mul_le_mul_of_nonneg_left (hbernoulli n) (by linarith)
  · have hone : 0 < (1 - u) ^ n := by
      refine pow_pos ?_ n
      nlinarith
    -- both sides are compared behind the factor of the sum from below
    have hcancel : (1 + u) ^ n * (1 - u) ^ n ≤ 1 := by
      rw [← mul_pow]
      exact pow_le_one₀ (by nlinarith) (by nlinarith)
    have hpow := hbernoulli (2 + n)
    push_cast at hpow
    refine lt_of_mul_lt_mul_right ?_ hone.le
    calc (total - 1) * (1 + u) ^ n * (1 - u) ^ n
        = (total - 1) * ((1 + u) ^ n * (1 - u) ^ n) := by ring
      _ ≤ (total - 1) * 1 := mul_le_mul_of_nonneg_left hcancel (by linarith)
      _ < total * (1 - (2 + n) * u) := by nlinarith
      _ ≤ total * (1 - u) ^ (2 + n) := mul_le_mul_of_nonneg_left hpow (by linarith)
      _ = (1 - u) ^ 2 * total * (1 - u) ^ n := by ring

/-- The shares of a total, rounded down, leave between nothing and one for each weight. -/
theorem total_sub_floors [FloorRing K] (h : RoundsWithin u fl) (hu : 0 < u) (hu1 : u ≤ 1)
    {total : ℤ} (htotal : 0 < total) (hweights : ∀ w ∈ weights, 0 < w) (hne : weights ≠ [])
    (hsmall : ((weights.length : K) + 3) * (total + 1) * u ≤ 1) :
    0 ≤ total - (weights.map fun w => ⌊roundedShare fl (total : K) weights w⌋).sum ∧
      total - (weights.map fun w => ⌊roundedShare fl (total : K) weights w⌋).sum ≤
        weights.length := by
  have hone : (1 : K) ≤ total := by exact_mod_cast htotal
  have hnonneg : ∀ w ∈ weights, 0 ≤ w := fun w hw => (hweights w hw).le
  have hsum : 0 < weights.sum := List.sum_pos _ hweights hne
  obtain ⟨hupper, hlower⟩ := errors_lt_one hu hu1 hone hsmall
  have hrounded := h.le_roundedSum hu.le hu1 hnonneg
  have hpow : 0 < (1 - u) ^ weights.length := by
    by_contra hnot
    have : (1 + u) ^ 2 * (total : K) < 0 := hupper.trans_le
      (mul_nonpos_of_nonneg_of_nonpos (by linarith) (not_lt.mp hnot))
    exact absurd this (not_lt.mpr (mul_nonneg (sq_nonneg _) (by linarith)))
  have hpos : 0 < roundedSum fl weights := (mul_pos hpow hsum).trans_le hrounded
  obtain ⟨hge, hle⟩ := h.sum_roundedShare_bounds hu.le hu1 (by linarith : (0 : K) ≤ total) hnonneg
  -- the sum of the shares is less than one away from the total
  have hbelow : (weights.map (roundedShare fl (total : K) weights)).sum < total + 1 := by
    refine hle.trans_lt ?_
    rw [div_mul_eq_mul_div, div_lt_iff₀ hpos]
    calc (1 + u) ^ 2 * total * weights.sum
        < (total + 1) * (1 - u) ^ weights.length * weights.sum := mul_lt_mul_of_pos_right hupper hsum
      _ = (total + 1) * ((1 - u) ^ weights.length * weights.sum) := by ring
      _ ≤ (total + 1) * roundedSum fl weights :=
          mul_le_mul_of_nonneg_left hrounded (by linarith)
  have habove : (total : K) - 1 < (weights.map (roundedShare fl (total : K) weights)).sum := by
    refine lt_of_lt_of_le ?_ hge
    rw [div_mul_eq_mul_div, lt_div_iff₀ hpos]
    calc ((total : K) - 1) * roundedSum fl weights
        ≤ (total - 1) * ((1 + u) ^ weights.length * weights.sum) :=
          mul_le_mul_of_nonneg_left (h.roundedSum_le hu.le hu1 hnonneg) (by linarith)
      _ = (total - 1) * (1 + u) ^ weights.length * weights.sum := by ring
      _ < (1 - u) ^ 2 * total * weights.sum := mul_lt_mul_of_pos_right hlower hsum
  obtain ⟨hfloor, hceil⟩ := sum_floors weights (roundedShare fl (total : K) weights)
  constructor
  · have : (((weights.map fun w => ⌊roundedShare fl (total : K) weights w⌋).sum : ℤ) : K) <
        ((total + 1 : ℤ) : K) := by
      rw [Int.cast_add, Int.cast_one]
      exact hfloor.trans_lt hbelow
    have := Int.cast_lt.mp this
    omega
  · have : ((total - 1 : ℤ) : K) <
        (((weights.map fun w => ⌊roundedShare fl (total : K) weights w⌋).sum +
          weights.length : ℤ) : K) := by
      rw [Int.cast_sub, Int.cast_one, Int.cast_add, Int.cast_natCast]
      exact habove.trans_le hceil
    have := Int.cast_lt.mp this
    omega

end RoundsWithin

end

/-! ### Doubles -/

/-- The nearest integer, and the even one of two. -/
def roundHalfEven (x : ℚ) : ℤ :=
  if Int.fract x = 1 / 2 then (if Even ⌊x⌋ then ⌊x⌋ else ⌊x⌋ + 1) else round x

theorem abs_roundHalfEven_sub_le (x : ℚ) : |(roundHalfEven x : ℚ) - x| ≤ 1 / 2 := by
  unfold roundHalfEven
  have hfract := Int.floor_add_fract x
  split
  case isTrue hhalf =>
    rw [hhalf] at hfract
    split
    · rw [abs_le]
      constructor <;> linarith
    · push_cast
      rw [abs_le]
      constructor <;> linarith
  case isFalse =>
    rw [abs_sub_comm]
    exact abs_sub_round x

/-- The distance of the doubles around a number. -/
def ulp (x : ℚ) : ℚ := 2 ^ (Int.log 2 |x| - 52)

/-- A number, rounded to 53 binary digits. -/
def binary64 (x : ℚ) : ℚ := roundHalfEven (x / ulp x) * ulp x

/-- The rounding of doubles is within half a unit of the last of 53 digits. -/
theorem binary64_roundsWithin : RoundsWithin (1 / 2 ^ 53) binary64 := by
  intro x
  rcases eq_or_ne x 0 with rfl | hx
  · simp [binary64, roundHalfEven]
  have hulp : 0 < ulp x := zpow_pos (by norm_num) _
  have hlog : ulp x ≤ |x| / 2 ^ 52 := by
    have hle := Int.zpow_log_le_self (b := 2) (by norm_num) (abs_pos.mpr hx)
    rw [ulp, zpow_sub₀ (by norm_num)]
    exact div_le_div_of_nonneg_right (by exact_mod_cast hle) (by norm_num)
  have hsplit : binary64 x - x = (roundHalfEven (x / ulp x) - x / ulp x) * ulp x := by
    rw [binary64, sub_mul, div_mul_cancel₀ _ hulp.ne']
  rw [hsplit, abs_mul, abs_of_pos hulp]
  calc |(roundHalfEven (x / ulp x) : ℚ) - x / ulp x| * ulp x
      ≤ 1 / 2 * (|x| / 2 ^ 52) :=
        mul_le_mul (abs_roundHalfEven_sub_le _) hlog hulp.le (by norm_num)
    _ = 1 / 2 ^ 53 * |x| := by ring

end Numeric
