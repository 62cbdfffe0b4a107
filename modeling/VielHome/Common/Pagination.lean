import Mathlib.Algebra.Order.Floor.Div
import Mathlib.Algebra.Order.Ring.Unbundled.Rat
import Mathlib.Data.Rat.Lemmas

/-!
# Pagination

`parsePagination` reads the page and the limit of a list request from what `Number` makes of them:
a number, or nothing where the text is none. Whatever cannot be a page is the first one, and
whatever cannot be a limit is the default.
-/

namespace VielHome

/-- How many rows a page has when nothing is said. -/
def DEFAULT_PAGE_LIMIT : ℕ := 20

/-- How many rows a page has at most. -/
def MAX_PAGE_LIMIT : ℕ := 100

/-- The page that is asked for, counted from `1`. -/
structure PaginationParams where
  page : ℕ
  limit : ℕ
  deriving DecidableEq

/-- What a page says of itself. -/
structure PaginationMeta extends PaginationParams where
  total : ℕ
  totalPages : ℕ
  deriving DecidableEq

/-- An integer from one on. -/
def positiveInteger (parsed : Option ℚ) : Option ℕ :=
  parsed.bind fun q => if q.isInt ∧ 1 ≤ q then some q.num.toNat else none

/-- `parsePagination`: what is no positive integer counts as not said. -/
def parsePagination (rawPage rawLimit : Option ℚ) : PaginationParams where
  page := (positiveInteger rawPage).getD 1
  limit := ((positiveInteger rawLimit).map (min · MAX_PAGE_LIMIT)).getD DEFAULT_PAGE_LIMIT

/-- What is skipped before a page, and what is taken for it. -/
def toSkipTake (pagination : PaginationParams) : ℕ × ℕ :=
  ((pagination.page - 1) * pagination.limit, pagination.limit)

/-- `buildPaginationMeta`: there is always one page. -/
def buildPaginationMeta (pagination : PaginationParams) (total : ℕ) : PaginationMeta :=
  { pagination with total, totalPages := max 1 (total ⌈/⌉ pagination.limit) }

theorem positiveInteger_natCast {n : ℕ} (h : 1 ≤ n) : positiveInteger (some n) = some n := by
  have hcast : (1 : ℚ) ≤ n := by exact_mod_cast h
  simp [positiveInteger, hcast, Rat.isInt]

theorem one_le_of_positiveInteger {parsed : Option ℚ} {n : ℕ} (h : positiveInteger parsed = some n) :
    1 ≤ n := by
  cases parsed with
  | none => cases h
  | some q =>
    rw [positiveInteger, Option.bind_some] at h
    split at h
    · rename_i hq
      obtain rfl := Option.some.inj h
      have hnum : 1 ≤ q.num := by
        have hpos : 0 < q.num := Rat.num_pos.mpr (lt_of_lt_of_le one_pos hq.2)
        omega
      omega
    · cases h

/-- A limit is always positive. -/
theorem limit_parsePagination_pos (rawPage rawLimit : Option ℚ) :
    0 < (parsePagination rawPage rawLimit).limit := by
  rw [parsePagination]
  cases h : positiveInteger rawLimit with
  | none => exact Nat.succ_pos 19
  | some n => exact lt_min (one_le_of_positiveInteger h) (Nat.succ_pos 99)

/-- The pages of the meta data hold everything. -/
theorem total_le_totalPages_mul (pagination : PaginationParams) (h : 0 < pagination.limit)
    (total : ℕ) : total ≤ (buildPaginationMeta pagination total).totalPages * pagination.limit := by
  have hceil : total ≤ pagination.limit • (total ⌈/⌉ pagination.limit) :=
    le_smul_ceilDiv h
  calc total ≤ (total ⌈/⌉ pagination.limit) * pagination.limit := by
        rwa [smul_eq_mul, Nat.mul_comm] at hceil
    _ ≤ max 1 (total ⌈/⌉ pagination.limit) * pagination.limit :=
        Nat.mul_le_mul_right _ (le_max_right _ _)

end VielHome
