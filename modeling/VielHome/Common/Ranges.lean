import Mathlib.Data.Int.Notation
import Mathlib.Tactic.Common

/-!
# Ranges

Numbers of the model are unbounded. Here is what an `INTEGER` column and a `Date` hold, for the places
where a number outside makes a difference: the database and its client refuse it, and a comparison
with an invalid date is false.
-/

namespace VielHome

/-- What an `INTEGER` column holds. -/
def FitsInteger (n : ℤ) : Prop := -2147483648 ≤ n ∧ n ≤ 2147483647

instance : DecidablePred FitsInteger := fun n =>
  inferInstanceAs (Decidable (-2147483648 ≤ n ∧ n ≤ 2147483647))

/-- One hundred million days, the most that a `Date` is from the epoch, in milliseconds. -/
def MAX_TIME : ℤ := 8640000000000000

/-- There is a `Date` with this time; otherwise it is invalid. -/
def IsDate (time : ℤ) : Prop := -MAX_TIME ≤ time ∧ time ≤ MAX_TIME

instance : DecidablePred IsDate := fun time =>
  inferInstanceAs (Decidable (-MAX_TIME ≤ time ∧ time ≤ MAX_TIME))

end VielHome
