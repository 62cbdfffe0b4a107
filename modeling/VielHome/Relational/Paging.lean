import Mathlib.Data.List.Basic
import Mathlib.Data.List.Induction
import Mathlib.Logic.Function.Basic
import Mathlib.Tactic.Ring

/-!
# Pages, and rows by key

A list that is read a page at a time comes back whole, since the pages up to some number are a
prefix of it (`flatMap_page`). Rows that were fetched for many keys at once are distributed over
maps with a fold: `groupBy` collects the rows of a key, and `lastBy` keeps the last one.
-/

namespace Relational

universe u v w

variable {α : Type u} {κ : Type v} {β : Type w}

/-! ### Pages -/

/-- The part of a list that is left after some elements were skipped, up to a length. -/
def page (skip take : ℕ) (l : List α) : List α := (l.drop skip).take take

/-- The first pages of a list, one after the other, are its beginning. -/
theorem flatMap_page (limit n : ℕ) (l : List α) :
    (List.range n).flatMap (fun i => page (i * limit) limit l) = l.take (n * limit) := by
  induction n with
  | zero => simp
  | succ n ih =>
    have hlength : (n + 1) * limit = n * limit + limit := by ring
    rw [List.range_succ, List.flatMap_append, ih, hlength, List.take_add]
    simp [page]

/-! ### Rows by key -/

section Maps

variable [DecidableEq κ]

/-- The rows of each key, in their order; a key without rows has no entry. -/
def groupBy (key : α → κ) (rows : List α) : κ → Option (List α) :=
  rows.foldl (fun grouped row =>
    Function.update grouped (key row) (some ((grouped (key row)).getD [] ++ [row]))) fun _ => none

/-- The value of the last row of each key. -/
def lastBy (key : α → κ) (value : α → β) (rows : List α) : κ → Option β :=
  rows.foldl (fun m row => Function.update m (key row) (some (value row))) fun _ => none

variable {key : α → κ} {value : α → β}

/-- What a map has under a key are the rows with the key. -/
theorem getD_groupBy (rows : List α) (k : κ) :
    (groupBy key rows k).getD [] = rows.filter fun row => key row = k := by
  induction rows using List.reverseRecOn with
  | nil => rfl
  | append_singleton rows row ih =>
    rw [groupBy, List.foldl_append, List.filter_append]
    change (Function.update (groupBy key rows) (key row)
      (some ((groupBy key rows (key row)).getD [] ++ [row])) k).getD [] = _
    by_cases hk : key row = k
    · subst hk
      rw [Function.update_self, Option.getD_some, ih]
      simp
    · rw [Function.update_of_ne (Ne.symm hk), ih]
      simp [hk]

/-- Where a key has one row only, this is the row that is found. -/
theorem lastBy_eq (rows : List α) (k : κ)
    (hunique : ∀ r ∈ rows, ∀ r' ∈ rows, key r = k → key r' = k → r = r') :
    lastBy key value rows k = (rows.find? fun row => key row = k).map value := by
  induction rows using List.reverseRecOn with
  | nil => rfl
  | append_singleton rows row ih =>
    have hih := ih fun r hr r' hr' =>
      hunique r (List.mem_append_left _ hr) r' (List.mem_append_left _ hr')
    rw [lastBy, List.foldl_append, List.find?_append]
    change Function.update (lastBy key value rows) (key row) (some (value row)) k = _
    by_cases hk : key row = k
    · subst hk
      rw [Function.update_self]
      cases hfound : rows.find? fun r => key r = key row with
      | none => simp
      | some r =>
        have hr : r ∈ rows := List.mem_of_find?_eq_some hfound
        have hkey : key r = key row := by simpa using List.find?_some hfound
        have heq : row = r := hunique row (by simp) r (List.mem_append_left _ hr) rfl hkey
        rw [heq]
        rfl
    · rw [Function.update_of_ne (Ne.symm hk), hih]
      simp [hk]

/-- The rows of one key among those of many keys are its own rows. -/
theorem filter_filter_mem {keys : List κ} {k : κ} (hk : k ∈ keys) (p : α → Prop) [DecidablePred p]
    (rows : List α) :
    (rows.filter fun row => key row ∈ keys ∧ p row).filter (fun row => key row = k) =
      rows.filter fun row => key row = k ∧ p row := by
  rw [List.filter_filter]
  refine List.filter_congr fun row _ => ?_
  by_cases hrow : key row = k
  · simp [hrow, hk]
  · simp [hrow]

/-- The row of a key is found among the rows of many keys as among all of them. -/
theorem find?_filter_mem {keys : List κ} {k : κ} (hk : k ∈ keys) (rows : List α) :
    (rows.filter fun row => key row ∈ keys).find? (fun row => key row = k) =
      rows.find? fun row => key row = k := by
  rw [List.find?_filter]
  congr 1
  funext row
  by_cases hrow : key row = k
  · simp [hrow, hk]
  · simp [hrow]

end Maps

end Relational
