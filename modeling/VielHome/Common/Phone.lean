import VielHome.Common.Text
import Mathlib.Data.List.Basic
import Mathlib.Tactic.Common

/-!
# Phone numbers

A mobile number is stored in one form, the country code and ten digits of which the first is a
nine. `normalizeIranianMobilePhone` reads four forms in three scripts of digits, with white space
and hyphens anywhere.
-/

namespace VielHome.Phone

/-! ### What the function computes -/

/-- The digits as they are written in Persian. -/
def PERSIAN_DIGITS : List Char := ['۰', '۱', '۲', '۳', '۴', '۵', '۶', '۷', '۸', '۹']

/-- The digits as they are written in Arabic. -/
def ARABIC_INDIC_DIGITS : List Char := ['٠', '١', '٢', '٣', '٤', '٥', '٦', '٧', '٨', '٩']

/-- A digit of either kind is the ASCII one. -/
def toAsciiDigit (ch : Char) : Char :=
  match PERSIAN_DIGITS.idxOf? ch with
  | some persianIndex => Nat.digitChar persianIndex
  | none =>
    match ARABIC_INDIC_DIGITS.idxOf? ch with
    | some arabicIndex => Nat.digitChar arabicIndex
    | none => ch

/-- `toAsciiDigits`. -/
def toAsciiDigits (input : String) : String := String.ofList (input.toList.map toAsciiDigit)

/-- White space, as a regular expression has it, and the hyphen. -/
def isSeparator (ch : Char) : Bool := isTrimmed ch ∨ ch = '-'

/-- The text is `lead` followed by nine digits. -/
def isForm (lead : List Char) (value : List Char) : Bool :=
  lead.isPrefixOf value ∧ (value.drop lead.length).length = 9 ∧
    (value.drop lead.length).all Char.isDigit

/-- The form with `+98`. -/
def PLUS_FORM : List Char → Bool := isForm ['+', '9', '8', '9']

/-- The form with `98`. -/
def BARE_COUNTRY_FORM : List Char → Bool := isForm ['9', '8', '9']

/-- The form with `0`. -/
def LOCAL_FORM : List Char → Bool := isForm ['0', '9']

/-- The form with nothing in front. -/
def SHORT_FORM : List Char → Bool := isForm ['9']

/-- `normalizeIranianMobilePhone`: each form of a number is written with `+98`. -/
def normalizeIranianMobilePhone (input : String) : Option String :=
  let value := (trim (toAsciiDigits input)).toList.filter fun ch => ¬ isSeparator ch
  if PLUS_FORM value then some (String.ofList value)
  else if BARE_COUNTRY_FORM value then some (String.ofList ('+' :: value))
  else if LOCAL_FORM value then some (String.ofList ('+' :: '9' :: '8' :: value.drop 1))
  else if SHORT_FORM value then some (String.ofList ('+' :: '9' :: '8' :: value))
  else none

/-! ### What it is for -/

/-- The characters of a text that say which number it is: its digits in one script, and everything
else but white space and hyphens. -/
def spelled (s : String) : List Char :=
  (s.toList.map toAsciiDigit).filter fun ch => ¬ isSeparator ch

/-- Ten digits, of which the first is a nine. -/
structure MobileNumber where
  rest : List Char
  length_rest : rest.length = 9
  isDigit : ∀ ch ∈ rest, ch.isDigit = true

namespace MobileNumber

/-- The ten digits of a number. -/
def digits (n : MobileNumber) : List Char := '9' :: n.rest

/-- The form in which a number is stored. -/
def canonical (n : MobileNumber) : String := String.ofList (['+', '9', '8'] ++ n.digits)

/-- The number is spelled with the country code, with the trunk zero, or on its own. -/
def SpelledBy (n : MobileNumber) (value : List Char) : Prop :=
  ∃ lead ∈ [['+', '9', '8'], ['9', '8'], ['0'], []], value = lead ++ n.digits

/-- The number is the last ten characters of what spells it. -/
theorem digits_eq_drop {n : MobileNumber} {value : List Char} (h : n.SpelledBy value) :
    n.digits = value.drop (value.length - 10) := by
  obtain ⟨lead, -, rfl⟩ := h
  have hlength : (lead ++ n.digits).length - 10 = lead.length := by
    simp [digits, n.length_rest]
  rw [hlength, List.drop_left]

theorem ext_digits {n n' : MobileNumber} (h : n.digits = n'.digits) : n = n' := by
  cases n
  cases n'
  simpa [digits] using h

theorem canonical_inj {n n' : MobileNumber} : n.canonical = n'.canonical ↔ n.digits = n'.digits := by
  rw [canonical, canonical, String.ofList_inj, List.append_cancel_left_eq]

/-- A text spells at most one number. -/
theorem SpelledBy.unique {n n' : MobileNumber} {value : List Char} (h : n.SpelledBy value)
    (h' : n'.SpelledBy value) : n = n' :=
  ext_digits ((digits_eq_drop h).trans (digits_eq_drop h').symm)

end MobileNumber

/-! ### What is deleted -/

/-- Dropping characters from the front that a filter takes out anyway. -/
private theorem filter_dropWhile {p q : Char → Bool} (h : ∀ ch, q ch = true → p ch = false)
    (l : List Char) : (l.dropWhile q).filter p = l.filter p := by
  induction l with
  | nil => rfl
  | cons ch l ih =>
    rw [List.dropWhile_cons]
    split
    case isTrue hq => rw [ih, List.filter_cons_of_neg (by simp [h ch hq])]
    case isFalse => rfl

/-- Trimming a text takes nothing off that is not deleted afterwards. -/
theorem filter_trim (s : String) :
    (trim s).toList.filter (fun ch => ¬ isSeparator ch) = s.toList.filter fun ch => ¬ isSeparator ch := by
  have hdeleted : ∀ ch, isTrimmed ch = true → decide (¬ isSeparator ch) = false := by
    intro ch hch
    simp [isSeparator, hch]
  rw [trim, String.toList_ofList, List.rdropWhile, List.filter_reverse, filter_dropWhile hdeleted,
    List.filter_reverse, List.reverse_reverse, filter_dropWhile hdeleted]

theorem value_eq_spelled (s : String) :
    (trim (toAsciiDigits s)).toList.filter (fun ch => ¬ isSeparator ch) = spelled s := by
  rw [filter_trim, toAsciiDigits, String.toList_ofList, spelled]

/-! ### The four forms -/

theorem isForm_iff {lead value : List Char} :
    isForm lead value = true ↔
      ∃ rest : List Char, rest.length = 9 ∧ (∀ ch ∈ rest, ch.isDigit = true) ∧ value = lead ++ rest := by
  rw [isForm, decide_eq_true_iff, List.isPrefixOf_iff_prefix, List.all_eq_true]
  constructor
  · rintro ⟨⟨rest, rfl⟩, hlength, hdigit⟩
    rw [List.drop_left] at hlength hdigit
    exact ⟨rest, hlength, hdigit, rfl⟩
  · rintro ⟨rest, hlength, hdigit, rfl⟩
    rw [List.drop_left]
    exact ⟨List.prefix_append _ _, hlength, hdigit⟩

/-- A form is a lead followed by a number. -/
theorem isForm_iff_number (lead : List Char) {value : List Char} :
    isForm (lead ++ ['9']) value = true ↔ ∃ n : MobileNumber, value = lead ++ n.digits := by
  rw [isForm_iff]
  constructor
  · rintro ⟨rest, hlength, hdigit, rfl⟩
    exact ⟨⟨rest, hlength, hdigit⟩, by simp [MobileNumber.digits]⟩
  · rintro ⟨n, rfl⟩
    exact ⟨n.rest, n.length_rest, n.isDigit, by simp [MobileNumber.digits]⟩

/-- What the function returns is the number that the text spells. -/
theorem spelledBy_of_normalize {s r : String} (h : normalizeIranianMobilePhone s = some r) :
    ∃ n : MobileNumber, n.SpelledBy (spelled s) ∧ r = n.canonical := by
  rw [normalizeIranianMobilePhone, value_eq_spelled] at h
  split at h
  case isTrue hform =>
    obtain ⟨n, hn⟩ := (isForm_iff_number ['+', '9', '8']).mp hform
    refine ⟨n, ⟨_, by simp, hn⟩, ?_⟩
    rw [← Option.some.inj h, hn]
    rfl
  case isFalse =>
    split at h
    case isTrue hform =>
      obtain ⟨n, hn⟩ := (isForm_iff_number ['9', '8']).mp hform
      refine ⟨n, ⟨_, by simp, hn⟩, ?_⟩
      rw [← Option.some.inj h, hn]
      rfl
    case isFalse =>
      split at h
      case isTrue hform =>
        obtain ⟨n, hn⟩ := (isForm_iff_number ['0']).mp hform
        refine ⟨n, ⟨_, by simp, hn⟩, ?_⟩
        rw [← Option.some.inj h, hn]
        rfl
      case isFalse =>
        split at h
        case isTrue hform =>
          obtain ⟨n, hn⟩ := (isForm_iff_number []).mp hform
          refine ⟨n, ⟨_, by simp, hn⟩, ?_⟩
          rw [← Option.some.inj h, hn]
          rfl
        case isFalse => exact nomatch h

/-- A text that spells a number is of one of the forms. -/
theorem normalize_ne_none {s : String} {n : MobileNumber} (h : n.SpelledBy (spelled s)) :
    normalizeIranianMobilePhone s ≠ none := by
  obtain ⟨lead, hlead, hvalue⟩ := h
  rw [normalizeIranianMobilePhone, value_eq_spelled]
  intro hnone
  have hform : ∀ form, isForm (lead ++ ['9']) = form → form (spelled s) = true := by
    rintro _ rfl
    exact (isForm_iff_number lead).mpr ⟨n, hvalue⟩
  simp only [List.mem_cons, List.not_mem_nil, or_false] at hlead
  rcases hlead with rfl | rfl | rfl | rfl
  · rw [if_pos (hform PLUS_FORM rfl)] at hnone
    exact nomatch hnone
  · rw [if_pos (hform BARE_COUNTRY_FORM rfl)] at hnone
    split at hnone <;> exact nomatch hnone
  · rw [if_pos (hform LOCAL_FORM rfl)] at hnone
    split at hnone <;> [skip; split at hnone] <;> exact nomatch hnone
  · rw [if_pos (hform SHORT_FORM rfl)] at hnone
    split at hnone <;> [skip; (split at hnone <;> [skip; split at hnone])] <;> exact nomatch hnone

/-- The function knows the number that a text spells, and no other text. -/
theorem normalizeIranianMobilePhone_eq_some_iff {s r : String} :
    normalizeIranianMobilePhone s = some r ↔
      ∃ n : MobileNumber, n.SpelledBy (spelled s) ∧ r = n.canonical := by
  refine ⟨spelledBy_of_normalize, ?_⟩
  rintro ⟨n, hn, rfl⟩
  obtain ⟨r, hr⟩ := Option.ne_none_iff_exists'.mp (normalize_ne_none hn)
  obtain ⟨n', hn', rfl⟩ := spelledBy_of_normalize hr
  rw [hr, hn.unique hn']

/-! ### Reading a number again -/

/-- A character that is neither converted nor deleted. -/
def Kept (ch : Char) : Prop := toAsciiDigit ch = ch ∧ isSeparator ch = false

theorem toAsciiDigit_of_lt {ch : Char} (h : ch.toNat < 128) : toAsciiDigit ch = ch := by
  have hpersian : (PERSIAN_DIGITS.all fun d => decide (128 ≤ d.toNat)) = true := by decide
  have harabic : (ARABIC_INDIC_DIGITS.all fun d => decide (128 ≤ d.toNat)) = true := by decide
  have hnone : ∀ ds : List Char,
      (ds.all fun d => decide (128 ≤ d.toNat)) = true → ds.idxOf? ch = none := by
    intro ds hds
    refine List.idxOf?_eq_none_iff.mpr fun hch => ?_
    have : 128 ≤ ch.toNat := of_decide_eq_true (List.all_eq_true.mp hds ch hch)
    omega
  rw [toAsciiDigit, hnone _ hpersian, hnone _ harabic]

theorem kept_of_isDigit {ch : Char} (h : ch.isDigit = true) : Kept ch := by
  have hrange : 48 ≤ ch.toNat ∧ ch.toNat ≤ 57 := by
    rw [Char.isDigit, Bool.and_eq_true, decide_eq_true_iff, decide_eq_true_iff] at h
    exact h
  refine ⟨toAsciiDigit_of_lt (by omega), ?_⟩
  have hhyphen : ch ≠ '-' := by
    rintro rfl
    exact absurd h (by decide)
  simp only [isSeparator, isTrimmed, List.mem_cons, List.not_mem_nil, or_false, hhyphen]
  simp only [decide_eq_false_iff_not, decide_eq_true_iff, not_or]
  omega

theorem spelled_of_kept {l : List Char} (h : ∀ ch ∈ l, Kept ch) :
    spelled (String.ofList l) = l := by
  have hmap : l.map toAsciiDigit = l := by
    rw [List.map_congr_left fun ch hch => (h ch hch).1, List.map_id']
  rw [spelled, String.toList_ofList, hmap, List.filter_eq_self]
  intro ch hch
  simp [(h ch hch).2]

/-- A stored number spells itself. -/
theorem MobileNumber.spelled_canonical (n : MobileNumber) :
    spelled n.canonical = ['+', '9', '8'] ++ n.digits := by
  refine spelled_of_kept fun ch hch => ?_
  simp only [digits, List.mem_append, List.mem_cons, List.not_mem_nil, or_false] at hch
  rcases hch with (rfl | rfl | rfl) | rfl | hch
  · exact ⟨toAsciiDigit_of_lt (by decide), by decide⟩
  · exact kept_of_isDigit (by decide)
  · exact kept_of_isDigit (by decide)
  · exact kept_of_isDigit (by decide)
  · exact kept_of_isDigit (n.isDigit ch hch)

/-! ### The grammar -/

/-- Of the characters that are left of a text, `+98`, `98`, `0` or nothing, a nine, and nine
digits. -/
def Accepts (value : List Char) : Prop :=
  ∃ lead ∈ [['+', '9', '8'], ['9', '8'], ['0'], []], ∃ rest : List Char, rest.length = 9 ∧
    (∀ ch ∈ rest, ch.isDigit = true) ∧ value = lead ++ '9' :: rest

theorem accepts_iff {value : List Char} : Accepts value ↔ ∃ n : MobileNumber, n.SpelledBy value := by
  constructor
  · rintro ⟨lead, hlead, rest, hlength, hdigit, hvalue⟩
    exact ⟨⟨rest, hlength, hdigit⟩, lead, hlead, hvalue⟩
  · rintro ⟨n, lead, hlead, hvalue⟩
    exact ⟨lead, hlead, n.rest, n.length_rest, n.isDigit, hvalue⟩

/-- The last ten of the characters that are left of a text. -/
def lastTen (s : String) : List Char := (spelled s).drop ((spelled s).length - 10)

/-- The function accepts exactly the texts of the grammar, and returns the country code with their
last ten digits. So it returns a stored number as it is, and the same for two texts when they end
in the same ten digits. -/
theorem normalizeIranianMobilePhone_canonical (s s' : String) :
    ((normalizeIranianMobilePhone s).isSome = true ↔ Accepts (spelled s)) ∧
    (∀ r ∈ normalizeIranianMobilePhone s, r = String.ofList (['+', '9', '8'] ++ lastTen s)) ∧
    (normalizeIranianMobilePhone s).bind normalizeIranianMobilePhone =
      normalizeIranianMobilePhone s ∧
    ∀ r ∈ normalizeIranianMobilePhone s, ∀ r' ∈ normalizeIranianMobilePhone s',
      r = r' ↔ lastTen s = lastTen s' := by
  refine ⟨?_, fun r hr => ?_, ?_, fun r hr r' hr' => ?_⟩
  · rw [Option.isSome_iff_exists, accepts_iff]
    constructor
    · rintro ⟨r, hr⟩
      obtain ⟨n, hn, -⟩ := normalizeIranianMobilePhone_eq_some_iff.mp hr
      exact ⟨n, hn⟩
    · rintro ⟨n, hn⟩
      exact ⟨_, normalizeIranianMobilePhone_eq_some_iff.mpr ⟨n, hn, rfl⟩⟩
  · obtain ⟨n, hn, rfl⟩ := normalizeIranianMobilePhone_eq_some_iff.mp (Option.mem_def.mp hr)
    rw [MobileNumber.canonical, MobileNumber.digits_eq_drop hn, lastTen]
  · cases hr : normalizeIranianMobilePhone s with
    | none => rfl
    | some r =>
      obtain ⟨n, -, rfl⟩ := normalizeIranianMobilePhone_eq_some_iff.mp hr
      have hspelled : n.SpelledBy (spelled n.canonical) :=
        ⟨_, List.mem_cons_self, n.spelled_canonical⟩
      rw [Option.bind_some]
      exact normalizeIranianMobilePhone_eq_some_iff.mpr ⟨n, hspelled, rfl⟩
  · obtain ⟨n, hn, rfl⟩ := normalizeIranianMobilePhone_eq_some_iff.mp (Option.mem_def.mp hr)
    obtain ⟨n', hn', rfl⟩ := normalizeIranianMobilePhone_eq_some_iff.mp (Option.mem_def.mp hr')
    rw [MobileNumber.canonical_inj, MobileNumber.digits_eq_drop hn,
      MobileNumber.digits_eq_drop hn', lastTen, lastTen]

/-- One number in two scripts. -/
theorem normalizeIranianMobilePhone_canonical_scripts :
    "+989121234567" = "+989121234567" ↔
      lastTen "۰۹۱۲ ۱۲۳-۴۵۶۷" = lastTen "+98 9121234567" :=
  (normalizeIranianMobilePhone_canonical "۰۹۱۲ ۱۲۳-۴۵۶۷" "+98 9121234567").2.2.2 _
    (by decide +kernel) _ (by decide +kernel)

end VielHome.Phone
