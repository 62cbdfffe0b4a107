import Mathlib.Data.List.Induction
import Mathlib.Data.List.TakeWhile
import Mathlib.Tactic.Common

/-!
# The parts of a URL

A URL is read as a server gets it: the fragment behind the first number sign is not sent, the query
begins behind the first question mark, the path at the first slash before it, or at a backslash,
which is read as one, and the host stands behind the last at sign before that. The query is a list
of names and values. What is written of parts that do not hold the signs that end them is read back
(`parts_write`).
-/

namespace Encoding.Url

variable {c : Char} {signs before after : List Char}

/-! ### Cutting a text at a sign -/

/-- What stands before the first of the signs, and the rest from it on. -/
def breakAt (signs text : List Char) : List Char × List Char :=
  (text.takeWhile (· ∉ signs), text.dropWhile (· ∉ signs))

/-- What stands before the first sign, and what stands after it. -/
def cut (c : Char) (text : List Char) : List Char × List Char :=
  ((breakAt [c] text).1, (breakAt [c] text).2.drop 1)

theorem breakAt_append (hc : c ∈ signs) (h : ∀ d ∈ signs, d ∉ before) :
    breakAt signs (before ++ c :: after) = (before, c :: after) := by
  have hne : ∀ d ∈ before, (decide (d ∉ signs)) = true := fun d hd =>
    decide_eq_true fun hmem => h d hmem hd
  rw [breakAt, List.takeWhile_append_of_pos hne, List.dropWhile_append_of_pos hne,
    List.takeWhile_cons_of_neg (by simpa using hc), List.dropWhile_cons_of_neg (by simpa using hc),
    List.append_nil]

theorem cut_append (h : c ∉ before) : cut c (before ++ c :: after) = (before, after) := by
  rw [cut, breakAt_append List.mem_cons_self (by simpa using h)]
  rfl

/-- A text without the sign is not cut. -/
theorem cut_of_notMem (h : c ∉ before) : (cut c before).1 = before :=
  List.takeWhile_eq_self_iff.mpr fun d hd => by
    have hne : d ≠ c := fun heq => h (heq ▸ hd)
    simpa using hne

/-- What stands behind the last sign, or the whole text. -/
def afterLast (c : Char) (text : List Char) : List Char := (cut c text.reverse).1.reverse

theorem afterLast_of_notMem (h : c ∉ before) : afterLast c before = before := by
  rw [afterLast, cut_of_notMem (by simpa using h), List.reverse_reverse]

/-! ### The query -/

/-- The parameters of a query: their names and their values, as they are written. -/
def readQuery (text : List Char) : List (List Char × List Char) :=
  (text.splitOn '&').map (cut '=')

/-- A parameter as it is written. -/
def writeParameter (parameter : List Char × List Char) : List Char :=
  parameter.1 ++ '=' :: parameter.2

/-- The parameters as they are written. -/
def writeQuery (parameters : List (List Char × List Char)) : List Char :=
  ['&'].intercalate (parameters.map writeParameter)

/-- One more parameter stands behind a sign of its own. -/
theorem writeQuery_concat {parameters : List (List Char × List Char)} (h : parameters ≠ [])
    (parameter : List Char × List Char) :
    writeQuery (parameters ++ [parameter]) =
      writeQuery parameters ++ '&' :: writeParameter parameter := by
  rw [writeQuery, writeQuery]
  induction parameters with
  | nil => exact absurd rfl h
  | cons first rest ih =>
    cases rest with
    | nil => simp [List.intercalate_cons_cons]
    | cons second rest =>
      have hrest := ih (List.cons_ne_nil second rest)
      simp only [List.cons_append, List.map_cons] at hrest ⊢
      rw [List.intercalate_cons_cons, hrest, List.intercalate_cons_cons, List.append_assoc,
        List.append_assoc, List.append_assoc]

/-- The parameter is written without the signs that would end it. -/
structure Separable (parameter : List Char × List Char) : Prop where
  name_ne : '=' ∉ parameter.1
  name_and : '&' ∉ parameter.1
  value_and : '&' ∉ parameter.2

theorem cut_writeParameter {parameter : List Char × List Char} (h : Separable parameter) :
    cut '=' (writeParameter parameter) = parameter :=
  cut_append h.name_ne

theorem notMem_writeParameter {parameter : List Char × List Char} (h : Separable parameter) :
    '&' ∉ writeParameter parameter := by
  rw [writeParameter, List.mem_append, List.mem_cons]
  rintro (hname | heq | hvalue)
  · exact h.name_and hname
  · exact absurd heq (by decide)
  · exact h.value_and hvalue

/-- The parameters that were written are read. -/
theorem readQuery_writeQuery {parameters : List (List Char × List Char)} (hne : parameters ≠ [])
    (h : ∀ parameter ∈ parameters, Separable parameter) :
    readQuery (writeQuery parameters) = parameters := by
  have hsplit : (writeQuery parameters).splitOn '&' = parameters.map writeParameter := by
    refine List.splitOn_intercalate '&' ?_ (List.map_eq_nil_iff.not.mpr hne)
    intro text htext
    obtain ⟨parameter, hparameter, rfl⟩ := List.mem_map.mp htext
    exact notMem_writeParameter (h parameter hparameter)
  rw [readQuery, hsplit, List.map_map]
  calc parameters.map (cut '=' ∘ writeParameter)
      = parameters.map id := List.map_congr_left fun parameter hparameter =>
        cut_writeParameter (h parameter hparameter)
    _ = parameters := List.map_id parameters

/-- A sign that is none of the query's own is found in what is written only if it is in a name or a
value. -/
theorem notMem_writeQuery {parameters : List (List Char × List Char)} (hand : c ≠ '&')
    (hequals : c ≠ '=') (h : ∀ parameter ∈ parameters, c ∉ parameter.1 ∧ c ∉ parameter.2) :
    c ∉ writeQuery parameters := by
  have hparameter : ∀ parameter ∈ parameters, c ∉ writeParameter parameter := by
    intro parameter hmem
    rw [writeParameter, List.mem_append, List.mem_cons]
    rintro (hname | heq | hvalue)
    · exact (h parameter hmem).1 hname
    · exact hequals heq
    · exact (h parameter hmem).2 hvalue
  induction parameters using List.reverseRecOn with
  | nil => exact List.not_mem_nil
  | append_singleton parameters parameter ih =>
    have hrest : c ∉ writeQuery parameters :=
      ih (fun p hp => h p (List.mem_append_left _ hp))
        fun p hp => hparameter p (List.mem_append_left _ hp)
    have hlast := hparameter parameter (by simp)
    rcases eq_or_ne parameters [] with rfl | hne
    · simpa [writeQuery] using hlast
    · rw [writeQuery_concat hne, List.mem_append, List.mem_cons]
      rintro (hmem | heq | hmem)
      · exact hrest hmem
      · exact hand heq
      · exact hlast hmem

/-! ### The whole -/

/-- The parts of a URL. -/
structure Parts where
  scheme : List Char
  host : List Char
  path : List Char
  query : List (List Char × List Char)

/-- The URL that has these parts. -/
def Parts.write (parts : Parts) : List Char :=
  parts.scheme ++ ':' :: '/' :: '/' ::
    (parts.host ++ parts.path ++ '?' :: writeQuery parts.query)

/-- The signs that end the host of a URL, or what stands before it. -/
def delimiters : List Char := ['/', '\\', '?', '#', '@']

/-- The parts that a server sees. -/
def parts (url : List Char) : Parts :=
  let (scheme, rest) := cut ':' (cut '#' url).1
  let (address, query) := cut '?' (rest.drop 2)
  let (authority, path) := breakAt ['/', '\\'] address
  { scheme, host := afterLast '@' authority, path, query := readQuery query }

/-- The parts hold no sign that would end them where they do not. -/
structure Parts.Separable (parts : Parts) : Prop where
  scheme : ':' ∉ parts.scheme ∧ '#' ∉ parts.scheme
  host : ∀ c ∈ delimiters, c ∉ parts.host
  path_slash : ∃ path, parts.path = '/' :: path
  path : '?' ∉ parts.path ∧ '#' ∉ parts.path
  query_ne : parts.query ≠ []
  query : ∀ parameter ∈ parts.query, Url.Separable parameter
  query_hash : ∀ parameter ∈ parts.query, '#' ∉ parameter.1 ∧ '#' ∉ parameter.2

/-- No fragment is written. -/
theorem Parts.Separable.notMem_write {parts : Parts} (h : parts.Separable) : '#' ∉ parts.write := by
  have hhost : '#' ∉ parts.host := h.host '#' (by decide)
  have hquery : '#' ∉ writeQuery parts.query :=
    notMem_writeQuery (by decide) (by decide) h.query_hash
  simp only [Parts.write, List.mem_append, List.mem_cons, not_or]
  exact ⟨h.scheme.2, by decide, by decide, by decide, ⟨hhost, h.path.2⟩, by decide, hquery⟩

/-- What was written is read back. -/
theorem parts_write {parts' : Parts} (h : parts'.Separable) : parts parts'.write = parts' := by
  obtain ⟨path, hpath⟩ := h.path_slash
  have haddress : '?' ∉ parts'.host ++ parts'.path := by
    rw [List.mem_append]
    exact not_or.mpr ⟨h.host '?' (by decide), h.path.1⟩
  have hhost : breakAt ['/', '\\'] (parts'.host ++ parts'.path) = (parts'.host, parts'.path) := by
    rw [hpath]
    refine breakAt_append (by decide) fun c hc => h.host c ?_
    exact (show ['/', '\\'] ⊆ delimiters by decide) hc
  have huser : afterLast '@' parts'.host = parts'.host :=
    afterLast_of_notMem (h.host '@' (by decide))
  have hscheme : cut ':' parts'.write =
      (parts'.scheme, '/' :: '/' :: (parts'.host ++ parts'.path ++ '?' :: writeQuery parts'.query)) :=
    cut_append h.scheme.1
  simp only [parts, cut_of_notMem h.notMem_write, hscheme, List.drop_succ_cons, List.drop_zero,
    cut_append haddress, hhost, huser, readQuery_writeQuery h.query_ne h.query]

end Encoding.Url
