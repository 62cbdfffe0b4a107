import Mathlib.Data.List.Basic
import Mathlib.Tactic.Common

/-!
# Comma-separated values

A reader of RFC 4180: records are separated by a line feed, or by a carriage return and a line
feed, and fields by commas; a field in quotes may hold any of these, and quotes that are doubled.

A writer decides for each field whether it goes into quotes (`Field`). Whatever it decides, as long
as a field without quotes holds no comma, quote or line feed, `records_document` says what the
reader makes of its records: it returns them, but for a carriage return at the end of a record
that is not in quotes, which it takes for a part of the line break (`Field.beforeFeed`).
-/

namespace Encoding.Rfc4180

/-- Where the reader is: at the start of a field, in a field without quotes, in quotes, or behind a
quote that closes a field unless another one follows. -/
inductive State
  | start
  | bare
  | quoted
  | closed
  deriving DecidableEq

/-- The records at the end of the text. The last one may have ended in a line break, and a quote
has to be closed. -/
def finish (state : State) (field : List Char) (record : List (List Char)) :
    Option (List (List (List Char))) :=
  if state = .quoted then none
  else if state = .start ∧ record = [] then some []
  else some [record ++ [field]]

/-- Reads on, with the field and the record that have been begun: the records, or nothing when the
text is no list of records. -/
def read : State → List Char → List (List Char) → List Char → Option (List (List (List Char)))
  | state, field, record, [] => finish state field record
  | .quoted, field, record, '"' :: text => read .closed field record text
  | .quoted, field, record, c :: text => read .quoted (field ++ [c]) record text
  | _, field, record, ',' :: text => read .start [] (record ++ [field]) text
  | _, field, record, '\n' :: text => (read .start [] [] text).map ((record ++ [field]) :: ·)
  | _, field, record, '\r' :: '\n' :: text =>
    (read .start [] [] text).map ((record ++ [field]) :: ·)
  | .closed, field, record, '"' :: text => read .quoted (field ++ ['"']) record text
  | .closed, _, _, _ :: _ => none
  | .start, field, record, '"' :: text => read .quoted field record text
  | .bare, _, _, '"' :: _ => none
  | _, field, record, c :: text => read .bare (field ++ [c]) record text

/-- The records of a text. -/
def records (text : List Char) : Option (List (List (List Char))) := read .start [] [] text

example : records "a,\"b,\"\"c\"\"\r\n\"\r\n,d".toList =
    some [["a".toList, "b,\"c\"\r\n".toList], [[], "d".toList]] := by decide

section Read

variable {field : List Char} {record : List (List Char)} {c : Char} {text : List Char}

/-! ### One character -/

/-- A field ends at a comma. -/
theorem read_comma {state : State} (h : state ≠ .quoted) :
    read state field record (',' :: text) = read .start [] (record ++ [field]) text := by
  cases state with
  | quoted => exact absurd rfl h
  | start => rfl
  | bare => rfl
  | closed => rfl

/-- A record ends at a line feed. -/
theorem read_feed {state : State} (h : state ≠ .quoted) :
    read state field record ('\n' :: text) =
      (read .start [] [] text).map ((record ++ [field]) :: ·) := by
  cases state with
  | quoted => exact absurd rfl h
  | start => rfl
  | bare => rfl
  | closed => rfl

/-- A record ends at a carriage return and a line feed. -/
theorem read_return_feed {state : State} (h : state ≠ .quoted) :
    read state field record ('\r' :: '\n' :: text) =
      (read .start [] [] text).map ((record ++ [field]) :: ·) := by
  cases state with
  | quoted => exact absurd rfl h
  | start => rfl
  | bare => rfl
  | closed => rfl

/-- The last record ends with the text. -/
theorem read_nil {state : State} (h : state ≠ .quoted) (hrecord : record ≠ []) :
    read state field record [] = some [record ++ [field]] := by
  rw [read, finish, if_neg h, if_neg fun h => hrecord h.2]

/-- A character that a field may hold without quotes, but for a carriage return. -/
def Plain (c : Char) : Prop := c ≠ ',' ∧ c ≠ '"' ∧ c ≠ '\n'

instance (c : Char) : Decidable (Plain c) := by
  unfold Plain
  infer_instance

/-- A field without quotes goes on. -/
theorem read_plain {state : State} (h : state = .start ∨ state = .bare) (hc : Plain c)
    (hreturn : c = '\r' → ∀ rest, text ≠ '\n' :: rest) :
    read state field record (c :: text) = read .bare (field ++ [c]) record text := by
  obtain ⟨hcomma, hquote, hfeed⟩ := hc
  rcases h with rfl | rfl
  · rw [read] <;> simp_all
  · rw [read] <;> simp_all

/-- A quote that is doubled in a field in quotes. -/
theorem read_quoted_quote :
    read .quoted field record ('"' :: '"' :: text) = read .quoted (field ++ ['"']) record text := rfl

theorem read_quoted {c : Char} (hc : c ≠ '"') :
    read .quoted field record (c :: text) = read .quoted (field ++ [c]) record text := by
  rw [read]
  simpa using hc

end Read

/-! ### One field -/

/-- A field as it is written: its text, and whether it goes into quotes. -/
structure Field where
  text : List Char
  quoted : Bool
  plain : quoted = false → ∀ c ∈ text, Plain c

/-- The text without a carriage return at its end. -/
def chomp (text : List Char) : List Char :=
  if text.getLast? = some '\r' then text.dropLast else text

/-- A text whose quotes are doubled. -/
def doubled (text : List Char) : List Char :=
  text.flatMap fun c => if c = '"' then ['"', '"'] else [c]

namespace Field

/-- A field as it is written. -/
def written (f : Field) : List Char :=
  if f.quoted then '"' :: doubled f.text ++ ['"'] else f.text

/-- What is read of a field when a line feed follows. -/
def beforeFeed (f : Field) : List Char := if f.quoted then f.text else chomp f.text

end Field

section Fields

variable {field : List Char} {record : List (List Char)} {t text : List Char}

theorem read_doubled :
    read .quoted field record (doubled t ++ '"' :: text) = read .closed (field ++ t) record text := by
  induction t generalizing field with
  | nil =>
    rw [List.append_nil]
    rfl
  | cons c t ih =>
    have hfield : field ++ c :: t = field ++ [c] ++ t := by
      rw [List.append_assoc, List.singleton_append]
    rw [hfield, ← ih, doubled, List.flatMap_cons, ← doubled, List.append_assoc]
    split
    case isTrue hc =>
      rw [hc]
      exact read_quoted_quote
    case isFalse hc => exact read_quoted hc

/-- In a field without quotes the text is read as it is, as long as it does not end in a carriage
return before a line feed. -/
theorem read_text {state : State} (h : state = .start ∨ state = .bare) (ht : ∀ c ∈ t, Plain c)
    (hreturn : t.getLast? = some '\r' → ∀ rest, text ≠ '\n' :: rest) (hne : t ≠ []) :
    read state field record (t ++ text) = read .bare (field ++ t) record text := by
  induction t generalizing field state with
  | nil => exact absurd rfl hne
  | cons c t ih =>
    cases t with
    | nil =>
      exact read_plain h (ht c List.mem_cons_self) fun hc => hreturn (by rw [hc]; rfl)
    | cons d t =>
      have hd : Plain d := ht d (List.mem_cons_of_mem _ List.mem_cons_self)
      have hstep : read state field record (c :: (d :: t ++ text)) =
          read .bare (field ++ [c]) record (d :: t ++ text) :=
        read_plain h (ht c List.mem_cons_self) fun _ rest hfeed => hd.2.2 (List.cons.inj hfeed).1
      rw [List.cons_append, hstep, ih (Or.inr rfl) (fun e he => ht e (List.mem_cons_of_mem _ he))
        hreturn (List.cons_ne_nil _ _), List.append_assoc, List.singleton_append]

theorem chomp_of_ne (h : t.getLast? ≠ some '\r') : chomp t = t := if_neg h

theorem chomp_append_return : chomp (t ++ ['\r']) = t := by
  rw [chomp, List.getLast?_concat, if_pos rfl, List.dropLast_concat]

theorem chomp_eq_self_iff : chomp t = t ↔ t.getLast? ≠ some '\r' := by
  refine ⟨fun h hreturn => ?_, chomp_of_ne⟩
  obtain ⟨u, rfl⟩ := List.getLast?_eq_some_iff.mp hreturn
  rw [chomp_append_return] at h
  simpa using congrArg List.length h

/-- A text without quotes that ends its record loses a carriage return at its end. -/
theorem read_text_feed (ht : ∀ c ∈ t, Plain c) :
    read .start [] record (t ++ '\n' :: text) =
      (read .start [] [] text).map ((record ++ [chomp t]) :: ·) := by
  by_cases hnil : t = []
  · rw [hnil]
    exact read_feed (by decide)
  · by_cases hreturn : t.getLast? = some '\r'
    · obtain ⟨u, rfl⟩ := List.getLast?_eq_some_iff.mp hreturn
      rw [chomp_append_return, List.append_assoc, List.singleton_append]
      by_cases hu : u = []
      · rw [hu]
        exact read_return_feed (by decide)
      · have hplain : ∀ c ∈ u, Plain c := fun c hc => ht c (List.mem_append_left _ hc)
        -- what follows `u` is the carriage return
        have hreturn : ∀ rest, '\r' :: '\n' :: text ≠ '\n' :: rest :=
          fun _ h => absurd (List.cons.inj h).1 (by decide)
        rw [read_text (Or.inl rfl) hplain (fun _ => hreturn) hu]
        exact read_return_feed (by decide)
    · rw [chomp_of_ne hreturn, read_text (Or.inl rfl) ht (fun h => absurd h hreturn) hnil]
      exact read_feed (by decide)

/-- A text without quotes that a comma follows. -/
theorem read_text_comma (ht : ∀ c ∈ t, Plain c) :
    read .start [] record (t ++ ',' :: text) = read .start [] (record ++ [t]) text := by
  by_cases hnil : t = []
  · rw [hnil]
    exact read_comma (by decide)
  · have hcomma : ∀ rest, ',' :: text ≠ '\n' :: rest :=
      fun _ h => absurd (List.cons.inj h).1 (by decide)
    rw [read_text (Or.inl rfl) ht (fun _ => hcomma) hnil]
    exact read_comma (by decide)

/-- A text without quotes that ends the last record. -/
theorem read_text_nil (ht : ∀ c ∈ t, Plain c) (hrecord : record ≠ []) :
    read .start [] record t = some [record ++ [t]] := by
  by_cases hnil : t = []
  · rw [hnil]
    exact read_nil (by decide) hrecord
  · have htext : read .start [] record (t ++ []) = read .bare ([] ++ t) record [] :=
      read_text (Or.inl rfl) ht (fun _ _ h => nomatch h) hnil
    rw [List.append_nil] at htext
    exact htext.trans (read_nil (by decide) hrecord)

namespace Field

variable (f : Field)

private theorem written_of_quoted (h : f.quoted = true) (text : List Char) :
    f.written ++ text = '"' :: (doubled f.text ++ '"' :: text) := by
  rw [written, if_pos h, List.cons_append, List.cons_append, List.append_assoc,
    List.singleton_append]

private theorem read_quotes (h : f.quoted = true) (text : List Char) :
    read .start [] record (f.written ++ text) = read .closed f.text record text := by
  rw [f.written_of_quoted h]
  exact read_doubled

private theorem written_of_bare (h : f.quoted = false) : f.written = f.text := by
  rw [written, h]
  rfl

theorem read_comma :
    read .start [] record (f.written ++ ',' :: text) = read .start [] (record ++ [f.text]) text := by
  cases h : f.quoted with
  | true => exact (f.read_quotes h _).trans (Rfc4180.read_comma (by decide))
  | false =>
    rw [f.written_of_bare h]
    exact read_text_comma (f.plain h)

theorem read_feed :
    read .start [] record (f.written ++ '\n' :: text) =
      (read .start [] [] text).map ((record ++ [f.beforeFeed]) :: ·) := by
  cases h : f.quoted with
  | true =>
    rw [beforeFeed, if_pos h]
    exact (f.read_quotes h _).trans (Rfc4180.read_feed (by decide))
  | false =>
    rw [f.written_of_bare h, beforeFeed, h]
    exact read_text_feed (f.plain h)

theorem read_nil (hrecord : record ≠ []) :
    read .start [] record f.written = some [record ++ [f.text]] := by
  cases h : f.quoted with
  | true =>
    rw [← List.append_nil f.written, f.read_quotes h]
    exact Rfc4180.read_nil (by decide) hrecord
  | false =>
    rw [f.written_of_bare h]
    exact read_text_nil (f.plain h) hrecord

end Field

end Fields

/-! ### Records -/

/-- A record as it is written. -/
def line (fields : List Field) : List Char := [','].intercalate (fields.map Field.written)

/-- The texts of a record. -/
def texts (fields : List Field) : List (List Char) := fields.map Field.text

/-- What is read of a record when a line feed follows. -/
def textsBeforeFeed : List Field → List (List Char)
  | [] => []
  | [f] => [f.beforeFeed]
  | f :: fields => f.text :: textsBeforeFeed fields

/-- Records as they are written. -/
def document (lines : List (List Field)) : List Char := ['\n'].intercalate (lines.map line)

section Records

variable {record : List (List Char)} {text : List Char} {f g : Field} {fields : List Field}

theorem line_cons_cons : line (f :: g :: fields) = f.written ++ ',' :: line (g :: fields) := by
  rw [line, List.map_cons, List.map_cons, List.intercalate_cons_cons, ← List.map_cons, ← line,
    List.append_assoc, List.singleton_append]

theorem textsBeforeFeed_cons_cons :
    textsBeforeFeed (f :: g :: fields) = f.text :: textsBeforeFeed (g :: fields) := rfl

theorem line_singleton : line [f] = f.written := by
  rw [line, List.map_singleton, List.intercalate_singleton]

theorem read_line_feed :
    read .start [] record (line (f :: fields) ++ '\n' :: text) =
      (read .start [] [] text).map ((record ++ textsBeforeFeed (f :: fields)) :: ·) := by
  induction fields generalizing f record with
  | nil =>
    rw [line_singleton]
    exact f.read_feed
  | cons g fields ih =>
    rw [line_cons_cons, List.append_assoc, List.cons_append, f.read_comma, ih,
      textsBeforeFeed_cons_cons, List.append_assoc, List.singleton_append]

theorem read_line_nil (h : record ≠ [] ∨ fields ≠ []) :
    read .start [] record (line (f :: fields)) = some [record ++ texts (f :: fields)] := by
  induction fields generalizing f record with
  | nil =>
    rw [line_singleton]
    exact f.read_nil (h.resolve_right fun h => h rfl)
  | cons g fields ih =>
    rw [line_cons_cons, f.read_comma, ih (Or.inl (by simp)), List.append_assoc,
      List.singleton_append]
    rfl

/-- A record comes back as it is when its last field does. -/
theorem textsBeforeFeed_eq_texts_iff :
    textsBeforeFeed fields = texts fields ↔
      ∀ f ∈ fields.getLast?, f.quoted = true ∨ f.text.getLast? ≠ some '\r' := by
  induction fields with
  | nil => simp [textsBeforeFeed, texts]
  | cons f fields ih =>
    cases fields with
    | nil =>
      rw [textsBeforeFeed, texts, List.map_singleton, List.getLast?_singleton]
      cases hquoted : f.quoted with
      | true => simp [Field.beforeFeed, hquoted]
      | false => simp [Field.beforeFeed, hquoted, chomp_eq_self_iff]
    | cons g fields =>
      rw [textsBeforeFeed_cons_cons, texts, List.map_cons, ← texts, List.cons_inj_right, ih,
        List.getLast?_cons_cons]

/-- What the reader makes of records of at least two fields: it returns them as they are, but for a
carriage return at the end of a record that is not in quotes and not the last one. -/
theorem records_document {lines : List (List Field)} {last : List Field}
    (hlines : ∀ l ∈ lines, l ≠ []) (hlast : 2 ≤ last.length) :
    records (document (lines ++ [last])) = some (lines.map textsBeforeFeed ++ [texts last]) := by
  rw [records]
  induction lines with
  | nil =>
    obtain ⟨f, g, fields, rfl⟩ : ∃ f g fields, last = f :: g :: fields := by
      match last, hlast with
      | f :: g :: fields, _ => exact ⟨f, g, fields, rfl⟩
    rw [List.nil_append, document, List.map_singleton, List.intercalate_singleton]
    exact read_line_nil (Or.inr (List.cons_ne_nil _ _))
  | cons l lines ih =>
    obtain ⟨f, fields, rfl⟩ := List.exists_cons_of_ne_nil (hlines l List.mem_cons_self)
    have hne : (lines ++ [last]).map line ≠ [] := by simp
    rw [document, List.cons_append, List.map_cons, List.intercalate_cons_of_ne_nil hne, ← document,
      List.append_assoc, List.singleton_append, read_line_feed,
      ih fun l hl => hlines l (List.mem_cons_of_mem _ hl)]
    rfl

end Records

end Encoding.Rfc4180
