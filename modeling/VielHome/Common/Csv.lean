import VielHome.Encoding.Rfc4180

/-!
# The encoder of the exports

`toCsv` writes a header and a record for each row. A cell goes into quotes when it holds a comma, a
quote or a line feed, and not when it holds a carriage return. So a reader gets back what was
written unless the last cell of some row but the last one ends in a carriage return, which it takes
for a part of the line break (`parseCsv_toCsv_iff`). The export of the audit has an encoder of its
own, which writes the same (`exportCsv_eq_toCsv`).
-/

namespace VielHome.Csv

open Encoding.Rfc4180

/-! ### `toCsv` -/

/-- A value, by what the encoder asks of it: the `toISOString()` of a date, and the `String(value)`
of anything else. -/
inductive CsvValue
  | null
  | undefined
  | date (toISOString : String)
  | other (string : String)
  deriving DecidableEq

/-- The text of a value in its cell. -/
def CsvValue.cell : CsvValue → String
  | null => ""
  | undefined => ""
  | date toISOString => toISOString
  | other string => string

/-- `/[",\n]/.test(str)`. -/
def needsQuotes (str : String) : Bool := str.toList.any fun c => c = '"' ∨ c = ',' ∨ c = '\n'

/-- `str.replace(/"/g, '""')`. -/
def doubleQuotes (str : String) : String :=
  String.ofList (str.toList.flatMap fun c => if c = '"' then ['"', '"'] else [c])

/-- A text as a cell. -/
def escapeText (str : String) : String :=
  if needsQuotes str then "\"" ++ doubleQuotes str ++ "\"" else str

/-- A value as it stands in an export. -/
def escape : CsvValue → String
  | .null => ""
  | .undefined => ""
  | .date toISOString => escapeText toISOString
  | .other string => escapeText string

/-- A row is read by the names of the columns. -/
def toCsv (rows : List (String → CsvValue)) (columns : List String) : String :=
  let lines := ",".intercalate columns :: rows.map fun row =>
    ",".intercalate (columns.map fun column => escape (row column))
  "\n".intercalate lines

/-- The columns of a record of the audit that are exported. -/
structure AuditLog where
  id : String
  createdAt : String
  actorId : Option String
  buildingId : Option String
  action : String
  entityType : String
  entityId : String
  reason : Option String
  requestId : Option String

/-- The columns of the export of the audit. -/
def HEADER : List String :=
  ["id", "createdAt", "actorId", "buildingId", "action", "entityType", "entityId", "reason",
    "requestId"]

/-- A text or `null`. -/
def ofNullable : Option String → CsvValue
  | none => .null
  | some string => .other string

/-- What `exportCsv` writes of a record, in the order of the header. -/
def AuditLog.values (row : AuditLog) : List CsvValue :=
  [.other row.id, .other row.createdAt, ofNullable row.actorId, ofNullable row.buildingId,
    .other row.action, .other row.entityType, .other row.entityId, ofNullable row.reason,
    ofNullable row.requestId]

/-- `AuditService.exportCsv`, on the records that it has found. -/
def exportCsv (rows : List AuditLog) : String :=
  let lines := ",".intercalate HEADER :: rows.map fun row =>
    ",".intercalate (row.values.map escape)
  "\n".intercalate lines

/-- A record of the audit, read by the names of the columns. -/
def AuditLog.byColumn (row : AuditLog) (column : String) : CsvValue :=
  (row.values[HEADER.idxOf column]?).getD .undefined

/-- The export of the audit is written by the same encoder. -/
theorem exportCsv_eq_toCsv (rows : List AuditLog) :
    exportCsv rows = toCsv (rows.map AuditLog.byColumn) HEADER := by
  have hvalues : ∀ row : AuditLog, HEADER.map row.byColumn = row.values := by
    intro row
    rfl
  rw [exportCsv, toCsv, List.map_map]
  refine congrArg (fun lines => "\n".intercalate (",".intercalate HEADER :: lines)) ?_
  refine List.map_congr_left fun row _ => ?_
  rw [← hvalues, List.map_map]
  rfl

/-! ### Reading it back -/

/-- A reader of RFC 4180. -/
def parseCsv (text : String) : Option (List (List String)) :=
  (Encoding.Rfc4180.records text.toList).map fun records =>
    records.map fun record => record.map String.ofList

/-- The texts of the cells of a row. -/
def cells (columns : List String) (row : String → CsvValue) : List String :=
  columns.map fun column => (row column).cell

/-- The cell is written without quotes and ends in a carriage return. -/
def endsInReturn (value : CsvValue) : Bool :=
  needsQuotes value.cell = false ∧ value.cell.toList.getLast? = some '\r'

/-! ### The fields that are written -/

theorem needsQuotes_eq_false_iff {str : String} :
    needsQuotes str = false ↔ ∀ c ∈ str.toList, Plain c := by
  rw [needsQuotes, List.any_eq_false]
  refine forall₂_congr fun c _ => ?_
  rw [decide_eq_true_iff, not_or, not_or, Plain]
  tauto

/-- A text as the encoder writes it. -/
def textField (str : String) : Field where
  text := str.toList
  quoted := needsQuotes str
  plain := needsQuotes_eq_false_iff.mp

theorem written_textField (str : String) : (textField str).written = (escapeText str).toList := by
  rw [Field.written, escapeText]
  cases h : needsQuotes str with
  | true => simp [textField, h, doubleQuotes, doubled]
  | false => simp [textField, h]

theorem escape_eq (value : CsvValue) : escape value = escapeText value.cell := by
  cases value <;> rfl

theorem line_textFields (strs : List String) :
    line (strs.map textField) = (",".intercalate (strs.map escapeText)).toList := by
  rw [line, String.toList_intercalate, List.map_map, List.map_map]
  exact congrArg _ (List.map_congr_left fun str _ => written_textField str)

theorem map_ofList_texts (strs : List String) :
    (texts (strs.map textField)).map String.ofList = strs := by
  rw [texts, List.map_map, List.map_map]
  exact (List.map_congr_left fun str _ => String.ofList_toList).trans (List.map_id _)

section Columns

variable {rows : List (String → CsvValue)} {columns : List String}

/-- The output of the encoder, as the records that it writes. -/
theorem toList_toCsv (hnames : ∀ column ∈ columns, needsQuotes column = false) :
    (toCsv rows columns).toList =
      document (columns.map textField :: rows.map fun row => (cells columns row).map textField) := by
  have hheader : columns.map escapeText = columns := by
    refine (List.map_congr_left fun column hcolumn => ?_).trans (List.map_id _)
    rw [escapeText, hnames column hcolumn]
    rfl
  have hrow : ∀ row : String → CsvValue, line ((cells columns row).map textField) =
      (",".intercalate (columns.map fun column => escape (row column))).toList := by
    intro row
    rw [line_textFields, cells, List.map_map]
    exact congrArg (fun strs => (",".intercalate strs).toList)
      (List.map_congr_left fun column _ => (escape_eq _).symm)
  rw [toCsv, document, String.toList_intercalate, List.map_cons, List.map_cons, List.map_map,
    List.map_map, line_textFields, hheader]
  exact congrArg _ (congrArg _ (List.map_congr_left fun row _ => (hrow row).symm))

/-- A record is read as it was written when its last cell does not end in a carriage return without
quotes. -/
theorem textsBeforeFeed_textFields_iff {strs : List String} :
    textsBeforeFeed (strs.map textField) = texts (strs.map textField) ↔
      ∀ str ∈ strs.getLast?, ¬ (needsQuotes str = false ∧ str.toList.getLast? = some '\r') := by
  rw [textsBeforeFeed_eq_texts_iff, List.getLast?_map]
  cases strs.getLast? with
  | none => simp
  | some str =>
    simp only [Option.map_some, Option.mem_def, Option.some.injEq, forall_eq', textField]
    cases needsQuotes str <;> simp

/-- What a reader makes of the output: everything, when the rows but the last one come back. -/
theorem parseCsv_toCsv_iff_dropLast (hcolumns : 2 ≤ columns.length)
    (hnames : ∀ column ∈ columns, needsQuotes column = false)
    (hreturn : ∀ column ∈ columns.getLast?, column.toList.getLast? ≠ some '\r') :
    parseCsv (toCsv rows columns) = some (columns :: rows.map (cells columns)) ↔
      ∀ row ∈ rows.dropLast, textsBeforeFeed ((cells columns row).map textField) =
        texts ((cells columns row).map textField) := by
  have hheader : textsBeforeFeed (columns.map textField) = texts (columns.map textField) :=
    textsBeforeFeed_textFields_iff.mpr fun column hcolumn h => hreturn column hcolumn h.2
  have hne : ∀ row, (cells columns row).map textField ≠ [] := by
    intro row h
    rw [List.map_eq_nil_iff, cells, List.map_eq_nil_iff] at h
    simp [h] at hcolumns
  have hlength : ∀ row, 2 ≤ ((cells columns row).map textField).length := by
    intro row
    rwa [List.length_map, cells, List.length_map]
  -- the texts of a row are its cells, and no other texts are
  have hcells : ∀ row, (textsBeforeFeed ((cells columns row).map textField)).map String.ofList =
      cells columns row ↔ textsBeforeFeed ((cells columns row).map textField) =
        texts ((cells columns row).map textField) := by
    intro row
    have hinj : Function.Injective (List.map String.ofList) :=
      List.map_injective_iff.mpr fun _ _ => String.ofList_inj.mp
    rw [← hinj.eq_iff, map_ofList_texts]
  rw [parseCsv, toList_toCsv hnames]
  rcases List.eq_nil_or_concat rows with rfl | ⟨before, row, rfl⟩
  · have hrecords : records (document ([] ++ [columns.map textField])) =
        some ([] ++ [texts (columns.map textField)]) :=
      records_document (by simp) (by rwa [List.length_map])
    rw [List.map_nil, ← List.nil_append [columns.map textField], hrecords]
    simp [map_ofList_texts]
  · have hlines : (columns.map textField :: (before ++ [row]).map fun row =>
        (cells columns row).map textField) =
        (columns.map textField :: before.map fun row => (cells columns row).map textField) ++
          [(cells columns row).map textField] := by simp
    have hnonempty : ∀ l ∈ columns.map textField :: before.map fun row =>
        (cells columns row).map textField, l ≠ [] := by
      intro l hl
      rcases List.mem_cons.mp hl with rfl | hl
      · intro h
        rw [List.map_eq_nil_iff] at h
        simp [h] at hcolumns
      · obtain ⟨row, -, rfl⟩ := List.mem_map.mp hl
        exact hne row
    rw [List.concat_eq_append, hlines, records_document hnonempty (hlength row), List.dropLast_concat, Option.map_some,
      Option.some.injEq, List.map_append, List.map_cons, List.map_cons, hheader, map_ofList_texts,
      List.map_append, List.map_singleton, List.map_singleton, map_ofList_texts, List.cons_append,
      List.cons_inj_right, List.append_cancel_right_eq, List.map_map, List.map_map, List.map_inj_left]
    exact forall₂_congr fun row _ => hcells row

end Columns

/-- A reader of RFC 4180 gets back the header and the cells of every row exactly when no row but
the last one has a last cell that is written without quotes and ends in a carriage return. -/
theorem parseCsv_toCsv_iff (rows : List (String → CsvValue)) (columns : List String)
    (hcolumns : 2 ≤ columns.length)
    (hnames : ∀ column ∈ columns, ∀ c ∈ column.toList, c ∉ [',', '"', '\r', '\n']) :
    parseCsv (toCsv rows columns) = some (columns :: rows.map (cells columns)) ↔
      ∀ row ∈ rows.dropLast, ∀ column ∈ columns.getLast?, endsInReturn (row column) = false := by
  have hquotes : ∀ column ∈ columns, needsQuotes column = false := by
    intro column hcolumn
    refine needsQuotes_eq_false_iff.mpr fun c hc => ?_
    have := hnames column hcolumn c hc
    simp only [List.mem_cons, List.not_mem_nil, or_false, not_or] at this
    exact ⟨this.1, this.2.1, this.2.2.2⟩
  have hreturn : ∀ column ∈ columns.getLast?, column.toList.getLast? ≠ some '\r' := by
    intro column hcolumn hlast
    exact hnames column (List.mem_of_getLast? hcolumn) '\r' (List.mem_of_getLast? hlast) (by decide)
  rw [parseCsv_toCsv_iff_dropLast hcolumns hquotes hreturn]
  refine forall₂_congr fun row _ => ?_
  rw [textsBeforeFeed_textFields_iff, cells, List.getLast?_map]
  cases columns.getLast? with
  | none => simp
  | some column => simp [endsInReturn]

/-- Two rows with a comma, quotes and line breaks in their cells. -/
def quotedRows : List (String → CsvValue) :=
  [fun column => if column = "id" then .other "1" else .other "a, \"b\"\r\n",
    fun column => if column = "id" then .null else .date "2026-08-01T12:00:00.000Z"]

theorem parseCsv_toCsv_iff_quotedRows :
    parseCsv (toCsv quotedRows ["id", "note"]) =
        some (["id", "note"] :: quotedRows.map (cells ["id", "note"])) ↔
      ∀ row ∈ quotedRows.dropLast, ∀ column ∈ ["id", "note"].getLast?,
        endsInReturn (row column) = false :=
  parseCsv_toCsv_iff quotedRows ["id", "note"] (by decide) (by simp)

/-- Two rows of which the first ends in a carriage return. -/
def returnRows : List (String → CsvValue) :=
  [fun column => if column = "id" then .other "1" else .other "Alice\r",
    fun column => if column = "id" then .other "2" else .other "Bob"]

/-- The carriage return is read as a part of the line break, and is lost. -/
theorem parseCsv_toCsv_returnRows :
    parseCsv (toCsv returnRows ["id", "note"]) ≠
      some (["id", "note"] :: returnRows.map (cells ["id", "note"])) := by decide +kernel

example : parseCsv (toCsv [fun _ => .other "a\r\n", fun _ => .null] ["x", "y"]) =
    some [["x", "y"], ["a\r\n", "a\r\n"], ["", ""]] := by decide +kernel

end VielHome.Csv
