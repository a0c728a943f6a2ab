import Rulebook.Proofs.Json.RoundTrip
import Rulebook.Report.Lines
/-!
# Reports — the lines for programs

A report for programs is taken apart at its newlines into the records that it was made of: no record
holds a newline, whatever is in the names and messages, and each ends with one
(`Report.splitOn_linesOf`). Each line is then read back as its record (`Report.lines_readBack`), in
which the code of an error has the name that programs know it by (`Report.codeText`).
-/

namespace Rulebook

namespace Report

variable {reports : List FileReport}

/-- The errors of some reports with the files in which they are, in order. -/
def found (reports : List FileReport) : List (String × FieldError) :=
  reports.flatMap fun report => report.errors.map fun error => (report.file, error)

/-! ## The totals -/

/-- The errors that are counted are those that are found. -/
theorem totalErrors_ofReports (reports : List FileReport) :
    (Summary.ofReports reports).totalErrors = (found reports).length := by
  simp [Summary.ofReports, found, List.length_flatMap]

/-- **The reports pass exactly if nothing is found**: a file counts as invalid if it has an error.
-/
theorem passed_ofReports (reports : List FileReport) :
    (Summary.ofReports reports).passed = (found reports).isEmpty := by
  have hvalid : (Summary.ofReports reports).passed = true ↔ found reports = [] := by
    simp [Summary.ofReports, Summary.passed, FileReport.isValid, found, List.countP_eq_zero]
  rw [Bool.eq_iff_iff, hvalid, List.isEmpty_iff]

/-! ## The lines -/

/-- The record of each error, and then that of the totals. -/
theorem records_eq (reports : List FileReport) : records reports =
    (found reports).map (fun (file, error) => errorRecord file error) ++
      [statusRecord (.ofReports reports)] := by
  simp [records, found, List.map_flatMap, Function.comp_def]

/-- **The lines of a report are its records**, and nothing follows the last newline. -/
theorem splitOn_linesOf (records : List Json) :
    (linesOf records).toList.splitOn '\n' = records.map Json.write ++ [[]] := by
  have htext : (linesOf records).toList = records.flatMap fun record => record.write ++ ['\n'] := by
    simp [linesOf, Json.text, String.toList_join, List.flatMap_map]
  rw [htext]
  clear htext
  induction records with
  | nil => rfl
  | cons record rest ih =>
    have hline : ∀ c ∈ record.write, (c == '\n') = false := by
      intro c hc
      have hne : c ≠ '\n' := fun h => Json.newline_not_mem_write record (h ▸ hc)
      simpa using hne
    rw [List.flatMap_cons, List.append_assoc, List.singleton_append, List.splitOn,
      List.splitOnP_append_cons_of_forall_mem hline '\n' rfl]
    exact congrArg (record.write :: ·) ih

/-! ## The records -/

/-- The name that programs know a code by. -/
def codeText : ErrorCode → String
  | .missingField => "missing_field"
  | .invalid => "invalid"
  | .invalidRoot => "invalid_root"
  | .outOfBoundsField => "out_of_bounds_field"

theorem name_eq_codeText (code : ErrorCode) : code.name = codeText code := by
  cases code <;> rfl

/-- No two codes have one name, so a code is read back from it. -/
theorem ofName?_codeText (code : ErrorCode) : ErrorCode.ofName? (codeText code) = some code := by
  rw [← name_eq_codeText, ErrorCode.ofName?_name]

/-- The record of an error; null is the field of an error about the value as a whole. -/
theorem errorRecord_eq (file : String) (error : FieldError) :
    errorRecord file error = .object [("type", .string "error"), ("file", .string file),
      ("field", error.field.elim .null .string), ("message", .string error.message),
      ("code", .string (codeText error.code))] := by
  obtain ⟨message, field, code⟩ := error
  rw [← name_eq_codeText]
  cases field <;> rfl

/-- The record of an error is legible. -/
theorem legible_errorRecord (file : String) (error : FieldError) :
    (errorRecord file error).Legible Json.nestingLimit := by
  rw [errorRecord_eq]
  refine .object (by simp [Entries.names]) fun member hmember => ?_
  simp only [List.mem_cons, List.not_mem_nil, or_false] at hmember
  rcases hmember with rfl | rfl | rfl | rfl | rfl
  · exact .string _
  · exact .string _
  · cases error.field with
    | none => exact .null
    | some field => exact .string field
  · exact .string _
  · exact .string _

/-- A count that fits 64 bits, as JSON. -/
def natural (n : Nat) (h : n < 2 ^ 64) : Json :=
  .number (.int n ⟨by omega, by omega⟩)

/-- Such a count is written as it is. -/
theorem count_eq_natural {n : Nat} (h : n < 2 ^ 64) : count n = natural n h := by
  simp only [count, natural, Nat.mod_eq_of_lt h]

theorem legible_natural {depth n : Nat} (h : n < 2 ^ 64) : (natural n h).Legible depth :=
  .number (Json.Number.readsBack_int _)

/-- The record of the totals. There are no more invalid files than files. -/
theorem statusRecord_eq (hfiles : reports.length < 2 ^ 64)
    (herrors : (found reports).length < 2 ^ 64) :
    statusRecord (.ofReports reports) = .object [("type", .string "status"),
      ("passed", .bool (found reports).isEmpty),
      ("files_checked", natural reports.length hfiles),
      ("files_invalid", natural (reports.countP fun report => !report.errors.isEmpty)
        (Nat.lt_of_le_of_lt List.countP_le_length hfiles)),
      ("total_errors", natural (found reports).length herrors)] := by
  have hchecked : (Summary.ofReports reports).filesChecked = reports.length := rfl
  have hinvalid : (Summary.ofReports reports).filesInvalid =
      reports.countP fun report => !report.errors.isEmpty := rfl
  rw [statusRecord, passed_ofReports, totalErrors_ofReports, hchecked, hinvalid,
    count_eq_natural hfiles, count_eq_natural herrors, count_eq_natural]

/-- It is legible too. -/
theorem legible_statusRecord (hfiles : reports.length < 2 ^ 64)
    (herrors : (found reports).length < 2 ^ 64) :
    (statusRecord (.ofReports reports)).Legible Json.nestingLimit := by
  rw [statusRecord_eq hfiles herrors]
  refine .object (by simp [Entries.names]) fun member hmember => ?_
  simp only [List.mem_cons, List.not_mem_nil, or_false] at hmember
  rcases hmember with rfl | rfl | rfl | rfl | rfl
  · exact .string _
  · exact .bool _
  · exact legible_natural hfiles
  · exact legible_natural (Nat.lt_of_le_of_lt List.countP_le_length hfiles)
  · exact legible_natural herrors

/-! ## The text -/

/-- The line of an error in a file: its record, and a newline. -/
def errorLine (file : String) (error : FieldError) : String :=
  (Json.object [("type", .string "error"), ("file", .string file),
    ("field", error.field.elim .null .string), ("message", .string error.message),
    ("code", .string (codeText error.code))]).text ++ "\n"

/-- The line of the totals: their record, and a newline. Counts have 64 bits. -/
def statusLine (passed : Bool) (totals : Summary) : String :=
  let count (n : Nat) := natural (n % 2 ^ 64) (Nat.mod_lt n (by decide))
  (Json.object [("type", .string "status"), ("passed", .bool passed),
    ("files_checked", count totals.filesChecked), ("files_invalid", count totals.filesInvalid),
    ("total_errors", count totals.totalErrors)]).text ++ "\n"

/-- **A report for programs is the lines of the errors in each file**, and one line of the totals. -/
theorem lines_eq (reports : List FileReport) :
    lines reports =
      String.join (reports.flatMap fun report => report.errors.map (errorLine report.file)) ++
        statusLine (Summary.ofReports reports).passed (.ofReports reports) := by
  have herrors : ∀ report : FileReport, report.errors.map (errorLine report.file) =
      (report.errors.map (errorRecord report.file)).map fun record => record.text ++ "\n" := by
    intro report
    rw [List.map_map]
    exact List.map_congr_left fun error _ => by rw [Function.comp_apply, errorRecord_eq, errorLine]
  have hstatus : ∀ totals : Summary,
      statusLine totals.passed totals = (statusRecord totals).text ++ "\n" := fun _ => rfl
  simp only [lines, linesOf, records, List.map_append, List.map_cons, List.map_nil,
    List.map_flatMap, herrors, hstatus, String.join_append, String.join_cons, String.join_nil,
    String.append_empty]

/-! ## Reading a report -/

/-- **A report for programs is read back.** Split at its newlines it is as many lines as there are
errors and one more, and nothing after the last newline. The line of each error, in the order of the
reports and in each report in the order of its errors, is JSON and says which file and which field
it is about, where null stands for the value as a whole, with the message and the name of the code,
from which the code is read back. The last line is JSON and says how many files were checked, how
many have errors, how many errors there are, and that the check is passed exactly if there are none.
Counts have 64 bits. -/
theorem lines_readBack (reports : List FileReport) :
    ∃ errorLines statusLine,
      (lines reports).toList.splitOn '\n' = errorLines ++ [statusLine, []] ∧
      errorLines.length = (found reports).length ∧
      errorLines.map Json.ofChars? = (found reports).map (fun (file, error) =>
        some (.object [("type", .string "error"), ("file", .string file),
          ("field", error.field.elim .null .string), ("message", .string error.message),
          ("code", .string (codeText error.code))])) ∧
      (∀ code, ErrorCode.ofName? (codeText code) = some code) ∧
      ∀ (hfiles : reports.length < 2 ^ 64) (herrors : (found reports).length < 2 ^ 64),
        Json.ofChars? statusLine = some (.object [("type", .string "status"),
          ("passed", .bool (found reports).isEmpty),
          ("files_checked", natural reports.length hfiles),
          ("files_invalid", natural (reports.countP fun report => !report.errors.isEmpty)
            (Nat.lt_of_le_of_lt List.countP_le_length hfiles)),
          ("total_errors", natural (found reports).length herrors)]) := by
  refine ⟨(found reports).map fun (file, error) => (errorRecord file error).write,
    (statusRecord (.ofReports reports)).write, ?_, by simp, ?_, ofName?_codeText,
    fun hfiles herrors => ?_⟩
  · rw [lines, splitOn_linesOf, records_eq]
    simp [Function.comp_def]
  · rw [List.map_map]
    refine List.map_congr_left fun (file, error) _ => ?_
    rw [Function.comp_apply, Json.ofChars?_write (legible_errorRecord file error), errorRecord_eq]
  · rw [Json.ofChars?_write (legible_statusRecord hfiles herrors), statusRecord_eq hfiles herrors]

/-- A valid file, one whose name and whose error need escapes, and one with an error of each of the
other codes. -/
def nightlyReports : List FileReport :=
  [⟨"a.json", []⟩, ⟨"b\n\"c\".json", [⟨"no \\ \x01", none, .invalidRoot⟩]⟩,
    ⟨"d.json", [⟨"is missing", some "tea", .missingField⟩,
      ⟨"is empty", some "cups[0]", .invalid⟩,
      ⟨"is unknown", some "out-of-bounds-field", .outOfBoundsField⟩]⟩]

/-- Their report is five lines: the newline in the name is not one that ends a line. -/
theorem lines_readBack_nightlyReports : ∃ root missing invalid unknown statusLine,
    (lines nightlyReports).toList.splitOn '\n' =
      [root, missing, invalid, unknown, statusLine, []] ∧
    Json.ofChars? root = some (.object [("type", .string "error"),
      ("file", .string "b\n\"c\".json"), ("field", .null), ("message", .string "no \\ \x01"),
      ("code", .string "invalid_root")]) ∧
    Json.ofChars? missing = some (.object [("type", .string "error"), ("file", .string "d.json"),
      ("field", .string "tea"), ("message", .string "is missing"),
      ("code", .string "missing_field")]) ∧
    Json.ofChars? invalid = some (.object [("type", .string "error"), ("file", .string "d.json"),
      ("field", .string "cups[0]"), ("message", .string "is empty"),
      ("code", .string "invalid")]) ∧
    Json.ofChars? unknown = some (.object [("type", .string "error"), ("file", .string "d.json"),
      ("field", .string "out-of-bounds-field"), ("message", .string "is unknown"),
      ("code", .string "out_of_bounds_field")]) ∧
    Json.ofChars? statusLine = some (.object [("type", .string "status"), ("passed", .bool false),
      ("files_checked", natural 3 (by decide)), ("files_invalid", natural 2 (by decide)),
      ("total_errors", natural 4 (by decide))]) := by
  obtain ⟨errorLines, statusLine, hsplit, hlength, herrors, -, hstatus⟩ :=
    lines_readBack nightlyReports
  match errorLines, hlength with
  | [root, missing, invalid, unknown], _ =>
    obtain ⟨hroot, herrors⟩ := List.cons.inj herrors
    obtain ⟨hmissing, herrors⟩ := List.cons.inj herrors
    obtain ⟨hinvalid, herrors⟩ := List.cons.inj herrors
    exact ⟨root, missing, invalid, unknown, statusLine, hsplit, hroot, hmissing, hinvalid,
      (List.cons.inj herrors).1, hstatus (by decide) (by decide)⟩

end Report

end Rulebook
