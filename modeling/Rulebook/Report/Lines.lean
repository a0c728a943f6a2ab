import Rulebook.Json.Writer
import Rulebook.Report.Basic

/-!
# Reports for programs

One JSON object a line: one for each error, and one for the totals.
-/

namespace Rulebook

namespace Report

/-- A count as JSON. Counts have 64 bits. -/
def count (n : Nat) : Json :=
  .number (.int (n % 2 ^ 64 : Nat) ⟨by omega, by omega⟩)

/-- The record of an error in a file. -/
def errorRecord (file : String) (error : FieldError) : Json :=
  .object [("type", .string "error"), ("file", .string file),
    ("field", match error.field with
      | some field => .string field
      | none => .null),
    ("message", .string error.message), ("code", .string error.code.name)]

/-- The record of the totals. -/
def statusRecord (summary : Summary) : Json :=
  .object [("type", .string "status"), ("passed", .bool summary.passed),
    ("files_checked", count summary.filesChecked), ("files_invalid", count summary.filesInvalid),
    ("total_errors", count summary.totalErrors)]

/-- The records of a report. -/
def records (reports : List FileReport) : List Json :=
  reports.flatMap (fun report => report.errors.map (errorRecord report.file))
    ++ [statusRecord (.ofReports reports)]

/-- Records one a line. -/
def linesOf (records : List Json) : String :=
  String.join (records.map fun record => record.text ++ "\n")

/-- A report for programs. -/
def lines (reports : List FileReport) : String :=
  linesOf (records reports)

end Report

end Rulebook
