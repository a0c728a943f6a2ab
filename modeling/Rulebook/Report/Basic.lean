import Rulebook.FieldError

/-!
# Reports

What was found in each of some files, and the totals.
-/

namespace Rulebook

/-- The errors in one file. -/
structure FileReport where
  /-- The path of the file. -/
  file : String
  /-- Its errors. -/
  errors : List FieldError
deriving DecidableEq, Repr

/-- Whether a file has no errors. -/
def FileReport.isValid (report : FileReport) : Bool :=
  report.errors.isEmpty

/-- The totals of some reports. -/
structure Summary where
  /-- How many files there are. -/
  filesChecked : Nat
  /-- How many of them have errors. -/
  filesInvalid : Nat
  /-- How many errors there are. -/
  totalErrors : Nat
deriving DecidableEq, Repr

namespace Summary

/-- The totals of some reports. -/
def ofReports (reports : List FileReport) : Summary where
  filesChecked := reports.length
  filesInvalid := reports.countP fun report => !report.isValid
  totalErrors := (reports.flatMap fun report => report.errors).length

/-- Whether no file has errors. -/
def passed (summary : Summary) : Bool :=
  summary.filesInvalid = 0

end Summary

end Rulebook
