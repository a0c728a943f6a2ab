import Rulebook.Decimal.Digits
import Rulebook.Report.Basic

/-!
# Reports for people

One line for each error, and one for the totals. A report is made of pieces of text with a style; it
is printed with the styles, as escape sequences of a terminal, or without them. A style ends with
its piece.
-/

namespace Rulebook

namespace Report

/-- How a piece of text looks. -/
inductive Style where
  | plain
  | bold
  | yellow
  | boldGreen
  | boldRed
deriving DecidableEq, Repr

/-- A piece of text with its style. -/
structure Piece where
  /-- The style. -/
  style : Style
  /-- The text. -/
  text : String
deriving DecidableEq, Repr

/-- An escape sequence of a terminal. -/
def sequence (code : String) : String :=
  "\x1b[" ++ code ++ "m"

/-- The sequences that set a style, after one that ends any other. -/
def Style.start : Style → String
  | plain => ""
  | bold => sequence "0" ++ sequence "1"
  | yellow => sequence "0" ++ sequence "33"
  | boldGreen => sequence "0" ++ sequence "1" ++ sequence "32"
  | boldRed => sequence "0" ++ sequence "1" ++ sequence "31"

/-- The sequence that ends a style. -/
def Style.stop : Style → String
  | plain => ""
  | _ => sequence "0"

/-- A piece with its style. -/
def Piece.styled (piece : Piece) : String :=
  piece.style.start ++ piece.text ++ piece.style.stop

/-- The line of an error in a file. -/
def errorPieces (file : String) (error : FieldError) : List Piece :=
  let place := match error.field with
    | some field => [⟨.yellow, field⟩, ⟨.plain, ": "⟩]
    | none => []
  ⟨.bold, file⟩ :: ⟨.plain, ": "⟩ :: place
    ++ [⟨.plain, error.message ++ " (" ++ error.code.name ++ ")\n"⟩]

/-- The line of the totals. -/
def summaryPieces (summary : Summary) : List Piece :=
  if summary.passed then
    [⟨.boldGreen, "Check PASSED"⟩,
      ⟨.plain, ": " ++ Decimal.text summary.filesChecked ++ " file(s) valid\n"⟩]
  else
    [⟨.boldRed, "Check FAILED"⟩,
      ⟨.plain, ": " ++ Decimal.text summary.totalErrors ++ " error(s) in "
        ++ Decimal.text summary.filesInvalid ++ " of " ++ Decimal.text summary.filesChecked
        ++ " file(s)\n"⟩]

/-- The pieces of a report. -/
def pieces (reports : List FileReport) : List Piece :=
  reports.flatMap (fun report => report.errors.flatMap (errorPieces report.file))
    ++ summaryPieces (.ofReports reports)

/-- A report for people, in colours or without. -/
def human (colored : Bool) (reports : List FileReport) : String :=
  String.join ((pieces reports).map fun piece => if colored then piece.styled else piece.text)

end Report

end Rulebook
