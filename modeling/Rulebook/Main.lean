import Rulebook.Command.Run

/-!
# The program

Validates JSON files against a rule file. This module only reads files and prints.
-/

namespace Rulebook

namespace Program

/-- The number of an error of the operating system, which may come negated. -/
def systemCode (code : UInt32) : Nat :=
  if code.toNat < 2 ^ 31 then code.toNat else 2 ^ 32 - code.toNat

/-- Why a file cannot be read. -/
def readErrorOf : IO.Error → ReadError
  | .noFileOrDirectory .. => .notFound
  | .inappropriateType _ code _ => if systemCode code = 20 then .notADirectory else .isADirectory
  | .permissionDenied .. => .denied
  | .invalidArgument _ code details =>
    if systemCode code = 36 then .nameTooLong else .other details
  | error => .other (toString error)

/-- The text of a file. -/
def readText (path : String) : IO (Except ReadError String) := do
  if path.contains '\x00' then return .error .badName
  try
    let bytes ← IO.FS.readBinFile path
    match String.fromUTF8? bytes with
    | some text => return .ok text
    | none => return .error .notText
  catch error => return .error (readErrorOf error)

/-- Whether standard output shows colours. -/
def showsColors : IO Bool := do
  let output ← IO.getStdout
  if (← IO.getEnv "NO_COLOR").isSome then return false
  match ← IO.getEnv "TERM" with
  | none => return false
  | some terminal => return terminal ≠ "dumb" && (← output.isTty)

/-- What the program is for, and its switches. -/
def usage : String :=
"Declarative field validation for JSON data

Usage: fieldguard [OPTIONS] <COMMAND>

Commands:
  check <DATA>...  Validate JSON data files against a rule file
  types            List the registered rule types
  help             Print this message

Options:
      --color <COLOR>    Output coloring: auto, always or never
      --config <CONFIG>  Configuration file (defaults to ./fieldguard.toml when present)
  -h, --help             Print help
  -V, --version          Print version

Options of check:
  -r, --rules <RULES>     Rule file (.json or .toml)
      --closed            Reject data fields that have no rule
      --convert           Coerce primitive values to the type of each rule before checking
      --widely-undefined  Treat empty strings as absent
      --no-validate-root  Accept data whose root is a scalar
  -f, --format <FORMAT>   Output format: human or jsonl

Options of types:
  -f, --format <FORMAT>   Output format: human or jsonl
"

end Program

end Rulebook

/-- Carries out a command line. -/
def main (words : List String) : IO UInt32 := do
  let terminal ← Rulebook.Program.showsColors
  match ← Rulebook.Command.run Rulebook.Program.readText terminal words with
  | .error stop =>
    match stop with
    | .help => IO.print Rulebook.Program.usage
    | .misused => IO.eprint Rulebook.Program.usage
    return UInt32.ofNat stop.code
  | .ok outcome =>
    IO.print outcome.output
    if let some complaint := outcome.complaint then IO.eprintln complaint
    return UInt32.ofNat outcome.exit.code
