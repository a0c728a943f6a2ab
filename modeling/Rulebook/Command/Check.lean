import Rulebook.Command.Arguments
import Rulebook.Guard
import Rulebook.Report.Human
import Rulebook.Report.Lines
import Rulebook.Rule.File

/-!
# Checking files

The command `check` validates data files against a rule file. It reads the settings, then the rules,
then each data file in turn, and reports on all of them; the first thing that cannot be read or used
ends it without a report. Arguments win over settings, except that a switch which is on in either is
on.

How files are read is a parameter, and so is how the results on them are put together: data files
may be checked side by side, and then it is open whose failure ends the check. One definition serves
the program and the statements about it.
-/

namespace Rulebook

namespace Command

/-! ## Failures -/

/-- Why a check ends without a report. -/
inductive Failure where
  /-- The settings or the rules cannot be used. -/
  | config (error : ConfigError)
  /-- There is no rule file. -/
  | noRules
  /-- A data file is not JSON. -/
  | unparsable (file : String)
  /-- A data file cannot be read. -/
  | unreadable (file : String) (cause : ReadError)

namespace Failure

/-- The wording of the failure. -/
def message : Failure → String
  | config error => error.validationMessage
  | noRules => "No rule file given. Pass --rules or set check.rules in fieldguard.toml"
  | unparsable file => "Parse error in " ++ file
  | unreadable file cause => "Failed to read " ++ file ++ ": " ++ cause.message

/-- Whether a text is not in its format, which callers may want to tell apart. -/
def isParseFailure : Failure → Bool
  | config .unparsable => true
  | unparsable _ => true
  | _ => false

end Failure

/-! ## Outcomes -/

/-- How a command ends. -/
inductive Exit where
  /-- All is well. -/
  | passed
  /-- Data have errors. -/
  | failed
  /-- Something cannot be read or used. -/
  | unusable
  /-- A text is not in its format. -/
  | unparsable
deriving DecidableEq, Repr

/-- The number of an exit. -/
def Exit.code : Exit → Nat
  | passed => 0
  | failed => 1
  | unusable => 2
  | unparsable => 3

/-- What a command leaves. -/
structure Outcome where
  /-- How it ends. -/
  exit : Exit
  /-- What it prints. -/
  output : String := ""
  /-- The line about its failure. -/
  complaint : Option String := none
deriving DecidableEq, Repr

/-- The outcome of a failure: nothing is printed but a line about it. -/
def Failure.outcome (failure : Failure) : Outcome where
  exit := if failure.isParseFailure then .unparsable else .unusable
  complaint := some ("Error: " ++ failure.message)

/-! ## One file -/

/-- What files are checked with. -/
structure Plan where
  /-- The rules. -/
  rules : RuleSet
  /-- The switches of the validator. -/
  options : Validator.Options
  /-- Whether fields without a rule are rejected. -/
  closed : Bool
  /-- How results are printed. -/
  format : OutputFormat
  /-- When they are printed in colours. -/
  color : ColorChoice

namespace Plan

/-- The errors in data. Where fields without a rule are rejected, absent data are an error too. -/
def errorsIn (plan : Plan) (data : Json) : Except ConfigError (List FieldError) :=
  if plan.closed then
    match ((Guard.ofOptions plan.options).checkClosed plan.rules data).result with
    | .ok () => .ok []
    | .error (.invalid errors) => .ok errors
    | .error .noData => .ok [.root Rejection.noData.message]
    | .error (.config e) => .error e
  else (Validator.validate { options := plan.options } plan.rules data).result

/-- The report on a file, as far as the file could be read. -/
def reportOn (plan : Plan) (file : String) (content : Except ReadError String) :
    Except Failure FileReport :=
  match content with
  | .error cause => .error (.unreadable file cause)
  | .ok text =>
    match Json.ofText? text with
    | none => .error (.unparsable file)
    | some data =>
      match plan.errorsIn data with
      | .ok errors => .ok ⟨file, errors⟩
      | .error e => .error (.config e)

/-- The outcome of a check with the given reports; colours are for terminals where that is left
open. -/
def outcome (plan : Plan) (terminal : Bool) (reports : List FileReport) : Outcome where
  exit := if (Summary.ofReports reports).passed then .passed else .failed
  output :=
    match plan.format with
    | .human => Report.human (plan.color = .always || (plan.color = .auto && terminal)) reports
    | .lines => Report.lines reports

end Plan

/-! ## Many files -/

/-- A way to put together the results on files: all reports in the order of the files, or the
failure of one of them. -/
structure Gathering where
  /-- The reports, or a failure. -/
  gather : List (Except Failure FileReport) → Except Failure (List FileReport)
  /-- Reports are kept, in order. -/
  gather_reports : ∀ reports, gather (reports.map .ok) = .ok reports
  /-- Where there are failures, the result is one of them. -/
  gather_failure : ∀ results failure, .error failure ∈ results →
    ∃ other, .error other ∈ results ∧ gather results = .error other

/-- The reports, or the first failure. -/
def Gathering.inOrder : Gathering where
  gather results := results.mapM id
  gather_reports reports := by
    induction reports with
    | nil => rfl
    | cons report rest ih =>
      rw [List.map_cons, List.mapM_cons, ih]
      rfl
  gather_failure results := by
    induction results with
    | nil => simp
    | cons result rest ih =>
      intro failure hfailure
      rw [List.mapM_cons]
      cases result with
      | error first => exact ⟨first, List.mem_cons_self, rfl⟩
      | ok report =>
        obtain ⟨other, hother, hgather⟩ := ih failure (by simpa using hfailure)
        refine ⟨other, List.mem_cons_of_mem _ hother, ?_⟩
        rw [hgather]
        rfl

/-! ## Settings and rules -/

/-- The settings file that is read without being asked for. -/
def defaultSettingsFile : String := "fieldguard.toml"

/-- The settings in the given file, or in the usual one if it is there. -/
def settingsFrom (given : Option String) (content : Except ReadError String) :
    Except ConfigError Settings :=
  match given, content with
  | none, .error .notFound => .ok {}
  | given, content => Settings.ofFile (given.getD defaultSettingsFile) content

/-- The switches of the validator under arguments and settings. -/
def CheckRequest.options (request : CheckRequest) (settings : Settings) : Validator.Options where
  validateRoot := settings.validator.validateRoot && !request.scalars
  convert := settings.validator.convert || request.convert
  widelyUndefined := settings.validator.widelyUndefined || request.widelyUndefined

/-- What files are checked with under arguments and settings. -/
def CheckRequest.plan (request : CheckRequest) (settings : Settings) (rules : RuleSet) : Plan where
  rules := rules
  options := request.options settings
  closed := request.closed || settings.closed
  format := request.format.getD settings.format
  color := request.color.getD settings.color

/-! ## The command -/

section

variable {m : Type → Type} [Monad m] (read : String → m (Except ReadError String))

/-- A result as a step of the command. -/
def step {α : Type} (result : Except Failure α) : ExceptT Failure m α :=
  ExceptT.mk (pure result)

/-- The plan of a check. -/
def planOf (request : CheckRequest) : ExceptT Failure m Plan := do
  let content ← read (request.settings.getD defaultSettingsFile)
  let settings ← step ((settingsFrom request.settings content).mapError Failure.config)
  match request.rules <|> settings.rules with
  | none => throw .noRules
  | some path =>
    let content ← read path
    let rules ← step ((RuleSet.ofFile path content).mapError Failure.config)
    return request.plan settings rules

/-- The results on files, in order. -/
def resultsOn (plan : Plan) (files : List String) : m (List (Except Failure FileReport)) :=
  files.mapM fun file => return plan.reportOn file (← read file)

/-- Checks files. -/
def check (gathering : Gathering) (terminal : Bool) (request : CheckRequest) : m Outcome := do
  let run : ExceptT Failure m Outcome := do
    let plan ← planOf read request
    let results ← (resultsOn read plan request.files : m _)
    let reports ← step (gathering.gather results)
    return plan.outcome terminal reports
  match ← run with
  | .ok outcome => return outcome
  | .error failure => return failure.outcome

end

end Command

end Rulebook
