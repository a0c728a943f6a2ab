import Rulebook.Rule.File
import Rulebook.Rule.WellFormed
import Rulebook.Validator

/-!
# Guards

A guard stands in front of code that needs valid data. An open guard lets fields without a rule
pass; a closed one rejects them, once everything else is valid. The rules come from a `RuleSource`.
-/

namespace Rulebook

/-! ## Rules -/

/-- Where a guard reads its rules from. -/
inductive RuleSource where
  /-- A rule set as it is, in which no name is given two specs. -/
  | inline (rules : RuleSet) (wellFormed : rules.WellFormed)
  /-- A rule document. -/
  | json (document : Json)
  /-- A rule file of a path, as far as it could be read. -/
  | file (path : String) (content : Except ReadError String)

/-- The rules of a source. -/
def RuleSource.load : RuleSource → Except ConfigError RuleSet
  | inline rules _ => .ok rules
  | json document => RuleSet.ofJson document
  | file path content => RuleSet.ofFile path content

/-! ## Rejections -/

/-- Why a guard rejects its data. -/
inductive Rejection where
  /-- There are none. -/
  | noData
  /-- They have errors. -/
  | invalid (errors : List FieldError)
  /-- The rules cannot be used. -/
  | config (error : ConfigError)

/-- The wording of a rejection. -/
def Rejection.message : Rejection → String
  | noData => "No data to validate"
  | invalid errors => "Validation failed with " ++ Decimal.text errors.length ++ " error(s)"
  | config error => error.validationMessage

/-- What a guard leaves: whether it lets the data pass, and the data as far as they were edited. -/
structure Guarded where
  /-- Whether the data pass, or why not. -/
  result : Except Rejection Unit
  /-- The data after the validation. -/
  target : Json

/-! ## Checks -/

/-- Which fields a guard lets pass. -/
inductive Guard.Mode where
  /-- Any. -/
  | opened
  /-- Those with a rule. -/
  | closed
deriving DecidableEq

/-- What a guard is made of. -/
structure Guard where
  /-- What validates the data. -/
  validator : Validator

namespace Guard

/-- A guard with the built-in types. It always rejects data that are neither an object nor an array.
-/
def ofOptions (options : Validator.Options) : Guard :=
  ⟨{ options := { options with validateRoot := true } }⟩

/-- The path of the error about a field without a rule. -/
def outOfBoundsField : String := "out-of-bounds-field"

/-- The first field without a rule. -/
def unknownField? (rules : RuleSet) : Json → Option String
  | .object fields => (Entries.names fields).find? fun name => !rules.contains name
  | _ => none

/-- The error about a field without a rule. -/
def unknownFieldError (guard : Guard) (field : String) : FieldError :=
  ⟨guard.validator.say (.unknownField field), some outOfBoundsField, .outOfBoundsField⟩

/-- Lets data pass that are valid. -/
def checkOpen (guard : Guard) (rules : RuleSet) (data : Json) : Guarded :=
  if data.isNull then ⟨.error .noData, data⟩
  else
    let validated := guard.validator.validate rules data
    match validated.result with
    | .error e => ⟨.error (.config e), validated.target⟩
    | .ok [] => ⟨.ok (), validated.target⟩
    | .ok errors => ⟨.error (.invalid errors), validated.target⟩

/-- Lets data pass that are valid and have no field without a rule. -/
def checkClosed (guard : Guard) (rules : RuleSet) (data : Json) : Guarded :=
  let guarded := guard.checkOpen rules data
  match guarded.result with
  | .error rejection => ⟨.error rejection, guarded.target⟩
  | .ok () =>
    match unknownField? rules guarded.target with
    | some field => ⟨.error (.invalid [guard.unknownFieldError field]), guarded.target⟩
    | none => ⟨.ok (), guarded.target⟩

/-- Checks data against rules that may have failed to load. -/
def check (guard : Guard) (mode : Mode) (rules : Except ConfigError RuleSet) (data : Json) :
    Guarded :=
  match rules with
  | .error e => ⟨.error (.config e), data⟩
  | .ok rules =>
    match mode with
    | .opened => guard.checkOpen rules data
    | .closed => guard.checkClosed rules data

end Guard

end Rulebook
