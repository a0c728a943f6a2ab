import Rulebook.Path
import Rulebook.Toml.Reader
import Rulebook.Validator

/-!
# Settings

The settings file of the command line, in TOML. It has three sections, all of them optional:
`validator`, `check` and `output`. Nothing else may be in it. A section is a table, or an array with
its values in order.
-/

namespace Rulebook

/-- How results are printed. -/
inductive OutputFormat where
  /-- For people. -/
  | human
  /-- One JSON object a line. -/
  | lines
deriving DecidableEq

/-- The format of a name. -/
def OutputFormat.ofName? : String → Option OutputFormat
  | "human" => some human
  | "jsonl" => some lines
  | _ => none

/-- The name of a format. -/
def OutputFormat.name : OutputFormat → String
  | human => "human"
  | lines => "jsonl"

/-- When results are printed in colours. -/
inductive ColorChoice where
  /-- On a terminal. -/
  | auto
  | always
  | never
deriving DecidableEq

/-- The choice of a name. -/
def ColorChoice.ofName? : String → Option ColorChoice
  | "auto" => some auto
  | "always" => some always
  | "never" => some never
  | _ => none

/-- The name of a choice. -/
def ColorChoice.name : ColorChoice → String
  | auto => "auto"
  | always => "always"
  | never => "never"

/-- The settings. Files are documents, so by default they must not be scalars. -/
structure Settings where
  /-- What the validator does beside applying the rules. -/
  validator : Validator.Options := { validateRoot := true }
  /-- The path of the rule file. -/
  rules : Option String := none
  /-- Whether fields without a rule are rejected. -/
  closed : Bool := false
  /-- How results are printed. -/
  format : OutputFormat := .human
  /-- Whether they are printed in colours. -/
  color : ColorChoice := .auto
deriving DecidableEq

namespace Settings

/-! ## Reading -/

/-- A boolean; false if there is none. -/
def boolean? : Option Toml → Option Bool
  | none => some false
  | some (.boolean b) => some b
  | some _ => none

/-- Whether a value holds nothing. -/
def isVoid : Toml → Bool
  | .table [] => true
  | .array [] => true
  | _ => false

/-- The name of a choice: a text, or the only member of a table, with nothing in it. -/
def choiceName? : Toml → Option String
  | .string name => some name
  | .table [(name, value)] => if isVoid value then some name else none
  | _ => none

/-- A choice; the usual one if there is none. -/
def choice? {α : Type} (ofName? : String → Option α) (usual : α) : Option Toml → Option α
  | none => some usual
  | some value => (choiceName? value).bind ofName?

/-- The members of a section, which has no others than the given ones. -/
def sectionOf? (names : List String) : Toml → Option (Entries Toml)
  | .table members => if (Entries.names members).all names.contains then some members else none
  | .array items => some (names.zip items)
  | _ => none

/-- The section `validator`. -/
def validatorSection? (value : Toml) : Option Validator.Options := do
  let members ← sectionOf? ["validate_root", "convert", "widely_undefined"] value
  return {
    validateRoot := ← boolean? (Entries.value? members "validate_root")
    convert := ← boolean? (Entries.value? members "convert")
    widelyUndefined := ← boolean? (Entries.value? members "widely_undefined") }

/-- The section `check`. -/
def checkSection? (settings : Settings) (value : Toml) : Option Settings := do
  let members ← sectionOf? ["rules", "closed"] value
  let rules ← match Entries.value? members "rules" with
    | none => some none
    | some (.string path) => some (some path)
    | some _ => none
  return { settings with rules, closed := ← boolean? (Entries.value? members "closed") }

/-- The section `output`. -/
def outputSection? (settings : Settings) (value : Toml) : Option Settings := do
  let members ← sectionOf? ["format", "color"] value
  return { settings with
    format := ← choice? OutputFormat.ofName? .human (Entries.value? members "format")
    color := ← choice? ColorChoice.ofName? .auto (Entries.value? members "color") }

/-- Adds a section to the settings. -/
def add? (settings : Settings) (entry : String × Toml) : Option Settings :=
  match entry.1 with
  | "validator" => do return { settings with validator := ← validatorSection? entry.2 }
  | "check" => checkSection? settings entry.2
  | "output" => outputSection? settings entry.2
  | _ => none

/-- The settings that a document writes. -/
def ofToml? (members : Entries Toml) : Option Settings :=
  members.foldlM add? {}

/-! ## Checking -/

/-- Settings that are acceptable. Rejecting fields without a rule needs data that have fields. -/
def accepted (settings : Settings) : Except ConfigError Settings :=
  if settings.rules = some "" then .error (.unacceptable "check.rules must not be empty")
  else if settings.closed && !settings.validator.validateRoot then
    .error (.unacceptable "check.closed requires validator.validate_root = true")
  else .ok settings

/-- The settings that a text writes. -/
def ofText (text : String) : Except ConfigError Settings :=
  match (Toml.ofText? text).bind ofToml? with
  | some settings => settings.accepted
  | none => .error .unparsable

/-- The settings in a file of a given path. The path of the rule file starts where the file is. -/
def ofFile (path : String) (content : Except ReadError String) : Except ConfigError Settings :=
  match content with
  | .error cause => .error (.unreadable cause)
  | .ok text => do
    let settings ← ofText text
    return { settings with rules := settings.rules.map (Path.inside (Path.parent path)) }

end Settings

end Rulebook
