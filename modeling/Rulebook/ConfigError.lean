import Rulebook.Json.Writer
import Rulebook.Pattern.Basic
import Rulebook.Text.Quoted

/-!
# Errors in rules and settings

A `ConfigError` says why rules, settings or a registration cannot be used. It ends the whole call,
while errors in the data are collected. Each one is a cause, and `ConfigError.message` is the only
place where they are worded.
-/

namespace Rulebook

/-! ## Files -/

/-- Why a file cannot be read. -/
inductive ReadError where
  /-- There is none of this name. -/
  | notFound
  /-- The path leads through something that is no directory. -/
  | notADirectory
  /-- It is a directory. -/
  | isADirectory
  /-- It may not be read. -/
  | denied
  /-- Its bytes are no text. -/
  | notText
  /-- No file can have this name. -/
  | badName
  /-- The path, or one of its parts, is longer than the system allows. -/
  | nameTooLong
  /-- Something else. -/
  | other (message : String)
deriving DecidableEq

/-- The wording of the error. -/
def ReadError.message : ReadError → String
  | notFound => "No such file or directory (os error 2)"
  | notADirectory => "Not a directory (os error 20)"
  | isADirectory => "Is a directory (os error 21)"
  | denied => "Permission denied (os error 13)"
  | notText => "stream did not contain valid UTF-8"
  | badName => "file name contained an unexpected NUL byte"
  | nameTooLong => "File name too long (os error 36)"
  | other message => message

/-! ## Rule records -/

/-- The attributes of a rule record. -/
inductive Attribute where
  | typeName
  | required
  | allowEmpty
  | empty
  | trim
  | min
  | max
  | values
  | format
  | itemType
  | rule
  | compare
  | fallback
  | message
  | conversion
  | widelyUndefined
deriving DecidableEq

namespace Attribute

/-- The key of an attribute in a rule record. -/
def key : Attribute → String
  | typeName => "type"
  | required => "required"
  | allowEmpty => "allowEmpty"
  | empty => "empty"
  | trim => "trim"
  | min => "min"
  | max => "max"
  | values => "values"
  | format => "format"
  | itemType => "itemType"
  | rule => "rule"
  | compare => "compare"
  | fallback => "default"
  | message => "message"
  | conversion => "convertType"
  | widelyUndefined => "widelyUndefined"

/-- The attribute of a key. Keys of two words may also be written with an underscore. -/
def ofKey? : String → Option Attribute
  | "type" => some typeName
  | "required" => some required
  | "allowEmpty" => some allowEmpty
  | "allow_empty" => some allowEmpty
  | "empty" => some empty
  | "trim" => some trim
  | "min" => some min
  | "max" => some max
  | "values" => some values
  | "format" => some format
  | "itemType" => some itemType
  | "item_type" => some itemType
  | "rule" => some rule
  | "compare" => some compare
  | "default" => some fallback
  | "message" => some message
  | "convertType" => some conversion
  | "convert_type" => some conversion
  | "widelyUndefined" => some widelyUndefined
  | "widely_undefined" => some widelyUndefined
  | _ => none

@[simp]
theorem ofKey?_key (a : Attribute) : ofKey? a.key = some a := by
  cases a <;> rfl

end Attribute

/-- What kind of value an attribute takes. -/
inductive Wanted where
  | boolean
  | string
  | number
deriving DecidableEq

/-- The name of a kind in messages. -/
def Wanted.name : Wanted → String
  | boolean => "a boolean"
  | string => "a string"
  | number => "f64"

/-- How a value of the wrong kind is shown. -/
def shownValue : Json → String
  | .null => "null"
  | .bool b => "boolean `" ++ (Json.bool b).text ++ "`"
  | .number (.int n h) => "integer `" ++ String.ofList (Json.Number.int n h).text ++ "`"
  | .number (.float x) => "floating point `" ++ String.ofList (Json.Number.float x).text ++ "`"
  | .string s => "string " ++ Text.quoted s
  | .array _ => "sequence"
  | .object _ => "map"

/-- What is wrong in a rule record. -/
inductive RecordFault where
  /-- An attribute has a value of the wrong kind. -/
  | wrongKind (found : Json) (wanted : Wanted)
  /-- An attribute is given twice. -/
  | repeated (which : Attribute)

/-- The wording of the fault. -/
def RecordFault.message : RecordFault → String
  | wrongKind found wanted =>
    "invalid type: " ++ shownValue found ++ ", expected " ++ wanted.name
  | repeated which => "duplicate field `" ++ which.key ++ "`"

/-! ## Rules -/

/-- Why rules or settings cannot be used. -/
inductive ConfigError where
  /-- A rule has a type without a checker, or no type; `known` are the types with one. -/
  | unknownType (typeName : Option String) (known : List String)
  /-- A type is registered without a name. -/
  | missingType
  /-- A type is registered a second time without leave. -/
  | duplicateType (typeName : String)
  /-- A type is registered with a coercion that does not exist. -/
  | unknownCoercion (coercion typeName : String)
  /-- An enumeration has no values. -/
  | missingValues (field : String)
  /-- A pattern is no regular expression. -/
  | invalidPattern (pattern : Pattern.Invalid)
  /-- A rule set is not written as an object; `path` is the rule around it. -/
  | notARuleSet (path : Option String)
  /-- A rule record is malformed. -/
  | badRecord (path : String) (fault : RecordFault)
  /-- A text is not in its format. -/
  | unparsable
  /-- A file cannot be read. -/
  | unreadable (cause : ReadError)
  /-- A value is well-formed and still not acceptable. -/
  | unacceptable (reason : String)
  /-- Checkers call each other without end. -/
  | endlessChecks

namespace ConfigError

/-- The wording of the error. -/
def message : ConfigError → String
  | unknownType typeName known =>
    "Rule type must be one of " ++ String.intercalate ", " known ++ ", but got: "
      ++ typeName.getD "<none>"
  | missingType => "Missing rule type name"
  | duplicateType typeName => "Rule type `" ++ typeName ++ "` already exists"
  | unknownCoercion coercion typeName =>
    "Invalid rule definition: Unknown coercion '" ++ coercion ++ "' for type '" ++ typeName ++ "'"
  | missingValues field => "Enum rule for " ++ field ++ " requires an array of values"
  | invalidPattern pattern => "Invalid regex pattern: " ++ pattern.message
  | notARuleSet none => "Invalid rule definition: Rule set must be an object"
  | notARuleSet (some path) =>
    "Invalid rule definition: Nested rule set for '" ++ path ++ "' must be an object"
  | badRecord path fault =>
    "Invalid rule definition: Rule for '" ++ path ++ "': " ++ fault.message
  | unparsable => "Parse error"
  | unreadable cause => "I/O error: " ++ cause.message
  | unacceptable reason => "Validation error: " ++ reason
  | endlessChecks => "Checkers call each other without end"

/-- The wording of the error where it comes out of a validation. -/
def validationMessage (error : ConfigError) : String :=
  "Configuration error: " ++ error.message

end ConfigError

end Rulebook
