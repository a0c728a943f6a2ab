/-!
# Errors in data

A `FieldError` says what is wrong with one place of the data. Its path is written with dots and
brackets, relative to the value that is validated; `FieldError.under` moves an error from a nested
value to the value around it. A checker answers with a `Verdict`.
-/

namespace Rulebook

/-- What kind of error it is. -/
inductive ErrorCode where
  /-- A required field is absent. -/
  | missingField
  /-- A value fails its rule. -/
  | invalid
  /-- The value to validate is a scalar. -/
  | invalidRoot
  /-- The data has a field without a rule. -/
  | outOfBoundsField
deriving DecidableEq, Repr

namespace ErrorCode

/-- The name of a code in reports. -/
def name : ErrorCode → String
  | missingField => "missing_field"
  | invalid => "invalid"
  | invalidRoot => "invalid_root"
  | outOfBoundsField => "out_of_bounds_field"

/-- The code of a name. -/
def ofName? : String → Option ErrorCode
  | "missing_field" => some missingField
  | "invalid" => some invalid
  | "invalid_root" => some invalidRoot
  | "out_of_bounds_field" => some outOfBoundsField
  | _ => none

@[simp]
theorem ofName?_name (code : ErrorCode) : ofName? code.name = some code := by
  cases code <;> rfl

end ErrorCode

/-- An error in the data. -/
structure FieldError where
  /-- What is wrong, for people. -/
  message : String
  /-- Where it is wrong; nothing for the value as a whole. -/
  field : Option String
  /-- What kind of error it is. -/
  code : ErrorCode
deriving DecidableEq, Repr

namespace FieldError

/-- An error about the value as a whole. -/
def root (message : String) : FieldError :=
  ⟨message, none, .invalidRoot⟩

/-- The error as seen from the value around: its path follows `place`, and an error about the whole
is one about `place`. -/
def under (place : String) (error : FieldError) : FieldError :=
  { error with field := some (match error.field with
      | some field => place ++ field
      | none => place) }

/-- The error as a line of text. -/
def line (error : FieldError) : String :=
  match error.field with
  | some field => field ++ ": " ++ error.message ++ " (" ++ error.code.name ++ ")"
  | none => error.message ++ " (" ++ error.code.name ++ ")"

end FieldError

/-- What a checker says about a value. -/
inductive Verdict where
  /-- It satisfies its rule. -/
  | valid
  /-- It fails its rule, with the reason. -/
  | invalid (message : String)
  /-- There are errors inside it, with paths relative to it. -/
  | nested (errors : List FieldError)
deriving DecidableEq, Repr

namespace Verdict

/-- Whether nothing is wrong. -/
def isValid : Verdict → Bool
  | valid => true
  | invalid _ => false
  | nested errors => errors.isEmpty

/-- Invalid if there is a reason. -/
def ofReason : Option String → Verdict
  | some message => invalid message
  | none => valid

end Verdict

end Rulebook
