import Rulebook.ConfigError
import Rulebook.FieldError
import Rulebook.Message
import Rulebook.Rule.Basic

/-!
# Checkers

A checker decides about one value under one rule. It may also edit both: the value goes back into
the data, and the rule is its own copy, which the next item of an array sees again. What else a
checker can see is in its `Checker.Context`; through it a checker validates nested data or asks the
checker of another type.

The built-in checkers are named by a `Checker.Kind`, so that a statement about all of them is a
statement about finitely many cases.
-/

namespace Rulebook

/-- What a validation leaves: the errors it found, or why it could not go on, and the data as far as
it was edited. No errors means that the data are valid. -/
structure Validated (α : Type) where
  /-- The errors in the data. -/
  result : Except ConfigError (List FieldError)
  /-- The data after the validation. -/
  target : α

/-- What a checker leaves. -/
structure Checked where
  /-- What it says, or why it could not say anything. -/
  verdict : Except ConfigError Verdict
  /-- The rule after the check. -/
  rule : Rule
  /-- The value after the check. -/
  value : Json

namespace Checker

/-- What a checker sees beside its rule and its value. -/
structure Context where
  /-- The field that is checked; for the items of an array, the field of the array. -/
  field : String
  /-- All fields of the object around, the checked one as null. -/
  siblings : Json.Members
  /-- The formatter for messages. -/
  say : Formatter
  /-- Validates nested data. -/
  validate : RuleSet → Json → Validated Json
  /-- The checker of another type, to be run with siblings of its own. -/
  require : String → Except ConfigError (Json.Members → Rule → Json → Checked)

/-- The built-in checkers. -/
inductive Kind where
  | number
  | integer
  | string
  | id
  | date
  | dateTime
  | boolean
  | array
  | object
  | enumeration
  | email
  | password
  | url
deriving DecidableEq

end Checker

/-- A checker. -/
inductive Checker where
  /-- A built-in one. -/
  | builtin (kind : Checker.Kind)
  /-- One for texts that match a pattern. -/
  | pattern (format : Pattern)
  /-- One given by the caller. -/
  | custom (check : Checker.Context → Rule → Json → Checked)

end Rulebook
