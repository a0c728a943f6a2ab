import Rulebook.Registry

/-!
# Validation

A `Validator` checks data against a rule set. Fields are taken in the order of the rules, and each
goes through the same steps:

1. a text is trimmed if the rule says so, and an empty one becomes null where it counts as absent;
2. an absent field is an error if it is required; otherwise it gets the rule's default, if there is
   one;
3. the checker of the type is looked up, and the value is converted;
4. the checker runs, and its errors are recorded under the name of the field.

The first error in the rules themselves ends the validation; what was edited before stays edited.
Data that are no object have no fields.

Checkers of nested data call back into the validation through their context. `Validator.context`
bounds how often that may happen in a row; `Validator.depth` is more than the rules can need, unless
checkers given by the caller call each other without end.
-/

namespace Rulebook

/-- What a validator does beside applying the rules. -/
structure Validator.Options where
  /-- Data that are neither an object nor an array are an error. -/
  validateRoot : Bool := false
  /-- Values are converted to their types before they are checked. -/
  convert : Bool := false
  /-- Empty texts count as absent. -/
  widelyUndefined : Bool := false
deriving DecidableEq

/-- What checks data against rules. -/
structure Validator where
  /-- The switches. -/
  options : Validator.Options := {}
  /-- The types. -/
  registry : Registry := .builtin
  /-- What words the messages. -/
  say : Formatter := Message.fill

namespace Validator

/-! ## One field -/

/-- A value after trimming, if the rule trims. -/
def trimmed (rule : Rule) (value : Json) : Json :=
  match value with
  | .string s => if rule.trim then .string (String.ofList (Text.trim s.toList)) else .string s
  | value => value

/-- A value in which an empty text is null, if it counts as absent. -/
def collapsed (options : Options) (rule : Rule) (value : Json) : Json :=
  match value with
  | .string s =>
    if rule.widelyUndefined.getD options.widelyUndefined && s.isEmpty then .null else .string s
  | value => value

/-- The fields after the first step for a field. -/
def prepared (options : Options) (rule : Rule) (field : String) (fields : Json.Members) :
    Json.Members :=
  match Entries.value? fields field with
  | some value => Entries.put fields field (collapsed options rule (trimmed rule value))
  | none => fields

/-- The coercion that applies to a rule: the one it asks for, else, where values are converted, the
one of its type. -/
def coercionFor? (validator : Validator) (rule : Rule) : Option Coercion :=
  match rule.conversion with
  | some (.custom convert) => some (.custom convert)
  | some (.named name) => validator.registry.resolve? name
  | none =>
    if validator.options.convert then rule.typeName.bind validator.registry.coercionFor? else none

/-- A value after conversion. Objects and arrays are never converted. -/
def converted (validator : Validator) (rule : Rule) (fields : Json.Members) (value : Json) : Json :=
  if value.isStructured then value
  else
    match validator.coercionFor? rule with
    | some coercion => coercion.apply value fields
    | none => value

/-- The errors that a verdict on a field gives. The errors inside an object follow a point. -/
def fieldErrors (field : String) (rule : Rule) : Verdict → List FieldError
  | .valid => []
  | .invalid message => [⟨message, some field, .invalid⟩]
  | .nested errors =>
    errors.map (·.under (if rule.typeName = some "object" then field ++ "." else field))

/-- What becomes of an absent field. -/
def absent (validator : Validator) (rule : Rule) (field : String) (fields : Json.Members) :
    Validated Json.Members :=
  if rule.isRequired then
    ⟨.ok [⟨validator.say (.required field), some field, .missingField⟩], fields⟩
  else
    match rule.fallback with
    | some value => ⟨.ok [], Entries.put fields field value⟩
    | none => ⟨.ok [], fields⟩

/-- What becomes of a field with a value. The field reads as null to its own checker. -/
def present (validator : Validator) (context : String → Json.Members → Checker.Context)
    (rule : Rule) (field : String) (fields : Json.Members) (value : Json) :
    Validated Json.Members :=
  match validator.registry.require rule.typeName with
  | .error e => ⟨.error e, fields⟩
  | .ok checker =>
    let checked := checker.run (context field (Entries.put fields field .null)) rule
      (validator.converted rule fields value)
    ⟨checked.verdict.map (fieldErrors field checked.rule),
      Entries.put fields field checked.value⟩

/-- Validates one field. -/
def validateField (validator : Validator) (context : String → Json.Members → Checker.Context)
    (rule : Rule) (field : String) (fields : Json.Members) : Validated Json.Members :=
  let fields := prepared validator.options rule field fields
  match (Entries.value? fields field).filter fun value => !value.isNull with
  | none => validator.absent rule field fields
  | some value => validator.present context rule field fields value

/-! ## All fields -/

/-- Validates fields in turn, up to the first that cannot be validated. -/
def validateFields (validator : Validator) (context : String → Json.Members → Checker.Context) :
    List (String × Spec) → Json.Members → Validated Json.Members
  | [], fields => ⟨.ok [], fields⟩
  | (field, spec) :: rest, fields =>
    let first := validator.validateField context spec.normalize field fields
    match first.result with
    | .error e => ⟨.error e, first.target⟩
    | .ok errors =>
      let others := validator.validateFields context rest first.target
      ⟨others.result.map (errors ++ ·), others.target⟩

/-- Validates data with the given context for checkers. -/
def validateIn (validator : Validator) (context : String → Json.Members → Checker.Context)
    (rules : RuleSet) (target : Json) : Validated Json :=
  if validator.options.validateRoot && !target.isStructured then
    ⟨.ok [.root (validator.say .notStructured)], target⟩
  else
    match target with
    | .object fields =>
      let validated := validator.validateFields context rules.entries fields
      ⟨validated.result, .object validated.target⟩
    | target => ⟨(validator.validateFields context rules.entries []).result, target⟩

/-! ## Nested data -/

/-- What checkers see. They may call back so many times in a row. -/
def context (validator : Validator) : (depth : Nat) → String → Json.Members → Checker.Context
  | 0, field, siblings =>
    { field, siblings, say := validator.say
      validate := fun _ target => ⟨.error .endlessChecks, target⟩
      require := fun typeName => (validator.registry.require (some typeName)).map
        fun _ _ rule value => ⟨.error .endlessChecks, rule, value⟩ }
  | depth + 1, field, siblings =>
    { field, siblings, say := validator.say
      validate := validator.validateIn (validator.context depth)
      require := fun typeName => (validator.registry.require (some typeName)).map
        fun checker siblings rule value =>
          checker.run (validator.context depth field siblings) rule value }

/-- How often checkers may call back in a row under some rules: at each level of nesting once into
the rules, and once for each type. -/
def depth (validator : Validator) (rules : RuleSet) : Nat :=
  (rules.height + 1) * (validator.registry.size + 2)

/-- Validates data against rules, editing them on the way. -/
def validate (validator : Validator) (rules : RuleSet) (target : Json) : Validated Json :=
  validator.validateIn (validator.context (validator.depth rules)) rules target

end Validator

end Rulebook
