import Rulebook.Checker.Basic
import Rulebook.Checker.Bounds

/-!
# Checks of objects and arrays

An object is checked against its schema. The items of an array are checked one after the other by
the checker of their type, with no siblings; a rule that is edited by the check of one item is seen
by the next one.
-/

namespace Rulebook

namespace Validated

variable {α : Type}

/-- The verdict on a value whose inside has been validated. -/
def verdict (validated : Validated α) : Except ConfigError Verdict :=
  validated.result.map fun errors => if errors.isEmpty then .valid else .nested errors

end Validated

namespace Checker

/-- An object, or an array, which has no fields. -/
def object (context : Context) (rule : Rule) (value : Json) : Checked :=
  if !value.isStructured then ⟨.ok (.invalid (context.say .notObject)), rule, value⟩
  else
    match rule.schema with
    | none => ⟨.ok .valid, rule, value⟩
    | some schema =>
      let validated := context.validate schema value
      ⟨validated.verdict, rule, validated.target⟩

/-! ## Arrays -/

/-- The place of an item in its array. -/
def itemPlace (index : Nat) : String :=
  "[" ++ Decimal.text index ++ "]"

/-- The errors of an array that the verdict on one item gives. -/
def itemErrors (index : Nat) : Verdict → List FieldError
  | .valid => []
  | .invalid message => [⟨message, some (itemPlace index), .invalid⟩]
  | .nested errors => errors.map (·.under (itemPlace index ++ "."))

/-- Checks items in turn, from the given index on. Items after one that cannot be checked are left
alone. -/
def items (check : Rule → Json → Checked) : (index : Nat) → Rule → List Json →
    Validated (List Json)
  | _, _, [] => ⟨.ok [], []⟩
  | index, rule, item :: rest =>
    let checked := check rule item
    match checked.verdict with
    | .error e => ⟨.error e, checked.value :: rest⟩
    | .ok verdict =>
      let others := items check (index + 1) checked.rule rest
      ⟨others.result.map (itemErrors index verdict ++ ·), checked.value :: others.target⟩

/-- The rule for the items of an array: the rule of the array itself for objects, whose schema it
holds. -/
def itemRule (rule : Rule) (itemType : String) : Rule :=
  if itemType = "object" then rule
  else rule.itemRule.getD (Spec.typeName itemType).normalize

/-- An array of a length within the bounds, with all its items if they have a type. -/
def array (context : Context) (rule : Rule) : Json → Checked
  | .array values =>
    match rule.brokenLength? values.length, rule.itemType with
    | some broken, _ => ⟨.ok (.invalid (context.say broken.lengthMessage)), rule, .array values⟩
    | none, none => ⟨.ok .valid, rule, .array values⟩
    | none, some itemType =>
      match context.require itemType with
      | .error e => ⟨.error e, rule, .array values⟩
      | .ok check =>
        let validated := items (check []) 0 (itemRule rule itemType) values
        ⟨validated.verdict, rule, .array validated.target⟩
  | value => ⟨.ok (.invalid (context.say .notArray)), rule, value⟩

end Checker

end Rulebook
