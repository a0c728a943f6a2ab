import Rulebook.Coercion
import Rulebook.Pattern.Basic

/-!
# Rules

A `RuleSet` gives a `Spec` to each field name, in the order in which the names were first given one.
A spec is a full `Rule` or one of three shorthands, and `Spec.normalize` is the rule that it stands
for: a type name that ends in a question mark makes the rule optional.
-/

namespace Rulebook

/-- The coercion that a rule or a registration asks for. -/
inductive Coercion.Request where
  /-- A built-in coercion, or that of a type. -/
  | named (name : String)
  /-- A function of the caller. -/
  | custom (convert : Conversion)

mutual

/-- A constraint on one value. Which attributes matter depends on the type. -/
structure Rule where
  /-- The type, which names a checker. -/
  typeName : Option String := none
  /-- Whether the field must be present; it must unless this says otherwise. -/
  required : Option Bool := none
  /-- Whether an empty text is accepted. -/
  allowEmpty : Option Bool := none
  /-- An older name for the same, used where that is unset. -/
  empty : Option Bool := none
  /-- Whether blanks around a text are cut off before it is checked. -/
  trim : Bool := false
  /-- The least value or length. -/
  min : Option Binary64 := none
  /-- The greatest value or length. -/
  max : Option Binary64 := none
  /-- The values of an enumeration. -/
  values : Option (List Json) := none
  /-- The pattern that a text must match. -/
  format : Option Pattern := none
  /-- The type of the items of an array. -/
  itemType : Option String := none
  /-- The rules for the fields of an object, or of the objects in an array. -/
  schema : Option RuleSet := none
  /-- The rule for the items of an array that are not typed as objects. -/
  itemRule : Option Rule := none
  /-- The field that a password must repeat. -/
  compare : Option String := none
  /-- The value of an optional field that is absent. -/
  fallback : Option Json := none
  /-- The message for a text that does not match. -/
  message : Option String := none
  /-- The coercion to use instead of the one of the type. -/
  conversion : Option Coercion.Request := none
  /-- Whether an empty text counts as absent, if the rule decides that. -/
  widelyUndefined : Option Bool := none

/-- A rule as it is given. -/
inductive Spec where
  /-- A full rule. -/
  | record (rule : Rule)
  /-- A type. -/
  | typeName (name : String)
  /-- An enumeration. -/
  | oneOf (values : List Json)
  /-- A text that matches a pattern. -/
  | pattern (format : Pattern)

/-- A spec for each of some field names. -/
structure RuleSet where
  /-- The specs in the order of the names. -/
  entries : List (String × Spec) := []

end

namespace Rule

/-- Whether the field must be present. -/
def isRequired (rule : Rule) : Bool :=
  rule.required != some false

/-- Whether an empty text is accepted: as `allowEmpty` says, else as `empty` says, else where the
field is optional. -/
def allowsEmpty (rule : Rule) : Bool :=
  (rule.allowEmpty <|> rule.empty).getD !rule.isRequired

end Rule

/-! ## The rule of a spec -/

/-- A type name without the question mark at its end, if it has one. -/
def optionalType? (typeName : String) : Option String :=
  match typeName.toList.reverse with
  | '?' :: rest => some (String.ofList rest.reverse)
  | _ => none

/-- A question mark at the end of the type makes the rule optional. -/
def Rule.withMarker (rule : Rule) : Rule :=
  match rule.typeName.bind optionalType? with
  | some typeName => { rule with typeName := some typeName, required := some false }
  | none => rule

/-- The rule that a spec writes, markers aside. -/
def Spec.expand : Spec → Rule
  | .record rule => rule
  | .typeName name => { typeName := some name }
  | .oneOf values => { typeName := some "enum", values := some values }
  | .pattern format => { typeName := some "string", format := some format }

/-- The rule that a spec stands for. -/
def Spec.normalize (spec : Spec) : Rule :=
  spec.expand.withMarker

/-! ## Rule sets -/

namespace RuleSet

/-- The rule set without fields. -/
def empty : RuleSet := ⟨[]⟩

/-- Gives a field a spec. A name that has one keeps its place. -/
def insert (rules : RuleSet) (name : String) (spec : Spec) : RuleSet :=
  ⟨Entries.put rules.entries name spec⟩

/-- The spec of a field. -/
def get? (rules : RuleSet) (name : String) : Option Spec :=
  Entries.value? rules.entries name

/-- Whether a field has a spec. -/
def contains (rules : RuleSet) (name : String) : Bool :=
  Entries.has rules.entries name

/-- The names of the fields, in order. -/
def names (rules : RuleSet) : List String :=
  Entries.names rules.entries

/-- How many fields there are. -/
def size (rules : RuleSet) : Nat :=
  rules.entries.length

/-- The rule set left by inserting each pair in turn. -/
def ofList (pairs : List (String × Spec)) : RuleSet :=
  pairs.foldl (fun rules (name, spec) => rules.insert name spec) empty

end RuleSet

/-! ## Nesting -/

mutual

/-- How deep rules are nested in a rule. -/
def Rule.height : Rule → Nat
  | { schema, itemRule, .. } => max (heightOfSchema schema) (heightOfItemRule itemRule) + 1

/-- How deep rules are nested in a schema, if there is one. -/
def heightOfSchema : Option RuleSet → Nat
  | none => 0
  | some rules => rules.height

/-- How deep rules are nested in a rule for items, if there is one. -/
def heightOfItemRule : Option Rule → Nat
  | none => 0
  | some rule => rule.height

/-- How deep rules are nested in a spec. -/
def Spec.height : Spec → Nat
  | .record rule => rule.height
  | _ => 1

/-- How deep rules are nested in a rule set. -/
def RuleSet.height : RuleSet → Nat
  | ⟨entries⟩ => heightOfEntries entries

/-- How deep rules are nested in some specs. -/
def heightOfEntries : List (String × Spec) → Nat
  | [] => 0
  | (_, spec) :: rest => max spec.height (heightOfEntries rest)

end

end Rulebook
