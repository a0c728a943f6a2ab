import Rulebook.Registry
import Rulebook.Report.Lines
import Rulebook.Settings

/-!
# The list of types

The command `types` lists the types of a registry with the coercions that belong to them, in the
order of their names.
-/

namespace Rulebook

/-- How a coercion is named in a list. -/
def Coercion.shownName : Coercion → String
  | builtin kind => kind.name
  | custom _ => "custom"

namespace Command

/-- The types of a registry with the names of their coercions. -/
def typeTable (registry : Registry) : List (String × Option String) :=
  registry.typeNames.map fun name =>
    (name, (registry.coercionFor? name).map Coercion.shownName)

/-- A text with blanks behind it, up to a width. -/
def padded (width : Nat) (text : String) : String :=
  text ++ String.ofList (List.replicate (width - text.length) ' ')

/-- The line of a type. -/
def typeLine : String × Option String → String
  | (name, some coercion) => "  " ++ padded 10 name ++ " converts to " ++ coercion ++ "\n"
  | (name, none) => "  " ++ name ++ "\n"

/-- The record of a type. -/
def typeRecord : String × Option String → Json
  | (name, coercion) =>
    .object [("type", .string "rule_type"), ("name", .string name),
      ("coercion", match coercion with
        | some coercion => .string coercion
        | none => .null)]

/-- The list of the types of a registry. -/
def types (registry : Registry) : OutputFormat → String
  | .human =>
    "Rule types (" ++ Decimal.text registry.size ++ " registered):\n"
      ++ String.join ((typeTable registry).map typeLine)
  | .lines => Report.linesOf ((typeTable registry).map typeRecord)

end Command

end Rulebook
