import Rulebook.Checker.Bounds
import Rulebook.Checker.Basic

/-!
# Checks of scalars

The checks of numbers, booleans and enumerations.
-/

namespace Rulebook

namespace Checker

/-- A number within its bounds. -/
def number (say : Formatter) (rule : Rule) : Json → Verdict
  | .number n =>
    .ofReason ((rule.brokenBound? n.toBinary64.signedUnits).map fun broken =>
      say broken.valueMessage)
  | _ => .invalid (say .notNumber)

/-- A number within its bounds whose double has no fraction. -/
def integer (say : Formatter) (rule : Rule) : Json → Verdict
  | .number n =>
    if n.toBinary64.isIntegral then number say rule (.number n) else .invalid (say .notInteger)
  | _ => .invalid (say .notInteger)

/-- A boolean. -/
def boolean (say : Formatter) : Json → Verdict
  | .bool _ => .valid
  | _ => .invalid (say .notBoolean)

/-- A value among those listed, numbers being compared by value. -/
def enumeration (say : Formatter) (field : String) (rule : Rule) (value : Json) :
    Except ConfigError Verdict :=
  match rule.values with
  | none => .error (.missingValues field)
  | some values =>
    if values.any fun allowed => allowed.sameValue value then .ok .valid
    else .ok (.invalid (say (.unlisted
      (String.intercalate ", " (values.map Coercion.Kind.textOf)))))

end Checker

end Rulebook
