import Rulebook.Message
import Rulebook.Rule.Basic

/-!
# Bounds

The bounds of a rule apply to numbers, and to the lengths of texts and arrays. A value equal to a
bound is within it. Both are compared exactly, as whole numbers of the smallest unit of the doubles.
-/

namespace Rulebook

/-- A bound that a value breaks. -/
inductive BrokenBound where
  /-- The value is above the greatest one. -/
  | above (max : Binary64)
  /-- The value is below the least one. -/
  | below (min : Binary64)
deriving DecidableEq

namespace BrokenBound

/-- A bound in a message. -/
def text (bound : Binary64) : String :=
  String.ofList (Json.Number.plainFloatText bound)

/-- The message for a number. -/
def valueMessage : BrokenBound → Message
  | above max => .tooBig (text max)
  | below min => .tooSmall (text min)

/-- The message for a length. -/
def lengthMessage : BrokenBound → Message
  | above max => .tooLong (text max)
  | below min => .tooShort (text min)

end BrokenBound

namespace Rule

/-- The bound of a rule that a number breaks, the upper one first. The number is counted in the
smallest units of the doubles. -/
def brokenBound? (rule : Rule) (units : Int) : Option BrokenBound :=
  match rule.max.filter fun max => max.signedUnits < units with
  | some max => some (.above max)
  | none => (rule.min.filter fun min => units < min.signedUnits).map .below

/-- The bound that a length breaks. -/
def brokenLength? (rule : Rule) (length : Nat) : Option BrokenBound :=
  rule.brokenBound? (Binary64.unitsPerOne * length : Nat)

end Rule

end Rulebook
