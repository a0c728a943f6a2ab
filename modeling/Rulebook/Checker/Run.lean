import Rulebook.Checker.Nested
import Rulebook.Checker.Scalar
import Rulebook.Checker.Url

/-!
# Running checkers

`Checker.run` runs any checker on a value. Of the built-in ones only `array` and `object` edit the
value, and only `password` edits its rule.
-/

namespace Rulebook

namespace Checker

/-- Runs a built-in checker. -/
def Kind.run (kind : Kind) (context : Context) (rule : Rule) (value : Json) : Checked :=
  let decided := fun verdict => Checked.mk (.ok verdict) rule value
  match kind with
  | number => decided (Checker.number context.say rule value)
  | integer => decided (Checker.integer context.say rule value)
  | string => decided (text context.say rule value)
  | id => decided (formatted Formats.id context.say rule value)
  | date => decided (formatted Formats.date context.say rule value)
  | dateTime => decided (formatted Formats.dateTime context.say rule value)
  | boolean => decided (Checker.boolean context.say value)
  | array => Checker.array context rule value
  | object => Checker.object context rule value
  | enumeration => ⟨Checker.enumeration context.say context.field rule value, rule, value⟩
  | email => decided (Checker.email context.say rule value)
  | password =>
    ⟨.ok (Checker.password context.say context.siblings rule value), passwordRule rule, value⟩
  | url => decided (Checker.url context.say rule value)

/-- Runs a checker. -/
def run (checker : Checker) (context : Context) (rule : Rule) (value : Json) : Checked :=
  match checker with
  | builtin kind => kind.run context rule value
  | pattern format => ⟨.ok (matching format context.say value), rule, value⟩
  | custom check => check context rule value

end Checker

end Rulebook
