import Rulebook.Checker.Basic
import Rulebook.Checker.Bounds
import Rulebook.Checker.Formats
import Rulebook.Text.Units

/-!
# Checks of texts

All types of texts but `url` share one check, `Checker.text`: an empty text is accepted as the rule
says, any other one must have a length within the bounds and match the format. The types differ in
the rule that they hand to it. Lengths are counted in 16-bit units.
-/

namespace Rulebook

namespace Checker

/-- What an empty text gets. -/
def emptyText (say : Formatter) (rule : Rule) : Verdict :=
  if rule.allowsEmpty then .valid else .invalid (say .empty)

/-- A text that is not empty: its length is looked at first, then its format. -/
def filledText (say : Formatter) (rule : Rule) (text : String) : Verdict :=
  match rule.brokenLength? (Text.units text.toList) with
  | some broken => .invalid (say broken.lengthMessage)
  | none =>
    match rule.format with
    | some format =>
      if format.isMatch text then .valid
      else .invalid (rule.message.getD (say (.mismatch format.display)))
    | none => .valid

/-- A text under a rule. -/
def text (say : Formatter) (rule : Rule) : Json → Verdict
  | .string text => if text.isEmpty then emptyText say rule else filledText say rule text
  | _ => .invalid (say .notString)

/-- A rule with a format of its own that keeps only whether the field may be empty. -/
def formatRule (rule : Rule) (format : Pattern) (message : Option String) : Rule where
  format := some format
  message := message
  allowEmpty := rule.allowEmpty
  required := rule.required

/-- A text of a fixed format. -/
def formatted (format : Pattern) (say : Formatter) (rule : Rule) (value : Json) : Verdict :=
  text say (formatRule rule format none) value

/-- A mail address; the message may be replaced. -/
def email (say : Formatter) (rule : Rule) (value : Json) : Verdict :=
  text say (formatRule rule Formats.email (some (rule.message.getD (say .notEmail)))) value

/-- A text that matches a pattern, whatever the rule says. -/
def matching (format : Pattern) (say : Formatter) (value : Json) : Verdict :=
  text say { format := some format } value

/-! ## Passwords -/

/-- The least length of a password that gives none. -/
def leastPassword : Binary64 := .ofInt 6 (by decide)

/-- The rule of a password: at least six characters unless it gives a least length other than zero,
and the characters of passwords. -/
def passwordRule (rule : Rule) : Rule :=
  { rule with
    min := some ((rule.min.filter fun min => !min.isZero).getD leastPassword)
    format := some Formats.password }

/-- A password, which equals the field that the rule names. -/
def password (say : Formatter) (siblings : Json.Members) (rule : Rule) (value : Json) : Verdict :=
  let verdict := text say (passwordRule rule) value
  if !verdict.isValid then verdict
  else
    match rule.compare with
    | none => .valid
    | some field =>
      if (Entries.value? siblings field).any fun other => other.sameValue value then .valid
      else .invalid (say (.differs field))

end Checker

end Rulebook
