import Rulebook.Path
import Rulebook.Rule.Document
import Rulebook.Toml.Reader

/-!
# Rule files

A rule file is a rule document in JSON, or in TOML if its name ends in `.toml`.
-/

namespace Rulebook

namespace RuleSet

/-- The rule set that a TOML text writes. -/
def ofTomlText (text : String) : Except ConfigError RuleSet :=
  match (Toml.ofText? text).bind Toml.documentToJson? with
  | some document => ofJson document
  | none => .error .unparsable

/-- The rule set in a file of a given path, as far as the file could be read. -/
def ofFile (path : String) (content : Except ReadError String) : Except ConfigError RuleSet :=
  match content with
  | .error cause => .error (.unreadable cause)
  | .ok text => if Path.extension? path = some "toml" then ofTomlText text else ofJsonText text

end RuleSet

end Rulebook
