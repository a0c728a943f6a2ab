/-!
# Messages

Every message starts as a `Message`: a template, in which `%s` marks a slot, and the arguments for
the slots. A `Formatter` turns it into its final text, so a caller may restyle or reword all
messages at once. `Message.fill` is the usual formatter; the messages of this library follow it, one
function each.
-/

namespace Rulebook

/-- A template with the arguments for its slots. -/
structure Message where
  /-- The text with its slots. -/
  template : String
  /-- One argument for each slot, in order. -/
  arguments : List String := []
deriving DecidableEq

/-- What makes the final text of a message. -/
abbrev Formatter := Message → String

namespace Message

/-- Fills the slots of a template from left to right. `%%` is a percent sign, and so is a `%` before
anything else. A slot without an argument stays as it is; arguments without a slot follow the text,
each after a space. -/
def fillSlots : List Char → List (List Char) → List Char
  | '%' :: 's' :: rest, argument :: arguments => argument ++ fillSlots rest arguments
  | '%' :: 's' :: rest, [] => '%' :: 's' :: fillSlots rest []
  | '%' :: '%' :: rest, arguments => '%' :: fillSlots rest arguments
  | c :: rest, arguments => c :: fillSlots rest arguments
  | [], arguments => arguments.flatMap (' ' :: ·)

/-- The usual formatter: the template with its slots filled. -/
def fill : Formatter := fun message =>
  String.ofList (fillSlots message.template.toList (message.arguments.map String.toList))

/-! ## The messages of this library -/

/-- A required field is absent. -/
def required (field : String) : Message := ⟨"%s is required", [field]⟩

/-- The value to validate is a scalar. -/
def notStructured : Message := ⟨"the value to validate must be an object or an array", []⟩

/-- The value is no number. -/
def notNumber : Message := ⟨"should be a number", []⟩

/-- The value is no whole number. -/
def notInteger : Message := ⟨"should be an integer", []⟩

/-- The value is no string. -/
def notString : Message := ⟨"should be a string", []⟩

/-- The value is no boolean. -/
def notBoolean : Message := ⟨"should be a boolean", []⟩

/-- The value is neither an object nor an array. -/
def notObject : Message := ⟨"should be an object", []⟩

/-- The value is no array. -/
def notArray : Message := ⟨"should be an array", []⟩

/-- The text is no mail address. -/
def notEmail : Message := ⟨"should be an email", []⟩

/-- The text is no address of a public host. -/
def notUrl : Message := ⟨"should be a url", []⟩

/-- The text is empty and must not be. -/
def empty : Message := ⟨"should not be empty", []⟩

/-- The number exceeds its upper bound. -/
def tooBig (bound : String) : Message := ⟨"should be smaller than %s", [bound]⟩

/-- The number is below its lower bound. -/
def tooSmall (bound : String) : Message := ⟨"should be bigger than %s", [bound]⟩

/-- The text or array exceeds its greatest length. -/
def tooLong (bound : String) : Message := ⟨"length should be smaller than %s", [bound]⟩

/-- The text or array is below its least length. -/
def tooShort (bound : String) : Message := ⟨"length should be bigger than %s", [bound]⟩

/-- The text does not match the pattern. -/
def mismatch (pattern : String) : Message := ⟨"should match %s", [pattern]⟩

/-- The value is not listed. -/
def unlisted (listed : String) : Message := ⟨"should be one of %s", [listed]⟩

/-- The value differs from that of another field. -/
def differs (field : String) : Message := ⟨"should equal to %s", [field]⟩

/-- The data has a field without a rule. -/
def unknownField (field : String) : Message :=
  ⟨"fields outside the rule set are not allowed: %s", [field]⟩

end Message

end Rulebook
