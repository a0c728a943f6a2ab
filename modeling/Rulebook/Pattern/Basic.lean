import Rulebook.Pattern.Parser
import Rulebook.Pattern.Resolve

/-!
# Patterns

A `Pattern` is a compiled regular expression that keeps the text it was written as, so that messages
can show it. Rules write patterns plainly or as literals `/source/flags`. Of the flags of a literal,
`i`, `m` and `s` have a meaning; `g`, `u` and `y` are accepted and change nothing.
-/

namespace Rulebook

/-- A compiled regular expression and the text that shows it. -/
structure Pattern where
  /-- How the pattern is shown: as a literal. -/
  display : String
  /-- What it matches. -/
  expr : Pattern.Expr

namespace Pattern

/-- A text that is no regular expression. -/
structure Invalid where
  /-- The text. -/
  source : String
deriving DecidableEq

/-- The wording of the error. -/
def Invalid.message (invalid : Invalid) : String :=
  "Failed to compile pattern '" ++ invalid.source ++ "'"

/-- Whether a pattern matches somewhere in a text. -/
def isMatch (pattern : Pattern) (text : String) : Bool :=
  pattern.expr.isMatch text

/-- The meaning of a source text under flags. -/
def compile? (flags : Flags) (source : List Char) : Option Expr := do
  (← Node.ofChars? source).resolve? flags

/-- A plain regular expression, shown between slashes. -/
def ofSource (source : String) : Except Invalid Pattern :=
  match compile? Flags.initial source.toList with
  | some expr => .ok ⟨"/" ++ source ++ "/", expr⟩
  | none => .error ⟨source⟩

/-! ## Literals -/

/-- The flags that a literal may carry. -/
def literalFlags : List Char := ['g', 'i', 'm', 's', 'u', 'y']

/-- The source and the flags of a literal: after a slash, a source that is not empty, up to the last
slash, and known flags only. -/
def literalParts? (literal : String) : Option (List Char × List Char) :=
  match literal.toList with
  | '/' :: body =>
    let letters := (body.reverse.takeWhile (· ≠ '/')).reverse
    match body.reverse.dropWhile (· ≠ '/') with
    | '/' :: source =>
      if source.isEmpty || !letters.all literalFlags.contains then none
      else some (source.reverse, letters)
    | _ => none
  | _ => none

/-- The flags that the letters of a literal put on. -/
def flagsOf (letters : List Char) : Flags :=
  Flags.initial.switch [(.ignoreCase, letters.contains 'i'),
    (.multiLine, letters.contains 'm'), (.dotAll, letters.contains 's')]

/-- The pattern that a literal writes, shown as it is written; nothing if the text has not the form
of a literal. -/
def ofLiteral? (literal : String) : Option (Except Invalid Pattern) :=
  (literalParts? literal).map fun (source, letters) =>
    match compile? (flagsOf letters) source with
    | some expr => .ok ⟨literal, expr⟩
    | none => .error ⟨literal⟩

/-- The pattern of a format: a literal where the text has the form of one, else a plain regular
expression. -/
def ofFormat (text : String) : Except Invalid Pattern :=
  (ofLiteral? text).getD (ofSource text)

end Pattern

end Rulebook
