import Rulebook.Toml.Document
import Rulebook.Toml.Scalar

/-!
# Reading TOML

`Toml.ofText?` reads a whole document. Values nest less than `Toml.nestingLimit` deep, and keys have
fewer parts than that.

The readers of values take a bound on the number of their steps, which the length of the text
supplies.
-/

namespace Rulebook

namespace Toml

/-- What nesting stays below. -/
def nestingLimit : Nat := 80

namespace Reader

/-! ## Keys -/

/-- Whether a character may stand in a key without quotes. -/
def isBare (c : Char) : Bool :=
  c.isAlphanum || c = '-' || c = '_'

/-- One part of a key, and the rest. -/
def keyPart? (s : List Char) : Option (String × List Char) :=
  match s with
  | '"' :: s => (basic? (s.length + 1) s).map fun (cs, rest) => (String.ofList cs, rest)
  | '\'' :: s => (literal? s).map fun (cs, rest) => (String.ofList cs, rest)
  | s =>
    match s.takeWhile isBare with
    | [] => none
    | cs => some (String.ofList cs, s.dropWhile isBare)

/-- A key: the parts before the last one, the last one, and the rest. -/
def keyParts? : (steps : Nat) → List Char → Option (List String × String × List Char)
  | 0, _ => none
  | steps + 1, s => do
    let (part, s) ← keyPart? (skipSpace s)
    match skipSpace s with
    | '.' :: s =>
      let (path, name, rest) ← keyParts? steps s
      return (part :: path, name, rest)
    | s => return ([], part, s)

/-- A key that does not have too many parts, and the rest. -/
def key? (s : List Char) : Option (List String × String × List Char) :=
  keyParts? (nestingLimit - 1) s

/-! ## Between values -/

/-- The text after a comment; it ends before the end of the line. -/
def skipComment (s : List Char) : List Char :=
  s.dropWhile isPrintable

/-- The text after blanks, line ends and comments. A comment has a line end. -/
def skipBetween? : (steps : Nat) → List Char → Option (List Char)
  | 0, _ => none
  | steps + 1, s =>
    match skipSpace s with
    | '#' :: s => do skipBetween? steps (← newline? (skipComment s))
    | '\n' :: s => skipBetween? steps s
    | '\r' :: s => do skipBetween? steps (← newline? ('\r' :: s))
    | s => some s

/-- The text after the end of a line, blanks and a comment before it left out. -/
def lineEnd? (s : List Char) : Option (List Char) :=
  let s := match skipSpace s with
    | '#' :: s => skipComment s
    | s => s
  match s with
  | [] => some []
  | s => newline? s

/-! ## Values -/

mutual

/-- A value, and the rest; `depth` is the nesting still allowed. -/
def value? : (steps depth : Nat) → List Char → Option (Toml × List Char)
  | 0, _, _ => none
  | steps + 1, depth, s =>
    match s with
    | [] => none
    | '[' :: s =>
      if depth = 0 then none
      else do
        let (items, rest) ← items? steps (depth - 1) s
        return (.array items, rest)
    | '\x7b' :: s =>
      if depth = 0 then none
      else
        match skipSpace s with
        | '\x7d' :: rest => some (.table [], rest)
        | s => do
          let (pairs, rest) ← pairs? steps (depth - 1) s
          return (← inlineTable? pairs, rest)
    | 't' :: 'r' :: 'u' :: 'e' :: rest => some (.boolean true, rest)
    | 'f' :: 'a' :: 'l' :: 's' :: 'e' :: rest => some (.boolean false, rest)
    | c :: after =>
      if c = '"' ∨ c = '\'' then
        (string? (c :: after)).map fun (cs, rest) => (.string (String.ofList cs), rest)
      else number? (c :: after)

/-- The items of an array up to and with its closing bracket, and the rest. -/
def items? : (steps depth : Nat) → List Char → Option (List Toml × List Char)
  | 0, _, _ => none
  | steps + 1, depth, s => do
    match ← skipBetween? (s.length + 1) s with
    | ']' :: rest => return ([], rest)
    | s =>
      let (item, s) ← value? steps depth s
      match ← skipBetween? (s.length + 1) s with
      | ',' :: s =>
        let (items, rest) ← items? steps depth s
        return (item :: items, rest)
      | ']' :: rest => return ([item], rest)
      | _ => none

/-- The keys and values of an inline table up to and with its closing brace, and the rest; at least
one. -/
def pairs? : (steps depth : Nat) → List Char →
    Option (List (List String × String × Toml) × List Char)
  | 0, _, _ => none
  | steps + 1, depth, s => do
    let (path, name, s) ← key? s
    match s with
    | '=' :: s =>
      let (value, s) ← value? steps depth (skipSpace s)
      match skipSpace s with
      | ',' :: s =>
        let (pairs, rest) ← pairs? steps depth s
        return ((path, name, value) :: pairs, rest)
      | '\x7d' :: rest => return ([(path, name, value)], rest)
      | _ => none
    | _ => none

end

/-! ## Statements -/

/-- A key with its value to the end of the line, and the next lines. -/
def pair? (s : List Char) : Option (Statement × List Char) := do
  let (path, name, s) ← key? s
  match s with
  | '=' :: s =>
    let (value, s) ← value? (2 * s.length + 1) (nestingLimit - 1) (skipSpace s)
    return (.pair path name value, ← lineEnd? s)
  | _ => none

/-- A header to the end of the line, and the next lines. -/
def header? (s : List Char) : Option (Statement × List Char) := do
  match s with
  | '[' :: s =>
    let (path, name, s) ← key? s
    match s with
    | ']' :: ']' :: s => return (.element path name, ← lineEnd? s)
    | _ => none
  | s =>
    let (path, name, s) ← key? s
    match s with
    | ']' :: s => return (.table path name, ← lineEnd? s)
    | _ => none

/-- The statements of a text. -/
def statements? : (steps : Nat) → List Char → Option (List Statement)
  | 0, _ => none
  | steps + 1, s =>
    match skipSpace s with
    | [] => some []
    | '#' :: s => do statements? steps (← lineEnd? ('#' :: s))
    | '\n' :: s => statements? steps s
    | '\r' :: s => do statements? steps (← newline? ('\r' :: s))
    | '[' :: s => do
      let (statement, rest) ← header? s
      return statement :: (← statements? steps rest)
    | s => do
      let (statement, rest) ← pair? s
      return statement :: (← statements? steps rest)

/-- The text after a byte order mark. -/
def skipMark : List Char → List Char
  | '\ufeff' :: s => s
  | s => s

end Reader

/-- The members of the document that a text writes, if it is TOML. -/
def ofText? (text : String) : Option (Entries Toml) := do
  let s := Reader.skipMark text.toList
  ofStatements? (← Reader.statements? (s.length + 1) s)

end Toml

end Rulebook
