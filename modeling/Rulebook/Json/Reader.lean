import Rulebook.Json.Basic
import Rulebook.Text.Hex

/-!
# Reading JSON text

`Json.ofText?` reads one value that fills the text, blanks around it aside. It is strict: no
comments, no trailing commas, no leading zeros, no raw control characters in strings, no unpaired
surrogates. A number is an integer if it is written without point and exponent and fits 64 bits, and
otherwise the nearest double; a number that would be infinite is refused. A repeated name in an
object keeps its first place and takes its last value. Arrays and objects nest at most
`Json.nestingLimit` deep.

The readers take a bound on the number of their steps, which the length of the text supplies.
-/

namespace Rulebook

namespace Json

/-- The deepest nesting of arrays and objects that is read. -/
def nestingLimit : Nat := 127

namespace Reader

/-- Whether a character may stand between tokens. -/
def isSpace (c : Char) : Bool :=
  c = ' ' || c = '\n' || c = '\t' || c = '\r'

/-- The text after its leading spaces. -/
def skipSpace (s : List Char) : List Char :=
  s.dropWhile isSpace

/-! ## Strings -/

/-- The 16-bit unit of four hexadecimal digits. -/
def unit? (a b c d : Char) : Option Nat :=
  Text.hexNumber? [a, b, c, d]

/-- The character that a letter stands for after a backslash. -/
def escaped? (c : Char) : Option Char :=
  match c with
  | '"' => some '"'
  | '\\' => some '\\'
  | '/' => some '/'
  | 'b' => some '\x08'
  | 'f' => some '\x0c'
  | 'n' => some '\n'
  | 'r' => some '\r'
  | 't' => some '\t'
  | _ => none

/-- The rest of a string after its opening quote, and what follows its closing quote. -/
def string? : List Char → Option (List Char × List Char)
  | [] => none
  | '"' :: s => some ([], s)
  | '\\' :: 'u' :: a :: b :: c :: d :: s => do
    let high ← unit? a b c d
    if high < 0xD800 ∨ 0xDFFF < high then
      let (cs, rest) ← string? s
      return (Char.ofNat high :: cs, rest)
    else if high < 0xDC00 then
      match s with
      | '\\' :: 'u' :: a :: b :: c :: d :: s =>
        let low ← unit? a b c d
        if 0xDC00 ≤ low ∧ low ≤ 0xDFFF then
          let (cs, rest) ← string? s
          return (Char.ofNat (0x10000 + (high - 0xD800) * 0x400 + (low - 0xDC00)) :: cs, rest)
        else none
      | _ => none
    else none
  | '\\' :: c :: s => do
    let c ← escaped? c
    let (cs, rest) ← string? s
    return (c :: cs, rest)
  | c :: s => do
    if c.toNat < 32 ∨ c = '\\' then none
    else
      let (cs, rest) ← string? s
      return (c :: cs, rest)

/-! ## Numbers -/

/-- Whether digits before the point are without a leading zero. -/
def wholeOk : List Char → Bool
  | [] => false
  | ['0'] => true
  | c :: _ => c ≠ '0'

/-- The number that a sign and the parts of a literal write. -/
def numberOf? (negative : Bool) (parts : Decimal.Parts) : Option Number := do
  if ¬ wholeOk parts.whole then none
  else if parts.fraction = some [] then none
  else if parts.exponent.any (·.2.isEmpty) then none
  else
    let asFloat := (Decimal.ofParts negative parts).toBinary64?.map Number.float
    if parts.fraction.isSome ∨ parts.exponent.isSome then asFloat
    else
      let size := Decimal.value parts.whole
      let n : Int := if negative then -size else size
      if negative ∧ size = 0 then asFloat
      else if h : InRange n then some (.int n h)
      else asFloat

/-- The number that the text starts with, and the rest. -/
def number? (s : List Char) : Option (Number × List Char) := do
  let (negative, s) := match s with
    | '-' :: s => (true, s)
    | s => (false, s)
  let (parts, rest) := Decimal.scan s
  return (← numberOf? negative parts, rest)

/-! ## Values -/

mutual

/-- The value that the text starts with, and the rest; `depth` is the nesting still allowed. -/
def value? : (steps depth : Nat) → List Char → Option (Json × List Char)
  | 0, _, _ => none
  | steps + 1, depth, s =>
    match skipSpace s with
    | 'n' :: 'u' :: 'l' :: 'l' :: s => some (null, s)
    | 't' :: 'r' :: 'u' :: 'e' :: s => some (bool true, s)
    | 'f' :: 'a' :: 'l' :: 's' :: 'e' :: s => some (bool false, s)
    | '"' :: s => do
      let (cs, rest) ← string? s
      return (string (String.ofList cs), rest)
    | '[' :: s =>
      if depth = 0 then none
      else match skipSpace s with
        | ']' :: s => some (array [], s)
        | s => do
          let (items, rest) ← items? steps (depth - 1) s
          return (array items, rest)
    | '\x7b' :: s =>
      if depth = 0 then none
      else match skipSpace s with
        | '\x7d' :: s => some (object [], s)
        | s => do
          let (members, rest) ← members? steps (depth - 1) s
          return (object (Entries.ofPairs members), rest)
    | s => do
      let (n, rest) ← number? s
      return (number n, rest)

/-- The items up to and with the closing bracket, at least one. -/
def items? : (steps depth : Nat) → List Char → Option (List Json × List Char)
  | 0, _, _ => none
  | steps + 1, depth, s => do
    let (item, s) ← value? steps depth s
    match skipSpace s with
    | ',' :: s =>
      let (items, rest) ← items? steps depth s
      return (item :: items, rest)
    | ']' :: s => return ([item], s)
    | _ => none

/-- The members up to and with the closing brace, at least one. -/
def members? : (steps depth : Nat) → List Char → Option (List (String × Json) × List Char)
  | 0, _, _ => none
  | steps + 1, depth, s =>
    match skipSpace s with
    | '"' :: s => do
      let (name, s) ← string? s
      match skipSpace s with
      | ':' :: s =>
        let (item, s) ← value? steps depth s
        match skipSpace s with
        | ',' :: s =>
          let (members, rest) ← members? steps depth s
          return ((String.ofList name, item) :: members, rest)
        | '\x7d' :: s => return ([(String.ofList name, item)], s)
        | _ => none
      | _ => none
    | _ => none

end

end Reader

/-- The value that a text writes, if it is JSON. -/
def ofChars? (s : List Char) : Option Json := do
  let (value, rest) ← Reader.value? (2 * s.length + 1) nestingLimit s
  if (Reader.skipSpace rest).isEmpty then some value else none

/-- The value that a text writes, if it is JSON. -/
def ofText? (s : String) : Option Json :=
  ofChars? s.toList

end Json

end Rulebook
