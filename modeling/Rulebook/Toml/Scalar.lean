import Rulebook.Decimal.Literal
import Rulebook.Text.Hex
import Rulebook.Toml.Moment
import Rulebook.Toml.Value

/-!
# Reading TOML scalars

The readers of texts and numbers. Each takes the text from its first character on and gives the
value and the rest, or nothing if the text does not start with such a value.
-/

namespace Rulebook

namespace Toml

namespace Reader

/-! ## Characters -/

/-- Whether a character may stand in a text of one line or in a comment. -/
def isPrintable (c : Char) : Bool :=
  c = '\t' || (0x20 ≤ c.toNat && c.toNat ≠ 0x7F)

/-- Whether a character is a blank inside a line. -/
def isSpace (c : Char) : Bool :=
  c = ' ' || c = '\t'

/-- The text after leading blanks inside a line. -/
def skipSpace (s : List Char) : List Char :=
  s.dropWhile isSpace

/-- The text after the end of a line. -/
def newline? : List Char → Option (List Char)
  | '\n' :: s => some s
  | '\r' :: '\n' :: s => some s
  | _ => none

/-! ## Texts -/

/-- The character that `count` hexadecimal digits write, and the rest. -/
def codePoint? (count : Nat) (s : List Char) : Option (Char × List Char) := do
  if s.length < count then none
  else
    let n ← Text.hexNumber? (s.take count)
    if h : n.isValidChar then some (Char.ofNatAux n h, s.drop count) else none

/-- The character after a backslash, and the rest. -/
def escape? : List Char → Option (Char × List Char)
  | 'b' :: s => some ('\x08', s)
  | 'f' :: s => some ('\x0c', s)
  | 'n' :: s => some ('\n', s)
  | 'r' :: s => some ('\r', s)
  | 't' :: s => some ('\t', s)
  | '"' :: s => some ('"', s)
  | '\\' :: s => some ('\\', s)
  | 'u' :: s => codePoint? 4 s
  | 'U' :: s => codePoint? 8 s
  | _ => none

/-- The rest of a text in double quotes, and what follows it. -/
def basic? : (steps : Nat) → List Char → Option (List Char × List Char)
  | 0, _ => none
  | _ + 1, [] => none
  | _ + 1, '"' :: s => some ([], s)
  | steps + 1, '\\' :: s => do
    let (c, s) ← escape? s
    let (cs, rest) ← basic? steps s
    return (c :: cs, rest)
  | steps + 1, c :: s => do
    if isPrintable c then
      let (cs, rest) ← basic? steps s
      return (c :: cs, rest)
    else none

/-- The rest of a text in single quotes, and what follows it. -/
def literal? : List Char → Option (List Char × List Char)
  | [] => none
  | c :: s =>
    if c = '\'' then some ([], s)
    else if isPrintable c then (literal? s).map fun (cs, rest) => (c :: cs, rest)
    else none

/-- The text after blanks and line ends. -/
def skipLines : (steps : Nat) → List Char → List Char
  | 0, s => s
  | steps + 1, s =>
    match newline? (skipSpace s) with
    | some s => skipLines steps s
    | none => skipSpace s

/-- The text after a backslash at the end of a line: what follows the line, its leading blanks and
blank lines left out. -/
def joinedLine? (s : List Char) : Option (List Char) := do
  let rest ← newline? (skipSpace s)
  return skipLines rest.length rest

/-- The quotes at the end of a text of several lines that belong to it: all but the last three, and
at most two. -/
def closing? (quote : Char) (s : List Char) : Option (List Char × List Char) :=
  let count := (s.takeWhile (· = quote)).length
  if count < 3 then none
  else
    let kept := min (count - 3) 2
    some (s.take kept, s.drop (kept + 3))

/-- The rest of a text of several lines in double quotes, and what follows it. -/
def basicLines? : (steps : Nat) → List Char → Option (List Char × List Char)
  | 0, _ => none
  | steps + 1, s =>
    match s with
    | [] => none
    | '"' :: after =>
      match closing? '"' s with
      | some result => some result
      | none => do
        let (cs, rest) ← basicLines? steps after
        return ('"' :: cs, rest)
    | '\\' :: after =>
      match joinedLine? after with
      | some after => basicLines? steps after
      | none => do
        let (c, after) ← escape? after
        let (cs, rest) ← basicLines? steps after
        return (c :: cs, rest)
    | c :: after =>
      match newline? s with
      | some after => do
        let (cs, rest) ← basicLines? steps after
        return ('\n' :: cs, rest)
      | none => do
        if isPrintable c then
          let (cs, rest) ← basicLines? steps after
          return (c :: cs, rest)
        else none

/-- The rest of a text of several lines in single quotes, and what follows it. -/
def literalLines? : (steps : Nat) → List Char → Option (List Char × List Char)
  | 0, _ => none
  | steps + 1, s =>
    match s with
    | [] => none
    | '\'' :: after =>
      match closing? '\'' s with
      | some result => some result
      | none => do
        let (cs, rest) ← literalLines? steps after
        return ('\'' :: cs, rest)
    | c :: after =>
      match newline? s with
      | some after => do
        let (cs, rest) ← literalLines? steps after
        return ('\n' :: cs, rest)
      | none => do
        if isPrintable c then
          let (cs, rest) ← literalLines? steps after
          return (c :: cs, rest)
        else none

/-- The text after a line end at its start. -/
def skipFirstLine (s : List Char) : List Char :=
  (newline? s).getD s

/-- A text in any kind of quotes, and the rest. -/
def string? : List Char → Option (List Char × List Char)
  | '"' :: '"' :: '"' :: s => basicLines? (s.length + 1) (skipFirstLine s)
  | '"' :: s => basic? (s.length + 1) s
  | '\'' :: '\'' :: '\'' :: s => literalLines? (s.length + 1) (skipFirstLine s)
  | '\'' :: s => literal? s
  | _ => none

/-! ## Numbers -/

/-- Digits in a row, single underscores between them left out, and the rest; at least one digit. -/
def digitRun? (isDigit : Char → Bool) : List Char → Option (List Char × List Char)
  | [] => none
  | [c] => if isDigit c then some ([c], []) else none
  | c :: '_' :: s => do
    if isDigit c then
      let (ds, rest) ← digitRun? isDigit s
      return (c :: ds, rest)
    else none
  | c :: d :: s => do
    if isDigit c then
      if isDigit d then
        let (ds, rest) ← digitRun? isDigit (d :: s)
        return (c :: ds, rest)
      else some ([c], d :: s)
    else none

/-- An integer of 64 bits. -/
def integer? (n : Int) : Option Toml :=
  if h : -2 ^ 63 ≤ n ∧ n < 2 ^ 63 then some (.number (.int n (by unfold Json.InRange; omega)))
  else none

/-- The value of digits in a base. -/
def valueIn (base : Nat) (ds : List Char) : Nat :=
  ds.foldl (fun n c => base * n + (Text.hexValue? c).getD 0) 0

/-- Whether a character is a digit of a base. -/
def isDigitOf (base : Nat) (c : Char) : Bool :=
  (Text.hexValue? c).any (· < base)

/-- An integer in a base other than ten, after the letter of the base. -/
def based? (base : Nat) (s : List Char) : Option (Toml × List Char) := do
  let (ds, rest) ← digitRun? (isDigitOf base) s
  return (← integer? (valueIn base ds), rest)

/-- The digits before the point, and the rest. A leading zero stands alone. -/
def wholeDigits? : List Char → Option (List Char × List Char)
  | '0' :: s => some (['0'], s)
  | s => digitRun? Char.isDigit s

/-- The fraction, if there is one, and the rest. -/
def fraction? : List Char → Option (Option (List Char) × List Char)
  | '.' :: s => do
    let (ds, rest) ← digitRun? Char.isDigit s
    return (some ds, rest)
  | s => some (none, s)

/-- The exponent, if there is one, and the rest. -/
def exponent? : List Char → Option (Option (Bool × List Char) × List Char)
  | [] => some (none, [])
  | c :: s => do
    if c = 'e' ∨ c = 'E' then
      let (negative, s) := Decimal.scanSign s
      let (ds, rest) ← digitRun? Char.isDigit s
      return (some (negative, ds), rest)
    else return (none, c :: s)

/-- A float. Only a negative one may be beyond the doubles. -/
def float? (negative : Bool) (parts : Decimal.Parts) : Option Toml :=
  match (Decimal.ofParts negative parts).toBinary64? with
  | some x => some (.number (.float x))
  | none => if negative then some .notFinite else none

/-- A number in base ten after its sign, and the rest. -/
def decimal? (negative : Bool) (s : List Char) : Option (Toml × List Char) := do
  let (whole, s) ← wholeDigits? s
  let (fraction, s) ← fraction? s
  let (exponent, rest) ← exponent? s
  if fraction.isNone ∧ exponent.isNone then
    let size : Int := Decimal.value whole
    return (← integer? (if negative then -size else size), rest)
  else
    return (← float? negative ⟨whole, fraction, exponent⟩, rest)

/-- A number or a moment, and the rest. -/
def number? (s : List Char) : Option (Toml × List Char) :=
  match Moment.moment? .plain s with
  | some (text, rest) => some (.moment (String.ofList text), rest)
  | none =>
    match s with
    | '0' :: 'x' :: s => based? 16 s
    | '0' :: 'o' :: s => based? 8 s
    | '0' :: 'b' :: s => based? 2 s
    | s =>
      match Decimal.scanSign s with
      | (_, 'i' :: 'n' :: 'f' :: rest) => some (.notFinite, rest)
      | (_, 'n' :: 'a' :: 'n' :: rest) => some (.notFinite, rest)
      | (negative, s) => decimal? negative s

end Reader

end Toml

end Rulebook
