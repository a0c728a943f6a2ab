import Rulebook.Json.Writer
import Rulebook.Text.Blank

/-!
# Coercion

A coercion replaces a primitive value before it is checked. There are four built-in ones,
`Coercion.Kind`, and they never fail: a value that cannot be converted stays, and the checker that
runs next rejects it.

* `string` writes the value as text, numbers as messages show them.
* `int` reads an optional sign and the leading run of digits after leading blanks, and cuts a
  number's fraction off. A run of digits beyond the doubles becomes null.
* `number` reads a whole decimal or hexadecimal literal, blanks around it aside; an empty text is
  zero.
* `bool` is truthiness: false for null, false, zero and the empty text.

A caller may add coercions that also see the other fields of the object.
-/

namespace Rulebook

/-- A conversion given by the caller: of a value, seeing all fields of its object. -/
abbrev Conversion := Json → Json.Members → Json

namespace Coercion

/-- The built-in coercions. -/
inductive Kind where
  | string
  | int
  | number
  | bool
deriving DecidableEq, Repr

namespace Kind

/-- The kind that a name stands for. -/
def ofName? : String → Option Kind
  | "string" => some string
  | "int" => some int
  | "number" => some number
  | "bool" => some bool
  | "boolean" => some bool
  | _ => none

/-- The usual name of a kind. -/
def name : Kind → String
  | string => "string"
  | int => "int"
  | number => "number"
  | bool => "bool"

/-! ## To text -/

/-- The text of a value, strings standing for themselves. -/
def textOf : Json → String
  | .string s => s
  | .number n => String.ofList n.plainText
  | value => value.text

/-! ## To a boolean -/

/-- Whether a value counts as true. -/
def truthy : Json → Bool
  | .null => false
  | .bool b => b
  | .number n => !n.toBinary64.isZero
  | .string s => !s.isEmpty
  | .array _ => true
  | .object _ => true

/-! ## To a whole number -/

/-- A double as JSON, null standing for one that is not finite. -/
def ofBinary64? : Option Binary64 → Json
  | some x => .number (.ofBinary64 x)
  | none => .null

/-- A double without its fraction. -/
def wholeOf (x : Binary64) : Json.Number :=
  if h : x.integralSize < Json.Number.exactBound then
    .int x.truncate (by
      unfold Json.Number.exactBound at h
      unfold Json.InRange Binary64.truncate
      split <;> omega)
  else .float x

/-- The sign and the leading digits of a text after its leading blanks. -/
def leadingDigits (s : List Char) : Bool × List Char :=
  let (negative, s) := Decimal.scanSign (Text.trimStart s)
  (negative, (Decimal.scanDigits s).1)

/-- Conversion to a whole number. -/
def toInt : Json → Json
  | .number n => .number (wholeOf n.toBinary64)
  | .string s =>
    match leadingDigits s.toList with
    | (_, []) => .string s
    | (negative, ds) => ofBinary64? (Decimal.toBinary64? ⟨negative, Decimal.value ds, 0⟩)
  | value => value

/-! ## To a number -/

/-- The number that at least one hexadecimal digit, after an optional plus sign, writes, if it fits
64 bits. -/
def hexadecimal? (s : List Char) : Option Nat := do
  let ds := match s with
    | '+' :: s => s
    | s => s
  if ds.isEmpty then none
  else
    let n ← Text.hexNumber? ds
    if n < 2 ^ 64 then some n else none

/-- The double that a whole text writes as a decimal literal: an optional sign, digits on at least
one side of the point, and an optional exponent with at least one digit. -/
def decimal? (s : List Char) : Option Binary64 := do
  let (negative, s) := Decimal.scanSign s
  let (parts, rest) := Decimal.scan s
  if ¬ rest.isEmpty then none
  else if (parts.whole ++ parts.fraction.getD []).isEmpty then none
  else if parts.exponent.any (·.2.isEmpty) then none
  else (Decimal.ofParts negative parts).toBinary64?

/-- The double that a text without blanks around it writes. -/
def literal? : List Char → Option Binary64
  | [] => some (.zero false)
  | '0' :: 'x' :: s => (hexadecimal? s).bind fun n => Binary64.ofRatio? false n 1
  | '0' :: 'X' :: s => (hexadecimal? s).bind fun n => Binary64.ofRatio? false n 1
  | s => decimal? s

/-- Conversion to a number. -/
def toNumber : Json → Json
  | .number n => .number (.ofBinary64 n.toBinary64)
  | .bool b => .number (.ofBinary64 (.ofInt (if b then 1 else 0) (by split <;> decide)))
  | .null => .number (.ofBinary64 (.zero false))
  | .string s =>
    match literal? (Text.trim s.toList) with
    | some x => .number (.ofBinary64 x)
    | none => .string s
  | value => value

/-- The value that a kind makes of a value. -/
def apply : Kind → Json → Json
  | string, value => .string (textOf value)
  | int, value => toInt value
  | number, value => toNumber value
  | bool, value => .bool (truthy value)

end Kind

end Coercion

/-- How the values of a type are converted. -/
inductive Coercion where
  /-- By a built-in coercion. -/
  | builtin (kind : Coercion.Kind)
  /-- By a function of the caller. -/
  | custom (convert : Conversion)

namespace Coercion

/-- The converted value; `members` are all fields of its object. -/
def apply : Coercion → Json → Json.Members → Json
  | builtin kind, value, _ => kind.apply value
  | custom convert, value, members => convert value members

end Coercion

end Rulebook
