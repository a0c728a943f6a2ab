import Rulebook.Binary64
import Rulebook.Decimal.Digits

/-!
# Decimal literals

A `Decimal` is a number written in decimal: a coefficient and a power of ten, with a sign that also
zero carries. `Decimal.toBinary64?` is the nearest double, a tie to the even significand, and none
where that would be infinite.

`Decimal.scan` splits a text into the parts of a literal, as the JSON, TOML and conversion readers
each need them; which parts each of them demands is their own affair.
-/

namespace Rulebook

/-- `coefficient * 10 ^ exponent`, with a sign. -/
structure Decimal where
  /-- Whether a minus sign is written. -/
  negative : Bool
  /-- All digits, the point left out. -/
  coefficient : Nat
  /-- The power of ten that the coefficient is multiplied by. -/
  exponent : Int
deriving DecidableEq

namespace Decimal

/-- The double nearest to a decimal. A coefficient of `n` digits with an exponent above 309 is
beyond the greatest double, and one with an exponent below `-(324 + n)` is nearer to zero than to
the least, so that powers of ten are only computed between the two. -/
def toBinary64? (d : Decimal) : Option Binary64 :=
  if d.coefficient = 0 then some (.zero d.negative)
  else if 309 < d.exponent then none
  else if d.exponent + (digits d.coefficient).length < -324 then some (.zero d.negative)
  else Binary64.ofRatio? d.negative
    (d.coefficient * 10 ^ d.exponent.toNat) (10 ^ (-d.exponent).toNat)

/-- The parts of a literal after its sign. -/
structure Parts where
  /-- The digits before the point. -/
  whole : List Char
  /-- The digits after the point, if a point is written. -/
  fraction : Option (List Char)
  /-- The sign and digits of the exponent, if an exponent mark is written. -/
  exponent : Option (Bool × List Char)
deriving DecidableEq

/-- The decimal that the parts write. -/
def ofParts (negative : Bool) (parts : Parts) : Decimal :=
  let fraction := parts.fraction.getD []
  let exponent : Int := match parts.exponent with
    | none => 0
    | some (true, ds) => -(value ds : Int)
    | some (false, ds) => value ds
  ⟨negative, value (parts.whole ++ fraction), exponent - fraction.length⟩

/-- The leading run of ASCII digits, and the rest. -/
def scanDigits (s : List Char) : List Char × List Char :=
  (s.takeWhile Char.isDigit, s.dropWhile Char.isDigit)

/-- An optional sign: whether it is a minus, and the rest. -/
def scanSign : List Char → Bool × List Char
  | '-' :: s => (true, s)
  | '+' :: s => (false, s)
  | s => (false, s)

/-- The optional exponent of a literal. -/
def scanExponent : List Char → Option (Bool × List Char) × List Char
  | c :: s =>
    if c = 'e' ∨ c = 'E' then
      let (negative, s) := scanSign s
      let (ds, s) := scanDigits s
      (some (negative, ds), s)
    else (none, c :: s)
  | [] => (none, [])

/-- The parts of the literal that `s` starts with, and the rest. -/
def scan (s : List Char) : Parts × List Char :=
  let (whole, s) := scanDigits s
  let (fraction, s) : Option (List Char) × List Char := match s with
    | '.' :: s => let (ds, s) := scanDigits s; (some ds, s)
    | s => (none, s)
  let (exponent, s) := scanExponent s
  (⟨whole, fraction, exponent⟩, s)

end Decimal

end Rulebook
