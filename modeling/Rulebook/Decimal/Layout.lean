import Rulebook.Decimal.Shortest

/-!
# Layout of decimal text

Where the point of a decimal goes is the decision of the format that writes it. A `Decimal.Layout`
holds these decisions: which orders of magnitude are written positionally, and how an exponent is
spelled. `Decimal.Layout.write` follows them, and `Binary64.toText` writes a double with its
shortest digits.
-/

namespace Rulebook

namespace Decimal

/-- How a format writes a number `d.ddd * 10 ^ e`. -/
structure Layout where
  /-- The least `e` written positionally. -/
  leastPositional : Int
  /-- The greatest `e` written positionally. -/
  mostPositional : Int
  /-- What follows the digits of a positionally written whole number. -/
  wholeSuffix : List Char
  /-- What stands between the digits and a nonnegative exponent. -/
  raisedMark : List Char
  /-- What stands between the digits and the size of a negative exponent. -/
  loweredMark : List Char

namespace Layout

variable (layout : Layout)

/-- The text of `coefficient * 10 ^ exponent` without a sign. -/
def write (coefficient : Nat) (exponent : Int) : List Char :=
  let ds := digits coefficient
  let order := exponent + ds.length - 1
  if layout.leastPositional ≤ order ∧ order ≤ layout.mostPositional then
    if 0 ≤ exponent then ds ++ List.replicate exponent.toNat '0' ++ layout.wholeSuffix
    else if 0 ≤ order then
      ds.take (order + 1).toNat ++ '.' :: ds.drop (order + 1).toNat
    else '0' :: '.' :: List.replicate (-order - 1).toNat '0' ++ ds
  else
    let mantissa := match ds with
      | d :: e :: rest => d :: '.' :: e :: rest
      | ds => ds
    if order < 0 then mantissa ++ layout.loweredMark ++ digits order.natAbs
    else mantissa ++ layout.raisedMark ++ digits order.natAbs

end Layout

end Decimal

/-- The text of a double in the given layout, with the fewest digits that read back. -/
def Binary64.toText (layout : Decimal.Layout) (x : Binary64) : List Char :=
  let size := if x.isZero then '0' :: layout.wholeSuffix
    else
      let (coefficient, exponent) := x.shortest
      layout.write coefficient exponent
  if x.negative then '-' :: size else size

end Rulebook
