import Rulebook.Binary64
import Rulebook.Decimal.Digits

/-!
# The shortest decimal that reads back

`Binary64.shortest` gives the decimal digits to print a nonzero double with: of all decimals that
round to it those on the coarsest grid of multiples of a power of ten, of these the nearest, and of
two equally near the even one.

The reals that round to `m * 2 ^ s` units reach half a unit of the last place to either side, a
quarter below where the significand is the least of its binade, and include the two ends exactly if
`m` is even. Everything is compared in whole numbers, the interval being counted in quarter units.
-/

namespace Rulebook

namespace Binary64

/-- The quarter units from the lower end of the rounding interval up to the number. -/
def quartersBelow (x : Binary64) : Nat :=
  if x.significand = 2 ^ 52 ∧ 0 < x.shift then 2 ^ x.shift else 2 * 2 ^ x.shift

/-- The quarter units from the number up to the upper end of the rounding interval. -/
def quartersAbove (x : Binary64) : Nat :=
  2 * 2 ^ x.shift

/-- Whether `num / den` quarter units round to the size of `x`. -/
def attracts (x : Binary64) (num den : Nat) : Bool :=
  let low := (4 * x.units - x.quartersBelow) * den
  let high := (4 * x.units + x.quartersAbove) * den
  if x.significand % 2 = 0 then low ≤ num ∧ num ≤ high else low < num ∧ num < high

/-- The multiple of `10 ^ exponent` to print `x` with, if one rounds to `x`: of the two neighbours
of `x` on this grid the nearer that does, a tie going to the even one. -/
def onGrid (x : Binary64) (exponent : Int) : Option Nat :=
  let up := 10 ^ (-exponent).toNat
  let num := x.units * up
  let den := unitsPerOne * 10 ^ exponent.toNat
  let floor := num / den
  let fits := fun c : Nat => 0 < c && x.attracts (4 * (c * den)) up
  match fits floor, fits (floor + 1) with
  | true, true =>
    let rest := 2 * (num % den)
    if rest < den ∨ (rest = den ∧ floor % 2 = 0) then some floor else some (floor + 1)
  | true, false => some floor
  | false, true => some (floor + 1)
  | false, false => none

/-- The first grid from `10 ^ (steps - 325)` downward that holds a decimal for `x`. -/
def coarsest (x : Binary64) : (steps : Nat) → Nat × Int
  | 0 => (0, 0)
  | steps + 1 =>
    let exponent := (steps : Int) - 324
    match x.onGrid exponent with
    | some c => (c, exponent)
    | none => coarsest x steps

/-- The shortest decimal that rounds to the size of a nonzero double: a coefficient and a power of
ten. The search starts at `10 ^ 308`, above which no power of ten is finite. -/
def shortest (x : Binary64) : Nat × Int :=
  x.coarsest 633

end Binary64

end Rulebook
