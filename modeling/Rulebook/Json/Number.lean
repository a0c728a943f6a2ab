import Rulebook.Decimal.Layout
import Rulebook.Decimal.Literal

/-!
# JSON numbers

A number is either an integer of the signed or unsigned 64-bit range or a finite double, and the two
are told apart: `1` and `1.0` are different numbers of the same value. `Json.Number.toBinary64` is
that value as a double, which rounds integers of more than 53 bits.

A number has two texts. `Json.Number.text` is its JSON text, which tells the two kinds apart. In
messages and in conversions to text `Json.Number.plainText` writes whole doubles as integers.
-/

namespace Rulebook

namespace Json

/-- Whether an integer is in the signed or the unsigned 64-bit range. -/
def InRange (n : Int) : Prop :=
  -2 ^ 63 ≤ n ∧ n < 2 ^ 64

instance (n : Int) : Decidable (InRange n) :=
  inferInstanceAs (Decidable (_ ∧ _))

/-- A JSON number. -/
inductive Number where
  /-- A 64-bit integer. -/
  | int (value : Int) (inRange : InRange value)
  /-- A finite double. -/
  | float (value : Binary64)
deriving DecidableEq

namespace Number

/-- The size of an integer of the range fits 64 bits. -/
theorem natAbs_lt_of_inRange {n : Int} (h : InRange n) : n.natAbs < 2 ^ 64 := by
  obtain ⟨h₁, h₂⟩ := h
  omega

/-- The value as a double. -/
def toBinary64 : Number → Binary64
  | int n h => .ofInt n (natAbs_lt_of_inRange h)
  | float x => x

/-- Equality of values, whatever their kind. -/
def sameValue (a b : Number) : Bool :=
  a.toBinary64.sameValue b.toBinary64

/-- Equality of numbers of one kind; the two zeros of the doubles are equal. -/
def same : Number → Number → Bool
  | int m _, int n _ => m = n
  | float x, float y => x.sameValue y
  | _, _ => false

/-- Doubles of a smaller size than this hold every integer. -/
def exactBound : Nat := 2 ^ 53

/-- A double as a number: an integer where it is whole and below `exactBound`. -/
def ofBinary64 (x : Binary64) : Number :=
  if h : x.isIntegral = true ∧ x.integralSize < exactBound then
    .int x.truncate (by
      have := h.2
      unfold exactBound at this
      unfold InRange Binary64.truncate
      split <;> omega)
  else .float x

/-! ## Text -/

/-- Doubles are written positionally from `0.00001` up to sixteen digits before the point, whole
ones with `.0`, and an exponent always has a sign. -/
def layout : Decimal.Layout where
  leastPositional := -5
  mostPositional := 15
  wholeSuffix := ['.', '0']
  raisedMark := ['e', '+']
  loweredMark := ['e', '-']

/-- The JSON text of a number. -/
def text : Number → List Char
  | int n _ => Decimal.signedDigits n
  | float x => x.toText layout

/-- The text of a double in a message: a whole one below `10 ^ 21` in size is written as an integer,
and zero without a sign. -/
def plainFloatText (x : Binary64) : List Char :=
  if x.isZero then ['0']
  else if x.isIntegral ∧ x.integralSize < 10 ^ 21 then Decimal.signedDigits x.truncate
  else x.toText layout

/-- The text of a number in a message. -/
def plainText : Number → List Char
  | int n _ => Decimal.signedDigits n
  | float x => plainFloatText x

end Number

end Json

end Rulebook
