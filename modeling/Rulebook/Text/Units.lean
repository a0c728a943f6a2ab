/-!
# Sixteen-bit units

The length of a text in 16-bit units: one for a character of the basic plane, two for any other.
-/

namespace Rulebook

namespace Text

/-- The 16-bit units that encode a character. -/
def charUnits (c : Char) : Nat :=
  if c.toNat < 0x10000 then 1 else 2

/-- The 16-bit units that encode a text. -/
def units : List Char → Nat
  | [] => 0
  | c :: rest => charUnits c + units rest

end Text

end Rulebook
