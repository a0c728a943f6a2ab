/-!
# Ranges of code points

A set of code points is listed as ranges, both ends included. In the tables of this folder, and in
what the operations below give, the ranges ascend; what the operations give also leaves a gap
between any two of them, so that a set is listed in one way only.
-/

namespace Rulebook

namespace Unicode

/-- A first and a last code point. -/
abbrev CodeRange := Nat × Nat

/-- The last code point. -/
def lastCode : Nat := 0x10FFFF

/-- Whether one of some ascending ranges holds a code point. -/
def inRanges : List CodeRange → Nat → Bool
  | [], _ => false
  | (first, last) :: rest, c =>
    if c < first then false else if c ≤ last then true else inRanges rest c

namespace Ranges

/-- A range and ascending ranges that do not begin before it, put together where they touch. -/
def joinedOnto (first last : Nat) : List CodeRange → List CodeRange
  | [] => [(first, last)]
  | (a, b) :: rest =>
    if a ≤ last + 1 then joinedOnto first (max last b) rest
    else (first, last) :: joinedOnto a b rest

/-- Ascending ranges, put together where they touch. -/
def joined : List CodeRange → List CodeRange
  | [] => []
  | (first, last) :: rest => joinedOnto first last rest

/-- What is in either of two listed sets. -/
def union (a b : List CodeRange) : List CodeRange :=
  joined (List.merge a b fun x y => x.1 ≤ y.1)

/-- What is at or after `next` and not in a listed set. -/
def gapsFrom (next : Nat) : List CodeRange → List CodeRange
  | [] => if next ≤ lastCode then [(next, lastCode)] else []
  | (first, last) :: rest =>
    if next < first then (next, first - 1) :: gapsFrom (last + 1) rest
    else gapsFrom (last + 1) rest

/-- What is not in a listed set. -/
def compl (a : List CodeRange) : List CodeRange :=
  gapsFrom 0 a

/-- What is in both of two listed sets. -/
def inter (a b : List CodeRange) : List CodeRange :=
  compl (union (compl a) (compl b))

/-- The set of some code points in any order. -/
def ofCodes (codes : List Nat) : List CodeRange :=
  joined ((codes.mergeSort fun a b => a ≤ b).map fun c => (c, c))

/-- The code points that are no surrogates. -/
def scalars : List CodeRange :=
  [(0, 0xD7FF), (0xE000, lastCode)]

end Ranges

end Unicode

end Rulebook
