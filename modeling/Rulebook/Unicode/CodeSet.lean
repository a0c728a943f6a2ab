import Rulebook.Unicode.CaseFolding

/-!
# Sets of code points

A `CodeSet` describes a set of code points as an expression over ranges, and `CodeSet.contains`
decides membership by reading the expression. No set has to be computed for that, so complements and
folding cost nothing to build, and the meaning of each operation is its defining equation.

`CodeSet.toRanges` lists the characters of a set. Only the size of a pattern depends on it.
-/

namespace Rulebook

open Unicode

/-- A set of code points. -/
inductive CodeSet where
  /-- The code points of ascending ranges. -/
  | ranges (rs : List CodeRange)
  /-- What is in either set. -/
  | union (a b : CodeSet)
  /-- What is in both sets. -/
  | inter (a b : CodeSet)
  /-- What is in the first set and not in the second. -/
  | diff (a b : CodeSet)
  /-- What is not in the set. -/
  | compl (a : CodeSet)
  /-- What is the same letter, but for case, as something in the set. -/
  | folded (a : CodeSet)
deriving DecidableEq

namespace CodeSet

/-- Whether a code point is in the set. -/
def contains : CodeSet → Nat → Bool
  | ranges rs, c => inRanges rs c
  | union a b, c => a.contains c || b.contains c
  | inter a b, c => a.contains c && b.contains c
  | diff a b, c => a.contains c && !b.contains c
  | compl a, c => !a.contains c
  | folded a, c => a.contains c || (sameLetter c).any fun d => a.contains d

/-- The code points of the set, listed. -/
def listed : CodeSet → List CodeRange
  | ranges rs => Ranges.joined rs
  | union a b => Ranges.union a.listed b.listed
  | inter a b => Ranges.inter a.listed b.listed
  | diff a b => Ranges.inter a.listed (Ranges.compl b.listed)
  | compl a => Ranges.compl a.listed
  | folded a => closedUnderFolding a.listed

/-- The characters of the set, listed: its code points without surrogates. -/
def toRanges (set : CodeSet) : List CodeRange :=
  Ranges.inter set.listed Ranges.scalars

/-- The set without code points. -/
def empty : CodeSet := ranges []

/-- The code points from `first` to `last`. -/
def range (first last : Nat) : CodeSet := ranges [(first, last)]

/-- One code point. -/
def single (c : Nat) : CodeSet := range c c

/-- What is in any of some sets. -/
def unions : List CodeSet → CodeSet
  | [] => empty
  | [a] => a
  | a :: rest => union a (unions rest)

/-- What is in exactly one of two sets. -/
def symmDiff (a b : CodeSet) : CodeSet := union (diff a b) (diff b a)

end CodeSet

end Rulebook
