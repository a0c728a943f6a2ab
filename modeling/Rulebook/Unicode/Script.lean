import Rulebook.Unicode.CodeRange

/-!
# Scripts

A script has a few names, here in lower case and without separators, and the code points written in
it. Some code points belong to another script, or to none, and are written in this one too.
-/

namespace Rulebook

namespace Unicode

/-- A script: its names and its code points. -/
structure Script where
  /-- The names, the short one first. -/
  names : List String
  /-- The code points. -/
  ranges : List CodeRange
  /-- The code points of other scripts, or of none, that are written in this one too. -/
  shared : List CodeRange

end Unicode

end Rulebook
