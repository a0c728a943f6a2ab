import Rulebook.Unicode.CodeRange

/-!
# Ages

Each version of the character set brings code points that had no use before.
-/

namespace Rulebook

namespace Unicode

/-- A version: its names and the code points that it brings. -/
structure Age where
  /-- The names. -/
  names : List String
  /-- The code points. -/
  ranges : List CodeRange

end Unicode

end Rulebook
