import Rulebook.Unicode.CodeSet
import Rulebook.Unicode.ScriptsAToG
import Rulebook.Unicode.ScriptsHToK
import Rulebook.Unicode.ScriptsLToN
import Rulebook.Unicode.ScriptsOToS
import Rulebook.Unicode.ScriptsTToZ

/-!
# The scripts as sets

Each code point belongs to one script, and some of them are written in further scripts.
`CodeSet.scripts` lists what belongs to each script, and `CodeSet.scriptExtensions` what is written
in it: what other scripts share no longer counts as common to all scripts, or as taking the script
of the character before it.
-/

namespace Rulebook

namespace Unicode

/-- All scripts. -/
def allScripts : List Script :=
  scriptsAToG ++ scriptsHToK ++ scriptsLToN ++ scriptsOToS ++ scriptsTToZ

end Unicode

open Unicode

namespace CodeSet

/-- The set under a name in a list. -/
def named? (sets : List (List String × CodeSet)) (name : String) : Option CodeSet :=
  (sets.find? fun entry => entry.1.contains name).map Prod.snd

/-- What belongs to each script, under all its names. -/
def scripts : List (List String × CodeSet) :=
  allScripts.map fun script => (script.names, ranges script.ranges)

/-- What belongs to the script of a name. -/
def script (name : String) : CodeSet :=
  (named? scripts name).getD empty

/-- Everything that some scripts share with others. -/
def shared : CodeSet :=
  unions (allScripts.map fun script => ranges script.shared)

/-- What is written in each script, under all its names. -/
def scriptExtensions : List (List String × CodeSet) :=
  allScripts.map fun script =>
    if script.names.contains "common" || script.names.contains "inherited" then
      (script.names, diff (ranges script.ranges) shared)
    else (script.names, union (ranges script.ranges) (ranges script.shared))

end CodeSet

end Rulebook
