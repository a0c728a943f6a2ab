import Rulebook.Unicode.Breaks
import Rulebook.Unicode.EarlyAges
import Rulebook.Unicode.LateAges

/-!
# Names of sets

`CodeSet.property?` finds a set of characters by the name of a property, a category or a script, and
`CodeSet.propertyValue?` by a property and a value of it. Names are compared loosely.
-/

namespace Rulebook

open Unicode

namespace CodeSet

/-- A name as it is compared: without a leading `is`, without blanks, hyphens and underscores, in
lower case, ASCII only. What is left of `isc` keeps its prefix, for it names another property. -/
def looseName (name : List Char) : List Char :=
  let strip := fun s : List Char =>
    (s.filter fun c => c ≠ ' ' ∧ c ≠ '-' ∧ c ≠ '_' ∧ c.toNat < 0x80).map Char.toLower
  match name with
  | i :: s :: rest =>
    if i.toLower = 'i' ∧ s.toLower = 's' then
      let loose := strip rest
      if loose = ['c'] then ['i', 's', 'c'] else loose
    else strip name
  | _ => strip name

/-- The set that a single name stands for: a property, a category or a script. -/
def property? (name : List Char) : Option CodeSet :=
  let loose := String.ofList (looseName name)
  named? properties loose <|> named? categories loose <|> named? scripts loose

/-- What a version of the character set and those before it have brought. -/
def age? (name : String) : Option CodeSet :=
  let ages := earlyAges ++ lateAges
  let known := ages.takeWhile fun age => !age.names.contains name
  (ages.find? fun age => age.names.contains name).map fun age =>
    unions ((known ++ [age]).map fun age => ranges age.ranges)

/-- The set that a property and one of its values stand for. -/
def propertyValue? (property value : List Char) : Option CodeSet :=
  let loose := String.ofList (looseName value)
  match String.ofList (looseName property) with
  | "gc" | "generalcategory" => named? categories loose
  | "sc" | "script" => named? scripts loose
  | "scx" | "scriptextensions" => named? scriptExtensions loose
  | "age" => age? loose
  | "gcb" | "graphemeclusterbreak" => named? clusterClasses loose
  | "wb" | "wordbreak" => named? wordClasses loose
  | "sb" | "sentencebreak" => named? sentenceClasses loose
  | _ => none

end CodeSet

end Rulebook
