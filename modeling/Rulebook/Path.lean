/-!
# Paths

Paths of files as text, with slashes between their parts. Empty parts and single points mean
nothing.
-/

namespace Rulebook

namespace Path

/-- The text between slashes. -/
def segments : List Char → (current : List Char) → List (List Char)
  | [], current => [current.reverse]
  | '/' :: rest, current => current.reverse :: segments rest []
  | c :: rest, current => segments rest (c :: current)

/-- Whether a segment names something. -/
def isPart (segment : List Char) : Bool :=
  !(segment = [] || segment = ['.'])

/-- Whether a path starts at the root. -/
def isAbsolute (path : String) : Bool :=
  path.toList.head? = some '/'

/-- The last part of a path, if it is the name of a file. -/
def fileName? (path : String) : Option (List Char) :=
  match ((segments path.toList []).filter isPart).getLast? with
  | some name => if name = ['.', '.'] then none else some name
  | none => none

/-- The text after the last point of the file name; a point at its start does not count. -/
def extension? (path : String) : Option String := do
  let name ← fileName? path
  let extension := (name.reverse.takeWhile (· ≠ '.')).reverse
  if extension.length + 1 < name.length then some (String.ofList extension) else none

/-- A path without its last part. -/
def parent (path : String) : String :=
  let before := ((segments path.toList []).reverse.dropWhile fun segment => !isPart segment).tail
  let text := List.intercalate ['/'] before.reverse
  if text = [] ∧ isAbsolute path then "/" else String.ofList text

/-- A path inside a directory, unless it starts at the root. -/
def inside (directory path : String) : String :=
  if isAbsolute path ∨ directory.isEmpty then path
  else if directory.toList.getLast? = some '/' then directory ++ path
  else directory ++ "/" ++ path

end Path

end Rulebook
