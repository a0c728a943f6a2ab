import Rulebook.Entries
import Rulebook.Toml.Value

/-!
# TOML tables

A TOML document is a sequence of statements, and a table may be opened by many of them. Here
statements are put together: how a table came to be decides which later statement may still add to
it. A table with a header of its own is only added to below that header, one made by the dots of a
key only by other such keys, and one that was merely passed through may still get a header, which
moves it behind its siblings.
-/

namespace Rulebook

namespace Toml

/-- How a table came to be. -/
inductive Origin where
  /-- It has a header, or it is an element of an array of tables. -/
  | header
  /-- A header passes through it. -/
  | implied
  /-- A key with dots made it. -/
  | dotted
deriving DecidableEq

/-- A part of a document that is being put together. -/
inductive Node where
  /-- A finished value. -/
  | value (value : Toml)
  /-- A table. -/
  | table (origin : Origin) (members : List (String × Node))
  /-- The tables of an array, the last one first. -/
  | tables (elements : List (List (String × Node)))

/-- The members of a table that is being put together. -/
abbrev Members := Entries Node

mutual

/-- The finished value. -/
def Node.finish : Node → Toml
  | .value value => value
  | .table _ members => .table (finishMembers members)
  | .tables elements => .array (finishElements elements).reverse

/-- The finished members of a table. -/
def finishMembers : List (String × Node) → List (String × Toml)
  | [] => []
  | (name, node) :: rest => (name, node.finish) :: finishMembers rest

/-- The finished tables of an array. -/
def finishElements : List (List (String × Node)) → List Toml
  | [] => []
  | members :: rest => .table (finishMembers members) :: finishElements rest

end

/-- Changes the table at a path. Tables on the way that do not exist are made. The dots of a key
(`dotted`) do not lead into a table with a header. -/
def atPath (dotted : Bool) (change : Origin → Members → Option Members) :
    (path : List String) → Origin → Members → Option Members
  | [], origin, members => change origin members
  | name :: path, _, members =>
    match Entries.value? members name with
    | none => do
      let origin := if dotted then .dotted else .implied
      return Entries.put members name (.table origin (← atPath dotted change path origin []))
    | some (.value _) => none
    | some (.tables []) => none
    | some (.tables (last :: others)) => do
      return Entries.put members name
        (.tables ((← atPath dotted change path .header last) :: others))
    | some (.table origin inner) =>
      if dotted ∧ origin = .header then none
      else do
        return Entries.put members name (.table origin (← atPath dotted change path origin inner))

/-- Binds a key to a value inside a table. What the dots of the key lead to must have been made by
dots. -/
def bind (path : List String) (name : String) (value : Toml) (members : Members) :
    Option Members :=
  atPath true (fun origin members =>
    if decide (origin = .dotted) = path.isEmpty then none
    else if Entries.has members name then none
    else some (Entries.put members name (.value value))) path .header members

/-- The table that keys and values write inside braces. -/
def inlineTable? (pairs : List (List String × String × Toml)) : Option Toml := do
  let members ← pairs.foldlM (fun members (path, name, value) => bind path name value members) []
  return .table (finishMembers members)

/-! ## Statements -/

/-- A statement of a document. -/
inductive Statement where
  /-- A key with a value: the parts of the key before the last one, the last one, and the value. -/
  | pair (path : List String) (name : String) (value : Toml)
  /-- The header of a table. -/
  | table (path : List String) (name : String)
  /-- The header of an element of an array of tables. -/
  | element (path : List String) (name : String)

/-- A document that is being put together. -/
structure Draft where
  /-- Everything but the table that is open. -/
  root : Members := []
  /-- Where the open table belongs, and whether it is an element of an array; nothing for the root.
  -/
  place : Option (List String × String × Bool) := none
  /-- The members of the open table. -/
  current : Members := []

namespace Draft

/-- Everything, the open table put where it belongs. -/
def close (draft : Draft) : Option Members :=
  match draft.place with
  | none => some draft.current
  | some (path, name, false) =>
    atPath false (fun _ members =>
      if Entries.has members name then none
      else some (Entries.put members name (.table .header draft.current))) path .header draft.root
  | some (path, name, true) =>
    atPath false (fun _ members =>
      match Entries.value? members name with
      | some (.tables elements) =>
        some (Entries.put members name (.tables (draft.current :: elements)))
      | _ => none) path .header draft.root

/-- The members of the table at a path. -/
def membersAt? : (path : List String) → Members → Option Members
  | [], members => some members
  | name :: path, members =>
    match Entries.value? members name with
    | some (.table _ inner) => membersAt? path inner
    | some (.tables (last :: _)) => membersAt? path last
    | _ => none

/-- Opens the table of a header. One that headers passed through is taken from its place and goes
on. -/
def openTable (root : Members) (path : List String) (name : String) : Option Draft := do
  let opened ← match (membersAt? path root).bind fun members => Entries.value? members name with
    | none => some []
    | some (.table .implied members) => some members
    | some _ => none
  let root ← atPath false (fun _ members => some (Entries.without members name)) path .header root
  return ⟨root, some (path, name, false), opened⟩

/-- Opens a new element of an array of tables. -/
def openElement (root : Members) (path : List String) (name : String) : Option Draft := do
  let root ← atPath false (fun _ members =>
    match Entries.value? members name with
    | none => some (Entries.put members name (.tables []))
    | some (.tables _) => some members
    | some _ => none) path .header root
  return ⟨root, some (path, name, true), []⟩

/-- Adds a statement. -/
def add (draft : Draft) : Statement → Option Draft
  | .pair path name value => do
    return { draft with current := ← bind path name value draft.current }
  | .table path name => do openTable (← draft.close) path name
  | .element path name => do openElement (← draft.close) path name

end Draft

/-- The members of the document that some statements make. -/
def ofStatements? (statements : List Statement) : Option (Entries Toml) := do
  let draft ← statements.foldlM Draft.add {}
  return finishMembers (← draft.close)

end Toml

end Rulebook
