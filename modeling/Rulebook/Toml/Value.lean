import Rulebook.Json.Basic
import Rulebook.Toml.Moment

/-!
# TOML values

`Toml` is a value of a TOML document, and `Toml.toJson?` is the JSON value that stands for it, with
the members of each table in their order. A moment becomes an object with its text under a reserved
name, and a number that is not finite becomes null.

A table inside a document that begins with the reserved name is itself a moment, written in a
string. Whatever follows in it has no meaning, and if there is no moment in the string, or no
string, nothing stands for the table.
-/

namespace Rulebook

/-- A TOML value. -/
inductive Toml where
  | string (value : String)
  | number (value : Json.Number)
  /-- An infinity, or no number. -/
  | notFinite
  | boolean (value : Bool)
  /-- A date, a time, or both, in its usual spelling. -/
  | moment (text : String)
  | array (items : List Toml)
  | table (members : List (String × Toml))

namespace Toml

/-- The name under which JSON keeps a moment. -/
def momentName : String := "$__toml_private_datetime"

/-- The JSON value that stands for a moment. -/
def momentToJson (text : String) : Json :=
  .object [(momentName, .string text)]

mutual

/-- The JSON value that stands for a value. -/
def toJson? : Toml → Option Json
  | string s => some (.string s)
  | number n => some (.number n)
  | notFinite => some .null
  | boolean b => some (.bool b)
  | moment text => some (momentToJson text)
  | array items => (itemsToJson? items).map .array
  | table [] => some (.object [])
  | table ((name, value) :: rest) =>
    if name = momentName then
      match value with
      | string s => (Moment.ofString? s).map momentToJson
      | _ => none
    else do
      let first ← value.toJson?
      return .object ((name, first) :: (← membersToJson? rest))

/-- The JSON values that stand for items. -/
def itemsToJson? : List Toml → Option (List Json)
  | [] => some []
  | item :: rest => do return (← item.toJson?) :: (← itemsToJson? rest)

/-- The JSON members that stand for members. -/
def membersToJson? : List (String × Toml) → Option Json.Members
  | [] => some []
  | (name, value) :: rest => do return (name, ← value.toJson?) :: (← membersToJson? rest)

end

/-- The JSON object that stands for a whole document. -/
def documentToJson? (members : Entries Toml) : Option Json :=
  (membersToJson? members).map .object

end Toml

end Rulebook
