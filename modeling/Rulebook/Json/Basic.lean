import Rulebook.Entries
import Rulebook.Json.Number

/-!
# JSON values

`Json` is a JSON value whose objects remember the order of their members. Two equalities are needed.
`Json.same` is equality of values: objects are equal whatever the order of their members, and an
integer differs from the double of its value. `Json.sameValue` is what enumerations and comparisons
ask for: two numbers are equal if their values are, and everything else as before.
-/

namespace Rulebook

/-- A JSON value. -/
inductive Json where
  | null
  | bool (value : Bool)
  | number (value : Json.Number)
  | string (value : String)
  | array (items : List Json)
  | object (members : List (String × Json))

namespace Json

instance : Inhabited Json := ⟨null⟩

/-- The members of an object. -/
abbrev Members := Entries Json

/-- Whether the value is an object or an array. -/
def isStructured : Json → Bool
  | array _ | object _ => true
  | _ => false

/-- Whether the value is null. -/
def isNull : Json → Bool
  | null => true
  | _ => false

/-! ## Equality -/

mutual

/-- Equality of values: the order of members does not count, the kind of a number does. -/
def same : Json → Json → Bool
  | null, null => true
  | bool a, bool b => a = b
  | number a, number b => a.same b
  | string a, string b => a = b
  | array as, array bs => sameItems as bs
  | object as, object bs => as.length = bs.length && sameMembers as bs
  | _, _ => false

/-- Equality item by item. -/
def sameItems : List Json → List Json → Bool
  | [], [] => true
  | a :: as, b :: bs => same a b && sameItems as bs
  | _, _ => false

/-- Whether each member on the left has an equal of its name on the right. -/
def sameMembers : List (String × Json) → List (String × Json) → Bool
  | [], _ => true
  | (name, a) :: as, bs =>
    (match Entries.value? bs name with
      | some b => same a b
      | none => false) && sameMembers as bs

end

/-- Equality of values in which numbers are compared by value. -/
def sameValue : Json → Json → Bool
  | number a, number b => a.sameValue b
  | a, b => same a b

end Json

end Rulebook
