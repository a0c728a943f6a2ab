import Rulebook.ConfigError
import Rulebook.Json.Reader
import Rulebook.Rule.Basic

/-!
# Rule documents

A rule document is a JSON object with a rule for each field, in any of its spellings: a type name, a
list of allowed values, a pattern literal, or a record of attributes. `RuleSet.ofJson` reads it.

A record is read in two steps. `Record.ofMembers` reads its attributes in the order in which they
are written and stops at the first bad one; keys that are no attributes are passed over, and null
means that an attribute is not given. Then the format is compiled, and at last the nested rules are
read: the `rule` of an array is one rule for its items where the type of the items is given and is
not `object`, and in every other case a rule set.
-/

namespace Rulebook

/-! ## Attributes of a record -/

/-- The attributes of a rule record as they are written, all but the nested rules. -/
structure Record where
  typeName : Option String := none
  required : Option Bool := none
  allowEmpty : Option Bool := none
  empty : Option Bool := none
  trim : Bool := false
  min : Option Binary64 := none
  max : Option Binary64 := none
  values : Option Json := none
  format : Option String := none
  itemType : Option String := none
  compare : Option String := none
  fallback : Option Json := none
  message : Option String := none
  conversion : Option String := none
  widelyUndefined : Option Bool := none

namespace Record

/-- A boolean that must be given. -/
def boolean : Json → Except RecordFault Bool
  | .bool b => .ok b
  | found => .error (.wrongKind found .boolean)

/-- A boolean, or null. -/
def boolean? : Json → Except RecordFault (Option Bool)
  | .null => .ok none
  | .bool b => .ok (some b)
  | found => .error (.wrongKind found .boolean)

/-- A text, or null. -/
def string? : Json → Except RecordFault (Option String)
  | .null => .ok none
  | .string s => .ok (some s)
  | found => .error (.wrongKind found .string)

/-- A number, or null. -/
def number? : Json → Except RecordFault (Option Binary64)
  | .null => .ok none
  | .number n => .ok (some n.toBinary64)
  | found => .error (.wrongKind found .number)

/-- Any value but null. -/
def value? : Json → Option Json
  | .null => none
  | value => some value

/-- Reads one attribute into a record. -/
def read (record : Record) (value : Json) : Attribute → Except RecordFault Record
  | .typeName => do return { record with typeName := ← string? value }
  | .required => do return { record with required := ← boolean? value }
  | .allowEmpty => do return { record with allowEmpty := ← boolean? value }
  | .empty => do return { record with empty := ← boolean? value }
  | .trim => do return { record with trim := ← boolean value }
  | .min => do return { record with min := ← number? value }
  | .max => do return { record with max := ← number? value }
  | .values => .ok { record with values := value? value }
  | .format => do return { record with format := ← string? value }
  | .itemType => do return { record with itemType := ← string? value }
  | .rule => .ok record
  | .compare => do return { record with compare := ← string? value }
  | .fallback => .ok { record with fallback := value? value }
  | .message => do return { record with message := ← string? value }
  | .conversion => do return { record with conversion := ← string? value }
  | .widelyUndefined => do return { record with widelyUndefined := ← boolean? value }

/-- Reads members in turn. An attribute that is among those `seen` is refused before its value is
looked at. -/
def readAll (record : Record) (seen : List Attribute) :
    List (String × Json) → Except RecordFault Record
  | [] => .ok record
  | (key, value) :: rest =>
    match Attribute.ofKey? key with
    | none => readAll record seen rest
    | some which =>
      if seen.contains which then .error (.repeated which)
      else do readAll (← record.read value which) (which :: seen) rest

/-- The record that the members of an object write. -/
def ofMembers (members : Json.Members) : Except RecordFault Record :=
  readAll {} [] members

/-- A type name without any question marks at its end. -/
def baseType (typeName : String) : List Char :=
  (typeName.toList.reverse.dropWhile (· = '?')).reverse

/-- Whether nested rules of the record are meant for the items of an array, and not for fields. -/
def describesItems (record : Record) : Bool :=
  record.typeName.map baseType == some "array".toList &&
    record.itemType.any (· != "object")

/-- The compiled format. -/
def pattern? (record : Record) : Except Pattern.Invalid (Option Pattern) :=
  match record.format with
  | some text => (Pattern.ofFormat text).map some
  | none => .ok none

/-- The listed values; what is not a list counts as none. -/
def list? (record : Record) : Option (List Json) :=
  match record.values with
  | some (.array values) => some values
  | _ => none

/-- The rule that a record and its nested rules make. -/
def toRule (record : Record) (format : Option Pattern) (schema : Option RuleSet)
    (itemRule : Option Rule) : Rule where
  typeName := record.typeName
  required := record.required
  allowEmpty := record.allowEmpty
  empty := record.empty
  trim := record.trim
  min := record.min
  max := record.max
  values := record.list?
  format := format
  itemType := record.itemType
  schema := schema
  itemRule := itemRule
  compare := record.compare
  fallback := record.fallback
  message := record.message
  conversion := record.conversion.map .named
  widelyUndefined := record.widelyUndefined

end Record

/-! ## Rules -/

mutual

/-- The spec that a value writes at a path. A value of another shape is a rule without a type, which
is refused where it is used. -/
def Spec.ofJson (path : String) : Json → Except ConfigError Spec
  | .string text =>
    match Pattern.ofLiteral? text with
    | some (.ok pattern) => .ok (.pattern pattern)
    | some (.error invalid) => .error (.invalidPattern invalid)
    | none => .ok (.typeName text)
  | .array values => .ok (.oneOf values)
  | .object members => do
    let record ← (Record.ofMembers members).mapError (.badRecord path)
    let format ← record.pattern?.mapError .invalidPattern
    if record.describesItems then
      return .record (record.toRule format none (← itemRuleOf path members))
    else
      return .record (record.toRule format (← schemaOf path members) none)
  | _ => .ok (.record {})

/-- The rule for items that a record at a path holds. -/
def itemRuleOf (path : String) : List (String × Json) → Except ConfigError (Option Rule)
  | [] => .ok none
  | (key, value) :: rest =>
    if key = Attribute.rule.key then
      if value.isNull then .ok none
      else do return some (← Spec.ofJson (path ++ "[]") value).normalize
    else itemRuleOf path rest

/-- The rule set that a record at a path holds. -/
def schemaOf (path : String) : List (String × Json) → Except ConfigError (Option RuleSet)
  | [] => .ok none
  | (key, value) :: rest =>
    if key = Attribute.rule.key then
      if value.isNull then .ok none
      else do return some (← RuleSet.nestedOfJson path value)
    else schemaOf path rest

/-- The rule set that a value inside the rule at a path writes. -/
def RuleSet.nestedOfJson (path : String) : Json → Except ConfigError RuleSet
  | .object members => do
    return .ofList (← specsOf (fun name => path ++ "." ++ name) members)
  | _ => .error (.notARuleSet (some path))

/-- The specs that members write; `pathOf` is the path of each. -/
def specsOf (pathOf : String → String) :
    List (String × Json) → Except ConfigError (List (String × Spec))
  | [] => .ok []
  | (name, value) :: rest => do
    let spec ← Spec.ofJson (pathOf name) value
    return (name, spec) :: (← specsOf pathOf rest)

end

namespace RuleSet

/-- The rule set that a value writes. -/
def ofJson : Json → Except ConfigError RuleSet
  | .object members => do return ofList (← specsOf id members)
  | _ => .error (.notARuleSet none)

/-- The rule set that a JSON text writes. -/
def ofJsonText (text : String) : Except ConfigError RuleSet :=
  match Json.ofText? text with
  | some value => ofJson value
  | none => .error .unparsable

end RuleSet

end Rulebook
