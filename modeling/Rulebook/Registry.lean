import Rulebook.Checker.Run

/-!
# Registries

A `Registry` gives each type name a checker, and to some of them the coercion that is used for
values of the type. `Registry.builtin` holds the built-in types. `Registry.register` registers a
type or replaces one: it writes the coercion first and the checker last, and what it had written
when it failed would stay. A coercion that is asked for by name is looked up at that moment, so it
does not follow later changes of the type that it was taken from.
-/

namespace Rulebook

/-- The checkers and coercions of the types. -/
structure Registry where
  /-- The checker of each type. -/
  checkers : Entries Checker := []
  /-- The coercion of a type, if it has one. -/
  coercions : Entries Coercion := []

namespace Registry

/-- The registry without types. -/
def empty : Registry := {}

/-! ## Built-in types -/

/-- The built-in types with their checkers and coercions. -/
def builtinTypes : List (String × Checker.Kind × Option Coercion.Kind) :=
  [("number", .number, some .number), ("int", .integer, some .int),
    ("integer", .integer, some .int), ("string", .string, some .string), ("id", .id, some .string),
    ("date", .date, some .string), ("dateTime", .dateTime, some .string),
    ("datetime", .dateTime, some .string), ("boolean", .boolean, some .bool),
    ("bool", .boolean, some .bool), ("array", .array, none), ("object", .object, none),
    ("enum", .enumeration, none), ("email", .email, some .string),
    ("password", .password, some .string), ("url", .url, some .string)]

/-- The registry of the built-in types. -/
def builtin : Registry where
  checkers := builtinTypes.map fun (name, kind, _) => (name, .builtin kind)
  coercions := builtinTypes.filterMap fun (name, _, coercion) =>
    coercion.map fun kind => (name, .builtin kind)

/-! ## Looking up -/

/-- The checker of a type. -/
def get? (registry : Registry) (typeName : String) : Option Checker :=
  Entries.value? registry.checkers typeName

/-- Whether a type is registered. -/
def contains (registry : Registry) (typeName : String) : Bool :=
  Entries.has registry.checkers typeName

/-- The names of the types, in the order of their characters. -/
def typeNames (registry : Registry) : List String :=
  (Entries.names registry.checkers).mergeSort fun a b => !decide (b < a)

/-- How many types there are. -/
def size (registry : Registry) : Nat :=
  registry.checkers.length

/-- The checker of a type, which must be registered. -/
def require (registry : Registry) (typeName : Option String) : Except ConfigError Checker :=
  match typeName.bind registry.get? with
  | some checker => .ok checker
  | none => .error (.unknownType typeName registry.typeNames)

/-- The coercion of a type. -/
def coercionFor? (registry : Registry) (typeName : String) : Option Coercion :=
  Entries.value? registry.coercions typeName

/-- The coercion that a name stands for: a built-in one first, then that of a type. -/
def resolve? (registry : Registry) (name : String) : Option Coercion :=
  match Coercion.Kind.ofName? name with
  | some kind => some (.builtin kind)
  | none => registry.coercionFor? name

/-! ## Registering -/

/-- The coercion that a registration asks for. -/
def requested (registry : Registry) (typeName : String) :
    Coercion.Request → Except ConfigError Coercion
  | .custom convert => .ok (.custom convert)
  | .named name =>
    match registry.resolve? name with
    | some coercion => .ok coercion
    | none => .error (.unknownCoercion name typeName)

/-- What a registration leaves: whether it went through, or why not, and the registry as far as it
was written to. -/
structure Registered where
  /-- Whether it went through, or why not. -/
  result : Except ConfigError Unit
  /-- The registry after the registration. -/
  registry : Registry

/-- Sets the coercion of a type to the one that is asked for, if any is. -/
def setCoercion (registry : Registry) (typeName : String) (coercion : Option Coercion.Request) :
    Registered :=
  match coercion with
  | none => ⟨.ok (), registry⟩
  | some request =>
    match registry.requested typeName request with
    | .error e => ⟨.error e, registry⟩
    | .ok found =>
      ⟨.ok (), { registry with coercions := Entries.put registry.coercions typeName found }⟩

/-- Sets the checker of a type. -/
def setChecker (registry : Registry) (typeName : String) (checker : Checker) : Registry :=
  { registry with checkers := Entries.put registry.checkers typeName checker }

/-- Registers a type, or replaces one if `replace` allows it. The coercion of a type that is
replaced stays if none is asked for. -/
def register (registry : Registry) (typeName : String) (checker : Checker) (replace : Bool)
    (coercion : Option Coercion.Request) : Registered :=
  if typeName.isEmpty then ⟨.error .missingType, registry⟩
  else if !replace && registry.contains typeName then
    ⟨.error (.duplicateType typeName), registry⟩
  else
    let coerced := registry.setCoercion typeName coercion
    match coerced.result with
    | .error e => ⟨.error e, coerced.registry⟩
    | .ok () => ⟨.ok (), coerced.registry.setChecker typeName checker⟩

/-- The registry with one more registration, if that goes through. -/
def add (registry : Registry) (typeName : String) (checker : Checker) (replace : Bool)
    (coercion : Option Coercion.Request) : Except ConfigError Registry :=
  let registered := registry.register typeName checker replace coercion
  registered.result.map fun () => registered.registry

end Registry

end Rulebook
