import Rulebook.Proofs.Validation.Conformance
import Rulebook.Proofs.Validation.Descent
/-!
# Validation — rules that cannot be used

A rule may be of no use on a value: it has no type, or one that is not registered, or it is an
enumeration that lists nothing, or such a rule is reached inside the value. `Unusable` says so, with
one constructor for each reason; data that are merely invalid are none. `Faults.fields` is the
traversal that goes through all these places, fields in the order of the rules and items in the
order of the array, and lists their errors. The two agree (`Faults.value_ne_nil_iff`).
-/

namespace Rulebook

/-- A length breaks no bound exactly if it is within them. -/
theorem Rule.brokenLength?_eq_none_iff {rule : Rule} {length : Nat} :
    rule.brokenLength? length = none ↔ rule.WithinLength length :=
  Rule.brokenBound?_eq_none_iff

/-! ## Unusable rules -/

mutual

/-- **A rule cannot be used on a value**: it has no type, or none that is registered, or the check
of its type cannot be made. -/
inductive Unusable (options : Validator.Options) : Rule → Json → Prop where
  | unknown {rule value} (htype : rule.typeName.bind Checker.Kind.ofTypeName? = none) :
    Unusable options rule value
  | checked {rule value kind} (htype : rule.typeName.bind Checker.Kind.ofTypeName? = some kind)
    (hvalue : UnusableAs options kind rule value) : Unusable options rule value

/-- The check of a type cannot be made on a value: an enumeration lists nothing, or the type of
items is not registered, or the rule of a field that is present, or of an item, cannot be used. When
a field counts as absent says `Validator.given?_ready_eq_none_iff`. -/
inductive UnusableAs (options : Validator.Options) : Checker.Kind → Rule → Json → Prop where
  | values {rule value} (hvalues : rule.values = none) :
    UnusableAs options .enumeration rule value
  | field {rule members schema name spec value} (hschema : rule.schema = some schema)
    (hentry : (name, spec) ∈ schema.entries)
    (hpresent : Validator.given?
      (Validator.ready options spec.normalize (Entries.value? members name)) = some value)
    (hvalue : Unusable options spec.normalize value) :
    UnusableAs options .object rule (.object members)
  | itemType {rule items itemType} (hlength : rule.WithinLength items.length)
    (htype : rule.itemType = some itemType) (hkind : Checker.Kind.ofTypeName? itemType = none) :
    UnusableAs options .array rule (.array items)
  | item {rule items itemType kind item} (hlength : rule.WithinLength items.length)
    (htype : rule.itemType = some itemType) (hkind : Checker.Kind.ofTypeName? itemType = some kind)
    (hitem : item ∈ items)
    (hvalue : UnusableAs options kind (Checker.itemRule rule itemType) item) :
    UnusableAs options .array rule (.array items)

end

/-! ## The traversal -/

namespace Faults

mutual

/-- The errors in the rules that the fields of an object reach. -/
def fields (options : Validator.Options) (rules : RuleSet) (members : Json.Members) :
    List ConfigError :=
  rules.entries.attach.flatMap fun ⟨(name, spec), _hentry⟩ =>
    slot options name spec.normalize
      (Validator.ready options spec.normalize (Entries.value? members name))
termination_by 6 * rules.height + 2
decreasing_by
  have := RuleSet.height_normalize_le _hentry
  omega

/-- The errors in the rules that one field reaches. -/
def slot (options : Validator.Options) (name : String) (rule : Rule) (given : Option Json) :
    List ConfigError :=
  match Validator.given? given, rule.typeName.bind Checker.Kind.ofTypeName? with
  | none, _ => []
  | some _, none => [.unknownType rule.typeName Registry.builtin.typeNames]
  | some value, some kind => Faults.value options name kind rule value
termination_by 6 * rule.height + 1
decreasing_by
  have := kind.calls_le rule
  omega

/-- The errors in the rules that a value of a type reaches. Those in the rules for items name the
field of their array. -/
def value (options : Validator.Options) (field : String) (kind : Checker.Kind) (rule : Rule)
    (json : Json) : List ConfigError :=
  match kind, json with
  | .enumeration, _ => if rule.values.isNone then [.missingValues field] else []
  | .object, .object members =>
    match _hschema : rule.schema with
    | some schema => fields options schema members
    | none => []
  | .array, .array items =>
    match rule.brokenLength? items.length, _htype : rule.itemType with
    | none, some itemType =>
      match _hkind : Checker.Kind.ofTypeName? itemType with
      | some itemKind =>
        items.flatMap (Faults.value options field itemKind (Checker.itemRule rule itemType))
      | none => [.unknownType (some itemType) Registry.builtin.typeNames]
    | _, _ => []
  | _, _ => []
termination_by 3 * kind.calls rule
decreasing_by
  · have := Rule.height_schema_lt _hschema
    simp only [Checker.Kind.calls]
    omega
  · have := Checker.Kind.calls_item_lt _htype _hkind
    omega

end

variable {options : Validator.Options} {rules schema : RuleSet} {rule : Rule} {name field : String}
variable {kind : Checker.Kind} {json : Json} {members : Json.Members} {items : List Json}
variable {itemType : String} {given : Option Json}

/-- The fields are gone through in the order of the rules. -/
theorem fields_eq (options : Validator.Options) (rules : RuleSet) (members : Json.Members) :
    fields options rules members = rules.entries.flatMap fun entry =>
      slot options entry.1 entry.2.normalize
        (Validator.ready options entry.2.normalize (Entries.value? members entry.1)) := by
  rw [fields.eq_def]
  refine (List.flatMap_subtype fun _ _ => rfl).trans ?_
  rw [List.unattach_attach]

/-- A field that is absent reaches no rule. -/
theorem slot_absent (h : Validator.given? given = none) : slot options name rule given = [] := by
  rw [slot.eq_def, h]

/-- A field of a type that is not registered. -/
theorem slot_unknown {value : Json} (h : Validator.given? given = some value)
    (htype : rule.typeName.bind Checker.Kind.ofTypeName? = none) :
    slot options name rule given = [.unknownType rule.typeName Registry.builtin.typeNames] := by
  rw [slot.eq_def, h, htype]

/-- A field of a type. -/
theorem slot_checked {value : Json} (h : Validator.given? given = some value)
    (htype : rule.typeName.bind Checker.Kind.ofTypeName? = some kind) :
    slot options name rule given = Faults.value options name kind rule value := by
  rw [slot.eq_def, h, htype]

/-- Below an enumeration there is nothing but its own values. -/
theorem value_enumeration : Faults.value options field .enumeration rule json =
    if rule.values.isNone then [.missingValues field] else [] := by
  rw [value.eq_def]

/-- Nothing is reached below a value that is neither an object nor an array. -/
theorem value_scalar (h : json.isStructured = false) (hkind : kind ≠ .enumeration) :
    Faults.value options field kind rule json = [] := by
  rw [value.eq_def]
  split
  · exact absurd rfl hkind
  · cases h
  · cases h
  · rfl

/-- Nor is anything below a value of any other type. -/
theorem value_flat (henum : kind ≠ .enumeration) (hobject : kind ≠ .object)
    (harray : kind ≠ .array) : Faults.value options field kind rule json = [] := by
  rw [value.eq_def]
  split
  · exact absurd rfl henum
  · exact absurd rfl hobject
  · exact absurd rfl harray
  · rfl

/-- Below an object without a schema nothing is reached. -/
theorem value_object_none (hschema : rule.schema = none) :
    Faults.value options field .object rule json = [] := by
  rw [value.eq_def]
  split
  · contradiction
  · split
    · rename_i found hfound
      cases hschema.symm.trans hfound
    · rfl
  · contradiction
  · rfl

/-- Below an object its fields are reached. -/
theorem value_object (hschema : rule.schema = some schema) :
    Faults.value options field .object rule (.object members) = fields options schema members := by
  rw [value.eq_def]
  dsimp only
  split
  · rename_i found hfound
    rw [Option.some.inj (hfound.symm.trans hschema)]
  · rename_i hnone
    cases hschema.symm.trans hnone

/-- Where there are no fields, nothing is reached. -/
theorem fields_nil : fields options rules [] = [] := by
  rw [fields_eq]
  exact List.flatMap_eq_nil_iff.2 fun entry _ => slot_absent rfl

/-- An array has no fields. -/
theorem value_object_array : Faults.value options field .object rule (.array items) = [] := by
  rw [value.eq_def]

/-- Nothing but an array has items. -/
theorem value_not_array (h : ∀ items, json ≠ .array items) :
    Faults.value options field .array rule json = [] := by
  rw [value.eq_def]
  split
  · contradiction
  · contradiction
  · exact absurd rfl (h _)
  · rfl

/-- An array of a length that breaks a bound is not looked into. -/
theorem value_array_broken {broken : BrokenBound}
    (h : rule.brokenLength? items.length = some broken) :
    Faults.value options field .array rule (.array items) = [] := by
  rw [value.eq_def]
  dsimp only
  split
  · rename_i hnone _
    cases h.symm.trans hnone
  · rfl

/-- Nor is one whose items have no type. -/
theorem value_array_none (htype : rule.itemType = none) :
    Faults.value options field .array rule (.array items) = [] := by
  rw [value.eq_def]
  dsimp only
  split
  · rename_i hsome
    cases htype.symm.trans hsome
  · rfl

/-- The type of the items is met even where there are none. -/
theorem value_array_unknown (h : rule.brokenLength? items.length = none)
    (htype : rule.itemType = some itemType) (hkind : Checker.Kind.ofTypeName? itemType = none) :
    Faults.value options field .array rule (.array items) =
      [.unknownType (some itemType) Registry.builtin.typeNames] := by
  rw [value.eq_def]
  dsimp only
  split
  · rename_i found _ hfound
    obtain rfl := Option.some.inj (htype.symm.trans hfound)
    split
    · rename_i hsome
      cases hkind.symm.trans hsome
    · rfl
  · rename_i hother
    exact absurd htype (hother itemType h)

/-- Below an array its items are reached. -/
theorem value_array (h : rule.brokenLength? items.length = none)
    (htype : rule.itemType = some itemType)
    (hkind : Checker.Kind.ofTypeName? itemType = some kind) :
    Faults.value options field .array rule (.array items) =
      items.flatMap (Faults.value options field kind (Checker.itemRule rule itemType)) := by
  rw [value.eq_def]
  dsimp only
  split
  · rename_i found _ hfound
    obtain rfl := Option.some.inj (htype.symm.trans hfound)
    split
    · rename_i foundKind hfoundKind
      obtain rfl := Option.some.inj (hkind.symm.trans hfoundKind)
      rfl
    · rename_i hnone
      cases hkind.symm.trans hnone
  · rename_i hother
    exact absurd htype (hother itemType h)

/-! ## Places and errors -/

/-- A field reaches an error exactly if it is present and its rule cannot be used. -/
theorem slot_ne_nil_iff (hvalue : ∀ kind field json,
      Faults.value options field kind rule json ≠ [] ↔ UnusableAs options kind rule json) :
    slot options name rule given ≠ [] ↔
      ∃ value, Validator.given? given = some value ∧ Unusable options rule value := by
  cases hgiven : Validator.given? given with
  | none => simp [slot_absent hgiven]
  | some value =>
    cases htype : rule.typeName.bind Checker.Kind.ofTypeName? with
    | none =>
      rw [slot_unknown hgiven htype]
      simpa using Unusable.unknown htype
    | some kind =>
      rw [slot_checked hgiven htype, hvalue]
      constructor
      · exact fun h => ⟨value, rfl, .checked htype h⟩
      · rintro ⟨found, hfound, hunusable⟩
        obtain rfl := Option.some.inj hfound
        cases hunusable with
        | unknown hnone => cases htype.symm.trans hnone
        | checked hkind h =>
          obtain rfl := Option.some.inj (htype.symm.trans hkind)
          exact h

/-- The fields of an object reach an error exactly if one of them does. -/
theorem fields_ne_nil_iff (hvalue : ∀ name spec, (name, spec) ∈ rules.entries →
      ∀ kind field json, Faults.value options field kind spec.normalize json ≠ [] ↔
        UnusableAs options kind spec.normalize json) :
    fields options rules members ≠ [] ↔ ∃ name spec value, (name, spec) ∈ rules.entries ∧
      Validator.given? (Validator.ready options spec.normalize (Entries.value? members name)) =
        some value ∧ Unusable options spec.normalize value := by
  rw [fields_eq, Ne, List.flatMap_eq_nil_iff, Classical.not_forall]
  constructor
  · rintro ⟨⟨name, spec⟩, hslot⟩
    obtain ⟨hentry, hslot⟩ := Classical.not_imp.1 hslot
    obtain ⟨value, hgiven, hunusable⟩ := (slot_ne_nil_iff (hvalue name spec hentry)).1 hslot
    exact ⟨name, spec, value, hentry, hgiven, hunusable⟩
  · rintro ⟨name, spec, value, hentry, hgiven, hunusable⟩
    exact ⟨(name, spec), Classical.not_imp.2 ⟨hentry,
      (slot_ne_nil_iff (hvalue name spec hentry)).2 ⟨value, hgiven, hunusable⟩⟩⟩

/-- An enumeration is unusable if it lists nothing, whatever the value. -/
theorem enumeration_ne_nil_iff : Faults.value options field .enumeration rule json ≠ [] ↔
    UnusableAs options .enumeration rule json := by
  rw [value_enumeration]
  cases hvalues : rule.values with
  | none => simpa using UnusableAs.values hvalues
  | some values =>
    refine ⟨fun h => absurd rfl h, fun h => ?_⟩
    cases h with
    | values hnone => cases hvalues.symm.trans hnone

/-- An object is, if one of its fields is. -/
theorem object_ne_nil_iff (hfields : ∀ schema, rule.schema = some schema →
      ∀ name spec, (name, spec) ∈ schema.entries → ∀ kind field json,
        Faults.value options field kind spec.normalize json ≠ [] ↔
          UnusableAs options kind spec.normalize json) :
    Faults.value options field .object rule json ≠ [] ↔ UnusableAs options .object rule json := by
  cases json with
  | object members =>
    cases hschema : rule.schema with
    | none =>
      rw [value_object_none hschema]
      refine ⟨fun h => absurd rfl h, fun h => ?_⟩
      cases h with
      | field hsome => cases hschema.symm.trans hsome
    | some schema =>
      rw [value_object hschema, fields_ne_nil_iff (hfields schema hschema)]
      constructor
      · rintro ⟨name, spec, value, hentry, hgiven, hunusable⟩
        exact .field hschema hentry hgiven hunusable
      · intro h
        cases h with
        | field hsome hentry hgiven hunusable =>
          obtain rfl := Option.some.inj (hschema.symm.trans hsome)
          exact ⟨_, _, _, hentry, hgiven, hunusable⟩
  | array items =>
    rw [value_object_array]
    exact ⟨fun h => absurd rfl h, nofun⟩
  | _ =>
    rw [value_scalar rfl (by decide)]
    exact ⟨fun h => absurd rfl h, nofun⟩

/-- An array of a length within the bounds is, if the type of its items is not registered, or if one
of its items is. -/
theorem array_ne_nil_iff (hitems : ∀ itemType kind, rule.itemType = some itemType →
      Checker.Kind.ofTypeName? itemType = some kind → ∀ field json,
        Faults.value options field kind (Checker.itemRule rule itemType) json ≠ [] ↔
          UnusableAs options kind (Checker.itemRule rule itemType) json) :
    Faults.value options field .array rule json ≠ [] ↔ UnusableAs options .array rule json := by
  cases json with
  | array items =>
    cases hlength : rule.brokenLength? items.length with
    | some broken =>
      have hbroken : ¬ rule.WithinLength items.length := by
        rw [← Rule.brokenLength?_eq_none_iff, hlength]
        nofun
      rw [value_array_broken hlength]
      refine ⟨fun h => absurd rfl h, fun h => ?_⟩
      cases h with
      | itemType hwithin => exact absurd hwithin hbroken
      | item hwithin => exact absurd hwithin hbroken
    | none =>
      have hwithin := Rule.brokenLength?_eq_none_iff.1 hlength
      cases htype : rule.itemType with
      | none =>
        rw [value_array_none htype]
        refine ⟨fun h => absurd rfl h, fun h => ?_⟩
        cases h with
        | itemType _ hsome => cases htype.symm.trans hsome
        | item _ hsome => cases htype.symm.trans hsome
      | some itemType =>
        cases hkind : Checker.Kind.ofTypeName? itemType with
        | none =>
          rw [value_array_unknown hlength htype hkind]
          simpa using UnusableAs.itemType hwithin htype hkind
        | some kind =>
          rw [value_array hlength htype hkind, Ne, List.flatMap_eq_nil_iff, Classical.not_forall]
          constructor
          · rintro ⟨item, hitem⟩
            obtain ⟨hmem, hitem⟩ := Classical.not_imp.1 hitem
            exact .item hwithin htype hkind hmem ((hitems itemType kind htype hkind _ _).1 hitem)
          · intro h
            cases h with
            | itemType _ hsome hnone =>
              obtain rfl := Option.some.inj (htype.symm.trans hsome)
              cases hkind.symm.trans hnone
            | item _ hsome hsomeKind hmem hunusable =>
              obtain rfl := Option.some.inj (htype.symm.trans hsome)
              obtain rfl := Option.some.inj (hkind.symm.trans hsomeKind)
              exact ⟨_, Classical.not_imp.2
                ⟨hmem, (hitems itemType kind htype hkind _ _).2 hunusable⟩⟩
  | _ =>
    rw [value_not_array (by simp)]
    exact ⟨fun h => absurd rfl h, nofun⟩

/-- **The traversal finds something below a value exactly if its rule cannot be used on it.** -/
theorem value_ne_nil_iff (options : Validator.Options) (kind : Checker.Kind) (rule : Rule) :
    ∀ field json,
      Faults.value options field kind rule json ≠ [] ↔ UnusableAs options kind rule json := by
  refine Checker.Kind.descent (Q := fun _ => True) (fun _ => trivial)
    (P := fun _ kind rule => ∀ field json,
      Faults.value options field kind rule json ≠ [] ↔ UnusableAs options kind rule json)
    ?_ ?_ ?_ (kind.calls rule) kind rule (fun _ _ => trivial) (Nat.le_refl _)
  · intro _ kind rule _ hobject harray field json
    by_cases henum : kind = .enumeration
    · subst henum
      exact enumeration_ne_nil_iff
    · rw [value_flat henum hobject harray]
      refine ⟨fun h => absurd rfl h, fun h => ?_⟩
      cases h with
      | values => exact absurd rfl henum
      | field => exact absurd rfl hobject
      | itemType => exact absurd rfl harray
      | item => exact absurd rfl harray
  · exact fun _ rule _ hfields field json => object_ne_nil_iff hfields
  · exact fun _ rule _ hitems field json => array_ne_nil_iff hitems

end Faults

end Rulebook
