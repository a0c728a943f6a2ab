import Rulebook.Proofs.Validation.Independence
import Rulebook.Proofs.Validation.Unusable
/-!
# Validation — when a validation fails

A validation fails where the data reach a rule that cannot be used, and nowhere else. By the descent
into rules a check fails with the first error that the traversal `Faults.value` meets below its
value, or not at all (`Checker.Kind.failure?_run`), hence so does a run over fields
(`Validator.failure?_validateFields`).
-/

namespace Rulebook

/-- The error of a computation that failed. -/
def failure? {α : Type} : Except ConfigError α → Option ConfigError
  | .ok _ => none
  | .error e => some e

section Failure

variable {α β : Type} {computed : Except ConfigError α}

@[simp]
theorem failure?_ok (a : α) : failure? (.ok a) = none := rfl

@[simp]
theorem failure?_error (e : ConfigError) :
    failure? (.error e : Except ConfigError α) = some e := rfl

/-- What is made of a result does not change whether there is one. -/
@[simp]
theorem failure?_map (f : α → β) : failure? (computed.map f) = failure? computed := by
  cases computed <;> rfl

theorem failure?_eq_some_iff {e : ConfigError} :
    failure? computed = some e ↔ computed = .error e := by
  cases computed <;> simp

end Failure

/-! ## Checks and runs -/

namespace Validator

variable {validator : Validator} {context : String → Json.Members → Checker.Context}
variable {rules : RuleSet} {rule : Rule} {name : String} {siblings : Json.Members}
variable {slot : Option Json} {value : Json}

/-- A type that is not registered is refused with the types that are. -/
theorem require_unknown (hreg : validator.registry = .builtin) {typeName : Option String}
    (h : typeName.bind Checker.Kind.ofTypeName? = none) :
    validator.registry.require typeName =
      .error (.unknownType typeName Registry.builtin.typeNames) := by
  have hget : typeName.bind Registry.builtin.get? = none := by
    cases typeName with
    | none => rfl
    | some name =>
      rw [Option.bind_some, Registry.get?_builtin,
        (show Checker.Kind.ofTypeName? name = none from h)]
      rfl
  rw [hreg, Registry.require, hget]

/-- What a rule reaches below a value does not change with its conversion. -/
theorem faults_converted (hreg : validator.registry = .builtin) (hrule : rule.NoFunction)
    (options : Options) (field : String) (kind : Checker.Kind) :
    Faults.value options field kind rule (validator.converted rule siblings value) =
      Faults.value options field kind rule value := by
  cases hvalue : value.isStructured with
  | true => rw [converted, if_pos hvalue]
  | false =>
    have hconverted : (validator.converted rule siblings value).isStructured = false :=
      (isStructured_converted hreg hrule).trans hvalue
    by_cases henum : kind = .enumeration
    · rw [henum, Faults.value_enumeration, Faults.value_enumeration]
    · rw [Faults.value_scalar hconverted henum, Faults.value_scalar hvalue henum]

/-- A field's turn fails with the first error that the field reaches. -/
theorem failure?_validateSlot (hreg : validator.registry = .builtin) (hrule : rule.NoFunction)
    (hcheck : ∀ kind siblings value,
      failure? (kind.run (context name siblings) rule value).verdict =
        (Faults.value validator.options name kind rule value).head?) :
    failure? (validator.validateSlot context rule name siblings slot).result =
      (Faults.slot validator.options name rule slot).head? := by
  cases hgiven : given? slot with
  | none =>
    rw [Faults.slot_absent hgiven]
    cases hrequired : rule.isRequired with
    | true => simp [validateSlot_missing hgiven hrequired]
    | false => simp [validateSlot_optional hgiven hrequired]
  | some value =>
    cases htype : rule.typeName.bind Checker.Kind.ofTypeName? with
    | none =>
      rw [validateSlot_unknown hgiven (require_unknown hreg htype),
        Faults.slot_unknown hgiven htype]
      rfl
    | some kind =>
      have hrequire : validator.registry.require rule.typeName = .ok (.builtin kind) := by
        rw [hreg]
        exact Registry.require_builtin.2 ⟨kind, htype, rfl⟩
      rw [validateSlot_checked hgiven hrequire, Faults.slot_checked hgiven htype]
      simp only [failure?_map, Checker.run, hcheck, faults_converted hreg hrule]

/-- **A run over fields fails with the first error that they reach**, each field as it was before
the run: no turn before its own disturbs it, the names of the rules being distinct. -/
theorem failure?_validateFields (hreg : validator.registry = .builtin)
    (entries : List (String × Spec)) (hnames : (Entries.names entries).Nodup)
    (hrules : ∀ entry ∈ entries, entry.2.normalize.NoFunction)
    (hcheck : ∀ name spec, (name, spec) ∈ entries → ∀ kind siblings value,
      failure? (kind.run (context name siblings) spec.normalize value).verdict =
        (Faults.value validator.options name kind spec.normalize value).head?)
    (fields : Json.Members) :
    failure? (validator.validateFields context entries fields).result =
      (entries.flatMap fun entry => Faults.slot validator.options entry.1 entry.2.normalize
        (ready validator.options entry.2.normalize (Entries.value? fields entry.1))).head? := by
  induction entries generalizing fields with
  | nil => rfl
  | cons entry rest ih =>
    obtain ⟨name, spec⟩ := entry
    obtain ⟨hname, hrest⟩ := List.nodup_cons.1 hnames
    have hkept := (validateField_framed validator context name spec fields).kept
    have hturn : failure? (validator.validateField context spec.normalize name fields).result =
        (Faults.slot validator.options name spec.normalize
          (ready validator.options spec.normalize (Entries.value? fields name))).head? := by
      rw [validateField_eq]
      exact failure?_validateSlot hreg (hrules (name, spec) (by simp)) (hcheck name spec (by simp))
    rw [List.flatMap_cons, List.head?_append, ← hturn]
    cases hresult : (validator.validateField context spec.normalize name fields).result with
    | error e => simp [validateFields_cons_error hresult]
    | ok errors =>
      -- the later fields are as they were
      have hsame : rest.flatMap (fun entry => Faults.slot validator.options entry.1
            entry.2.normalize (ready validator.options entry.2.normalize (Entries.value?
              (validator.validateField context spec.normalize name fields).target entry.1))) =
          rest.flatMap fun entry => Faults.slot validator.options entry.1 entry.2.normalize
            (ready validator.options entry.2.normalize (Entries.value? fields entry.1)) := by
        rw [List.flatMap_def, List.flatMap_def]
        refine congrArg List.flatten (List.map_congr_left fun entry hentry => ?_)
        rw [hkept entry.1 (by simpa using Entries.fst_ne_of_mem hname hentry)]
      rw [validateFields_cons_ok hresult]
      dsimp only
      rw [failure?_map, ih hrest (fun entry h => hrules entry (by simp [h]))
        (fun name spec h => hcheck name spec (by simp [h])), hsame]
      rfl

/-- A validation fails with the first error that the fields of its target reach. -/
theorem failure?_validateIn (hreg : validator.registry = .builtin) (hnames : rules.names.Nodup)
    (hrules : rules.All Rule.Declarative)
    (hcheck : ∀ name spec, (name, spec) ∈ rules.entries → ∀ kind siblings value,
      failure? (kind.run (context name siblings) spec.normalize value).verdict =
        (Faults.value validator.options name kind spec.normalize value).head?)
    {target : Json} (htarget : target.isStructured = true) :
    failure? (validator.validateIn context rules target).result =
      (Faults.fields validator.options rules target.fields).head? := by
  have hrun := failure?_validateFields hreg rules.entries hnames
    (fun ⟨_, _⟩ hentry => (hrules.normalize hentry).self.noFunction) hcheck
  rw [Faults.fields_eq]
  cases target with
  | object fields =>
    rw [validateIn_object]
    exact hrun fields
  | array items =>
    rw [validateIn_array]
    exact hrun []
  | _ => cases htarget

end Validator

namespace Checker

variable {validator : Validator}

/-- The check of items fails with the first error that one of them meets. -/
theorem failure?_items (check : Json → Checked) (faults : Json → List ConfigError)
    (hcheck : ∀ item, failure? (check item).verdict = (faults item).head?) (rule : Rule)
    (values : List Json) :
    ∀ index, failure? (Checker.items (fun _ => check) index rule values).result =
      (values.flatMap faults).head? := by
  induction values generalizing rule with
  | nil => exact fun _ => rfl
  | cons item rest ih =>
    intro index
    rw [List.flatMap_cons, List.head?_append, ← hcheck item]
    cases hverdict : (check item).verdict with
    | error e => simp [Checker.items, hverdict]
    | ok verdict =>
      simp only [Checker.items, hverdict, failure?_map, ih]
      rfl

/-- A check that looks into nothing fails only for an enumeration that lists nothing. -/
theorem Kind.failure?_run_scalar {kind : Kind} (hobject : kind ≠ .object) (harray : kind ≠ .array)
    (options : Validator.Options) (context : Context) (rule : Rule) (value : Json) :
    failure? (kind.run context rule value).verdict =
      (Faults.value options context.field kind rule value).head? := by
  by_cases henum : kind = .enumeration
  · subst henum
    rw [Faults.value_enumeration]
    cases hvalues : rule.values with
    | none => simp [Kind.run, Checker.enumeration, hvalues]
    | some values =>
      simp only [Kind.run, Checker.enumeration, hvalues]
      split <;> rfl
  · rw [Faults.value_flat henum hobject harray]
    cases kind with
    | enumeration => exact absurd rfl henum
    | object => exact absurd rfl hobject
    | array => exact absurd rfl harray
    | _ => rfl

/-- The verdict on the inside of a value is missing for the same reason as the result. -/
theorem failure?_verdict {α : Type} (validated : Validated α) :
    failure? validated.verdict = failure? validated.result :=
  failure?_map _

/-- The check of an object fails with the first error that its fields reach. -/
theorem failure?_object {context : Context} {options : Validator.Options} {rule : Rule}
    (hvalidate : ∀ schema, rule.schema = some schema → ∀ target, target.isStructured = true →
      failure? (context.validate schema target).result =
        (Faults.fields options schema target.fields).head?) (field : String) (value : Json) :
    failure? (Checker.object context rule value).verdict =
      (Faults.value options field .object rule value).head? := by
  cases hvalue : value.isStructured with
  | false =>
    rw [object_of_scalar hvalue, Faults.value_scalar hvalue (by decide)]
    rfl
  | true =>
    cases hschema : rule.schema with
    | none =>
      rw [object_of_schema_none hvalue hschema, Faults.value_object_none hschema]
      rfl
    | some schema =>
      rw [object_of_schema hvalue hschema]
      dsimp only
      rw [failure?_verdict, hvalidate schema hschema value hvalue]
      cases value with
      | object members => rw [Faults.value_object hschema]; rfl
      | array items =>
        rw [Faults.value_object_array, Json.fields, Faults.fields_nil]
        exact fun members h => nomatch h
      | _ => cases hvalue

/-- The check of an array fails if the type of its items is not registered, and else with the first
error that its items reach. -/
theorem failure?_array (hreg : validator.registry = .builtin) {depth : Nat} {rule : Rule}
    {field : String} (hitems : ∀ itemType kind, rule.itemType = some itemType →
      Kind.ofTypeName? itemType = some kind → ∀ item,
        failure? (kind.run (validator.context depth field []) (itemRule rule itemType)
            item).verdict =
          (Faults.value validator.options field kind (itemRule rule itemType) item).head?)
    (siblings : Json.Members) (value : Json) :
    failure? (Checker.array (validator.context (depth + 1) field siblings) rule value).verdict =
      (Faults.value validator.options field .array rule value).head? := by
  cases value with
  | array items =>
    cases hlength : rule.brokenLength? items.length with
    | some broken =>
      rw [array_of_broken hlength, Faults.value_array_broken hlength]
      rfl
    | none =>
      cases htype : rule.itemType with
      | none =>
        rw [array_of_itemType_none hlength htype, Faults.value_array_none htype]
        rfl
      | some itemType =>
        cases hkind : Kind.ofTypeName? itemType with
        | none =>
          rw [array_of_require_error hlength htype
              (Validator.context_require_error (Validator.require_unknown hreg hkind)),
            Faults.value_array_unknown hlength htype hkind]
          rfl
        | some kind =>
          have hrequire : validator.registry.require (some itemType) = .ok (.builtin kind) := by
            rw [hreg]
            exact Registry.require_builtin.2 ⟨kind, hkind, rfl⟩
          rw [array_of_require hlength htype (Validator.context_require_ok hrequire),
            Faults.value_array hlength htype hkind]
          simp only [Checker.run, items_builtin, failure?_verdict]
          exact failure?_items _ _ (hitems itemType kind htype hkind) _ items 0
  | _ =>
    rw [Faults.value_not_array (by simp)]
    rfl

/-- **A check fails with the first error that is reached below its value**, or not at all. -/
theorem Kind.failure?_run (hreg : validator.registry = .builtin) :
    ∀ depth (kind : Kind) rule, rule.All Rule.Declarative → kind.calls rule ≤ depth →
      ∀ field siblings value,
        failure? (kind.run (validator.context depth field siblings) rule value).verdict =
          (Faults.value validator.options field kind rule value).head? := by
  refine Kind.descent Rule.declarative_typeName (P := fun depth kind rule =>
    ∀ field siblings value,
      failure? (kind.run (validator.context depth field siblings) rule value).verdict =
        (Faults.value validator.options field kind rule value).head?) ?_ ?_ ?_
  · intro depth kind rule _ hobject harray field siblings value
    have h := Kind.failure?_run_scalar hobject harray validator.options
      (validator.context depth field siblings) rule value
    rwa [Validator.context_field] at h
  · intro depth rule hrule hfields field siblings value
    refine failure?_object (fun schema hschema target htarget => ?_) field value
    exact Validator.failure?_validateIn hreg (hrule.self.distinctNames schema hschema)
      (hrule.of_schema hschema)
      (fun name spec hentry kind => hfields schema hschema name spec hentry kind name) htarget
  · intro depth rule _ hitems field siblings value
    exact failure?_array hreg (fun itemType kind htype hkind =>
      hitems itemType kind htype hkind field []) siblings value

end Checker

namespace Validator

variable {validator : Validator}

/-- The errors of a validation. -/
theorem failure?_validate (hreg : validator.registry = .builtin) {rules : RuleSet}
    (hnames : rules.names.Nodup) (hrules : rules.All Rule.Declarative) {target : Json}
    (htarget : target.isStructured = true) :
    failure? (validator.validate rules target).result =
      (Faults.fields validator.options rules target.fields).head? := by
  refine failure?_validateIn hreg hnames hrules (fun name spec hentry kind siblings value => ?_)
    htarget
  exact Checker.Kind.failure?_run hreg _ kind _ (hrules.normalize hentry)
    (validator.calls_le_depth hentry kind) name siblings value

/-- **A validation fails exactly where the rules cannot be used on the data.** With the built-in
types and without functions of the caller: it fails if and only if some field is present under a
rule that cannot be used on its value, and then with the first error that the traversal of the
fields meets.
-/
theorem validate_error_iff (validator : Validator) (hreg : validator.registry = .builtin)
    (rules : RuleSet) (hrules : rules.WellFormed) (hconversions : rules.All Rule.NoFunction)
    (fields : Json.Members) :
    ((∃ e, (validator.validate rules (.object fields)).result = .error e) ↔
      ∃ name spec value, (name, spec) ∈ rules.entries ∧
        given? (ready validator.options spec.normalize (Entries.value? fields name)) = some value ∧
        Unusable validator.options spec.normalize value) ∧
    ∀ e, (validator.validate rules (.object fields)).result = .error e ↔
      (Faults.fields validator.options rules fields).head? = some e := by
  have hall : rules.All Rule.Declarative :=
    fun rule hrule => ⟨hrules.all_distinctNames rule hrule, hconversions rule hrule⟩
  have hfirst : ∀ e, (validator.validate rules (.object fields)).result = .error e ↔
      (Faults.fields validator.options rules fields).head? = some e := by
    intro e
    rw [← failure?_eq_some_iff, failure?_validate hreg hrules.names_nodup hall rfl]
    rfl
  refine ⟨?_, hfirst⟩
  rw [← Faults.fields_ne_nil_iff fun name spec _ kind =>
    Faults.value_ne_nil_iff validator.options kind spec.normalize]
  simp only [hfirst, ← Option.isSome_iff_exists, List.isSome_head?]

/-- A number, and tasks of a kind that is one of none. -/
def boardRules : RuleSet :=
  ⟨[("page", .typeName "int"),
    ("tasks", .record
      { typeName := some "array"
        itemType := some "object"
        schema := some ⟨[("kind", .typeName "enum"), ("name", .typeName "string")]⟩ })]⟩

/-- The number is merely invalid, and the first task has no kind; the second one has. -/
theorem validate_error_iff_boardRules :
    (∃ name spec value, (name, spec) ∈ boardRules.entries ∧
      given? (ready {} spec.normalize (Entries.value? [("page", .string "x"),
        ("tasks", .array [.object [], .object [("kind", .string "a")]])] name)) = some value ∧
      Unusable {} spec.normalize value) ∧
    (Faults.fields {} boardRules [("page", .string "x"),
      ("tasks", .array [.object [], .object [("kind", .string "a")]])]).head? =
        some (.missingValues "kind") := by
  have hfails : (validate {} boardRules (.object [("page", .string "x"),
      ("tasks", .array [.object [], .object [("kind", .string "a")]])])).result =
        .error (.missingValues "kind") := rfl
  obtain ⟨hunusable, hfirst⟩ := validate_error_iff {} rfl boardRules (by decide) (by decide)
    [("page", .string "x"), ("tasks", .array [.object [], .object [("kind", .string "a")]])]
  exact ⟨hunusable.1 ⟨_, hfails⟩, (hfirst _).1 hfails⟩

end Validator

end Rulebook
