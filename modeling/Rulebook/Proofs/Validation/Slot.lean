import Rulebook.Validator
/-!
# Validation — a field's turn, as a step on its slot

A field's turn reads and writes one slot of the object: the value under its name, or nothing. This
file defines that step (`Validator.validateSlot`, from the slot as `Validator.ready` leaves it) and
shows that the turn of a field is the step, written back (`validateField_eq`). Everything later
about one field is said of the slot; what the step may read besides the slot is the siblings it
hands to converters and checkers.
-/

namespace Rulebook

namespace Entries

variable {α : Type u}

/-- Writes a slot back: a value is bound to the name, nothing leaves the entries alone. -/
def fill (entries : Entries α) (name : String) : Option α → Entries α
  | some value => put entries name value
  | none => entries

@[simp]
theorem fill_some (entries : Entries α) (name : String) (value : α) :
    fill entries name (some value) = put entries name value := rfl

@[simp]
theorem fill_none (entries : Entries α) (name : String) : fill entries name none = entries := rfl

/-- A binding overrides whatever was written back before. -/
@[simp]
theorem put_fill (entries : Entries α) (name : String) (slot : Option α) (value : α) :
    put (fill entries name slot) name value = put entries name value := by
  cases slot <;> simp

/-- Every other name keeps its value. -/
theorem value?_fill_of_ne (entries : Entries α) {name other : String} (slot : Option α)
    (h : other ≠ name) : value? (fill entries name slot) other = value? entries other := by
  cases slot with
  | none => rfl
  | some value => exact value?_put_of_ne entries value h

/-- The name has the slot that was written, provided nothing was written where nothing was. -/
theorem value?_fill_self {entries : Entries α} {name : String} {slot : Option α}
    (h : slot = none → value? entries name = none) :
    value? (fill entries name slot) name = slot := by
  cases slot with
  | none => exact h rfl
  | some value => exact value?_put_self entries name value

/-- Writing back the slot that is there changes nothing. -/
theorem fill_of_value? {entries : Entries α} {name : String} {slot : Option α}
    (h : value? entries name = slot) : fill entries name slot = entries := by
  cases slot with
  | none => rfl
  | some value => exact put_of_value? h

end Entries

/-- The fields of a value as a validation sees them: those of an object; nothing else has any. -/
def Json.fields : Json → Json.Members
  | .object fields => fields
  | _ => []

/-- An object or an array is not null. -/
theorem Json.isNull_of_isStructured {value : Json} (h : value.isStructured = true) :
    value.isNull = false := by
  cases value with
  | null => cases h
  | _ => rfl

/-- A text that counts as absent under a rule: empty texts do, and it is one, if need be after
trimming. -/
structure Rule.Collapses (options : Validator.Options) (rule : Rule) (s : String) : Prop where
  widelyUndefined : rule.widelyUndefined.getD options.widelyUndefined = true
  empty : s = "" ∨ rule.trim = true ∧ Text.trim s.toList = []

/-- The default that is due for a field: that of an optional rule, unless the field is there. -/
def Rule.due? (rule : Rule) (there : Bool) : Option Json :=
  if there || rule.isRequired then none else rule.fallback

namespace Validator

variable {validator : Validator} {context : String → Json.Members → Checker.Context}
variable {rule : Rule} {field : String} {fields siblings : Json.Members} {slot : Option Json}

/-- A slot when its turn comes: its text is trimmed if the rule trims, and null if it is empty and
counts as absent. -/
def ready (options : Options) (rule : Rule) (slot : Option Json) : Option Json :=
  slot.map fun value => collapsed options rule (trimmed rule value)

/-- The value in a slot, unless it is null. -/
def given? (slot : Option Json) : Option Json :=
  slot.filter fun value => !value.isNull

/-- What a field's turn makes of its slot. An absent field is an error or gets its default; a value
goes through conversion and the checker of its type. -/
def validateSlot (validator : Validator) (context : String → Json.Members → Checker.Context)
    (rule : Rule) (field : String) (siblings : Json.Members) (slot : Option Json) :
    Validated (Option Json) :=
  match given? slot with
  | none =>
    if rule.isRequired then
      ⟨.ok [⟨validator.say (.required field), some field, .missingField⟩], slot⟩
    else ⟨.ok [], rule.fallback.or slot⟩
  | some value =>
    match validator.registry.require rule.typeName with
    | .error e => ⟨.error e, some value⟩
    | .ok checker =>
      let checked := checker.run (context field (Entries.put siblings field .null)) rule
        (validator.converted rule siblings value)
      ⟨checked.verdict.map (fieldErrors field checked.rule), some checked.value⟩

/-! ## What a slot may hold -/

@[simp]
theorem given?_none : given? none = none := rfl

/-- A value that is given is the one in the slot, and it is not null. -/
theorem given?_eq_some_iff {value : Json} :
    given? slot = some value ↔ slot = some value ∧ value.isNull = false := by
  simp [given?, Option.filter_eq_some_iff]

/-- Nothing is given in an empty slot and in one that holds null. -/
theorem given?_eq_none_iff : given? slot = none ↔ slot = none ∨ slot = some .null := by
  cases slot with
  | none => simp
  | some value => cases value <;> simp [given?, Json.isNull, Option.filter]

@[simp]
theorem ready_none (options : Options) (rule : Rule) : ready options rule none = none := rfl

/-- Getting ready neither fills nor empties a slot. -/
@[simp]
theorem isSome_ready (options : Options) (rule : Rule) (slot : Option Json) :
    (ready options rule slot).isSome = slot.isSome := by
  simp [ready]

/-- A text is empty once it has been trimmed, if the rule trims, exactly if it was empty before or
is cut away. -/
theorem trimmed_eq_empty_iff {s : String} :
    trimmed rule (.string s) = .string "" ↔ s = "" ∨ rule.trim = true ∧ Text.trim s.toList = [] := by
  cases htrim : rule.trim with
  | false => simp [trimmed, htrim]
  | true =>
    simp only [trimmed, htrim, if_true, Json.string.injEq, true_and, ← String.toList_inj,
      String.toList_ofList, String.toList_empty]
    refine ⟨.inr, fun h => h.elim (fun hempty => ?_) id⟩
    rw [hempty]
    rfl

/-- **A field counts as absent** if it is missing or null, or if it holds a text that is empty, if
need be after trimming, where the rule says that empty texts count as absent, or the options do and
the rule says nothing. -/
theorem given?_ready_eq_none_iff {options : Options} :
    given? (ready options rule slot) = none ↔
      slot = none ∨ slot = some .null ∨
        ∃ s, slot = some (.string s) ∧ rule.Collapses options s := by
  cases slot with
  | none => simp
  | some value =>
    cases value with
    | string s =>
      obtain ⟨t, ht⟩ : ∃ t, trimmed rule (.string s) = .string t := by
        cases htrim : rule.trim <;> simp [trimmed, htrim]
      have hcollapses : rule.Collapses options s ↔
          rule.widelyUndefined.getD options.widelyUndefined = true ∧ t = "" := by
        rw [← Json.string.injEq t "", ← ht, trimmed_eq_empty_iff]
        exact ⟨fun h => ⟨h.widelyUndefined, h.empty⟩, fun h => ⟨h.1, h.2⟩⟩
      simp only [reduceCtorEq, Option.some.injEq, Json.string.injEq, false_or, exists_eq_left',
        hcollapses, ready, Option.map_some, ht, collapsed, Bool.and_eq_true, String.isEmpty_iff]
      split <;> simp_all [given?, Json.isNull]
    | _ => simp [ready, trimmed, collapsed, given?, Json.isNull]

/-! ## What is not converted -/

/-- Objects and arrays are not converted. -/
theorem converted_of_structured {value : Json} (h : value.isStructured = true) :
    validator.converted rule siblings value = value := by
  rw [converted, if_pos h]

/-- Without conversion a value is checked as it is. -/
theorem converted_eq_self (hoff : validator.options.convert = false)
    (hrule : rule.conversion = none) (value : Json) :
    validator.converted rule siblings value = value := by
  have hnone : validator.coercionFor? rule = none := by
    simp [coercionFor?, hrule, hoff]
  unfold converted
  rw [hnone]
  split <;> rfl

/-! ## The step, case by case -/

/-- An absent field that is required. -/
theorem validateSlot_missing (h : given? slot = none) (hrule : rule.isRequired = true) :
    validator.validateSlot context rule field siblings slot =
      ⟨.ok [⟨validator.say (.required field), some field, .missingField⟩], slot⟩ := by
  simp [validateSlot, h, hrule]

/-- An absent field that is optional. -/
theorem validateSlot_optional (h : given? slot = none) (hrule : rule.isRequired = false) :
    validator.validateSlot context rule field siblings slot =
      ⟨.ok [], rule.fallback.or slot⟩ := by
  simp [validateSlot, h, hrule]

/-- A value of a type without a checker. -/
theorem validateSlot_unknown {value : Json} {e : ConfigError} (h : given? slot = some value)
    (hrule : validator.registry.require rule.typeName = .error e) :
    validator.validateSlot context rule field siblings slot = ⟨.error e, some value⟩ := by
  simp [validateSlot, h, hrule]

/-- A value of a type with a checker. -/
theorem validateSlot_checked {value : Json} {checker : Checker} (h : given? slot = some value)
    (hrule : validator.registry.require rule.typeName = .ok checker) :
    validator.validateSlot context rule field siblings slot =
      let checked := checker.run (context field (Entries.put siblings field .null)) rule
        (validator.converted rule siblings value)
      ⟨checked.verdict.map (fieldErrors field checked.rule), some checked.value⟩ := by
  simp [validateSlot, h, hrule]

/-- **What a step did if it got through**: it found an absent field that is required, or one that is
optional, or it ran the checker of a type. -/
theorem validateSlot_eq_ok {errors : List FieldError}
    (h : (validator.validateSlot context rule field siblings slot).result = .ok errors) :
    (given? slot = none ∧ rule.isRequired = true ∧
      errors = [⟨validator.say (.required field), some field, .missingField⟩]) ∨
    (given? slot = none ∧ rule.isRequired = false ∧ errors = [] ∧
      (validator.validateSlot context rule field siblings slot).target = rule.fallback.or slot) ∨
    ∃ value checker verdict, given? slot = some value ∧
      validator.registry.require rule.typeName = .ok checker ∧
      let checked := checker.run (context field (Entries.put siblings field .null)) rule
        (validator.converted rule siblings value)
      checked.verdict = .ok verdict ∧ errors = fieldErrors field checked.rule verdict ∧
        (validator.validateSlot context rule field siblings slot).target = some checked.value := by
  cases hgiven : given? slot with
  | none =>
    cases hrule : rule.isRequired with
    | true =>
      rw [validateSlot_missing hgiven hrule] at h
      exact .inl ⟨rfl, rfl, (Except.ok.inj h).symm⟩
    | false =>
      rw [validateSlot_optional hgiven hrule] at h ⊢
      exact .inr (.inl ⟨rfl, rfl, (Except.ok.inj h).symm, rfl⟩)
  | some value =>
    cases hrequire : validator.registry.require rule.typeName with
    | error e => simp [validateSlot_unknown hgiven hrequire] at h
    | ok checker =>
      rw [validateSlot_checked hgiven hrequire] at h ⊢
      dsimp only at h ⊢
      cases hverdict : (checker.run (context field (Entries.put siblings field .null)) rule
          (validator.converted rule siblings value)).verdict with
      | error e => simp [hverdict, Except.map] at h
      | ok verdict =>
        rw [hverdict] at h
        exact .inr (.inr ⟨value, checker, verdict, rfl, rfl, hverdict, (Except.ok.inj h).symm, rfl⟩)

/-- **A slot that holds something is never emptied.** -/
theorem isSome_validateSlot (validator : Validator)
    (context : String → Json.Members → Checker.Context) (rule : Rule) (field : String)
    (siblings : Json.Members) (h : slot.isSome = true) :
    (validator.validateSlot context rule field siblings slot).target.isSome = true := by
  unfold validateSlot
  split
  · split
    · exact h
    · cases hf : rule.fallback <;> simp [h]
  · split <;> rfl

/-- So a slot that is empty after the step was empty before. -/
theorem eq_none_of_validateSlot
    (h : (validator.validateSlot context rule field siblings slot).target = none) :
    slot = none := by
  cases slot with
  | none => rfl
  | some value =>
    have hsome := congrArg Option.isSome h
    rw [isSome_validateSlot validator context rule field siblings rfl] at hsome
    cases hsome

/-- An empty slot is filled with the default that is due, if there is one. -/
theorem validateSlot_none :
    (validator.validateSlot context rule field siblings none).target = rule.due? false := by
  unfold Rule.due?
  cases h : rule.isRequired
  · simp [validateSlot_optional given?_none h]
  · simp [validateSlot_missing given?_none h]

/-- A step on an empty slot does not fail. -/
theorem validateSlot_none_ok (validator : Validator)
    (context : String → Json.Members → Checker.Context) (rule : Rule) (field : String)
    (siblings : Json.Members) : ∃ errors,
    (validator.validateSlot context rule field siblings none).result = .ok errors := by
  cases h : rule.isRequired
  · exact ⟨_, by rw [validateSlot_optional given?_none h]⟩
  · exact ⟨_, by rw [validateSlot_missing given?_none h]⟩

/-! ## The turn of a field -/

/-- Getting a field ready is getting its slot ready. -/
theorem prepared_eq (options : Options) (rule : Rule) (field : String) (fields : Json.Members) :
    prepared options rule field fields =
      Entries.fill fields field (ready options rule (Entries.value? fields field)) := by
  unfold prepared ready
  cases Entries.value? fields field <;> rfl

/-- The slot of a field that has been made ready. -/
theorem value?_prepared (options : Options) (rule : Rule) (field : String)
    (fields : Json.Members) :
    Entries.value? (prepared options rule field fields) field =
      ready options rule (Entries.value? fields field) := by
  rw [prepared_eq]
  refine Entries.value?_fill_self fun h => ?_
  simpa [ready] using h

/-- **The turn of a field is the step on its slot, written back.** -/
theorem validateField_eq :
    validator.validateField context rule field fields =
      let run := validator.validateSlot context rule field
        (prepared validator.options rule field fields)
        (ready validator.options rule (Entries.value? fields field))
      ⟨run.result, Entries.fill fields field run.target⟩ := by
  have hfill := prepared_eq validator.options rule field fields
  have hgiven : (Entries.value? (prepared validator.options rule field fields) field).filter
      (fun value => !value.isNull) =
        given? (ready validator.options rule (Entries.value? fields field)) := by
    rw [value?_prepared]
    rfl
  unfold validateField
  dsimp only
  rw [hgiven]
  rw [hfill]
  cases hg : given? (ready validator.options rule (Entries.value? fields field)) with
  | none =>
    cases hreq : rule.isRequired with
    | true => simp [absent, hreq, validateSlot_missing hg hreq]
    | false =>
      -- the default replaces the null that getting ready may have put there
      cases hf : rule.fallback <;> simp [absent, hreq, hf, validateSlot_optional hg hreq]
  | some value =>
    have hvalue : ready validator.options rule (Entries.value? fields field) = some value :=
      (given?_eq_some_iff.1 hg).1
    cases hreg : validator.registry.require rule.typeName with
    | error e =>
      rw [validateSlot_unknown hg hreg]
      simp [present, hreg, hvalue]
    | ok checker => simp [present, hreg, validateSlot_checked hg hreg]

/-- The field holds what the step left in its slot. -/
theorem value?_validateField :
    Entries.value? (validator.validateField context rule field fields).target field =
      (validator.validateSlot context rule field (prepared validator.options rule field fields)
        (ready validator.options rule (Entries.value? fields field))).target := by
  rw [validateField_eq]
  refine Entries.value?_fill_self fun h => ?_
  have hready := eq_none_of_validateSlot h
  simpa [ready] using hready

/-- Every other field holds what it held. -/
theorem value?_validateField_of_ne {other : String} (h : other ≠ field) :
    Entries.value? (validator.validateField context rule field fields).target other =
      Entries.value? fields other := by
  rw [validateField_eq]
  exact Entries.value?_fill_of_ne fields _ h

/-! ## The fields in turn -/

variable {name : String} {spec : Spec} {rest : List (String × Spec)}

@[simp]
theorem validateFields_nil :
    validator.validateFields context [] fields = ⟨.ok [], fields⟩ := rfl

/-- A field that cannot be validated ends the run. -/
theorem validateFields_cons_error {e : ConfigError}
    (h : (validator.validateField context spec.normalize name fields).result = .error e) :
    validator.validateFields context ((name, spec) :: rest) fields =
      ⟨.error e, (validator.validateField context spec.normalize name fields).target⟩ := by
  simp [validateFields, h]

/-- After any other field the run goes on with what it left. -/
theorem validateFields_cons_ok {errors : List FieldError}
    (h : (validator.validateField context spec.normalize name fields).result = .ok errors) :
    validator.validateFields context ((name, spec) :: rest) fields =
      let others := validator.validateFields context rest
        (validator.validateField context spec.normalize name fields).target
      ⟨others.result.map (errors ++ ·), others.target⟩ := by
  simp [validateFields, h]

/-- A run gets through if the turn of the first field and the run over the others do. -/
theorem validateFields_cons_eq_ok {errors : List FieldError}
    (h : (validator.validateFields context ((name, spec) :: rest) fields).result = .ok errors) :
    let first := validator.validateField context spec.normalize name fields
    ∃ turn others, first.result = .ok turn ∧
      (validator.validateFields context rest first.target).result = .ok others ∧
      errors = turn ++ others ∧
      (validator.validateFields context ((name, spec) :: rest) fields).target =
        (validator.validateFields context rest first.target).target := by
  dsimp only
  cases hturn : (validator.validateField context spec.normalize name fields).result with
  | error e => simp [validateFields_cons_error hturn] at h
  | ok turn =>
    rw [validateFields_cons_ok hturn] at h ⊢
    dsimp only at h ⊢
    cases hothers : (validator.validateFields context rest
        (validator.validateField context spec.normalize name fields).target).result with
    | error e => simp [hothers, Except.map] at h
    | ok others =>
      rw [hothers] at h
      exact ⟨turn, others, rfl, rfl, (Except.ok.inj h).symm, rfl⟩

/-- An object is validated field by field. -/
theorem validateIn_object (rules : RuleSet) (fields : Json.Members) :
    validator.validateIn context rules (.object fields) =
      let run := validator.validateFields context rules.entries fields
      ⟨run.result, .object run.target⟩ := by
  simp [validateIn, Json.isStructured]

/-- An array is validated like an object without fields, and stays as it is. -/
theorem validateIn_array (rules : RuleSet) (items : List Json) :
    validator.validateIn context rules (.array items) =
      ⟨(validator.validateFields context rules.entries []).result, .array items⟩ := by
  simp [validateIn, Json.isStructured]

/-- What is no object stays as it is. -/
theorem target_validateIn_of_not_object {rules : RuleSet} {target : Json}
    (h : ∀ fields, target ≠ .object fields) :
    (validator.validateIn context rules target).target = target := by
  unfold validateIn
  split
  · rfl
  · cases target with
    | object fields => exact absurd rfl (h fields)
    | _ => rfl

end Validator

end Rulebook
