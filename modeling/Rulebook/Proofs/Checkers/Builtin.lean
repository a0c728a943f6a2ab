import Rulebook.Proofs.Rules.Nesting
import Rulebook.Registry
/-!
# Checkers — the built-in types

The types of the usual registry are built-in checkers by name (`Registry.get?_builtin`). A registry
is `Registry.Standard` if it has no other types but ones for texts that match a pattern. A check by
a standard type edits no rule but that of a password, and there only what no other check reads
(`Checker.run_rule_sameInside`, `Checker.passwordRule_idem`).
-/

namespace Rulebook

variable {typeName : String} {checker : Checker} {kind : Checker.Kind}

/-- The kind of a built-in type. -/
def Checker.Kind.ofTypeName? (typeName : String) : Option Checker.Kind :=
  (Entries.value? Registry.builtinTypes typeName).map Prod.fst

/-! ## Results and failures -/

/-- What was made of a result was made of a computation that got through. -/
theorem exists_of_map_eq_ok {ε α β : Type} {computed : Except ε α} {f : α → β} {b : β}
    (h : computed.map f = .ok b) : ∃ a, computed = .ok a ∧ b = f a := by
  cases computed with
  | error e => cases h
  | ok a => exact ⟨a, rfl, (Except.ok.inj h).symm⟩

/-- A decision is that the value is valid just if the condition holds. -/
theorem Checker.ok_ite_eq_valid_iff {accepted : Bool} {message : String} :
    (Except.ok (if accepted then .valid else .invalid message) : Except ConfigError Verdict) =
      .ok .valid ↔ accepted = true := by
  cases accepted with
  | false => simp
  | true => simp

/-- Any other decision has the message. -/
theorem Checker.ok_ite_eq_invalid {accepted : Bool} {message : String} {verdict : Except ConfigError Verdict}
    (h : verdict = .ok (if accepted then .valid else .invalid message)) (hnot : verdict ≠ .ok .valid) :
    verdict = .ok (.invalid message) := by
  cases accepted with
  | false => exact h
  | true => exact absurd h hnot

/-- If nothing is made of a result, the computation failed, and for the same reason. -/
theorem eq_error_of_map {α β : Type} {computed : Except ConfigError α} {f : α → β}
    {e : ConfigError} (h : computed.map f = .error e) : computed = .error e := by
  cases computed with
  | error found => exact congrArg Except.error (Except.error.inj h)
  | ok a => cases h

/-- Two results agree after a function if both failed for the same reason, or the function makes
the same of what they are. -/
theorem map_eq_map_iff {α β : Type} {first second : Except ConfigError α} {f : α → β} :
    first.map f = second.map f ↔ (∃ e, first = .error e ∧ second = .error e) ∨
      ∃ a b, first = .ok a ∧ second = .ok b ∧ f a = f b := by
  cases first <;> cases second <;> simp [Except.map, eq_comm]

/-! ## Names and kinds -/

/-- A type that is registered is found where it is required. -/
theorem Registry.require_of_get? {registry : Registry}
    (h : registry.get? typeName = some checker) :
    registry.require (some typeName) = .ok checker := by
  simp [Registry.require, h]

/-- One that is not is refused. -/
theorem Registry.require_of_get?_none {registry : Registry}
    (h : registry.get? typeName = none) :
    registry.require (some typeName) =
      .error (.unknownType (some typeName) registry.typeNames) := by
  simp [Registry.require, h]

/-- The usual registry has the built-in types and no others. -/
theorem Registry.get?_builtin (typeName : String) :
    Registry.builtin.get? typeName =
      (Checker.Kind.ofTypeName? typeName).map Checker.builtin := by
  have h := Entries.value?_map (fun entry => Checker.builtin entry.1) Registry.builtinTypes typeName
  rw [Checker.Kind.ofTypeName?, Option.map_map]
  exact h

/-- A type that is required of the usual registry is built in. -/
theorem Registry.require_builtin {typeName : Option String} :
    Registry.builtin.require typeName = .ok checker ↔
      ∃ kind, typeName.bind Checker.Kind.ofTypeName? = some kind ∧ checker = .builtin kind := by
  have hget : typeName.bind Registry.builtin.get? =
      (typeName.bind Checker.Kind.ofTypeName?).map .builtin := by
    cases typeName with
    | none => rfl
    | some name => exact Registry.get?_builtin name
  unfold Registry.require
  rw [hget]
  cases typeName.bind Checker.Kind.ofTypeName? with
  | none => simp
  | some kind => simp [eq_comm]

/-- Objects are checked by the type `object` alone. -/
theorem Checker.Kind.ofTypeName?_object :
    Checker.Kind.ofTypeName? typeName = some .object ↔ typeName = "object" := by
  constructor
  · intro h
    have honly : ∀ entry ∈ Registry.builtinTypes, entry.2.1 = .object → entry.1 = "object" := by
      decide
    obtain ⟨found, hvalue, hkind⟩ := Option.map_eq_some_iff.1 h
    exact honly _ (Entries.mem_of_value? hvalue) hkind
  · rintro rfl
    rfl

/-! ## Standard registries -/

/-- The types are built-in ones, under their own names, and types for texts that match a pattern. -/
def Registry.Standard (registry : Registry) : Prop :=
  ∀ typeName checker, registry.get? typeName = some checker →
    (∃ format, checker = .pattern format) ∨ Registry.builtin.get? typeName = some checker

theorem Registry.standard_builtin : Registry.builtin.Standard := fun _ _ h => .inr h

/-- A standard registry has no checkers of the caller. -/
theorem Registry.Standard.not_custom {registry : Registry} (h : registry.Standard)
    (hget : registry.get? typeName = some checker)
    (check : Checker.Context → Rule → Json → Checked) : checker ≠ .custom check := by
  rintro rfl
  rcases h _ _ hget with ⟨format, hformat⟩ | hbuiltin
  · cases hformat
  · rw [Registry.get?_builtin] at hbuiltin
    obtain ⟨kind, -, hkind⟩ := Option.map_eq_some_iff.1 hbuiltin
    cases hkind

/-- The type `object` of a standard registry checks objects, if not texts. -/
theorem Registry.Standard.object {registry : Registry} (h : registry.Standard)
    (hget : registry.get? "object" = some checker) :
    (∃ format, checker = .pattern format) ∨ checker = .builtin .object := by
  refine (h _ _ hget).imp_right fun hbuiltin => ?_
  rw [Registry.get?_builtin, Checker.Kind.ofTypeName?_object.2 rfl] at hbuiltin
  exact (Option.some.inj hbuiltin).symm

namespace Checker

variable {context : Context} {rule : Rule} {value : Json}

/-! ## Objects and arrays, case by case -/

/-- What is neither an object nor an array is no object. -/
theorem object_of_scalar (h : value.isStructured = false) :
    object context rule value = ⟨.ok (.invalid (context.say .notObject)), rule, value⟩ := by
  simp [object, h]

/-- Without a schema nothing is asked of an object. -/
theorem object_of_schema_none (h : value.isStructured = true) (hschema : rule.schema = none) :
    object context rule value = ⟨.ok .valid, rule, value⟩ := by
  simp [object, h, hschema]

/-- An object is validated against its schema. -/
theorem object_of_schema {schema : RuleSet} (h : value.isStructured = true)
    (hschema : rule.schema = some schema) :
    object context rule value =
      ⟨(context.validate schema value).verdict, rule, (context.validate schema value).target⟩ := by
  simp [object, h, hschema]

variable {items : List Json}

/-- An array of a length that breaks a bound. -/
theorem array_of_broken {broken : BrokenBound} (h : rule.brokenLength? items.length = some broken) :
    array context rule (.array items) =
      ⟨.ok (.invalid (context.say broken.lengthMessage)), rule, .array items⟩ := by
  simp [array, h]

/-- Without a type nothing is asked of the items of an array. -/
theorem array_of_itemType_none (h : rule.brokenLength? items.length = none)
    (htype : rule.itemType = none) :
    array context rule (.array items) = ⟨.ok .valid, rule, .array items⟩ := by
  rw [array, h, htype]

/-- The type of the items must be registered, even if there are none. -/
theorem array_of_require_error {itemType : String} {e : ConfigError}
    (h : rule.brokenLength? items.length = none) (htype : rule.itemType = some itemType)
    (hrequire : context.require itemType = .error e) :
    array context rule (.array items) = ⟨.error e, rule, .array items⟩ := by
  rw [array, h, htype]
  simp [hrequire]

/-- The items of an array are checked in turn. -/
theorem array_of_require {itemType : String} {check : Json.Members → Rule → Json → Checked}
    (h : rule.brokenLength? items.length = none) (htype : rule.itemType = some itemType)
    (hrequire : context.require itemType = .ok check) :
    array context rule (.array items) =
      let validated := Checker.items (check []) 0 (itemRule rule itemType) items
      ⟨validated.verdict, rule, .array validated.target⟩ := by
  rw [array, h, htype]
  simp [hrequire]

/-- **What the check of an object does**: it decides at once and leaves the value alone, or it
validates an object or an array against a schema. -/
theorem object_cases (context : Context) (rule : Rule) (value : Json) :
    (∃ verdict, object context rule value = ⟨.ok verdict, rule, value⟩) ∨
    ∃ schema, value.isStructured = true ∧ rule.schema = some schema ∧
      object context rule value =
        ⟨(context.validate schema value).verdict, rule,
          (context.validate schema value).target⟩ := by
  cases hvalue : value.isStructured with
  | false => exact .inl ⟨_, object_of_scalar hvalue⟩
  | true =>
    cases hschema : rule.schema with
    | none => exact .inl ⟨_, object_of_schema_none hvalue hschema⟩
    | some schema => exact .inr ⟨schema, rfl, rfl, object_of_schema hvalue hschema⟩

/-- **What the check of an array does**: it decides at once and leaves the value alone, or it asks
for the type of the items. -/
theorem array_cases (context : Context) (rule : Rule) (value : Json) :
    (∃ verdict, array context rule value = ⟨.ok verdict, rule, value⟩) ∨
    ∃ items itemType, value = .array items ∧ rule.brokenLength? items.length = none ∧
      rule.itemType = some itemType := by
  cases value with
  | array items =>
    cases hlength : rule.brokenLength? items.length with
    | some broken => exact .inl ⟨_, array_of_broken hlength⟩
    | none =>
      cases htype : rule.itemType with
      | none => exact .inl ⟨_, array_of_itemType_none hlength htype⟩
      | some itemType => exact .inr ⟨items, itemType, rfl, hlength, rfl⟩
  | _ => exact .inl ⟨_, rfl⟩

/-! ## Checks that agree -/

section Congruence

variable {first second : Context}

/-- Two checks of an object agree if they validate it alike. -/
theorem object_congr (hsay : first.say = second.say)
    (h : ∀ schema, rule.schema = some schema → value.isStructured = true →
      first.validate schema value = second.validate schema value) :
    object first rule value = object second rule value := by
  cases hvalue : value.isStructured with
  | false => rw [object_of_scalar hvalue, object_of_scalar hvalue, hsay]
  | true =>
    cases hschema : rule.schema with
    | none => rw [object_of_schema_none hvalue hschema, object_of_schema_none hvalue hschema]
    | some schema =>
      rw [object_of_schema hvalue hschema, object_of_schema hvalue hschema,
        h schema hschema hvalue]

/-- Two checks of an array agree if they refuse the type of its items alike, or check them alike. -/
theorem array_congr (hsay : first.say = second.say)
    (h : ∀ itemType, rule.itemType = some itemType →
      (∃ e, first.require itemType = .error e ∧ second.require itemType = .error e) ∨
        ∃ check other, first.require itemType = .ok check ∧ second.require itemType = .ok other ∧
          ∀ values, Checker.items (check []) 0 (itemRule rule itemType) values =
            Checker.items (other []) 0 (itemRule rule itemType) values) :
    array first rule value = array second rule value := by
  cases value with
  | array items =>
    cases hlength : rule.brokenLength? items.length with
    | some broken => rw [array_of_broken hlength, array_of_broken hlength, hsay]
    | none =>
      cases htype : rule.itemType with
      | none => rw [array_of_itemType_none hlength htype, array_of_itemType_none hlength htype]
      | some itemType =>
        rcases h itemType htype with ⟨e, hfirst, hsecond⟩ | ⟨check, other, hfirst, hsecond, hitems⟩
        · rw [array_of_require_error hlength htype hfirst,
            array_of_require_error hlength htype hsecond]
        · rw [array_of_require hlength htype hfirst, array_of_require hlength htype hsecond, hitems]
  | _ => simp [array, hsay]

end Congruence

/-- A verdict on the inside of a value stands for the errors that were found there. -/
theorem exists_of_verdict {α : Type} {validated : Validated α} {verdict : Verdict}
    (h : validated.verdict = .ok verdict) : ∃ errors, validated.result = .ok errors ∧
      verdict = if errors.isEmpty then .valid else .nested errors :=
  exists_of_map_eq_ok h

/-- A verdict fails for the reason for which the validation of the inside did. -/
theorem result_of_verdict_error {α : Type} {validated : Validated α} {e : ConfigError}
    (h : validated.verdict = .error e) : validated.result = .error e :=
  eq_error_of_map h

/-- Errors inside a value are those that its validation found. -/
theorem result_of_nested {α : Type} {validated : Validated α} {errors : List FieldError}
    (h : validated.verdict = .ok (.nested errors)) : validated.result = .ok errors := by
  obtain ⟨found, hresult, hfound⟩ := exists_of_verdict h
  split at hfound
  · cases hfound
  · rwa [Verdict.nested.inj hfound]

/-- **Errors inside an object** come from the validation against its schema. -/
theorem object_nested {errors : List FieldError}
    (h : (object context rule value).verdict = .ok (.nested errors)) :
    value.isStructured = true ∧ ∃ schema, rule.schema = some schema ∧
      (context.validate schema value).result = .ok errors := by
  cases hvalue : value.isStructured with
  | false => simp [object_of_scalar hvalue] at h
  | true =>
    cases hschema : rule.schema with
    | none => simp [object_of_schema_none hvalue hschema] at h
    | some schema =>
      rw [object_of_schema hvalue hschema] at h
      exact ⟨rfl, schema, rfl, result_of_nested h⟩

/-- **Errors inside an array** come from the checks of its items. -/
theorem array_nested {errors : List FieldError}
    (h : (array context rule value).verdict = .ok (.nested errors)) :
    ∃ items itemType check, value = .array items ∧ rule.itemType = some itemType ∧
      context.require itemType = .ok check ∧
      (Checker.items (check []) 0 (itemRule rule itemType) items).result = .ok errors := by
  cases value with
  | array items =>
    cases hlength : rule.brokenLength? items.length with
    | some broken => simp [array_of_broken hlength] at h
    | none =>
      cases htype : rule.itemType with
      | none => simp [array_of_itemType_none hlength htype] at h
      | some itemType =>
        cases hrequire : context.require itemType with
        | error e => simp [array_of_require_error hlength htype hrequire] at h
        | ok check =>
          rw [array_of_require hlength htype hrequire] at h
          exact ⟨items, itemType, check, rfl, rfl, hrequire, result_of_nested h⟩
  | _ => simp [array] at h

/-- A check does not change a value that is neither an object nor an array. -/
theorem Kind.run_value_of_scalar (kind : Kind) (h : value.isStructured = false) :
    (kind.run context rule value).value = value := by
  cases kind with
  | object => rw [Kind.run, object_of_scalar h]
  | array =>
    cases value with
    | array items => cases h
    | _ => rfl
  | _ => rfl

/-! ## What a check leaves of its rule -/

theorem isZero_leastPassword : leastPassword.isZero = false := by
  decide +kernel

/-- Filling in what a password rule lacks leaves nothing to fill in. -/
theorem passwordRule_idem (rule : Rule) : passwordRule (passwordRule rule) = passwordRule rule := by
  have hmin : ((rule.min.filter fun min => !min.isZero).getD leastPassword).isZero = false := by
    cases h : rule.min.filter fun min => !min.isZero with
    | none => exact isZero_leastPassword
    | some min => simpa using (Option.filter_eq_some_iff.1 h).2
  simp [passwordRule, Option.filter_some, hmin]

/-- What a built-in check leaves of its rule: the rule itself, unless it checks a password. -/
def Kind.ruleAfter (kind : Kind) (rule : Rule) : Rule :=
  if kind = .password then passwordRule rule else rule

@[simp]
theorem Kind.typeName_ruleAfter (kind : Kind) (rule : Rule) :
    (kind.ruleAfter rule).typeName = rule.typeName := by
  unfold Kind.ruleAfter
  split <;> rfl

theorem Kind.run_rule (kind : Kind) (context : Context) (rule : Rule) (value : Json) :
    (kind.run context rule value).rule = kind.ruleAfter rule := by
  cases kind with
  | array =>
    simp only [Kind.run, Checker.array]
    split <;> try rfl
    split <;> try rfl
    split <;> rfl
  | object =>
    simp only [Kind.run, Checker.object]
    split <;> try rfl
    split <;> rfl
  | _ => rfl

/-- **A second check is not affected by what the first one did to the rule.** -/
theorem Kind.run_ruleAfter (kind : Kind) (context : Context) (rule : Rule) (value : Json) :
    kind.run context (kind.ruleAfter rule) value = kind.run context rule value := by
  by_cases hkind : kind = .password
  · subst hkind
    simp only [Kind.ruleAfter, Kind.run, Checker.password, passwordRule_idem, if_pos]
    rfl
  · rw [Kind.ruleAfter, if_neg hkind]

/-- A check by a standard type leaves alone what its rule says about the inside of a value. -/
theorem run_rule_sameInside (hchecker : ∀ check, checker ≠ .custom check) :
    (checker.run context rule value).rule.SameInside rule := by
  cases checker with
  | builtin kind =>
    rw [Checker.run, Kind.run_rule, Kind.ruleAfter]
    split <;> exact ⟨rfl, rfl, rfl⟩
  | pattern format => exact .refl rule
  | custom check => exact absurd rfl (hchecker check)

/-! ## Items -/

/-- The rule for the items has what all rules in the rule of the array have, if the rule of a type
alone has it. -/
theorem itemRule_all {P : Rule → Prop} {itemType : String} (h : rule.All P)
    (hflat : P (Spec.typeName itemType).normalize) : (itemRule rule itemType).All P := by
  unfold itemRule
  split
  · exact h
  · cases hitem : rule.itemRule with
    | some inner => exact h.of_itemRule hitem
    | none =>
      obtain ⟨typeName, required, hrule⟩ := Spec.normalize_typeName itemType
      exact Rule.all_of_flat hflat (by rw [Option.getD_none, hrule])
        (by rw [Option.getD_none, hrule])

/-- Two checks of the items of an array agree if they agree under every rule that an item may meet.
-/
theorem items_congr {first second : Rule → Json → Checked} (Meets : Rule → Prop)
    (h : ∀ rule item, Meets rule → first rule item = second rule item)
    (hkeep : ∀ rule item, Meets rule → Meets (second rule item).rule) (values : List Json) :
    ∀ index rule, Meets rule →
      Checker.items first index rule values = Checker.items second index rule values := by
  induction values with
  | nil => exact fun _ _ _ => rfl
  | cons item rest ih =>
    intro index rule hrule
    simp only [Checker.items, h rule item hrule]
    split
    · rfl
    · rw [ih (index + 1) _ (hkeep rule item hrule)]

/-- The check of items gets through if the checks of the first one and of the others do. -/
theorem items_cons_eq_ok {check : Rule → Json → Checked} {index : Nat} {item : Json}
    {rest : List Json} {errors : List FieldError}
    (h : (Checker.items check index rule (item :: rest)).result = .ok errors) :
    ∃ verdict others, (check rule item).verdict = .ok verdict ∧
      (Checker.items check (index + 1) (check rule item).rule rest).result = .ok others ∧
      errors = itemErrors index verdict ++ others ∧
      (Checker.items check index rule (item :: rest)).target =
        (check rule item).value ::
          (Checker.items check (index + 1) (check rule item).rule rest).target := by
  cases hverdict : (check rule item).verdict with
  | error e => simp [Checker.items, hverdict] at h
  | ok verdict =>
    simp only [Checker.items, hverdict] at h ⊢
    obtain ⟨others, hothers, herrors⟩ := exists_of_map_eq_ok h
    exact ⟨verdict, others, rfl, hothers, herrors, trivial⟩

/-- The items of an array of a built-in type are all checked as under the first rule. -/
theorem items_builtin (kind : Kind) (context : Context) (rule : Rule) (index : Nat)
    (values : List Json) :
    Checker.items (kind.run context) index rule values =
      Checker.items (fun _ => kind.run context rule) index rule values := by
  refine items_congr (fun later => ∀ item, kind.run context later item = kind.run context rule item)
    (fun _ item hsame => hsame item) (fun _ item _ other => ?_) values index rule fun _ => rfl
  rw [Kind.run_rule, Kind.run_ruleAfter]

end Checker

end Rulebook
