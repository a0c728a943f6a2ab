import Rulebook.Proofs.Rules.NormalForm
import Rulebook.Proofs.Validation.Depth
/-!
# Validation — rules of one normal form

A validation normalizes the rule of each field when its turn comes, so what it does depends on the
normalized rules only (`validate_eq_of_normalized`). A schema inside a rule is handed to checkers as
it is written, and a check of a nested object normalizes its rules in turn. No standard check looks
at them before that. So rule sets of one normal form validate alike (`validate_eq_of_normalForm`),
as long as the checkers of the caller are indifferent to how the rules in their own rule are
spelled, which `Checker.Indifferent` says.
-/

namespace Rulebook

variable {rule other : Rule} {rules others : RuleSet} {value : Json}

/-- What a checker leaves, with the normal form of the rule. -/
def Checked.normalForm (checked : Checked) : Checked :=
  { checked with rule := checked.rule.normalForm }

theorem Checked.normalForm_eq_iff {first second : Checked} :
    first.normalForm = second.normalForm ↔ first.verdict = second.verdict ∧
      first.rule.normalForm = second.rule.normalForm ∧ first.value = second.value := by
  rw [Checked.normalForm, Checked.normalForm, Checked.mk.injEq]

namespace Checker

/-- What is done through a context does not depend on how rules are spelled inside. -/
structure Context.Indifferent (context : Context) : Prop where
  /-- Nested data are validated alike under rules of one normal form. -/
  validate : ∀ rules others target, rules.normalForm = others.normalForm →
    context.validate rules target = context.validate others target
  /-- So are values of another type. -/
  require : ∀ typeName check, context.require typeName = .ok check →
    ∀ siblings rule other value, rule.normalForm = other.normalForm →
      (check siblings rule value).normalForm = (check siblings other value).normalForm

/-- A checker does the same under rules of one normal form, as long as what it does through its
context does not depend on the spelling either. -/
def Indifferent (checker : Checker) : Prop :=
  ∀ context : Context, context.Indifferent → ∀ rule other value,
    rule.normalForm = other.normalForm →
      (checker.run context rule value).normalForm = (checker.run context other value).normalForm

/-! ## The built-in checks -/

/-- A check that decides at once, and in the same way. -/
theorem normalForm_decided {verdict verdict' : Except ConfigError Verdict}
    (hverdict : verdict = verdict') (hrule : rule.normalForm = other.normalForm) (value : Json) :
    (Checked.mk verdict rule value).normalForm = (Checked.mk verdict' other value).normalForm :=
  Checked.normalForm_eq_iff.2 ⟨hverdict, hrule, rfl⟩

/-- Two options that come to the same are both empty, or both hold what comes to the same. -/
theorem option_map_eq_cases {α β : Type} {f : α → β} {x y : Option α} (h : x.map f = y.map f) :
    (x = none ∧ y = none) ∨ ∃ a b, x = some a ∧ y = some b ∧ f a = f b := by
  cases x with
  | none => exact .inl ⟨rfl, Option.map_eq_none_iff.1 h.symm⟩
  | some a =>
    cases y with
    | none => cases h
    | some b => exact .inr ⟨a, b, rfl, rfl, Option.some.inj h⟩

/-- Objects are checked alike. -/
theorem normalForm_object {context : Context} (hcontext : context.Indifferent)
    (hrule : rule.normalForm = other.normalForm) (value : Json) :
    (object context rule value).normalForm = (object context other value).normalForm := by
  obtain ⟨schema, itemRule, rfl, hschemas, -⟩ := Rule.normalForm_eq_iff.1 hrule
  cases hvalue : value.isStructured with
  | false =>
    rw [object_of_scalar hvalue, object_of_scalar hvalue]
    exact normalForm_decided rfl hrule value
  | true =>
    rcases option_map_eq_cases hschemas with ⟨hnone, rfl⟩ | ⟨rules, others, hsome, rfl, hrules⟩
    · rw [object_of_schema_none hvalue hnone, object_of_schema_none hvalue rfl]
      exact normalForm_decided rfl hrule value
    · rw [object_of_schema hvalue hsome, object_of_schema hvalue rfl,
        hcontext.validate rules others value hrules]
      exact normalForm_decided rfl hrule _

/-- The rules for the items are of one normal form if those of the arrays are. -/
theorem normalForm_itemRule (hrule : rule.normalForm = other.normalForm) (itemType : String) :
    (itemRule rule itemType).normalForm = (itemRule other itemType).normalForm := by
  obtain ⟨schema, inner, rfl, -, hitems⟩ := Rule.normalForm_eq_iff.1 hrule
  unfold itemRule
  split
  · exact hrule
  · rcases option_map_eq_cases hitems with ⟨hnone, rfl⟩ | ⟨first, second, hsome, rfl, hitem⟩
    · rw [hnone]
      rfl
    · rw [hsome]
      exact hitem

/-- Items are checked alike in turn, each under the rule that the one before left. -/
theorem items_eq_of_normalForm {check : Rule → Json → Checked}
    (hcheck : ∀ rule other value, rule.normalForm = other.normalForm →
      (check rule value).normalForm = (check other value).normalForm) (values : List Json) :
    ∀ index rule other, rule.normalForm = other.normalForm →
      items check index rule values = items check index other values := by
  induction values with
  | nil => exact fun _ _ _ _ => rfl
  | cons value rest ih =>
    intro index rule other hrule
    obtain ⟨hverdict, hnext, hvalue⟩ := Checked.normalForm_eq_iff.1 (hcheck rule other value hrule)
    rw [items, items, hverdict, hvalue]
    dsimp only
    rw [ih (index + 1) _ _ hnext]

/-- Arrays are checked alike. -/
theorem normalForm_array {context : Context} (hcontext : context.Indifferent)
    (hrule : rule.normalForm = other.normalForm) (value : Json) :
    (array context rule value).normalForm = (array context other value).normalForm := by
  have hitems := normalForm_itemRule hrule
  obtain ⟨schema, inner, rfl, -, -⟩ := Rule.normalForm_eq_iff.1 hrule
  cases value with
  | array values =>
    cases hlength : rule.brokenLength? values.length with
    | some broken =>
      have hother : (rule.withInside schema inner).brokenLength? values.length = some broken :=
        hlength
      rw [array_of_broken hlength, array_of_broken hother]
      exact normalForm_decided rfl hrule _
    | none =>
      have hother : (rule.withInside schema inner).brokenLength? values.length = none := hlength
      cases htype : rule.itemType with
      | none =>
        rw [array_of_itemType_none hlength htype, array_of_itemType_none hother htype]
        exact normalForm_decided rfl hrule _
      | some itemType =>
        cases hrequire : context.require itemType with
        | error e =>
          rw [array_of_require_error hlength htype hrequire,
            array_of_require_error hother htype hrequire]
          exact normalForm_decided rfl hrule _
        | ok check =>
          rw [array_of_require hlength htype hrequire, array_of_require hother htype hrequire,
            items_eq_of_normalForm (fun rule other value h =>
              hcontext.require itemType check hrequire [] rule other value h) values 0 _ _
              (hitems itemType)]
          exact normalForm_decided rfl hrule _
  | _ => exact normalForm_decided rfl hrule _

/-- The rule that a password leaves. -/
theorem normalForm_passwordRule (hrule : rule.normalForm = other.normalForm) :
    (passwordRule rule).normalForm = (passwordRule other).normalForm := by
  obtain ⟨schema, inner, rfl, hschema, hitem⟩ := Rule.normalForm_eq_iff.1 hrule
  exact Rule.normalForm_eq_iff.2 ⟨schema, inner, rfl, hschema, hitem⟩

/-- **The built-in checkers are indifferent to how rules are spelled inside.** -/
theorem Kind.indifferent (kind : Kind) : (builtin kind).Indifferent := by
  intro context hcontext rule other value hrule
  change (kind.run context rule value).normalForm = (kind.run context other value).normalForm
  have hpassword := normalForm_passwordRule hrule
  cases kind with
  | object => exact normalForm_object hcontext hrule value
  | array => exact normalForm_array hcontext hrule value
  | password =>
    obtain ⟨schema, inner, rfl, -, -⟩ := Rule.normalForm_eq_iff.1 hrule
    exact normalForm_decided rfl hpassword value
  | _ =>
    -- all others read the rule itself only
    obtain ⟨schema, inner, rfl, -, -⟩ := Rule.normalForm_eq_iff.1 hrule
    exact normalForm_decided rfl hrule value

/-- So are the checkers for texts that match a pattern, which do not look at their rule. -/
theorem pattern_indifferent (format : Pattern) : (pattern format).Indifferent :=
  fun _ _ _ _ value hrule => normalForm_decided rfl hrule value

end Checker

/-- The checkers that the caller has registered are indifferent to how rules are spelled inside
their own. -/
def Registry.Indifferent (registry : Registry) : Prop :=
  ∀ typeName check, registry.get? typeName = some (.custom check) →
    (Checker.custom check).Indifferent

/-- Then so are all checkers. -/
theorem Registry.Indifferent.checker {registry : Registry} (h : registry.Indifferent)
    {typeName : String} {checker : Checker} (hget : registry.get? typeName = some checker) :
    checker.Indifferent := by
  cases checker with
  | builtin kind => exact kind.indifferent
  | pattern format => exact Checker.pattern_indifferent format
  | custom check => exact h typeName check hget

/-- A standard registry has no checkers of the caller. -/
theorem Registry.Standard.indifferent {registry : Registry} (h : registry.Standard) :
    registry.Indifferent :=
  fun _ _ hget => absurd rfl (h.not_custom hget _)

namespace Validator

variable {validator : Validator} {context : String → Json.Members → Checker.Context}

/-! ## Validations -/

/-- Where the errors of a field are does not depend on what is inside its rule. -/
theorem fieldErrors_eq_of_normalForm (hrule : rule.normalForm = other.normalForm) (field : String) :
    fieldErrors field rule = fieldErrors field other := by
  obtain ⟨schema, inner, rfl, -, -⟩ := Rule.normalForm_eq_iff.1 hrule
  funext verdict
  cases verdict <;> rfl

/-- **The turn of a field is the same under rules of one normal form.** -/
theorem validateField_eq_of_normalForm (hreg : validator.registry.Indifferent)
    (hcontext : ∀ name siblings, (context name siblings).Indifferent)
    (hrule : rule.normalForm = other.normalForm) (field : String) (fields : Json.Members) :
    validator.validateField context rule field fields =
      validator.validateField context other field fields := by
  have hchecked : ∀ typeName checker, validator.registry.require typeName = .ok checker →
      ∀ siblings value, (checker.run (context field siblings) rule value).normalForm =
        (checker.run (context field siblings) other value).normalForm := by
    intro typeName checker hrequire siblings value
    obtain ⟨name, -, hget⟩ := get?_of_require hrequire
    exact hreg.checker hget _ (hcontext field siblings) rule other value hrule
  obtain ⟨schema, inner, rfl, -, -⟩ := Rule.normalForm_eq_iff.1 hrule
  have hprepared : prepared validator.options (rule.withInside schema inner) field fields =
      prepared validator.options rule field fields := rfl
  unfold validateField
  dsimp only
  rw [hprepared]
  generalize prepared validator.options rule field fields = ready
  cases (Entries.value? ready field).filter fun value => !value.isNull with
  | none => rfl
  | some value =>
    have htype : (rule.withInside schema inner).typeName = rule.typeName := rfl
    have hconverted : validator.converted (rule.withInside schema inner) ready value =
        validator.converted rule ready value := rfl
    dsimp only
    rw [present, present, htype, hconverted]
    cases hrequire : validator.registry.require rule.typeName with
    | error e => rfl
    | ok checker =>
      obtain ⟨hverdict, hleft, hvalue⟩ := Checked.normalForm_eq_iff.1
        (hchecked _ checker hrequire (Entries.put ready field .null)
          (validator.converted rule ready value))
      dsimp only
      rw [hverdict, hvalue, fieldErrors_eq_of_normalForm hleft]

/-- Fields are validated alike if each of them is, however their rules are compared. -/
theorem validateFields_eq_of_map_eq {β : Type} {form : Rule → β}
    (hfield : ∀ rule other, form rule = form other → ∀ field fields,
      validator.validateField context rule field fields =
        validator.validateField context other field fields)
    (entries : List (String × Spec)) :
    ∀ others : List (String × Spec),
      entries.map (fun entry => (entry.1, form entry.2.normalize)) =
        others.map (fun entry => (entry.1, form entry.2.normalize)) →
      ∀ fields, validator.validateFields context entries fields =
        validator.validateFields context others fields := by
  induction entries with
  | nil =>
    intro others h fields
    rw [List.map_eq_nil_iff.1 h.symm]
  | cons entry rest ih =>
    intro others h fields
    cases others with
    | nil => cases h
    | cons other later =>
      obtain ⟨name, spec⟩ := entry
      obtain ⟨otherName, otherSpec⟩ := other
      rw [List.map_cons, List.map_cons, List.cons.injEq, Prod.mk.injEq] at h
      obtain ⟨⟨hname, hform⟩, hrest⟩ := h
      obtain rfl : name = otherName := hname
      rw [validateFields, validateFields, hfield _ _ hform]
      simp only [ih later hrest]

/-- So are data. -/
theorem validateIn_eq_of_map_eq {β : Type} {form : Rule → β}
    (hfield : ∀ rule other, form rule = form other → ∀ field fields,
      validator.validateField context rule field fields =
        validator.validateField context other field fields)
    (hrules : rules.entries.map (fun entry => (entry.1, form entry.2.normalize)) =
      others.entries.map fun entry => (entry.1, form entry.2.normalize)) (target : Json) :
    validator.validateIn context rules target = validator.validateIn context others target := by
  unfold validateIn
  simp only [validateFields_eq_of_map_eq hfield _ _ hrules]

/-- **No context tells rules of one normal form apart**, at any depth. -/
theorem context_indifferent (hreg : validator.registry.Indifferent) (depth : Nat) :
    ∀ field siblings, (validator.context depth field siblings).Indifferent := by
  induction depth with
  | zero =>
    refine fun field siblings => ⟨fun _ _ _ _ => rfl, fun typeName check hrequire => ?_⟩
    intro siblings rule other value hrule
    obtain ⟨checker, -, hcheck⟩ := exists_of_map_eq_ok hrequire
    rw [hcheck]
    exact Checker.normalForm_decided rfl hrule value
  | succ depth ih =>
    refine fun field siblings => ⟨fun rules others target hrules => ?_,
      fun typeName check hrequire => ?_⟩
    · exact validateIn_eq_of_map_eq
        (fun rule other h => validateField_eq_of_normalForm hreg ih h)
        (RuleSet.normalForm_eq_iff.1 hrules) target
    · intro siblings rule other value hrule
      obtain ⟨checker, hfound, hcheck⟩ := exists_of_map_eq_ok hrequire
      obtain ⟨name, -, hget⟩ := get?_of_require hfound
      rw [hcheck]
      exact hreg.checker hget _ (ih field siblings) rule other value hrule

/-- **Rule sets of one normal form validate alike**: whatever the data, the result is the same and
so is what is left of them. -/
theorem validate_eq_of_normalForm (hreg : validator.registry.Indifferent)
    (hrules : rules.normalForm = others.normalForm) (target : Json) :
    validator.validate rules target = validator.validate others target := by
  rw [validate, validate, depth, depth, RuleSet.height_eq_of_normalForm hrules]
  exact validateIn_eq_of_map_eq
    (fun rule other h => validateField_eq_of_normalForm hreg (context_indifferent hreg _) h)
    (RuleSet.normalForm_eq_iff.1 hrules) target

/-- **A validation depends on the normalized rules only**, whatever the checkers. -/
theorem validate_eq_of_normalized (hrules : rules.normalized = others.normalized) (target : Json) :
    validator.validate rules target = validator.validate others target := by
  have hform := RuleSet.normalForm_eq_of_normalized hrules
  rw [validate, validate, depth, depth, RuleSet.height_eq_of_normalForm hform]
  exact validateIn_eq_of_map_eq (fun rule other (h : rule = other) _ _ => h ▸ rfl) hrules target

end Validator

end Rulebook
