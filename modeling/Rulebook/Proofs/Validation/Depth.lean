import Rulebook.Proofs.Checkers.Builtin
import Rulebook.Proofs.Rules.Nesting
import Rulebook.Proofs.Validation.Slot
/-!
# Validation — the depth of contexts

`Validator.validate` lets checkers call back a bounded number of times in a row. With standard types
the bound is never felt: a check under a rule calls back at most twice for each level of the rule,
so contexts of that depth or more cannot be told apart (`run_context_eq`), and a validation is the
same at every depth that its rules need (`validate_eq_of_le`). What siblings a checker is given
matters only to the passwords that must repeat one (`run_siblings_eq`).
-/

namespace Rulebook

namespace Validator

variable {validator : Validator} {first second : String → Json.Members → Checker.Context}
variable {rules : RuleSet} {rule : Rule} {checker : Checker}
variable {typeName field : String} {fields siblings others : Json.Members} {value : Json}

/-! ## What a context holds -/

@[simp]
theorem context_field (depth : Nat) :
    (validator.context depth field siblings).field = field := by
  cases depth <;> rfl

@[simp]
theorem context_siblings (depth : Nat) :
    (validator.context depth field siblings).siblings = siblings := by
  cases depth <;> rfl

@[simp]
theorem context_say (depth : Nat) :
    (validator.context depth field siblings).say = validator.say := by
  cases depth <;> rfl

/-- A validation from inside goes one level down. -/
@[simp]
theorem context_validate (depth : Nat) :
    (validator.context (depth + 1) field siblings).validate =
      validator.validateIn (validator.context depth) := rfl

/-- So does the checker of another type, which sees the siblings it is given. -/
theorem context_require_ok {depth : Nat}
    (h : validator.registry.require (some typeName) = .ok checker) :
    (validator.context (depth + 1) field siblings).require typeName =
      .ok fun siblings rule value =>
        checker.run (validator.context depth field siblings) rule value := by
  simp [context, h, Except.map]

/-- A type that is not registered is refused from inside as well. -/
theorem context_require_error {depth : Nat} {e : ConfigError}
    (h : validator.registry.require (some typeName) = .error e) :
    (validator.context depth field siblings).require typeName = .error e := by
  cases depth <;> simp [context, h, Except.map]

/-- With the built-in types, a type that is required from inside is one of them. -/
theorem exists_kind_of_context_require (hreg : validator.registry = .builtin) {depth : Nat}
    {check : Json.Members → Rule → Json → Checked}
    (h : (validator.context depth field siblings).require typeName = .ok check) :
    ∃ kind, Checker.Kind.ofTypeName? typeName = some kind ∧
      validator.registry.require (some typeName) = .ok (.builtin kind) := by
  cases hrequire : validator.registry.require (some typeName) with
  | error e => simp [context_require_error hrequire] at h
  | ok checker =>
    obtain ⟨kind, hkind, rfl⟩ := Registry.require_builtin.1 (hreg ▸ hrequire)
    exact ⟨kind, hkind, rfl⟩

/-! ## Contexts that cannot be told apart -/

/-- Two runs over fields agree if the checks they make do. -/
theorem validateFields_congr (entries : List (String × Spec))
    (h : ∀ name spec, (name, spec) ∈ entries → ∀ checker,
      validator.registry.require spec.normalize.typeName = .ok checker → ∀ siblings value,
        checker.run (first name siblings) spec.normalize value =
          checker.run (second name siblings) spec.normalize value) :
    ∀ fields, validator.validateFields first entries fields =
      validator.validateFields second entries fields := by
  induction entries with
  | nil => exact fun _ => rfl
  | cons entry rest ih =>
    obtain ⟨name, spec⟩ := entry
    have hslot : ∀ siblings slot,
        validator.validateSlot first spec.normalize name siblings slot =
          validator.validateSlot second spec.normalize name siblings slot := by
      intro siblings slot
      unfold validateSlot
      split
      · rfl
      · split
        · rfl
        · rw [h name spec (by simp) _ (by assumption)]
    have hrest := ih fun name spec hmem => h name spec (List.mem_cons_of_mem _ hmem)
    intro fields
    simp only [validateFields, validateField_eq, hslot, hrest]

/-- Two validations agree if the checks they make do. -/
theorem validateIn_congr
    (h : ∀ name spec, (name, spec) ∈ rules.entries → ∀ checker,
      validator.registry.require spec.normalize.typeName = .ok checker → ∀ siblings value,
        checker.run (first name siblings) spec.normalize value =
          checker.run (second name siblings) spec.normalize value) (target : Json) :
    validator.validateIn first rules target = validator.validateIn second rules target := by
  simp only [validateIn, validateFields_congr rules.entries h]

/-- The contexts of two depths cannot be told apart under rules of a height. -/
def Settles (validator : Validator) (height depth other : Nat) : Prop :=
  ∀ typeName checker rule field siblings value, validator.registry.get? typeName = some checker →
    rule.height ≤ height →
      checker.run (validator.context depth field siblings) rule value =
        checker.run (validator.context other field siblings) rule value

/-- A type that is required is registered under a name. -/
theorem get?_of_require {registry : Registry} {typeName : Option String}
    (h : registry.require typeName = .ok checker) :
    ∃ name, typeName = some name ∧ registry.get? name = some checker := by
  unfold Registry.require at h
  split at h
  · rename_i found hfound
    cases h
    exact Option.bind_eq_some_iff.1 hfound
  · cases h

/-- Validations one level down agree as well. -/
theorem Settles.validateIn {height depth other : Nat} (h : validator.Settles height depth other)
    (hrules : rules.height ≤ height) (target : Json) :
    validator.validateIn (validator.context depth) rules target =
      validator.validateIn (validator.context other) rules target := by
  refine validateIn_congr (fun name spec hmem checker hrequire siblings value => ?_) target
  obtain ⟨typeName, -, hget⟩ := get?_of_require hrequire
  exact h typeName checker _ name siblings value hget
    (Nat.le_trans (RuleSet.height_normalize_le hmem) hrules)

/-- A check of an object looks one level down. -/
theorem Settles.object {height depth other : Nat} (h : validator.Settles height depth other)
    (hrule : ∀ schema, rule.schema = some schema → schema.height ≤ height) :
    Checker.object (validator.context (depth + 1) field siblings) rule value =
      Checker.object (validator.context (other + 1) field siblings) rule value := by
  refine Checker.object_congr (by simp) fun schema hschema _ => ?_
  rw [context_validate, context_validate, h.validateIn (hrule schema hschema)]

/-- Under a rule with nothing inside, a check does not look down at all. -/
theorem run_flat (hchecker : ∀ check, checker ≠ .custom check) (hschema : rule.schema = none)
    (htype : rule.itemType = none) (depth other : Nat) :
    checker.run (validator.context depth field siblings) rule value =
      checker.run (validator.context other field siblings) rule value := by
  cases checker with
  | custom check => exact absurd rfl (hchecker check)
  | pattern format => simp [Checker.run]
  | builtin kind =>
    cases kind with
    | array =>
      cases value with
      | array items =>
        cases hlength : rule.brokenLength? items.length with
        | some broken =>
          simp [Checker.run, Checker.Kind.run, Checker.array_of_broken hlength]
        | none =>
          simp [Checker.run, Checker.Kind.run, Checker.array_of_itemType_none hlength htype]
      | _ => simp [Checker.run, Checker.Kind.run, Checker.array]
    | object => simp [Checker.run, Checker.Kind.run, Checker.object, hschema]
    | _ => simp [Checker.run, Checker.Kind.run]

/-- The items of an array are checked two levels down at most. -/
theorem Settles.items {height depth other : Nat} (hreg : validator.registry.Standard)
    (h : validator.Settles height depth other)
    (hnext : validator.Settles height (depth + 1) (other + 1))
    (hrule : rule.height ≤ height + 1) (hget : validator.registry.get? typeName = some checker)
    {itemRule : Rule} (hitem : itemRule.SameInside (Checker.itemRule rule typeName))
    (item : Json) :
    checker.run (validator.context (depth + 1) field siblings) itemRule item =
      checker.run (validator.context (other + 1) field siblings) itemRule item := by
  obtain ⟨hschema, hitemRule, hitemType⟩ := hitem
  by_cases hobject : typeName = "object"
  · -- objects are checked under the rule of the array, one level further down
    subst hobject
    rcases hreg.object hget with ⟨format, rfl⟩ | rfl
    · simp [Checker.run]
    · refine h.object fun schema hs => ?_
      have hrs : rule.schema = some schema := by
        rw [← hs, hschema]
        rfl
      have := Rule.height_schema_lt hrs
      omega
  · simp only [Checker.itemRule, if_neg hobject] at hschema hitemRule hitemType
    cases hinner : rule.itemRule with
    | some inner =>
      rw [hinner] at hschema hitemRule
      refine hnext typeName checker itemRule field siblings item hget ?_
      have hlt := Rule.height_itemRule_lt hinner
      have heq : itemRule.height = inner.height := Rule.height_congr hschema hitemRule
      omega
    | none =>
      rw [hinner] at hschema hitemType
      obtain ⟨name, required, hflat⟩ := Spec.normalize_typeName typeName
      rw [Option.getD_none, hflat] at hschema hitemType
      exact run_flat (hreg.not_custom hget) hschema hitemType _ _

/-- A check of an array agrees if the checks of its items do. -/
theorem Settles.array {height depth other : Nat} (hreg : validator.registry.Standard)
    (h : validator.Settles height depth other)
    (hnext : validator.Settles height (depth + 1) (other + 1)) (hrule : rule.height ≤ height + 1) :
    Checker.array (validator.context (depth + 2) field siblings) rule value =
      Checker.array (validator.context (other + 2) field siblings) rule value := by
  refine Checker.array_congr (by simp) fun typeName _ => ?_
  cases hrequire : validator.registry.require (some typeName) with
  | error e => exact .inl ⟨e, context_require_error hrequire, context_require_error hrequire⟩
  | ok checker =>
    obtain ⟨name, hname, hget⟩ := get?_of_require hrequire
    cases hname
    exact .inr ⟨_, _, context_require_ok hrequire, context_require_ok hrequire, fun values =>
      Checker.items_congr (·.SameInside (Checker.itemRule rule typeName))
        (fun itemRule item hitem => h.items hreg hnext hrule hget hitem item)
        (fun itemRule item hitem =>
          (Checker.run_rule_sameInside (hreg.not_custom hget)).trans hitem) values 0 _ (.refl _)⟩

/-- **Contexts of depth `2 * height` or more cannot be told apart** by a check under a rule of that
height: it calls back into the rules once at each level, and asks for another type once. -/
theorem settles_of_le (hreg : validator.registry.Standard) : ∀ height depth other,
    2 * height ≤ depth → 2 * height ≤ other → validator.Settles height depth other := by
  intro height
  induction height with
  | zero =>
    intro depth other _ _ typeName checker rule field siblings value _ hrule
    have := rule.height_pos
    omega
  | succ height ih =>
    intro depth other hdepth hother typeName checker rule field siblings value hget hrule
    obtain ⟨depth, rfl⟩ : ∃ d, depth = d + 2 := ⟨depth - 2, by omega⟩
    obtain ⟨other, rfl⟩ : ∃ d, other = d + 2 := ⟨other - 2, by omega⟩
    have hlow := ih depth other (by omega) (by omega)
    have hmiddle := ih (depth + 1) (other + 1) (by omega) (by omega)
    cases checker with
    | custom check => exact absurd rfl (hreg.not_custom hget check)
    | pattern format => simp [Checker.run]
    | builtin kind =>
      cases kind with
      | array => exact Settles.array hreg hlow hmiddle hrule
      | object =>
        refine hmiddle.object fun schema hschema => ?_
        have := Rule.height_schema_lt hschema
        omega
      | _ => simp [Checker.run, Checker.Kind.run]

/-- The depth of a validation is enough for its rules. -/
theorem two_mul_height_le_depth (validator : Validator) (rules : RuleSet) :
    2 * rules.height ≤ validator.depth rules := by
  have h : (rules.height + 1) * 2 ≤ (rules.height + 1) * (validator.registry.size + 2) :=
    Nat.mul_le_mul_left _ (by omega)
  unfold depth
  omega

/-- **A validation with standard types is the same at every depth that its rules need.** -/
theorem validate_eq_of_le (hreg : validator.registry.Standard) {depth : Nat}
    (hdepth : 2 * rules.height ≤ depth) (target : Json) :
    validator.validate rules target =
      validator.validateIn (validator.context depth) rules target :=
  (settles_of_le hreg rules.height _ _ (two_mul_height_le_depth validator rules)
    hdepth).validateIn (Nat.le_refl _) target

/-! ## Siblings -/

/-- **A check reads its siblings only for the field that its rule compares with.** -/
theorem run_siblings_eq (hchecker : ∀ check, checker ≠ .custom check) (hrule : rule.compare = none)
    (depth : Nat) (siblings others : Json.Members) :
    checker.run (validator.context depth field siblings) rule value =
      checker.run (validator.context depth field others) rule value := by
  cases checker with
  | custom check => exact absurd rfl (hchecker check)
  | pattern format => simp [Checker.run]
  | builtin kind =>
    cases kind with
    | password =>
      simp [Checker.run, Checker.Kind.run, Checker.password, hrule]
    | array => cases depth <;> rfl
    | object => cases depth <;> rfl
    | _ => simp [Checker.run, Checker.Kind.run]

end Validator

end Rulebook
