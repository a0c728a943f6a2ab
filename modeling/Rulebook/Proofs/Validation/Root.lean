import Rulebook.Proofs.Validation.Depth
/-!
# Validation — the check of the root

A validator may reject data that are neither an object nor an array. The switch belongs to the
validator, so it is also on whenever a checker calls back; but the check of an object calls back
with objects and arrays only. So for these the switch makes no difference at any level
(`Validator.validate_withRoot`), unless there are checkers of the caller, who may call back with
anything.
-/

namespace Rulebook

namespace Validator

variable {validator : Validator} {context : String → Json.Members → Checker.Context}
variable {rules : RuleSet} {rule : Rule} {checker : Checker} {value target : Json}
variable {field : String} {siblings : Json.Members} {depth : Nat} {validateRoot : Bool}

/-- The same validator with the check of the root switched on or off. -/
def withRoot (validator : Validator) (validateRoot : Bool) : Validator :=
  { validator with options := { validator.options with validateRoot } }

/-! ## What the switch does not touch -/

@[simp]
theorem registry_withRoot : (validator.withRoot validateRoot).registry = validator.registry := rfl

@[simp]
theorem say_withRoot : (validator.withRoot validateRoot).say = validator.say := rfl

/-- The turn of a field does not ask for the switch. -/
theorem validateField_withRoot (fields : Json.Members) :
    (validator.withRoot validateRoot).validateField context rule field fields =
      validator.validateField context rule field fields := rfl

/-- Nor does a run over fields. -/
theorem validateFields_withRoot (entries : List (String × Spec)) :
    ∀ fields, (validator.withRoot validateRoot).validateFields context entries fields =
      validator.validateFields context entries fields := by
  induction entries with
  | nil => exact fun _ => rfl
  | cons entry rest ih =>
    intro fields
    simp only [validateFields, validateField_withRoot, ih]

/-- An object and an array pass the check of the root. -/
theorem validateIn_withRoot (htarget : target.isStructured = true) :
    (validator.withRoot validateRoot).validateIn context rules target =
      validator.validateIn context rules target := by
  cases target with
  | object fields => rw [validateIn_object, validateIn_object, validateFields_withRoot]
  | array items => rw [validateIn_array, validateIn_array, validateFields_withRoot]
  | _ => cases htarget

/-! ## Checks inside -/

/-- Objects and arrays are validated alike if the checks of their fields are. -/
theorem validateIn_context_withRoot (hreg : validator.registry.Standard)
    (hchecks : ∀ checker : Checker, (∀ check, checker ≠ .custom check) →
      ∀ field siblings rule value,
        checker.run ((validator.withRoot validateRoot).context depth field siblings) rule value =
          checker.run (validator.context depth field siblings) rule value)
    (htarget : target.isStructured = true) :
    (validator.withRoot validateRoot).validateIn
        ((validator.withRoot validateRoot).context depth) rules target =
      validator.validateIn (validator.context depth) rules target := by
  rw [validateIn_withRoot htarget]
  refine validateIn_congr (fun name spec _ checker hrequire siblings value => ?_) target
  obtain ⟨typeName, -, hget⟩ := get?_of_require hrequire
  exact hchecks checker (hreg.not_custom hget) name siblings _ value

/-- **No check of a standard type asks for the switch**, at whatever depth. -/
theorem run_withRoot (hreg : validator.registry.Standard) :
    ∀ depth (checker : Checker), (∀ check, checker ≠ .custom check) →
      ∀ field siblings rule value,
        checker.run ((validator.withRoot validateRoot).context depth field siblings) rule value =
          checker.run (validator.context depth field siblings) rule value := by
  intro depth
  induction depth with
  | zero =>
    have hsame : (validator.withRoot validateRoot).context 0 = validator.context 0 := by
      funext field siblings
      rfl
    exact fun checker _ field siblings rule value => by rw [hsame]
  | succ depth ih =>
    intro checker hchecker field siblings rule value
    cases checker with
    | custom check => exact absurd rfl (hchecker check)
    | pattern format => simp [Checker.run]
    | builtin kind =>
      cases kind with
      | object =>
        simp only [Checker.run, Checker.Kind.run]
        exact Checker.object_congr (by simp) fun schema _ hvalue =>
          validateIn_context_withRoot hreg ih hvalue
      | array =>
        simp only [Checker.run, Checker.Kind.run]
        refine Checker.array_congr (by simp) fun itemType _ => ?_
        cases hrequire : validator.registry.require (some itemType) with
        | error e => exact .inl ⟨e, context_require_error hrequire, context_require_error hrequire⟩
        | ok checker =>
          obtain ⟨name, -, hget⟩ := get?_of_require hrequire
          exact .inr ⟨_, _, context_require_ok hrequire, context_require_ok hrequire,
            fun values => Checker.items_congr (fun _ => True)
              (fun rule item _ => ih checker (hreg.not_custom hget) field [] rule item)
              (fun _ _ _ => trivial) values 0 _ trivial⟩
      | _ => simp [Checker.run, Checker.Kind.run]

/-- **The check of the root makes no difference to objects and arrays**, nor to anything in them. -/
theorem validate_withRoot (hreg : validator.registry.Standard) (validateRoot : Bool)
    (rules : RuleSet) (htarget : target.isStructured = true) :
    (validator.withRoot validateRoot).validate rules target = validator.validate rules target :=
  validateIn_context_withRoot hreg (run_withRoot hreg _) htarget

end Validator

end Rulebook
