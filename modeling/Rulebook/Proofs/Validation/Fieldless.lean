import Rulebook.Proofs.Validation.Slot
/-!
# Validation — data without fields

Arrays and scalars have no fields, and a validation reads them as it reads an empty object. It still
takes the turn of every rule, and the defaults that it adds on the way are kept until the end of the
run, so an early one could be seen by a later rule. It is not, since no two rules have one name:
when its turn comes, every field is missing (`validateFields_missing`). So no checker runs, whatever
the types are, and what is reported is what is required (`validate_fieldless`).
-/

namespace Rulebook

namespace Validator

variable {validator : Validator} {context : String → Json.Members → Checker.Context}
variable {name : String} {spec : Spec} {fields : Json.Members}

/-- The errors of an object without fields: one for each field that is required, in the order of the
rules. -/
def missing (validator : Validator) (entries : List (String × Spec)) : List FieldError :=
  (entries.filter fun entry => entry.2.normalize.isRequired).map fun entry =>
    ⟨validator.say (.required entry.1), some entry.1, .missingField⟩

theorem missing_cons (validator : Validator) (entry : String × Spec)
    (rest : List (String × Spec)) :
    validator.missing (entry :: rest) = validator.missing [entry] ++ validator.missing rest := by
  rw [missing, missing, missing, ← List.map_append, ← List.filter_append, List.singleton_append]

/-- The turn of a missing field reports it if it is required, and nothing otherwise. -/
theorem validateField_missing (h : Entries.value? fields name = none) :
    (validator.validateField context spec.normalize name fields).result =
      .ok (validator.missing [(name, spec)]) := by
  rw [validateField_eq, h, ready_none]
  cases hrule : spec.normalize.isRequired with
  | true => simp [validateSlot_missing given?_none hrule, missing, hrule]
  | false => simp [validateSlot_optional given?_none hrule, missing, hrule]

/-- **A run in which every field is missing** reports those that are required. What holds from turn
to turn is that the fields of the later rules are still missing. -/
theorem validateFields_missing {entries : List (String × Spec)}
    (hnames : (Entries.names entries).Nodup)
    (h : ∀ name ∈ Entries.names entries, Entries.value? fields name = none) :
    (validator.validateFields context entries fields).result = .ok (validator.missing entries) := by
  induction entries generalizing fields with
  | nil => rfl
  | cons entry rest ih =>
    obtain ⟨name, spec⟩ := entry
    obtain ⟨hname, hrest⟩ := List.nodup_cons.1 hnames
    have hstill : ∀ other ∈ Entries.names rest, Entries.value?
        (validator.validateField context spec.normalize name fields).target other = none := by
      intro other hother
      have hne : other ≠ name := fun heq => hname (heq ▸ hother)
      rw [value?_validateField_of_ne hne]
      exact h other (List.mem_cons_of_mem _ hother)
    rw [validateFields_cons_ok (validateField_missing (h name List.mem_cons_self))]
    dsimp only
    rw [ih hrest hstill, missing_cons validator (name, spec) rest]
    rfl

/-- **Data without fields are read as an empty object and never touched.** Whatever the types, the
options and the rules, the validation of an array, or of a scalar where the root is not checked, does
not fail and leaves it as it is. It reports the required fields, in the order of the rules, and
nothing else, and so does the validation of an empty object. -/
theorem validate_fieldless (validator : Validator) (rules : RuleSet) (hrules : rules.names.Nodup)
    (target : Json) (htarget : ∀ fields, target ≠ .object fields)
    (hroot : target.isStructured = true ∨ validator.options.validateRoot = false) :
    validator.validate rules target = ⟨.ok (validator.missing rules.entries), target⟩ ∧
      (validator.validate rules (.object [])).result =
        .ok (validator.missing rules.entries) := by
  have hrun : (validator.validateFields (validator.context (validator.depth rules)) rules.entries
      []).result = .ok (validator.missing rules.entries) :=
    validateFields_missing hrules fun _ _ => rfl
  constructor
  · have hchecked : (validator.options.validateRoot && !target.isStructured) = false := by
      rcases hroot with h | h <;> simp [h]
    unfold validate validateIn
    rw [if_neg (by simp [hchecked])]
    cases target with
    | object fields => exact absurd rfl (htarget fields)
    | _ => simp only [hrun]
  · rw [validate, validateIn_object]
    exact hrun

/-- Rules that could not be used on any value: a type that does not exist, an enumeration that lists
nothing, and a password that repeats a field with a default. -/
def looseRules : RuleSet :=
  ⟨[("kind", .typeName "shape"), ("colour", .typeName "enum"),
    ("pin", .record { typeName := some "string?", fallback := some (.string "0000") }),
    ("again", .record { typeName := some "password", compare := some "pin" })]⟩

/-- On an array they report what is required and do not fail, though the default of the pin is there
when the password is looked for. -/
theorem validate_fieldless_looseRules :
    looseRules.names.Nodup ∧ (∀ fields, Json.array [.bool true] ≠ .object fields) ∧
      (Json.array [.bool true]).isStructured = true ∧
      (({} : Validator).missing looseRules.entries).map (·.field) =
        [some "kind", some "colour", some "again"] ∧
      ({} : Validator).validate looseRules (.array [.bool true]) =
        ⟨.ok (({} : Validator).missing looseRules.entries), .array [.bool true]⟩ ∧
      (({} : Validator).validate looseRules (.object [])).result =
        .ok (({} : Validator).missing looseRules.entries) := by
  have hnames : looseRules.names.Nodup := by decide
  have hobject : ∀ fields, Json.array [.bool true] ≠ .object fields := by
    intro fields h
    cases h
  exact ⟨hnames, hobject, rfl, rfl,
    validate_fieldless {} looseRules hnames (.array [.bool true]) hobject (.inl rfl)⟩

end Validator

end Rulebook
