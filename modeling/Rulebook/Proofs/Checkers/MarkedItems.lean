import Rulebook.Proofs.Checkers.Items
import Rulebook.Proofs.Rules.Shorthand
/-!
# Checkers — item types with the marker of optional fields

A question mark at the end of a type makes a field optional, and the type is looked up without it.
The type of the items of an array is looked up as it is written, and its marker is taken off only
for the rule that it stands for. So an array whose items have a type with the marker is refused, as
soon as its length is looked at and even if it is empty, unless a type of that very name is
registered (`Checker.array_marked`). Taking the marker for one, as a field does, would check the
items by the type without it (`Checker.HonoursMarker`).
-/

namespace Rulebook

/-- The rule of an array with the marker on the type of its items taken for one: they have the type
without it, under the rule that the type with it stands for. -/
def Rule.withOptionalItems (rule : Rule) (typeName : String) : Rule :=
  { rule with
    itemType := some typeName
    itemRule := some (Spec.typeName (typeName ++ "?")).normalize }

namespace Checker

variable {checker : Checker} {context : Context} {rule : Rule} {typeName : String} {value : Json}
variable {values : List Json}

/-- The check of a value says, and leaves, what it would if the marker were taken for one. -/
def HonoursMarker (context : Context) (rule : Rule) (typeName : String) (value : Json) : Prop :=
  (array context rule value).verdict =
      (array context (rule.withOptionalItems typeName) value).verdict ∧
    (array context rule value).value =
      (array context (rule.withOptionalItems typeName) value).value

/-! ## The rule for the items -/

/-- No type with the marker is the type of objects. -/
theorem append_marker_ne_object (typeName : String) : typeName ++ "?" ≠ "object" := by
  intro h
  have hlast := congrArg (·.toList.getLast?) h
  simp at hlast

/-- Without a rule of their own, items of a type with the marker get the rule of the optional type.
-/
theorem itemRule_marked (h : rule.itemRule = none) :
    itemRule rule (typeName ++ "?") = { typeName := some typeName, required := some false } := by
  rw [itemRule, if_neg (append_marker_ne_object typeName), h, Option.getD_none,
    Spec.normalize_optional]

/-- So they would if the marker were taken for one. -/
theorem itemRule_withOptionalItems (h : typeName ≠ "object") :
    itemRule (rule.withOptionalItems typeName) typeName =
      { typeName := some typeName, required := some false } := by
  rw [itemRule, if_neg h]
  exact Spec.normalize_optional typeName

/-! ## What is refused, and what is not -/

/-- Where no items are looked at, their type does not matter. -/
theorem honoursMarker_of_not_within
    (h : ∀ values, value = .array values → rule.brokenLength? values.length ≠ none) :
    HonoursMarker context rule typeName value := by
  cases value with
  | array values =>
    obtain ⟨broken, hbroken⟩ := Option.ne_none_iff_exists'.1 (h values rfl)
    have hmeant : (rule.withOptionalItems typeName).brokenLength? values.length = some broken :=
      hbroken
    rw [HonoursMarker, array_of_broken hbroken, array_of_broken hmeant]
    exact ⟨rfl, rfl⟩
  | _ => exact ⟨rfl, rfl⟩

/-- Under the rule of a type alone no check of a standard type meets an unknown one. -/
theorem run_bare_ne_unknownType (hchecker : ∀ check, checker ≠ .custom check)
    (own : Option String) (required : Option Bool) (unknown : Option String) (known : List String) :
    (checker.run context { typeName := own, required := required } value).verdict ≠
      .error (.unknownType unknown known) := by
  cases checker with
  | custom check => exact absurd rfl (hchecker check)
  | pattern format =>
    intro h
    cases h
  | builtin kind =>
    simp only [Checker.run]
    cases kind with
    | array =>
      rcases array_cases context { typeName := own, required := required } value with
        ⟨verdict, hrun⟩ | ⟨_, _, -, -, htype⟩
      · rw [Kind.run, hrun]
        intro h
        cases h
      · cases htype
    | object =>
      rcases object_cases context { typeName := own, required := required } value with
        ⟨verdict, hrun⟩ | ⟨_, -, hschema, -⟩
      · rw [Kind.run, hrun]
        intro h
        cases h
      · cases hschema
    | _ =>
      intro h
      cases h

/-- If items cannot be checked, the failure is that of one of them. -/
theorem exists_of_items_error {check : Json → Checked} {index : Nat} {e : ConfigError}
    (h : (items (fun _ => check) index rule values).result = .error e) :
    ∃ item ∈ values, (check item).verdict = .error e := by
  induction values generalizing index rule with
  | nil => cases h
  | cons item rest ih =>
    cases hverdict : (check item).verdict with
    | error found =>
      simp only [items, hverdict] at h
      exact ⟨item, List.mem_cons_self, by rw [hverdict, Except.error.inj h]⟩
    | ok verdict =>
      simp only [items, hverdict] at h
      obtain ⟨other, hmem, hother⟩ := ih (eq_error_of_map h)
      exact ⟨other, List.mem_cons_of_mem _ hmem, hother⟩

section Array

variable {validator : Validator} (htype : rule.itemType = some (typeName ++ "?"))
variable (hmarked : validator.registry.get? (typeName ++ "?") = none)

include htype hmarked

/-- An array of a length within the bounds is refused if the type with the marker is not registered
as it is written. -/
theorem array_of_marked_none (depth : Nat) (field : String) (siblings : Json.Members)
    (hlength : rule.brokenLength? values.length = none) :
    array (validator.context (depth + 1) field siblings) rule (.array values) =
      ⟨.error (.unknownType (some (typeName ++ "?")) validator.registry.typeNames), rule,
        .array values⟩ :=
  array_of_require_error hlength htype
    (Validator.context_require_error (Registry.require_of_get?_none hmarked))

/-- That is not what honouring the marker would do: the items would be checked under the rule of a
type alone, which asks for no other type. -/
theorem not_honoursMarker (hobject : typeName ≠ "object")
    (hcustom : ∀ check, checker ≠ .custom check)
    (hchecker : validator.registry.get? typeName = some checker) (depth : Nat) (field : String)
    (siblings : Json.Members) (hlength : rule.brokenLength? values.length = none) :
    ¬ HonoursMarker (validator.context (depth + 1) field siblings) rule typeName
      (.array values) := by
  intro hhonours
  have hmeant : (rule.withOptionalItems typeName).brokenLength? values.length = none := hlength
  have hverdict := hhonours.1
  rw [array_of_marked_none htype hmarked depth field siblings hlength,
    array_of_get? hcustom depth field siblings hmeant rfl hchecker,
    itemRule_withOptionalItems hobject] at hverdict
  dsimp only at hverdict
  rw [← items_eq_itemsApart _ {}] at hverdict
  obtain ⟨item, -, hfails⟩ := exists_of_items_error (result_of_verdict_error hverdict.symm)
  exact run_bare_ne_unknownType hcustom _ _ _ _ hfails

end Array

/-- **The marker on the type of items is taken for a part of its name.** The items of an array have
a type with the marker and no rule of their own, and the type without it is registered. Then the
marker is honoured by the check of every value that is no array of a length within the bounds, and
an array of such a length is refused, whatever is in it, as one of an unknown type; with standard
types that is never what honouring the marker would do. Only if the name with the marker is
registered as well are the items checked, by the checker of that name. -/
theorem array_marked {validator : Validator} (hobject : typeName ≠ "object")
    (htype : rule.itemType = some (typeName ++ "?")) (hitem : rule.itemRule = none)
    (hchecker : validator.registry.get? typeName = some checker) (depth : Nat) (field : String)
    (siblings : Json.Members) (value : Json) :
    let context := validator.context (depth + 1) field siblings
    ((∀ values, value = .array values → rule.brokenLength? values.length ≠ none) →
      HonoursMarker context rule typeName value) ∧
    ∀ values, value = .array values → rule.brokenLength? values.length = none →
      (validator.registry.get? (typeName ++ "?") = none →
        array context rule value =
            ⟨.error (.unknownType (some (typeName ++ "?")) validator.registry.typeNames), rule,
              value⟩ ∧
          (validator.registry.Standard → ¬ HonoursMarker context rule typeName value)) ∧
      ∀ marked, validator.registry.get? (typeName ++ "?") = some marked →
        let checked := items (marked.run (validator.context depth field [])) 0
          { typeName := some typeName, required := some false } values
        array context rule value = ⟨checked.verdict, rule, .array checked.target⟩ := by
  refine ⟨honoursMarker_of_not_within, ?_⟩
  rintro values rfl hlength
  refine ⟨fun hmarked => ⟨?_, fun hstandard => ?_⟩, fun marked hmarked => ?_⟩
  · exact array_of_marked_none htype hmarked depth field siblings hlength
  · exact not_honoursMarker htype hmarked hobject (hstandard.not_custom hchecker) hchecker depth
      field siblings hlength
  · rw [array_of_require hlength htype
      (Validator.context_require_ok (Registry.require_of_get? hmarked)), itemRule_marked hitem]

/-- An empty text among items of the type `string?`, which an optional text could be. -/
theorem array_marked_emptyText :
    let rule : Rule := { typeName := some "array", itemType := some "string?" }
    let context := Validator.context {} 1 "tags" []
    "string" ≠ "object" ∧ rule.itemType = some ("string" ++ "?") ∧ rule.itemRule = none ∧
      Registry.builtin.get? "string" = some (.builtin .string) ∧
      Registry.builtin.get? "string?" = none ∧ rule.brokenLength? 1 = none ∧
      (array context rule (.array [.string ""])).verdict =
        .error (.unknownType (some "string?") Registry.builtin.typeNames) ∧
      ¬ HonoursMarker context rule "string" (.array [.string ""]) := by
  intro rule context
  have hobject : "string" ≠ "object" := by decide
  have hstring : Registry.get? (Validator.registry {}) "string" = some (.builtin .string) := rfl
  have htype : rule.itemType = some ("string" ++ "?") := rfl
  have hmarked := array_marked hobject htype rfl hstring 0 "tags" [] (.array [.string ""])
  obtain ⟨hrefused, hnot⟩ := (hmarked.2 _ rfl rfl).1 rfl
  exact ⟨hobject, rfl, rfl, rfl, rfl, rfl, by rw [hrefused]; rfl, hnot Registry.standard_builtin⟩

end Checker

namespace Validator

/-- A list of tags of a type, each under a rule of its own if there is one. -/
def tagRules (itemType : String) (itemRule : Option Rule) : RuleSet :=
  ⟨[("tags", .record
    { typeName := some "array", itemType := some itemType, itemRule := itemRule })]⟩

/-- **An empty tag is not accepted as an optional one.** The validation fails, though the tag is
valid as a text under the rule that `string?` stands for. -/
theorem validate_markedTags :
    let tags : Json := .object [("tags", .array [.string ""])]
    (validate {} (tagRules "string?" none) tags).result =
        .error (.unknownType (some "string?") Registry.builtin.typeNames) ∧
      (validate {} (tagRules "string" (some (Spec.typeName "string?").normalize)) tags).result =
        .ok [] :=
  ⟨rfl, rfl⟩

end Validator

end Rulebook
