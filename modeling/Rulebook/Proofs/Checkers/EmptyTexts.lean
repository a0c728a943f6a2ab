import Mathlib
import Rulebook.Proofs.Validation.Depth
/-!
# Checkers — empty texts

Whether a rule accepts an empty text is one policy over three of its attributes
(`Rule.AcceptsEmpty`), but the types do not all hand these attributes on. Three types ask the rule
itself. Those of a fixed format make a rule of their own, which has the newer name of the policy
and not the older one (`Checker.acceptsEmpty_formatRule`), and a type for texts that match a pattern
makes one that has neither, so it accepts no empty text. `Validator.validateField_empty` says what
a field with an empty text gets.
-/

namespace Rulebook

variable {rule : Rule}

/-! ## The policy -/

/-- **A rule accepts empty texts**: it says so under the newer name or, where that is unset, under
the older one, or it says nothing about them and is optional. -/
def Rule.AcceptsEmpty (rule : Rule) : Prop :=
  rule.allowEmpty = some true ∨ rule.allowEmpty = none ∧
    (rule.empty = some true ∨ rule.empty = none ∧ rule.required = some false)

instance (rule : Rule) : Decidable rule.AcceptsEmpty := by
  unfold Rule.AcceptsEmpty
  infer_instance

/-- This is what the checks ask. -/
theorem Rule.allowsEmpty_iff (rule : Rule) : rule.allowsEmpty = true ↔ rule.AcceptsEmpty := by
  unfold Rule.allowsEmpty Rule.AcceptsEmpty Rule.isRequired
  rcases rule.allowEmpty with _ | allowed
  · rcases rule.empty with _ | allowed
    · simp
    · simp
  · simp

namespace Checker

variable {context : Context}

/-- The rule of a fixed format accepts empty texts as the rule itself does, unless that says so
under the older name alone. -/
theorem acceptsEmpty_formatRule (hname : rule.allowEmpty ≠ none ∨ rule.empty = none)
    (format : Pattern) (message : Option String) :
    (formatRule rule format message).AcceptsEmpty ↔ rule.AcceptsEmpty := by
  unfold Rule.AcceptsEmpty formatRule
  rcases hname with hname | hname
  · simp [hname]
  · simp [hname]

/-- What the policy makes of an empty text. -/
def emptyVerdict (say : Formatter) (rule : Rule) : Verdict :=
  if rule.AcceptsEmpty then .valid else .invalid (say .empty)

theorem emptyText_eq (say : Formatter) (rule : Rule) : emptyText say rule = emptyVerdict say rule := by
  unfold emptyText emptyVerdict
  simp only [Rule.allowsEmpty_iff]

/-- The shared check of texts follows the policy. -/
theorem text_empty (say : Formatter) (rule : Rule) :
    text say rule (.string "") = emptyVerdict say rule :=
  emptyText_eq say rule

theorem emptyVerdict_formatRule (hname : rule.allowEmpty ≠ none ∨ rule.empty = none)
    (say : Formatter) (format : Pattern) (message : Option String) :
    emptyVerdict say (formatRule rule format message) = emptyVerdict say rule := by
  unfold emptyVerdict
  simp only [acceptsEmpty_formatRule hname]

/-- A password that need not repeat another field is checked as a text first, and an empty one that
is accepted is not looked at further. -/
theorem password_empty (say : Formatter) (siblings : Json.Members) (hcompare : rule.compare = none) :
    password say siblings rule (.string "") = emptyVerdict say rule := by
  have htext : text say (passwordRule rule) (.string "") = emptyVerdict say rule :=
    text_empty say (passwordRule rule)
  unfold password
  rw [htext, hcompare]
  unfold emptyVerdict
  split <;> rfl

/-- **Built-in types of texts follow the policy**, those of a fixed format unless the rule gives it
under the older name alone. -/
theorem Kind.run_empty {kind : Kind} (hcompare : rule.compare = none)
    (hkind : kind ∈ [.string, .password, .url] ∨
      kind ∈ [.id, .date, .dateTime, .email] ∧ (rule.allowEmpty ≠ none ∨ rule.empty = none)) :
    (kind.run context rule (.string "")).verdict = .ok (emptyVerdict context.say rule) := by
  simp only [List.mem_cons, List.not_mem_nil, or_false] at hkind
  rcases hkind with (rfl | rfl | rfl) | ⟨rfl | rfl | rfl | rfl, hname⟩
  · exact congrArg Except.ok (text_empty context.say rule)
  · exact congrArg Except.ok (password_empty context.say context.siblings hcompare)
  · exact congrArg Except.ok (emptyText_eq context.say rule)
  all_goals
    refine congrArg Except.ok ?_
    refine (text_empty context.say _).trans ?_
    exact emptyVerdict_formatRule hname _ _ _

/-- The kinds of the types that follow the policy. -/
theorem Kind.exists_of_emptyPolicy {typeName : String}
    (h : typeName ∈ ["string", "password", "url"] ∨
      typeName ∈ ["id", "date", "dateTime", "datetime", "email"] ∧
        (rule.allowEmpty ≠ none ∨ rule.empty = none)) :
    ∃ kind, Kind.ofTypeName? typeName = some kind ∧
      (kind ∈ [.string, .password, .url] ∨
        kind ∈ [.id, .date, .dateTime, .email] ∧ (rule.allowEmpty ≠ none ∨ rule.empty = none)) := by
  have hasked : ∀ name ∈ ["string", "password", "url"],
      ∃ kind ∈ [Kind.string, .password, .url], Kind.ofTypeName? name = some kind := by decide
  have hformatted : ∀ name ∈ ["id", "date", "dateTime", "datetime", "email"],
      ∃ kind ∈ [Kind.id, .date, .dateTime, .email], Kind.ofTypeName? name = some kind := by decide
  rcases h with hname | ⟨hname, hpolicy⟩
  · obtain ⟨kind, hmem, hkind⟩ := hasked typeName hname
    exact ⟨kind, hkind, .inl hmem⟩
  · obtain ⟨kind, hmem, hkind⟩ := hformatted typeName hname
    exact ⟨kind, hkind, .inr ⟨hmem, hpolicy⟩⟩

/-- A type for texts that match a pattern accepts no empty text, whatever the rule says. -/
theorem run_pattern_empty (format : Pattern) (rule : Rule) :
    ((Checker.pattern format).run context rule (.string "")).verdict =
      .ok (.invalid (context.say .empty)) := rfl

end Checker

namespace Validator

variable {validator : Validator} {field typeName : String} {fields : Json.Members}
variable {checker : Checker}

/-- The turn of a field with an empty text that is neither absent nor converted: it gets what the
checker of its type says. -/
theorem validateField_checked_empty {context : String → Json.Members → Checker.Context}
    {verdict : Verdict} (hvalue : Entries.value? fields field = some (.string ""))
    (hpresent : rule.widelyUndefined.getD validator.options.widelyUndefined = false)
    (hconversion : validator.coercionFor? rule = none) (htype : rule.typeName = some typeName)
    (hchecker : validator.registry.get? typeName = some checker)
    (hverdict : ∀ siblings, (checker.run (context field siblings) rule (.string "")).verdict =
      .ok verdict) :
    ∃ left, (validator.validateField context rule field fields).result =
      .ok (fieldErrors field left verdict) := by
  have hready : given? (ready validator.options rule (some (.string ""))) = some (.string "") := by
    have htrimmed : trimmed rule (.string "") = .string "" := by
      simp [trimmed, Text.trim, Text.trimStart, Text.trimEnd]
    rw [ready, Option.map_some, htrimmed]
    simp [collapsed, hpresent, given?, Json.isNull]
  have hrequire : validator.registry.require rule.typeName = .ok checker := by
    rw [htype]
    exact Registry.require_of_get? hchecker
  have hconverted : ∀ siblings, validator.converted rule siblings (.string "") = .string "" := by
    intro siblings
    simp [converted, hconversion, Json.isStructured]
  rw [validateField_eq, hvalue]
  dsimp only
  rw [validateSlot_checked hready hrequire, hconverted]
  dsimp only
  rw [hverdict]
  exact ⟨_, rfl⟩

/-- **What an empty text gets.** The text counts as present and is not converted, and the rule does
not ask for a field to be repeated. The types `string`, `password` and `url` follow the policy of
the rule; so do the types of a fixed format, if the rule gives the policy under the newer name or
does not give it under the older one. Types for texts that match a pattern do not consult the rule.
What is not accepted is one invalid field. -/
theorem validateField_empty (depth : Nat)
    (hvalue : Entries.value? fields field = some (.string ""))
    (hpresent : rule.widelyUndefined.getD validator.options.widelyUndefined = false)
    (hconversion : validator.coercionFor? rule = none) (hcompare : rule.compare = none)
    (htype : rule.typeName = some typeName) :
    let result := (validator.validateField (validator.context depth) rule field fields).result
    let refused := [⟨validator.say .empty, some field, .invalid⟩]
    (validator.registry.get? typeName = Registry.builtin.get? typeName →
      typeName ∈ ["string", "password", "url"] ∨
        typeName ∈ ["id", "date", "dateTime", "datetime", "email"] ∧
          (rule.allowEmpty ≠ none ∨ rule.empty = none) →
        result = .ok (if rule.AcceptsEmpty then [] else refused)) ∧
    ∀ format, validator.registry.get? typeName = some (.pattern format) → result = .ok refused := by
  intro result refused
  constructor
  · intro hbuiltin hname
    obtain ⟨kind, hkind, hmem⟩ := Checker.Kind.exists_of_emptyPolicy hname
    rw [Registry.get?_builtin, hkind] at hbuiltin
    have hverdict : ∀ siblings, ((Checker.builtin kind).run (validator.context depth field siblings)
        rule (.string "")).verdict = .ok (Checker.emptyVerdict validator.say rule) := by
      intro siblings
      have hsay : (validator.context depth field siblings).say = validator.say := context_say depth
      rw [← hsay]
      exact Checker.Kind.run_empty hcompare hmem
    obtain ⟨left, hresult⟩ :=
      validateField_checked_empty hvalue hpresent hconversion htype hbuiltin hverdict
    refine hresult.trans (congrArg Except.ok ?_)
    unfold Checker.emptyVerdict
    split <;> rfl
  · intro format hpattern
    have hverdict : ∀ siblings, ((Checker.pattern format).run
        (validator.context depth field siblings) rule (.string "")).verdict =
          .ok (.invalid (validator.say .empty)) := by
      intro siblings
      have hsay : (validator.context depth field siblings).say = validator.say := context_say depth
      rw [← hsay]
      exact Checker.run_pattern_empty format rule
    obtain ⟨left, hresult⟩ :=
      validateField_checked_empty hvalue hpresent hconversion htype hpattern hverdict
    exact hresult

/-- A validator with a type for texts of small letters, which the empty text matches as well. -/
def withSlugs : Validator where
  registry := (Registry.builtin.register "slug" (.pattern
    ⟨"/^[a-z]*$/", Formats.whole [Formats.zeroOrMore (.range 0x61 0x7A)]⟩) false none).registry

/-- A link that may be left empty, by the older name, and a slug that may not. -/
theorem validateField_empty_linkAndSlug :
    let link : Rule := { typeName := some "url", empty := some true }
    let slug : Rule := { typeName := some "slug", allowEmpty := some true }
    let fields := [("link", Json.string ""), ("slug", .string "")]
    Entries.value? fields "link" = some (.string "") ∧
      Entries.value? fields "slug" = some (.string "") ∧
      link.AcceptsEmpty ∧ slug.AcceptsEmpty ∧
      (withSlugs.validateField (withSlugs.context 0) link "link" fields).result = .ok [] ∧
      (withSlugs.validateField (withSlugs.context 0) slug "slug" fields).result =
        .ok [⟨withSlugs.say .empty, some "slug", .invalid⟩] := by
  intro link slug fields
  have hlink := @validateField_empty link withSlugs "link" "url" fields 0 rfl rfl rfl rfl rfl
  have hslug := @validateField_empty slug withSlugs "slug" "slug" fields 0 rfl rfl rfl rfl rfl
  exact ⟨rfl, rfl, by decide, by decide, hlink.1 rfl (.inl (by decide)), hslug.2 _ rfl⟩

/-- **Two kinds of types do not follow the policy**: types for texts that match a pattern, and those
of a fixed format under a rule that uses the older name alone. Both rules here accept empty texts.
-/
theorem validate_empty_slugAndId :
    let slug : Rule := { typeName := some "slug", allowEmpty := some true }
    let id : Rule := { typeName := some "id", empty := some true }
    slug.AcceptsEmpty ∧ id.AcceptsEmpty ∧
      (withSlugs.validate ⟨[("slug", .record slug), ("id", .record id)]⟩
        (.object [("slug", .string ""), ("id", .string "")])).result =
          .ok [⟨"should not be empty", some "slug", .invalid⟩,
            ⟨"should not be empty", some "id", .invalid⟩] :=
  ⟨by decide, by decide, by cbv⟩

end Validator

end Rulebook
