import Rulebook.Proofs.Validation.Depth
/-!
# Validation — the descent into rules

A check looks inside a value in two ways: at its fields, under the rules of a schema, and at its
items, under the rule for the items. How often it does so in a row is bounded by its rule
(`Checker.Kind.calls`). So whatever passes from the checks inside to the check around holds of every
check whose context is deep enough (`Checker.Kind.descent`), and a validation is one at such a depth
(`Validator.validate_eq_of_le`).
-/

namespace Rulebook

namespace Checker

namespace Kind

variable {kind : Kind} {rule : Rule} {schema : RuleSet} {name itemType : String} {spec : Spec}

/-- How often a check under a rule may call back in a row. -/
def calls (kind : Kind) (rule : Rule) : Nat :=
  match kind with
  | object => 2 * rule.height - 1
  | array => if rule.itemType.isSome then 2 * rule.height else 1
  | _ => 0

/-- At each level of the rule it calls back twice at most. -/
theorem calls_le (kind : Kind) (rule : Rule) : kind.calls rule ≤ 2 * rule.height := by
  have hpos := rule.height_pos
  unfold calls
  split
  · omega
  · split <;> omega
  · omega

/-- A check of an object or of an array may call back. -/
theorem calls_pos (h : kind = .object ∨ kind = .array) (rule : Rule) : 0 < kind.calls rule := by
  have hpos := rule.height_pos
  rcases h with rfl | rfl
  · simp only [calls]
    omega
  · simp only [calls]
    split <;> omega

/-- The check of a field calls back less often than that of its object. -/
theorem calls_field_lt (hschema : rule.schema = some schema)
    (hentry : (name, spec) ∈ schema.entries) (kind : Kind) :
    kind.calls spec.normalize < Kind.calls .object rule := by
  have hlt := Rule.height_schema_lt hschema
  have hle := RuleSet.height_normalize_le hentry
  have hcalls := kind.calls_le spec.normalize
  simp only [calls] at hcalls ⊢
  omega

/-- The check of an item calls back less often than that of its array. -/
theorem calls_item_lt (htype : rule.itemType = some itemType)
    (hkind : ofTypeName? itemType = some kind) :
    kind.calls (itemRule rule itemType) < Kind.calls .array rule := by
  have hpos := rule.height_pos
  have harray : Kind.calls .array rule = 2 * rule.height := by simp [calls, htype]
  rw [harray]
  unfold itemRule
  by_cases hobject : itemType = "object"
  · -- objects are checked under the rule of the array itself
    rw [ofTypeName?_object.2 hobject] at hkind
    cases hkind
    rw [if_pos hobject]
    simp only [calls]
    omega
  · rw [if_neg hobject]
    cases hitem : rule.itemRule with
    | some inner =>
      have hlt := Rule.height_itemRule_lt hitem
      have hcalls := kind.calls_le inner
      rw [Option.getD_some]
      omega
    | none =>
      obtain ⟨typeName, required, hflat⟩ := Spec.normalize_typeName itemType
      have hone : (Spec.typeName itemType).normalize.height = 1 := by
        rw [Spec.height_normalize]
        rfl
      rw [Option.getD_none]
      unfold calls
      split
      · omega
      · rw [hflat, Option.isSome_none, if_neg Bool.false_ne_true]
        omega
      · omega

/-- **Induction along the calls of a check.** A property of the checks at a depth, under rules of
which everything inside has a property of its own: it holds where nothing is looked into, and it
passes from the fields to their object and from the items to their array, one level up. Then it
holds at every depth that the rule needs. -/
theorem descent {Q : Rule → Prop} (hbare : ∀ name, Q (Spec.typeName name).normalize)
    {P : Nat → Kind → Rule → Prop}
    (scalar : ∀ depth kind rule, rule.All Q → kind ≠ .object → kind ≠ .array → P depth kind rule)
    (object : ∀ depth rule, rule.All Q →
      (∀ schema, rule.schema = some schema → ∀ name spec, (name, spec) ∈ schema.entries →
        ∀ kind, P depth kind spec.normalize) → P (depth + 1) .object rule)
    (array : ∀ depth rule, rule.All Q →
      (∀ itemType kind, rule.itemType = some itemType → ofTypeName? itemType = some kind →
        P depth kind (itemRule rule itemType)) → P (depth + 1) .array rule) :
    ∀ depth kind rule, rule.All Q → kind.calls rule ≤ depth → P depth kind rule := by
  intro depth
  induction depth with
  | zero =>
    intro kind rule hrule hcalls
    refine scalar 0 kind rule hrule (fun h => ?_) fun h => ?_
    · have := calls_pos (.inl h) rule
      omega
    · have := calls_pos (.inr h) rule
      omega
  | succ depth ih =>
    intro kind rule hrule hcalls
    by_cases hobject : kind = .object
    · subst hobject
      refine object depth rule hrule fun schema hschema name spec hentry kind => ?_
      have hlt := calls_field_lt hschema hentry kind
      exact ih kind _ ((hrule.of_schema hschema).normalize hentry) (by omega)
    by_cases harray : kind = .array
    · subst harray
      refine array depth rule hrule fun itemType kind htype hkind => ?_
      have hlt := calls_item_lt htype hkind
      exact ih kind _ (itemRule_all hrule (hbare itemType)) (by omega)
    · exact scalar (depth + 1) kind rule hrule hobject harray

end Kind

end Checker

/-- A validation is deep enough for the check of every field. -/
theorem Validator.calls_le_depth (validator : Validator) {rules : RuleSet} {name : String}
    {spec : Spec} (hentry : (name, spec) ∈ rules.entries) (kind : Checker.Kind) :
    kind.calls spec.normalize ≤ validator.depth rules := by
  have hcalls := kind.calls_le spec.normalize
  have hheight := RuleSet.height_normalize_le hentry
  have hdepth := two_mul_height_le_depth validator rules
  omega

end Rulebook
