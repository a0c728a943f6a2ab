import Rulebook.Rule.WellFormed
/-!
# Rules — nesting

What holds of all rules in a rule set passes to the rule of a field, to a schema and to a rule for
items, so a descent into the rules can take it along. Inserting keeps a rule set well formed
(`RuleSet.WellFormed.insert`). The heights bound every descent.
-/

namespace Rulebook

variable {rule item : Rule} {schema rules : RuleSet} {name : String} {spec : Spec}

/-! ## What is within what -/

theorem Rule.inside_eq (rule : Rule) :
    rule.inside = schemaInside rule.schema ++ itemRuleInside rule.itemRule := by
  cases rule
  rfl

/-- A marker changes nothing inside a rule. -/
theorem Spec.inside_normalize (spec : Spec) : spec.normalize.inside = spec.inside := by
  have hmarker : ∀ rule : Rule, rule.withMarker.inside = rule.inside := by
    intro rule
    unfold Rule.withMarker
    split
    · rw [Rule.inside_eq, Rule.inside_eq rule]
    · rfl
  cases spec <;> exact hmarker _

/-- The rules of a rule set are those of its entries with what is inside them. -/
theorem RuleSet.mem_within {r : Rule} : r ∈ rules.within ↔
    ∃ entry ∈ rules.entries, r = entry.2.normalize ∨ r ∈ entry.2.normalize.inside := by
  obtain ⟨entries⟩ := rules
  rw [RuleSet.within]
  induction entries with
  | nil => simp [entriesWithin]
  | cons entry rest ih =>
    obtain ⟨name, spec⟩ := entry
    simp only [entriesWithin, List.mem_cons, List.mem_append, ih, exists_eq_or_imp,
      Spec.inside_normalize, or_assoc]

/-! ## Rules of which everything inside has a property -/

variable {P : Rule → Prop}

theorem Rule.All.self (h : rule.All P) : P rule := h rule (by simp)

/-- The property passes to the rule of a field. -/
theorem RuleSet.All.normalize (h : rules.All P) (hentry : (name, spec) ∈ rules.entries) :
    spec.normalize.All P := by
  intro r hr
  refine h r (RuleSet.mem_within.2 ⟨(name, spec), hentry, ?_⟩)
  simpa using hr

/-- The property passes to the schema of a rule. -/
theorem Rule.All.of_schema (h : rule.All P) (hschema : rule.schema = some schema) :
    schema.All P := by
  intro r hr
  refine h r (List.mem_cons_of_mem _ ?_)
  rw [Rule.inside_eq, hschema]
  exact List.mem_append_left _ hr

/-- The property passes to the rule for the items of an array. -/
theorem Rule.All.of_itemRule (h : rule.All P) (hitem : rule.itemRule = some item) :
    item.All P := by
  intro r hr
  refine h r (List.mem_cons_of_mem _ ?_)
  rw [Rule.inside_eq, hitem]
  exact List.mem_append_right _ hr

/-- A rule with nothing inside. -/
theorem Rule.all_of_flat (h : P rule) (hschema : rule.schema = none)
    (hitem : rule.itemRule = none) : rule.All P := by
  intro r hr
  rw [Rule.inside_eq, hschema, hitem] at hr
  rcases List.mem_cons.1 hr with rfl | hr
  · exact h
  · cases hr

/-- The rule that a type alone stands for says nothing else. -/
theorem Spec.normalize_typeName (name : String) : ∃ typeName required,
    (Spec.typeName name).normalize = { typeName := typeName, required := required } := by
  unfold Spec.normalize Spec.expand Rule.withMarker
  split
  · exact ⟨_, _, rfl⟩
  · exact ⟨_, _, rfl⟩

/-- So it has every property of the rules that say nothing else. -/
theorem Spec.of_normalize_typeName (h : ∀ typeName required,
    P { typeName := typeName, required := required }) (name : String) :
    P (Spec.typeName name).normalize := by
  obtain ⟨typeName, required, hflat⟩ := Spec.normalize_typeName name
  rw [hflat]
  exact h typeName required

/-! ## Distinct names -/

/-- The schema of a rule in a well-formed rule set. -/
theorem Rule.All.wellFormed (h : rule.All Rule.DistinctNames)
    (hschema : rule.schema = some schema) : schema.WellFormed :=
  ⟨h.self schema hschema, h.of_schema hschema⟩

/-- What a rule holds decides about everything inside it. -/
theorem Rule.all_distinctNames (hschema : ∀ schema, rule.schema = some schema → schema.WellFormed)
    (hitem : ∀ item, rule.itemRule = some item → item.All Rule.DistinctNames) :
    rule.All Rule.DistinctNames := by
  intro r hr
  rw [Rule.inside_eq] at hr
  rcases List.mem_cons.1 hr with rfl | hr
  · exact fun schema h => (hschema schema h).names_nodup
  rcases List.mem_append.1 hr with hr | hr
  · cases h : rule.schema with
    | none => simp [h, schemaInside] at hr
    | some schema =>
      rw [h] at hr
      exact (hschema schema h).all_distinctNames r hr
  · cases h : rule.itemRule with
    | none => simp [h, itemRuleInside] at hr
    | some item =>
      rw [h] at hr
      exact hitem item h r hr

theorem RuleSet.wellFormed_empty : RuleSet.empty.WellFormed :=
  ⟨List.nodup_nil, fun _ hr => absurd hr (by simp [RuleSet.empty, RuleSet.within, entriesWithin])⟩

/-- **Inserting keeps a rule set well formed**, so every rule set that is built by insertions is. -/
theorem RuleSet.WellFormed.insert (h : rules.WellFormed)
    (hspec : spec.normalize.All Rule.DistinctNames) : (rules.insert name spec).WellFormed := by
  constructor
  · exact Entries.nodup_names_put name spec h.names_nodup
  · intro r hr
    obtain ⟨⟨field, other⟩, hentry, hr⟩ := RuleSet.mem_within.1 hr
    have hall : other.normalize.All Rule.DistinctNames := by
      rcases Entries.mem_put hentry with hentry | hentry
      · exact h.all_distinctNames.normalize hentry
      · cases hentry
        exact hspec
    exact hall r (by simpa using hr)

/-- The rule set of a list of specs is well formed, whatever names are repeated. -/
theorem RuleSet.wellFormed_ofList {pairs : List (String × Spec)}
    (h : ∀ pair ∈ pairs, pair.2.normalize.All Rule.DistinctNames) :
    (RuleSet.ofList pairs).WellFormed := by
  have hfold : ∀ start : RuleSet, start.WellFormed →
      (pairs.foldl (fun rules pair => rules.insert pair.1 pair.2) start).WellFormed := by
    induction pairs with
    | nil => exact fun _ hstart => hstart
    | cons pair rest ih =>
      intro start hstart
      exact ih (fun other hmem => h other (by simp [hmem])) _ (hstart.insert (h pair (by simp)))
  exact hfold RuleSet.empty RuleSet.wellFormed_empty

/-! ## The same inside -/

/-- Two rules that say the same about the inside of a value. -/
structure Rule.SameInside (rule other : Rule) : Prop where
  schema_eq : rule.schema = other.schema
  itemRule_eq : rule.itemRule = other.itemRule
  itemType_eq : rule.itemType = other.itemType

theorem Rule.SameInside.refl (rule : Rule) : rule.SameInside rule := ⟨rfl, rfl, rfl⟩

theorem Rule.SameInside.trans {first second third : Rule} (h₁ : first.SameInside second)
    (h₂ : second.SameInside third) : first.SameInside third :=
  ⟨h₁.schema_eq.trans h₂.schema_eq, h₁.itemRule_eq.trans h₂.itemRule_eq,
    h₁.itemType_eq.trans h₂.itemType_eq⟩

/-! ## Heights -/

theorem Rule.height_eq (rule : Rule) : rule.height =
    Max.max (heightOfSchema rule.schema) (heightOfItemRule rule.itemRule) + 1 := by
  cases rule
  rfl

theorem Rule.height_pos (rule : Rule) : 0 < rule.height := by
  rw [Rule.height_eq]
  omega

/-- A schema is lower than its rule. -/
theorem Rule.height_schema_lt (h : rule.schema = some schema) : schema.height < rule.height := by
  rw [Rule.height_eq rule, h, heightOfSchema]
  omega

/-- A rule for items is lower than the rule of the array. -/
theorem Rule.height_itemRule_lt (h : rule.itemRule = some item) : item.height < rule.height := by
  rw [Rule.height_eq rule, h, heightOfItemRule]
  omega

/-- The height of a rule depends only on what is inside it. -/
theorem Rule.height_congr {other : Rule} (hschema : other.schema = rule.schema)
    (hitem : other.itemRule = rule.itemRule) : other.height = rule.height := by
  rw [Rule.height_eq, Rule.height_eq rule, hschema, hitem]

/-- A marker does not change the height of a rule. -/
theorem Spec.height_normalize (spec : Spec) : spec.normalize.height = spec.height := by
  have hmarker : ∀ rule : Rule, rule.withMarker.height = rule.height := by
    intro rule
    unfold Rule.withMarker
    split
    · exact Rule.height_congr rfl rfl
    · rfl
  cases spec <;> exact hmarker _

/-- The rule of a field is no higher than the rule set. -/
theorem RuleSet.height_normalize_le (h : (name, spec) ∈ rules.entries) :
    spec.normalize.height ≤ rules.height := by
  obtain ⟨entries⟩ := rules
  rw [Spec.height_normalize, RuleSet.height]
  induction entries with
  | nil => simp at h
  | cons entry rest ih =>
    obtain ⟨other, first⟩ := entry
    rw [heightOfEntries]
    rcases List.mem_cons.1 h with h | h
    · cases h
      omega
    · have := ih h
      omega

/-- Entries are as high as the higher one of two parts. -/
theorem heightOfEntries_append (first second : List (String × Spec)) :
    heightOfEntries (first ++ second) = max (heightOfEntries first) (heightOfEntries second) := by
  induction first with
  | nil => simp [heightOfEntries]
  | cons entry rest ih => rw [List.cons_append, heightOfEntries, heightOfEntries, ih, Nat.max_assoc]

end Rulebook
