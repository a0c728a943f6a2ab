import Rulebook.Proofs.Rules.Nesting
/-!
# Rules — normal forms

`Spec.normalize` takes the marker off a rule and leaves the rules inside it as they are written;
their turn comes when the validation gets there. The normal form of a rule is the rule with
everything inside normalized too. It is there to compare rules by: two rules of one normal form
differ only in how the fields of the schemas in them are spelled (`Rule.normalForm_eq_iff`).
-/

namespace Rulebook

mutual

/-- A rule with the specs in it normalized, at any depth. -/
def Rule.normalForm : Rule → Rule
  | rule@{ schema, itemRule, .. } =>
    { rule with schema := schemaNormalForm schema, itemRule := itemRuleNormalForm itemRule }

/-- A schema, if there is one, with its specs normalized. -/
def schemaNormalForm : Option RuleSet → Option RuleSet
  | none => none
  | some rules => some rules.normalForm

/-- A rule for items, if there is one, with the specs in it normalized. -/
def itemRuleNormalForm : Option Rule → Option Rule
  | none => none
  | some rule => some rule.normalForm

/-- A spec normalized, and what is in it too. -/
def Spec.normalForm : Spec → Spec
  | .record rule => .record rule.normalForm.withMarker
  | .typeName name => .record (Spec.typeName name).normalize
  | .oneOf values => .record (Spec.oneOf values).normalize
  | .pattern format => .record (Spec.pattern format).normalize

/-- A rule set with its specs normalized, at any depth. -/
def RuleSet.normalForm : RuleSet → RuleSet
  | ⟨entries⟩ => ⟨entriesNormalForm entries⟩

/-- Specs normalized, at any depth. -/
def entriesNormalForm : List (String × Spec) → List (String × Spec)
  | [] => []
  | (name, spec) :: rest => (name, spec.normalForm) :: entriesNormalForm rest

end

variable {rule other : Rule} {spec : Spec} {rules others : RuleSet}

/-! ## What a normal form keeps -/

theorem schemaNormalForm_eq (schema : Option RuleSet) :
    schemaNormalForm schema = schema.map RuleSet.normalForm := by
  cases schema <;> rfl

theorem itemRuleNormalForm_eq (itemRule : Option Rule) :
    itemRuleNormalForm itemRule = itemRule.map Rule.normalForm := by
  cases itemRule <;> rfl

theorem Rule.normalForm_eq (rule : Rule) : rule.normalForm =
    { rule with
      schema := rule.schema.map RuleSet.normalForm
      itemRule := rule.itemRule.map Rule.normalForm } := by
  cases rule
  rw [Rule.normalForm, schemaNormalForm_eq, itemRuleNormalForm_eq]

/-- A rule with other rules inside. -/
def Rule.withInside (rule : Rule) (schema : Option RuleSet) (itemRule : Option Rule) : Rule :=
  { rule with schema, itemRule }

/-- A marker is taken off whatever is inside the rule. -/
theorem Rule.withMarker_withInside (rule : Rule) (schema : Option RuleSet)
    (itemRule : Option Rule) :
    (rule.withInside schema itemRule).withMarker = rule.withMarker.withInside schema itemRule := by
  unfold Rule.withMarker Rule.withInside
  dsimp only
  split <;> rfl

/-- A marker has nothing inside it. -/
theorem Rule.inside_withMarker (rule : Rule) :
    rule.withMarker.schema = rule.schema ∧ rule.withMarker.itemRule = rule.itemRule := by
  unfold Rule.withMarker
  split <;> exact ⟨rfl, rfl⟩

theorem Rule.normalForm_withMarker (rule : Rule) :
    rule.withMarker.normalForm = rule.normalForm.withMarker := by
  obtain ⟨hschema, hitem⟩ := rule.inside_withMarker
  rw [Rule.normalForm_eq, hschema, hitem, Rule.normalForm_eq rule]
  exact (Rule.withMarker_withInside rule _ _).symm

/-- A rule with nothing inside is its own normal form. -/
theorem Rule.normalForm_of_flat (hschema : rule.schema = none) (hitem : rule.itemRule = none) :
    rule.normalForm = rule := by
  rw [Rule.normalForm_eq, hschema, hitem]
  cases rule
  cases hschema
  cases hitem
  rfl

/-- **The normal form of a spec is that of the rule it stands for.** -/
theorem Spec.normalForm_eq (spec : Spec) : spec.normalForm = .record spec.normalize.normalForm := by
  have hflat : ∀ {spec : Spec}, spec.expand.schema = none → spec.expand.itemRule = none →
      Spec.record spec.normalize = .record spec.normalize.normalForm := by
    intro spec hschema hitem
    obtain ⟨hnoSchema, hnoItem⟩ := spec.expand.inside_withMarker
    have hsame : spec.normalize.normalForm = spec.normalize :=
      Rule.normalForm_of_flat (hnoSchema.trans hschema) (hnoItem.trans hitem)
    rw [hsame]
  cases spec with
  | record rule =>
    rw [Spec.normalForm, ← Rule.normalForm_withMarker]
    rfl
  | typeName name => exact hflat rfl rfl
  | oneOf values => exact hflat rfl rfl
  | pattern format => exact hflat rfl rfl

theorem entriesNormalForm_eq (entries : List (String × Spec)) :
    entriesNormalForm entries = entries.map fun entry => (entry.1, entry.2.normalForm) := by
  induction entries with
  | nil => rfl
  | cons entry rest ih => rw [entriesNormalForm, ih, List.map_cons]

theorem RuleSet.normalForm_eq (rules : RuleSet) : rules.normalForm =
    ⟨rules.entries.map fun entry => (entry.1, entry.2.normalForm)⟩ := by
  cases rules
  rw [RuleSet.normalForm, entriesNormalForm_eq]

/-! ## Rules of one normal form -/

theorem Rule.normalForm_withInside (rule : Rule) (schema : Option RuleSet)
    (itemRule : Option Rule) : (rule.withInside schema itemRule).normalForm =
      rule.withInside (schema.map RuleSet.normalForm) (itemRule.map Rule.normalForm) := by
  rw [Rule.normalForm_eq]
  rfl

/-- **Rules of one normal form are the same but for the spelling of what is inside them.** -/
theorem Rule.normalForm_eq_iff : rule.normalForm = other.normalForm ↔
    ∃ schema itemRule, other = rule.withInside schema itemRule ∧
      rule.schema.map RuleSet.normalForm = schema.map RuleSet.normalForm ∧
      rule.itemRule.map Rule.normalForm = itemRule.map Rule.normalForm := by
  constructor
  · intro h
    rw [Rule.normalForm_eq rule, Rule.normalForm_eq other] at h
    -- what the normal forms share is all of both rules but what is inside
    have hother : rule.withInside other.schema other.itemRule =
        other.withInside other.schema other.itemRule :=
      congrArg (·.withInside other.schema other.itemRule) h
    refine ⟨other.schema, other.itemRule, ?_, congrArg Rule.schema h, congrArg Rule.itemRule h⟩
    rw [hother]
    cases other
    rfl
  · rintro ⟨schema, itemRule, rfl, hschema, hitem⟩
    rw [Rule.normalForm_withInside, Rule.normalForm_eq, hschema, hitem]
    rfl

/-- Rule sets of one normal form have the same fields, with rules of one normal form. -/
theorem RuleSet.normalForm_eq_iff : rules.normalForm = others.normalForm ↔
    rules.entries.map (fun entry => (entry.1, entry.2.normalize.normalForm)) =
      others.entries.map fun entry => (entry.1, entry.2.normalize.normalForm) := by
  have hentries (rules : RuleSet) : rules.entries.map (fun entry => (entry.1, entry.2.normalForm)) =
      (rules.entries.map fun entry => (entry.1, entry.2.normalize.normalForm)).map
        fun entry => (entry.1, Spec.record entry.2) := by
    simp [Spec.normalForm_eq]
  have hinjective :
      Function.Injective fun entry : String × Rule => (entry.1, Spec.record entry.2) := by
    rintro ⟨name, rule⟩ ⟨name', rule'⟩ h
    simpa using h
  rw [RuleSet.normalForm_eq, RuleSet.normalForm_eq, RuleSet.mk.injEq, hentries, hentries]
  exact List.map_inj_right hinjective

/-! ## Rule sets -/

/-- The rules of the fields. -/
def RuleSet.normalized (rules : RuleSet) : List (String × Rule) :=
  rules.entries.map fun entry => (entry.1, entry.2.normalize)

/-- Rule sets with the same rules are of one normal form. -/
theorem RuleSet.normalForm_eq_of_normalized (h : rules.normalized = others.normalized) :
    rules.normalForm = others.normalForm := by
  have hforms (rules : RuleSet) :
      rules.entries.map (fun entry => (entry.1, entry.2.normalize.normalForm)) =
        rules.normalized.map fun entry => (entry.1, entry.2.normalForm) := by
    simp [RuleSet.normalized]
  rw [RuleSet.normalForm_eq_iff, hforms, hforms, h]

/-- What the specs of a list come to, however they are compared, is what they come to in its rule
set. -/
theorem RuleSet.map_ofList {β : Type} (f : Spec → β) (pairs : List (String × Spec)) :
    (RuleSet.ofList pairs).entries.map (fun entry => (entry.1, f entry.2)) =
      Entries.ofPairs (pairs.map fun pair => (pair.1, f pair.2)) := by
  have hentries : ∀ start : RuleSet,
      (pairs.foldl (fun rules pair => rules.insert pair.1 pair.2) start).entries =
        pairs.foldl (fun entries pair => Entries.put entries pair.1 pair.2) start.entries := by
    induction pairs with
    | nil => exact fun _ => rfl
    | cons pair rest ih => exact fun start => ih (start.insert pair.1 pair.2)
  rw [← Entries.map_ofPairs]
  exact congrArg _ (hentries RuleSet.empty)

/-! ## Heights -/

mutual

/-- A normal form is as high as the rule. -/
theorem Rule.height_normalForm : (rule : Rule) → rule.normalForm.height = rule.height
  | { schema, itemRule, .. } => by
    rw [Rule.height_eq, Rule.height_eq, Rule.normalForm]
    dsimp only
    rw [height_schemaNormalForm schema, height_itemRuleNormalForm itemRule]

theorem height_schemaNormalForm : (schema : Option RuleSet) →
    heightOfSchema (schemaNormalForm schema) = heightOfSchema schema
  | none => rfl
  | some rules => rules.height_normalForm

theorem height_itemRuleNormalForm : (itemRule : Option Rule) →
    heightOfItemRule (itemRuleNormalForm itemRule) = heightOfItemRule itemRule
  | none => rfl
  | some rule => rule.height_normalForm

theorem Spec.height_normalForm : (spec : Spec) → spec.normalForm.height = spec.height
  | .record rule => by
    rw [Spec.normalForm, Spec.height]
    exact (Spec.height_normalize (.record rule.normalForm)).trans rule.height_normalForm
  | .typeName name => Spec.height_normalize (.typeName name)
  | .oneOf values => Spec.height_normalize (.oneOf values)
  | .pattern format => Spec.height_normalize (.pattern format)

theorem RuleSet.height_normalForm : (rules : RuleSet) → rules.normalForm.height = rules.height
  | ⟨entries⟩ => height_entriesNormalForm entries

theorem height_entriesNormalForm : (entries : List (String × Spec)) →
    heightOfEntries (entriesNormalForm entries) = heightOfEntries entries
  | [] => rfl
  | (_, spec) :: rest => by
    rw [entriesNormalForm, heightOfEntries, heightOfEntries, spec.height_normalForm,
      height_entriesNormalForm rest]

end

/-- Rule sets of one normal form are nested to one depth. -/
theorem RuleSet.height_eq_of_normalForm (h : rules.normalForm = others.normalForm) :
    rules.height = others.height := by
  rw [← rules.height_normalForm, h, others.height_normalForm]

end Rulebook
