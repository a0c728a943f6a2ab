import Rulebook.Rule.Basic

/-!
# Rules inside rules

Rules hold rules: the schema of an object is a rule set, and the items of an array may have a rule
of their own. `RuleSet.within` lists every rule of a rule set at any depth, as it is applied, so
that "at any depth" is a statement about a list. `RuleSet.WellFormed` is the one condition that the
type of rule sets leaves open, namely that no set gives a name two specs. It can be decided.
-/

namespace Rulebook

mutual

/-- The rules inside a rule, at any depth. -/
def Rule.inside : Rule → List Rule
  | { schema, itemRule, .. } => schemaInside schema ++ itemRuleInside itemRule

/-- The rules of a schema, if there is one. -/
def schemaInside : Option RuleSet → List Rule
  | none => []
  | some rules => rules.within

/-- A rule for items with the rules inside it, if there is one. -/
def itemRuleInside : Option Rule → List Rule
  | none => []
  | some rule => rule :: rule.inside

/-- The rules inside the rule of a spec. -/
def Spec.inside : Spec → List Rule
  | .record rule => rule.inside
  | _ => []

/-- The rules of a rule set, at any depth. -/
def RuleSet.within : RuleSet → List Rule
  | ⟨entries⟩ => entriesWithin entries

/-- The rules of some specs, at any depth. -/
def entriesWithin : List (String × Spec) → List Rule
  | [] => []
  | (_, spec) :: rest => spec.normalize :: (spec.inside ++ entriesWithin rest)

end

variable {P : Rule → Prop}

/-- A rule has a property, and so has every rule inside it. -/
def Rule.All (P : Rule → Prop) (rule : Rule) : Prop :=
  ∀ r ∈ rule :: rule.inside, P r

/-- All rules of a rule set have a property, at any depth. -/
def RuleSet.All (P : Rule → Prop) (rules : RuleSet) : Prop :=
  ∀ r ∈ rules.within, P r

instance [DecidablePred P] (rules : RuleSet) : Decidable (rules.All P) :=
  inferInstanceAs (Decidable (∀ r ∈ rules.within, P r))

/-! ## Distinct names -/

/-- The schema of a rule gives no name two specs. -/
def Rule.DistinctNames (rule : Rule) : Prop :=
  ∀ schema, rule.schema = some schema → schema.names.Nodup

/-- No rule set gives a name two specs, at any depth. -/
structure RuleSet.WellFormed (rules : RuleSet) : Prop where
  /-- The names of the rule set itself. -/
  names_nodup : rules.names.Nodup
  /-- The names of the schemas. -/
  all_distinctNames : rules.All Rule.DistinctNames

instance (rule : Rule) : Decidable rule.DistinctNames :=
  match h : rule.schema with
  | none => isTrue fun _ hschema => nomatch h.symm.trans hschema
  | some schema => decidable_of_iff schema.names.Nodup
      ⟨fun hnames _ hschema => Option.some.inj (h.symm.trans hschema) ▸ hnames,
        fun hnames => hnames schema h⟩

instance (rules : RuleSet) : Decidable rules.WellFormed :=
  decidable_of_iff (rules.names.Nodup ∧ rules.All Rule.DistinctNames)
    ⟨fun h => ⟨h.1, h.2⟩, fun h => ⟨h.names_nodup, h.all_distinctNames⟩⟩

end Rulebook
