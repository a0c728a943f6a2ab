import Rulebook.Proofs.Rules.Nesting
import Rulebook.Rule.File
/-!
# Rules — what is read is well formed

Rule sets that are read from JSON or TOML are built by insertions at every level, so no rule set in
them gives a name two specs (`RuleSet.wellFormed_ofFile`). What is proved of validation relies on
it.
-/

namespace Rulebook

variable {rule : Rule} {spec : Spec} {rules : RuleSet}

/-- A computation that gets through a step got through the step. -/
theorem exists_of_bind_eq_ok {ε α β : Type} {step : Except ε α} {next : α → Except ε β} {b : β}
    (h : step >>= next = .ok b) : ∃ a, step = .ok a ∧ next a = .ok b := by
  cases step with
  | error e => cases h
  | ok a => exact ⟨a, rfl, h⟩

/-- What is read in spite of a renamed error is read without it. -/
theorem eq_ok_of_mapError {ε ε' α : Type} {x : Except ε α} {f : ε → ε'} {a : α}
    (h : x.mapError f = .ok a) : x = .ok a := by
  cases x with
  | error e => cases h
  | ok b => exact congrArg Except.ok (Except.ok.inj h)

/-- What is read from a record: its attributes, and what is nested in it in one of two places. -/
theorem Spec.exists_of_ofJson_object {path : String} {members : Json.Members}
    (hload : Spec.ofJson path (.object members) = .ok spec) :
    ∃ record format, Record.ofMembers members = .ok record ∧
      if record.describesItems then
        ∃ itemRule, itemRuleOf path members = .ok itemRule ∧
          spec = .record (record.toRule format none itemRule)
      else
        ∃ schema, schemaOf path members = .ok schema ∧
          spec = .record (record.toRule format schema none) := by
  rw [Spec.ofJson] at hload
  obtain ⟨record, hread, hload⟩ := exists_of_bind_eq_ok hload
  obtain ⟨format, -, hload⟩ := exists_of_bind_eq_ok hload
  refine ⟨record, format, eq_ok_of_mapError hread, ?_⟩
  cases hdescribes : record.describesItems with
  | true =>
    rw [hdescribes, if_pos rfl] at hload
    obtain ⟨itemRule, hitem, hload⟩ := exists_of_bind_eq_ok hload
    exact ⟨itemRule, hitem, (Except.ok.inj hload).symm⟩
  | false =>
    rw [hdescribes, if_neg Bool.false_ne_true] at hload
    obtain ⟨schema, hschema, hload⟩ := exists_of_bind_eq_ok hload
    exact ⟨schema, hschema, (Except.ok.inj hload).symm⟩

/-- A marker keeps the names apart. -/
theorem Rule.All.withMarker (h : rule.All Rule.DistinctNames) :
    rule.withMarker.All Rule.DistinctNames := by
  unfold Rule.withMarker
  split
  · exact Rule.all_distinctNames (fun _ => h.wellFormed) fun _ => h.of_itemRule
  · exact h

/-- A shorthand has nothing inside. -/
theorem Spec.all_of_expand (hschema : spec.expand.schema = none)
    (hitem : spec.expand.itemRule = none) : spec.normalize.All Rule.DistinctNames := by
  refine (Rule.all_of_flat (fun schema h => ?_) hschema hitem).withMarker
  rw [hschema] at h
  cases h

/-- **The specs that are read**, and what nested rules they hold, keep the names apart. -/
theorem Spec.all_ofJson :
    (∀ path json spec, Spec.ofJson path json = .ok spec → spec.normalize.All Rule.DistinctNames) ∧
    (∀ path members schema, schemaOf path members = .ok (some schema) → schema.WellFormed) ∧
    (∀ path json rules, RuleSet.nestedOfJson path json = .ok rules → rules.WellFormed) ∧
    (∀ pathOf members specs, specsOf pathOf members = .ok specs →
      ∀ pair ∈ specs, pair.2.normalize.All Rule.DistinctNames) ∧
    ∀ path members item, itemRuleOf path members = .ok (some item) →
      item.All Rule.DistinctNames := by
  apply Spec.ofJson.mutual_induct
  -- specs: the shorthands, then a record with its nested rules, then anything else
  case case1 =>
    intro path text pattern hliteral spec h
    simp only [Spec.ofJson, hliteral] at h
    obtain rfl := Except.ok.inj h
    exact all_of_expand rfl rfl
  case case2 =>
    intro path text invalid hliteral spec h
    simp only [Spec.ofJson, hliteral] at h
    cases h
  case case3 =>
    intro path text hliteral spec h
    simp only [Spec.ofJson, hliteral] at h
    obtain rfl := Except.ok.inj h
    exact all_of_expand rfl rfl
  case case4 =>
    intro path values spec h
    obtain rfl := Except.ok.inj h
    exact all_of_expand rfl rfl
  case case5 =>
    intro path members hitem hschema spec h
    obtain ⟨record, format, -, h⟩ := Spec.exists_of_ofJson_object h
    split at h
    · obtain ⟨item, hread, rfl⟩ := h
      refine (Rule.all_distinctNames (fun _ hnone => ?_) ?_).withMarker
      · cases hnone
      · rintro inner rfl
        exact hitem inner hread
    · obtain ⟨schema, hread, rfl⟩ := h
      refine (Rule.all_distinctNames ?_ fun _ hnone => ?_).withMarker
      · rintro inner rfl
        exact hschema inner hread
      · cases hnone
  case case6 =>
    intro json path hstring harray hobject spec h
    rw [Spec.ofJson] at h
    · obtain rfl := Except.ok.inj h
      exact all_of_expand rfl rfl
    · exact hstring
    · exact harray
    · exact hobject
  -- nested rule sets, which are objects
  case case7 =>
    intro path members hspecs rules h
    rw [RuleSet.nestedOfJson] at h
    obtain ⟨specs, hread, h⟩ := exists_of_bind_eq_ok h
    obtain rfl := Except.ok.inj h
    exact RuleSet.wellFormed_ofList (hspecs specs hread)
  case case8 =>
    intro json path hobject rules h
    rw [RuleSet.nestedOfJson] at h
    · cases h
    · exact hobject
  -- the schema among the members of a record
  case case9 =>
    intro path schema h
    cases h
  case case10 =>
    intro path value rest hnull schema h
    rw [schemaOf, if_pos rfl, if_pos hnull] at h
    cases h
  case case11 =>
    intro path value rest hnull hrules schema h
    rw [schemaOf, if_pos rfl, if_neg hnull] at h
    obtain ⟨rules, hread, h⟩ := exists_of_bind_eq_ok h
    obtain rfl := Option.some.inj (Except.ok.inj h)
    exact hrules rules hread
  case case12 =>
    intro path key value rest hkey hrest schema h
    rw [schemaOf, if_neg hkey] at h
    exact hrest schema h
  -- the specs of a rule set, member by member
  case case13 =>
    intro pathOf specs h pair hpair
    obtain rfl := Except.ok.inj h
    cases hpair
  case case14 =>
    intro pathOf name value rest hspec hrest specs h pair hpair
    rw [specsOf] at h
    obtain ⟨spec, hread, h⟩ := exists_of_bind_eq_ok h
    obtain ⟨others, hothers, h⟩ := exists_of_bind_eq_ok h
    obtain rfl := Except.ok.inj h
    rcases List.mem_cons.1 hpair with rfl | hpair
    · exact hspec spec hread
    · exact hrest others hothers pair hpair
  -- the rule for items among the members of a record
  case case15 =>
    intro path item h
    cases h
  case case16 =>
    intro path value rest hnull item h
    rw [itemRuleOf, if_pos rfl, if_pos hnull] at h
    cases h
  case case17 =>
    intro path value rest hnull hspec item h
    rw [itemRuleOf, if_pos rfl, if_neg hnull] at h
    obtain ⟨spec, hread, h⟩ := exists_of_bind_eq_ok h
    obtain rfl := Option.some.inj (Except.ok.inj h)
    exact hspec spec hread
  case case18 =>
    intro path key value rest hkey hrest item h
    rw [itemRuleOf, if_neg hkey] at h
    exact hrest item h

namespace RuleSet

/-- A rule set that a value writes is well formed. -/
theorem wellFormed_ofJson {json : Json} (h : ofJson json = .ok rules) : rules.WellFormed := by
  unfold ofJson at h
  split at h
  · obtain ⟨specs, hread, h⟩ := exists_of_bind_eq_ok h
    obtain rfl := Except.ok.inj h
    exact wellFormed_ofList (Spec.all_ofJson.2.2.2.1 _ _ specs hread)
  · cases h

/-- **Every rule set that is read from a file is well formed**, whichever language it is written in.
-/
theorem wellFormed_ofFile {path : String} {content : Except ReadError String}
    (h : ofFile path content = .ok rules) : rules.WellFormed := by
  unfold ofFile at h
  split at h
  · cases h
  · split at h
    · unfold ofTomlText at h
      split at h
      · exact wellFormed_ofJson h
      · cases h
    · unfold ofJsonText at h
      split at h
      · exact wellFormed_ofJson h
      · cases h

end RuleSet

end Rulebook
