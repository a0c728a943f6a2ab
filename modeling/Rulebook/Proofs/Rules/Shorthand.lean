import Mathlib.Logic.Relation
import Rulebook.Proofs.Patterns.Spelling
import Rulebook.Proofs.Rules.Documents
import Rulebook.Proofs.Validation.NormalForm
/-!
# Rules — shorthands

A rule may be written as a type name, a list of values or a pattern literal, and each of these is
short for a record (`Longhand`). Both spellings stand for the same rule (`Longhand.agree_ofJson`),
pattern literals that are no regular expressions included. Wherever a rule is read a document may
use either: it is loaded with the same error or to rule sets that validate alike
(`RuleSet.ofJson_of_longhand`). What is loaded is not always the same rule set, since a nested rule
set is normalized only when it is used (`RuleSet.normalized_ne_of_longhand`).
-/

namespace Rulebook

/-- A shorthand and the record that it is short for. -/
inductive Longhand : Json → Json → Prop where
  /-- A type, if its name has not the form of a pattern literal. -/
  | typeName (name : String) : Pattern.ofLiteral? name = none →
      Longhand (.string name) (.object [("type", .string name)])
  /-- A type with the marker of optional fields. -/
  | optional (name : String) : name.toList.getLast? ≠ some '?' →
      Longhand (.string (name ++ "?"))
        (.object [("type", .string name), ("required", .bool false)])
  /-- A list of values. -/
  | oneOf (values : List Json) :
      Longhand (.array values) (.object [("type", .string "enum"), ("values", .array values)])
  /-- A pattern literal, or what has the form of one. -/
  | pattern (literal : String) : (Pattern.ofLiteral? literal).isSome = true →
      Longhand (.string literal)
        (.object [("type", .string "string"), ("format", .string literal)])

/-! ## One rule -/

/-- A text that ends in a question mark has not the form of a pattern literal: after the last slash
of a literal there are flags only. -/
theorem Pattern.ofLiteral?_optional (name : String) : ofLiteral? (name ++ "?") = none := by
  cases hparts : literalParts? (name ++ "?") with
  | none =>
    rw [ofLiteral?, hparts]
    rfl
  | some parts =>
    obtain ⟨hliteral, -, hletters⟩ := literalParts?_eq_some_iff.1 hparts
    have hlast : ('/' :: (parts.1 ++ '/' :: parts.2)).getLast? = some '?' := by
      rw [← hliteral]
      simp [String.toList_append]
    rw [← List.cons_append, List.getLast?_append_of_ne_nil _ (List.cons_ne_nil _ _)] at hlast
    rcases List.mem_cons.1 (List.mem_of_getLast? hlast) with hslash | hletter
    · cases hslash
    · exact absurd (hletters '?' hletter) (by decide)

/-- A type with the marker is the type without it, and optional. -/
theorem optionalType?_append (name : String) : optionalType? (name ++ "?") = some name := by
  simp [optionalType?, String.toList_append]

/-- So it stands for an optional rule of the type without it. -/
theorem Spec.normalize_optional (name : String) :
    (Spec.typeName (name ++ "?")).normalize =
      { typeName := some name, required := some false } := by
  simp [Spec.normalize, Spec.expand, Rule.withMarker, optionalType?_append]

/-- A name that does not end in the marker has none. -/
theorem optionalType?_eq_none {name : String} (h : name.toList.getLast? ≠ some '?') :
    optionalType? name = none := by
  unfold optionalType?
  split
  case h_2 => rfl
  case h_1 rest hrest =>
    rw [← List.head?_reverse, hrest] at h
    exact absurd rfl h

/-- A record without nested rules fails with its format only. -/
theorem Spec.ofJson_of_flat {path : String} {members : Json.Members} {record : Record}
    (hrecord : Record.ofMembers members = .ok record) (hnested : Record.nested? members = none) :
    Spec.ofJson path (.object members) = (record.pattern?.mapError .invalidPattern).map
      fun format => .record (record.toRule format none none) := by
  have hread : (Except.ok record).mapError (ConfigError.badRecord path) = pure record := rfl
  rw [Spec.ofJson, itemRuleOf_eq, schemaOf_eq, hnested, hrecord, hread, pure_bind]
  cases record.pattern? with
  | error invalid => rfl
  | ok format => cases record.describesItems <;> rfl

/-- A type without a marker is left as it is. -/
theorem Rule.withMarker_eq_self {rule : Rule} (h : rule.typeName.bind optionalType? = none) :
    rule.withMarker = rule := by
  rw [Rule.withMarker, h]

/-- **A shorthand and its record are read as specs of the same rule**, or fail with the same error.
-/
theorem Longhand.agree_ofJson {value other : Json} (h : Longhand value other) (path : String) :
    Agree Eq (fun first second => first.normalize = second.normalize) (Spec.ofJson path value)
      (Spec.ofJson path other) := by
  cases h with
  | typeName name hliteral =>
    rw [Spec.ofJson_of_flat rfl rfl, Spec.ofJson, hliteral]
    exact .ok rfl
  | optional name hlast =>
    rw [Spec.ofJson_of_flat rfl rfl, Spec.ofJson, Pattern.ofLiteral?_optional]
    refine .ok ?_
    rw [Spec.normalize_optional]
    have hnone : (some name).bind optionalType? = none := optionalType?_eq_none hlast
    exact (Rule.withMarker_eq_self hnone).symm
  | oneOf values =>
    rw [Spec.ofJson_of_flat rfl rfl, Spec.ofJson]
    exact .ok rfl
  | pattern literal hliteral =>
    obtain ⟨result, hresult⟩ := Option.isSome_iff_exists.1 hliteral
    have hformat : Pattern.ofFormat literal = result := by
      rw [Pattern.ofFormat, hresult, Option.getD_some]
    rw [Spec.ofJson_of_flat rfl rfl, Spec.ofJson, hresult, Record.pattern?]
    dsimp only
    rw [hformat]
    cases result with
    | error invalid => exact .error rfl
    | ok pattern => exact .ok rfl

/-- Shorthands and their records are rules. -/
theorem Longhand.isNull_eq_false {value other : Json} (h : Longhand value other) :
    value.isNull = false ∧ other.isNull = false := by
  cases h <;> exact ⟨rfl, rfl⟩

/-! ## Documents -/

/-- Likeness of rules outside nested rule sets: they are the same once they are normalized. -/
def Likeness.normalized : Likeness false where
  error := Eq
  spec first second := first.normalize = second.normalize
  ruleSet rules others := rules.normalized = others.normalized
  error_refl _ := rfl
  spec_refl _ := rfl
  item _ _ _ _ h := by rw [h]
  schema h := nomatch h
  field before after name first second h := by
    rw [RuleSet.normalized, RuleSet.normalized, RuleSet.map_ofList, RuleSet.map_ofList]
    simp [h]

/-- A marker is taken off alike. -/
theorem Spec.normalForm_record {rule other : Rule} (h : rule.normalForm = other.normalForm) :
    (Spec.record rule).normalize.normalForm = (Spec.record other).normalize.normalForm := by
  have hnormalize (rule : Rule) : (Spec.record rule).normalize = rule.withMarker := rfl
  rw [hnormalize, hnormalize, Rule.normalForm_withMarker, Rule.normalForm_withMarker, h]

/-- Likeness of rules anywhere: they have one normal form. -/
def Likeness.normalForm : Likeness true where
  error := Eq
  spec first second := first.normalize.normalForm = second.normalize.normalForm
  ruleSet rules others := rules.normalForm = others.normalForm
  error_refl _ := rfl
  spec_refl _ := rfl
  item _ _ _ _ h :=
    Spec.normalForm_record (Rule.normalForm_eq_iff.2 ⟨_, _, rfl, rfl, congrArg some h⟩)
  schema _ _ _ _ _ h :=
    Spec.normalForm_record (Rule.normalForm_eq_iff.2 ⟨_, _, rfl, congrArg some h, rfl⟩)
  field before after name first second h := by
    have hspec : first.normalForm = second.normalForm := by
      rw [Spec.normalForm_eq, Spec.normalForm_eq, h]
    rw [RuleSet.normalForm_eq, RuleSet.normalForm_eq, RuleSet.map_ofList, RuleSet.map_ofList]
    simp [hspec]

/-- What agrees up to a form of the rule sets is the same once that is taken. -/
theorem Agree.map_eq {ε α β : Type} {f : α → β} {x y : Except ε α}
    (h : Agree Eq (fun a b => f a = f b) x y) : x.map f = y.map f := by
  cases h with
  | ok hab => exact congrArg Except.ok hab
  | error hef => exact congrArg Except.error hef

/-- Outside nested rule sets an edit leaves the normalized rules alone. -/
theorem RuleSet.map_normalized_of_edited {document other : Json}
    (h : Edited false Longhand .ruleSet document other) :
    (RuleSet.ofJson document).map RuleSet.normalized =
      (RuleSet.ofJson other).map RuleSet.normalized :=
  (Likeness.normalized.reads_of_edited (fun _ _ h => h.agree_ofJson)
    (fun _ _ h => h.isNull_eq_false) h).1.2.map_eq

/-- Anywhere it leaves the normal form alone. -/
theorem RuleSet.map_normalForm_of_edited {document other : Json}
    (h : Edited true Longhand .ruleSet document other) :
    (RuleSet.ofJson document).map RuleSet.normalForm =
      (RuleSet.ofJson other).map RuleSet.normalForm := by
  have hedit : ∀ value other, Longhand value other →
      Likeness.normalForm.Reads .spec value other := fun _ _ h path =>
    (h.agree_ofJson path).mono fun _ _ hsame => congrArg Rule.normalForm hsame
  exact (Likeness.normalForm.reads_of_edited hedit (fun _ _ h => h.isNull_eq_false) h).1.2.map_eq

/-- What no edit changes is not changed by any number of them. -/
theorem eq_of_eqvGen {α β : Type} {edit : α → α → Prop} {f : α → β}
    (hedit : ∀ a b, edit a b → f a = f b) {a b : α} (h : Relation.EqvGen edit a b) : f a = f b := by
  induction h with
  | rel a b h => exact hedit a b h
  | refl => rfl
  | symm _ _ _ ih => exact ih.symm
  | trans _ _ _ _ _ ih ih' => exact ih.trans ih'

/-- What two rule sets come to if the readings that gave them come to the same. -/
theorem eq_of_map_eq {ε α β : Type} {f : α → β} {x y : Except ε α} (h : x.map f = y.map f) {a b : α}
    (hx : x = .ok a) (hy : y = .ok b) : f a = f b := by
  rw [hx, hy] at h
  exact Except.ok.inj h

/-- **Every shorthand means its record.** Any number of shorthands may be replaced by their records,
or records by shorthands, wherever a rule is read. Both documents are refused with one error, or
both are loaded. Outside nested rule sets the rules are the same once they are normalized, and no
validator tells them apart; inside they are if what is nested is normalized too, and then no
validator does whose checkers leave nested rules to the validation. -/
theorem RuleSet.ofJson_of_longhand (document other : Json) :
    (Relation.EqvGen (Edited false Longhand .ruleSet) document other →
      (RuleSet.ofJson document).map RuleSet.normalized =
          (RuleSet.ofJson other).map RuleSet.normalized ∧
        ∀ (validator : Validator) (rules others : RuleSet), RuleSet.ofJson document = .ok rules →
          RuleSet.ofJson other = .ok others → ∀ target,
            validator.validate rules target = validator.validate others target) ∧
    (Relation.EqvGen (Edited true Longhand .ruleSet) document other →
      (RuleSet.ofJson document).map RuleSet.normalForm =
          (RuleSet.ofJson other).map RuleSet.normalForm ∧
        ∀ validator : Validator, validator.registry.Indifferent → ∀ rules others : RuleSet,
          RuleSet.ofJson document = .ok rules → RuleSet.ofJson other = .ok others → ∀ target,
            validator.validate rules target = validator.validate others target) := by
  constructor
  · intro h
    have hsame := eq_of_eqvGen (fun _ _ hedit => RuleSet.map_normalized_of_edited hedit) h
    exact ⟨hsame, fun validator rules others hrules hothers =>
      validator.validate_eq_of_normalized (eq_of_map_eq hsame hrules hothers)⟩
  · intro h
    have hsame := eq_of_eqvGen (fun _ _ hedit => RuleSet.map_normalForm_of_edited hedit) h
    exact ⟨hsame, fun validator hreg rules others hrules hothers =>
      validator.validate_eq_of_normalForm hreg (eq_of_map_eq hsame hrules hothers)⟩

/-- The rules of a crate, with a rule for what is in it. -/
def crate (content : Json) : Json :=
  .object [("crate", .object [("type", .string "object"),
    ("rule", .object [("content", content)])])]

/-- The content may be described either way. -/
theorem edited_crate : Edited true Longhand .ruleSet (crate (.string "string"))
    (crate (.object [("type", .string "string")])) := by
  refine .field [] [] "crate" (.schema [("type", .string "object")] [] rfl
    (fun record hrecord => ?_) (.field [] [] "content" (.here (.typeName "string" (by decide)))))
  obtain rfl := Except.ok.inj hrecord
  decide

/-- **A label and a crate, both described in two ways**: the label is no nested rule, the content of
the crate is one. It is reached in a crate whose content is no text, which both rule sets report. -/
theorem RuleSet.ofJson_of_longhand_crate :
    (RuleSet.ofJson (.object [("label", .string "string?")])).map RuleSet.normalized =
      (RuleSet.ofJson (.object [("label", .object [("type", .string "string"),
        ("required", .bool false)])])).map RuleSet.normalized ∧
    let target := Json.object [("crate", .object [("content", .bool true)])]
    ∃ rules others, RuleSet.ofJson (crate (.string "string")) = .ok rules ∧
      RuleSet.ofJson (crate (.object [("type", .string "string")])) = .ok others ∧
      rules.normalForm = others.normalForm ∧
      ({} : Validator).validate rules target = ({} : Validator).validate others target ∧
      (({} : Validator).validate rules target).result =
        .ok [⟨"should be a string", some "crate.content", .invalid⟩] := by
  have hlabel : Edited false Longhand .ruleSet (.object [("label", .string "string?")])
      (.object [("label", .object [("type", .string "string"), ("required", .bool false)])]) :=
    .field [] [] "label" (.here (.optional "string" (by decide)))
  obtain ⟨hforms, hvalidate⟩ :=
    (RuleSet.ofJson_of_longhand _ _).2 (.rel _ _ edited_crate)
  exact ⟨((RuleSet.ofJson_of_longhand _ _).1 (.rel _ _ hlabel)).1, _, _, rfl, rfl,
    eq_of_map_eq hforms rfl rfl,
    hvalidate _ Registry.standard_builtin.indifferent _ _ rfl rfl _, rfl⟩

/-- Whether the first rule of a schema is given by its type alone. -/
def Rule.startsShort (rule : Rule) : Bool :=
  match rule.schema with
  | some ⟨(_, .typeName _) :: _⟩ => true
  | _ => false

/-- A validator with a checker for objects that looks at how their schema is spelled. -/
def nosyValidator : Validator where
  registry := ⟨[("object", .custom fun _ rule value =>
    ⟨.ok (if rule.startsShort then .valid else .invalid "long"), rule, value⟩)], []⟩

/-- **A nested rule set is loaded as it is spelled.** The rules around it are normalized, and still
they are not the same, which a checker of the caller can see. -/
theorem RuleSet.normalized_ne_of_longhand :
    Edited true Longhand .ruleSet (crate (.string "string"))
      (crate (.object [("type", .string "string")])) ∧
    ∃ rules others, RuleSet.ofJson (crate (.string "string")) = .ok rules ∧
      RuleSet.ofJson (crate (.object [("type", .string "string")])) = .ok others ∧
      rules.normalized ≠ others.normalized ∧
      (nosyValidator.validate rules (.object [("crate", .object [])])).result = .ok [] ∧
      (nosyValidator.validate others (.object [("crate", .object [])])).result =
        .ok [⟨"long", some "crate", .invalid⟩] := by
  refine ⟨edited_crate, _, _, rfl, rfl, fun hsame => ?_, rfl, rfl⟩
  have hshort := congrArg (·.map fun entry => entry.2.startsShort) hsame
  exact absurd hshort (by decide)

end Rulebook
