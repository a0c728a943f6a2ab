import Rulebook.Proofs.Validation.Depth
import Rulebook.Proofs.Validation.Frame
/-!
# Validation — what is reported, and where

The errors of a validation are those of a traversal of the data, in its order and with its places.
The traversal (`Findings.fields`, `Findings.slot`, `Findings.value`) goes through the fields in the
order of the rules and through items in the order of the array. It reports a field that is required
and absent, and a value that its own checker refuses, and it looks inside every other value. Its
locations are lists of steps, from which the paths of errors are rendered (`Step.path`).

A context is reporting if its answers are those of the traversal (`Checker.Context.Reporting`). The
verdict of a check in such a context amounts to the findings on its value (`Reports`), and a run
over fields then returns the findings of the fields (`Validator.validateFields_errors`).
-/

namespace Rulebook

/-! ## Locations -/

/-- A step into data: to a field of an object, or to an item of an array. -/
inductive Step where
  | key (name : String)
  | index (place : Nat)

namespace Step

/-- The text of a step. -/
def text : Step → String
  | key name => name
  | index place => Checker.itemPlace place

/-- What stands between two steps: nothing between a field and an item of it, otherwise a point. -/
def separator : Step → Step → String
  | key _, index _ => ""
  | _, _ => "."

/-- The text of a location. -/
def path : List Step → String
  | [] => ""
  | [step] => step.text
  | step :: next :: rest => step.text ++ step.separator next ++ path (next :: rest)

end Step

/-- Something that is wrong with a place of the data. -/
structure Finding where
  /-- The steps from the value around to the place. -/
  location : List Step
  /-- What kind of error it is. -/
  code : ErrorCode
  /-- What is wrong, for people. -/
  message : String

namespace Finding

/-- The error that reports it. -/
def error (finding : Finding) : FieldError :=
  ⟨finding.message, some (Step.path finding.location), finding.code⟩

/-- The finding as seen from one step further out. -/
def under (step : Step) (finding : Finding) : Finding :=
  { finding with location := step :: finding.location }

variable {finding : Finding} {name : String} {place : Nat} {rest : List Step}

/-- A field follows any step after a point. -/
theorem error_under_of_key (h : finding.location = .key name :: rest) (step : Step) :
    (finding.under step).error = finding.error.under (step.text ++ ".") := by
  cases step <;> simp [error, under, FieldError.under, h, Step.path, Step.text, Step.separator]

/-- An item follows the field of its array at once. -/
theorem error_under_key_of_index (h : finding.location = .index place :: rest) (name : String) :
    (finding.under (.key name)).error = finding.error.under name := by
  simp [error, under, FieldError.under, h, Step.path, Step.text, Step.separator]

/-- An item follows another one after a point. -/
theorem error_under_index_of_index (h : finding.location = .index place :: rest) (index : Nat) :
    (finding.under (.index index)).error =
      finding.error.under (Checker.itemPlace index ++ ".") := by
  simp [error, under, FieldError.under, h, Step.path, Step.text, Step.separator]

end Finding

/-! ## The traversal -/

/-- The rule without what it asks of the inside of a value. -/
def Rule.surface (rule : Rule) : Rule :=
  { rule with schema := none, itemType := none }

namespace Checker

/-- A context without anything around, for checks that do not look inside. -/
def Context.blind (say : Formatter) : Context where
  field := ""
  siblings := []
  say := say
  validate := fun _ target => ⟨.ok [], target⟩
  require := fun typeName => .error (.unknownType (some typeName) [])

/-- What the checker of a type has against a value itself. -/
def Kind.refusal? (kind : Kind) (say : Formatter) (rule : Rule) (value : Json) : Option String :=
  match (kind.run (.blind say) rule.surface value).verdict with
  | .ok (.invalid message) => some message
  | _ => none

/-- A measure of what is left below a value of a type. -/
def Kind.weight (kind : Kind) (rule : Rule) : Nat :=
  5 * rule.height + if kind = .array then if rule.itemType.isSome then 2 else 1 else 0

/-- Less is left below an item than below its array. -/
theorem Kind.weight_itemRule_lt {rule : Rule} {kind : Kind} {itemType : String}
    (htype : rule.itemType = some itemType) (hkind : Kind.ofTypeName? itemType = some kind) :
    kind.weight (itemRule rule itemType) < Kind.weight .array rule := by
  have hpos := rule.height_pos
  simp only [Kind.weight, htype, if_true, Option.isSome_some]
  unfold itemRule
  by_cases hobject : itemType = "object"
  · rw [Kind.ofTypeName?_object.2 hobject] at hkind
    cases hkind
    simp [hobject]
  · rw [if_neg hobject]
    cases hitem : rule.itemRule with
    | some inner =>
      have hlt := Rule.height_itemRule_lt hitem
      rw [Option.getD_some]
      split
      · split <;> omega
      · omega
    | none =>
      obtain ⟨typeName, required, hflat⟩ := Spec.normalize_typeName itemType
      have hone : (Spec.typeName itemType).normalize.height = 1 := by
        rw [Spec.height_normalize]
        rfl
      rw [Option.getD_none, hone, hflat]
      split
      · simp only [Option.isSome_none, Bool.false_eq_true, if_false]
        omega
      · omega

end Checker

namespace Findings

mutual

/-- The findings on the fields of an object. -/
def fields (options : Validator.Options) (say : Formatter) (rules : RuleSet)
    (members : Json.Members) : List Finding :=
  rules.entries.attach.flatMap fun ⟨(name, spec), _hentry⟩ =>
    slot options say name spec.normalize
      (Validator.ready options spec.normalize (Entries.value? members name))
termination_by 5 * rules.height + 4
decreasing_by
  have := RuleSet.height_normalize_le _hentry
  omega

/-- The findings on one field. When it counts as absent says `Validator.given?_ready_eq_none_iff`. -/
def slot (options : Validator.Options) (say : Formatter) (name : String) (rule : Rule)
    (given : Option Json) : List Finding :=
  match Validator.given? given, rule.typeName.bind Checker.Kind.ofTypeName? with
  | none, _ =>
    if rule.isRequired then [⟨[.key name], .missingField, say (.required name)⟩] else []
  | some _, none => []
  | some value, some kind => (Findings.value options say kind rule value).map (.under (.key name))
termination_by 5 * rule.height + 3
decreasing_by
  unfold Checker.Kind.weight
  split
  · split <;> omega
  · omega

/-- The findings on a value of a type. -/
def value (options : Validator.Options) (say : Formatter) (kind : Checker.Kind) (rule : Rule)
    (json : Json) : List Finding :=
  match kind.refusal? say rule json, kind, json with
  | some message, _, _ => [⟨[], .invalid, message⟩]
  | none, .object, json =>
    match _hschema : rule.schema with
    | some schema => fields options say schema json.fields
    | none => []
  | none, .array, .array items =>
    match _htype : rule.itemType with
    | some itemType =>
      match _hkind : Checker.Kind.ofTypeName? itemType with
      | some itemKind => items.zipIdx.flatMap fun (item, index) =>
          (Findings.value options say itemKind (Checker.itemRule rule itemType) item).map
            (.under (.index index))
      | none => []
    | none => []
  | none, _, _ => []
termination_by kind.weight rule
decreasing_by
  · have := Rule.height_schema_lt _hschema
    simp only [Checker.Kind.weight]
    omega
  · exact Checker.Kind.weight_itemRule_lt _htype _hkind

end

variable {options : Validator.Options} {say : Formatter} {rules schema : RuleSet} {rule : Rule}
variable {kind : Checker.Kind} {json : Json}

/-- The fields are gone through in the order of the rules. -/
theorem fields_eq (options : Validator.Options) (say : Formatter) (rules : RuleSet)
    (members : Json.Members) :
    fields options say rules members = rules.entries.flatMap fun entry =>
      slot options say entry.1 entry.2.normalize
        (Validator.ready options entry.2.normalize (Entries.value? members entry.1)) := by
  rw [fields.eq_def]
  refine (List.flatMap_subtype fun _ _ => rfl).trans ?_
  rw [List.unattach_attach]

/-- A value that is refused is not looked into. -/
theorem value_of_refusal {message : String} (h : kind.refusal? say rule json = some message) :
    value options say kind rule json = [⟨[], .invalid, message⟩] := by
  rw [value.eq_def, h]

/-- Nothing is found inside a value of another type, nor without a schema or a type of items. -/
theorem value_eq_nil (h : kind.refusal? say rule json = none)
    (hobject : kind = .object → rule.schema = none)
    (harray : kind = .array → rule.itemType = none) :
    value options say kind rule json = [] := by
  rw [value.eq_def, h]
  dsimp only
  split
  · contradiction
  · split
    · rename_i found hfound
      cases (hobject rfl).symm.trans hfound
    · rfl
  · split
    · rename_i found hfound
      cases (harray rfl).symm.trans hfound
    · rfl
  · rfl

/-- An object is looked into by its schema. -/
theorem value_object (h : Checker.Kind.refusal? .object say rule json = none)
    (hschema : rule.schema = some schema) :
    value options say .object rule json = fields options say schema json.fields := by
  rw [value.eq_def, h]
  dsimp only
  split
  · rename_i found hfound
    rw [hschema] at hfound
    cases hfound
    rfl
  · rename_i hnone
    cases hschema.symm.trans hnone

/-- An array is looked into item by item. -/
theorem value_array {items : List Json} {itemType : String} {itemKind : Checker.Kind}
    (h : Checker.Kind.refusal? .array say rule (.array items) = none)
    (htype : rule.itemType = some itemType)
    (hkind : Checker.Kind.ofTypeName? itemType = some itemKind) :
    value options say .array rule (.array items) = items.zipIdx.flatMap fun (item, index) =>
      (value options say itemKind (Checker.itemRule rule itemType) item).map
        (.under (.index index)) := by
  rw [value.eq_def, h]
  dsimp only
  split
  · rename_i found hfound
    obtain rfl := Option.some.inj (htype.symm.trans hfound)
    split
    · rename_i foundKind hfoundKind
      obtain rfl := Option.some.inj (hkind.symm.trans hfoundKind)
      rfl
    · rename_i hnone
      cases hkind.symm.trans hnone
  · rename_i hnone
    cases htype.symm.trans hnone

end Findings

/-! ## What a check says -/

namespace Checker

variable {context : Context} {say : Formatter} {rule : Rule} {value : Json} {kind : Kind}

/-- Whatever is neither an object nor an array is refused as an object. -/
theorem refusal?_object : Kind.refusal? .object say rule value =
    if value.isStructured then none else some (say .notObject) := by
  unfold Kind.refusal? Kind.run
  dsimp only
  cases hvalue : value.isStructured with
  | true =>
    rw [object_of_schema_none hvalue rfl]
    rfl
  | false =>
    rw [object_of_scalar hvalue]
    rfl

/-- An array is refused for its length alone. -/
theorem refusal?_array {items : List Json} : Kind.refusal? .array say rule (.array items) =
    (rule.brokenLength? items.length).map fun broken => say broken.lengthMessage := by
  unfold Kind.refusal? Kind.run
  dsimp only
  have hsurface : rule.surface.brokenLength? items.length = rule.brokenLength? items.length := rfl
  cases hlength : rule.brokenLength? items.length with
  | some broken =>
    rw [array_of_broken (hsurface.trans hlength)]
    rfl
  | none =>
    rw [array_of_itemType_none (hsurface.trans hlength) rfl]
    rfl

/-- A check of a text finds nothing inside it. -/
theorem text_ne_nested (errors : List FieldError) : text say rule value ≠ .nested errors := by
  unfold Checker.text emptyText filledText
  split
  · split
    · split <;> nofun
    · split
      · nofun
      · split
        · split <;> nofun
        · nofun
  · nofun

/-- Nor does any other check of a value that has no inside. -/
theorem Kind.run_ne_nested (hobject : kind ≠ .object) (harray : kind ≠ .array)
    (errors : List FieldError) : (kind.run context rule value).verdict ≠ .ok (.nested errors) := by
  have hnumber : Checker.number context.say rule value ≠ .nested errors := by
    unfold Checker.number Verdict.ofReason
    split
    · split <;> nofun
    · nofun
  intro h
  cases kind with
  | object => exact hobject rfl
  | array => exact harray rfl
  | number => exact hnumber (Except.ok.inj h)
  | integer =>
    have h := Except.ok.inj h
    unfold Checker.integer at h
    split at h
    · split at h
      · exact hnumber h
      · cases h
    · cases h
  | boolean =>
    have h := Except.ok.inj h
    unfold Checker.boolean at h
    split at h <;> cases h
  | enumeration =>
    simp only [Kind.run, Checker.enumeration] at h
    split at h
    · cases h
    · split at h <;> cases h
  | password =>
    have h := Except.ok.inj h
    unfold Checker.password at h
    dsimp only at h
    split at h
    · exact text_ne_nested errors h
    · split at h
      · cases h
      · split at h <;> cases h
  | url =>
    have h := Except.ok.inj h
    unfold Checker.url emptyText at h
    split at h
    · split at h
      · split at h <;> cases h
      · split at h <;> cases h
    · cases h
  | _ => exact text_ne_nested errors (Except.ok.inj h)

/-- **Such a check says what the type has against the value**, wherever it is made, provided that
the rule compares with no field. -/
theorem Kind.verdict_eq_ofReason (hobject : kind ≠ .object) (harray : kind ≠ .array)
    (hcompare : rule.compare = none) {verdict : Verdict}
    (h : (kind.run context rule value).verdict = .ok verdict) :
    verdict = .ofReason (kind.refusal? context.say rule value) := by
  have hsurface : (kind.run (.blind context.say) rule.surface value).verdict = .ok verdict := by
    rw [← h]
    cases kind with
    | object => exact absurd rfl hobject
    | array => exact absurd rfl harray
    | password =>
      simp only [Kind.run, Checker.password, Rule.surface, hcompare]
      rfl
    | enumeration =>
      cases hvalues : rule.values with
      | none => simp [Kind.run, Checker.enumeration, hvalues] at h
      | some values =>
        simp only [Kind.run, Checker.enumeration, Rule.surface, hvalues]
        rfl
    | _ => rfl
  unfold Kind.refusal?
  rw [hsurface]
  cases verdict with
  | valid => rfl
  | invalid message => rfl
  | nested errors => exact absurd h (Kind.run_ne_nested hobject harray errors)

end Checker

/-! ## Verdicts and findings -/

/-- **A verdict amounts to findings**: nothing, a refusal of the value itself, or what is found
inside it, first of all in a field or in an item. -/
inductive Reports : Checker.Kind → Verdict → List Finding → Prop where
  | valid {kind} : Reports kind .valid []
  | invalid {kind message} : Reports kind (.invalid message) [⟨[], .invalid, message⟩]
  | object {findings : List Finding}
    (h : ∀ finding ∈ findings, ∃ name rest, finding.location = .key name :: rest) :
    Reports .object (.nested (findings.map Finding.error)) findings
  | array {findings : List Finding}
    (h : ∀ finding ∈ findings, ∃ place rest, finding.location = .index place :: rest) :
    Reports .array (.nested (findings.map Finding.error)) findings

namespace Reports

variable {kind : Checker.Kind} {verdict : Verdict} {findings : List Finding} {rule : Rule}

/-- The findings on the fields of an object. -/
theorem of_fields
    (h : ∀ finding ∈ findings, ∃ name rest, finding.location = .key name :: rest) :
    Reports .object (if (findings.map Finding.error).isEmpty then .valid
      else .nested (findings.map Finding.error)) findings := by
  cases findings with
  | nil => exact .valid
  | cons first rest => exact .object h

/-- The findings on the items of an array. -/
theorem of_items
    (h : ∀ finding ∈ findings, ∃ place rest, finding.location = .index place :: rest) :
    Reports .array (if (findings.map Finding.error).isEmpty then .valid
      else .nested (findings.map Finding.error)) findings := by
  cases findings with
  | nil => exact .valid
  | cons first rest => exact .array h

/-- The errors that a field gets for a verdict are the findings as seen from the object around. -/
theorem fieldErrors_eq (h : Reports kind verdict findings)
    (hkind : rule.typeName.bind Checker.Kind.ofTypeName? = some kind) (name : String) :
    Validator.fieldErrors name rule verdict =
      (findings.map (.under (.key name))).map Finding.error := by
  obtain ⟨typeName, htype, hkind⟩ := Option.bind_eq_some_iff.1 hkind
  cases h with
  | valid => rfl
  | invalid => rfl
  | object h =>
    -- a rule with this checker has the type that the point depends on
    have hobject := Checker.Kind.ofTypeName?_object.1 hkind
    simp only [Validator.fieldErrors, htype, hobject, if_true, List.map_map]
    refine List.map_congr_left fun finding hmem => ?_
    obtain ⟨key, rest, hlocation⟩ := h finding hmem
    exact (Finding.error_under_of_key hlocation (.key name)).symm
  | array h =>
    have hobject : typeName ≠ "object" := by
      rintro rfl
      cases hkind
    simp only [Validator.fieldErrors, htype, Option.some.injEq, if_neg hobject, List.map_map]
    refine List.map_congr_left fun finding hmem => ?_
    obtain ⟨place, rest, hlocation⟩ := h finding hmem
    exact (Finding.error_under_key_of_index hlocation name).symm

/-- The errors that an item gets for a verdict are the findings as seen from the array around. -/
theorem itemErrors_eq (h : Reports kind verdict findings) (index : Nat) :
    Checker.itemErrors index verdict =
      (findings.map (.under (.index index))).map Finding.error := by
  cases h with
  | valid => rfl
  | invalid => rfl
  | object h =>
    simp only [Checker.itemErrors, List.map_map]
    refine List.map_congr_left fun finding hmem => ?_
    obtain ⟨key, rest, hlocation⟩ := h finding hmem
    exact (Finding.error_under_of_key hlocation (.index index)).symm
  | array h =>
    simp only [Checker.itemErrors, List.map_map]
    refine List.map_congr_left fun finding hmem => ?_
    obtain ⟨place, rest, hlocation⟩ := h finding hmem
    exact (Finding.error_under_index_of_index hlocation index).symm

end Reports

/-- A rule under which a value is checked as it is and by itself: no schema in it gives a name two
specs, it compares with no field, and it asks for no conversion. -/
structure Rule.Plain (rule : Rule) : Prop where
  distinctNames : rule.DistinctNames
  compare_eq : rule.compare = none
  conversion_eq : rule.conversion = none

instance (rule : Rule) : Decidable rule.Plain :=
  decidable_of_iff (rule.DistinctNames ∧ rule.compare = none ∧ rule.conversion = none)
    ⟨fun h => ⟨h.1, h.2.1, h.2.2⟩, fun h => ⟨h.1, h.2, h.3⟩⟩

namespace Checker

variable {options : Validator.Options} {context : Context} {rule : Rule} {value : Json}

/-- **A context is reporting** if its answers are the findings of the traversal, for nested data and
for the items of arrays. -/
structure Context.Reporting (options : Validator.Options) (say : Formatter) (context : Context) :
    Prop where
  /-- The messages are worded alike. -/
  say_eq : context.say = say
  /-- The errors in nested data. -/
  validate : ∀ rules target errors, rules.names.Nodup → rules.All Rule.Plain →
    target.isStructured = true → (context.validate rules target).result = .ok errors →
      errors = (Findings.fields options say rules target.fields).map Finding.error
  /-- The errors in the items of an array. -/
  items : ∀ itemType check, context.require itemType = .ok check →
    ∃ kind, Kind.ofTypeName? itemType = some kind ∧ ∀ siblings rule values errors,
      rule.All Rule.Plain → (Checker.items (check siblings) 0 rule values).result = .ok errors →
        errors = (values.zipIdx.flatMap fun (item, index) =>
          (Findings.value options say kind rule item).map (.under (.index index))).map Finding.error

/-- The findings on fields start with a field. -/
theorem location_of_mem_fields {say : Formatter} {rules : RuleSet} {members : Json.Members}
    {finding : Finding} (h : finding ∈ Findings.fields options say rules members) :
    ∃ name rest, finding.location = .key name :: rest := by
  rw [Findings.fields_eq, List.mem_flatMap] at h
  obtain ⟨entry, -, h⟩ := h
  unfold Findings.slot at h
  split at h
  · split at h
    · rw [List.mem_singleton.1 h]
      exact ⟨_, _, rfl⟩
    · cases h
  · cases h
  · obtain ⟨inner, -, rfl⟩ := List.mem_map.1 h
    exact ⟨_, _, rfl⟩

/-- The verdict on an object amounts to the findings on its fields. -/
theorem object_reports {say : Formatter} (hcontext : context.Reporting options say)
    (hrule : rule.All Rule.Plain) {verdict : Verdict}
    (h : (Checker.object context rule value).verdict = .ok verdict) :
    Reports .object verdict (Findings.value options say .object rule value) := by
  obtain rfl := hcontext.say_eq
  cases hstructured : value.isStructured with
  | false =>
    rw [object_of_scalar hstructured] at h
    cases h
    rw [Findings.value_of_refusal (by rw [refusal?_object, hstructured]; rfl)]
    exact .invalid
  | true =>
    have haccepted : Kind.refusal? .object context.say rule value = none := by
      rw [refusal?_object, hstructured]
      rfl
    cases hschema : rule.schema with
    | none =>
      rw [object_of_schema_none hstructured hschema] at h
      cases h
      rw [Findings.value_eq_nil haccepted (fun _ => hschema) (fun h => absurd h (by decide))]
      exact .valid
    | some schema =>
      rw [object_of_schema hstructured hschema] at h
      obtain ⟨errors, hresult, rfl⟩ := exists_of_verdict h
      rw [Findings.value_object haccepted hschema,
        hcontext.validate schema value errors (hrule.self.distinctNames schema hschema)
          (hrule.of_schema hschema) hstructured hresult]
      exact .of_fields fun finding => location_of_mem_fields

/-- The verdict on an array amounts to the findings on its items. -/
theorem array_reports {say : Formatter} (hcontext : context.Reporting options say)
    (hrule : rule.All Rule.Plain) {verdict : Verdict}
    (h : (Checker.array context rule value).verdict = .ok verdict) :
    Reports .array verdict (Findings.value options say .array rule value) := by
  obtain rfl := hcontext.say_eq
  cases value with
  | array values =>
    cases hlength : rule.brokenLength? values.length with
    | some broken =>
      rw [array_of_broken hlength] at h
      cases h
      rw [Findings.value_of_refusal (by rw [refusal?_array, hlength]; rfl)]
      exact .invalid
    | none =>
      have haccepted : Kind.refusal? .array context.say rule (.array values) = none := by
        rw [refusal?_array, hlength]
        rfl
      cases htype : rule.itemType with
      | none =>
        rw [array_of_itemType_none hlength htype] at h
        cases h
        rw [Findings.value_eq_nil haccepted (fun h => absurd h (by decide)) fun _ => htype]
        exact .valid
      | some itemType =>
        cases hrequire : context.require itemType with
        | error e =>
          rw [array_of_require_error hlength htype hrequire] at h
          cases h
        | ok check =>
          rw [array_of_require hlength htype hrequire] at h
          obtain ⟨errors, hresult, rfl⟩ := exists_of_verdict h
          obtain ⟨kind, hkind, hitems⟩ := hcontext.items itemType check hrequire
          rw [Findings.value_array haccepted htype hkind,
            hitems [] (itemRule rule itemType) values errors ?_ hresult]
          · refine .of_items fun finding hmem => ?_
            obtain ⟨item, -, hmem⟩ := List.mem_flatMap.1 hmem
            obtain ⟨inner, -, rfl⟩ := List.mem_map.1 hmem
            exact ⟨_, _, rfl⟩
          · refine itemRule_all hrule ?_
            exact Spec.of_normalize_typeName
              (fun _ _ => ⟨fun _ h => absurd h (by simp), rfl, rfl⟩) itemType
  | _ =>
    cases h
    rw [Findings.value_of_refusal rfl]
    exact .invalid

/-- **A verdict in a reporting context amounts to the findings on the value.** -/
theorem Kind.run_reports {kind : Kind} {say : Formatter} (hcontext : context.Reporting options say)
    (hrule : rule.All Rule.Plain) {verdict : Verdict}
    (h : (kind.run context rule value).verdict = .ok verdict) :
    Reports kind verdict (Findings.value options say kind rule value) := by
  by_cases hobject : kind = .object
  · subst hobject
    exact object_reports hcontext hrule h
  by_cases harray : kind = .array
  · subst harray
    exact array_reports hcontext hrule h
  · obtain rfl := hcontext.say_eq
    rw [Kind.verdict_eq_ofReason hobject harray hrule.self.compare_eq h]
    cases hrefusal : kind.refusal? context.say rule value with
    | some message =>
      rw [Findings.value_of_refusal hrefusal]
      exact .invalid
    | none =>
      rw [Findings.value_eq_nil hrefusal (absurd · hobject) (absurd · harray)]
      exact .valid

/-- The errors in items that are all checked alike are the findings on the items. -/
theorem items_errors (check : Json → Checked) (rule : Rule) (findings : Json → List Finding)
    (hcheck : ∀ item verdict, (check item).verdict = .ok verdict →
      ∃ kind, Reports kind verdict (findings item)) (values : List Json) :
    ∀ index errors,
      (Checker.items (fun _ => check) index rule values).result = .ok errors →
        errors = ((values.zipIdx index).flatMap fun (item, index) =>
          (findings item).map (.under (.index index))).map Finding.error := by
  induction values generalizing rule with
  | nil => exact fun _ _ h => (Except.ok.inj h).symm
  | cons first rest ih =>
    intro index errors h
    obtain ⟨verdict, others, hverdict, hothers, rfl, -⟩ := items_cons_eq_ok h
    obtain ⟨kind, hreports⟩ := hcheck first verdict hverdict
    rw [List.zipIdx_cons, List.flatMap_cons, List.map_append,
      ← ih _ (index + 1) others hothers, hreports.itemErrors_eq]

end Checker

namespace Validator

variable {validator : Validator} {context : String → Json.Members → Checker.Context}
variable {rule : Rule} {name : String} {siblings : Json.Members} {slot : Option Json}
variable {errors : List FieldError}

/-! ## Runs -/

/-- **The errors of a field are its findings.** -/
theorem validateSlot_errors (hreg : validator.registry = .builtin)
    (hoff : validator.options.convert = false)
    (hcontext : ∀ siblings, (context name siblings).Reporting validator.options validator.say)
    (hrule : rule.All Rule.Plain)
    (h : (validator.validateSlot context rule name siblings slot).result = .ok errors) :
    errors = (Findings.slot validator.options validator.say name rule slot).map Finding.error := by
  unfold Findings.slot
  rcases validateSlot_eq_ok h with ⟨hgiven, hrequired, rfl⟩ | ⟨hgiven, hrequired, rfl, -⟩ |
    ⟨value, checker, verdict, hgiven, hrequire, hverdict, rfl, -⟩
  · simp [hgiven, hrequired, Finding.error, Step.path, Step.text]
  · simp [hgiven, hrequired]
  · obtain ⟨kind, hkind, rfl⟩ := Registry.require_builtin.1 (hreg ▸ hrequire)
    rw [converted_eq_self hoff hrule.self.conversion_eq] at hverdict ⊢
    have hreports := Checker.Kind.run_reports (hcontext _) hrule hverdict
    rw [hgiven, hkind, Checker.run, Checker.Kind.run_rule]
    exact hreports.fieldErrors_eq (by rw [Checker.Kind.typeName_ruleAfter, hkind]) name

/-- **The errors of a run are the findings of the fields**, each of them as it was before the run:
no turn before its own disturbs it, the names of the rules being distinct. -/
theorem validateFields_errors (hreg : validator.registry = .builtin)
    (hoff : validator.options.convert = false)
    (hcontext : ∀ name siblings,
      (context name siblings).Reporting validator.options validator.say)
    (entries : List (String × Spec))
    (hnames : (Entries.names entries).Nodup)
    (hrules : ∀ entry ∈ entries, entry.2.normalize.All Rule.Plain) (fields : Json.Members)
    (errors : List FieldError)
    (h : (validator.validateFields context entries fields).result = .ok errors) :
    errors = (entries.flatMap fun entry =>
      Findings.slot validator.options validator.say entry.1 entry.2.normalize
        (ready validator.options entry.2.normalize (Entries.value? fields entry.1))).map
          Finding.error := by
  induction entries generalizing fields errors with
  | nil => exact (Except.ok.inj h).symm
  | cons entry rest ih =>
    obtain ⟨first, spec⟩ := entry
    obtain ⟨hfirst, hrest⟩ := List.nodup_cons.1 hnames
    have hkept := (validateField_framed validator context first spec fields).kept
    obtain ⟨turn, others, hturn, hothers, rfl, -⟩ := validateFields_cons_eq_ok h
    rw [List.flatMap_cons, List.map_append]
    rw [validateField_eq] at hturn
    congr 1
    · exact validateSlot_errors hreg hoff (hcontext first) (hrules (first, spec) (by simp)) hturn
    · rw [ih hrest (fun entry hentry => hrules entry (by simp [hentry])) _ others hothers]
      congr 1
      rw [List.flatMap_def, List.flatMap_def]
      refine congrArg List.flatten (List.map_congr_left fun entry hentry => ?_)
      rw [hkept entry.1 (by simpa using Entries.fst_ne_of_mem hfirst hentry)]

/-- The errors of a validation are the findings on the fields, of which an array has none. -/
theorem validateIn_errors (hreg : validator.registry = .builtin)
    (hoff : validator.options.convert = false)
    (hcontext : ∀ name siblings,
      (context name siblings).Reporting validator.options validator.say) {rules : RuleSet}
    (hnames : rules.names.Nodup) (hrules : rules.All Rule.Plain) {target : Json}
    (htarget : target.isStructured = true)
    (h : (validator.validateIn context rules target).result = .ok errors) :
    errors = (Findings.fields validator.options validator.say rules target.fields).map
      Finding.error := by
  have hall : ∀ entry ∈ rules.entries, entry.2.normalize.All Rule.Plain :=
    fun entry hentry => hrules.normalize hentry
  rw [Findings.fields_eq]
  cases target with
  | object fields =>
    rw [validateIn_object] at h
    exact validateFields_errors hreg hoff hcontext rules.entries hnames hall fields errors h
  | array items =>
    rw [validateIn_array] at h
    exact validateFields_errors hreg hoff hcontext rules.entries hnames hall [] errors h
  | _ => cases htarget

/-- **The contexts of all depths are reporting.** -/
theorem context_reporting (hreg : validator.registry = .builtin)
    (hoff : validator.options.convert = false) (depth : Nat) :
    ∀ field siblings,
      (validator.context depth field siblings).Reporting validator.options validator.say := by
  induction depth with
  | zero =>
    refine fun field siblings => ⟨rfl, fun rules target errors _ _ _ h => (nomatch h), ?_⟩
    intro itemType check hrequire
    obtain ⟨kind, hkind, hregistered⟩ := exists_kind_of_context_require hreg hrequire
    refine ⟨kind, hkind, fun siblings rule values errors _ h => ?_⟩
    simp only [context, hregistered, Except.map, Except.ok.injEq] at hrequire
    subst hrequire
    -- no further call is allowed: only an array without items gets through
    cases values with
    | nil => exact (Except.ok.inj h).symm
    | cons first rest => simp [Checker.items] at h
  | succ depth ih =>
    refine fun field siblings => ⟨rfl, fun rules target errors hnames hrules htarget h =>
      validateIn_errors hreg hoff ih hnames hrules htarget h, ?_⟩
    intro itemType check hrequire
    obtain ⟨kind, hkind, hregistered⟩ := exists_kind_of_context_require hreg hrequire
    rw [context_require_ok hregistered] at hrequire
    obtain rfl := Except.ok.inj hrequire
    refine ⟨kind, hkind, fun siblings rule values errors hrule h => ?_⟩
    simp only [Checker.run] at h
    rw [Checker.items_builtin] at h
    exact Checker.items_errors _ rule _ (fun item verdict hverdict =>
      ⟨kind, Checker.Kind.run_reports (ih field siblings) hrule hverdict⟩) values 0 errors h

/-- **The errors are exactly the failing places, in order, with faithful paths.** With the built-in
types, without conversions and without comparisons between fields: the errors that a validation of
an object returns are the findings of the traversal, in its order, each with the path of its
location. -/
theorem validate_errors (validator : Validator) (hreg : validator.registry = .builtin)
    (hoff : validator.options.convert = false) (rules : RuleSet) (hnames : rules.names.Nodup)
    (hrules : rules.All Rule.Plain) (fields : Json.Members) (errors : List FieldError)
    (h : (validator.validate rules (.object fields)).result = .ok errors) :
    errors = (Findings.fields validator.options validator.say rules fields).map Finding.error :=
  validateIn_errors hreg hoff (context_reporting hreg hoff (validator.depth rules)) hnames hrules
    rfl h

/-- Lists of lists of people, and an object. -/
def teamRules : RuleSet :=
  ⟨[("teams", .record
      { typeName := some "array"
        itemType := some "array"
        itemRule := some
          { typeName := some "array"
            itemType := some "object"
            schema := some ⟨[("name", .typeName "string"), ("lead", .typeName "bool?")]⟩ } }),
    ("info", .record
      { typeName := some "object", schema := some ⟨[("year", .typeName "int")]⟩ })]⟩

/-- Errors in and below lists of lists, and in an object. -/
theorem validate_errors_teamRules :
    (Findings.fields {} Message.fill teamRules
      [("teams", .array [.array [.object [("lead", .string "x")]], .bool true]),
        ("info", .object [])]).map Finding.error =
      [⟨"name is required", some "teams[0].[0].name", .missingField⟩,
        ⟨"should be a boolean", some "teams[0].[0].lead", .invalid⟩,
        ⟨"should be an array", some "teams[1]", .invalid⟩,
        ⟨"year is required", some "info.year", .missingField⟩] :=
  (validate_errors {} rfl rfl teamRules (by decide) (by decide)
    [("teams", .array [.array [.object [("lead", .string "x")]], .bool true]),
      ("info", .object [])] _ rfl).symm

end Validator

end Rulebook
