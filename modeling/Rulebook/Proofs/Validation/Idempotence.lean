import Rulebook.Proofs.Coercions.Builtin
import Rulebook.Proofs.Validation.Faults
/-!
# Validation — running it again

A validation edits its data: it trims and collapses texts, converts values, and does so inside
objects and arrays. Once it has run, there is nothing left to edit. With the built-in types, and
under rules that read no sibling and have no default (`Rule.Stable`), a second run on what the first
one left finds the same and leaves the same (`Validator.validate_idempotent`).

The one exception is a text that is read as a whole number beyond the doubles: it becomes null, and
a second run takes the field for absent. `Validator.readings` follows a run and lists the texts that
it reads as whole numbers, so that the exception can be stated.
-/

namespace Rulebook

/-- A rule under which a second run has nothing to add: no sibling is read, and there is no default.
-/
structure Rule.Stable (rule : Rule) : Prop where
  selfContained : rule.SelfContained
  fallback_eq : rule.fallback = none

instance (rule : Rule) : Decidable rule.Stable :=
  decidable_of_iff ((rule.compare = none ∧ rule.NoFunction) ∧ rule.fallback = none)
    ⟨fun h => ⟨⟨h.1.1, h.1.2⟩, h.2⟩, fun h =>
      ⟨⟨h.selfContained.compare_eq, h.selfContained.conversion_ne⟩, h.fallback_eq⟩⟩

/-! ## The texts that are read as whole numbers -/

/-- The texts that a check of items reads, item by item, up to the one that fails. -/
def Checker.itemReadings (check : Json → Checked) (inside : Json → List String) :
    List Json → List String
  | [] => []
  | item :: rest =>
    inside item ++
      match (check item).verdict with
      | .ok _ => itemReadings check inside rest
      | .error _ => []

namespace Validator

/-- The text that a value is read from, if its conversion is one to whole numbers. -/
def reading (validator : Validator) (rule : Rule) (value : Json) : List String :=
  match value, validator.coercionFor? rule with
  | .string s, some (.builtin .int) => [s]
  | _, _ => []

/-- The texts that a step on a slot reads: that of its value, and those `inside` it. -/
def slotReadings (validator : Validator) (inside : Checker.Kind → Rule → Json → List String)
    (rule : Rule) (slot : Option Json) : List String :=
  match given? slot, validator.registry.require rule.typeName with
  | some value, .ok (.builtin kind) => validator.reading rule value ++ inside kind rule value
  | _, _ => []

/-- The texts that a run over fields reads, field by field, up to the one that fails. -/
def fieldReadings (validator : Validator) (context : String → Json.Members → Checker.Context)
    (inside : String → Checker.Kind → Rule → Json → List String) :
    List (String × Spec) → Json.Members → List String
  | [], _ => []
  | (name, spec) :: rest, fields =>
    let turn := validator.validateField context spec.normalize name fields
    validator.slotReadings (inside name) spec.normalize
        (ready validator.options spec.normalize (Entries.value? fields name)) ++
      match turn.result with
      | .ok _ => fieldReadings validator context inside rest turn.target
      | .error _ => []

/-- The texts that a check reads inside a value, in a context of some depth. -/
def checkReadings (validator : Validator) :
    (depth : Nat) → String → Checker.Kind → Rule → Json → List String
  | depth + 1, _, .object, rule, .object members =>
    match rule.schema with
    | some schema =>
      validator.fieldReadings (validator.context depth) (validator.checkReadings depth)
        schema.entries members
    | none => []
  | depth + 1, field, .array, rule, .array items =>
    match rule.brokenLength? items.length, rule.itemType with
    | none, some itemType =>
      match validator.registry.require (some itemType) with
      | .ok (.builtin kind) =>
        Checker.itemReadings
          (kind.run (validator.context depth field []) (Checker.itemRule rule itemType))
          (validator.checkReadings depth field kind (Checker.itemRule rule itemType)) items
      | _ => []
    | _, _ => []
  | _, _, _, _, _ => []

/-- **The texts that a validation reads as whole numbers**, as they are when their turn comes. -/
def readings (validator : Validator) (rules : RuleSet) (target : Json) : List String :=
  let depth := validator.depth rules
  validator.fieldReadings (validator.context depth) (validator.checkReadings depth) rules.entries
    target.fields

end Validator

/-- None of some texts starts with a number beyond the doubles. -/
def AllFinite (texts : List String) : Prop :=
  ∀ s ∈ texts, ¬ Coercion.Kind.Overflows s

instance (texts : List String) : Decidable (AllFinite texts) :=
  inferInstanceAs (Decidable (∀ s ∈ texts, _))

theorem allFinite_append {first second : List String} :
    AllFinite (first ++ second) ↔ AllFinite first ∧ AllFinite second := by
  simp only [AllFinite, List.mem_append, or_imp, forall_and]

/-- **A check does the same again** on the value that it left, if it reads no number beyond the
doubles. -/
def Checker.Kind.Repeats (kind : Kind) (validator : Validator) (depth : Nat) (rule : Rule) : Prop :=
  ∀ field value, AllFinite (validator.checkReadings depth field kind rule value) → ∀ siblings,
    let check := kind.run (validator.context depth field siblings) rule
    check (check value).value = check value

namespace Validator

variable {validator : Validator} {options : Options} {rule : Rule} {value : Json}
variable {siblings others : Json.Members} {s : String} {depth : Nat} {name : String} {spec : Spec}

/-! ## Getting ready again -/

/-- Only texts are trimmed and collapsed. -/
theorem ready_of_ne_string (options : Options) (rule : Rule) (h : ∀ s, value ≠ .string s) :
    ready options rule (some value) = some value := by
  cases value with
  | string s => exact absurd rfl (h s)
  | _ => rfl

/-- A text without blanks, and not empty, is ready as it is. -/
theorem ready_of_solid (options : Options) (rule : Rule) (h : Text.Solid s.toList) :
    ready options rule (some (.string s)) = some (.string s) := by
  have hempty : s ≠ "" := by
    rintro rfl
    exact h.ne_nil rfl
  simp [ready, trimmed, collapsed, h.trim_eq, hempty]

/-- Trimming a value twice is trimming it once. -/
theorem trimmed_trimmed (rule : Rule) (value : Json) :
    trimmed rule (trimmed rule value) = trimmed rule value := by
  cases value with
  | string s => cases htrim : rule.trim <;> simp [trimmed, htrim]
  | _ => rfl

/-- What has been trimmed is trimmed, also if it has collapsed since. -/
theorem trimmed_collapsed (options : Options) (h : trimmed rule value = value) :
    trimmed rule (collapsed options rule value) = collapsed options rule value := by
  unfold collapsed
  split
  · split
    · rfl
    · exact h
  · exact h

theorem collapsed_collapsed (options : Options) (rule : Rule) (value : Json) :
    collapsed options rule (collapsed options rule value) = collapsed options rule value := by
  cases value with
  | string s =>
    by_cases h : (rule.widelyUndefined.getD options.widelyUndefined && s.isEmpty) = true
    · simp only [collapsed, if_pos h]
    · simp only [collapsed, if_neg h]
  | _ => rfl

/-- **A slot that is ready stays so.** -/
theorem ready_ready (options : Options) (rule : Rule) (slot : Option Json) :
    ready options rule (ready options rule slot) = ready options rule slot := by
  cases slot with
  | none => rfl
  | some value =>
    simp only [ready, Option.map_some, trimmed_collapsed options (trimmed_trimmed rule value),
      collapsed_collapsed]

/-! ## Converting again -/

section Conversions

variable (hreg : validator.registry = .builtin) (hrule : rule.SelfContained)

include hreg hrule

/-- **Converting twice is converting once.** -/
theorem converted_converted : validator.converted rule others
    (validator.converted rule siblings value) = validator.converted rule siblings value := by
  unfold converted
  cases hvalue : value.isStructured with
  | true => simp [hvalue]
  | false =>
    cases hcoercion : validator.coercionFor? rule with
    | none => simp
    | some coercion =>
      obtain ⟨kind, rfl⟩ := coercionFor?_noFunction hreg hrule.conversion_ne hcoercion
      simp [Coercion.apply, kind.isStructured_apply hvalue, kind.apply_apply]

/-- A conversion keeps a value, if it does not read a number beyond the doubles. -/
theorem isNull_converted (hnull : value.isNull = false)
    (hreads : AllFinite (validator.reading rule value)) :
    (validator.converted rule siblings value).isNull = false := by
  unfold converted
  cases hvalue : value.isStructured with
  | true => exact hnull
  | false =>
    cases hcoercion : validator.coercionFor? rule with
    | none => exact hnull
    | some coercion =>
      obtain ⟨kind, rfl⟩ := coercionFor?_noFunction hreg hrule.conversion_ne hcoercion
      refine Coercion.Kind.isNull_apply hnull ?_
      rintro rfl s rfl
      exact hreads s (by simp [reading, hcoercion])

/-- **What is converted is ready for the next run.** -/
theorem ready_converted (hready : ready options rule (some value) = some value)
    (hnull : value.isNull = false) :
    ready options rule (some (validator.converted rule siblings value)) =
      some (validator.converted rule siblings value) := by
  unfold converted
  cases hvalue : value.isStructured with
  | true => exact hready
  | false =>
    cases hcoercion : validator.coercionFor? rule with
    | none => exact hready
    | some coercion =>
      obtain ⟨kind, rfl⟩ := coercionFor?_noFunction hreg hrule.conversion_ne hcoercion
      by_cases htext : ∃ s, kind.apply value = .string s
      · obtain ⟨s, hs⟩ := htext
        rcases Coercion.Kind.solid_of_apply hvalue hnull hs with rfl | hsolid
        · simpa [Coercion.apply, hs] using hready
        · simpa [Coercion.apply, hs] using ready_of_solid options rule hsolid
      · exact ready_of_ne_string options rule fun s hs => htext ⟨s, hs⟩

end Conversions

/-! ## The turn of a field again -/

/-- A check leaves objects objects and arrays arrays. -/
theorem isStructured_run_value (kind : Checker.Kind) (depth : Nat) :
    (kind.run (validator.context depth name siblings) rule value).value.isStructured =
      value.isStructured := by
  cases kind with
  | object =>
    rw [Checker.Kind.run]
    rcases Checker.object_cases (validator.context depth name siblings) rule value with
      ⟨verdict, hrun⟩ | ⟨schema, hvalue, -, hrun⟩
    · rw [hrun]
    · rw [hrun, hvalue]
      cases depth with
      | zero => exact hvalue
      | succ depth =>
        rw [context_validate]
        cases value with
        | object members => rw [validateIn_object]; rfl
        | array items => rw [validateIn_array]; rfl
        | _ => cases hvalue
  | array =>
    simp only [Checker.Kind.run, Checker.array]
    split
    · split <;> try rfl
      split <;> rfl
    · rfl
  | _ => rfl

/-- **What the check of a converted value leaves** is ready, is not null, needs no conversion, and
is checked as before. -/
theorem checked_again (hreg : validator.registry = .builtin) (hrule : rule.SelfContained)
    {kind : Checker.Kind} (hready : ready validator.options rule (some value) = some value)
    (hnull : value.isNull = false) (hown : AllFinite (validator.reading rule value))
    (hcheck : let check := kind.run (validator.context depth name siblings) rule
      check (check value).value = check value) (others : Json.Members) :
    let check := kind.run (validator.context depth name siblings) rule
    let first := check (validator.converted rule others value)
    ready validator.options rule (some first.value) = some first.value ∧
      first.value.isNull = false ∧ validator.converted rule others first.value = first.value ∧
      check first.value = first := by
  dsimp only at hcheck ⊢
  cases hvalue : value.isStructured with
  | true =>
    rw [converted_of_structured hvalue, hcheck]
    have hleft : (kind.run (validator.context depth name siblings) rule value).value.isStructured =
        true := (isStructured_run_value kind depth).trans hvalue
    refine ⟨ready_of_ne_string _ _ fun s hs => ?_, ?_, converted_of_structured hleft, rfl⟩
    · rw [hs] at hleft
      cases hleft
    · exact Json.isNull_of_isStructured hleft
  | false =>
    have hscalar : (validator.converted rule others value).isStructured = false :=
      (isStructured_converted hreg hrule.conversion_ne).trans hvalue
    rw [kind.run_value_of_scalar hscalar]
    exact ⟨ready_converted hreg hrule hready hnull, isNull_converted hreg hrule hnull hown,
      converted_converted hreg hrule, rfl⟩

/-- **The turn of a field does the same again**, if the checks of its type do. -/
theorem turn_turn (hreg : validator.registry = .builtin) (hrule : spec.normalize.Stable)
    (hchecks : ∀ kind : Checker.Kind, kind.Repeats validator depth spec.normalize)
    (slot : Option Json)
    (hreads : AllFinite (validator.slotReadings (validator.checkReadings depth name) spec.normalize
      (ready validator.options spec.normalize slot))) :
    validator.turn depth (name, spec) (validator.turn depth (name, spec) slot).target =
      validator.turn depth (name, spec) slot := by
  unfold turn
  dsimp only
  cases hgiven : given? (ready validator.options spec.normalize slot) with
  | none =>
    -- nothing is there, and nothing is added
    have htarget : (validator.validateSlot (validator.context depth) spec.normalize name []
        (ready validator.options spec.normalize slot)).target =
          ready validator.options spec.normalize slot := by
      cases hrequired : spec.normalize.isRequired with
      | true => rw [validateSlot_missing hgiven hrequired]
      | false => rw [validateSlot_optional hgiven hrequired, hrule.fallback_eq, Option.none_or]
    rw [htarget, ready_ready]
  | some value =>
    obtain ⟨hready, hnull⟩ := given?_eq_some_iff.1 hgiven
    have hagain := ready_ready validator.options spec.normalize slot
    rw [hready] at hgiven hreads hagain ⊢
    cases hrequire : validator.registry.require spec.normalize.typeName with
    | error e =>
      rw [validateSlot_unknown hgiven hrequire, hagain, validateSlot_unknown hgiven hrequire]
    | ok checker =>
      obtain ⟨kind, -, rfl⟩ := Registry.require_builtin.1 (hreg ▸ hrequire)
      simp only [slotReadings, hgiven, hrequire, allFinite_append] at hreads
      -- the fields that a conversion would see are none here
      obtain ⟨hstill, hkept, hconverted, hchecked⟩ := checked_again hreg hrule.selfContained hagain
        hnull hreads.1 (hchecks kind name value hreads.2 (Entries.put [] name .null)) []
      rw [validateSlot_checked hgiven hrequire]
      dsimp only [Checker.run]
      rw [hstill, validateSlot_checked (given?_eq_some_iff.2 ⟨rfl, hkept⟩) hrequire]
      dsimp only [Checker.run]
      rw [hconverted, hchecked]

/-! ## A run over fields again -/

/-- **A run over fields does the same again**, if the checks of their types do: when the turn of a
field comes again, it finds what its own turn left there. -/
theorem validateFields_again (hreg : validator.registry = .builtin) (depth : Nat)
    (entries : List (String × Spec)) (hnames : (Entries.names entries).Nodup)
    (hrules : ∀ entry ∈ entries, entry.2.normalize.Stable)
    (hchecks : ∀ name spec, (name, spec) ∈ entries → ∀ kind : Checker.Kind,
      kind.Repeats validator depth spec.normalize) (fields : Json.Members)
    (hreads : AllFinite (validator.fieldReadings (validator.context depth)
      (validator.checkReadings depth) entries fields)) :
    let run := validator.validateFields (validator.context depth) entries
    run (run fields).target = run fields := by
  induction entries generalizing fields with
  | nil => rfl
  | cons entry rest ih =>
    obtain ⟨name, spec⟩ := entry
    obtain ⟨hname, hrest⟩ := List.nodup_cons.1 hnames
    have hstable := hrules (name, spec) (by simp)
    have hfield := validateField_eq_turn hreg hstable.selfContained depth name fields
    rw [fieldReadings, allFinite_append, hfield] at hreads
    dsimp only at hreads ⊢
    have hagain := turn_turn hreg hstable (hchecks name spec (by simp)) _ hreads.1
    have hleft := value?_fill_turn validator depth name spec fields
    cases hturn : (validator.turn depth (name, spec) (Entries.value? fields name)).result with
    | error e =>
      rw [validateFields_cons_turn_error hreg hstable.selfContained hturn,
        validateFields_cons_turn_error hreg hstable.selfContained (by rw [hleft, hagain, hturn]),
        hleft, hagain, Entries.fill_of_value? hleft]
    | ok errors =>
      rw [hturn] at hreads
      have hothers := ih hrest (fun entry h => hrules entry (by simp [h]))
        (fun name spec h => hchecks name spec (by simp [h])) _ hreads.2
      -- no later turn writes to this field
      have hkept : Entries.value? (validator.validateFields (validator.context depth) rest
          (Entries.fill fields name (validator.turn depth (name, spec)
            (Entries.value? fields name)).target)).target name =
            (validator.turn depth (name, spec) (Entries.value? fields name)).target :=
        (value?_validateFields_of_not_mem hrest hname depth).trans hleft
      rw [validateFields_cons_turn_ok hreg hstable.selfContained hturn]
      dsimp only at hothers ⊢
      rw [validateFields_cons_turn_ok hreg hstable.selfContained (by rw [hkept, hagain, hturn]),
        hkept, hagain, Entries.fill_of_value? hkept, hothers]

end Validator

namespace Checker

variable {validator : Validator} {rule : Rule} {depth : Nat} {field : String}
variable {siblings : Json.Members} {value : Json}

/-! ## A check again -/

/-- The check of items does the same again, if the check of each one does. -/
theorem items_again {check : Json → Checked} {inside : Json → List String}
    (hcheck : ∀ item, AllFinite (inside item) → check (check item).value = check item) (rule : Rule)
    (values : List Json) : ∀ index, AllFinite (itemReadings check inside values) →
      let run := Checker.items (fun _ => check) index rule
      run (run values).target = run values := by
  induction values generalizing rule with
  | nil => exact fun _ _ => rfl
  | cons item rest ih =>
    intro index hreads
    rw [itemReadings, allFinite_append] at hreads
    have hitem := hcheck item hreads.1
    cases hverdict : (check item).verdict with
    | error e => simp [Checker.items, hverdict, hitem]
    | ok verdict =>
      rw [hverdict] at hreads
      have hrest := ih (check item).rule (index + 1) hreads.2
      dsimp only at hrest
      simp [Checker.items, hverdict, hitem, hrest]

/-- The check of an object does the same again, if the run over its fields does. -/
theorem object_again (hfields : ∀ schema, rule.schema = some schema → ∀ fields,
      AllFinite (validator.fieldReadings (validator.context depth) (validator.checkReadings depth)
        schema.entries fields) →
        let run := validator.validateFields (validator.context depth) schema.entries
        run (run fields).target = run fields)
    (hreads : AllFinite (validator.checkReadings (depth + 1) field .object rule value)) :
    let check := Checker.object (validator.context (depth + 1) field siblings) rule
    check (check value).value = check value := by
  dsimp only
  rcases object_cases (validator.context (depth + 1) field siblings) rule value with
    ⟨verdict, hrun⟩ | ⟨schema, hvalue, hschema, hrun⟩
  · rw [hrun]
    exact hrun
  · rw [hrun, Validator.context_validate]
    cases value with
    | object members =>
      simp only [Validator.checkReadings, hschema] at hreads
      have hagain := hfields schema hschema members hreads
      dsimp only at hagain
      rw [Validator.validateIn_object]
      dsimp only
      rw [object_of_schema rfl hschema, Validator.context_validate, Validator.validateIn_object,
        hagain]
    | array items =>
      rw [Validator.validateIn_array]
      dsimp only
      rw [object_of_schema rfl hschema, Validator.context_validate, Validator.validateIn_array]
    | _ => cases hvalue

/-- The check of an array does the same again, if the checks of its items do. -/
theorem array_again (hreg : validator.registry = .builtin)
    (hitems : ∀ itemType kind, rule.itemType = some itemType →
      Kind.ofTypeName? itemType = some kind →
        kind.Repeats validator depth (itemRule rule itemType))
    (hreads : AllFinite (validator.checkReadings (depth + 1) field .array rule value)) :
    let check := Checker.array (validator.context (depth + 1) field siblings) rule
    check (check value).value = check value := by
  dsimp only
  rcases array_cases (validator.context (depth + 1) field siblings) rule value with
    ⟨verdict, hrun⟩ | ⟨items, itemType, rfl, hlength, htype⟩
  · rw [hrun]
    exact hrun
  · cases hrequire : validator.registry.require (some itemType) with
    | error e =>
      have hunknown : (validator.context (depth + 1) field siblings).require itemType = .error e :=
        Validator.context_require_error hrequire
      rw [array_of_require_error hlength htype hunknown,
        array_of_require_error hlength htype hunknown]
    | ok checker =>
      obtain ⟨kind, hkind, rfl⟩ := Registry.require_builtin.1 (hreg ▸ hrequire)
      have hfound : (validator.context (depth + 1) field siblings).require itemType =
          .ok fun siblings rule value =>
            Checker.run (.builtin kind) (validator.context depth field siblings) rule value :=
        Validator.context_require_ok hrequire
      simp only [Validator.checkReadings, hlength, htype, hrequire] at hreads
      have hagain := items_again
        (fun item h => hitems itemType kind htype hkind field item h []) (itemRule rule itemType)
        items 0 hreads
      have hsame := length_target_items
        (fun _ => kind.run (validator.context depth field []) (itemRule rule itemType)) items 0
        (itemRule rule itemType)
      dsimp only at hagain
      rw [array_of_require hlength htype hfound]
      simp only [run, items_builtin]
      rw [array_of_require (by rw [hsame, hlength]) htype hfound]
      simp only [run, items_builtin, hagain]

/-- **Every check does the same again** on what it left, if it reads no number beyond the doubles.
-/
theorem Kind.run_again (hreg : validator.registry = .builtin) : ∀ depth (kind : Kind) rule,
    rule.All (fun rule => rule.DistinctNames ∧ rule.Stable) → kind.calls rule ≤ depth →
      kind.Repeats validator depth rule := by
  refine Kind.descent ?_ (P := fun depth kind rule => kind.Repeats validator depth rule) ?_ ?_ ?_
  · intro name
    obtain ⟨typeName, required, hflat⟩ := Spec.normalize_typeName name
    rw [hflat]
    exact ⟨fun _ h => (nomatch h), ⟨⟨rfl, fun _ h => (nomatch h)⟩, rfl⟩⟩
  · intro depth kind rule _ hobject harray field value _ siblings
    cases kind with
    | object => exact absurd rfl hobject
    | array => exact absurd rfl harray
    | _ => rfl
  · intro depth rule hrule hfields field value hreads siblings
    refine object_again (fun schema hschema fields => ?_) hreads
    exact Validator.validateFields_again hreg depth schema.entries
      (hrule.self.1 schema hschema)
      (fun ⟨name, spec⟩ hentry => ((hrule.of_schema hschema).normalize hentry).self.2)
      (hfields schema hschema) fields
  · exact fun depth rule _ hitems field value hreads siblings => array_again hreg hitems hreads

end Checker

namespace Validator

/-- **Validation is idempotent.** With the built-in types, whatever the options, and under rules
that at any depth read no sibling, convert by no function of the caller and have no default: unless
a text is read as a whole number beyond the doubles, a second validation of what the first one left
has the same result and leaves it as it is. -/
theorem validate_idempotent (validator : Validator) (hreg : validator.registry = .builtin)
    (rules : RuleSet) (hrules : rules.WellFormed) (hstable : rules.All Rule.Stable) (target : Json)
    (hreads : AllFinite (validator.readings rules target)) :
    validator.validate rules (validator.validate rules target).target =
      validator.validate rules target := by
  have hall : rules.All fun rule => rule.DistinctNames ∧ rule.Stable :=
    fun rule hrule => ⟨hrules.all_distinctNames rule hrule, hstable rule hrule⟩
  by_cases hobject : ∃ fields, target = .object fields
  · obtain ⟨fields, rfl⟩ := hobject
    have hagain := validateFields_again hreg (validator.depth rules) rules.entries
      hrules.names_nodup (fun ⟨name, spec⟩ hentry => (hstable.normalize hentry).self)
      (fun name spec hentry kind => Checker.Kind.run_again hreg _ kind _ (hall.normalize hentry)
        (validator.calls_le_depth hentry kind)) fields hreads
    dsimp only at hagain
    rw [validate, validate, validateIn_object]
    dsimp only
    rw [validateIn_object, hagain]
  · rw [show (validator.validate rules target).target = target from
      target_validateIn_of_not_object fun fields h => hobject ⟨fields, h⟩]

/-- A title that is trimmed, a number of copies, and pages with their numbers. -/
def coverRules : RuleSet :=
  ⟨[("title", .record { typeName := some "string?", trim := true }),
    ("copies", .typeName "int"),
    ("pages", .record
      { typeName := some "array"
        itemType := some "object"
        schema := some ⟨[("number", .typeName "int"), ("done", .typeName "bool")]⟩ })]⟩

/-- The title collapses, and numbers and booleans are converted at both levels. -/
theorem validate_idempotent_coverRules :
    let validator : Validator := { options := { convert := true, widelyUndefined := true } }
    let cover : Json := .object [("title", .string "  "), ("copies", .string "12 copies"),
      ("pages", .array [.object [("number", .string " 7"), ("done", .string "yes")]])]
    validator.readings coverRules cover = ["12 copies", " 7"] ∧
      validator.validate coverRules (validator.validate coverRules cover).target =
        validator.validate coverRules cover :=
  ⟨by decide +kernel, validate_idempotent _ rfl coverRules (by decide) (by decide) _
    (by decide +kernel)⟩

end Validator

end Rulebook
