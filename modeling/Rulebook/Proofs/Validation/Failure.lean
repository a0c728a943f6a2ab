import Rulebook.Proofs.Validation.Depth
import Rulebook.Proofs.Validation.Frame
/-!
# Validation — what a failure leaves

A run over fields fails at one field. The fields before it get through as if the run ended there
(`Validator.validateFields_append_ok`), and those after it are not looked at. The failing field is
put back: with its trimmed value, if its type has no checker, and else with what the checker left.

What a built-in checker leaves when it fails is of the same shape again: in an object up to the
field that failed, in an array up to the item. `Halted`, `HaltedAmong` and `HaltedIn` say so for a
value, for items and for fields; they hold of every failure, at every depth of the contexts
(`Checker.run_halted`), whatever the types and converters of the caller do.
-/

namespace Rulebook

mutual

/-- **What a check that failed left of its value.** -/
inductive Halted (validator : Validator) :
    Nat → Checker → String → Json.Members → Rule → Json → ConfigError → Json → Prop where
  /-- An enumeration that lists nothing leaves the value alone. -/
  | enumeration {depth field siblings rule value} (hvalues : rule.values = none) :
    Halted validator depth (.builtin .enumeration) field siblings rule value
      (.missingValues field) value
  /-- An object is left as its fields are. -/
  | object {depth field siblings rule schema before e after} (hschema : rule.schema = some schema)
    (hfields : HaltedIn validator depth schema.entries before e after) :
    Halted validator (depth + 1) (.builtin .object) field siblings rule (.object before) e
      (.object after)
  /-- An array whose items are of an unknown type is left alone. -/
  | itemType {depth field siblings rule itemType items e} (htype : rule.itemType = some itemType)
    (hrequire : validator.registry.require (some itemType) = .error e) :
    Halted validator depth (.builtin .array) field siblings rule (.array items) e (.array items)
  /-- Any other array is left as its items are. -/
  | items {depth field siblings rule itemType checker before e after}
    (htype : rule.itemType = some itemType)
    (hrequire : validator.registry.require (some itemType) = .ok checker)
    (hitems : HaltedAmong validator depth checker field (Checker.itemRule rule itemType) before e
      after) :
    Halted validator (depth + 1) (.builtin .array) field siblings rule (.array before) e
      (.array after)
  /-- A checker of the caller leaves what it likes. -/
  | custom {depth check field siblings rule value e}
    (hverdict : (check (validator.context depth field siblings) rule value).verdict = .error e) :
    Halted validator depth (.custom check) field siblings rule value e
      (check (validator.context depth field siblings) rule value).value
  /-- Where no call is left, the value is left alone. -/
  | endless {kind field siblings rule value} :
    Halted validator 0 (.builtin kind) field siblings rule value .endlessChecks value

/-- What is left of items: those before the one that failed are as their checks left them, and those
after it are untouched. The rule is the one that the items before have left. -/
inductive HaltedAmong (validator : Validator) :
    Nat → Checker → String → Rule → List Json → ConfigError → List Json → Prop where
  | here {depth checker field rule item rest e left}
    (hitem : Halted validator depth checker field [] rule item e left) :
    HaltedAmong validator depth checker field rule (item :: rest) e (left :: rest)
  | later {depth checker field rule item verdict rest e after}
    (hitem : (checker.run (validator.context depth field []) rule item).verdict = .ok verdict)
    (hrest : HaltedAmong validator depth checker field
      (checker.run (validator.context depth field []) rule item).rule rest e after) :
    HaltedAmong validator depth checker field rule (item :: rest) e
      ((checker.run (validator.context depth field []) rule item).value :: after)

/-- What is left of fields: those before the one that failed are as the run over them alone leaves
them, that one holds its trimmed value or what its checker left, and the others are untouched. -/
inductive HaltedIn (validator : Validator) :
    Nat → List (String × Spec) → Json.Members → ConfigError → Json.Members → Prop where
  | unknown {depth done name spec rest before errors middle value e}
    (hdone : validator.validateFields (validator.context depth) done before = ⟨.ok errors, middle⟩)
    (hgiven : Validator.given? (Validator.ready validator.options spec.normalize
      (Entries.value? middle name)) = some value)
    (hrequire : validator.registry.require spec.normalize.typeName = .error e) :
    HaltedIn validator depth (done ++ (name, spec) :: rest) before e (Entries.put middle name value)
  | checked {depth done name spec rest before errors middle value checker e left}
    (hdone : validator.validateFields (validator.context depth) done before = ⟨.ok errors, middle⟩)
    (hgiven : Validator.given? (Validator.ready validator.options spec.normalize
      (Entries.value? middle name)) = some value)
    (hrequire : validator.registry.require spec.normalize.typeName = .ok checker)
    (hvalue : Halted validator depth checker name (Entries.put middle name .null) spec.normalize
      (validator.converted spec.normalize (Entries.put middle name value) value) e left) :
    HaltedIn validator depth (done ++ (name, spec) :: rest) before e (Entries.put middle name left)

end

namespace Validator

variable {validator : Validator} {context : String → Json.Members → Checker.Context}
variable {entries done rest : List (String × Spec)} {fields : Json.Members} {rule : Rule}
variable {name : String} {spec : Spec} {slot : Option Json} {siblings : Json.Members}
variable {e : ConfigError} {errors : List FieldError}

/-! ## Runs, one after the other -/

/-- After a run that gets through, the run over further fields goes on with what it left. -/
theorem validateFields_append_ok
    (h : (validator.validateFields context done fields).result = .ok errors) :
    validator.validateFields context (done ++ rest) fields =
      let others := validator.validateFields context rest
        (validator.validateFields context done fields).target
      ⟨others.result.map (errors ++ ·), others.target⟩ := by
  induction done generalizing fields errors with
  | nil =>
    obtain rfl := Except.ok.inj h
    simp only [List.nil_append, validateFields_nil]
    cases hothers : (validator.validateFields context rest fields).result with
    | error e => simp [Except.map, ← hothers]
    | ok others => simp [Except.map, ← hothers]
  | cons entry done ih =>
    obtain ⟨name, spec⟩ := entry
    obtain ⟨turn, others, hturn, hothers, rfl, htarget⟩ := validateFields_cons_eq_ok h
    rw [List.cons_append, validateFields_cons_ok hturn, ih hothers, htarget]
    dsimp only
    cases (validator.validateFields context rest (validator.validateFields context done
      (validator.validateField context spec.normalize name fields).target).target).result with
    | error e => rfl
    | ok later => simp [Except.map]

/-- A field that fails after a run that gets through ends the run. -/
theorem validateFields_append_cons_error
    (h : (validator.validateFields context done fields).result = .ok errors)
    (hfield : (validator.validateField context spec.normalize name
      (validator.validateFields context done fields).target).result = .error e) :
    validator.validateFields context (done ++ (name, spec) :: rest) fields =
      ⟨.error e, (validator.validateField context spec.normalize name
        (validator.validateFields context done fields).target).target⟩ := by
  rw [validateFields_append_ok h, validateFields_cons_error hfield]
  rfl

/-- **A run that fails does so at one field**, after a run over the fields before it. -/
theorem exists_failing (h : (validator.validateFields context entries fields).result = .error e) :
    ∃ done name spec rest errors, entries = done ++ (name, spec) :: rest ∧
      (validator.validateFields context done fields).result = .ok errors ∧
      (validator.validateField context spec.normalize name
        (validator.validateFields context done fields).target).result = .error e := by
  induction entries generalizing fields with
  | nil => cases h
  | cons entry entries ih =>
    obtain ⟨name, spec⟩ := entry
    cases hturn : (validator.validateField context spec.normalize name fields).result with
    | error found =>
      rw [validateFields_cons_error hturn] at h
      obtain rfl := Except.error.inj h
      exact ⟨[], name, spec, entries, [], rfl, rfl, hturn⟩
    | ok turn =>
      rw [validateFields_cons_ok hturn] at h
      obtain ⟨done, other, otherSpec, rest, errors, rfl, hdone, hfails⟩ := ih (eq_error_of_map h)
      refine ⟨(name, spec) :: done, other, otherSpec, rest, turn ++ errors, rfl, ?_, ?_⟩
      · rw [validateFields_cons_ok hturn]
        dsimp only
        rw [hdone]
        rfl
      · rw [validateFields_cons_ok hturn]
        exact hfails

/-! ## The field that fails -/

/-- **What a step did if it failed**: the type has no checker, or the checker failed. -/
theorem validateSlot_eq_error
    (h : (validator.validateSlot context rule name siblings slot).result = .error e) :
    ∃ value, given? slot = some value ∧
      (validator.registry.require rule.typeName = .error e ∧
          (validator.validateSlot context rule name siblings slot).target = some value ∨
        ∃ checker, validator.registry.require rule.typeName = .ok checker ∧
          let checked := checker.run (context name (Entries.put siblings name .null)) rule
            (validator.converted rule siblings value)
          checked.verdict = .error e ∧
            (validator.validateSlot context rule name siblings slot).target =
              some checked.value) := by
  cases hgiven : given? slot with
  | none =>
    cases hrequired : rule.isRequired with
    | true => simp [validateSlot_missing hgiven hrequired] at h
    | false => simp [validateSlot_optional hgiven hrequired] at h
  | some value =>
    refine ⟨value, rfl, ?_⟩
    cases hrequire : validator.registry.require rule.typeName with
    | error found =>
      rw [validateSlot_unknown hgiven hrequire] at h ⊢
      obtain rfl := Except.error.inj h
      exact .inl ⟨rfl, rfl⟩
    | ok checker =>
      rw [validateSlot_checked hgiven hrequire] at h ⊢
      exact .inr ⟨checker, rfl, eq_error_of_map h, rfl⟩

/-- **What a field's turn did if it failed**, and what it left of the fields. -/
theorem validateField_eq_error
    (h : (validator.validateField context spec.normalize name fields).result = .error e) :
    ∃ value left,
      given? (ready validator.options spec.normalize (Entries.value? fields name)) = some value ∧
      (validator.validateField context spec.normalize name fields).target =
        Entries.put fields name left ∧
      (validator.registry.require spec.normalize.typeName = .error e ∧ left = value ∨
        ∃ checker, validator.registry.require spec.normalize.typeName = .ok checker ∧
          let checked := checker.run (context name (Entries.put fields name .null)) spec.normalize
            (validator.converted spec.normalize (Entries.put fields name value) value)
          checked.verdict = .error e ∧ left = checked.value) := by
  rw [validateField_eq] at h ⊢
  dsimp only at h ⊢
  obtain ⟨value, hgiven, hcase⟩ := validateSlot_eq_error h
  have hprepared : prepared validator.options spec.normalize name fields =
      Entries.put fields name value := by
    rw [prepared_eq, (given?_eq_some_iff.1 hgiven).1, Entries.fill_some]
  rw [hprepared] at hcase ⊢
  rcases hcase with ⟨hrequire, htarget⟩ | ⟨checker, hrequire, hverdict, htarget⟩
  · exact ⟨value, value, hgiven, by rw [htarget, Entries.fill_some], .inl ⟨hrequire, rfl⟩⟩
  · rw [Entries.put_put] at hverdict htarget
    exact ⟨value, _, hgiven, by rw [htarget, Entries.fill_some],
      .inr ⟨checker, hrequire, hverdict, rfl⟩⟩

/-- A run over fields that are all missing gets through, the names of the rules being distinct. -/
theorem exists_ok_of_missing (hnames : (Entries.names entries).Nodup)
    (h : ∀ name ∈ Entries.names entries, Entries.value? fields name = none) :
    ∃ errors, (validator.validateFields context entries fields).result = .ok errors := by
  induction entries generalizing fields with
  | nil => exact ⟨[], rfl⟩
  | cons entry rest ih =>
    obtain ⟨name, spec⟩ := entry
    obtain ⟨hname, hrest⟩ := List.nodup_cons.1 hnames
    have hkept := (validateField_framed validator context name spec fields).kept
    obtain ⟨turn, hturn⟩ : ∃ turn,
        (validator.validateField context spec.normalize name fields).result = .ok turn := by
      rw [validateField_eq, h name (by simp)]
      exact validateSlot_none_ok validator context spec.normalize name _
    obtain ⟨others, hothers⟩ : ∃ others, (validator.validateFields context rest
        (validator.validateField context spec.normalize name fields).target).result = .ok others :=
      ih hrest fun other hother => by
        have hne : other ≠ name := fun heq => hname (heq ▸ hother)
        rw [hkept other (by simpa using hne), h other (by simp [hother])]
    rw [validateFields_cons_ok hturn]
    exact ⟨turn ++ others, by simp [hothers, Except.map]⟩

/-! ## The inside of the value that failed -/

/-- A run that fails leaves its fields halted, if the checks that fail leave their values so. -/
theorem validateFields_halted {depth : Nat} (hchecks : ∀ name spec, (name, spec) ∈ entries →
      ∀ checker, validator.registry.require spec.normalize.typeName = .ok checker →
        ∀ siblings value e, (checker.run (validator.context depth name siblings) spec.normalize
            value).verdict = .error e →
          Halted validator depth checker name siblings spec.normalize value e
            (checker.run (validator.context depth name siblings) spec.normalize value).value)
    (h : (validator.validateFields (validator.context depth) entries fields).result = .error e) :
    HaltedIn validator depth entries fields e
      (validator.validateFields (validator.context depth) entries fields).target := by
  obtain ⟨done, name, spec, rest, errors, rfl, hdone, hfails⟩ := exists_failing h
  have hprefix : validator.validateFields (validator.context depth) done fields =
      ⟨.ok errors, (validator.validateFields (validator.context depth) done fields).target⟩ := by
    rw [← hdone]
  obtain ⟨value, left, hgiven, htarget, hcase⟩ := validateField_eq_error hfails
  rw [validateFields_append_cons_error hdone hfails, htarget]
  rcases hcase with ⟨hrequire, rfl⟩ | ⟨checker, hrequire, hverdict, rfl⟩
  · exact .unknown hprefix hgiven hrequire
  · exact .checked hprefix hgiven hrequire
      (hchecks name spec (by simp) checker hrequire _ _ e hverdict)

end Validator

namespace Checker

variable {validator : Validator} {checker : Checker} {rule : Rule} {field : String} {depth : Nat}
variable {siblings : Json.Members} {value : Json} {e : ConfigError}

/-- Items of which one fails are halted, if the checks that fail leave them so under every rule that
an item may meet. -/
theorem items_halted (Meets : Rule → Prop)
    (hcheck : ∀ rule item e, Meets rule →
      (checker.run (validator.context depth field []) rule item).verdict = .error e →
        Halted validator depth checker field [] rule item e
          (checker.run (validator.context depth field []) rule item).value)
    (hkeep : ∀ rule item, Meets rule →
      Meets (checker.run (validator.context depth field []) rule item).rule)
    (items : List Json) : ∀ index rule, Meets rule →
      (Checker.items (checker.run (validator.context depth field [])) index rule items).result =
          .error e →
        HaltedAmong validator depth checker field rule items e
          (Checker.items (checker.run (validator.context depth field [])) index rule
            items).target := by
  induction items with
  | nil => exact fun _ _ _ h => nomatch h
  | cons item rest ih =>
    intro index rule hrule h
    cases hverdict : (checker.run (validator.context depth field []) rule item).verdict with
    | error found =>
      simp only [Checker.items, hverdict] at h ⊢
      obtain rfl := Except.error.inj h
      exact .here (hcheck rule item found hrule hverdict)
    | ok verdict =>
      simp only [Checker.items, hverdict] at h ⊢
      exact .later hverdict (ih (index + 1) _ (hkeep rule item hrule) (eq_error_of_map h))

/-- A check that looks into nothing leaves its value alone if it fails. -/
theorem Kind.run_halted_scalar {kind : Kind} (hobject : kind ≠ .object) (harray : kind ≠ .array)
    (h : (kind.run (validator.context depth field siblings) rule value).verdict = .error e) :
    Halted validator depth (.builtin kind) field siblings rule value e
      (kind.run (validator.context depth field siblings) rule value).value := by
  cases kind with
  | object => exact absurd rfl hobject
  | array => exact absurd rfl harray
  | enumeration =>
    simp only [Kind.run, Checker.enumeration, Validator.context_field] at h ⊢
    split at h
    · rename_i hvalues
      obtain rfl := Except.error.inj h
      exact .enumeration hvalues
    · split at h <;> cases h
  | _ => cases h

/-- An object whose check fails is left as its fields are. -/
theorem object_halted (hrule : rule.All Rule.DistinctNames)
    (hfields : ∀ schema, rule.schema = some schema → ∀ before e,
      (validator.validateFields (validator.context depth) schema.entries before).result = .error e →
        HaltedIn validator depth schema.entries before e
          (validator.validateFields (validator.context depth) schema.entries before).target)
    (h : (Checker.object (validator.context (depth + 1) field siblings) rule value).verdict =
      .error e) :
    Halted validator (depth + 1) (.builtin .object) field siblings rule value e
      (Checker.object (validator.context (depth + 1) field siblings) rule value).value := by
  rcases object_cases (validator.context (depth + 1) field siblings) rule value with
    ⟨verdict, hrun⟩ | ⟨schema, hvalue, hschema, hrun⟩
  · rw [hrun] at h
    cases h
  · rw [hrun, Validator.context_validate] at h ⊢
    dsimp only at h ⊢
    cases value with
    | object before =>
      rw [Validator.validateIn_object] at h ⊢
      exact .object hschema (hfields schema hschema before e (result_of_verdict_error h))
    | array items =>
      -- an array has no fields, so nothing in it can fail
      obtain ⟨errors, hok⟩ : ∃ errors, (validator.validateFields (validator.context depth)
          schema.entries []).result = .ok errors :=
        Validator.exists_ok_of_missing (hrule.self schema hschema) fun _ _ => rfl
      rw [Validator.validateIn_array] at h
      cases hok.symm.trans (result_of_verdict_error h)
    | _ => cases hvalue

/-- An array whose check fails is left as its items are, if the type of its items is known. -/
theorem array_halted (hitems : ∀ itemType checker, rule.itemType = some itemType →
      validator.registry.require (some itemType) = .ok checker → ∀ items e,
        (Checker.items (checker.run (validator.context depth field [])) 0 (itemRule rule itemType)
            items).result = .error e →
          HaltedAmong validator depth checker field (itemRule rule itemType) items e
            (Checker.items (checker.run (validator.context depth field [])) 0
              (itemRule rule itemType) items).target)
    (h : (Checker.array (validator.context (depth + 1) field siblings) rule value).verdict =
      .error e) :
    Halted validator (depth + 1) (.builtin .array) field siblings rule value e
      (Checker.array (validator.context (depth + 1) field siblings) rule value).value := by
  rcases array_cases (validator.context (depth + 1) field siblings) rule value with
    ⟨verdict, hrun⟩ | ⟨items, itemType, rfl, hlength, htype⟩
  · rw [hrun] at h
    cases h
  · cases hrequire : validator.registry.require (some itemType) with
    | error found =>
      rw [array_of_require_error hlength htype (Validator.context_require_error hrequire)] at h ⊢
      obtain rfl := Except.error.inj h
      exact .itemType htype hrequire
    | ok checker =>
      rw [array_of_require hlength htype (Validator.context_require_ok hrequire)] at h ⊢
      exact .items htype hrequire
        (hitems itemType checker htype hrequire items e (result_of_verdict_error h))

/-- A check that calls back leaves its value alone where no call is left. -/
theorem Kind.run_halted_zero {kind : Kind} (hkind : kind = .object ∨ kind = .array)
    (h : (kind.run (validator.context 0 field siblings) rule value).verdict = .error e) :
    Halted validator 0 (.builtin kind) field siblings rule value e
      (kind.run (validator.context 0 field siblings) rule value).value := by
  rcases hkind with rfl | rfl
  · simp only [Kind.run] at h ⊢
    rcases object_cases (validator.context 0 field siblings) rule value with
      ⟨verdict, hrun⟩ | ⟨schema, -, -, hrun⟩
    · rw [hrun] at h
      cases h
    · rw [hrun] at h ⊢
      obtain rfl := Except.error.inj h
      exact .endless
  · simp only [Kind.run] at h ⊢
    rcases array_cases (validator.context 0 field siblings) rule value with
      ⟨verdict, hrun⟩ | ⟨items, itemType, rfl, hlength, htype⟩
    · rw [hrun] at h
      cases h
    · cases hrequire : validator.registry.require (some itemType) with
      | error found =>
        rw [array_of_require_error hlength htype (Validator.context_require_error hrequire)] at h ⊢
        obtain rfl := Except.error.inj h
        exact .itemType htype hrequire
      | ok checker =>
        have hcheck : (validator.context 0 field siblings).require itemType =
            .ok fun _ rule value => ⟨.error .endlessChecks, rule, value⟩ := by
          simp [Validator.context, hrequire, Except.map]
        rw [array_of_require hlength htype hcheck] at h ⊢
        cases items with
        | nil => cases h
        | cons item rest =>
          obtain rfl := Except.error.inj h
          exact .endless

/-- **Every check that fails leaves its value halted**, at every depth. -/
theorem run_halted : ∀ depth (checker : Checker) field siblings rule value e,
    (∀ kind, checker = .builtin kind → rule.All Rule.DistinctNames) →
    (checker.run (validator.context depth field siblings) rule value).verdict = .error e →
      Halted validator depth checker field siblings rule value e
        (checker.run (validator.context depth field siblings) rule value).value := by
  intro depth
  induction depth with
  | zero =>
    intro checker field siblings rule value e hrule h
    cases checker with
    | pattern format => cases h
    | custom check => exact .custom h
    | builtin kind =>
      by_cases hkind : kind = .object ∨ kind = .array
      · exact Kind.run_halted_zero hkind h
      · rw [not_or] at hkind
        exact Kind.run_halted_scalar hkind.1 hkind.2 h
  | succ depth ih =>
    intro checker field siblings rule value e hrule h
    cases checker with
    | pattern format => cases h
    | custom check => exact .custom h
    | builtin kind =>
      have hdistinct : rule.All Rule.DistinctNames := hrule kind rfl
      by_cases hobject : kind = .object
      · subst hobject
        refine object_halted hdistinct (fun schema hschema before e => ?_) h
        refine Validator.validateFields_halted fun name spec hentry checker _ siblings value e => ?_
        exact ih checker name siblings _ value e fun _ _ =>
          (hdistinct.of_schema hschema).normalize hentry
      by_cases harray : kind = .array
      · subst harray
        refine array_halted (fun itemType checker htype hrequire items e => ?_) h
        -- built-in checks leave the names in the rule for the items alone
        refine items_halted (fun rule => ∀ kind, checker = .builtin kind →
          rule.All Rule.DistinctNames) (fun rule item e => ih checker field [] rule item e)
          (fun rule item hmeets kind hkind => ?_) items 0 _ fun _ _ => ?_
        · have hsame : (checker.run (validator.context depth field []) rule item).rule.SameInside
              rule := run_rule_sameInside fun check h => nomatch hkind.symm.trans h
          have hnames := hmeets kind hkind
          exact Rule.all_distinctNames
            (fun schema hschema => hnames.wellFormed (hsame.schema_eq ▸ hschema))
            fun item hitem => hnames.of_itemRule (hsame.itemRule_eq ▸ hitem)
        · refine itemRule_all hdistinct ?_
          exact Spec.of_normalize_typeName (fun _ _ _ h => nomatch h) itemType
      · exact Kind.run_halted_scalar hobject harray h

end Checker

namespace Validator

variable {validator : Validator} {rules : RuleSet} {rule : Rule} {slot : Option Json}

/-- Validates data, letting checkers call back so many times in a row. `Validator.validate` does so
with a number that depends on the rules. -/
def validateWithin (validator : Validator) (depth : Nat) (rules : RuleSet) (target : Json) :
    Validated Json :=
  validator.validateIn (validator.context depth) rules target

theorem validate_eq_validateWithin (validator : Validator) (rules : RuleSet) (target : Json) :
    validator.validate rules target =
      validator.validateWithin (validator.depth rules) rules target :=
  rfl

/-- A value that is given is the trimmed one: had it collapsed, there would be none. -/
theorem exists_trimmed_of_given {options : Options} {value : Json}
    (h : given? (ready options rule slot) = some value) :
    ∃ original, slot = some original ∧ value = trimmed rule original ∧ value.isNull = false := by
  obtain ⟨hready, hnull⟩ := given?_eq_some_iff.1 h
  obtain ⟨original, hslot, rfl⟩ := Option.map_eq_some_iff.1 hready
  refine ⟨original, hslot, ?_, hnull⟩
  unfold collapsed at hnull ⊢
  split
  · split
    · rename_i hcollapses
      simp_all [Json.isNull]
    · rename_i htrimmed _
      exact htrimmed.symm
  · rfl

/-- **A validation that fails stops at one field.** Whatever the types, converters, options and
rules, and however often checkers may call back: the fields before it get through on their own, and
nothing is done after it. It is still there, and holds its trimmed value if its type has no checker,
or what its checker left of its converted value; what a built-in checker leaves is halted in turn.

The run over the fields before it is made with the same number of calls back. With standard types
the number does not matter, so it is a validation against those rules alone. -/
theorem validate_stops (validator : Validator) (depth : Nat) (rules : RuleSet)
    (hrules : rules.WellFormed) (fields : Json.Members) (e : ConfigError)
    (h : (validator.validateWithin depth rules (.object fields)).result = .error e) :
    ∃ done name spec rest errors middle original value left,
      rules.entries = done ++ (name, spec) :: rest ∧
      validator.validateWithin depth ⟨done⟩ (.object fields) = ⟨.ok errors, .object middle⟩ ∧
      (validator.registry.Standard → 2 * rules.height ≤ depth →
        validator.validate ⟨done⟩ (.object fields) = ⟨.ok errors, .object middle⟩) ∧
      validator.validateWithin depth rules (.object fields) =
        ⟨.error e, .object (Entries.put middle name left)⟩ ∧
      validator.validateWithin depth ⟨done ++ [(name, spec)]⟩ (.object fields) =
        ⟨.error e, .object (Entries.put middle name left)⟩ ∧
      Entries.value? fields name = some original ∧ Entries.value? middle name = some original ∧
      value = trimmed spec.normalize original ∧ value.isNull = false ∧
      (validator.registry.require spec.normalize.typeName = .error e ∧ left = value ∨
        ∃ checker, validator.registry.require spec.normalize.typeName = .ok checker ∧
          let checked := checker.run
            (validator.context depth name (Entries.put middle name .null)) spec.normalize
            (validator.converted spec.normalize (Entries.put middle name value) value)
          checked.verdict = .error e ∧ left = checked.value ∧
          Halted validator depth checker name (Entries.put middle name .null) spec.normalize
            (validator.converted spec.normalize (Entries.put middle name value) value) e left) := by
  obtain ⟨entries⟩ := rules
  have hin : ∀ part : List (String × Spec),
      validator.validateWithin depth ⟨part⟩ (.object fields) =
        let run := validator.validateFields (validator.context depth) part fields
        ⟨run.result, .object run.target⟩ := fun part => validateIn_object ⟨part⟩ fields
  rw [hin] at h
  obtain ⟨done, name, spec, rest, errors, rfl, hdone, hfails⟩ := exists_failing h
  have hnames := hrules.names_nodup
  simp only [RuleSet.names, Entries.names_append, Entries.names_cons, List.nodup_append,
    List.mem_cons] at hnames
  obtain ⟨hdoneNames, -, hdisjoint⟩ := hnames
  have hentry : (name, spec) ∈ done ++ (name, spec) :: rest := by simp
  -- the run before the field has not touched it
  obtain ⟨_, _, _, hframed, -⟩ := validateFields_framed validator (validator.context depth) done
    hdoneNames fields
  have hkept := hframed.kept name fun hmem => hdisjoint name hmem name (.inl rfl) rfl
  have hprefix : validator.validateWithin depth ⟨done⟩ (.object fields) = ⟨.ok errors,
      .object (validator.validateFields (validator.context depth) done fields).target⟩ := by
    rw [hin, ← hdone]
  obtain ⟨value, left, hgiven, htarget, hcase⟩ := validateField_eq_error hfails
  obtain ⟨original, horiginal, htrimmed, hnull⟩ := exists_trimmed_of_given hgiven
  have hrun : ∀ later, validator.validateWithin depth ⟨done ++ (name, spec) :: later⟩
      (.object fields) = ⟨.error e, .object (Entries.put
        (validator.validateFields (validator.context depth) done fields).target name left)⟩ :=
    fun later => by rw [hin, validateFields_append_cons_error hdone hfails, htarget]
  refine ⟨done, name, spec, rest, errors, _, original, value, left, rfl, hprefix,
    fun hstandard hdepth => ?_, hrun rest, hrun [], hkept ▸ horiginal,
    horiginal, htrimmed, hnull, hcase.imp_right ?_⟩
  · refine (validate_eq_of_le hstandard ?_ _).trans hprefix
    simp only [RuleSet.height, heightOfEntries_append] at hdepth ⊢
    omega
  · rintro ⟨checker, hrequire, hverdict, rfl⟩
    exact ⟨checker, hrequire, hverdict, rfl, Checker.run_halted depth checker name _ _ _ e
      (fun _ _ => hrules.all_distinctNames.normalize hentry) hverdict⟩

/-- A title that is trimmed, notes of a kind that is one of none, and a source that is trimmed. -/
def trackRules : RuleSet :=
  ⟨[("title", .record { typeName := some "string", trim := true }),
    ("notes", .record
      { typeName := some "array"
        itemType := some "object"
        schema := some ⟨[
          ("draft", .record { typeName := some "bool?", fallback := some (.bool true) }),
          ("kind", .typeName "enum")]⟩ }),
    ("source", .record { typeName := some "string", trim := true })]⟩

/-- The second note has a kind. The title is trimmed and the first two notes have got their default;
the third note and the source are untouched. -/
theorem validate_stops_trackRules :
    ∃ done name spec rest errors middle left, trackRules.entries = done ++ (name, spec) :: rest ∧
      validate {} ⟨done⟩ (.object [("title", .string " a "),
        ("notes", .array [.object [], .object [("kind", .bool true)], .object []]),
        ("source", .string " b ")]) = ⟨.ok errors, .object middle⟩ ∧
      Entries.put middle name left = [("title", .string "a"),
        ("notes", .array [.object [("draft", .bool true)],
          .object [("kind", .bool true), ("draft", .bool true)], .object []]),
        ("source", .string " b ")] := by
  have hfails : (validateWithin {} (depth {} trackRules) trackRules (.object [
      ("title", .string " a "),
      ("notes", .array [.object [], .object [("kind", .bool true)], .object []]),
      ("source", .string " b ")])).result = .error (.missingValues "kind") := rfl
  obtain ⟨done, name, spec, rest, errors, middle, _, _, left, hentries, -, hdone, hrun, -⟩ :=
    validate_stops {} (depth {} trackRules) trackRules (by decide) _ _ hfails
  refine ⟨done, name, spec, rest, errors, middle, left, hentries,
    hdone Registry.standard_builtin (two_mul_height_le_depth {} trackRules), ?_⟩
  exact Json.object.inj ((congrArg Validated.target hrun).symm.trans rfl)

end Validator

end Rulebook
