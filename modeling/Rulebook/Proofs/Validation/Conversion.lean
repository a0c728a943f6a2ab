import Rulebook.Proofs.Validation.Conformance
import Rulebook.Proofs.Validation.Descent
import Rulebook.Proofs.Validation.Independence
import Rulebook.Proofs.Values.Alike
/-!
# Validation — conversion is conservative

A value that is accepted as it is needs no conversion: the coercion of each type leaves what its
checker accepts, but for the kind of a number, and the number stays (`Checker.Kind.accepts_apply`).
So a validator that converts accepts whatever the same validator accepts without, and it leaves
data that are alike (`Validator.validate_conservative`). The two runs go through the fields in step.
What a password compares itself with may already have been converted; but it is alike, and a text
equals the same values in both.
-/

namespace Rulebook

/-- Whether a validation found nothing wrong can be decided. -/
instance {α : Type} (validated : Validated α) : Decidable (validated.result = .ok []) :=
  match validated.result with
  | .ok [] => isTrue rfl
  | .ok (_ :: _) => isFalse nofun
  | .error _ => isFalse nofun

/-- A checker has nothing against the value. -/
def Checked.Accepts (checked : Checked) : Prop :=
  ∃ verdict, checked.verdict = .ok verdict ∧ verdict.isValid = true

namespace Checker

variable {kind : Kind} {typeName : String} {context : Context} {say : Formatter} {rule : Rule}
variable {value : Json}

/-! ## The coercions of the types -/

/-- The coercion of the built-in types of a kind. -/
def Kind.coercion? : Kind → Option Coercion.Kind
  | number => some .number
  | integer => some .int
  | boolean => some .bool
  | array | object | enumeration => none
  | _ => some .string

/-- A built-in type has the coercion of its kind. -/
theorem Kind.coercionFor?_eq (h : Kind.ofTypeName? typeName = some kind) :
    Registry.builtin.coercionFor? typeName = kind.coercion?.map .builtin := by
  have hall : ∀ entry ∈ Registry.builtinTypes,
      Registry.builtin.coercionFor? entry.1 = entry.2.1.coercion?.map .builtin := by
    intro entry hentry
    simp only [Registry.builtinTypes, List.mem_cons, List.not_mem_nil, or_false] at hentry
    rcases hentry with rfl | rfl | rfl | rfl | rfl | rfl | rfl | rfl | rfl | rfl | rfl | rfl |
      rfl | rfl | rfl | rfl <;> rfl
  obtain ⟨found, hvalue, rfl⟩ := Option.map_eq_some_iff.1 h
  exact hall _ (Entries.mem_of_value? hvalue)

/-! ## What is accepted stays -/

/-- A check that decides at once accepts if its verdict is valid. -/
theorem accepts_decided {verdict : Verdict} :
    (Checked.mk (.ok verdict) rule value).Accepts ↔ verdict.isValid = true := by
  constructor
  · rintro ⟨found, hfound, hvalid⟩
    obtain rfl := Except.ok.inj hfound
    exact hvalid
  · exact fun hvalid => ⟨verdict, rfl, hvalid⟩

/-- Two numbers of the same value are both within the bounds, or neither is. -/
theorem number_congr {m n : Json.Number}
    (h : m.toBinary64.signedUnits = n.toBinary64.signedUnits) :
    Checker.number say rule (.number m) = Checker.number say rule (.number n) := by
  simp only [Checker.number, h]

/-- Both are whole, or neither is. -/
theorem integer_congr {m n : Json.Number}
    (h : m.toBinary64.signedUnits = n.toBinary64.signedUnits) :
    Checker.integer say rule (.number m) = Checker.integer say rule (.number n) := by
  simp only [Checker.integer, Binary64.isIntegral_congr h, number_congr h]

/-- Only texts are accepted where values are converted to texts. -/
theorem Kind.exists_string_of_accepts (hkind : kind.coercion? = some .string)
    (h : (kind.run context rule value).Accepts) : ∃ s, value = .string s := by
  have htext {rule : Rule} (h : (text context.say rule value).isValid = true) :
      ∃ s, value = .string s := by
    obtain ⟨s, hs, -⟩ := text_valid h
    exact ⟨s, hs⟩
  cases kind with
  | string => exact htext (accepts_decided.1 h)
  | id => exact htext (accepts_decided.1 h)
  | date => exact htext (accepts_decided.1 h)
  | dateTime => exact htext (accepts_decided.1 h)
  | email => exact htext (accepts_decided.1 h)
  | password => exact htext (text_of_password (accepts_decided.1 h))
  | url =>
    cases value with
    | string s => exact ⟨s, rfl⟩
    | _ => cases accepts_decided.1 h
  | _ => cases hkind

/-- **The coercion of a type leaves what its checker accepts**, up to the representation of numbers,
and the checker accepts it again. -/
theorem Kind.accepts_apply {coercion : Coercion.Kind} (hkind : kind.coercion? = some coercion)
    (h : (kind.run context rule value).Accepts) :
    (kind.run context rule (coercion.apply value)).Accepts ∧
      Json.alike value (coercion.apply value) = true := by
  by_cases htext : coercion = .string
  · subst htext
    obtain ⟨s, rfl⟩ := Kind.exists_string_of_accepts hkind h
    exact ⟨h, Json.alike_refl _⟩
  cases kind with
  | number =>
    obtain rfl := Option.some.inj hkind
    have hvalid := accepts_decided.1 h
    cases value with
    | number n =>
      have hsame := Json.Number.signedUnits_ofBinary64 n.toBinary64
      refine ⟨accepts_decided.2 ?_, decide_eq_true hsame.symm⟩
      exact (congrArg Verdict.isValid (number_congr hsame)).trans hvalid
    | _ => cases hvalid
  | integer =>
    obtain rfl := Option.some.inj hkind
    have hvalid := accepts_decided.1 h
    cases value with
    | number n =>
      have hwhole : n.toBinary64.isIntegral = true := by
        cases hintegral : n.toBinary64.isIntegral with
        | true => rfl
        | false => simp [Checker.integer, hintegral, Verdict.isValid] at hvalid
      have hsame : (Coercion.Kind.wholeOf n.toBinary64).toBinary64.signedUnits =
          n.toBinary64.signedUnits := by
        rw [Coercion.Kind.wholeOf_eq_ofBinary64 hwhole, Json.Number.signedUnits_ofBinary64]
      refine ⟨accepts_decided.2 ?_, decide_eq_true hsame.symm⟩
      exact (congrArg Verdict.isValid (integer_congr hsame)).trans hvalid
    | _ => cases hvalid
  | boolean =>
    obtain rfl := Option.some.inj hkind
    cases value with
    | bool b => exact ⟨h, Json.alike_refl _⟩
    | _ => cases accepts_decided.1 h
  | array => cases hkind
  | object => cases hkind
  | enumeration => cases hkind
  | _ => exact absurd (Option.some.inj hkind).symm htext

/-! ## Siblings that are alike -/

/-- A password equals the same values among siblings that are alike. -/
theorem password_congr {siblings others : Json.Members}
    (h : Json.alikeMembers siblings others = true) :
    Checker.password say siblings rule value = Checker.password say others rule value := by
  cases hvalid : (text say (passwordRule rule) value).isValid with
  | false => simp [Checker.password, hvalid]
  | true =>
    obtain ⟨s, rfl, -⟩ := text_valid hvalid
    have hcompare (field : String) := Json.any_sameValue_string_of_alike s
      (Json.alikeSlots_value? h field)
    simp only [Checker.password, hvalid, hcompare]

/-- **A check that does not look inside a value is the same among siblings that are alike.** -/
theorem Kind.run_siblings_congr {first second : Context} (hobject : kind ≠ .object)
    (harray : kind ≠ .array) (hfield : first.field = second.field)
    (hsay : first.say = second.say)
    (h : Json.alikeMembers first.siblings second.siblings = true) (rule : Rule) (value : Json) :
    kind.run first rule value = kind.run second rule value := by
  cases kind with
  | object => exact absurd rfl hobject
  | array => exact absurd rfl harray
  | password => simp only [Kind.run, hsay, password_congr h]
  | _ => simp only [Kind.run, hsay, hfield]

/-! ## Items -/

/-- **Items that a check accepts are accepted by another one** that accepts each of them, and left
alike if each of them is. -/
theorem items_accepted {first second : Json → Checked}
    (h : ∀ item, (first item).Accepts →
      (second item).Accepts ∧ Json.alike (first item).value (second item).value = true)
    (values : List Json) : ∀ index rule other,
      (Checker.items (fun _ => first) index rule values).result = .ok [] →
        (Checker.items (fun _ => second) index other values).result = .ok [] ∧
          Json.alikeItems (Checker.items (fun _ => first) index rule values).target
            (Checker.items (fun _ => second) index other values).target = true := by
  induction values with
  | nil => exact fun _ _ _ _ => ⟨rfl, rfl⟩
  | cons item rest ih =>
    intro index rule other hresult
    obtain ⟨verdict, later, hverdict, hlater, herrors, htarget⟩ := items_cons_eq_ok hresult
    obtain ⟨hitem, rfl⟩ := List.append_eq_nil_iff.1 herrors.symm
    obtain ⟨⟨found, hfound, hvalid⟩, halike⟩ :=
      h item ⟨verdict, hverdict, itemErrors_eq_nil_iff.1 hitem⟩
    obtain ⟨hrest, hrestAlike⟩ := ih (index + 1) _ (second item).rule hlater
    rw [htarget]
    simp only [Checker.items, hfound, hrest, Json.alikeItems, halike, hrestAlike, Bool.and_self,
      itemErrors_eq_nil_iff.2 hvalid, and_true]
    rfl

end Checker

namespace Validator

variable {validator : Validator} {kind : Checker.Kind} {rule : Rule} {name : String} {spec : Spec}
variable {siblings others : Json.Members} {slot : Option Json} {value : Json}

/-- The same validator with conversion. -/
def converting (validator : Validator) : Validator :=
  { validator with options := { validator.options with convert := true } }

@[simp]
theorem say_converting : validator.converting.say = validator.say := rfl

/-- Getting an object ready does not ask for conversion. -/
@[simp]
theorem prepared_converting (rule : Rule) (name : String) (fields : Json.Members) :
    prepared validator.converting.options rule name fields =
      prepared validator.options rule name fields := rfl

/-- Nor does getting a slot ready. -/
@[simp]
theorem ready_converting (rule : Rule) (slot : Option Json) :
    ready validator.converting.options rule slot = ready validator.options rule slot := rfl

section

variable (hreg : validator.registry = .builtin)

include hreg

/-! ## One value -/

/-- What a rule asks for itself is converted in either case. -/
theorem converted_of_request (hrule : rule.NoFunction) {request : Coercion.Request}
    (hrequest : rule.conversion = some request) (value : Json) :
    validator.converting.converted rule others value =
      validator.converted rule siblings value := by
  have hsame : validator.converting.coercionFor? rule = validator.coercionFor? rule := by
    unfold coercionFor?
    rw [hrequest]
    cases request <;> rfl
  unfold converted
  rw [hsame]
  cases hcoercion : validator.coercionFor? rule with
  | none => rfl
  | some coercion =>
    obtain ⟨kind, rfl⟩ := coercionFor?_noFunction hreg hrule hcoercion
    rfl

/-- **What is accepted as it is, is accepted after conversion**, which leaves it alike, and does not
touch it if it has an inside. -/
theorem accepts_converted (hoff : validator.options.convert = false) (hrule : rule.NoFunction)
    (hkind : rule.typeName.bind Checker.Kind.ofTypeName? = some kind) {context : Checker.Context}
    (h : (kind.run context rule (validator.converted rule siblings value)).Accepts)
    (others : Json.Members) :
    let before := validator.converted rule siblings value
    let after := validator.converting.converted rule others value
    (kind.run context rule after).Accepts ∧ Json.alike before after = true ∧
      (before.isStructured = true → after = before) := by
  intro before after
  have hkept (hsame : after = before) : (kind.run context rule after).Accepts ∧
      Json.alike before after = true ∧ (before.isStructured = true → after = before) := by
    rw [hsame]
    exact ⟨h, Json.alike_refl _, fun _ => rfl⟩
  cases hrequest : rule.conversion with
  | some request => exact hkept (converted_of_request hreg hrule hrequest value)
  | none =>
    cases hvalue : value.isStructured with
    | true =>
      exact hkept ((converted_of_structured hvalue).trans (converted_of_structured hvalue).symm)
    | false =>
      have hbefore : before = value := converted_eq_self hoff hrequest value
      obtain ⟨typeName, htype, hfound⟩ := Option.bind_eq_some_iff.1 hkind
      have hcoercion : validator.converting.coercionFor? rule = kind.coercion?.map .builtin := by
        rw [← Checker.Kind.coercionFor?_eq hfound, ← hreg]
        simp [coercionFor?, hrequest, htype, converting]
      cases hdefault : kind.coercion? with
      | none =>
        have hafter : after = value := by
          unfold after converted
          rw [hvalue, hcoercion, hdefault]
          rfl
        exact hkept (hafter.trans hbefore.symm)
      | some coercion =>
        have hafter : after = coercion.apply value := by
          unfold after converted
          rw [hvalue, hcoercion, hdefault]
          rfl
        have haccepted : (kind.run context rule value).Accepts := hbefore ▸ h
        obtain ⟨hagain, halike⟩ := Checker.Kind.accepts_apply hdefault haccepted
        rw [hafter, hbefore]
        exact ⟨hagain, halike, fun hstructured => by rw [hvalue] at hstructured; cases hstructured⟩

end

/-! ## One field -/

/-- **A check under a rule conserves what it accepts**: among siblings that are alike it accepts the
same value in the run that converts, and leaves it alike. -/
def Conserves (validator : Validator) (depth : Nat) (kind : Checker.Kind) (rule : Rule) : Prop :=
  ∀ field siblings others value, Json.alikeMembers siblings others = true →
    (kind.run (validator.context depth field siblings) rule value).Accepts →
      (kind.run (validator.converting.context depth field others) rule value).Accepts ∧
        Json.alike (kind.run (validator.context depth field siblings) rule value).value
          (kind.run (validator.converting.context depth field others) rule value).value = true

/-- A check that does not look inside a value does. -/
theorem conserves_scalar (hobject : kind ≠ .object) (harray : kind ≠ .array) (depth : Nat)
    (rule : Rule) : validator.Conserves depth kind rule := by
  intro field siblings others value halike haccepted
  have hsame : kind.run (validator.context depth field siblings) rule value =
      kind.run (validator.converting.context depth field others) rule value :=
    Checker.Kind.run_siblings_congr hobject harray (by simp) (by simp) (by simpa using halike)
      rule value
  rw [← hsame]
  exact ⟨haccepted, Json.alike_refl _⟩

/-- Slots that are alike are written back alike. -/
theorem alikeMembers_fill {first second : Json.Members} {other : Option Json}
    (h : Json.alikeMembers first second = true) (hslot : Json.alikeSlots slot other = true)
    (name : String) :
    Json.alikeMembers (Entries.fill first name slot) (Entries.fill second name other) = true := by
  cases slot with
  | none =>
    cases other with
    | none => exact h
    | some value => cases hslot
  | some value =>
    cases other with
    | none => cases hslot
    | some found => exact Json.alikeMembers_put h hslot name

/-- What is no object is accepted if the check of the root and a run over no fields accept it. -/
theorem validateIn_eq_nil_iff {context : String → Json.Members → Checker.Context}
    {rules : RuleSet} {target : Json} (hother : ∀ fields, target ≠ .object fields) :
    (validator.validateIn context rules target).result = .ok [] ↔
      (validator.options.validateRoot && !target.isStructured) = false ∧
        (validator.validateFields context rules.entries []).result = .ok [] := by
  unfold validateIn
  cases hroot : validator.options.validateRoot && !target.isStructured with
  | true => simp
  | false =>
    cases target with
    | object fields => exact absurd rfl (hother fields)
    | _ => simp

section

variable (hreg : validator.registry = .builtin) (hoff : validator.options.convert = false)
variable {depth : Nat}

include hreg hoff

/-- **A step that accepts its slot accepts it with conversion as well.** -/
theorem validateSlot_conserves (hrule : rule.NoFunction)
    (hchecks : ∀ kind, validator.Conserves depth kind rule)
    (halike : Json.alikeMembers siblings others = true)
    (h : (validator.validateSlot (validator.context depth) rule name siblings slot).result =
      .ok []) :
    (validator.converting.validateSlot (validator.converting.context depth) rule name others
        slot).result = .ok [] ∧
      Json.alikeSlots
        (validator.validateSlot (validator.context depth) rule name siblings slot).target
        (validator.converting.validateSlot (validator.converting.context depth) rule name others
          slot).target = true := by
  rcases validateSlot_eq_ok h with ⟨-, -, herrors⟩ | ⟨hgiven, hrequired, -, htarget⟩ |
    ⟨value, checker, verdict, hgiven, hrequire, hverdict, herrors, htarget⟩
  · cases herrors
  · rw [htarget, validateSlot_optional hgiven hrequired]
    exact ⟨rfl, Json.alikeSlots_refl _⟩
  · obtain ⟨kind, hkind, rfl⟩ := Registry.require_builtin.1 (hreg ▸ hrequire)
    have haccepted : (kind.run (validator.context depth name (Entries.put siblings name .null))
        rule (validator.converted rule siblings value)).Accepts :=
      ⟨verdict, hverdict, fieldErrors_eq_nil_iff.1 herrors.symm⟩
    -- first the conversion in one context, then the same value in both contexts
    obtain ⟨hconverted, hvalues, hinside⟩ :=
      accepts_converted hreg hoff hrule hkind haccepted others
    have hput := Json.alikeMembers_put halike (Json.alike_refl .null) name
    obtain ⟨⟨found, hfound, hvalid⟩, hleft⟩ := hchecks kind name _ _ _ hput hconverted
    have hregistered : validator.converting.registry.require rule.typeName =
        .ok (.builtin kind) := hrequire
    rw [htarget, validateSlot_checked hgiven hregistered]
    simp only [Checker.run]
    refine ⟨?_, ?_⟩
    · rw [hfound]
      exact congrArg Except.ok (fieldErrors_eq_nil_iff.2 hvalid)
    · cases hstructured : (validator.converted rule siblings value).isStructured with
      | true => rwa [hinside hstructured] at hleft ⊢
      | false =>
        have hscalar : (validator.converting.converted rule others value).isStructured = false :=
          (Json.isStructured_of_alike hvalues).trans hstructured
        rw [Checker.Kind.run_value_of_scalar kind hstructured,
          Checker.Kind.run_value_of_scalar kind hscalar]
        exact hvalues

/-! ## Runs -/

/-- **A run over fields that accepts them accepts them with conversion as well.** The fields before
are alike, and those still to come are the same. -/
theorem validateFields_conserves (entries : List (String × Spec))
    (hnames : (Entries.names entries).Nodup)
    (hrules : ∀ entry ∈ entries, entry.2.normalize.NoFunction)
    (hchecks : ∀ entry ∈ entries, ∀ kind, validator.Conserves depth kind entry.2.normalize) :
    ∀ before after, Json.alikeMembers before after = true →
      (∀ name ∈ Entries.names entries, Entries.value? after name = Entries.value? before name) →
      (validator.validateFields (validator.context depth) entries before).result = .ok [] →
        (validator.converting.validateFields (validator.converting.context depth) entries
            after).result = .ok [] ∧
          Json.alikeMembers
            (validator.validateFields (validator.context depth) entries before).target
            (validator.converting.validateFields (validator.converting.context depth) entries
              after).target = true := by
  induction entries with
  | nil => exact fun before after halike _ _ => ⟨rfl, halike⟩
  | cons entry rest ih =>
    obtain ⟨name, spec⟩ := entry
    obtain ⟨hfresh, hrestNames⟩ := List.nodup_cons.1 hnames
    intro before after halike hsame h
    obtain ⟨turn, later, hturn, hlater, herrors, htarget⟩ := validateFields_cons_eq_ok h
    obtain ⟨rfl, rfl⟩ := List.append_eq_nil_iff.1 herrors.symm
    -- the slot is the same in both runs, and what is around it is alike
    have hslot := hsame name (by simp)
    have hprepared : Json.alikeMembers (prepared validator.options spec.normalize name before)
        (prepared validator.options spec.normalize name after) = true := by
      rw [prepared_eq, prepared_eq, hslot]
      exact alikeMembers_fill halike (Json.alikeSlots_refl _) name
    rw [htarget]
    rw [validateField_eq] at hturn hlater ⊢
    obtain ⟨hturnAfter, hleft⟩ := validateSlot_conserves hreg hoff (hrules (name, spec) (by simp))
      (hchecks (name, spec) (by simp)) hprepared hturn
    have hfield : validator.converting.validateField (validator.converting.context depth)
        spec.normalize name after = _ := validateField_eq
    rw [ready_converting, prepared_converting, hslot] at hfield
    have hrest := ih hrestNames
      (fun entry hentry => hrules entry (List.mem_cons_of_mem _ hentry))
      (fun entry hentry => hchecks entry (List.mem_cons_of_mem _ hentry)) _ _
      (alikeMembers_fill halike hleft name) (fun other hother => by
        have hne : other ≠ name := fun heq => hfresh (heq ▸ hother)
        rw [Entries.value?_fill_of_ne _ _ hne, Entries.value?_fill_of_ne _ _ hne]
        exact hsame other (by simp [hother])) hlater
    rw [validateFields_cons_ok (by rw [hfield]; exact hturnAfter), hfield]
    dsimp only
    rw [hrest.1]
    exact ⟨rfl, hrest.2⟩

/-- So does a validation of a value. -/
theorem validateIn_conserves {rules : RuleSet} (hnames : rules.names.Nodup)
    (hrules : ∀ entry ∈ rules.entries, entry.2.normalize.NoFunction)
    (hchecks : ∀ entry ∈ rules.entries, ∀ kind,
      validator.Conserves depth kind entry.2.normalize) (target : Json)
    (h : (validator.validateIn (validator.context depth) rules target).result = .ok []) :
    (validator.converting.validateIn (validator.converting.context depth) rules target).result =
        .ok [] ∧
      Json.alike (validator.validateIn (validator.context depth) rules target).target
        (validator.converting.validateIn (validator.converting.context depth) rules
          target).target = true := by
  have hruns (fields : Json.Members) := validateFields_conserves hreg hoff rules.entries hnames
    hrules hchecks fields fields (Json.alikeMembers_refl fields) fun _ _ => rfl
  by_cases hobject : ∃ fields, target = .object fields
  · obtain ⟨fields, rfl⟩ := hobject
    rw [validateIn_object] at h
    rw [validateIn_object, validateIn_object]
    obtain ⟨hresult, halike⟩ := hruns fields h
    exact ⟨hresult, halike⟩
  · have hother : ∀ fields, target ≠ .object fields := fun fields heq => hobject ⟨fields, heq⟩
    rw [target_validateIn_of_not_object hother, target_validateIn_of_not_object hother]
    obtain ⟨hroot, hfields⟩ := (validateIn_eq_nil_iff hother).1 h
    exact ⟨(validateIn_eq_nil_iff hother).2 ⟨hroot, (hruns [] hfields).1⟩, Json.alike_refl _⟩

/-! ## Checks inside -/

/-- The check of an object does if the checks of its fields do. -/
theorem conserves_object (hnames : rule.DistinctNames)
    (hrules : ∀ schema, rule.schema = some schema → ∀ entry ∈ schema.entries,
      entry.2.normalize.NoFunction)
    (hchecks : ∀ schema, rule.schema = some schema → ∀ entry ∈ schema.entries, ∀ kind,
      validator.Conserves depth kind entry.2.normalize) :
    validator.Conserves (depth + 1) .object rule := by
  intro field siblings others value _ haccepted
  obtain ⟨verdict, hverdict, hvalid⟩ := haccepted
  simp only [Checker.Kind.run] at hverdict ⊢
  cases hvalue : value.isStructured with
  | false =>
    rw [Checker.object_of_scalar hvalue] at hverdict
    cases hverdict
    cases hvalid
  | true =>
    cases hschema : rule.schema with
    | none =>
      rw [Checker.object_of_schema_none hvalue hschema,
        Checker.object_of_schema_none hvalue hschema]
      exact ⟨⟨.valid, rfl, rfl⟩, Json.alike_refl _⟩
    | some schema =>
      rw [Checker.object_of_schema hvalue hschema] at hverdict ⊢
      rw [Checker.object_of_schema hvalue hschema]
      have hresult := Checker.result_of_verdict hverdict hvalid
      obtain ⟨hafter, halike⟩ := validateIn_conserves hreg hoff (hnames schema hschema)
        (hrules schema hschema) (hchecks schema hschema) value hresult
      refine ⟨⟨.valid, ?_, rfl⟩, halike⟩
      simp only [context_validate, Validated.verdict, hafter]
      rfl

omit hoff in
/-- The check of an array does if the checks of its items do. -/
theorem conserves_array (hchecks : ∀ itemType kind, rule.itemType = some itemType →
      Checker.Kind.ofTypeName? itemType = some kind →
        validator.Conserves depth kind (Checker.itemRule rule itemType)) :
    validator.Conserves (depth + 1) .array rule := by
  intro field siblings others value _ haccepted
  obtain ⟨verdict, hverdict, hvalid⟩ := haccepted
  simp only [Checker.Kind.run] at hverdict ⊢
  cases value with
  | array items =>
    cases hlength : rule.brokenLength? items.length with
    | some broken =>
      rw [Checker.array_of_broken hlength] at hverdict
      cases hverdict
      cases hvalid
    | none =>
      cases htype : rule.itemType with
      | none =>
        rw [Checker.array_of_itemType_none hlength htype,
          Checker.array_of_itemType_none hlength htype]
        exact ⟨⟨.valid, rfl, rfl⟩, Json.alike_refl _⟩
      | some itemType =>
        cases hrequire : validator.registry.require (some itemType) with
        | error e =>
          rw [Checker.array_of_require_error hlength htype (context_require_error hrequire)]
            at hverdict
          cases hverdict
        | ok checker =>
          obtain ⟨kind, hkind, rfl⟩ := Registry.require_builtin.1 (hreg ▸ hrequire)
          have hregistered : validator.converting.registry.require (some itemType) =
              .ok (.builtin kind) := hrequire
          rw [Checker.array_of_require hlength htype (context_require_ok hrequire)] at hverdict ⊢
          rw [Checker.array_of_require hlength htype (context_require_ok hregistered)]
          simp only [Checker.run, Checker.items_builtin] at hverdict ⊢
          have hresult := Checker.result_of_verdict hverdict hvalid
          -- the items have no siblings in either run
          obtain ⟨hafter, halike⟩ := Checker.items_accepted
            (fun item => hchecks itemType kind htype hkind field [] [] item rfl)
            items 0 _ (Checker.itemRule rule itemType) hresult
          refine ⟨⟨.valid, ?_, rfl⟩, halike⟩
          simp only [Validated.verdict, hafter]
          rfl
  | _ =>
    cases hverdict
    cases hvalid

/-- **Every check that is deep enough conserves what it accepts.** -/
theorem conserves (depth : Nat) (kind : Checker.Kind) (rule : Rule)
    (hrule : rule.All Rule.Declarative) (hcalls : kind.calls rule ≤ depth) :
    validator.Conserves depth kind rule := by
  refine Checker.Kind.descent Rule.declarative_typeName (P := validator.Conserves) ?scalar ?object
    ?array depth kind rule hrule hcalls
  case scalar =>
    exact fun depth kind rule _ hobject harray => conserves_scalar hobject harray depth rule
  case object =>
    intro depth rule hrule hinside
    refine conserves_object hreg hoff hrule.self.distinctNames
      (fun schema hschema entry hentry => ?_)
      fun schema hschema entry hentry => hinside schema hschema entry.1 entry.2 hentry
    exact ((hrule.of_schema hschema).normalize hentry).self.noFunction
  case array => exact fun depth rule _ hinside => conserves_array hreg hinside

end

/-- **Conversion is conservative.** With the built-in types, whatever the other options, for all
rules that ask for no function of the caller and for all data: if a validator that does not convert
finds nothing wrong, neither does the same validator with conversion, and the data that the two
leave are the same up to the representation of numbers, with the same names in the same order. -/
theorem validate_conservative (validator : Validator) (hreg : validator.registry = .builtin)
    (hoff : validator.options.convert = false) (rules : RuleSet) (hrules : rules.WellFormed)
    (hfunctions : rules.All Rule.NoFunction) (target : Json)
    (h : (validator.validate rules target).result = .ok []) :
    (validator.converting.validate rules target).result = .ok [] ∧
      Json.alike (validator.validate rules target).target
        (validator.converting.validate rules target).target = true := by
  have hall : rules.All Rule.Declarative :=
    fun r hr => ⟨hrules.all_distinctNames r hr, hfunctions r hr⟩
  have hdepth : validator.converting.depth rules = validator.depth rules := rfl
  unfold validate at h ⊢
  rw [hdepth]
  exact validateIn_conserves hreg hoff hrules.names_nodup
    (fun entry hentry => (hfunctions.normalize hentry).self)
    (fun entry hentry kind => conserves hreg hoff _ kind _ (hall.normalize hentry)
      (validator.calls_le_depth hentry kind)) target h

/-- A registration: a password that may be empty and is repeated, and numbers at two levels. -/
def signupRules : RuleSet :=
  ⟨[("password", .record { typeName := some "password", allowEmpty := some true }),
    ("again", .record
      { typeName := some "password", allowEmpty := some true, compare := some "password" }),
    ("age", .typeName "int"),
    ("profile", .record
      { typeName := some "object"
        schema := some ⟨[("height", .typeName "number"), ("public", .typeName "bool?")]⟩ })]⟩

/-- A registration that needs no conversion is accepted with it; only its numbers are written
differently. -/
theorem validate_conservative_signupRules :
    let data : Json := .object
      [("password", .string ""), ("again", .string ""),
        ("age", .number (.float (.ofInt 40 (by decide)))),
        ("profile", .object [("height", .number (.float (.ofInt 180 (by decide))))])]
    let off := validate {} signupRules data
    let on := (converting {}).validate signupRules data
    off.result = .ok [] ∧ off.target.same on.target = false ∧
      on.result = .ok [] ∧ off.target.alike on.target = true := by
  intro data off on
  have haccepted : (validate {} signupRules data).result = .ok [] := by decide +kernel
  have hwritten : off.target.same on.target = false := by decide +kernel
  exact ⟨haccepted, hwritten,
    validate_conservative {} rfl rfl signupRules (by decide) (by decide) data haccepted⟩

end Validator

end Rulebook
