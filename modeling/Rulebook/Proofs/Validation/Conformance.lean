import Rulebook.Proofs.Urls.Capture
import Rulebook.Proofs.Validation.Depth
import Rulebook.Proofs.Validation.Frame
/-!
# Validation — acceptance is sound

What a validation with the built-in types accepts conforms to its rules, at every depth. `Conforms`
says when a value conforms to the rule of a built-in type, one constructor for each type, and
`Satisfies` when the fields of an object conform to a rule set; neither of them runs a checker. The
proof follows the calls. A context is sound if what it lets through conforms
(`Checker.Context.Sound`), a check in a sound context is sound (`Checker.Kind.run_conforms`), a run
over fields in sound contexts is sound (`Validator.validateFields_satisfies`), and so the contexts
of all depths are (`Validator.context_sound`).
-/

namespace Rulebook

/-! ## Bounds and texts -/

/-- A number is within the bounds of a rule. It is counted in the smallest units of the doubles. -/
structure Rule.Within (rule : Rule) (units : Int) : Prop where
  min_le : ∀ min, rule.min = some min → min.signedUnits ≤ units
  le_max : ∀ max, rule.max = some max → units ≤ max.signedUnits

/-- A length is within the bounds of a rule. -/
def Rule.WithinLength (rule : Rule) (length : Nat) : Prop :=
  rule.Within (Binary64.unitsPerOne * length : Nat)

/-- The length of a password is within the bounds of its rule, and at least six if the rule gives no
least length or zero. -/
structure Rule.WithinPassword (rule : Rule) (length : Nat) : Prop where
  min_le : ∀ min, rule.min = some min → min.isZero = false →
    min.signedUnits ≤ (Binary64.unitsPerOne * length : Nat)
  six_le : (∀ min, rule.min = some min → min.isZero = true) → 6 ≤ length
  le_max : ∀ max, rule.max = some max → (Binary64.unitsPerOne * length : Nat) ≤ max.signedUnits

/-- Whether a type of texts accepts an empty one. The types of a fixed format know only the newer
flag, the others both. -/
def Checker.Kind.allowsEmpty (kind : Checker.Kind) (rule : Rule) : Bool :=
  match kind with
  | .string | .password | .url => rule.allowsEmpty
  | .id | .date | .dateTime | .email => rule.allowEmpty.getD !rule.isRequired
  | _ => false

/-- The fixed format of a type. -/
def Checker.Kind.format? : Checker.Kind → Option Pattern
  | .id => some Formats.id
  | .date => some Formats.date
  | .dateTime => some Formats.dateTime
  | .email => some Formats.email
  | _ => none

/-! ## Conformity -/

mutual

/-- **A value conforms to a rule of a type.** -/
inductive Conforms : Checker.Kind → Rule → Json → Prop where
  | number {rule n} (hbounds : rule.Within n.toBinary64.signedUnits) :
    Conforms .number rule (.number n)
  | integer {rule n} (hintegral : n.toBinary64.isIntegral = true)
    (hbounds : rule.Within n.toBinary64.signedUnits) : Conforms .integer rule (.number n)
  | empty {kind rule} (hempty : kind.allowsEmpty rule = true) : Conforms kind rule (.string "")
  | string {rule text} (hfilled : text ≠ "")
    (hlength : rule.WithinLength (Text.units text.toList))
    (hformat : ∀ format, rule.format = some format → format.isMatch text = true) :
    Conforms .string rule (.string text)
  | formatted {kind rule text format} (hfilled : text ≠ "") (hkind : kind.format? = some format)
    (hformat : format.isMatch text = true) : Conforms kind rule (.string text)
  | password {rule text} (hfilled : text ≠ "")
    (hlength : rule.WithinPassword (Text.units text.toList))
    (hformat : Formats.password.isMatch text = true) : Conforms .password rule (.string text)
  | url {rule text start} (hfilled : text ≠ "") (hhost : Url.PublicAt text.toList.toArray start) :
    Conforms .url rule (.string text)
  | boolean {rule value} : Conforms .boolean rule (.bool value)
  | enumeration {rule values allowed value} (hvalues : rule.values = some values)
    (hallowed : allowed ∈ values) (hsame : allowed.sameValue value = true) :
    Conforms .enumeration rule value
  | anyItems {rule items} (hlength : rule.WithinLength items.length)
    (htype : rule.itemType = none) : Conforms .array rule (.array items)
  | items {rule items itemType kind} (hlength : rule.WithinLength items.length)
    (htype : rule.itemType = some itemType) (hkind : Checker.Kind.ofTypeName? itemType = some kind)
    (hitems : ∀ item ∈ items, Conforms kind (Checker.itemRule rule itemType) item) :
    Conforms .array rule (.array items)
  | anyFields {rule value} (hvalue : value.isStructured = true) (hschema : rule.schema = none) :
    Conforms .object rule value
  | fields {rule value schema} (hvalue : value.isStructured = true)
    (hschema : rule.schema = some schema) (hfields : Satisfies schema value.fields) :
    Conforms .object rule value

/-- A field conforms to its rule: it is absent or the default where it is optional, or it has a
value that conforms. -/
inductive FieldConforms : Rule → Option Json → Prop where
  | absent {rule slot} (hrule : rule.isRequired = false) (hslot : slot = none ∨ slot = some .null) :
    FieldConforms rule slot
  | fallback {rule value} (hrule : rule.isRequired = false)
    (hvalue : rule.fallback = some value) : FieldConforms rule (some value)
  | present {rule value kind} (hkind : rule.typeName.bind Checker.Kind.ofTypeName? = some kind)
    (hvalue : Conforms kind rule value) : FieldConforms rule (some value)

/-- Every field of a rule set conforms to its rule. -/
inductive Satisfies : RuleSet → Json.Members → Prop where
  | intro {rules fields} (h : ∀ name spec, (name, spec) ∈ rules.entries →
      FieldConforms spec.normalize (Entries.value? fields name)) : Satisfies rules fields

end

variable {rule : Rule} {value : Json} {say : Formatter}

/-! ## Scalars -/

/-- A number that breaks no bound is within all of them. -/
theorem Rule.within_of_brokenBound? {units : Int} (h : rule.brokenBound? units = none) :
    rule.Within units := by
  unfold Rule.brokenBound? at h
  split at h
  · cases h
  · rename_i hmax
    simp only [Option.map_eq_none_iff, Option.filter_eq_none_iff, decide_eq_true_eq,
      Int.not_lt] at h hmax
    exact ⟨h, hmax⟩

/-- And a number within the bounds breaks none. -/
theorem Rule.brokenBound?_eq_none_iff {units : Int} :
    rule.brokenBound? units = none ↔ rule.Within units := by
  refine ⟨Rule.within_of_brokenBound?, fun h => ?_⟩
  have hmax : rule.max.filter (fun max => max.signedUnits < units) = none := by
    simpa [Option.filter_eq_none_iff, Int.not_lt] using h.le_max
  have hmin : rule.min.filter (fun min => units < min.signedUnits) = none := by
    simpa [Option.filter_eq_none_iff, Int.not_lt] using h.min_le
  unfold Rule.brokenBound?
  rw [hmax, hmin]
  rfl

/-- The bounds that a password rule ends up with are those of passwords. -/
theorem Rule.withinPassword_of_withinLength {length : Nat}
    (h : (Checker.passwordRule rule).WithinLength length) : rule.WithinPassword length := by
  refine ⟨fun min hmin hzero => ?_, fun hnone => ?_, h.le_max⟩
  · exact h.min_le min (by simp [Checker.passwordRule, hmin, Option.filter_some, hzero])
  · have hleast : rule.min.filter (fun min => !min.isZero) = none := by
      simpa [Option.filter_eq_none_iff] using hnone
    have hle := h.min_le Checker.leastPassword (by simp [Checker.passwordRule, hleast])
    have hsix : Checker.leastPassword.signedUnits = (Binary64.unitsPerOne * 6 : Nat) := by
      decide +kernel
    have hpos : 0 < Binary64.unitsPerOne := by
      decide +kernel
    rw [hsix] at hle
    exact Nat.le_of_mul_le_mul_left (Int.ofNat_le.1 hle) hpos

namespace Checker

/-- A number that is accepted. -/
theorem within_of_number {n : Json.Number} (h : (number say rule (.number n)).isValid = true) :
    rule.Within n.toBinary64.signedUnits := by
  refine Rule.within_of_brokenBound? ?_
  cases hbroken : rule.brokenBound? n.toBinary64.signedUnits with
  | none => rfl
  | some broken => simp [number, hbroken, Verdict.ofReason, Verdict.isValid] at h

/-- **A text that is accepted** is empty where it may be, or within the bounds and of the format. -/
theorem text_valid (h : (text say rule value).isValid = true) :
    ∃ s, value = .string s ∧ (s = "" ∧ rule.allowsEmpty = true ∨
      s ≠ "" ∧ rule.WithinLength (Text.units s.toList) ∧
        ∀ format, rule.format = some format → format.isMatch s = true) := by
  cases value with
  | string s =>
    refine ⟨s, rfl, ?_⟩
    by_cases hs : s = ""
    · cases hempty : rule.allowsEmpty with
      | true => exact .inl ⟨hs, rfl⟩
      | false => simp [Checker.text, hs, emptyText, hempty, Verdict.isValid] at h
    · have hfilled : s.isEmpty = false := by simpa using hs
      simp only [Checker.text, hfilled, filledText] at h
      refine .inr ⟨hs, ?_⟩
      cases hlength : rule.brokenLength? (Text.units s.toList) with
      | some broken => simp [hlength, Verdict.isValid] at h
      | none =>
        refine ⟨Rule.within_of_brokenBound? hlength, fun format hformat => ?_⟩
        cases hmatch : format.isMatch s with
        | true => rfl
        | false => simp [hlength, hformat, hmatch, Verdict.isValid] at h
  | _ => simp [Checker.text, Verdict.isValid] at h

/-- A text of a fixed format that is accepted. -/
theorem conforms_of_formatted {kind : Kind} {format : Pattern} {message : Option String}
    (hformat : kind.format? = some format)
    (hempty : kind.allowsEmpty rule = rule.allowEmpty.getD !rule.isRequired)
    (h : (text say (formatRule rule format message) value).isValid = true) :
    Conforms kind rule value := by
  obtain ⟨s, rfl, ⟨rfl, hs⟩ | ⟨hfilled, -, hmatch⟩⟩ := text_valid h
  · refine .empty (hempty.trans ?_)
    cases hallow : rule.allowEmpty <;>
      simpa [Rule.allowsEmpty, Rule.isRequired, formatRule, hallow] using hs
  · exact .formatted hfilled hformat (hmatch format rfl)

/-- A password that is accepted is so as a text. -/
theorem text_of_password {siblings : Json.Members}
    (h : (Checker.password say siblings rule value).isValid = true) :
    (text say (passwordRule rule) value).isValid = true := by
  unfold Checker.password at h
  cases hvalid : (text say (passwordRule rule) value).isValid with
  | true => rfl
  | false => simp [hvalid] at h

/-- A password that is accepted. -/
theorem conforms_of_password {siblings : Json.Members}
    (h : (Checker.password say siblings rule value).isValid = true) :
    Conforms .password rule value := by
  obtain ⟨s, rfl, ⟨rfl, hs⟩ | ⟨hfilled, hlength, hmatch⟩⟩ := text_valid (text_of_password h)
  · exact .empty hs
  · exact .password hfilled (Rule.withinPassword_of_withinLength hlength)
      (hmatch Formats.password rfl)

/-- A URL that is accepted. -/
theorem conforms_of_url (h : (Checker.url say rule value).isValid = true) :
    Conforms .url rule value := by
  cases value with
  | string s =>
    by_cases hs : s = ""
    · subst hs
      cases hempty : rule.allowsEmpty with
      | true => exact .empty hempty
      | false => simp [Checker.url, emptyText, hempty, Verdict.isValid] at h
    · cases hpublic : Url.isPublic s with
      | true =>
        obtain ⟨start, hstart⟩ := (Url.isPublic_iff s).1 hpublic
        exact .url hs hstart
      | false => simp [Checker.url, hs, hpublic, Verdict.isValid] at h
  | _ => simp [Checker.url, Verdict.isValid] at h

/-- And a text that conforms is a URL whose captured host is public, unless it is empty. -/
theorem isPublic_of_conforms {text : String} (hfilled : text ≠ "")
    (h : Conforms .url rule (.string text)) : Url.isPublic text = true := by
  cases h with
  | empty => exact absurd rfl hfilled
  | formatted _ hkind => cases hkind
  | url _ hhost => exact (Url.isPublic_iff text).2 ⟨_, hhost⟩

/-- A value of an enumeration that is accepted. -/
theorem conforms_of_enumeration {field : String} {verdict : Verdict}
    (h : Checker.enumeration say field rule value = .ok verdict) (hvalid : verdict.isValid = true) :
    Conforms .enumeration rule value := by
  unfold Checker.enumeration at h
  split at h
  · cases h
  · rename_i values hvalues
    split at h
    · rename_i hany
      obtain ⟨allowed, hallowed, hsame⟩ := List.any_eq_true.1 hany
      exact .enumeration hvalues hallowed hsame
    · cases h
      cases hvalid

/-! ## Objects and arrays -/

/-- **A context is sound** if what it lets through conforms, objects and the items of arrays alike.
-/
structure Context.Sound (context : Context) : Prop where
  /-- Nested data are validated soundly, and remain an object or an array. -/
  validate : ∀ rules target, rules.WellFormed → target.isStructured = true →
    (context.validate rules target).result = .ok [] →
      (context.validate rules target).target.isStructured = true ∧
        Satisfies rules (context.validate rules target).target.fields
  /-- The checker of another type is sound for all the items it is run on. -/
  items : ∀ itemType check, context.require itemType = .ok check →
    ∃ kind, Kind.ofTypeName? itemType = some kind ∧
      ∀ siblings rule values, rule.All Rule.DistinctNames →
        (Checker.items (check siblings) 0 rule values).result = .ok [] →
          ∀ item ∈ (Checker.items (check siblings) 0 rule values).target, Conforms kind rule item

/-- Nothing was found if the verdict is that nothing is wrong. -/
theorem result_of_verdict {α : Type} {validated : Validated α} {verdict : Verdict}
    (h : validated.verdict = .ok verdict) (hvalid : verdict.isValid = true) :
    validated.result = .ok [] := by
  obtain ⟨errors, hresult, rfl⟩ := exists_of_verdict h
  cases errors with
  | nil => exact hresult
  | cons first rest => cases hvalid

/-- The check of the items keeps their number. -/
theorem length_target_items (check : Rule → Json → Checked) (values : List Json) :
    ∀ index rule, (Checker.items check index rule values).target.length = values.length := by
  induction values with
  | nil => exact fun _ _ => rfl
  | cons item rest ih =>
    intro index rule
    simp only [Checker.items]
    split
    · rfl
    · simp [ih]

/-- A verdict gives an item no errors exactly if nothing is wrong. -/
theorem itemErrors_eq_nil_iff {index : Nat} {verdict : Verdict} :
    itemErrors index verdict = [] ↔ verdict.isValid = true := by
  cases verdict <;> simp [itemErrors, Verdict.isValid]

/-- The items that a check leaves without an error are accepted by it, one by one. -/
theorem items_valid (check : Json → Checked) (rule : Rule) (values : List Json) :
    ∀ index, (Checker.items (fun _ => check) index rule values).result = .ok [] →
      ∀ item ∈ (Checker.items (fun _ => check) index rule values).target,
        ∃ before verdict, (check before).verdict = .ok verdict ∧ verdict.isValid = true ∧
          item = (check before).value := by
  induction values generalizing rule with
  | nil => exact fun _ _ item hitem => nomatch hitem
  | cons first rest ih =>
    intro index h item hitem
    obtain ⟨verdict, others, hverdict, hothers, herrors, htarget⟩ := items_cons_eq_ok h
    obtain ⟨hfirst, rfl⟩ := List.append_eq_nil_iff.1 herrors.symm
    rw [htarget] at hitem
    rcases List.mem_cons.1 hitem with rfl | hitem
    · exact ⟨first, verdict, hverdict, itemErrors_eq_nil_iff.1 hfirst, rfl⟩
    · exact ih _ _ hothers item hitem

/-- An object that is accepted conforms, with all its fields. -/
theorem object_conforms {context : Context} (hcontext : context.Sound)
    (hrule : rule.All Rule.DistinctNames) {verdict : Verdict}
    (h : (Checker.object context rule value).verdict = .ok verdict)
    (hvalid : verdict.isValid = true) :
    Conforms .object rule (Checker.object context rule value).value := by
  cases hstructured : value.isStructured with
  | false =>
    rw [object_of_scalar hstructured] at h
    cases h
    cases hvalid
  | true =>
    cases hschema : rule.schema with
    | none =>
      rw [object_of_schema_none hstructured hschema]
      exact .anyFields hstructured hschema
    | some schema =>
      rw [object_of_schema hstructured hschema] at h ⊢
      obtain ⟨hvalue, hfields⟩ := hcontext.validate schema value (hrule.wellFormed hschema)
        hstructured (result_of_verdict h hvalid)
      exact .fields hvalue hschema hfields

/-- An array that is accepted conforms, with all its items. -/
theorem array_conforms {context : Context} (hcontext : context.Sound)
    (hrule : rule.All Rule.DistinctNames) {verdict : Verdict}
    (h : (Checker.array context rule value).verdict = .ok verdict)
    (hvalid : verdict.isValid = true) :
    Conforms .array rule (Checker.array context rule value).value := by
  cases value with
  | array values =>
    cases hlength : rule.brokenLength? values.length with
    | some broken =>
      rw [array_of_broken hlength] at h
      cases h
      cases hvalid
    | none =>
      have hwithin : rule.WithinLength values.length := Rule.within_of_brokenBound? hlength
      cases htype : rule.itemType with
      | none =>
        rw [array_of_itemType_none hlength htype]
        exact .anyItems hwithin htype
      | some itemType =>
        cases hrequire : context.require itemType with
        | error e =>
          rw [array_of_require_error hlength htype hrequire] at h
          cases h
        | ok check =>
          rw [array_of_require hlength htype hrequire] at h ⊢
          obtain ⟨kind, hkind, hitems⟩ := hcontext.items itemType check hrequire
          refine .items ?_ htype hkind
            (hitems [] (itemRule rule itemType) values ?_ (result_of_verdict h hvalid))
          · rw [length_target_items]
            exact hwithin
          · refine itemRule_all hrule ?_
            exact Spec.of_normalize_typeName (fun _ _ _ h => nomatch h) itemType
  | _ =>
    cases h
    cases hvalid

/-- **A built-in check in a sound context is sound.** -/
theorem Kind.run_conforms {kind : Kind} {context : Context} (hcontext : context.Sound)
    (hrule : rule.All Rule.DistinctNames) {verdict : Verdict}
    (h : (kind.run context rule value).verdict = .ok verdict) (hvalid : verdict.isValid = true) :
    Conforms kind rule (kind.run context rule value).value := by
  cases kind with
  | number =>
    cases h
    cases value with
    | number n => exact .number (within_of_number hvalid)
    | _ => cases hvalid
  | integer =>
    cases h
    cases value with
    | number n =>
      cases hintegral : n.toBinary64.isIntegral with
      | true =>
        simp only [Checker.integer, hintegral] at hvalid
        exact .integer hintegral (within_of_number hvalid)
      | false => simp [Checker.integer, hintegral, Verdict.isValid] at hvalid
    | _ => cases hvalid
  | string =>
    cases h
    obtain ⟨s, rfl, ⟨rfl, hs⟩ | ⟨hfilled, hlength, hformat⟩⟩ := text_valid hvalid
    · exact .empty hs
    · exact .string hfilled hlength hformat
  | id => cases h; exact conforms_of_formatted rfl rfl hvalid
  | date => cases h; exact conforms_of_formatted rfl rfl hvalid
  | dateTime => cases h; exact conforms_of_formatted rfl rfl hvalid
  | email => cases h; exact conforms_of_formatted rfl rfl hvalid
  | boolean =>
    cases h
    cases value with
    | bool b => exact .boolean
    | _ => cases hvalid
  | enumeration => exact conforms_of_enumeration h hvalid
  | password => cases h; exact conforms_of_password hvalid
  | url => cases h; exact conforms_of_url hvalid
  | object => exact object_conforms hcontext hrule h hvalid
  | array => exact array_conforms hcontext hrule h hvalid

end Checker

namespace Validator

variable {validator : Validator} {context : String → Json.Members → Checker.Context}
variable {name : String} {spec : Spec} {siblings : Json.Members} {slot : Option Json}

/-! ## Fields -/

/-- A verdict gives a field no errors exactly if nothing is wrong. -/
theorem fieldErrors_eq_nil_iff {verdict : Verdict} :
    fieldErrors name rule verdict = [] ↔ verdict.isValid = true := by
  cases verdict <;> simp [fieldErrors, Verdict.isValid]

/-- **A field that is accepted conforms to its rule.** -/
theorem validateSlot_conforms (hreg : validator.registry = .builtin)
    (hcontext : ∀ siblings, (context name siblings).Sound) (hrule : rule.All Rule.DistinctNames)
    (h : (validator.validateSlot context rule name siblings slot).result = .ok []) :
    FieldConforms rule (validator.validateSlot context rule name siblings slot).target := by
  rcases validateSlot_eq_ok h with ⟨-, -, herrors⟩ | ⟨hgiven, hrequired, -, htarget⟩ |
    ⟨value, checker, verdict, -, hrequire, hverdict, herrors, htarget⟩
  · cases herrors
  · rw [htarget]
    cases hfallback : rule.fallback with
    | none => exact .absent hrequired (given?_eq_none_iff.1 hgiven)
    | some value => exact .fallback hrequired hfallback
  · obtain ⟨kind, hkind, rfl⟩ := Registry.require_builtin.1 (hreg ▸ hrequire)
    rw [htarget]
    exact .present hkind (Checker.Kind.run_conforms (hcontext _) hrule hverdict
      (fieldErrors_eq_nil_iff.1 herrors.symm))

/-- A field that is missing is accepted only if it is optional. -/
theorem isRequired_of_missing
    (h : (validator.validateSlot context rule name siblings none).result = .ok []) :
    rule.isRequired = false := by
  cases hrequired : rule.isRequired with
  | false => rfl
  | true => simp [validateSlot_missing given?_none hrequired] at h

/-- **A run that is accepted leaves every field conforming to its rule.** No later turn disturbs it,
the names of the rules being distinct. -/
theorem validateFields_conforms (hreg : validator.registry = .builtin)
    (hcontext : ∀ name siblings, (context name siblings).Sound) (entries : List (String × Spec))
    (hnames : (Entries.names entries).Nodup)
    (hrules : ∀ entry ∈ entries, entry.2.normalize.All Rule.DistinctNames) (fields : Json.Members)
    (h : (validator.validateFields context entries fields).result = .ok []) :
    ∀ name spec, (name, spec) ∈ entries →
      FieldConforms spec.normalize
          (Entries.value? (validator.validateFields context entries fields).target name) ∧
        (Entries.value? fields name = none → spec.normalize.isRequired = false) := by
  induction entries generalizing fields with
  | nil => exact fun _ _ hmem => nomatch hmem
  | cons entry rest ih =>
    obtain ⟨first, firstSpec⟩ := entry
    obtain ⟨hfirst, hrest⟩ := List.nodup_cons.1 hnames
    have hkept := (validateField_framed validator context first firstSpec fields).kept
    obtain ⟨turn, others, hturn, hothers, herrors, htarget⟩ := validateFields_cons_eq_ok h
    obtain ⟨rfl, rfl⟩ := List.append_eq_nil_iff.1 herrors.symm
    intro name spec hmem
    rw [htarget]
    rcases List.mem_cons.1 hmem with hentry | hlater
    · obtain ⟨rfl, rfl⟩ := Prod.mk.inj hentry
      obtain ⟨done, _, _, hframed, _⟩ := validateFields_framed validator context rest hrest
        (validator.validateField context spec.normalize name fields).target
      rw [hframed.kept name hfirst, value?_validateField]
      rw [validateField_eq] at hturn
      refine ⟨validateSlot_conforms hreg (hcontext name) (hrules (name, spec) (by simp)) hturn,
        fun hmissing => ?_⟩
      rw [hmissing] at hturn
      exact isRequired_of_missing hturn
    · obtain ⟨hconforms, hmissing⟩ := ih hrest
        (fun entry hentry => hrules entry (by simp [hentry])) _ hothers name spec hlater
      rw [hkept name (by simpa using Entries.fst_ne_of_mem hfirst hlater)] at hmissing
      exact ⟨hconforms, hmissing⟩

/-- A validation in sound contexts is sound. -/
theorem validateIn_satisfies (hreg : validator.registry = .builtin)
    (hcontext : ∀ name siblings, (context name siblings).Sound) {rules : RuleSet}
    (hrules : rules.WellFormed) {target : Json} (htarget : target.isStructured = true)
    (h : (validator.validateIn context rules target).result = .ok []) :
    (validator.validateIn context rules target).target.isStructured = true ∧
      Satisfies rules (validator.validateIn context rules target).target.fields := by
  have hall : ∀ entry ∈ rules.entries, entry.2.normalize.All Rule.DistinctNames :=
    fun entry hentry => hrules.all_distinctNames.normalize hentry
  cases target with
  | object fields =>
    rw [validateIn_object] at h ⊢
    refine ⟨rfl, .intro fun name spec hmem => ?_⟩
    exact (validateFields_conforms hreg hcontext rules.entries hrules.names_nodup hall fields h
      name spec hmem).1
  | array items =>
    -- an array has no fields, so all rules are optional
    rw [validateIn_array] at h ⊢
    refine ⟨rfl, .intro fun name spec hmem => .absent ?_ (.inl rfl)⟩
    exact (validateFields_conforms hreg hcontext rules.entries hrules.names_nodup hall [] h
      name spec hmem).2 rfl
  | _ => cases htarget

/-- **The contexts of all depths are sound.** -/
theorem context_sound (hreg : validator.registry = .builtin) (depth : Nat) :
    ∀ field siblings, (validator.context depth field siblings).Sound := by
  induction depth with
  | zero =>
    refine fun field siblings => ⟨fun rules target _ _ h => (nomatch h), ?_⟩
    intro itemType check hrequire
    obtain ⟨kind, hkind, hregistered⟩ := exists_kind_of_context_require hreg hrequire
    refine ⟨kind, hkind, fun siblings rule values _ h item hitem => ?_⟩
    simp only [context, hregistered, Except.map, Except.ok.injEq] at hrequire
    subst hrequire
    -- no further call is allowed: only an array without items gets through
    cases values with
    | nil => cases hitem
    | cons first rest => simp [Checker.items] at h
  | succ depth ih =>
    refine fun field siblings => ⟨fun rules target hrules htarget h =>
      validateIn_satisfies hreg ih hrules htarget h, ?_⟩
    intro itemType check hrequire
    obtain ⟨kind, hkind, hregistered⟩ := exists_kind_of_context_require hreg hrequire
    rw [context_require_ok hregistered] at hrequire
    obtain rfl := Except.ok.inj hrequire
    refine ⟨kind, hkind, fun siblings rule values hrule h item hitem => ?_⟩
    simp only [Checker.run] at h hitem
    rw [Checker.items_builtin] at h hitem
    obtain ⟨before, verdict, hverdict, hvalid, rfl⟩ :=
      Checker.items_valid _ rule values 0 h item hitem
    exact Checker.Kind.run_conforms (ih field siblings) hrule hverdict hvalid

/-- **Acceptance is sound at every depth.** Whatever the options, the converters of the caller and
the settings of the rules: if a validation with the built-in types finds no error in an object, then
in the object as it leaves it every field conforms to its rule, and so does everything inside. -/
theorem validate_satisfies (validator : Validator) (hreg : validator.registry = .builtin)
    (rules : RuleSet) (hrules : rules.WellFormed) (fields : Json.Members)
    (h : (validator.validate rules (.object fields)).result = .ok []) :
    ∃ after, (validator.validate rules (.object fields)).target = .object after ∧
      Satisfies rules after := by
  have hsound := validateIn_satisfies hreg (context_sound hreg (validator.depth rules)) hrules rfl h
  rw [validateIn_object] at hsound
  rw [validate, validateIn_object]
  exact ⟨_, rfl, hsound.2⟩

/-- A list of tasks, each with a flag that is off by default. -/
def taskRules : RuleSet :=
  ⟨[("tasks", .record
      { typeName := some "array"
        itemType := some "object"
        schema := some
          ⟨[("done", .record { typeName := some "bool?", fallback := some (.bool false) }),
            ("name", .typeName "string")]⟩ })]⟩

/-- Two tasks, one of them without the flag. -/
theorem validate_satisfies_taskRules :
    Satisfies taskRules [("tasks", .array
      [.object [("name", .string "a"), ("done", .bool false)],
        .object [("name", .string "b"), ("done", .bool true)]])] := by
  obtain ⟨after, hafter, hsatisfies⟩ := validate_satisfies {} rfl taskRules (by decide)
    [("tasks", .array [.object [("name", .string "a")],
      .object [("name", .string "b"), ("done", .bool true)]])] rfl
  obtain rfl := Json.object.inj hafter
  exact hsatisfies

end Validator

end Rulebook
