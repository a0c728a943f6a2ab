import Rulebook.Proofs.Validation.Depth
/-!
# Validation — the wording of messages

Messages are worded by a formatter of the caller, deep inside the checks, and they travel in the
same verdicts as everything that the validation decides by. What is left of a result without its
messages is its silent form (`Validated.silent`). Two validators that differ in their formatters
alone have the same silent form of every result, of a check (`Checker.silent_run`), of a field's
turn, and so of a whole validation (`Validator.silent_validate`): whatever reads a verdict asks
whether it is valid and where the errors are, and never what they say.
-/

namespace Rulebook

/-- An error without its message. -/
def FieldError.silent (error : FieldError) : FieldError :=
  { error with message := "" }

/-- A verdict without its messages. -/
def Verdict.silent : Verdict → Verdict
  | valid => .valid
  | invalid _ => .invalid ""
  | nested errors => .nested (errors.map FieldError.silent)

/-- What a validation leaves, without the messages. -/
def Validated.silent {α : Type} (validated : Validated α) : Validated α :=
  ⟨validated.result.map (·.map FieldError.silent), validated.target⟩

/-- What a checker leaves, without the messages. -/
def Checked.silent (checked : Checked) : Checked :=
  ⟨checked.verdict.map Verdict.silent, checked.rule, checked.value⟩

/-! ## Silent errors -/

namespace FieldError

variable {first second : List FieldError}

/-- **What is left without the messages**: as many errors, in the same places and of the same kinds.
-/
theorem map_silent_eq_iff : first.map silent = second.map silent ↔
    first.map field = second.map field ∧ first.map code = second.map code := by
  induction first generalizing second with
  | nil => cases second <;> simp
  | cons error rest ih =>
    cases second with
    | nil => simp
    | cons other others =>
      have hhead : error.silent = other.silent ↔
          error.field = other.field ∧ error.code = other.code := by
        simp [silent]
      simp only [List.map_cons, List.cons.injEq, hhead, ih]
      exact and_and_and_comm

/-- Moving an error outwards leaves its message alone. -/
theorem silent_under (place : String) (error : FieldError) :
    (error.under place).silent = error.silent.under place := rfl

/-- Errors that differ in their messages alone still do so when they are moved outwards. -/
theorem silent_map_under (place : String)
    (h : first.map silent = second.map silent) :
    (first.map (·.under place)).map silent = (second.map (·.under place)).map silent := by
  have hcomm (errors : List FieldError) : (errors.map (·.under place)).map silent =
      (errors.map silent).map (·.under place) := by
    rw [List.map_map, List.map_map]
    exact List.map_congr_left fun error _ => silent_under place error
  rw [hcomm, hcomm, h]

end FieldError

namespace Verdict

variable {first second : Verdict}

@[simp]
theorem silent_valid : valid.silent = valid := rfl

@[simp]
theorem silent_invalid (message : String) : (invalid message).silent = invalid "" := rfl

/-- **Whether a verdict is valid does not depend on its messages.** -/
theorem isValid_silent (verdict : Verdict) : verdict.silent.isValid = verdict.isValid := by
  cases verdict with
  | nested errors => simp [silent, isValid]
  | _ => rfl

/-- A test that fails says the same, however it is worded. -/
theorem silent_ite (p : Prop) [Decidable p] (message other : String) :
    (if p then valid else invalid message).silent =
      (if p then valid else invalid other).silent := by
  split <;> rfl

/-- Whether there is a reason matters, and not which one. -/
theorem silent_ofReason {α : Type} (reason : Option α) (f g : α → String) :
    (ofReason (reason.map f)).silent = (ofReason (reason.map g)).silent := by
  cases reason <;> rfl

/-- Two verdicts that differ in their messages alone are of one shape. -/
theorem silent_cases (h : first.silent = second.silent) :
    (first = .valid ∧ second = .valid) ∨
    (∃ message other, first = .invalid message ∧ second = .invalid other) ∨
    ∃ errors others, first = .nested errors ∧ second = .nested others ∧
      errors.map FieldError.silent = others.map FieldError.silent := by
  cases first <;> cases second <;> simp_all [silent]

/-- The errors that they give a field differ in their messages alone. -/
theorem silent_fieldErrors (field : String) (rule : Rule) (h : first.silent = second.silent) :
    (Validator.fieldErrors field rule first).map FieldError.silent =
      (Validator.fieldErrors field rule second).map FieldError.silent := by
  rcases silent_cases h with ⟨rfl, rfl⟩ | ⟨message, other, rfl, rfl⟩ |
    ⟨errors, others, rfl, rfl, herrors⟩
  · rfl
  · rfl
  · exact FieldError.silent_map_under _ herrors

/-- So do those that they give an item. -/
theorem silent_itemErrors (index : Nat) (h : first.silent = second.silent) :
    (Checker.itemErrors index first).map FieldError.silent =
      (Checker.itemErrors index second).map FieldError.silent := by
  rcases silent_cases h with ⟨rfl, rfl⟩ | ⟨message, other, rfl, rfl⟩ |
    ⟨errors, others, rfl, rfl, herrors⟩
  · rfl
  · rfl
  · exact FieldError.silent_map_under _ herrors

end Verdict

namespace Validated

variable {α : Type} {first second : Validated α}

/-- Two validations differ in their messages alone if they leave the same data and fail for the same
reason, or find errors that do. -/
theorem silent_eq_iff : first.silent = second.silent ↔ first.target = second.target ∧
    ((∃ e, first.result = .error e ∧ second.result = .error e) ∨
      ∃ errors others, first.result = .ok errors ∧ second.result = .ok others ∧
        errors.map FieldError.silent = others.map FieldError.silent) := by
  rw [← map_eq_map_iff, silent, silent, mk.injEq, and_comm]

/-- Then so do the verdicts on the value whose inside was validated. -/
theorem silent_verdict (h : first.silent = second.silent) :
    first.verdict.map Verdict.silent = second.verdict.map Verdict.silent := by
  unfold verdict
  rcases (silent_eq_iff.1 h).2 with ⟨e, hfirst, hsecond⟩ |
    ⟨errors, others, hfirst, hsecond, herrors⟩
  · rw [hfirst, hsecond]
  · have hempty : errors.isEmpty = others.isEmpty := by
      simpa using congrArg List.isEmpty herrors
    rw [hfirst, hsecond]
    cases hnone : others.isEmpty <;> simp [Except.map, hempty, hnone, Verdict.silent, herrors]

end Validated

/-- Two checks differ in their messages alone if they leave the same rule and the same value and
fail for the same reason, or say the same up to messages. -/
theorem Checked.silent_eq_iff {first second : Checked} : first.silent = second.silent ↔
    first.rule = second.rule ∧ first.value = second.value ∧
      first.verdict.map Verdict.silent = second.verdict.map Verdict.silent := by
  rw [silent, silent, mk.injEq, and_comm, and_assoc]

/-- Two such checks make the same of a field's turn. -/
theorem Checked.silent_turn {first second : Checked} (field : String)
    (h : first.silent = second.silent) :
    (Validated.mk (first.verdict.map (Validator.fieldErrors field first.rule))
        (some first.value)).silent =
      (Validated.mk (second.verdict.map (Validator.fieldErrors field second.rule))
        (some second.value)).silent := by
  obtain ⟨hrule, hvalue, hverdict⟩ := silent_eq_iff.1 h
  rw [Validated.silent_eq_iff]
  refine ⟨congrArg some hvalue, ?_⟩
  dsimp only
  rcases map_eq_map_iff.1 hverdict with ⟨e, hfirst, hsecond⟩ |
    ⟨verdict, other, hfirst, hsecond, hsame⟩
  · rw [hfirst, hsecond]
    exact .inl ⟨e, rfl, rfl⟩
  · rw [hfirst, hsecond, hrule]
    exact .inr ⟨_, _, rfl, rfl, Verdict.silent_fieldErrors field _ hsame⟩

/-! ## Checks -/

namespace Checker

variable {rule : Rule} {value : Json}

/-- **The check of a text does not depend on the wording**, whatever message the rule has for a text
that does not match. -/
theorem silent_text (f g : Formatter) (rule : Rule) (message other : Option String)
    (value : Json) :
    (text f { rule with message := message } value).silent =
      (text g { rule with message := other } value).silent := by
  cases value with
  | string s =>
    by_cases hempty : s.isEmpty = true
    · simp only [text, if_pos hempty]
      exact Verdict.silent_ite (rule.allowsEmpty = true) _ _
    · simp only [text, if_neg hempty, filledText]
      -- both rules have the same bounds and the same format
      have hbound : Rule.brokenLength? { rule with message := message } (Text.units s.toList) =
          Rule.brokenLength? { rule with message := other } (Text.units s.toList) := rfl
      rw [hbound]
      split
      · rfl
      · split
        · exact Verdict.silent_ite _ _ _
        · rfl
  | _ => rfl

/-- The check of a number does not depend on the wording. -/
theorem silent_number (f g : Formatter) (rule : Rule) (value : Json) :
    (number f rule value).silent = (number g rule value).silent := by
  cases value with
  | number n => exact Verdict.silent_ofReason _ _ _
  | _ => rfl

/-- Nor does that of a whole number. -/
theorem silent_integer (f g : Formatter) (rule : Rule) (value : Json) :
    (integer f rule value).silent = (integer g rule value).silent := by
  cases value with
  | number n =>
    cases hwhole : n.toBinary64.isIntegral with
    | true =>
      simp only [integer, hwhole, if_true]
      exact silent_number f g rule _
    | false => simp [integer, hwhole]
  | _ => rfl

/-- Nor that of a URL. -/
theorem silent_url (f g : Formatter) (rule : Rule) (value : Json) :
    (url f rule value).silent = (url g rule value).silent := by
  cases value with
  | string s =>
    by_cases hempty : s.isEmpty = true
    · simp only [url, if_pos hempty]
      exact Verdict.silent_ite _ _ _
    · simp only [url, if_neg hempty]
      exact Verdict.silent_ite _ _ _
  | _ => rfl

/-- Nor that of an enumeration. -/
theorem silent_enumeration (f g : Formatter) (field : String) (rule : Rule) (value : Json) :
    (enumeration f field rule value).map Verdict.silent =
      (enumeration g field rule value).map Verdict.silent := by
  unfold enumeration
  split
  · rfl
  · split <;> rfl

/-- **Nor that of a password**, which is compared if its text is valid. -/
theorem silent_password (f g : Formatter) (siblings : Json.Members) (rule : Rule) (value : Json) :
    (password f siblings rule value).silent = (password g siblings rule value).silent := by
  have htext : (text f (passwordRule rule) value).silent =
      (text g (passwordRule rule) value).silent :=
    silent_text f g (passwordRule rule) (passwordRule rule).message _ value
  have hvalid : (text f (passwordRule rule) value).isValid =
      (text g (passwordRule rule) value).isValid := by
    rw [← Verdict.isValid_silent, htext, Verdict.isValid_silent]
  unfold password
  dsimp only
  rw [hvalid]
  split
  · exact htext
  · split
    · rfl
    · split <;> rfl

/-- **Two contexts that differ in the wording alone**: around the value is the same, and what is
done through them leaves the same but for messages. -/
structure Context.Alike (first second : Context) : Prop where
  field_eq : first.field = second.field
  siblings_eq : first.siblings = second.siblings
  /-- Nested data are validated alike. -/
  validate : ∀ rules target,
    (first.validate rules target).silent = (second.validate rules target).silent
  /-- The same types are known, and they check alike. -/
  require : ∀ typeName,
    (∃ e, first.require typeName = .error e ∧ second.require typeName = .error e) ∨
      ∃ check other, first.require typeName = .ok check ∧ second.require typeName = .ok other ∧
        ∀ siblings rule value,
          (check siblings rule value).silent = (other siblings rule value).silent

/-- Items that are checked alike, one by one, are checked alike in turn. -/
theorem silent_items {first second : Rule → Json → Checked}
    (h : ∀ rule item, (first rule item).silent = (second rule item).silent) (values : List Json) :
    ∀ index rule,
      (items first index rule values).silent = (items second index rule values).silent := by
  induction values with
  | nil => exact fun _ _ => rfl
  | cons item rest ih =>
    intro index rule
    obtain ⟨hrule, hvalue, hverdict⟩ := Checked.silent_eq_iff.1 (h rule item)
    rw [Validated.silent_eq_iff]
    rcases map_eq_map_iff.1 hverdict with ⟨e, hfirst, hsecond⟩ |
      ⟨verdict, other, hfirst, hsecond, hsame⟩
    · simp [items, hfirst, hsecond, hvalue]
    · have herrors := Verdict.silent_itemErrors index hsame
      obtain ⟨htarget, hresult⟩ := Validated.silent_eq_iff.1
        (ih (index + 1) (second rule item).rule)
      rcases hresult with ⟨e, hrest, hothers⟩ | ⟨errors, others, hrest, hothers, hlater⟩
      · simp [items, hfirst, hsecond, hvalue, hrule, htarget, hrest, hothers, Except.map]
      · simp [items, hfirst, hsecond, hvalue, hrule, htarget, hrest, hothers, Except.map, herrors,
          hlater]

variable {first second : Context}

/-- Objects are checked alike. -/
theorem silent_object (h : first.Alike second) (rule : Rule) (value : Json) :
    (object first rule value).silent = (object second rule value).silent := by
  cases hvalue : value.isStructured with
  | false =>
    rw [object_of_scalar hvalue, object_of_scalar hvalue]
    rfl
  | true =>
    cases hschema : rule.schema with
    | none => rw [object_of_schema_none hvalue hschema, object_of_schema_none hvalue hschema]
    | some schema =>
      have hinside := h.validate schema value
      rw [object_of_schema hvalue hschema, object_of_schema hvalue hschema,
        Checked.silent_eq_iff]
      exact ⟨rfl, (Validated.silent_eq_iff.1 hinside).1, Validated.silent_verdict hinside⟩

/-- Arrays are checked alike. -/
theorem silent_array (h : first.Alike second) (rule : Rule) (value : Json) :
    (array first rule value).silent = (array second rule value).silent := by
  cases value with
  | array values =>
    cases hlength : rule.brokenLength? values.length with
    | some broken =>
      rw [array_of_broken hlength, array_of_broken hlength]
      rfl
    | none =>
      cases htype : rule.itemType with
      | none => rw [array_of_itemType_none hlength htype, array_of_itemType_none hlength htype]
      | some itemType =>
        rcases h.require itemType with ⟨e, hfirst, hsecond⟩ |
          ⟨check, other, hfirst, hsecond, hsame⟩
        · rw [array_of_require_error hlength htype hfirst,
            array_of_require_error hlength htype hsecond]
        · have hitems := silent_items (hsame []) values 0 (itemRule rule itemType)
          rw [array_of_require hlength htype hfirst, array_of_require hlength htype hsecond,
            Checked.silent_eq_iff]
          exact ⟨rfl, congrArg Json.array (Validated.silent_eq_iff.1 hitems).1,
            Validated.silent_verdict hitems⟩
  | _ => rfl

/-- A check that decides at once leaves the rule and the value as they are in either wording. -/
theorem silent_decided {verdict other : Verdict} (h : verdict.silent = other.silent) :
    (Checked.mk (.ok verdict) rule value).silent = (Checked.mk (.ok other) rule value).silent := by
  rw [Checked.silent_eq_iff]
  exact ⟨rfl, rfl, congrArg Except.ok h⟩

/-- **No built-in check depends on the wording.** -/
theorem Kind.silent_run (h : first.Alike second) (kind : Kind) (rule : Rule) (value : Json) :
    (kind.run first rule value).silent = (kind.run second rule value).silent := by
  cases kind with
  | object => exact silent_object h rule value
  | array => exact silent_array h rule value
  | number => exact silent_decided (silent_number _ _ _ _)
  | integer => exact silent_decided (silent_integer _ _ _ _)
  | string => exact silent_decided (silent_text _ _ _ _ _ _)
  | boolean => cases value <;> rfl
  | enumeration =>
    rw [Checked.silent_eq_iff]
    refine ⟨rfl, rfl, ?_⟩
    simp only [Kind.run, h.field_eq]
    exact silent_enumeration _ _ _ _ _
  | password =>
    simp only [Kind.run, h.siblings_eq]
    exact silent_decided (silent_password _ _ _ _ _)
  | url => exact silent_decided (silent_url _ _ _ _)
  | email => exact silent_decided (silent_text _ _ (formatRule rule Formats.email none) _ _ _)
  | _ => exact silent_decided (silent_text _ _ (formatRule rule _ none) _ _ _)

/-- **Nor does any check of a standard type.** -/
theorem silent_run (h : first.Alike second) {checker : Checker}
    (hchecker : ∀ check, checker ≠ .custom check) (rule : Rule) (value : Json) :
    (checker.run first rule value).silent = (checker.run second rule value).silent := by
  cases checker with
  | builtin kind => exact Kind.silent_run h kind rule value
  | pattern format => exact silent_decided (silent_text _ _ { format := some format } _ _ value)
  | custom check => exact absurd rfl (hchecker check)

end Checker

namespace Validator

variable {validator : Validator} {first second : String → Json.Members → Checker.Context}
variable {rule : Rule} {name : String} {f g : Formatter}

/-- The same validator with another formatter. -/
def wordedBy (validator : Validator) (say : Formatter) : Validator :=
  { validator with say }

@[simp]
theorem options_wordedBy : (validator.wordedBy f).options = validator.options := rfl

/-! ## Validations -/

/-- **The step on a slot does not depend on the wording.** -/
theorem silent_validateSlot (hreg : validator.registry.Standard)
    (h : ∀ siblings, (first name siblings).Alike (second name siblings)) (rule : Rule)
    (siblings : Json.Members) (slot : Option Json) :
    ((validator.wordedBy f).validateSlot first rule name siblings slot).silent =
      ((validator.wordedBy g).validateSlot second rule name siblings slot).silent := by
  cases hgiven : given? slot with
  | none =>
    cases hrule : rule.isRequired with
    | true =>
      rw [validateSlot_missing hgiven hrule, validateSlot_missing hgiven hrule]
      rfl
    | false => rw [validateSlot_optional hgiven hrule, validateSlot_optional hgiven hrule]
  | some value =>
    cases hrequire : validator.registry.require rule.typeName with
    | error e =>
      have hworded (say : Formatter) :
          (validator.wordedBy say).registry.require rule.typeName = .error e := hrequire
      rw [validateSlot_unknown hgiven (hworded f), validateSlot_unknown hgiven (hworded g)]
    | ok checker =>
      have hworded (say : Formatter) :
          (validator.wordedBy say).registry.require rule.typeName = .ok checker := hrequire
      obtain ⟨typeName, -, hget⟩ := get?_of_require hrequire
      rw [validateSlot_checked hgiven (hworded f), validateSlot_checked hgiven (hworded g)]
      exact Checked.silent_turn name (Checker.silent_run (h (Entries.put siblings name .null))
        (hreg.not_custom hget) rule (validator.converted rule siblings value))

/-- Nor does a run over fields. -/
theorem silent_validateFields (hreg : validator.registry.Standard)
    (h : ∀ name siblings, (first name siblings).Alike (second name siblings))
    (entries : List (String × Spec)) :
    ∀ fields, ((validator.wordedBy f).validateFields first entries fields).silent =
      ((validator.wordedBy g).validateFields second entries fields).silent := by
  induction entries with
  | nil => exact fun _ => rfl
  | cons entry rest ih =>
    obtain ⟨name, spec⟩ := entry
    intro fields
    -- both turns leave the same fields, from which the runs over the others go on
    have hfirst : ((validator.wordedBy f).validateField first spec.normalize name fields).silent =
        ((validator.wordedBy g).validateField second spec.normalize name fields).silent := by
      have hslot := Validated.silent_eq_iff.1 (silent_validateSlot (f := f) (g := g) hreg (h name)
        spec.normalize (prepared validator.options spec.normalize name fields)
        (ready validator.options spec.normalize (Entries.value? fields name)))
      rw [validateField_eq, validateField_eq, Validated.silent_eq_iff]
      exact ⟨congrArg (Entries.fill fields name) hslot.1, hslot.2⟩
    obtain ⟨htarget, hresult⟩ := Validated.silent_eq_iff.1 hfirst
    rw [Validated.silent_eq_iff]
    rcases hresult with ⟨e, hturn, hother⟩ | ⟨turn, other, hturn, hother, hsame⟩
    · rw [validateFields_cons_error hturn, validateFields_cons_error hother]
      exact ⟨htarget, .inl ⟨e, rfl, rfl⟩⟩
    · obtain ⟨hleft, hlater⟩ := Validated.silent_eq_iff.1
        (ih ((validator.wordedBy g).validateField second spec.normalize name fields).target)
      rw [validateFields_cons_ok hturn, validateFields_cons_ok hother, htarget]
      refine ⟨hleft, ?_⟩
      rcases hlater with ⟨e, hrest, hothers⟩ | ⟨errors, others, hrest, hothers, herrors⟩
      · exact .inl ⟨e, by simp [hrest, Except.map], by simp [hothers, Except.map]⟩
      · exact .inr ⟨turn ++ errors, other ++ others, by simp [hrest, Except.map],
          by simp [hothers, Except.map], by simp [hsame, herrors]⟩

/-- Nor does a validation in contexts that differ in the wording alone. -/
theorem silent_validateIn (hreg : validator.registry.Standard)
    (h : ∀ name siblings, (first name siblings).Alike (second name siblings)) (rules : RuleSet)
    (target : Json) :
    ((validator.wordedBy f).validateIn first rules target).silent =
      ((validator.wordedBy g).validateIn second rules target).silent := by
  have hfields (fields : Json.Members) := Validated.silent_eq_iff.1
    (silent_validateFields (f := f) (g := g) hreg h rules.entries fields)
  unfold validateIn
  rw [options_wordedBy, options_wordedBy]
  split
  · rfl
  · rw [Validated.silent_eq_iff]
    cases target with
    | object fields => exact ⟨congrArg Json.object (hfields fields).1, (hfields fields).2⟩
    | _ => exact ⟨rfl, (hfields []).2⟩

/-- **At every depth the contexts differ in the wording alone.** -/
theorem context_alike (hreg : validator.registry.Standard) (f g : Formatter) (depth : Nat) :
    ∀ field siblings, ((validator.wordedBy f).context depth field siblings).Alike
      ((validator.wordedBy g).context depth field siblings) := by
  induction depth with
  | zero =>
    refine fun field siblings => ⟨rfl, rfl, fun _ _ => rfl, fun typeName => ?_⟩
    -- with no call left, both give the same answer
    cases hrequire : ((validator.wordedBy f).context 0 field siblings).require typeName with
    | error e => exact .inl ⟨e, rfl, hrequire⟩
    | ok check => exact .inr ⟨check, check, rfl, hrequire, fun _ _ _ => rfl⟩
  | succ depth ih =>
    refine fun field siblings => ⟨rfl, rfl, fun rules target =>
      silent_validateIn hreg ih rules target, fun typeName => ?_⟩
    cases hrequire : validator.registry.require (some typeName) with
    | error e => exact .inl ⟨e, context_require_error hrequire, context_require_error hrequire⟩
    | ok checker =>
      obtain ⟨name, -, hget⟩ := get?_of_require hrequire
      exact .inr ⟨_, _, context_require_ok hrequire, context_require_ok hrequire,
        fun siblings rule value =>
          Checker.silent_run (ih field siblings) (hreg.not_custom hget) rule value⟩

/-- **A validation with standard types does not depend on the wording**: with any two formatters it
fails for the same reason, or finds errors in the same places and of the same kinds, and it leaves
the same data. -/
theorem silent_validate (hreg : validator.registry.Standard) (f g : Formatter) (rules : RuleSet)
    (target : Json) :
    ((validator.wordedBy f).validate rules target).silent =
      ((validator.wordedBy g).validate rules target).silent :=
  silent_validateIn hreg (context_alike hreg f g (validator.depth rules)) rules target

end Validator

end Rulebook
