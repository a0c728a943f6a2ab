import Rulebook.Proofs.Validation.Depth
/-!
# Checkers — the items of an array

The items of an array share one rule, and a check may edit it before the next item meets it. A
standard check leaves a rule under which it repeats itself (`Checker.run_run_rule`), so no item
meets a difference: the check of an array is that of each item by itself, put together
(`Checker.itemsApart`, `Checker.array_eq_itemsApart`).
-/

namespace Rulebook

namespace Checker

variable {checker : Checker} {context : Context} {rule : Rule} {check : Json → Checked}
variable {values : List Json}

/-- The errors that the verdict on an item means for its array: that an item is invalid is an error
at its index, and the errors inside an item are at their places behind the index and a point. -/
def errorsAt (index : Nat) : Verdict → List FieldError
  | .valid => []
  | .invalid message => [{ message, field := some s!"[{index}]", code := .invalid }]
  | .nested errors => errors.map fun error =>
    { message := error.message
      field := some (s!"[{index}]." ++ error.field.getD "")
      code := error.code }

/-- **Items checked apart from each other.** The errors are those of all items, each at the index of
its item. If some items cannot be checked, the failure is that of the first one, and the items
after it stay as they are. -/
def itemsApart (check : Json → Checked) (values : List Json) : Validated (List Json) where
  result := (values.mapM fun item => (check item).verdict).map fun verdicts =>
    verdicts.zipIdx.flatMap fun (verdict, index) => errorsAt index verdict
  target :=
    let before := values.takeWhile fun item => (check item).verdict.isOk
    let others := values.drop before.length
    (before ++ others.take 1).map (fun item => (check item).value) ++ others.drop 1

/-! ## What an item meets -/

/-- **A check repeats itself** under the rule that it left after another value. -/
theorem run_run_rule (hchecker : ∀ check, checker ≠ .custom check) (rule : Rule)
    (other value : Json) :
    checker.run context (checker.run context rule other).rule value =
      checker.run context rule value := by
  cases checker with
  | builtin kind =>
    simp only [Checker.run]
    rw [Kind.run_rule, Kind.run_ruleAfter]
  | pattern format => rfl
  | custom check => exact absurd rfl (hchecker check)

/-- The same after any number of values: what holds of the first rule is kept by each check. -/
theorem items_run (hchecker : ∀ check, checker ≠ .custom check) (index : Nat) (rule : Rule)
    (values : List Json) :
    items (checker.run context) index rule values =
      items (fun _ => checker.run context rule) index rule values := by
  refine items_congr
    (fun later => ∀ item, checker.run context later item = checker.run context rule item)
    (fun _ item hsame => hsame item) (fun later item _ other => ?_) values index rule fun _ => rfl
  exact run_run_rule hchecker rule item other

/-! ## Putting checks together -/

/-- The errors that the check of an array makes of a verdict are at those places. -/
theorem itemErrors_eq_errorsAt (index : Nat) (verdict : Verdict) :
    itemErrors index verdict = errorsAt index verdict := by
  have hplace : itemPlace index = s!"[{index}]" := by
    rw [itemPlace, Decimal.text_eq_toString]
    rfl
  have hinside : itemPlace index ++ "." = s!"[{index}]." := by
    rw [hplace, String.append_assoc]
    rfl
  cases verdict with
  | valid => rfl
  | invalid message => rw [itemErrors, errorsAt, hplace]
  | nested errors =>
    refine List.map_congr_left fun error _ => ?_
    rw [FieldError.under, hinside]
    cases error.field with
    | none => rw [Option.getD_none, String.append_empty]
    | some field => rfl

/-- The errors of items that are checked under one rule throughout, from an index on. -/
theorem result_items (check : Json → Checked) (values : List Json) (index : Nat) (rule : Rule) :
    (items (fun _ => check) index rule values).result =
      (values.mapM fun item => (check item).verdict).map fun verdicts =>
        (verdicts.zipIdx index).flatMap fun (verdict, index) => errorsAt index verdict := by
  induction values generalizing index rule with
  | nil => rfl
  | cons item rest ih =>
    rw [List.mapM_cons]
    cases hverdict : (check item).verdict with
    | error e => simp [items, hverdict, bind, Except.bind, Except.map]
    | ok verdict =>
      simp only [items, hverdict, ih, itemErrors_eq_errorsAt]
      cases rest.mapM fun item => (check item).verdict with
      | error e => rfl
      | ok verdicts => simp [bind, Except.bind, Except.map, pure, Except.pure]

/-- What is left of such items. -/
theorem target_items (check : Json → Checked) (values : List Json) (index : Nat) (rule : Rule) :
    (items (fun _ => check) index rule values).target = (itemsApart check values).target := by
  induction values generalizing index rule with
  | nil => rfl
  | cons item rest ih =>
    cases hverdict : (check item).verdict with
    | error e => simp [items, itemsApart, hverdict, Except.isOk, Except.toBool]
    | ok verdict =>
      have htarget := ih (index + 1) (check item).rule
      simp only [itemsApart] at htarget
      simp [items, itemsApart, hverdict, Except.isOk, Except.toBool, htarget]

/-- Checks that do not look at the rule left by one another are made apart. -/
theorem items_eq_itemsApart (check : Json → Checked) (rule : Rule) (values : List Json) :
    items (fun _ => check) 0 rule values = itemsApart check values := by
  have hresult := result_items check values 0 rule
  have htarget := target_items check values 0 rule
  cases hitems : items (fun _ => check) 0 rule values with
  | mk result target =>
    rw [hitems] at hresult htarget
    simp only at hresult htarget
    rw [hresult, htarget]
    rfl

/-- If all items can be checked, each is left as its own check leaves it. -/
theorem target_itemsApart {errors : List FieldError}
    (h : (itemsApart check values).result = .ok errors) :
    (itemsApart check values).target = values.map fun item => (check item).value := by
  have hitems : ∀ (values : List Json) (index : Nat) (rule : Rule) (errors : List FieldError),
      (items (fun _ => check) index rule values).result = .ok errors →
        (items (fun _ => check) index rule values).target =
          values.map fun item => (check item).value := by
    intro values
    induction values with
    | nil => exact fun _ _ _ _ => rfl
    | cons item rest ih =>
      intro index rule errors hresult
      obtain ⟨verdict, others, -, hothers, -, htarget⟩ := items_cons_eq_ok hresult
      rw [htarget, ih _ _ _ hothers, List.map_cons]
  rw [← items_eq_itemsApart check {} values] at h ⊢
  exact hitems values 0 {} errors h

/-- The items of an array are checked apart if no checker of the caller is asked for. -/
theorem array_of_get? {validator : Validator} (hcustom : ∀ check, checker ≠ .custom check)
    (depth : Nat) (field : String) (siblings : Json.Members) {itemType : String}
    (hlength : rule.brokenLength? values.length = none) (htype : rule.itemType = some itemType)
    (hchecker : validator.registry.get? itemType = some checker) :
    array (validator.context (depth + 1) field siblings) rule (.array values) =
      let apart := itemsApart
        (checker.run (validator.context depth field []) (itemRule rule itemType)) values
      ⟨apart.verdict, rule, .array apart.target⟩ := by
  rw [array_of_require hlength htype
    (Validator.context_require_ok (Registry.require_of_get? hchecker))]
  dsimp only
  rw [items_run hcustom, items_eq_itemsApart]

/-- **The items of an array are checked apart from each other.** Without checkers of the caller, the
check of an array of a length within the bounds is that of each item by itself, with no siblings
and with the item rule as it was before any check. The array is valid if no item has an error. -/
theorem array_eq_itemsApart {validator : Validator}
    (hregistry : ∀ typeName check, validator.registry.get? typeName ≠ some (.custom check))
    (depth : Nat) (field : String) (siblings : Json.Members) {rule : Rule} {values : List Json}
    {itemType : String} {checker : Checker} (hlength : rule.brokenLength? values.length = none)
    (htype : rule.itemType = some itemType)
    (hchecker : validator.registry.get? itemType = some checker) :
    array (validator.context (depth + 1) field siblings) rule (.array values) =
      let apart := itemsApart
        (checker.run (validator.context depth field []) (itemRule rule itemType)) values
      ⟨apart.result.map fun errors => if errors = [] then .valid else .nested errors, rule,
        .array apart.target⟩ := by
  have hcustom : ∀ check, checker ≠ .custom check := fun check heq =>
    hregistry itemType check (heq ▸ hchecker)
  rw [array_of_get? hcustom depth field siblings hlength htype hchecker]
  simp only [Validated.verdict, List.isEmpty_iff]

/-- A list of passwords. -/
def pins : Rule where
  typeName := some "array"
  itemType := some "password"

/-- A list of records, each with a password that is trimmed. -/
def keys : Rule where
  typeName := some "array"
  itemType := some "object"
  schema := some ⟨[("pin", .record { typeName := some "password", trim := true })]⟩

/-- Two passwords, the first of which is too short: its check has filled in the least length before
the second one is checked. And two records, the first of which is none: the errors of the second
one are at its places, and it is left trimmed. -/
theorem array_eq_itemsApart_passwords :
    let check := (Checker.builtin .password).run (Validator.context {} 0 "pins" [])
      (itemRule pins "password")
    let passwords := array (Validator.context {} 1 "pins" []) pins
      (.array [.string "pass", .string ""])
    let records := array (Validator.context {} 2 "keys" []) keys
      (.array [.null, .object [("pin", .string " pass ")]])
    ((check (.string "pass")).verdict = .ok (.invalid "length should be bigger than 6") ∧
      (check (.string "")).verdict = .ok (.invalid "should not be empty") ∧
      passwords.verdict = .ok (.nested
        [⟨"length should be bigger than 6", some "[0]", .invalid⟩,
          ⟨"should not be empty", some "[1]", .invalid⟩]) ∧
      passwords.rule = pins ∧ passwords.value = .array [.string "pass", .string ""]) ∧
    records.verdict = .ok (.nested
      [⟨"should be an object", some "[0]", .invalid⟩,
        ⟨"length should be bigger than 6", some "[1].pin", .invalid⟩]) ∧
      records.rule = keys ∧
      records.value = .array [.null, .object [("pin", .string "pass")]] := by
  intro check passwords records
  have hregistry : ∀ typeName check, Registry.builtin.get? typeName ≠ some (.custom check) :=
    fun _ check hget => Registry.standard_builtin.not_custom hget check rfl
  have hpasswords : passwords = _ := array_eq_itemsApart hregistry 0 "pins" [] rfl rfl rfl
  have hrecords : records = _ := array_eq_itemsApart hregistry 1 "keys" [] rfl rfl rfl
  rw [hpasswords, hrecords]
  have hok : ∀ {x : Except ConfigError Verdict} {verdict}, x.toOption = some verdict →
      x = .ok verdict := by
    intro x verdict h
    cases x with
    | error e => cases h
    | ok found => exact congrArg Except.ok (Option.some.inj h)
  exact ⟨⟨hok (by decide +kernel), hok (by decide +kernel), hok (by decide +kernel), rfl, rfl⟩,
    hok (by decide +kernel), rfl, rfl⟩

end Checker

end Rulebook
