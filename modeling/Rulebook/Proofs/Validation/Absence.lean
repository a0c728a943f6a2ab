import Rulebook.Proofs.Validation.Descent
import Rulebook.Proofs.Validation.Independence
/-!
# Validation — empty texts as absent values

Where empty texts count as absent, a text that is empty, or is once it has been trimmed, becomes
null before anything else looks at it. So no run can tell it from null, wherever in the data it
stands. `RuleSet.TextOrNull` says that two objects hold such a text and null in one place that a run
comes to by the rules: a field, or a field of an object in it, or of an object among its items. Up to
the turn of the field around that place no run sees it, that turn comes to the same for both, and
after it the two runs are one (`Validator.validateFields_agreeBut`).
-/

namespace Rulebook

namespace Entries

variable {α : Type u} {entries first second : Entries α} {name other : String}

theorem mem_names_put (entries : Entries α) (name : String) (value : α) :
    name ∈ names (put entries name value) := by
  rw [← value?_isSome_iff, value?_put_self]
  rfl

/-- Two names can be bound in either order, if the one is there already. -/
theorem put_comm (hmem : name ∈ names entries) (hne : other ≠ name) (a b : α) :
    put (put entries other b) name a = put (put entries name a) other b := by
  induction entries with
  | nil => cases hmem
  | cons entry rest ih =>
    obtain ⟨key, old⟩ := entry
    by_cases hother : key = other
    · have hname : key ≠ name := fun h => hne (hother.symm.trans h)
      simp [put, hother, hother ▸ hname]
    by_cases hname : key = name
    · simp [put, hname, Ne.symm hne]
    · have hrest : name ∈ names rest := (List.mem_cons.1 hmem).resolve_left (Ne.symm hname)
      simp [put, hother, hname, ih hrest]

/-- Two lists of entries that bind a name, each to a value of its own, and are the same otherwise. -/
structure AgreeBut (name : String) (first second : Entries α) : Prop where
  mem_first : name ∈ names first
  mem_second : name ∈ names second
  put_eq : ∀ value, put first name value = put second name value

theorem agreeBut_put (entries : Entries α) (name : String) (a b : α) :
    AgreeBut name (put entries name a) (put entries name b) where
  mem_first := mem_names_put entries name a
  mem_second := mem_names_put entries name b
  put_eq value := by rw [put_put, put_put]

/-- Every other name has one value. -/
theorem AgreeBut.value?_eq (h : AgreeBut name first second) (hne : other ≠ name) :
    value? first other = value? second other := by
  cases hvalue : value? first name with
  | none => exact absurd h.mem_first ((value?_eq_none_iff _ _).1 hvalue)
  | some value =>
    rw [← value?_put_of_ne first value hne, h.put_eq, value?_put_of_ne second value hne]

/-- Writing to another name keeps the agreement. -/
theorem AgreeBut.fill (h : AgreeBut name first second) (hne : other ≠ name) (slot : Option α) :
    AgreeBut name (fill first other slot) (fill second other slot) := by
  cases slot with
  | none => exact h
  | some value =>
    have hmem : ∀ {entries : Entries α}, name ∈ names entries →
        name ∈ names (put entries other value) := by
      intro entries hname
      rw [← value?_isSome_iff] at hname ⊢
      rwa [value?_put_of_ne entries value (Ne.symm hne)]
    refine ⟨hmem h.mem_first, hmem h.mem_second, fun a => ?_⟩
    rw [fill_some, fill_some, put_comm h.mem_first hne, put_comm h.mem_second hne, h.put_eq]

end Entries

/-! ## Runs that agree -/

/-- Two runs have one result, and leave the same data if they got through. -/
structure Validated.AgreesWith {α : Type} (first second : Validated α) : Prop where
  result_eq : first.result = second.result
  target_eq : ∀ errors, first.result = .ok errors → first.target = second.target

/-- Two checks say the same and leave one rule, and the same value if they got through. -/
structure Checked.AgreesWith (first second : Checked) : Prop where
  verdict_eq : first.verdict = second.verdict
  rule_eq : first.rule = second.rule
  value_eq : ∀ verdict, first.verdict = .ok verdict → first.value = second.value

theorem Validated.AgreesWith.refl {α : Type} (run : Validated α) : run.AgreesWith run :=
  ⟨rfl, fun _ _ => rfl⟩

/-- Two failures agree whatever they leave. -/
theorem Validated.AgreesWith.error {α : Type} (e : ConfigError) (first second : α) :
    Validated.AgreesWith ⟨.error e, first⟩ ⟨.error e, second⟩ := by
  refine ⟨rfl, fun errors herrors => ?_⟩
  cases herrors

/-- Whatever is made of what they leave, two runs agree. -/
theorem Validated.AgreesWith.edit {α β : Type} {first second : Validated α}
    (h : first.AgreesWith second) (f : α → β) :
    Validated.AgreesWith ⟨first.result, f first.target⟩ ⟨second.result, f second.target⟩ :=
  ⟨h.result_eq, fun errors herrors => congrArg f (h.target_eq errors herrors)⟩

/-- And so they do whatever is made of the errors. -/
theorem Validated.AgreesWith.map {α : Type} {first second : Validated α}
    (h : first.AgreesWith second) (f : List FieldError → List FieldError) :
    Validated.AgreesWith ⟨first.result.map f, first.target⟩
      ⟨second.result.map f, second.target⟩ := by
  refine ⟨by rw [h.result_eq], fun errors herrors => ?_⟩
  obtain ⟨found, hfound, -⟩ := exists_of_map_eq_ok herrors
  exact h.target_eq found hfound

/-- The checks of two values agree if the runs over what is in them do. -/
theorem Validated.AgreesWith.checked {first second : Validated Json}
    (h : first.AgreesWith second) (rule : Rule) :
    Checked.AgreesWith ⟨first.verdict, rule, first.target⟩
      ⟨second.verdict, rule, second.target⟩ := by
  refine ⟨by rw [Validated.verdict, h.result_eq, Validated.verdict], rfl, fun verdict hverdict => ?_⟩
  obtain ⟨errors, herrors, -⟩ := Checker.exists_of_verdict hverdict
  exact h.target_eq errors herrors

/-! ## An empty text, or null -/

mutual

/-- **Two objects that hold a text that counts as absent and null in one place** to which a run
comes by the rules, and are the same otherwise. -/
inductive RuleSet.TextOrNull (options : Validator.Options) :
    RuleSet → Json.Members → Json.Members → Prop where
  /-- The place is a field. -/
  | here {rules : RuleSet} {name s : String} {spec : Spec} (fields : Json.Members) :
      rules.get? name = some spec → spec.normalize.Collapses options s →
      RuleSet.TextOrNull options rules (Entries.put fields name (.string s))
        (Entries.put fields name .null)
  /-- It is inside a field. -/
  | inside {rules : RuleSet} {name : String} {spec : Spec} {kind : Checker.Kind}
      {value other : Json} (fields : Json.Members) :
      rules.get? name = some spec →
      spec.normalize.typeName.bind Checker.Kind.ofTypeName? = some kind →
      Checker.Kind.TextOrNull options kind spec.normalize value other →
      RuleSet.TextOrNull options rules (Entries.put fields name value)
        (Entries.put fields name other)

/-- Two values that do so, to which the check of a type comes under a rule. -/
inductive Checker.Kind.TextOrNull (options : Validator.Options) :
    Checker.Kind → Rule → Json → Json → Prop where
  /-- The place is in an object that is checked against a schema. -/
  | object {rule : Rule} {schema : RuleSet} {fields others : Json.Members} :
      rule.schema = some schema → RuleSet.TextOrNull options schema fields others →
      Checker.Kind.TextOrNull options .object rule (.object fields) (.object others)
  /-- It is in an item of an array of a length within the bounds. -/
  | item {rule : Rule} {itemType : String} {kind : Checker.Kind} {value other : Json}
      (before after : List Json) :
      rule.brokenLength? (before ++ value :: after).length = none →
      rule.itemType = some itemType → Checker.Kind.ofTypeName? itemType = some kind →
      Checker.Kind.TextOrNull options kind (Checker.itemRule rule itemType) value other →
      Checker.Kind.TextOrNull options .array rule (.array (before ++ value :: after))
        (.array (before ++ other :: after))

end

/-- Only objects and arrays have such a place inside. -/
theorem Checker.Kind.TextOrNull.isStructured {options : Validator.Options} {kind : Checker.Kind}
    {rule : Rule} {value other : Json} (h : kind.TextOrNull options rule value other) :
    value.isStructured = true ∧ other.isStructured = true := by
  cases h <;> exact ⟨rfl, rfl⟩

namespace Validator

variable {validator : Validator} {rule : Rule} {name s : String} {spec : Spec} {depth : Nat}
variable {entries : List (String × Spec)} {fields others : Json.Members} {value other : Json}

/-! ## The turn of a field -/

/-- A text that counts as absent is null once it is ready. -/
theorem ready_collapses {options : Options} (h : rule.Collapses options s) :
    ready options rule (some (.string s)) = some .null := by
  have habsent : given? (ready options rule (some (.string s))) = none :=
    given?_ready_eq_none_iff.2 (.inr (.inr ⟨s, rfl, h⟩))
  refine (given?_eq_none_iff.1 habsent).resolve_left fun hnone => ?_
  have hsome := isSome_ready options rule (some (.string s))
  rw [hnone] at hsome
  cases hsome

/-- Objects and arrays are ready as they are. -/
theorem ready_of_structured (options : Options) (rule : Rule) (h : value.isStructured = true) :
    ready options rule (some value) = some value := by
  cases value <;> first | rfl | cases h

/-- The turns of a field that holds an object or an array agree if its checks do. -/
theorem turn_of_checks (hreg : validator.registry = .builtin) {kind : Checker.Kind}
    (hkind : spec.normalize.typeName.bind Checker.Kind.ofTypeName? = some kind)
    (hvalue : value.isStructured = true) (hother : other.isStructured = true)
    (hchecks : ∀ siblings, Checked.AgreesWith
      (kind.run (validator.context depth name siblings) spec.normalize value)
      (kind.run (validator.context depth name siblings) spec.normalize other)) :
    (validator.turn depth (name, spec) (some value)).AgreesWith
      (validator.turn depth (name, spec) (some other)) := by
  have hrequire : validator.registry.require spec.normalize.typeName = .ok (.builtin kind) :=
    hreg ▸ Registry.require_builtin.2 ⟨kind, hkind, rfl⟩
  have hgiven : ∀ {value : Json}, value.isStructured = true → given? (some value) = some value :=
    fun h => given?_eq_some_iff.2 ⟨rfl, Json.isNull_of_isStructured h⟩
  have hagree := hchecks (Entries.put [] name .null)
  unfold turn
  dsimp only
  rw [ready_of_structured _ _ hvalue, ready_of_structured _ _ hother,
    validateSlot_checked (hgiven hvalue) hrequire, validateSlot_checked (hgiven hother) hrequire,
    converted_of_structured hvalue, converted_of_structured hother]
  dsimp only [Checker.run]
  refine ⟨by rw [hagree.verdict_eq, hagree.rule_eq], fun errors herrors => ?_⟩
  obtain ⟨verdict, hverdict, -⟩ := exists_of_map_eq_ok herrors
  exact congrArg some (hagree.value_eq verdict hverdict)

/-- A turn never takes a field away. -/
theorem exists_target_turn (validator : Validator) (depth : Nat) (spec : Spec)
    (h : name ∈ Entries.names fields) : ∃ left,
      (validator.turn depth (name, spec) (Entries.value? fields name)).target = some left := by
  refine Option.isSome_iff_exists.1
    (isSome_validateSlot validator (validator.context depth) spec.normalize name [] ?_)
  rw [isSome_ready]
  exact (Entries.value?_isSome_iff _ _).2 h

/-! ## A run over fields -/

/-- **Runs over two objects that are the same but for one field** agree if its turns do: up to that
turn neither run sees the field, and after it there is no difference left. -/
theorem validateFields_agreeBut (hreg : validator.registry = .builtin)
    (hrules : ∀ entry ∈ entries, entry.2.normalize.SelfContained)
    (hspec : Entries.value? entries name = some spec) (h : Entries.AgreeBut name fields others)
    (hturn : (validator.turn depth (name, spec) (Entries.value? fields name)).AgreesWith
      (validator.turn depth (name, spec) (Entries.value? others name))) :
    (validator.validateFields (validator.context depth) entries fields).AgreesWith
      (validator.validateFields (validator.context depth) entries others) := by
  induction entries generalizing fields others with
  | nil => cases hspec
  | cons entry rest ih =>
    obtain ⟨key, first⟩ := entry
    have hrule : first.normalize.SelfContained := hrules (key, first) List.mem_cons_self
    have hrest := fun entry hmem => hrules entry (List.mem_cons_of_mem _ hmem)
    by_cases hkey : key = name
    · subst hkey
      rw [Entries.value?, if_pos rfl] at hspec
      obtain rfl := Option.some.inj hspec
      cases hrun : (validator.turn depth (key, first) (Entries.value? fields key)).result with
      | error e =>
        rw [validateFields_cons_turn_error hreg hrule hrun,
          validateFields_cons_turn_error hreg hrule (hturn.result_eq.symm.trans hrun)]
        exact .error e _ _
      | ok errors =>
        obtain ⟨left, hleft⟩ := exists_target_turn validator depth first h.mem_first
        rw [validateFields_cons_turn_ok hreg hrule hrun,
          validateFields_cons_turn_ok hreg hrule (hturn.result_eq.symm.trans hrun),
          ← hturn.target_eq errors hrun, hleft, Entries.fill_some, Entries.fill_some, h.put_eq]
        exact .refl _
    · rw [Entries.value?, if_neg hkey] at hspec
      have hsame := h.value?_eq hkey
      cases hrun : (validator.turn depth (key, first) (Entries.value? fields key)).result with
      | error e =>
        rw [validateFields_cons_turn_error hreg hrule hrun,
          validateFields_cons_turn_error hreg hrule (hsame ▸ hrun)]
        exact .error e _ _
      | ok errors =>
        rw [validateFields_cons_turn_ok hreg hrule hrun,
          validateFields_cons_turn_ok hreg hrule (hsame ▸ hrun), ← hsame]
        refine (ih hrest hspec (h.fill hkey _) ?_).map (errors ++ ·)
        rwa [Entries.value?_fill_of_ne fields _ (Ne.symm hkey),
          Entries.value?_fill_of_ne others _ (Ne.symm hkey)]

/-- Runs over two objects with such a place agree, if the checks of the fields do. -/
theorem validateFields_textOrNull (hreg : validator.registry = .builtin) {rules : RuleSet}
    (hrules : rules.All Rule.SelfContained)
    (hchecks : ∀ name spec, (name, spec) ∈ rules.entries → ∀ (kind : Checker.Kind) value other,
      kind.TextOrNull validator.options spec.normalize value other → ∀ siblings,
        Checked.AgreesWith (kind.run (validator.context depth name siblings) spec.normalize value)
          (kind.run (validator.context depth name siblings) spec.normalize other))
    (h : rules.TextOrNull validator.options fields others) :
    (validator.validateFields (validator.context depth) rules.entries fields).AgreesWith
      (validator.validateFields (validator.context depth) rules.entries others) := by
  have hself : ∀ entry ∈ rules.entries, entry.2.normalize.SelfContained :=
    fun ⟨name, spec⟩ hentry => (hrules.normalize hentry).self
  cases h with
  | here base hspec hcollapses =>
    refine validateFields_agreeBut hreg hself hspec (Entries.agreeBut_put base _ _ _) ?_
    rw [Entries.value?_put_self, Entries.value?_put_self, turn, ready_collapses hcollapses]
    exact .refl _
  | inside base hspec hkind hinside =>
    refine validateFields_agreeBut hreg hself hspec (Entries.agreeBut_put base _ _ _) ?_
    rw [Entries.value?_put_self, Entries.value?_put_self]
    obtain ⟨hvalue, hother⟩ := hinside.isStructured
    exact turn_of_checks hreg hkind hvalue hother
      (hchecks _ _ (Entries.mem_of_value? hspec) _ _ _ hinside)

end Validator

/-! ## Checks of values with such a place -/

namespace Checker

variable {validator : Validator} {value other : Json} {check : Json → Checked}

/-- The checks of items agree if they differ in one item and its checks agree. -/
theorem items_agree (h : (check value).AgreesWith (check other)) (before after : List Json)
    (index : Nat) (rule : Rule) :
    (items (fun _ => check) index rule (before ++ value :: after)).AgreesWith
      (items (fun _ => check) index rule (before ++ other :: after)) := by
  induction before generalizing index rule with
  | nil =>
    simp only [List.nil_append, items, ← h.verdict_eq, ← h.rule_eq]
    cases hverdict : (check value).verdict with
    | error e => exact .error e _ _
    | ok verdict =>
      rw [h.value_eq verdict hverdict]
      exact .refl _
  | cons first rest ih =>
    simp only [List.cons_append, items]
    cases hverdict : (check first).verdict with
    | error e => exact .error e _ _
    | ok verdict => exact ((ih (index + 1) (check first).rule).map _).edit ((check first).value :: ·)

/-- **No check can tell such a text from null**, at whatever depth the place is. -/
theorem Kind.run_textOrNull (hreg : validator.registry = .builtin) : ∀ depth (kind : Kind) rule,
    rule.All Rule.SelfContained → kind.calls rule ≤ depth → ∀ field siblings value other,
      kind.TextOrNull validator.options rule value other →
        Checked.AgreesWith (kind.run (validator.context depth field siblings) rule value)
          (kind.run (validator.context depth field siblings) rule other) := by
  refine Kind.descent ?_ (P := fun depth kind rule => ∀ field siblings value other,
    kind.TextOrNull validator.options rule value other →
      Checked.AgreesWith (kind.run (validator.context depth field siblings) rule value)
        (kind.run (validator.context depth field siblings) rule other)) ?_ ?_ ?_
  · refine Spec.of_normalize_typeName fun _ _ => ⟨rfl, fun check hcheck => ?_⟩
    cases hcheck
  · intro depth kind rule _ hobject harray field siblings value other h
    cases h with
    | object => exact absurd rfl hobject
    | item => exact absurd rfl harray
  · intro depth rule hrule hfields field siblings value other h
    cases h with
    | @object _ schema fields others hschema hinside =>
      have hruns : Validated.AgreesWith
          (validator.validateFields (validator.context depth) schema.entries fields)
          (validator.validateFields (validator.context depth) schema.entries others) :=
        Validator.validateFields_textOrNull hreg (hrule.of_schema hschema)
          (fun name spec hentry kind value other hplace siblings =>
            hfields _ hschema name spec hentry kind name siblings value other hplace) hinside
      simp only [Kind.run]
      rw [object_of_schema rfl hschema, object_of_schema rfl hschema, Validator.context_validate,
        Validator.validateIn_object, Validator.validateIn_object]
      exact (hruns.edit Json.object).checked rule
  · intro depth rule hrule hitems field siblings value other h
    cases h with
    | @item _ itemType kind value other before after hlength htype hkind hinside =>
      have hrequire : validator.registry.require (some itemType) = .ok (.builtin kind) :=
        hreg ▸ Registry.require_builtin.2 ⟨kind, hkind, rfl⟩
      have hother : rule.brokenLength? (before ++ other :: after).length = none := by
        simpa using hlength
      have hagree := hitems itemType kind htype hkind field [] value other hinside
      simp only [Kind.run]
      rw [array_of_require hlength htype (Validator.context_require_ok hrequire),
        array_of_require hother htype (Validator.context_require_ok hrequire)]
      simp only [Checker.run, items_builtin]
      exact ((items_agree hagree before after 0 _).edit Json.array).checked rule

end Checker

/-! ## Validation -/

/-- **Where empty texts count as absent, an empty text is as good as null.** With the built-in types,
whatever the options, and under rules that read no sibling: two objects that hold such a text and
null in one place to which a validation comes by the rules, at any depth, get the same result, and
the same is left of both unless it is a failure. -/
theorem Validator.validate_textOrNull (validator : Validator)
    (hreg : validator.registry = .builtin) (rules : RuleSet)
    (hrules : rules.All Rule.SelfContained) (fields others : Json.Members)
    (h : rules.TextOrNull validator.options fields others) :
    (validator.validate rules (.object fields)).result =
        (validator.validate rules (.object others)).result ∧
      ∀ errors, (validator.validate rules (.object fields)).result = .ok errors →
        (validator.validate rules (.object fields)).target =
          (validator.validate rules (.object others)).target := by
  have hchecks : ∀ name spec, (name, spec) ∈ rules.entries → ∀ (kind : Checker.Kind) value other,
      kind.TextOrNull validator.options spec.normalize value other → ∀ siblings,
        Checked.AgreesWith
          (kind.run (validator.context (validator.depth rules) name siblings) spec.normalize value)
          (kind.run (validator.context (validator.depth rules) name siblings) spec.normalize
            other) :=
    fun name spec hentry kind value other hplace siblings =>
      Checker.Kind.run_textOrNull hreg _ kind _ (hrules.normalize hentry)
        (validator.calls_le_depth hentry kind) name siblings value other hplace
  have hagree := (validateFields_textOrNull hreg hrules hchecks h).edit Json.object
  rw [validate, validate, validateIn_object, validateIn_object]
  exact ⟨hagree.result_eq, hagree.target_eq⟩

/-- The title of an album, and its tracks, whose notes are trimmed and have a default. -/
def Validator.albumRules : RuleSet :=
  ⟨[("title", .typeName "string"),
    ("tracks", .record
      { typeName := some "array"
        itemType := some "object"
        schema := some ⟨[("length", .typeName "int"),
          ("note", .record
            { typeName := some "string?"
              trim := true
              widelyUndefined := some true
              fallback := some (.string "none") })]⟩ })]⟩

/-- An album of two tracks, the second one without a length and with a note. -/
def Validator.album (note : Json) : Json.Members :=
  [("title", .string ""),
    ("tracks", .array [.object [("length", .bool true)], .object [("note", note)]])]

/-- A note of blanks in the second track, which counts as absent by its own rule alone, gets the
default. -/
theorem Validator.validate_textOrNull_albumRules :
    albumRules.All Rule.SelfContained ∧
      albumRules.TextOrNull {} (album (.string " \t")) (album .null) ∧
      (validate {} albumRules (.object (album (.string " \t")))).result =
        .ok [⟨"should not be empty", some "title", .invalid⟩,
          ⟨"should be an integer", some "tracks[0].length", .invalid⟩,
          ⟨"length is required", some "tracks[1].length", .missingField⟩] ∧
      (validate {} albumRules (.object (album (.string " \t")))).target =
        .object [("title", .string ""),
          ("tracks", .array [.object [("length", .bool true), ("note", .string "none")],
            .object [("note", .string "none")]])] := by
  have hrules : albumRules.All Rule.SelfContained := by decide
  have hplace : albumRules.TextOrNull {} (album (.string " \t")) (album .null) :=
    @RuleSet.TextOrNull.inside {} albumRules "tracks" _ .array _ _ (album .null) rfl rfl
      (@Checker.Kind.TextOrNull.item {} _ _ .object _ _ [.object [("length", .bool true)]] []
        rfl rfl rfl (.object rfl
          (@RuleSet.TextOrNull.here {} _ "note" " \t" _ [("note", .null)] rfl
            ⟨rfl, .inr ⟨rfl, by decide⟩⟩)))
  obtain ⟨hresult, htarget⟩ := validate_textOrNull {} rfl albumRules hrules _ _ hplace
  have hnull : (validate {} albumRules (.object (album .null))).result =
      .ok [⟨"should not be empty", some "title", .invalid⟩,
        ⟨"should be an integer", some "tracks[0].length", .invalid⟩,
        ⟨"length is required", some "tracks[1].length", .missingField⟩] := rfl
  exact ⟨hrules, hplace, hresult.trans hnull, (htarget _ (hresult.trans hnull)).trans rfl⟩

end Rulebook
