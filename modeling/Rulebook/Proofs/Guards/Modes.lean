import Rulebook.Guard
import Rulebook.Proofs.Messages.Templates
import Rulebook.Proofs.Rules.Reading
import Rulebook.Proofs.Validation.Frame
import Rulebook.Proofs.Validation.Root
/-!
# Guards — the two modes

A closed guard is an open one with one more test: once the data are valid, the first field without a
rule is an error. The test comes after the validation, which edits the data; but it keeps the fields
where they are, and what it adds has a rule, so the test finds what it would have found before
(`Guard.unknownField?_validate`). An open guard lets pass what a validation without the check of the
root finds valid, if it is an object or an array. `Guard.check_modes` puts this together, wherever
the rules come from.
-/

namespace Rulebook

/-- **Rules that are loaded are well formed**, wherever they come from. -/
theorem RuleSource.wellFormed_of_load {source : RuleSource} {rules : RuleSet}
    (h : source.load = .ok rules) : rules.WellFormed := by
  cases source with
  | inline rules hrules => exact Except.ok.inj h ▸ hrules
  | json document => exact RuleSet.wellFormed_ofJson h
  | file path content => exact RuleSet.wellFormed_ofFile h

namespace Message

/-- The message about a field without a rule ends in its name. -/
theorem fill_unknownField (field : String) :
    fill (unknownField field) = "fields outside the rule set are not allowed: " ++ field := by
  have htokens : tokens "fields outside the rule set are not allowed: %s".toList =
      "fields outside the rule set are not allowed: ".toList.map .char ++ [.slot] := by decide
  rw [fill_eq_join, unknownField, htokens, parts_chars, parts_slot_cons, parts_nil,
    ← String.toList_inj, String.toList_join, List.flatMap_map, List.flatMap_append,
    List.flatMap_map]
  simp [Part.written]

end Message

namespace Guard

variable {guard : Guard} {rules : RuleSet} {data : Json}

/-! ## Fields without a rule -/

/-- **A validation does not change which field is the first one without a rule.** -/
theorem unknownField?_validate (validator : Validator) (hrules : rules.names.Nodup) (data : Json) :
    unknownField? rules (validator.validate rules data).target = unknownField? rules data := by
  obtain ⟨hobject, hother⟩ := validator.validate_frame rules hrules data
  by_cases hdata : ∃ fields, data = .object fields
  · obtain ⟨fields, rfl⟩ := hdata
    obtain ⟨after, done, rest, htarget, hentries, hframed, -⟩ := hobject fields rfl
    -- what a default has added has a rule
    have hadded : (Entries.names (Validator.additions done fields)).find?
        (fun name => !rules.contains name) = none := by
      rw [List.find?_eq_none]
      intro name hname
      obtain ⟨entry, hmem, rfl⟩ := List.mem_map.1 hname
      have hrule := Validator.mem_names_of_mem_additions hmem
      have hcontains : rules.contains entry.1 = true := by
        rw [RuleSet.contains, Entries.has, Entries.value?_isSome_iff, hentries,
          Entries.names_append]
        exact List.mem_append_left _ hrule
      simp [hcontains]
    rw [htarget, unknownField?, hframed.names_eq, List.find?_append, hadded, Option.or_none,
      unknownField?]
  · rw [hother fun fields h => hdata ⟨fields, h⟩]

/-- No field is without a rule exactly if every name has one, or if there are no fields at all. -/
theorem unknownField?_eq_none_iff (hdata : data.isStructured = true) :
    unknownField? rules data = none ↔
      (∃ items, data = .array items) ∨
        ∀ name ∈ Entries.names data.fields, rules.contains name = true := by
  cases data with
  | object fields => simp [unknownField?, Json.fields, List.find?_eq_none]
  | array items => simp [unknownField?]
  | _ => cases hdata

/-- The first field without a rule comes after fields that have one. -/
theorem exists_of_unknownField? {name : String} (h : unknownField? rules data = some name) :
    ∃ before after, Entries.names data.fields = before ++ name :: after ∧
      (∀ other ∈ before, rules.contains other = true) ∧ rules.contains name = false := by
  cases data with
  | object fields =>
    obtain ⟨hname, before, after, hnames, hbefore⟩ := List.find?_eq_some_iff_append.1 h
    exact ⟨before, after, hnames, fun other hother => by simpa using hbefore other hother,
      by simpa using hname⟩
  | _ => cases h

/-! ## The open mode -/

/-- What is neither an object nor an array is rejected. -/
theorem checkOpen_of_scalar (hroot : guard.validator.options.validateRoot = true)
    (h : data.isStructured = false) :
    ∃ rejection, (guard.checkOpen rules data).result = .error rejection := by
  cases hnull : data.isNull with
  | true => exact ⟨.noData, by rw [checkOpen, if_pos hnull]⟩
  | false =>
    have hvalidated : guard.validator.validate rules data =
        ⟨.ok [.root (guard.validator.say .notStructured)], data⟩ := by
      simp [Validator.validate, Validator.validateIn, hroot, h]
    exact ⟨.invalid [.root (guard.validator.say .notStructured)], by
      rw [checkOpen, if_neg (by simp [hnull]), hvalidated]⟩

/-- An object or an array passes if a validation finds nothing. -/
theorem checkOpen_eq_ok_iff (h : data.isStructured = true) :
    (guard.checkOpen rules data).result = .ok () ↔
      (guard.validator.validate rules data).result = .ok [] := by
  rw [checkOpen, if_neg (by simp [Json.isNull_of_isStructured h])]
  dsimp only
  cases hresult : (guard.validator.validate rules data).result with
  | error e => simp
  | ok errors => cases errors <;> simp

/-- So what passes is an object or an array. -/
theorem isStructured_of_checkOpen (hroot : guard.validator.options.validateRoot = true)
    (h : (guard.checkOpen rules data).result = .ok ()) : data.isStructured = true := by
  cases hdata : data.isStructured with
  | true => rfl
  | false =>
    obtain ⟨rejection, hrejected⟩ := checkOpen_of_scalar hroot hdata
    cases hrejected.symm.trans h

/-- It is left as the validation leaves it. -/
theorem target_checkOpen (h : data.isStructured = true) :
    (guard.checkOpen rules data).target = (guard.validator.validate rules data).target := by
  rw [checkOpen, if_neg (by simp [Json.isNull_of_isStructured h])]
  dsimp only
  split <;> rfl

/-! ## The closed mode -/

/-- What an open guard rejects, a closed one rejects for the same reason. -/
theorem checkClosed_of_error {rejection : Rejection}
    (h : (guard.checkOpen rules data).result = .error rejection) :
    guard.checkClosed rules data =
      ⟨.error rejection, (guard.checkOpen rules data).target⟩ := by
  simp only [checkClosed, h]

/-- What an open guard lets pass, a closed one looks through for a field without a rule. -/
theorem checkClosed_of_ok (hroot : guard.validator.options.validateRoot = true)
    (hrules : rules.names.Nodup) (h : (guard.checkOpen rules data).result = .ok ()) :
    guard.checkClosed rules data =
      ⟨match unknownField? rules data with
        | some field => .error (.invalid [guard.unknownFieldError field])
        | none => .ok (), (guard.checkOpen rules data).target⟩ := by
  have hfield : unknownField? rules (guard.checkOpen rules data).target =
      unknownField? rules data := by
    rw [target_checkOpen (isStructured_of_checkOpen hroot h), unknownField?_validate _ hrules]
  simp only [checkClosed, h, hfield]
  cases unknownField? rules data <;> rfl

/-- A closed guard never leaves other data than an open one. -/
theorem target_checkClosed (guard : Guard) (rules : RuleSet) (data : Json) :
    (guard.checkClosed rules data).target = (guard.checkOpen rules data).target := by
  unfold checkClosed
  dsimp only
  split
  · rfl
  · split <;> rfl

/-! ## Both modes -/

/-- The guard's own check of the root makes no difference to objects and arrays. -/
theorem validate_ofOptions (options : Validator.Options) (rules : RuleSet)
    (hdata : data.isStructured = true) :
    (ofOptions options).validator.validate rules data =
      Validator.validate { options := { options with validateRoot := false } } rules data := by
  have hguard : (ofOptions options).validator = Validator.withRoot
      { options := { options with validateRoot := false } } true := rfl
  rw [hguard, Validator.validate_withRoot Registry.standard_builtin true rules hdata]

/-- **Open and closed guards differ by one test of the fields that were there before.** Whatever the
options, and for all rules that can be loaded and all data: an open guard lets pass what is an
object or an array and valid, the check of the root left out. A closed one leaves the same data. It
rejects what an open one rejects, for the same reason; and of what an open one lets pass it rejects
exactly the objects that had a field without a rule, with one error that names the first such field.
-/
theorem check_modes (options : Validator.Options) (source : RuleSource) (rules : RuleSet)
    (hload : source.load = .ok rules) (data : Json) :
    let opened := (ofOptions options).check .opened source.load data
    let closed := (ofOptions options).check .closed source.load data
    let validator : Validator := { options := { options with validateRoot := false } }
    (opened.result = .ok () ↔
      data.isStructured = true ∧ (validator.validate rules data).result = .ok []) ∧
    closed.target = opened.target ∧
    (∀ rejection, opened.result = .error rejection → closed.result = .error rejection) ∧
    (opened.result = .ok () →
      (closed.result = .ok () ↔ (∃ items, data = .array items) ∨
        ∀ name ∈ Entries.names data.fields, rules.contains name = true) ∧
      (closed.result ≠ .ok () → ∃ before name after,
        Entries.names data.fields = before ++ name :: after ∧
        (∀ other ∈ before, rules.contains other = true) ∧ rules.contains name = false ∧
        closed.result = .error (.invalid
          [⟨"fields outside the rule set are not allowed: " ++ name, some "out-of-bounds-field",
            .outOfBoundsField⟩]))) := by
  have hrules := (RuleSource.wellFormed_of_load hload).names_nodup
  have hroot : (ofOptions options).validator.options.validateRoot = true := rfl
  simp only [check, hload]
  refine ⟨?_, target_checkClosed _ rules data, fun rejection h => ?_, fun h => ?_⟩
  · constructor
    · intro h
      have hdata := isStructured_of_checkOpen hroot h
      exact ⟨hdata, validate_ofOptions options rules hdata ▸ (checkOpen_eq_ok_iff hdata).1 h⟩
    · rintro ⟨hdata, hvalid⟩
      exact (checkOpen_eq_ok_iff hdata).2 (validate_ofOptions options rules hdata ▸ hvalid)
  · rw [checkClosed_of_error h]
  · rw [checkClosed_of_ok hroot hrules h,
      ← unknownField?_eq_none_iff (isStructured_of_checkOpen hroot h)]
    cases hfield : unknownField? rules data with
    | none => simp
    | some name =>
      obtain ⟨before, after, hnames, hbefore, hname⟩ := exists_of_unknownField? hfield
      refine ⟨by simp, fun _ => ⟨before, name, after, hnames, hbefore, hname, ?_⟩⟩
      rw [← Message.fill_unknownField]
      rfl

/-- A title that is trimmed, and a mark that is set where it is missing. -/
def slideRules : RuleSet :=
  ⟨[("title", .record { typeName := some "string", trim := true }),
    ("done", .record { typeName := some "bool?", fallback := some (.bool false) })]⟩

/-- A slide with a note, for which there is no rule. -/
def slide : Json :=
  .object [("note", .null), ("title", .string " a ")]

/-- The slide is valid, so an open guard lets it pass; a closed one names the note, and not the mark
that the validation has added. -/
theorem check_modes_slideRules :
    let source := RuleSource.inline slideRules (by decide)
    ((ofOptions {}).check .opened source.load slide).result = .ok () ∧
      ((ofOptions {}).check .closed source.load slide).result = .error (.invalid
        [⟨"fields outside the rule set are not allowed: " ++ "note", some "out-of-bounds-field",
          .outOfBoundsField⟩]) := by
  intro source
  obtain ⟨hopened, -, -, hmodes⟩ := check_modes {} source slideRules rfl slide
  have hpasses := hopened.2 ⟨rfl, rfl⟩
  obtain ⟨hclosed, hrejects⟩ := hmodes hpasses
  have hnote : ¬ ∀ name ∈ Entries.names slide.fields, slideRules.contains name = true :=
    fun h => nomatch h "note" (by decide)
  obtain ⟨before, name, after, hnames, hbefore, -, herror⟩ := hrejects fun h =>
    (hclosed.1 h).elim (fun ⟨_, hitems⟩ => nomatch hitems) hnote
  refine ⟨hpasses, ?_⟩
  cases before with
  | nil =>
    obtain ⟨rfl, -⟩ := List.cons.inj hnames
    exact herror
  | cons first rest =>
    -- the note would have a rule
    obtain ⟨rfl, -⟩ := List.cons.inj hnames
    exact absurd (hbefore "note" (by simp)) (by decide)

end Guard

end Rulebook
