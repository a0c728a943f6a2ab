import Rulebook.Proofs.Coercions.Builtin
import Rulebook.Proofs.Validation.Depth
import Rulebook.Proofs.Validation.Frame
/-!
# Validation — the independence of fields

With the built-in types a field reads its siblings in two places only: a password that must repeat
another field, and a converter of the caller. Without these a run is determined field by field. The
turn of a field is then a function of its own slot (`Validator.turn`, `validateField_eq_turn`), so a
run over an object is the runs over its single fields put together, in whatever order the rules are
and whatever else the object holds.
-/

namespace Rulebook

namespace Entries

variable {α : Type u}

/-- The entry of one name alone, if it is bound. -/
def only (entries : Entries α) (name : String) : Entries α :=
  ((value? entries name).map (name, ·)).toList

@[simp]
theorem value?_only (entries : Entries α) (name : String) :
    value? (only entries name) name = value? entries name := by
  unfold only
  cases value? entries name <;> simp [value?]

end Entries

/-- A rule by which no sibling is read: it compares with no field, and it converts by no function of
the caller. -/
structure Rule.SelfContained (rule : Rule) : Prop where
  compare_eq : rule.compare = none
  conversion_ne : ∀ convert, rule.conversion ≠ some (.custom convert)

/-- A rule asks for no function of the caller. -/
def Rule.NoFunction (rule : Rule) : Prop :=
  ∀ convert, rule.conversion ≠ some (.custom convert)

instance (rule : Rule) : Decidable rule.NoFunction :=
  match h : rule.conversion with
  | some (.custom convert) => isFalse fun hno => hno convert h
  | some (.named _) => isTrue fun _ hsome => nomatch h.symm.trans hsome
  | none => isTrue fun _ hsome => nomatch h.symm.trans hsome

instance (rule : Rule) : Decidable rule.SelfContained :=
  decidable_of_iff (rule.compare = none ∧ rule.NoFunction)
    ⟨fun h => ⟨h.1, h.2⟩, fun h => ⟨h.compare_eq, h.conversion_ne⟩⟩

/-- A rule as it can be written in a document: no schema in it gives a name two specs, and it asks
for no function of the caller. -/
structure Rule.Declarative (rule : Rule) : Prop where
  distinctNames : rule.DistinctNames
  noFunction : rule.NoFunction

/-- The rule of a type alone can be written. -/
theorem Rule.declarative_typeName (name : String) :
    (Spec.typeName name).normalize.Declarative :=
  Spec.of_normalize_typeName
    (fun _ _ => ⟨fun _ h => (nomatch h), fun _ h => (nomatch h)⟩) name

namespace Validator

variable {validator : Validator} {rules : RuleSet} {rule : Rule} {name : String} {spec : Spec}
variable {fields others siblings : Json.Members} {slot : Option Json}
variable {entries : List (String × Spec)}

/-- The validation of one field alone: under its rule, on an object that holds nothing else. -/
def alone (validator : Validator) (fields : Json.Members) (entry : String × Spec) :
    Validated Json :=
  validator.validate ⟨[entry]⟩ (.object (Entries.only fields entry.1))

/-- The turn of a field that reads no sibling. -/
def turn (validator : Validator) (depth : Nat) (entry : String × Spec) (slot : Option Json) :
    Validated (Option Json) :=
  validator.validateSlot (validator.context depth) entry.2.normalize entry.1 []
    (ready validator.options entry.2.normalize slot)

/-! ## Siblings are not read -/

/-- The coercions of the built-in types are built in. -/
theorem coercionFor?_builtin {typeName : String} {coercion : Coercion}
    (h : Registry.builtin.coercionFor? typeName = some coercion) :
    ∃ kind, coercion = .builtin kind := by
  have hmem := Entries.mem_of_value? h
  obtain ⟨⟨name, kind, asked⟩, -, hcoercion⟩ := List.mem_filterMap.1 hmem
  obtain ⟨kind, -, hpair⟩ := Option.map_eq_some_iff.1 hcoercion
  exact ⟨kind, (congrArg Prod.snd hpair).symm⟩

/-- A rule that asks for no function of the caller is converted by a built-in coercion, if at all.
-/
theorem coercionFor?_noFunction (hreg : validator.registry = .builtin) (hrule : rule.NoFunction)
    {coercion : Coercion} (h : validator.coercionFor? rule = some coercion) :
    ∃ kind, coercion = .builtin kind := by
  unfold coercionFor? at h
  rw [hreg] at h
  split at h
  · rename_i convert hconversion
    exact absurd hconversion (hrule convert)
  · unfold Registry.resolve? at h
    split at h
    · exact ⟨_, (Option.some.inj h).symm⟩
    · exact coercionFor?_builtin h
  · split at h
    · obtain ⟨typeName, -, hcoercion⟩ := Option.bind_eq_some_iff.1 h
      exact coercionFor?_builtin hcoercion
    · cases h

/-- So conversion makes nothing structured of a scalar. -/
theorem isStructured_converted (hreg : validator.registry = .builtin) (hrule : rule.NoFunction) :
    (validator.converted rule siblings value).isStructured = value.isStructured := by
  unfold converted
  cases hvalue : value.isStructured with
  | true => exact hvalue
  | false =>
    cases hcoercion : validator.coercionFor? rule with
    | none => exact hvalue
    | some coercion =>
      obtain ⟨kind, rfl⟩ := coercionFor?_noFunction hreg hrule hcoercion
      exact kind.isStructured_apply hvalue

/-- Nor does it look at the siblings. -/
theorem converted_eq (hreg : validator.registry = .builtin) (hrule : rule.SelfContained)
    (fields others : Json.Members) (value : Json) :
    validator.converted rule fields value = validator.converted rule others value := by
  unfold converted
  split
  · rfl
  · split
    · rename_i coercion hcoercion
      obtain ⟨kind, rfl⟩ := coercionFor?_noFunction hreg hrule.conversion_ne hcoercion
      rfl
    · rfl

/-- Nor does the whole turn of a field that compares with none. -/
theorem validateSlot_siblings_eq (hreg : validator.registry = .builtin)
    (hrule : rule.SelfContained) (depth : Nat) (siblings others : Json.Members) :
    validator.validateSlot (validator.context depth) rule name siblings slot =
      validator.validateSlot (validator.context depth) rule name others slot := by
  unfold validateSlot
  split
  · rfl
  · split
    · rfl
    · rename_i checker hrequire
      rw [hreg] at hrequire
      obtain ⟨kind, -, rfl⟩ := Registry.require_builtin.1 hrequire
      rw [converted_eq hreg hrule siblings others,
        run_siblings_eq (by simp) hrule.compare_eq depth _ (Entries.put others name .null)]

/-- **The turn of a field is a function of its slot.** -/
theorem validateField_eq_turn (hreg : validator.registry = .builtin)
    (hrule : spec.normalize.SelfContained) (depth : Nat) (name : String) (fields : Json.Members) :
    validator.validateField (validator.context depth) spec.normalize name fields =
      let run := validator.turn depth (name, spec) (Entries.value? fields name)
      ⟨run.result, Entries.fill fields name run.target⟩ := by
  rw [validateField_eq, validateSlot_siblings_eq hreg hrule depth _ []]
  rfl

/-- The field holds what its turn left in the slot. -/
theorem value?_fill_turn (validator : Validator) (depth : Nat) (name : String) (spec : Spec)
    (fields : Json.Members) :
    Entries.value? (Entries.fill fields name
      (validator.turn depth (name, spec) (Entries.value? fields name)).target) name =
      (validator.turn depth (name, spec) (Entries.value? fields name)).target := by
  refine Entries.value?_fill_self fun h => ?_
  have hready := eq_none_of_validateSlot h
  simpa [ready] using hready

/-- A name that none of the later rules has keeps its value to the end. -/
theorem value?_validateFields_of_not_mem (hnames : (Entries.names entries).Nodup)
    (hname : name ∉ Entries.names entries) (depth : Nat) :
    Entries.value? (validator.validateFields (validator.context depth) entries fields).target name =
      Entries.value? fields name := by
  obtain ⟨done, _, _, hframed, _⟩ := validateFields_framed validator (validator.context depth)
    entries hnames fields
  exact hframed.kept name hname

/-! ## A run, turn by turn -/

/-- A turn that gets through is followed by the run over the other fields, on what it left. -/
theorem validateFields_cons_turn_ok (hreg : validator.registry = .builtin)
    (hrule : spec.normalize.SelfContained) {depth : Nat} {errors : List FieldError}
    (h : (validator.turn depth (name, spec) (Entries.value? fields name)).result = .ok errors) :
    validator.validateFields (validator.context depth) ((name, spec) :: entries) fields =
      let others := validator.validateFields (validator.context depth) entries
        (Entries.fill fields name
          (validator.turn depth (name, spec) (Entries.value? fields name)).target)
      ⟨others.result.map (errors ++ ·), others.target⟩ := by
  have hturn := validateField_eq_turn hreg hrule depth name fields
  rw [validateFields_cons_ok (by rw [hturn]; exact h), hturn]

/-- A turn that fails ends the run. -/
theorem validateFields_cons_turn_error (hreg : validator.registry = .builtin)
    (hrule : spec.normalize.SelfContained) {depth : Nat} {e : ConfigError}
    (h : (validator.turn depth (name, spec) (Entries.value? fields name)).result = .error e) :
    validator.validateFields (validator.context depth) ((name, spec) :: entries) fields =
      ⟨.error e, Entries.fill fields name
        (validator.turn depth (name, spec) (Entries.value? fields name)).target⟩ := by
  have hturn := validateField_eq_turn hreg hrule depth name fields
  rw [validateFields_cons_error (by rw [hturn]; exact h), hturn]

/-- The validation of one field alone is its turn. -/
theorem alone_eq_turn (hreg : validator.registry = .builtin) (fields : Json.Members)
    {entry : String × Spec}
    (hentry : entry ∈ rules.entries) (hrule : entry.2.normalize.SelfContained) {depth : Nat}
    (hdepth : 2 * rules.height ≤ depth) :
    (validator.alone fields entry).result =
        (validator.turn depth entry (Entries.value? fields entry.1)).result ∧
      Entries.value? (validator.alone fields entry).target.fields entry.1 =
        (validator.turn depth entry (Entries.value? fields entry.1)).target := by
  obtain ⟨name, spec⟩ := entry
  have hheight : 2 * (RuleSet.mk [(name, spec)]).height ≤ depth := by
    have hle := RuleSet.height_normalize_le hentry
    have hone : (RuleSet.mk [(name, spec)]).height = spec.normalize.height := by
      rw [Spec.height_normalize, RuleSet.height, heightOfEntries, heightOfEntries]
      omega
    omega
  have hstandard : validator.registry.Standard := hreg ▸ Registry.standard_builtin
  have hleft := value?_fill_turn validator depth name spec (Entries.only fields name)
  rw [Entries.value?_only] at hleft
  unfold alone
  rw [validate_eq_of_le hstandard hheight, validateIn_object]
  cases hrun : (validator.turn depth (name, spec) (Entries.value? fields name)).result with
  | error e =>
    rw [validateFields_cons_turn_error hreg hrule (by rw [Entries.value?_only]; exact hrun),
      Entries.value?_only]
    exact ⟨rfl, hleft⟩
  | ok errors =>
    rw [validateFields_cons_turn_ok hreg hrule (by rw [Entries.value?_only]; exact hrun),
      Entries.value?_only]
    exact ⟨by simp [Except.map], hleft⟩

section Runs

variable (hreg : validator.registry = .builtin) (depth : Nat)

include hreg

/-- **If every turn gets through**, the run returns their errors in the order of the rules, and
leaves in every field what its turn left. -/
theorem validateFields_of_turns (hnames : (Entries.names entries).Nodup)
    (hrules : ∀ entry ∈ entries, entry.2.normalize.SelfContained)
    (errors : String × Spec → List FieldError) (fields : Json.Members)
    (h : ∀ entry ∈ entries,
      (validator.turn depth entry (Entries.value? fields entry.1)).result = .ok (errors entry)) :
    (validator.validateFields (validator.context depth) entries fields).result =
        .ok (entries.flatMap errors) ∧
      ∀ entry ∈ entries, Entries.value?
          (validator.validateFields (validator.context depth) entries fields).target entry.1 =
        (validator.turn depth entry (Entries.value? fields entry.1)).target := by
  induction entries generalizing fields with
  | nil => exact ⟨rfl, by simp⟩
  | cons entry rest ih =>
    obtain ⟨name, spec⟩ := entry
    obtain ⟨hname, hrest⟩ := List.nodup_cons.1 hnames
    have hok := h (name, spec) (by simp)
    -- the later fields are as they were
    have hsame : ∀ entry ∈ rest, Entries.value? (Entries.fill fields name
        (validator.turn depth (name, spec) (Entries.value? fields name)).target) entry.1 =
          Entries.value? fields entry.1 := by
      intro entry hmem
      exact Entries.value?_fill_of_ne fields _ (Entries.fst_ne_of_mem hname hmem)
    obtain ⟨hresult, htarget⟩ := ih hrest (fun entry hmem => hrules entry (by simp [hmem]))
      (Entries.fill fields name
        (validator.turn depth (name, spec) (Entries.value? fields name)).target)
      fun entry hmem => by rw [hsame entry hmem]; exact h entry (by simp [hmem])
    rw [validateFields_cons_turn_ok hreg (hrules (name, spec) (by simp)) hok]
    refine ⟨by simp [hresult, Except.map], fun entry hmem => ?_⟩
    rcases List.mem_cons.1 hmem with rfl | hmem
    · -- and no later turn writes to this field
      rw [value?_validateFields_of_not_mem hrest hname]
      exact value?_fill_turn validator depth name spec fields
    · rw [htarget entry hmem, hsame entry hmem]

/-- **If a turn fails** and those before it get through, the run fails with its error. -/
theorem validateFields_of_failing {entry : String × Spec} {done rest : List (String × Spec)}
    {e : ConfigError} (hnames : (Entries.names (done ++ entry :: rest)).Nodup)
    (hrules : ∀ other ∈ done ++ entry :: rest, other.2.normalize.SelfContained)
    (fields : Json.Members)
    (hdone : ∀ other ∈ done, ∃ errors,
      (validator.turn depth other (Entries.value? fields other.1)).result = .ok errors)
    (h : (validator.turn depth entry (Entries.value? fields entry.1)).result = .error e) :
    (validator.validateFields (validator.context depth) (done ++ entry :: rest) fields).result =
      .error e := by
  induction done generalizing fields with
  | nil => rw [List.nil_append, validateFields_cons_turn_error hreg (hrules entry (by simp)) h]
  | cons first done ih =>
    obtain ⟨name, spec⟩ := first
    obtain ⟨hname, hrest⟩ := List.nodup_cons.1 hnames
    obtain ⟨errors, hok⟩ := hdone (name, spec) (by simp)
    have hsame : ∀ other ∈ done ++ entry :: rest, Entries.value? (Entries.fill fields name
        (validator.turn depth (name, spec) (Entries.value? fields name)).target) other.1 =
          Entries.value? fields other.1 := by
      intro other hmem
      exact Entries.value?_fill_of_ne fields _ (Entries.fst_ne_of_mem hname hmem)
    rw [List.cons_append, validateFields_cons_turn_ok hreg (hrules (name, spec) (by simp)) hok]
    dsimp only
    rw [ih hrest (fun other hmem => hrules other (List.mem_cons_of_mem _ hmem)) _
      (fun other hmem => by
        rw [hsame other (by simp [hmem])]
        exact hdone other (by simp [hmem]))
      (by rw [hsame entry (by simp)]; exact h)]
    rfl

/-- **Two objects that agree in the fields of the rules** get the same result, and still agree there
afterwards. -/
theorem validateFields_agree (hnames : (Entries.names entries).Nodup)
    (hrules : ∀ entry ∈ entries, entry.2.normalize.SelfContained) (fields others : Json.Members)
    (h : ∀ name ∈ Entries.names entries,
      Entries.value? others name = Entries.value? fields name) :
    (validator.validateFields (validator.context depth) entries others).result =
        (validator.validateFields (validator.context depth) entries fields).result ∧
      ∀ name ∈ Entries.names entries, Entries.value?
          (validator.validateFields (validator.context depth) entries others).target name =
        Entries.value?
          (validator.validateFields (validator.context depth) entries fields).target name := by
  induction entries generalizing fields others with
  | nil => exact ⟨rfl, by simp⟩
  | cons entry rest ih =>
    obtain ⟨name, spec⟩ := entry
    obtain ⟨hname, hrest⟩ := List.nodup_cons.1 hnames
    have hslot := h name (by simp)
    have hrule := hrules (name, spec) (by simp)
    have hfirst := value?_fill_turn validator depth name spec fields
    have hsecond := value?_fill_turn validator depth name spec others
    rw [hslot] at hsecond
    have hagree : ∀ other ∈ Entries.names ((name, spec) :: rest),
        Entries.value? (Entries.fill others name
          (validator.turn depth (name, spec) (Entries.value? fields name)).target) other =
        Entries.value? (Entries.fill fields name
          (validator.turn depth (name, spec) (Entries.value? fields name)).target) other := by
      intro other hmem
      by_cases hother : other = name
      · rw [hother, hfirst, hsecond]
      · rw [Entries.value?_fill_of_ne _ _ hother, Entries.value?_fill_of_ne _ _ hother]
        exact h other hmem
    cases hrun : (validator.turn depth (name, spec) (Entries.value? fields name)).result with
    | error e =>
      rw [validateFields_cons_turn_error hreg hrule hrun,
        validateFields_cons_turn_error hreg hrule (by rw [hslot]; exact hrun), hslot]
      exact ⟨rfl, hagree⟩
    | ok errors =>
      rw [validateFields_cons_turn_ok hreg hrule hrun,
        validateFields_cons_turn_ok hreg hrule (by rw [hslot]; exact hrun), hslot]
      dsimp only
      obtain ⟨hresult, htarget⟩ := ih hrest (fun entry hmem => hrules entry (by simp [hmem]))
        _ _ fun other hmem => hagree other (by simp [hmem])
      refine ⟨by rw [hresult], fun other hmem => ?_⟩
      rcases List.mem_cons.1 hmem with rfl | hmem
      · rw [value?_validateFields_of_not_mem hrest hname,
          value?_validateFields_of_not_mem hrest hname]
        exact hagree _ (by simp)
      · exact htarget other hmem

end Runs

/-! ## A validation, field by field -/

section Fields

variable (hreg : validator.registry = .builtin)
variable (hrules : ∀ entry ∈ rules.entries, entry.2.normalize.SelfContained)

include hreg hrules

/-- **If every field gets through alone**, so they do together, in any order of the rules. -/
theorem validate_of_alone (hnames : rules.names.Nodup) {order : RuleSet}
    (horder : order.entries.Perm rules.entries) (errors : String × Spec → List FieldError)
    (h : ∀ entry ∈ rules.entries, (validator.alone fields entry).result = .ok (errors entry)) :
    (validator.validate order (.object fields)).result = .ok (order.entries.flatMap errors) ∧
      ∀ entry ∈ order.entries,
        Entries.value? (validator.validate order (.object fields)).target.fields entry.1 =
          Entries.value? (validator.alone fields entry).target.fields entry.1 := by
  have hsame := fun (entry : String × Spec) (hmem : entry ∈ order.entries) =>
    alone_eq_turn hreg fields hmem (hrules entry (horder.mem_iff.1 hmem))
      (two_mul_height_le_depth validator order)
  obtain ⟨hresult, htarget⟩ := validateFields_of_turns hreg (validator.depth order)
    ((horder.map Prod.fst).nodup_iff.2 hnames)
    (fun entry hmem => hrules entry (horder.mem_iff.1 hmem)) errors fields
    fun entry hmem => by
      rw [← (hsame entry hmem).1]
      exact h entry (horder.mem_iff.1 hmem)
  rw [validate, validateIn_object]
  refine ⟨hresult, fun entry hmem => ?_⟩
  rw [(hsame entry hmem).2]
  exact htarget entry hmem

/-- **If a field fails alone**, and those before it get through, they fail together in the same way.
-/
theorem validate_of_alone_failing (hnames : rules.names.Nodup) {entry : String × Spec}
    {done rest : List (String × Spec)} {e : ConfigError}
    (hentries : rules.entries = done ++ entry :: rest)
    (hdone : ∀ other ∈ done, ∃ errors, (validator.alone fields other).result = .ok errors)
    (h : (validator.alone fields entry).result = .error e) :
    (validator.validate rules (.object fields)).result = .error e := by
  have hsame : ∀ other ∈ rules.entries, (validator.alone fields other).result =
      (validator.turn (validator.depth rules) other (Entries.value? fields other.1)).result :=
    fun other hmem => (alone_eq_turn hreg fields hmem (hrules other hmem)
      (two_mul_height_le_depth validator rules)).1
  unfold RuleSet.names at hnames
  rw [hentries] at hrules hsame hnames
  rw [validate, validateIn_object, hentries]
  refine validateFields_of_failing hreg _ hnames hrules fields (fun other hmem => ?_) ?_
  · obtain ⟨errors, hok⟩ := hdone other hmem
    exact ⟨errors, (hsame other (by simp [hmem])).symm.trans hok⟩
  · exact (hsame entry (by simp)).symm.trans h

end Fields

/-- **Fields are validated independently.** With the built-in types and rules that read no sibling,
the validation of an object is that of its fields, each one alone. If they all get through, their
errors follow each other in the order of the rules, every field is left as it is alone, and another
order of the rules permutes the groups of errors without changing them. If one fails, the validation
fails with the error of the first that does. Fields without a rule have no influence on either. -/
theorem validate_eq_alone (validator : Validator) (hreg : validator.registry = .builtin)
    (rules : RuleSet) (hnames : rules.names.Nodup)
    (hrules : ∀ entry ∈ rules.entries, entry.2.normalize.SelfContained) (fields : Json.Members) :
    (∀ errors : String × Spec → List FieldError,
      (∀ entry ∈ rules.entries, (validator.alone fields entry).result = .ok (errors entry)) →
        (validator.validate rules (.object fields)).result =
          .ok (rules.entries.flatMap errors) ∧
        (∀ entry ∈ rules.entries,
          Entries.value? (validator.validate rules (.object fields)).target.fields entry.1 =
            Entries.value? (validator.alone fields entry).target.fields entry.1) ∧
        ∀ permuted : RuleSet, permuted.entries.Perm rules.entries →
          (validator.validate permuted (.object fields)).result =
            .ok (permuted.entries.flatMap errors)) ∧
    (∀ done entry rest e, rules.entries = done ++ entry :: rest →
      (∀ other ∈ done, ∃ errors, (validator.alone fields other).result = .ok errors) →
      (validator.alone fields entry).result = .error e →
        (validator.validate rules (.object fields)).result = .error e) ∧
    ∀ others : Json.Members,
      (∀ name ∈ rules.names, Entries.value? others name = Entries.value? fields name) →
        (validator.validate rules (.object others)).result =
          (validator.validate rules (.object fields)).result ∧
        ∀ name ∈ rules.names,
          Entries.value? (validator.validate rules (.object others)).target.fields name =
            Entries.value? (validator.validate rules (.object fields)).target.fields name := by
  refine ⟨fun errors hok => ?_, fun done entry rest e => ?_, fun others hagree => ?_⟩
  · obtain ⟨hresult, htarget⟩ := validate_of_alone hreg hrules hnames (.refl _) errors hok
    exact ⟨hresult, htarget, fun permuted hperm =>
      (validate_of_alone hreg hrules hnames hperm errors hok).1⟩
  · exact validate_of_alone_failing hreg hrules hnames
  · rw [validate, validateIn_object, validate, validateIn_object]
    exact validateFields_agree hreg _ hnames hrules fields others hagree

/-- A required field and an optional one. -/
def pageAndKind : RuleSet :=
  ⟨[("page", .typeName "int"), ("kind", .typeName "string?")]⟩

/-- A field that is missing and one of another type, beside a field without a rule. -/
theorem validate_eq_alone_pageAndKind :
    (validate {} pageAndKind (.object [("kind", .bool true), ("note", .null)])).result =
      .ok ([⟨"page is required", some "page", .missingField⟩] ++
        [⟨"should be a string", some "kind", .invalid⟩]) := by
  have hrules : ∀ entry ∈ pageAndKind.entries, entry.2.normalize.SelfContained := by
    intro entry hmem
    rcases List.mem_cons.1 hmem with rfl | hmem
    · exact ⟨rfl, fun _ h => nomatch h⟩
    · rw [List.mem_singleton.1 hmem]
      exact ⟨rfl, fun _ h => nomatch h⟩
  refine ((validate_eq_alone {} rfl pageAndKind (by decide) hrules _).1
    (fun entry => if entry.1 = "page" then [⟨"page is required", some "page", .missingField⟩]
      else [⟨"should be a string", some "kind", .invalid⟩]) fun entry hmem => ?_).1
  rcases List.mem_cons.1 hmem with rfl | hmem
  · rfl
  · rw [List.mem_singleton.1 hmem]
    rfl

end Validator

end Rulebook
