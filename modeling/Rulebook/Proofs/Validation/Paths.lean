import Rulebook.Proofs.Validation.Descent
import Rulebook.Proofs.Validation.Findings
/-!
# Validation — no two errors at one place

A path is a text, and its parts are told apart by points and brackets alone, which stand between
them unevenly: `a[0].[1]`, `a[0].b`, and `a.` for a field without a name in `a`. As long as no field
has a point or an opening bracket in its name, a path says in which field or in which item it starts
(`FieldError.Within`), so errors from different fields have different paths, and so do errors from
different items. A check finds the errors inside a value in distinct places (`Verdict.Distinct`): so
it is for the items of an array and the fields of an object if it is so for the checks inside, and
nothing else looks inside. Hence no two errors of a validation share a path
(`Validator.validate_paths_distinct`).
-/

namespace Rulebook

/-- The errors that a validation that got through returns, if it found any. -/
def Validated.reported {α : Type} (validated : Validated α) :
    Except ConfigError (Option (List FieldError)) :=
  validated.result.map fun errors => if errors.isEmpty then none else some errors

/-! ## Names without marks -/

/-- What stands after a field in a path. -/
def FieldError.marks : List Char := ['.', '[']

/-- A name without a point and without an opening bracket. -/
def Unmarked (name : String) : Prop :=
  ∀ c ∈ name.toList, c ∉ FieldError.marks

instance (name : String) : Decidable (Unmarked name) :=
  decidable_of_iff ((name.toList.all fun c => !FieldError.marks.contains c) = true)
    (by simp [Unmarked])

/-- The names in the schema of a rule are unmarked. -/
def Rule.UnmarkedNames (rule : Rule) : Prop :=
  ∀ schema ∈ rule.schema, ∀ name ∈ schema.names, Unmarked name

instance (rule : Rule) : Decidable rule.UnmarkedNames :=
  inferInstanceAs (Decidable (∀ schema ∈ rule.schema, ∀ name ∈ schema.names, Unmarked name))

/-- A rule whose fields have paths that can be told apart: no schema in it gives a name two specs,
and none has a name with a mark. -/
structure Rule.ClearlyNamed (rule : Rule) : Prop where
  distinctNames : rule.DistinctNames
  unmarkedNames : rule.UnmarkedNames

/-- The rule of a type alone names no fields. -/
theorem Rule.clearlyNamed_typeName (name : String) :
    (Spec.typeName name).normalize.ClearlyNamed :=
  Spec.of_normalize_typeName
    (fun _ _ => ⟨fun _ h => (nomatch h), fun _ h => (nomatch h)⟩) name

/-- No name has a mark, at any depth. -/
structure RuleSet.Unmarked (rules : RuleSet) : Prop where
  /-- The names of the rule set itself. -/
  names : ∀ name ∈ rules.names, Rulebook.Unmarked name
  /-- The names of the schemas. -/
  all_unmarkedNames : rules.All Rule.UnmarkedNames

instance (rules : RuleSet) : Decidable rules.Unmarked :=
  decidable_of_iff ((∀ name ∈ rules.names, Unmarked name) ∧ rules.All Rule.UnmarkedNames)
    ⟨fun h => ⟨h.1, h.2⟩, fun h => ⟨h.names, h.all_unmarkedNames⟩⟩

namespace FieldError

/-! ## Where a path starts -/

/-- A path up to the first of some characters. -/
def start (stops : List Char) (path : String) : List Char :=
  path.toList.takeWhile fun c => !stops.contains c

/-- The path of the error is a place, or goes on after it with one of some characters, which are not
in the place. -/
def Within (stops : List Char) (place : String) (error : FieldError) : Prop :=
  ∃ path, error.field = some path ∧ start stops path = place.toList

variable {stops : List Char} {place other path : String} {error another : FieldError}

/-- What follows a place starts with a stop, if there is anything. -/
theorem start_append {rest : String} (hplace : ∀ c ∈ place.toList, c ∉ stops)
    (hrest : ∀ c ∈ rest.toList.head?, c ∈ stops) : start stops (place ++ rest) = place.toList := by
  unfold start
  rw [String.toList_append, List.takeWhile_append_of_pos (by simpa using hplace)]
  cases hlist : rest.toList with
  | nil => simp
  | cons c cs =>
    have hc : c ∈ stops := hrest c (by simp [hlist])
    simp [hc]

/-- An error about the place itself. -/
theorem within_self {message : String} {code : ErrorCode} (hplace : ∀ c ∈ place.toList, c ∉ stops) :
    Within stops place ⟨message, some place, code⟩ := by
  have hself : start stops (place ++ "") = place.toList :=
    start_append hplace (by simp)
  exact ⟨place, rfl, by rwa [String.append_empty] at hself⟩

/-- Errors within different places have different paths. -/
theorem Within.field_ne (h : Within stops place error) (hother : Within stops other another)
    (hne : place ≠ other) : error.field ≠ another.field := by
  obtain ⟨path, hpath, hstart⟩ := h
  obtain ⟨path', hpath', hstart'⟩ := hother
  intro hsame
  obtain rfl : path = path' := Option.some.inj (hpath.symm.trans (hsame.trans hpath'))
  exact hne (String.toList_inj.1 (hstart.symm.trans hstart'))

/-! ## Distinct paths -/

/-- **Every error has a path, and no two of them have the same.** -/
structure Distinct (errors : List FieldError) : Prop where
  exists_path : ∀ error ∈ errors, ∃ path, error.field = some path
  pairwise : errors.Pairwise fun error other => error.field ≠ other.field

variable {errors others : List FieldError}

theorem distinct_nil : Distinct [] :=
  ⟨fun _ h => (nomatch h), List.Pairwise.nil⟩

theorem distinct_singleton (message path : String) (code : ErrorCode) :
    Distinct [⟨message, some path, code⟩] :=
  ⟨fun error h => ⟨path, by rw [List.mem_singleton.1 h]⟩, List.pairwise_singleton _ _⟩

/-- Errors that are distinct in themselves and from each other. -/
theorem Distinct.append (h : Distinct errors) (hothers : Distinct others)
    (hne : ∀ error ∈ errors, ∀ other ∈ others, error.field ≠ other.field) :
    Distinct (errors ++ others) := by
  refine ⟨fun error hmem => ?_, List.pairwise_append.2 ⟨h.pairwise, hothers.pairwise, hne⟩⟩
  rcases List.mem_append.1 hmem with hmem | hmem
  · exact h.exists_path error hmem
  · exact hothers.exists_path error hmem

/-- Distinct paths stay distinct behind a common beginning. -/
theorem Distinct.under (h : Distinct errors) (place : String) :
    Distinct (errors.map (·.under place)) := by
  refine ⟨fun error hmem => ?_, ?_⟩
  · obtain ⟨inner, -, rfl⟩ := List.mem_map.1 hmem
    exact ⟨_, rfl⟩
  · refine List.pairwise_map.2 (h.pairwise.imp_of_mem fun {first second} hfirst hsecond hne => ?_)
    obtain ⟨path, hpath⟩ := h.exists_path first hfirst
    obtain ⟨path', hpath'⟩ := h.exists_path second hsecond
    simp only [FieldError.under, hpath, hpath'] at hne ⊢
    intro hsame
    have happend : place ++ path = place ++ path' := Option.some.inj hsame
    have hlists := congrArg String.toList happend
    rw [String.toList_append, String.toList_append] at hlists
    exact hne (congrArg some (String.toList_inj.1 (List.append_cancel_left hlists)))

/-- The paths of distinct errors, as texts. -/
theorem Distinct.exists_paths (h : Distinct errors) :
    ∃ paths : List String, errors.map field = paths.map some ∧ paths.Nodup := by
  have hsome : errors.map field = (errors.map fun error => error.field.getD "").map some := by
    rw [List.map_map]
    refine List.map_congr_left fun error hmem => ?_
    obtain ⟨path, hpath⟩ := h.exists_path error hmem
    simp [hpath]
  have hnodup : ((errors.map fun error => error.field.getD "").map some).Nodup := by
    rw [← hsome]
    exact List.pairwise_map.2 h.pairwise
  exact ⟨_, hsome, (List.pairwise_map.1 hnodup).imp fun hne hsame => hne (congrArg some hsame)⟩

end FieldError

/-! ## Verdicts -/

/-- **What a verdict of a type finds inside a value is at distinct places**, and unless it is an
object, in items. -/
def Verdict.Distinct (kind : Checker.Kind) (verdict : Verdict) : Prop :=
  ∀ errors, verdict = .nested errors → FieldError.Distinct errors ∧
    (kind ≠ .object → ∀ error ∈ errors, ∃ path, error.field = some path ∧
      path.toList.head? = some '[')

variable {kind : Checker.Kind} {verdict : Verdict} {name : String} {rule : Rule}

/-- **The errors of a field are distinct, and all of them are within it.** -/
theorem Verdict.Distinct.fieldErrors (h : verdict.Distinct kind)
    (hname : Unmarked name)
    (hkind : rule.typeName.bind Checker.Kind.ofTypeName? = some kind) :
    FieldError.Distinct (Validator.fieldErrors name rule verdict) ∧
      ∀ error ∈ Validator.fieldErrors name rule verdict,
        error.Within FieldError.marks name := by
  cases verdict with
  | valid => exact ⟨FieldError.distinct_nil, fun _ hmem => nomatch hmem⟩
  | invalid message =>
    refine ⟨FieldError.distinct_singleton message name .invalid, fun error hmem => ?_⟩
    rw [List.mem_singleton.1 hmem]
    exact FieldError.within_self hname
  | nested errors =>
    obtain ⟨hdistinct, hitems⟩ := h errors rfl
    refine ⟨hdistinct.under _, fun error hmem => ?_⟩
    obtain ⟨inner, hinner, rfl⟩ := List.mem_map.1 hmem
    obtain ⟨path, hpath⟩ := hdistinct.exists_path inner hinner
    by_cases hobject : rule.typeName = some "object"
    · -- a point follows the field
      refine ⟨name ++ ("." ++ path), ?_, FieldError.start_append hname ?_⟩
      · simp [FieldError.under, hpath, hobject, String.append_assoc]
      · simp [FieldError.marks]
    · -- a bracket follows the field
      have hother : kind ≠ .object := by
        rintro rfl
        obtain ⟨typeName, htype, hfound⟩ := Option.bind_eq_some_iff.1 hkind
        exact hobject (htype.trans (congrArg some (Checker.Kind.ofTypeName?_object.1 hfound)))
      obtain ⟨path', hpath', hbracket⟩ := hitems hother inner hinner
      obtain rfl : path = path' := Option.some.inj (hpath.symm.trans hpath')
      refine ⟨name ++ path, ?_, FieldError.start_append hname ?_⟩
      · simp [FieldError.under, hpath, hobject]
      · simp [FieldError.marks, hbracket]

namespace Checker

/-! ## Items -/

/-- The place of an item has no point. -/
theorem not_mem_itemPlace (index : Nat) : ∀ c ∈ (itemPlace index).toList, c ∉ ['.'] := by
  intro c hc
  rw [List.mem_singleton]
  rintro rfl
  have hdigit : '.' ∈ Decimal.digits index := by
    simpa [itemPlace, Decimal.text, String.toList_append] using hc
  exact absurd (Decimal.isDigit_of_mem_digits hdigit) (by decide)

/-- Different items have different places. -/
theorem itemPlace_inj {index other : Nat} (h : itemPlace index = itemPlace other) :
    index = other := by
  have hlists := congrArg String.toList h
  simp only [itemPlace, String.toList_append] at hlists
  have hmiddle := List.append_cancel_left (List.append_cancel_right hlists)
  exact Decimal.text_inj.1 (String.toList_inj.1 hmiddle)

/-- An error within an item starts with a bracket. -/
theorem head?_of_within_item {error : FieldError} {index : Nat}
    (h : error.Within ['.'] (itemPlace index)) :
    ∃ path, error.field = some path ∧ path.toList.head? = some '[' := by
  obtain ⟨path, hpath, hstart⟩ := h
  refine ⟨path, hpath, ?_⟩
  obtain ⟨rest, hrest⟩ : FieldError.start ['.'] path <+: path.toList := List.takeWhile_prefix _
  rw [← hrest, hstart, itemPlace]
  simp [String.toList_append]

/-- The errors of an item are distinct, and all of them are within it. -/
theorem itemErrors_distinct (h : verdict.Distinct kind) (index : Nat) :
    FieldError.Distinct (itemErrors index verdict) ∧
      ∀ error ∈ itemErrors index verdict, error.Within ['.'] (itemPlace index) := by
  have hplace := not_mem_itemPlace index
  cases verdict with
  | valid => exact ⟨FieldError.distinct_nil, fun _ hmem => nomatch hmem⟩
  | invalid message =>
    refine ⟨FieldError.distinct_singleton message _ .invalid, fun error hmem => ?_⟩
    rw [List.mem_singleton.1 hmem]
    exact FieldError.within_self hplace
  | nested errors =>
    obtain ⟨hdistinct, -⟩ := h errors rfl
    refine ⟨hdistinct.under _, fun error hmem => ?_⟩
    obtain ⟨inner, hinner, rfl⟩ := List.mem_map.1 hmem
    obtain ⟨path, hpath⟩ := hdistinct.exists_path inner hinner
    refine ⟨itemPlace index ++ ("." ++ path), ?_, FieldError.start_append hplace (by simp)⟩
    simp [FieldError.under, hpath, String.append_assoc]

/-- **The errors of items are distinct**, and each of them is within an item. -/
theorem items_distinct (check : Json → Checked) (rule : Rule)
    (hcheck : ∀ item verdict, (check item).verdict = .ok verdict → verdict.Distinct kind)
    (values : List Json) : ∀ index errors,
      (Checker.items (fun _ => check) index rule values).result = .ok errors →
        FieldError.Distinct errors ∧
          ∀ error ∈ errors, ∃ place, index ≤ place ∧ error.Within ['.'] (itemPlace place) := by
  induction values generalizing rule with
  | nil =>
    intro index errors h
    obtain rfl := Except.ok.inj h
    exact ⟨FieldError.distinct_nil, fun _ hmem => nomatch hmem⟩
  | cons item rest ih =>
    intro index errors h
    obtain ⟨verdict, others, hverdict, hothers, rfl, -⟩ := items_cons_eq_ok h
    obtain ⟨hfirst, hwithin⟩ := itemErrors_distinct (hcheck item verdict hverdict) index
    obtain ⟨hrest, hlater⟩ := ih _ (index + 1) others hothers
    refine ⟨hfirst.append hrest fun error hmem other hother => ?_, fun error hmem => ?_⟩
    · obtain ⟨place, hplace, hwithinOther⟩ := hlater other hother
      refine (hwithin error hmem).field_ne hwithinOther fun hsame => ?_
      have := itemPlace_inj hsame
      omega
    · rcases List.mem_append.1 hmem with hmem | hmem
      · exact ⟨index, Nat.le_refl index, hwithin error hmem⟩
      · obtain ⟨place, hplace, hwithinOther⟩ := hlater error hmem
        exact ⟨place, by omega, hwithinOther⟩

end Checker

namespace Validator

variable {validator : Validator} {context : String → Json.Members → Checker.Context}
variable {siblings : Json.Members} {slot : Option Json} {errors : List FieldError}

/-! ## Fields -/

/-- The checks of a type under a rule find what is inside a value at distinct places, in whatever
context of some. -/
def ChecksApart (context : String → Json.Members → Checker.Context) (kind : Checker.Kind)
    (rule : Rule) : Prop :=
  ∀ field siblings value verdict,
    (kind.run (context field siblings) rule value).verdict = .ok verdict → verdict.Distinct kind

/-- **The errors of a field's turn are distinct, and all of them are within the field.** -/
theorem validateSlot_distinct (hreg : validator.registry = .builtin) (hname : Unmarked name)
    (hchecks : ∀ kind, ChecksApart context kind rule)
    (h : (validator.validateSlot context rule name siblings slot).result = .ok errors) :
    FieldError.Distinct errors ∧ ∀ error ∈ errors, error.Within FieldError.marks name := by
  rcases validateSlot_eq_ok h with ⟨-, -, rfl⟩ | ⟨-, -, rfl, -⟩ |
    ⟨value, checker, verdict, -, hrequire, hverdict, rfl, -⟩
  · refine ⟨FieldError.distinct_singleton _ name .missingField, fun error hmem => ?_⟩
    rw [List.mem_singleton.1 hmem]
    exact FieldError.within_self hname
  · exact ⟨FieldError.distinct_nil, fun _ hmem => nomatch hmem⟩
  · obtain ⟨kind, hkind, rfl⟩ := Registry.require_builtin.1 (hreg ▸ hrequire)
    have hdistinct := hchecks kind name _ _ verdict hverdict
    rw [Checker.run, Checker.Kind.run_rule]
    exact hdistinct.fieldErrors hname (by rw [Checker.Kind.typeName_ruleAfter, hkind])

/-- **The errors of a run over fields are distinct**, and each of them is within one of the fields.
-/
theorem validateFields_distinct (hreg : validator.registry = .builtin)
    (entries : List (String × Spec)) (hnames : (Entries.names entries).Nodup)
    (hunmarked : ∀ name ∈ Entries.names entries, Unmarked name)
    (hchecks : ∀ entry ∈ entries, ∀ kind, ChecksApart context kind entry.2.normalize) :
    ∀ fields errors, (validator.validateFields context entries fields).result = .ok errors →
      FieldError.Distinct errors ∧
        ∀ error ∈ errors, ∃ name ∈ Entries.names entries,
          error.Within FieldError.marks name := by
  induction entries with
  | nil =>
    intro fields errors h
    obtain rfl := Except.ok.inj h
    exact ⟨FieldError.distinct_nil, fun _ hmem => nomatch hmem⟩
  | cons entry rest ih =>
    obtain ⟨first, spec⟩ := entry
    obtain ⟨hfresh, hrestNames⟩ := List.nodup_cons.1 hnames
    intro fields errors h
    obtain ⟨turn, others, hturn, hothers, rfl, -⟩ := validateFields_cons_eq_ok h
    rw [validateField_eq] at hturn
    obtain ⟨hfirst, hwithin⟩ := validateSlot_distinct hreg (hunmarked first (by simp))
      (hchecks (first, spec) (by simp)) hturn
    obtain ⟨hrest, hlater⟩ := ih hrestNames
      (fun name hname => hunmarked name (List.mem_cons_of_mem _ hname))
      (fun entry hentry => hchecks entry (List.mem_cons_of_mem _ hentry)) _ others hothers
    refine ⟨hfirst.append hrest fun error hmem other hother => ?_, fun error hmem => ?_⟩
    · -- the later fields have other names
      obtain ⟨name, hname, hwithinOther⟩ := hlater other hother
      refine (hwithin error hmem).field_ne hwithinOther ?_
      rintro rfl
      exact hfresh hname
    · rcases List.mem_append.1 hmem with hmem | hmem
      · exact ⟨first, by simp, hwithin error hmem⟩
      · obtain ⟨name, hname, hwithinOther⟩ := hlater error hmem
        exact ⟨name, List.mem_cons_of_mem _ hname, hwithinOther⟩

/-- So are the errors of a validation of an object or an array. -/
theorem validateIn_distinct (hreg : validator.registry = .builtin) {rules : RuleSet}
    (hnames : rules.names.Nodup) (hunmarked : ∀ name ∈ rules.names, Unmarked name)
    (hchecks : ∀ entry ∈ rules.entries, ∀ kind, ChecksApart context kind entry.2.normalize)
    {target : Json} (htarget : target.isStructured = true)
    (h : (validator.validateIn context rules target).result = .ok errors) :
    FieldError.Distinct errors := by
  cases target with
  | object fields =>
    rw [validateIn_object] at h
    exact (validateFields_distinct hreg rules.entries hnames hunmarked hchecks fields errors h).1
  | array items =>
    rw [validateIn_array] at h
    exact (validateFields_distinct hreg rules.entries hnames hunmarked hchecks [] errors h).1
  | _ => cases htarget

/-! ## Checks inside -/

/-- Objects are looked into field by field. -/
theorem checksApart_object (hreg : validator.registry = .builtin) {depth : Nat}
    (hnames : rule.DistinctNames) (hunmarked : rule.UnmarkedNames)
    (hchecks : ∀ schema, rule.schema = some schema → ∀ entry ∈ schema.entries, ∀ kind,
      ChecksApart (validator.context depth) kind entry.2.normalize) :
    ChecksApart (validator.context (depth + 1)) .object rule := by
  rintro field siblings value _ hverdict errors rfl
  obtain ⟨hvalue, schema, hschema, hresult⟩ := Checker.object_nested hverdict
  rw [context_validate] at hresult
  refine ⟨?_, fun hother => absurd rfl hother⟩
  exact validateIn_distinct hreg (hnames schema hschema) (hunmarked schema hschema)
    (hchecks schema hschema) hvalue hresult

/-- Arrays are looked into item by item. -/
theorem checksApart_array (hreg : validator.registry = .builtin) {depth : Nat}
    (hchecks : ∀ itemType kind, rule.itemType = some itemType →
      Checker.Kind.ofTypeName? itemType = some kind →
        ChecksApart (validator.context depth) kind (Checker.itemRule rule itemType)) :
    ChecksApart (validator.context (depth + 1)) .array rule := by
  rintro field siblings value _ hverdict errors rfl
  obtain ⟨items, itemType, check, rfl, htype, hrequire, hresult⟩ := Checker.array_nested hverdict
  obtain ⟨kind, hkind, hregistered⟩ := exists_kind_of_context_require hreg hrequire
  rw [context_require_ok hregistered] at hrequire
  obtain rfl := Except.ok.inj hrequire
  simp only [Checker.run] at hresult
  rw [Checker.items_builtin] at hresult
  obtain ⟨hdistinct, hwithin⟩ := Checker.items_distinct _ _
    (fun item verdict => hchecks itemType kind htype hkind field [] item verdict) items 0 errors
    hresult
  refine ⟨hdistinct, fun _ error hmem => ?_⟩
  obtain ⟨place, -, hplace⟩ := hwithin error hmem
  exact Checker.head?_of_within_item hplace

/-- **Every check that is deep enough finds what is inside a value at distinct places.** -/
theorem checksApart (hreg : validator.registry = .builtin) (depth : Nat) (kind : Checker.Kind)
    (rule : Rule) (hrule : rule.All Rule.ClearlyNamed) (hcalls : kind.calls rule ≤ depth) :
    ChecksApart (validator.context depth) kind rule := by
  refine Checker.Kind.descent Rule.clearlyNamed_typeName
    (P := fun depth kind rule => ChecksApart (validator.context depth) kind rule) ?scalar
    ?object ?array depth kind rule hrule hcalls
  case scalar =>
    rintro depth kind rule - hobject harray field siblings value _ hverdict errors rfl
    exact absurd hverdict (Checker.Kind.run_ne_nested hobject harray errors)
  case object =>
    intro depth rule hrule hinside
    exact checksApart_object hreg hrule.self.distinctNames hrule.self.unmarkedNames
      fun schema hschema entry hentry => hinside schema hschema entry.1 entry.2 hentry
  case array => exact fun depth rule _ hinside => checksApart_array hreg hinside

/-- **No two errors share a path.** With the built-in types, whatever the options and however values
are converted and compared: as long as no name of a field has a point or an opening bracket, the
errors that a validation of an object or an array returns are at least one, and their paths are
pairwise distinct. -/
theorem validate_paths_distinct (validator : Validator) (hreg : validator.registry = .builtin)
    (rules : RuleSet) (hrules : rules.WellFormed) (hnames : rules.Unmarked) (target : Json)
    (htarget : target.isStructured = true) (errors : List FieldError)
    (h : (validator.validate rules target).reported = .ok (some errors)) :
    errors ≠ [] ∧
      ∃ paths : List String, errors.map FieldError.field = paths.map some ∧ paths.Nodup := by
  obtain ⟨found, hresult, hfound⟩ := exists_of_map_eq_ok h
  obtain ⟨rfl, hne⟩ : found = errors ∧ errors ≠ [] := by
    split at hfound
    · cases hfound
    next hempty =>
      obtain rfl := Option.some.inj hfound
      exact ⟨rfl, by simpa using hempty⟩
  refine ⟨hne, FieldError.Distinct.exists_paths ?_⟩
  have hall : rules.All Rule.ClearlyNamed :=
    fun r hr => ⟨hrules.all_distinctNames r hr, hnames.all_unmarkedNames r hr⟩
  exact validateIn_distinct hreg hrules.names_nodup hnames.names
    (fun entry hentry kind => checksApart hreg _ kind _ (hall.normalize hentry)
      (validator.calls_le_depth hentry kind)) htarget hresult

/-- Fields without a name, in each other and in items. -/
def namelessRules : RuleSet :=
  ⟨[("", .record
      { typeName := some "array"
        itemType := some "object"
        schema := some ⟨[("", .typeName "int"), ("a", .record
          { typeName := some "array", itemType := some "int" })]⟩ }),
    ("a", .record { typeName := some "object", schema := some ⟨[("", .typeName "int")]⟩ })]⟩

/-- Each of their errors has a path of its own, `[0].` and `a.` among them. -/
theorem validate_paths_distinct_namelessRules :
    let data : Json := .object
      [("", .array [.object [("a", .array [.null, .bool true])], .null]), ("a", .object [])]
    let errors : List FieldError :=
      [⟨" is required", some "[0].", .missingField⟩,
        ⟨"should be an integer", some "[0].a[0]", .invalid⟩,
        ⟨"should be an integer", some "[0].a[1]", .invalid⟩,
        ⟨"should be an object", some "[1]", .invalid⟩,
        ⟨" is required", some "a.", .missingField⟩]
    (validate {} namelessRules data).reported = .ok (some errors) ∧
      ∃ paths : List String, errors.map FieldError.field = paths.map some ∧ paths.Nodup := by
  intro data errors
  have hreported : (validate {} namelessRules data).reported = .ok (some errors) := rfl
  exact ⟨hreported, (validate_paths_distinct {} rfl namelessRules (by decide) (by decide) data rfl
    errors hreported).2⟩

end Validator

end Rulebook
