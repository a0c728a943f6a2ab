import Rulebook.Command.Check
import Rulebook.Proofs.Reports.Lines
/-!
# Commands — a check of many files

A check of many files is made of the checks of each of them. Once the settings and the rules are
there, all that a run does with a file is `Plan.reportOn`, which reads nothing but that file: no
file leaves anything behind for the next (`check_of_reports`, `check_of_failure`). What the run as a
whole adds is that totals are summed and that a failure of one file ends it (`check_isComposition`).
None of this depends on which of several failures ends it.
-/

namespace Rulebook

/-! ## Totals -/

/-- The totals of two parts. -/
def Summary.add (first second : Summary) : Summary where
  filesChecked := first.filesChecked + second.filesChecked
  filesInvalid := first.filesInvalid + second.filesInvalid
  totalErrors := first.totalErrors + second.totalErrors

/-- The sums of some totals. -/
def Summary.sum (totals : List Summary) : Summary :=
  totals.foldr Summary.add ⟨0, 0, 0⟩

/-- The totals of one file with some errors. -/
def Summary.ofErrors (errors : List FieldError) : Summary where
  filesChecked := 1
  filesInvalid := if errors = [] then 0 else 1
  totalErrors := errors.length

/-- They are those of a report on the file alone. -/
theorem Summary.ofReports_singleton (file : String) (errors : List FieldError) :
    Summary.ofReports [⟨file, errors⟩] = .ofErrors errors := by
  cases errors <;> simp [ofReports, ofErrors, FileReport.isValid]

/-- A report adds its totals to those of the others. -/
theorem Summary.ofReports_cons (report : FileReport) (rest : List FileReport) :
    Summary.ofReports (report :: rest) =
      (Summary.ofReports [report]).add (Summary.ofReports rest) := by
  have hchecked : (report :: rest).length = [report].length + rest.length := by
    simp [Nat.add_comm]
  have hinvalid : (report :: rest).countP (fun report => !report.isValid) =
      [report].countP (fun report => !report.isValid) +
        rest.countP fun report => !report.isValid := by
    rw [← List.countP_append, List.singleton_append]
  have herrors : ((report :: rest).flatMap FileReport.errors).length =
      ([report].flatMap FileReport.errors).length + (rest.flatMap FileReport.errors).length := by
    simp
  exact (Summary.mk.injEq ..).mpr ⟨hchecked, hinvalid, herrors⟩

/-- **The totals of reports are the sums over the reports.** -/
theorem Summary.ofReports_eq_sum (reports : List FileReport) :
    Summary.ofReports reports = Summary.sum (reports.map fun report => .ofErrors report.errors) := by
  induction reports with
  | nil => rfl
  | cons report rest ih =>
    rw [Summary.ofReports_cons, Summary.ofReports_singleton, ih]
    rfl

/-- Reports pass exactly if each of them does. -/
theorem Summary.passed_ofReports_iff (reports : List FileReport) :
    (Summary.ofReports reports).passed = true ↔
      ∀ report ∈ reports, (Summary.ofReports [report]).passed = true := by
  simp [Summary.ofReports, Summary.passed, List.countP_eq_zero, List.countP_cons]

namespace Command

/-! ## Exits -/

variable {plan : Plan} {terminal : Bool}

/-- A check with reports passes or fails. -/
theorem Plan.code_outcome (plan : Plan) (terminal : Bool) (reports : List FileReport) :
    (plan.outcome terminal reports).exit.code =
      if (Summary.ofReports reports).passed then 0 else 1 := by
  unfold Plan.outcome
  split <;> rfl

/-- What it prints for programs: the lines of the errors in each file, and one line of the totals,
which says whether the code is zero. -/
theorem Plan.output_outcome (hformat : plan.format = .lines) (terminal : Bool)
    (reports : List FileReport) :
    (plan.outcome terminal reports).output =
      String.join (reports.flatMap fun report =>
        report.errors.map (Report.errorLine report.file)) ++
        Report.statusLine ((plan.outcome terminal reports).exit.code = 0) (.ofReports reports) := by
  have hpassed : decide ((plan.outcome terminal reports).exit.code = 0) =
      (Summary.ofReports reports).passed := by
    rw [plan.code_outcome]
    cases (Summary.ofReports reports).passed <;> rfl
  rw [hpassed, ← Report.lines_eq, Plan.outcome, hformat]

/-- A failure has a code of its own. -/
theorem Failure.two_le_code_outcome (failure : Failure) : 2 ≤ failure.outcome.exit.code := by
  unfold Failure.outcome
  split
  · exact Nat.le_succ 2
  · exact Nat.le_refl 2

/-! ## One run -/

/-- The request with only one of the files. -/
def CheckRequest.only (request : CheckRequest) (file : String) : CheckRequest :=
  { request with files := [file] }

variable {files : String → Except ReadError String} {gathering : Gathering}
variable {request : CheckRequest}

/-- The results that a run gathers. -/
def resultsFrom (files : String → Except ReadError String) (plan : Plan) (names : List String) :
    List (Except Failure FileReport) :=
  names.map fun name => plan.reportOn name (files name)

/-- The files to check have no part in the plan. -/
theorem planOf_only (hplan : planOf (m := Id) files request = .ok plan) (file : String) :
    planOf (m := Id) files (request.only file) = .ok plan :=
  hplan

/-- The plan that settings and rules make. -/
theorem planOf_of_ofFile {settings : Settings} {path : String} {rules : RuleSet}
    (hsettings : settingsFrom request.settings
      (files (request.settings.getD defaultSettingsFile)) = .ok settings)
    (hpath : (request.rules <|> settings.rules) = some path)
    (hrules : RuleSet.ofFile path (files path) = .ok rules) :
    planOf (m := Id) files request = .ok (request.plan settings rules) := by
  have hread : ∀ name, files name = (pure (files name) : Id (Except ReadError String)) :=
    fun _ => rfl
  have hok : ∀ {α : Type} (a : α),
      step (m := Id) (Except.mapError Failure.config (.ok a)) = pure a :=
    fun _ => rfl
  rw [planOf, hread, liftM_pure, pure_bind, hsettings, hok, pure_bind]
  simp only [hpath]
  rw [hread, liftM_pure, pure_bind, hrules, hok, pure_bind]
  rfl

/-- How a run ends with what it has gathered. -/
def Plan.ending (plan : Plan) (terminal : Bool) : Except Failure (List FileReport) → Outcome
  | .ok reports => plan.outcome terminal reports
  | .error failure => failure.outcome

/-- **What a run gathers is all that it does** after the plan is made. -/
theorem check_eq_ending (hplan : planOf (m := Id) files request = .ok plan) :
    check (m := Id) files gathering terminal request =
      plan.ending terminal (gathering.gather (resultsFrom files plan request.files)) := by
  have hmade : planOf (m := Id) files request = pure plan := hplan
  have hread : resultsOn (m := Id) files plan request.files =
      pure (resultsFrom files plan request.files) :=
    List.idRun_mapM
  rw [check, hmade, pure_bind, hread, liftM_pure, pure_bind]
  cases gathering.gather (resultsFrom files plan request.files) <;> rfl

/-- Where all results are reports, the run reports on them. -/
theorem check_of_reports (hplan : planOf (m := Id) files request = .ok plan)
    {reports : List FileReport}
    (hresults : resultsFrom files plan request.files = reports.map .ok) :
    check (m := Id) files gathering terminal request = plan.outcome terminal reports := by
  rw [check_eq_ending hplan, hresults, gathering.gather_reports]
  rfl

/-- Where some result is a failure, one of the failures ends the run. -/
theorem check_of_failure (gathering : Gathering) (terminal : Bool)
    (hplan : planOf (m := Id) files request = .ok plan) {failure : Failure}
    (hfailure : .error failure ∈ resultsFrom files plan request.files) :
    ∃ other, .error other ∈ resultsFrom files plan request.files ∧
      check (m := Id) files gathering terminal request = other.outcome := by
  obtain ⟨other, hother, hgather⟩ := gathering.gather_failure _ failure hfailure
  refine ⟨other, hother, ?_⟩
  rw [check_eq_ending hplan, hgather]
  rfl

/-! ## One file -/

/-- A run on one file whose result is a report. -/
theorem check_only_of_report (hplan : planOf (m := Id) files request = .ok plan) {file : String}
    {report : FileReport} (hresult : plan.reportOn file (files file) = .ok report) :
    check (m := Id) files gathering terminal (request.only file) =
      plan.outcome terminal [report] :=
  check_of_reports (planOf_only hplan file) (congrArg ([·]) hresult)

/-- A run on one file whose result is a failure. -/
theorem check_only_of_failure (hplan : planOf (m := Id) files request = .ok plan) {file : String}
    {failure : Failure} (hresult : plan.reportOn file (files file) = .error failure) :
    check (m := Id) files gathering terminal (request.only file) = failure.outcome := by
  have hresults : resultsFrom files plan (request.only file).files = [.error failure] :=
    congrArg ([·]) hresult
  obtain ⟨other, hother, hrun⟩ := check_of_failure gathering terminal
    (planOf_only hplan file) (hresults ▸ List.mem_singleton_self _)
  rw [hresults, List.mem_singleton] at hother
  rw [hrun, Except.error.inj hother]

/-- The errors in a file, as far as there is a report on it. -/
def errorsFrom (files : String → Except ReadError String) (plan : Plan) (file : String) :
    List FieldError :=
  match plan.reportOn file (files file) with
  | .ok report => report.errors
  | .error _ => []

/-- A report is on the file that it was asked for, and has its errors. -/
theorem report_eq {file : String} {report : FileReport}
    (hresult : plan.reportOn file (files file) = .ok report) :
    report = ⟨file, errorsFrom files plan file⟩ := by
  have herrors : errorsFrom files plan file = report.errors := by
    rw [errorsFrom, hresult]
  have hfile : report.file = file := by
    unfold Plan.reportOn at hresult
    split at hresult
    · cases hresult
    · split at hresult
      · cases hresult
      · split at hresult <;> cases hresult
        rfl
  rw [herrors, ← hfile]

/-- **Either there is a report on every file, or there is a file that ends the check.** -/
theorem reports_or_failure (files : String → Except ReadError String) (plan : Plan)
    (names : List String) :
    (∀ name ∈ names, plan.reportOn name (files name) = .ok ⟨name, errorsFrom files plan name⟩) ∨
    ∃ name ∈ names, ∃ failure, plan.reportOn name (files name) = .error failure := by
  by_cases hfailure : ∃ name ∈ names, ∃ failure, plan.reportOn name (files name) = .error failure
  · exact .inr hfailure
  · refine .inl fun name hname => ?_
    cases hresult : plan.reportOn name (files name) with
    | error failure => exact absurd ⟨name, hname, failure, hresult⟩ hfailure
    | ok report => rw [← report_eq hresult]

/-! ## Composition -/

/-- A run on files is made of the runs on each of them alone. -/
structure IsComposition (format : OutputFormat) (names : List String) (run : Outcome)
    (alone : String → Outcome) : Prop where
  /-- It passes exactly if each of them passes. -/
  passes_iff : run.exit.code = 0 ↔ ∀ name ∈ names, (alone name).exit.code = 0
  /-- It fails exactly if some of them fail and the others pass. -/
  fails_iff : run.exit.code = 1 ↔
    (∀ name ∈ names, (alone name).exit.code ≤ 1) ∧ ∃ name ∈ names, (alone name).exit.code = 1
  /-- Otherwise it prints nothing and ends as one of them does that cannot be reported on. -/
  ends_as : (∃ name ∈ names, 2 ≤ (alone name).exit.code) →
    run.output = "" ∧ ∃ name ∈ names, 2 ≤ (alone name).exit.code ∧ run.exit = (alone name).exit
  /-- Each of them prints the lines of the errors in its file and one line of the totals. It prints
  the lines of all errors, in order, and one line with the sums of the totals. A line of totals says
  whether the code is zero. -/
  lines : format = .lines → run.exit.code ≤ 1 → ∃ errors : String → List FieldError,
    (∀ name ∈ names, (alone name).output =
      String.join ((errors name).map (Report.errorLine name)) ++
        Report.statusLine ((alone name).exit.code = 0) (.ofErrors (errors name))) ∧
    run.output =
      String.join (names.flatMap fun name => (errors name).map (Report.errorLine name)) ++
        Report.statusLine (run.exit.code = 0)
          (.sum (names.map fun name => .ofErrors (errors name)))

/-- Where no code is more than one, the ones are what keeps all of them from being zero. -/
theorem exists_code_eq_one_iff {names : List String} {code : String → Nat}
    (hle : ∀ name ∈ names, code name ≤ 1) :
    (∃ name ∈ names, code name = 1) ↔ ¬ ∀ name ∈ names, code name = 0 := by
  constructor
  · rintro ⟨name, hname, hone⟩ hzero
    have hcode := hzero name hname
    omega
  · intro hzero
    obtain ⟨name, hname⟩ := Classical.not_forall.mp hzero
    obtain ⟨hmem, hne⟩ := Classical.not_imp.mp hname
    have hone := hle name hmem
    exact ⟨name, hmem, by omega⟩

/-- A run that reports is the composition of the runs on its files. -/
theorem isComposition_of_reports {names : List String} {alone : String → Outcome}
    {errors : String → List FieldError}
    (halone : ∀ name ∈ names, alone name = plan.outcome terminal [⟨name, errors name⟩]) :
    IsComposition plan.format names
      (plan.outcome terminal (names.map fun name => ⟨name, errors name⟩)) alone := by
  let totals (name : String) : Summary := .ofErrors (errors name)
  have hsum : Summary.ofReports (names.map fun name => ⟨name, errors name⟩) =
      Summary.sum (names.map totals) := by
    rw [Summary.ofReports_eq_sum, List.map_map]
    rfl
  have hcode : ∀ name ∈ names, (alone name).exit.code = if (totals name).passed then 0 else 1 := by
    intro name hname
    rw [halone name hname, Plan.code_outcome, Summary.ofReports_singleton]
  have hle : ∀ name ∈ names, (alone name).exit.code ≤ 1 := by
    intro name hname
    rw [hcode name hname]
    split <;> decide
  have hpassed : (Summary.sum (names.map totals)).passed = true ↔
      ∀ name ∈ names, (alone name).exit.code = 0 := by
    rw [← hsum, Summary.passed_ofReports_iff, List.forall_mem_map]
    refine forall₂_congr fun name hname => ?_
    rw [Summary.ofReports_singleton, hcode name hname]
    change (totals name).passed = true ↔ _
    split
    case isTrue hpass => exact ⟨fun _ => rfl, fun _ => hpass⟩
    case isFalse hfail => exact ⟨fun hpass => absurd hpass hfail, fun hone => nomatch hone⟩
  have hrun : (plan.outcome terminal (names.map fun name => ⟨name, errors name⟩)).exit.code =
      if (Summary.sum (names.map totals)).passed then 0 else 1 := by
    rw [Plan.code_outcome, hsum]
  refine ⟨?passes, ?fails, ?ends, ?lines⟩
  case passes =>
    rw [hrun, ← hpassed]
    split <;> simp [*]
  case fails =>
    rw [hrun, exists_code_eq_one_iff hle, ← hpassed]
    split
    case isTrue hpass => simp [hpass]
    case isFalse hfail => exact ⟨fun _ => ⟨hle, hfail⟩, fun _ => rfl⟩
  case ends =>
    rintro ⟨name, hname, htwo⟩
    exact absurd (Nat.le_trans htwo (hle name hname)) (by decide)
  case lines =>
    intro hformat _
    refine ⟨errors, fun name hname => ?_, ?_⟩
    · rw [halone name hname, Plan.output_outcome hformat, Summary.ofReports_singleton]
      simp
    · rw [Plan.output_outcome hformat, hsum, List.flatMap_map]

/-- A run that ends as the run on one of its files is the composition too. -/
theorem isComposition_of_failure {format : OutputFormat} {names : List String}
    {alone : String → Outcome} {name : String} (hname : name ∈ names) {failure : Failure}
    (halone : alone name = failure.outcome) :
    IsComposition format names failure.outcome alone := by
  have htwo : 2 ≤ (alone name).exit.code := halone ▸ failure.two_le_code_outcome
  have hrun : 2 ≤ failure.outcome.exit.code := failure.two_le_code_outcome
  refine ⟨?passes, ?fails, ?ends, ?lines⟩
  case passes =>
    refine ⟨fun hzero => ?_, fun hzero => ?_⟩
    · omega
    · have := hzero name hname
      omega
  case fails =>
    refine ⟨fun hone => ?_, fun ⟨hle, _⟩ => ?_⟩
    · omega
    · have := hle name hname
      omega
  case ends =>
    exact fun _ => ⟨rfl, name, hname, htwo, halone ▸ rfl⟩
  case lines =>
    intro _ hle
    omega

/-- **A check of many files is the composition of the checks of each file.** Given settings and
rules that can be used, whichever files there are and whatever is in them, and whichever of several
failures ends the run. -/
theorem check_isComposition (files : String → Except ReadError String) (gathering : Gathering)
    (terminal : Bool) (request : CheckRequest) (plan : Plan)
    (hplan : planOf (m := Id) files request = .ok plan) :
    IsComposition plan.format request.files
      (check (m := Id) files gathering terminal request)
      fun name => check (m := Id) files gathering terminal (request.only name) := by
  rcases reports_or_failure files plan request.files with
    hreports | ⟨name, hname, failure, hfailure⟩
  · -- every file is reported on, so the run reports on all of them
    have hresults : resultsFrom files plan request.files =
        (request.files.map fun name => ⟨name, errorsFrom files plan name⟩).map .ok := by
      rw [List.map_map]
      exact List.map_congr_left hreports
    rw [check_of_reports hplan hresults]
    exact isComposition_of_reports fun name hname =>
      check_only_of_report hplan (hreports name hname)
  · -- the failure that ends the run may be that of another file
    obtain ⟨other, hother, hrun⟩ := check_of_failure gathering terminal hplan
      (List.mem_map.mpr ⟨name, hname, hfailure⟩)
    obtain ⟨culprit, hculprit, hresult⟩ := List.mem_map.mp hother
    rw [hrun]
    exact isComposition_of_failure hculprit (check_only_of_failure hplan hresult)

/-- Rules, a file that is valid and one that lacks a field; there are no other files. -/
def pantry : String → Except ReadError String
  | "rules.json" => .ok (Json.object [("tea", .string "string")]).text
  | "full.json" => .ok (Json.object [("tea", .string "green")]).text
  | "bare.json" => .ok (Json.object []).text
  | _ => .error .notFound

/-- A check of the two files, one of them twice, for programs. -/
def pantryRequest : CheckRequest where
  files := ["bare.json", "full.json", "bare.json"]
  rules := some "rules.json"
  format := some .lines

/-- Their rules and the usual settings. -/
def pantryPlan : Plan :=
  pantryRequest.plan {} (.ofList [("tea", .typeName "string")])

/-- What is in the files about tea can be read. -/
theorem legible_tea (kind : String) :
    (Json.object [("tea", .string kind)]).Legible Json.nestingLimit :=
  .object (by simp [Entries.names]) fun member hmember =>
    List.mem_singleton.mp hmember ▸ .string kind

/-- The rules are read; there is no settings file, and none is needed. -/
theorem planOf_pantryRequest : planOf (m := Id) pantry pantryRequest = .ok pantryPlan := by
  have hliteral : Pattern.ofLiteral? "string" = none := by decide
  have hrules : RuleSet.ofFile "rules.json" (pantry "rules.json") =
      .ok (.ofList [("tea", .typeName "string")]) := by
    have hextension : Path.extension? "rules.json" ≠ some "toml" := by decide
    rw [pantry, RuleSet.ofFile, if_neg hextension, RuleSet.ofJsonText,
      Json.ofText?_text (legible_tea "string")]
    simp [RuleSet.ofJson, specsOf, Spec.ofJson, hliteral]
    rfl
  exact planOf_of_ofFile rfl rfl hrules

/-- Nothing is wrong with the one file. -/
theorem reportOn_full : pantryPlan.reportOn "full.json" (pantry "full.json") =
    .ok ⟨"full.json", []⟩ := by
  have hread := Json.ofText?_text (legible_tea "green")
  simp only [pantry, Plan.reportOn, hread]
  rfl

/-- The other one has no tea. -/
theorem reportOn_bare : pantryPlan.reportOn "bare.json" (pantry "bare.json") =
    .ok ⟨"bare.json", [⟨"tea is required", some "tea", .missingField⟩]⟩ := by
  have hlegible : (Json.object []).Legible Json.nestingLimit :=
    .object (by simp [Entries.names]) nofun
  have hread := Json.ofText?_text hlegible
  simp only [pantry, Plan.reportOn, hread]
  rfl

/-- The line about that. -/
def bareLine : String :=
  "\x7b\"type\":\"error\",\"file\":\"bare.json\",\"field\":\"tea\"," ++
    "\"message\":\"tea is required\",\"code\":\"missing_field\"\x7d\n"

/-- **The check is composed of those of its files**, the file that is named twice counting twice. -/
theorem check_isComposition_pantry :
    let run := check (m := Id) pantry .inOrder false pantryRequest
    let alone name := check (m := Id) pantry .inOrder false (pantryRequest.only name)
    IsComposition .lines ["bare.json", "full.json", "bare.json"] run alone ∧
      (run.exit.code = 1 ∧ run.output = bareLine ++ (bareLine ++
        ("\x7b\"type\":\"status\",\"passed\":false,\"files_checked\":3," ++
          "\"files_invalid\":2,\"total_errors\":2\x7d\n"))) ∧
      ((alone "bare.json").exit.code = 1 ∧ (alone "bare.json").output = bareLine ++
        ("\x7b\"type\":\"status\",\"passed\":false,\"files_checked\":1," ++
          "\"files_invalid\":1,\"total_errors\":1\x7d\n")) ∧
      (alone "full.json").exit.code = 0 ∧ (alone "full.json").output =
        "\x7b\"type\":\"status\",\"passed\":true,\"files_checked\":1," ++
          "\"files_invalid\":0,\"total_errors\":0\x7d\n" := by
  intro run alone
  have hrun : run = pantryPlan.outcome false
      [⟨"bare.json", [⟨"tea is required", some "tea", .missingField⟩]⟩, ⟨"full.json", []⟩,
        ⟨"bare.json", [⟨"tea is required", some "tea", .missingField⟩]⟩] := by
    refine check_of_reports planOf_pantryRequest ?_
    simp only [resultsFrom, pantryRequest, List.map_cons, List.map_nil, reportOn_full,
      reportOn_bare]
  have hbare : alone "bare.json" = pantryPlan.outcome false
      [⟨"bare.json", [⟨"tea is required", some "tea", .missingField⟩]⟩] :=
    check_only_of_report planOf_pantryRequest reportOn_bare
  have hfull : alone "full.json" = pantryPlan.outcome false [⟨"full.json", []⟩] :=
    check_only_of_report planOf_pantryRequest reportOn_full
  refine ⟨check_isComposition pantry .inOrder false pantryRequest pantryPlan planOf_pantryRequest,
    ?_⟩
  rw [hrun, hbare, hfull]
  decide +kernel

end Command

end Rulebook
