import Rulebook.Guard
import Rulebook.Proofs.Registries.Registration
import Rulebook.Proofs.Validation.Wording
/-!
# Guards — the wording of messages

A guard reads off a validation whether there are errors, and a closed one words one more message, of
a field without a rule. So what holds of a validation holds of the guard: with another formatter it
makes the same decision for the same reason (`Guard.silent_check`). The types of a caller who adds
only ones for texts that match a pattern are standard, so with them neither depends on how messages
are worded (`Guard.wording_irrelevant`).
-/

namespace Rulebook

/-- A rejection without the messages of its errors. -/
def Rejection.silent : Rejection → Rejection
  | noData => .noData
  | invalid errors => .invalid (errors.map FieldError.silent)
  | config error => .config error

/-- What a guard leaves, without the messages. -/
def Guarded.silent (guarded : Guarded) : Guarded :=
  ⟨guarded.result.mapError Rejection.silent, guarded.target⟩

/-- Two guards differ in their messages alone if they leave the same data and let them pass, or
reject them for reasons that do. -/
theorem Guarded.silent_eq_iff {first second : Guarded} : first.silent = second.silent ↔
    first.target = second.target ∧
      ((first.result = .ok () ∧ second.result = .ok ()) ∨
        ∃ rejection other, first.result = .error rejection ∧ second.result = .error other ∧
          rejection.silent = other.silent) := by
  rw [silent, silent, mk.injEq, and_comm]
  refine and_congr_right fun _ => ?_
  cases first.result with
  | ok _ =>
    cases second.result with
    | ok _ => exact ⟨fun _ => .inl ⟨rfl, rfl⟩, fun _ => rfl⟩
    | error other => exact ⟨nofun, by simp⟩
  | error rejection =>
    cases second.result with
    | ok _ => exact ⟨nofun, by simp⟩
    | error other =>
      refine ⟨fun h => .inr ⟨rejection, other, rfl, rfl, Except.error.inj h⟩, fun h => ?_⟩
      have hsame : rejection.silent = other.silent := by simpa using h
      exact congrArg Except.error hsame

namespace Guard

variable {validator : Validator} {rules : RuleSet} {data : Json}

/-- What an open guard makes of a validation that got through. -/
theorem checkOpen_of_errors {errors : List FieldError} (hnull : data.isNull = false)
    (h : (validator.validate rules data).result = .ok errors) :
    checkOpen ⟨validator⟩ rules data =
      ⟨if errors.isEmpty then .ok () else .error (.invalid errors),
        (validator.validate rules data).target⟩ := by
  rw [checkOpen, if_neg (by simp [hnull])]
  dsimp only
  rw [h]
  cases errors <;> rfl

/-- What it makes of one that failed. -/
theorem checkOpen_of_config {e : ConfigError} (hnull : data.isNull = false)
    (h : (validator.validate rules data).result = .error e) :
    checkOpen ⟨validator⟩ rules data =
      ⟨.error (.config e), (validator.validate rules data).target⟩ := by
  rw [checkOpen, if_neg (by simp [hnull])]
  dsimp only
  rw [h]

/-- **An open guard does not depend on the wording.** -/
theorem silent_checkOpen (hreg : validator.registry.Standard) (f g : Formatter) (rules : RuleSet)
    (data : Json) :
    (checkOpen ⟨validator.wordedBy f⟩ rules data).silent =
      (checkOpen ⟨validator.wordedBy g⟩ rules data).silent := by
  cases hnull : data.isNull with
  | true => rw [checkOpen, checkOpen, if_pos hnull, if_pos hnull]
  | false =>
    obtain ⟨htarget, hresult⟩ := Validated.silent_eq_iff.1
      (Validator.silent_validate hreg f g rules data)
    rw [Guarded.silent_eq_iff]
    rcases hresult with ⟨e, hfirst, hsecond⟩ | ⟨errors, others, hfirst, hsecond, hsame⟩
    · rw [checkOpen_of_config hnull hfirst, checkOpen_of_config hnull hsecond]
      exact ⟨htarget, .inr ⟨_, _, rfl, rfl, rfl⟩⟩
    · rw [checkOpen_of_errors hnull hfirst, checkOpen_of_errors hnull hsecond]
      refine ⟨htarget, ?_⟩
      have hempty : errors.isEmpty = others.isEmpty := by
        simpa using congrArg List.isEmpty hsame
      cases hnone : others.isEmpty with
      | true => exact .inl ⟨by simp [hempty, hnone], by simp⟩
      | false =>
        exact .inr ⟨.invalid errors, .invalid others, by simp [hempty, hnone], by simp,
          congrArg Rejection.invalid hsame⟩

/-- **Nor does a closed one**, which looks for fields in the same data. -/
theorem silent_checkClosed (hreg : validator.registry.Standard) (f g : Formatter)
    (rules : RuleSet) (data : Json) :
    (checkClosed ⟨validator.wordedBy f⟩ rules data).silent =
      (checkClosed ⟨validator.wordedBy g⟩ rules data).silent := by
  obtain ⟨htarget, hresult⟩ := Guarded.silent_eq_iff.1 (silent_checkOpen hreg f g rules data)
  unfold checkClosed
  dsimp only
  rcases hresult with ⟨hfirst, hsecond⟩ | ⟨rejection, other, hfirst, hsecond, hsame⟩
  · rw [hfirst, hsecond, htarget]
    dsimp only
    split <;> rfl
  · rw [hfirst, hsecond, Guarded.silent_eq_iff]
    exact ⟨htarget, .inr ⟨rejection, other, rfl, rfl, hsame⟩⟩

/-- **No guard with standard types depends on the wording**, wherever its rules come from. -/
theorem silent_check (hreg : validator.registry.Standard) (f g : Formatter) (mode : Mode)
    (rules : Except ConfigError RuleSet) (data : Json) :
    (check ⟨validator.wordedBy f⟩ mode rules data).silent =
      (check ⟨validator.wordedBy g⟩ mode rules data).silent := by
  cases rules with
  | error e => rfl
  | ok rules =>
    cases mode with
    | opened => exact silent_checkOpen hreg f g rules data
    | closed => exact silent_checkClosed hreg f g rules data

/-- **The wording of messages cannot influence a validation.** The types are the built-in ones and
any that were registered for texts that match a pattern, be it in place of built-in ones. Whatever
the options, the rules and the data: with two formatters a validation fails for the same reason or
returns as many errors, in the same places, of the same kinds and in the same order, and it leaves
the same data. So does a guard of either mode, wherever its rules come from. -/
theorem wording_irrelevant (calls : List Registry.Registration)
    (hcalls : ∀ call ∈ calls, ∃ format, call.checker = .pattern format)
    (options : Validator.Options) (f g : Formatter) :
    let validator (say : Formatter) : Validator :=
      { options, registry := Registry.builtin.after calls, say }
    (∀ rules target,
      ((validator f).validate rules target).silent =
        ((validator g).validate rules target).silent) ∧
    ∀ mode rules data,
      (check ⟨validator f⟩ mode rules data).silent =
        (check ⟨validator g⟩ mode rules data).silent := by
  intro validator
  have hreg : (validator f).registry.Standard := Registry.standard_builtin.after hcalls
  refine ⟨fun rules target => ?_, fun mode rules data => ?_⟩
  · exact Validator.silent_validate hreg f g rules target
  · exact silent_check hreg f g mode rules data

/-- A version is a text that starts with its mark. -/
def version : Pattern where
  display := "/^v/"
  expr := .seq (.look .textStart) (Formats.char 'v')

/-- Templates as they are, or one word for everything: a version without its mark and a missing
count are found in either wording. -/
theorem wording_irrelevant_version :
    let calls : List Registry.Registration := [⟨"version", .pattern version, false, none⟩]
    let validator (say : Formatter) : Validator :=
      { registry := Registry.builtin.after calls, say }
    let rules : RuleSet := ⟨[("release", .typeName "version"), ("count", .typeName "int")]⟩
    let data : Json := .object [("release", .string "1")]
    ((validator Message.template).validate rules data).silent =
      ((validator fun _ => "no").validate rules data).silent ∧
    ((validator fun _ => "no").validate rules data).result =
      .ok [⟨"no", some "release", .invalid⟩, ⟨"no", some "count", .missingField⟩] := by
  intro calls validator rules data
  have hcalls : ∀ call ∈ calls, ∃ format, call.checker = .pattern format := by
    intro call hcall
    obtain rfl := List.mem_singleton.1 hcall
    exact ⟨version, rfl⟩
  exact ⟨(wording_irrelevant calls hcalls {} Message.template fun _ => "no").1 rules data, rfl⟩

end Guard

end Rulebook
