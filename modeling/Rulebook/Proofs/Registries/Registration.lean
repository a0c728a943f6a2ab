import Rulebook.Proofs.Checkers.Builtin
/-!
# Registries — registrations

A registry is written to by registrations only. A `Registration` is one of them, as it is asked for,
and `Registry.after` is a registry after some of them, those that fail included. One that fails
leaves no trace, though it may fail in three places and writes in two; one that goes through changes
the answers about its own type alone (`Registry.Changed`). So the two tables of a registry stay
consistent along every run (`Registry.Consistent`), and what is said about a type lasts until the
next registration of that type.
-/

namespace Rulebook

namespace Registry

/-- A registration, as it is asked for. -/
structure Registration where
  /-- The type to register. -/
  typeName : String
  /-- Its checker. -/
  checker : Checker
  /-- Whether a type of this name may be replaced. -/
  replace : Bool := false
  /-- The coercion of the type, if one is asked for. -/
  coercion : Option Coercion.Request := none

/-- What a registration leaves of a registry. -/
def submit (registry : Registry) (call : Registration) : Registered :=
  registry.register call.typeName call.checker call.replace call.coercion

/-- A registry after some registrations, whether they go through or not. -/
def after (registry : Registry) (calls : List Registration) : Registry :=
  calls.foldl (fun registry call => (registry.submit call).registry) registry

variable {registry start : Registry} {call : Registration} {calls : List Registration}
variable {name typeName : String} {checker : Checker} {e : ConfigError}

@[simp]
theorem after_nil (registry : Registry) : registry.after [] = registry := rfl

@[simp]
theorem after_cons (registry : Registry) (call : Registration) (calls : List Registration) :
    registry.after (call :: calls) = (registry.submit call).registry.after calls := rfl

/-! ## One registration -/

/-- **Why a registration fails**: the type has no name, or it is there and must not be replaced, or
the coercion that is asked for by name is none. -/
inductive Refused (registry : Registry) (call : Registration) : ConfigError → Prop where
  | missingType (hname : call.typeName = "") : Refused registry call .missingType
  | duplicateType (hname : call.typeName ≠ "") (hreplace : call.replace = false)
    (hthere : registry.contains call.typeName = true) :
    Refused registry call (.duplicateType call.typeName)
  | unknownCoercion {name : String} (hname : call.typeName ≠ "")
    (hfree : call.replace = true ∨ registry.contains call.typeName = false)
    (hasked : call.coercion = some (.named name)) (hnone : registry.resolve? name = none) :
    Refused registry call (.unknownCoercion name call.typeName)

/-- The coercion that a registration gives its type: the function or the coercion that is asked for,
else the one that the type had. -/
def given? (registry : Registry) (call : Registration) : Option Coercion :=
  match call.coercion with
  | none => registry.coercionFor? call.typeName
  | some (.custom convert) => some (.custom convert)
  | some (.named name) => registry.resolve? name

/-- **What a registration that goes through changes**: the answers about its own type. -/
structure Changed (before : Registry) (call : Registration) (after : Registry) : Prop where
  get?_self : after.get? call.typeName = some call.checker
  coercionFor?_self : after.coercionFor? call.typeName = before.given? call
  get?_of_ne : ∀ name, name ≠ call.typeName → after.get? name = before.get? name
  contains_of_ne : ∀ name, name ≠ call.typeName → after.contains name = before.contains name
  coercionFor?_of_ne : ∀ name, name ≠ call.typeName →
    after.coercionFor? name = before.coercionFor? name
  resolve?_of_ne : ∀ name, name ≠ call.typeName → after.resolve? name = before.resolve? name
  resolve?_builtin : ∀ name kind, Coercion.Kind.ofName? name = some kind →
    after.resolve? name = some (.builtin kind)

/-- Setting a coercion fails only if there is none of the name, and then it sets nothing. -/
theorem setCoercion_error {coercion : Option Coercion.Request}
    (h : (registry.setCoercion typeName coercion).result = .error e) :
    (registry.setCoercion typeName coercion).registry = registry ∧
      ∃ name, coercion = some (.named name) ∧ registry.resolve? name = none ∧
        e = .unknownCoercion name typeName := by
  cases coercion with
  | none => cases h
  | some request =>
    cases request with
    | custom convert => cases h
    | named name =>
      cases hfound : registry.resolve? name with
      | some found => simp [setCoercion, requested, hfound] at h
      | none =>
        simp only [setCoercion, requested, hfound] at h ⊢
        exact ⟨trivial, name, rfl, hfound, (Except.error.inj h).symm⟩

/-- Otherwise it writes nothing, or the coercion that is given. -/
theorem setCoercion_cases
    (h : (registry.setCoercion call.typeName call.coercion).result = .ok ()) :
    ((registry.setCoercion call.typeName call.coercion).registry = registry ∧
        registry.given? call = registry.coercionFor? call.typeName) ∨
      ∃ found, registry.given? call = some found ∧
        (registry.setCoercion call.typeName call.coercion).registry =
          { registry with coercions := Entries.put registry.coercions call.typeName found } := by
  unfold given?
  cases hasked : call.coercion with
  | none => exact .inl ⟨rfl, rfl⟩
  | some request =>
    rw [hasked] at h
    cases request with
    | custom convert => exact .inr ⟨.custom convert, rfl, rfl⟩
    | named name =>
      cases hfound : registry.resolve? name with
      | none => simp [setCoercion, requested, hfound] at h
      | some found => exact .inr ⟨found, hfound, by simp only [setCoercion, requested, hfound]⟩

/-- So the type gets the coercion that is given, and nothing else changes. -/
theorem setCoercion_ok (h : (registry.setCoercion call.typeName call.coercion).result = .ok ()) :
    let coerced := (registry.setCoercion call.typeName call.coercion).registry
    coerced.checkers = registry.checkers ∧
      coerced.coercionFor? call.typeName = registry.given? call ∧
      ∀ name, name ≠ call.typeName → coerced.coercionFor? name = registry.coercionFor? name := by
  rcases setCoercion_cases h with ⟨hsame, hgiven⟩ | ⟨found, hgiven, hput⟩
  · rw [hsame, hgiven]
    exact ⟨rfl, rfl, fun _ _ => rfl⟩
  · rw [hput, hgiven]
    exact ⟨rfl, Entries.value?_put_self _ _ _, fun _ hne => Entries.value?_put_of_ne _ _ hne⟩

/-- **A registration that fails leaves the registry as it was**, whichever of its three causes it
has. -/
theorem submit_error (h : (registry.submit call).result = .error e) :
    (registry.submit call).registry = registry ∧ Refused registry call e := by
  unfold submit register at h ⊢
  by_cases hname : call.typeName = ""
  · have hempty : call.typeName.isEmpty = true := by simpa using hname
    rw [if_pos hempty] at h ⊢
    obtain rfl := Except.error.inj h
    exact ⟨rfl, .missingType hname⟩
  · have hfilled : ¬ call.typeName.isEmpty = true := by simpa using hname
    rw [if_neg hfilled] at h ⊢
    by_cases hthere : (!call.replace && registry.contains call.typeName) = true
    · rw [if_pos hthere] at h ⊢
      obtain rfl := Except.error.inj h
      simp only [Bool.and_eq_true, Bool.not_eq_true'] at hthere
      exact ⟨rfl, .duplicateType hname hthere.1 hthere.2⟩
    · rw [if_neg hthere] at h ⊢
      dsimp only at h ⊢
      cases hcoerced : (registry.setCoercion call.typeName call.coercion).result with
      | ok found => simp [hcoerced] at h
      | error found =>
        rw [hcoerced] at h
        obtain rfl := Except.error.inj h
        -- the coercion is looked up before anything is written
        obtain ⟨hsame, name, hasked, hnone, rfl⟩ := setCoercion_error hcoerced
        refine ⟨hsame, .unknownCoercion hname ?_ hasked hnone⟩
        simpa [Classical.or_iff_not_imp_left] using hthere

/-- And it fails whenever there is such a cause. -/
theorem submit_of_refused (h : Refused registry call e) :
    (registry.submit call).result = .error e := by
  unfold submit register
  cases h with
  | missingType hname => simp [hname]
  | duplicateType hname hreplace hthere => simp [hname, hreplace, hthere]
  | unknownCoercion hname hfree hasked hnone =>
    have hnew : ¬ (!call.replace && registry.contains call.typeName) = true := by
      rcases hfree with hreplace | hthere
      · simp [hreplace]
      · simp [hthere]
    rw [if_neg (by simpa using hname), if_neg hnew]
    simp [setCoercion, requested, hasked, hnone]

/-- A registration that goes through sets the coercion, and then the checker. -/
theorem submit_eq_of_ok (h : (registry.submit call).result = .ok ()) :
    (registry.setCoercion call.typeName call.coercion).result = .ok () ∧
      (registry.submit call).registry =
        (registry.setCoercion call.typeName call.coercion).registry.setChecker call.typeName
          call.checker := by
  unfold submit register at h ⊢
  split at h
  · cases h
  · split at h
    · cases h
    · rename_i hname hthere
      rw [if_neg hname, if_neg hthere]
      dsimp only at h ⊢
      split at h
      · cases h
      · rename_i hcoerced
        rw [hcoerced]
        exact ⟨rfl, rfl⟩

/-- A name that is no built-in coercion stands for the coercion of its type. -/
theorem resolve?_congr {other : Registry}
    (h : registry.coercionFor? name = other.coercionFor? name) :
    registry.resolve? name = other.resolve? name := by
  unfold resolve?
  rw [h]

/-- **A registration that goes through changes the answers about its own type alone.** -/
theorem submit_changed (h : (registry.submit call).result = .ok ()) :
    Changed registry call (registry.submit call).registry := by
  obtain ⟨hcoerced, hsubmit⟩ := submit_eq_of_ok h
  obtain ⟨hcheckers, hself, hothers⟩ := setCoercion_ok hcoerced
  rw [hsubmit]
  have hget (name : String) (hne : name ≠ call.typeName) :
      ((registry.setCoercion call.typeName call.coercion).registry.setChecker call.typeName
        call.checker).get? name = registry.get? name := by
    unfold get? setChecker
    rw [hcheckers]
    exact Entries.value?_put_of_ne _ _ hne
  refine ⟨Entries.value?_put_self _ _ _, hself, hget, fun name hne => ?_, hothers,
    fun name hne => resolve?_congr (hothers name hne), fun name kind hkind => ?_⟩
  · exact congrArg Option.isSome (hget name hne)
  · rw [resolve?, hkind]

/-- No registration removes a type. -/
theorem contains_submit (call : Registration) (h : registry.contains name = true) :
    (registry.submit call).registry.contains name = true := by
  cases hresult : (registry.submit call).result with
  | error e => rwa [(submit_error hresult).1]
  | ok done =>
    have hchanged := submit_changed hresult
    by_cases hname : name = call.typeName
    · have hself : (registry.submit call).registry.get? name = some call.checker :=
        hname ▸ hchanged.get?_self
      exact congrArg Option.isSome hself
    · rwa [hchanged.contains_of_ne name hname]

/-- **Without permission to replace, a registration changes no type that is there.** -/
theorem submit_of_contains (hreplace : call.replace = false)
    (h : registry.contains name = true) :
    (registry.submit call).registry.get? name = registry.get? name ∧
      (registry.submit call).registry.coercionFor? name = registry.coercionFor? name ∧
      (registry.submit call).registry.resolve? name = registry.resolve? name := by
  cases hresult : (registry.submit call).result with
  | error e =>
    rw [(submit_error hresult).1]
    exact ⟨rfl, rfl, rfl⟩
  | ok done =>
    -- the type that was registered is another one
    have hname : name ≠ call.typeName := by
      rintro rfl
      simp [submit, register, hreplace, h] at hresult
      split at hresult <;> cases hresult
    have hchanged := submit_changed hresult
    exact ⟨hchanged.get?_of_ne name hname, hchanged.coercionFor?_of_ne name hname,
      hchanged.resolve?_of_ne name hname⟩

/-! ## Registrations in turn -/

/-- **What every registry keeps to**: no type has a coercion without a checker, and none is listed
twice. -/
structure Consistent (registry : Registry) : Prop where
  contains_of_coercion : ∀ name,
    (registry.coercionFor? name).isSome = true → registry.contains name = true
  names_nodup : (Entries.names registry.checkers).Nodup

theorem consistent_empty : Consistent empty :=
  ⟨fun _ h => (nomatch h), List.nodup_nil⟩

/-- The built-in coercions are those of built-in types. -/
theorem consistent_builtin : Consistent builtin := by
  refine ⟨fun name h => ?_, by decide⟩
  have hlisted : (Entries.names builtin.coercions).all builtin.contains = true := by decide
  exact List.all_eq_true.1 hlisted name ((Entries.value?_isSome_iff _ _).1 h)

/-- **One registration keeps a registry consistent.** -/
theorem Consistent.submit (h : registry.Consistent) (call : Registration) :
    (registry.submit call).registry.Consistent := by
  cases hresult : (registry.submit call).result with
  | error e => rwa [(submit_error hresult).1]
  | ok done =>
    have hchanged := submit_changed hresult
    refine ⟨fun name hcoercion => ?_, ?_⟩
    · by_cases hname : name = call.typeName
      · -- whatever coercion the type has now, it has a checker
        exact congrArg Option.isSome (hname ▸ hchanged.get?_self)
      · rw [hchanged.coercionFor?_of_ne name hname] at hcoercion
        rw [hchanged.contains_of_ne name hname]
        exact h.contains_of_coercion name hcoercion
    · obtain ⟨hcoerced, hsubmit⟩ := submit_eq_of_ok hresult
      rw [hsubmit, setChecker, (setCoercion_ok hcoerced).1]
      exact Entries.nodup_names_put call.typeName call.checker h.names_nodup

/-- **So does every run of them.** -/
theorem Consistent.after (h : registry.Consistent) (calls : List Registration) :
    (registry.after calls).Consistent := by
  induction calls generalizing registry with
  | nil => exact h
  | cons call rest ih => exact ih (h.submit call)

/-- Registrations of other types do not change the coercion of a type. -/
theorem coercionFor?_after (h : ∀ call ∈ calls, call.typeName ≠ name) :
    (registry.after calls).coercionFor? name = registry.coercionFor? name := by
  induction calls generalizing registry with
  | nil => rfl
  | cons call rest ih =>
    have hrest : ((registry.submit call).registry.after rest).coercionFor? name =
        (registry.submit call).registry.coercionFor? name :=
      ih fun other hmem => h other (List.mem_cons_of_mem _ hmem)
    rw [after_cons, hrest]
    cases hresult : (registry.submit call).result with
    | error e => rw [(submit_error hresult).1]
    | ok done =>
      exact (submit_changed hresult).coercionFor?_of_ne name
        (Ne.symm (h call List.mem_cons_self))

/-! ## Types for texts -/

/-- Registering a type for texts that match a pattern keeps a registry standard. -/
theorem Standard.submit (h : registry.Standard) {call : Registration}
    (hcall : ∃ format, call.checker = .pattern format) :
    (registry.submit call).registry.Standard := by
  cases hresult : (registry.submit call).result with
  | error e => rwa [(submit_error hresult).1]
  | ok done =>
    have hchanged := submit_changed hresult
    intro typeName checker hget
    by_cases hname : typeName = call.typeName
    · rw [hname, hchanged.get?_self] at hget
      exact .inl (Option.some.inj hget ▸ hcall)
    · rw [hchanged.get?_of_ne typeName hname] at hget
      exact h typeName checker hget

/-- **So a registry stays standard** as long as only such types are registered. -/
theorem Standard.after (h : registry.Standard) {calls : List Registration}
    (hcalls : ∀ call ∈ calls, ∃ format, call.checker = .pattern format) :
    (registry.after calls).Standard := by
  induction calls generalizing registry with
  | nil => exact h
  | cons call rest ih =>
    exact ih (h.submit (hcalls call List.mem_cons_self))
      fun other hmem => hcalls other (List.mem_cons_of_mem _ hmem)

/-! ## The names of the types -/

/-- The listed names are those of the registered types. -/
theorem mem_typeNames : name ∈ registry.typeNames ↔ registry.contains name = true := by
  rw [typeNames, List.mem_mergeSort, contains, Entries.has, Entries.value?_isSome_iff]

/-- They are listed in their order, and each of them once. -/
theorem typeNames_sorted (h : (Entries.names registry.checkers).Nodup) :
    registry.typeNames.Pairwise (· < ·) := by
  have hle (a b : String) : (!decide (b < a)) = true ↔ a ≤ b := by
    rw [Bool.not_eq_true', decide_eq_false_iff_not, String.not_lt]
  have hsorted : registry.typeNames.Pairwise fun a b => (!decide (b < a)) = true := by
    refine List.pairwise_mergeSort (fun a b c hab hbc => ?_) (fun a b => ?_) _
    · exact (hle a c).2 (String.le_trans ((hle a b).1 hab) ((hle b c).1 hbc))
    · rw [Bool.or_eq_true, hle, hle]
      exact String.le_total a b
  have hnodup : registry.typeNames.Nodup := (List.mergeSort_perm _ _).nodup_iff.2 h
  refine (hsorted.and hnodup).imp fun {a b} hab => ?_
  have hlt : ¬ b ≤ a := fun hba => hab.2 (String.le_antisymm ((hle a b).1 hab.1) hba)
  exact String.not_le.1 hlt

/-- **The law of registrations.** A registry that came about by registrations, from the usual one or
from the empty one, has no coercion without a checker, and lists its types in their order. Whatever
is registered next: no type goes away; if it fails, it does so for one of the three causes and
leaves the registry as it was; if it goes through, it changes the answers about its own type alone.
Without permission to replace, it changes no type that is there. And a coercion that was taken from
another type stays what it was, whatever is registered under other names later. -/
theorem after_lawful (start : Registry) (hstart : start = .empty ∨ start = .builtin)
    (calls : List Registration) :
    let registry := start.after calls
    (∀ name, (registry.coercionFor? name).isSome = true → registry.contains name = true) ∧
    registry.typeNames.Pairwise (· < ·) ∧
    (∀ name, name ∈ registry.typeNames ↔ registry.contains name = true) ∧
    ∀ call,
      let submitted := registry.submit call
      (∀ name, registry.contains name = true → submitted.registry.contains name = true) ∧
      (∀ e, submitted.result = .error e ↔ Refused registry call e) ∧
      (∀ e, submitted.result = .error e → submitted.registry = registry) ∧
      (submitted.result = .ok () → Changed registry call submitted.registry) ∧
      (call.replace = false → ∀ name, registry.contains name = true →
        submitted.registry.get? name = registry.get? name ∧
          submitted.registry.coercionFor? name = registry.coercionFor? name ∧
          submitted.registry.resolve? name = registry.resolve? name) ∧
      (∀ source later, call.coercion = some (.named source) → submitted.result = .ok () →
        (∀ other ∈ later, other.typeName ≠ call.typeName) →
          (submitted.registry.after later).coercionFor? call.typeName =
            registry.resolve? source) := by
  intro registry
  have hconsistent : registry.Consistent := by
    rcases hstart with rfl | rfl
    · exact consistent_empty.after calls
    · exact consistent_builtin.after calls
  refine ⟨hconsistent.contains_of_coercion, typeNames_sorted hconsistent.names_nodup,
    fun _ => mem_typeNames, fun call => ?_⟩
  intro submitted
  have hrefused (e : ConfigError) : submitted.result = .error e ↔ Refused registry call e :=
    ⟨fun h => (submit_error h).2, submit_of_refused⟩
  refine ⟨fun _ => contains_submit call, hrefused, fun e h => (submit_error h).1, submit_changed,
    fun hreplace _ => submit_of_contains hreplace, ?_⟩
  intro source later hasked hok hlater
  rw [coercionFor?_after hlater, (submit_changed hok).coercionFor?_self, given?, hasked]

/-- Ages are whole numbers, and years are converted as ages are. -/
theorem after_lawful_years :
    let registry := Registry.builtin.after
      [⟨"age", .builtin .integer, false, some (.named "int")⟩]
    let years : Registration := ⟨"years", .builtin .integer, false, some (.named "age")⟩
    let age : Registration := ⟨"age", .builtin .string, true, some (.named "string")⟩
    let later := (registry.submit years).registry.after [age]
    later.coercionFor? "age" = some (.builtin .string) ∧
      later.coercionFor? "years" = some (.builtin .int) := by
  intro registry years age later
  obtain ⟨-, -, -, hcalls⟩ := after_lawful .builtin (.inr rfl)
    [⟨"age", .builtin .integer, false, some (.named "int")⟩]
  obtain ⟨-, -, -, -, -, hfixed⟩ := hcalls years
  have hyears := hfixed "age" [age] rfl rfl (by decide)
  exact ⟨rfl, hyears⟩

end Registry

end Rulebook
