import Mathlib
import Rulebook.Proofs.Numbers.Denotation
import Rulebook.Proofs.Validation.Conversion
/-!
# Validation — integers in converted fields

The conversions to numbers take an integer by way of its double (`Coercion.Kind.apply_integer`), and
keep it exactly if it is one (`Coercion.Kind.toRat_rounded_eq_iff`). What a validation leaves in a
field is what the field's own turn left in its slot (`exists_validateSlot_of_mem`), and with a type
of numbers that is the converted integer, accepted or not. Hence a validation may accept an
identifier of more than 53 bits and leave another one in its place (`conversion_integer_idRules`).
-/

namespace Rulebook

namespace Coercion.Kind

open Binary64

variable {n : ℤ}

/-- The number that an integer is converted to, by way of its double. -/
def rounded (n : ℤ) (hrange : Json.InRange n) : Json.Number :=
  .ofBinary64 (.ofInt n (Json.Number.natAbs_lt_of_inRange hrange))

/-- Both conversions to numbers give it: an integer's double has no fraction to cut off. -/
theorem apply_integer (hrange : Json.InRange n) {kind : Kind}
    (hkind : kind = .int ∨ kind = .number) :
    kind.apply (.number (.int n hrange)) = .number (rounded n hrange) := by
  have hwhole := Json.Number.isIntegral_toBinary64 (n := .int n hrange) rfl
  rcases hkind with rfl | rfl
  · exact congrArg Json.number (wholeOf_eq_ofBinary64 hwhole)
  · rfl

/-- It is the integer rounded to a double, -/
theorem nearest_rounded (hrange : Json.InRange n) :
    ∃ x : Binary64, Nearest n x ∧ (rounded n hrange).toRat = x.toRat :=
  ⟨_, nearest_ofInt (Json.Number.natAbs_lt_of_inRange hrange), Json.Number.toRat_ofBinary64 _⟩

/-- hence the integer itself exactly if 53 bits are enough for it, zeros at its end aside. -/
theorem toRat_rounded_eq_iff (hrange : Json.InRange n) :
    (rounded n hrange).toRat = n ↔ ∃ m e : Nat, m < 2 ^ 53 ∧ n.natAbs = m * 2 ^ e := by
  rw [rounded, Json.Number.toRat_ofBinary64]
  constructor
  · exact exists_natAbs_eq
  · rintro ⟨m, e, hm, hn⟩
    exact toRat_ofInt hm hn _

end Coercion.Kind

/-- A registry has the built-in types of numbers, whatever else it has. -/
structure Registry.KeepsNumbers (registry : Registry) : Prop where
  get? : ∀ typeName ∈ ["number", "int", "integer"],
    registry.get? typeName = builtin.get? typeName
  coercionFor? : ∀ typeName ∈ ["number", "int", "integer"],
    registry.coercionFor? typeName = builtin.coercionFor? typeName

namespace Validator

variable {validator : Validator} {entries : List (String × Spec)} {name typeName : String}
variable {spec : Spec} {rule : Rule} {fields siblings : Json.Members} {n : ℤ}

/-- **What a run leaves in a field is what the turn of the field left in its slot**, with what it
found there at first. -/
theorem exists_validateSlot_of_mem {depth : Nat} (hnames : (Entries.names entries).Nodup)
    (hmem : (name, spec) ∈ entries) {errors : List FieldError}
    (h : (validator.validateFields (validator.context depth) entries fields).result = .ok errors) :
    ∃ siblings turn,
      let run := validator.validateSlot (validator.context depth) spec.normalize name siblings
        (ready validator.options spec.normalize (Entries.value? fields name))
      run.result = .ok turn ∧ Entries.value?
        (validator.validateFields (validator.context depth) entries fields).target name =
          run.target := by
  induction entries generalizing fields errors with
  | nil => cases hmem
  | cons first rest ih =>
    obtain ⟨other, otherSpec⟩ := first
    obtain ⟨hname, hrest⟩ := List.nodup_cons.1 hnames
    obtain ⟨turn, others, hturn, hothers, -, htarget⟩ := validateFields_cons_eq_ok h
    rw [htarget]
    rcases List.mem_cons.1 hmem with hfirst | hlater
    · -- the turn of the field itself, and no later one writes to it
      obtain ⟨rfl, rfl⟩ := Prod.mk.inj hfirst
      rw [validateField_eq] at hturn
      refine ⟨_, turn, hturn, ?_⟩
      rw [value?_validateFields_of_not_mem hrest hname, value?_validateField]
    · -- an earlier one does not touch it
      have hne : name ≠ other := Entries.fst_ne_of_mem hname hlater
      have hfound := ih hrest hlater hothers
      rw [value?_validateField_of_ne hne] at hfound
      exact hfound

/-- A type of numbers is checked by a built-in checker and converted by one of the two conversions
to numbers. -/
theorem exists_kind_of_keepsNumbers (h : validator.registry.KeepsNumbers)
    (htype : typeName ∈ ["number", "int", "integer"]) :
    ∃ checker kind, validator.registry.get? typeName = some (.builtin checker) ∧
      validator.registry.coercionFor? typeName = some (.builtin kind) ∧
      (kind = .int ∨ kind = .number) := by
  rw [h.get? typeName htype, h.coercionFor? typeName htype]
  simp only [List.mem_cons, List.not_mem_nil, or_false] at htype
  rcases htype with rfl | rfl | rfl
  · exact ⟨.number, .number, rfl, rfl, .inr rfl⟩
  · exact ⟨.integer, .int, rfl, rfl, .inl rfl⟩
  · exact ⟨.integer, .int, rfl, rfl, .inl rfl⟩

/-- **The turn of a field that holds an integer** leaves the number that it is converted to, whether
the number is accepted or not. -/
theorem validateSlot_integer (hregistry : validator.registry.KeepsNumbers)
    (hconvert : validator.options.convert = true)
    (htype : rule.typeName = some typeName) (hnumber : typeName ∈ ["number", "int", "integer"])
    (hrule : rule.conversion = none) (hrange : Json.InRange n)
    (context : String → Json.Members → Checker.Context) :
    (validator.validateSlot context rule name siblings
      (ready validator.options rule (some (.number (.int n hrange))))).target =
        some (.number (Coercion.Kind.rounded n hrange)) := by
  obtain ⟨checker, kind, hget, hcoercion, hkind⟩ := exists_kind_of_keepsNumbers hregistry hnumber
  have hrequire : validator.registry.require rule.typeName = .ok (.builtin checker) := by
    rw [htype]
    exact Registry.require_of_get? hget
  have hconverted : validator.converted rule siblings (.number (.int n hrange)) =
      .number (Coercion.Kind.rounded n hrange) := by
    have hfound : validator.coercionFor? rule = some (.builtin kind) := by
      simp [coercionFor?, hrule, hconvert, htype, hcoercion]
    rw [← Coercion.Kind.apply_integer hrange hkind]
    unfold converted
    rw [hfound]
    rfl
  have hready : ready validator.options rule (some (.number (.int n hrange))) =
      some (.number (.int n hrange)) := rfl
  rw [hready, validateSlot_checked rfl hrequire, hconverted]
  exact congrArg some (checker.run_value_of_scalar rfl)

/-- **Integers are converted by way of doubles.** Conversion to a number, and to a whole number,
gives the double nearest to an integer, so it keeps the integer exactly if 53 bits are enough for
it, zeros at its end aside. And that is what a validation that converts leaves in a field of a type
of numbers. -/
theorem conversion_integer (n : ℤ) (hrange : Json.InRange n) : ∃ m : Json.Number,
    Coercion.Kind.int.apply (.number (.int n hrange)) = .number m ∧
    Coercion.Kind.number.apply (.number (.int n hrange)) = .number m ∧
    (∃ x : Binary64, Binary64.Nearest n x ∧ m.toRat = x.toRat) ∧
    (m.toRat = n ↔ ∃ significand e : Nat, significand < 2 ^ 53 ∧ n.natAbs = significand * 2 ^ e) ∧
    ∀ (validator : Validator) (rules : RuleSet) (fields : Json.Members) (name : String)
      (spec : Spec) (typeName : String) (errors : List FieldError), validator.registry.KeepsNumbers →
      validator.options.convert = true → rules.names.Nodup → (name, spec) ∈ rules.entries →
      spec.normalize.typeName = some typeName → typeName ∈ ["number", "int", "integer"] →
      spec.normalize.conversion = none →
      Entries.value? fields name = some (.number (.int n hrange)) →
      (validator.validate rules (.object fields)).result = .ok errors →
        Entries.value? (validator.validate rules (.object fields)).target.fields name =
          some (.number m) := by
  refine ⟨Coercion.Kind.rounded n hrange, Coercion.Kind.apply_integer hrange (.inl rfl),
    Coercion.Kind.apply_integer hrange (.inr rfl), Coercion.Kind.nearest_rounded hrange,
    Coercion.Kind.toRat_rounded_eq_iff hrange, ?_⟩
  intro validator rules fields name spec typeName errors hregistry hconvert hnames hmem htype
    hnumber hrule hfield h
  rw [validate, validateIn_object] at h ⊢
  obtain ⟨siblings, turn, -, hvalue⟩ := exists_validateSlot_of_mem hnames hmem h
  rw [hfield] at hvalue
  exact hvalue.trans (validateSlot_integer hregistry hconvert htype hnumber hrule hrange _)

/-- A field of identifiers, converted to whole numbers. -/
def idRules : RuleSet :=
  ⟨[("id", .typeName "int")]⟩

/-- An identifier of 54 bits is accepted, and another one is left in its place. -/
theorem conversion_integer_idRules : ∃ m : Json.Number, m.toRat ≠ (2 ^ 53 + 1 : ℤ) ∧
    Entries.value? (validate { options := { convert := true } } idRules
      (.object [("id", .number (.int (2 ^ 53 + 1) (by decide)))])).target.fields "id" =
        some (.number m) := by
  obtain ⟨m, -, -, -, hexact, hvalidated⟩ := conversion_integer (2 ^ 53 + 1) (by decide)
  refine ⟨m, fun hsame => ?_, hvalidated _ idRules _ "id" (.typeName "int") "int" []
    ⟨fun _ _ => rfl, fun _ _ => rfl⟩ rfl (by decide) (by simp [idRules]) rfl (by decide) rfl rfl
    (by decide +kernel)⟩
  obtain ⟨significand, e, hlt, heq⟩ := hexact.1 hsame
  cases e with
  | zero => omega
  | succ e =>
    -- the integer is odd
    rw [Nat.pow_succ, ← Nat.mul_assoc] at heq
    omega

/-- It is one less than it was. -/
theorem apply_integer_next : ∃ m : Json.Number, m.toRat = (2 ^ 53 : ℤ) ∧
    Coercion.Kind.int.apply (.number (.int (2 ^ 53 + 1) (by decide))) = .number m ∧
    Coercion.Kind.number.apply (.number (.int (2 ^ 53 + 1) (by decide))) = .number m :=
  ⟨_, (Json.Number.toRat_ofBinary64 _).trans Binary64.toRat_ofInt_next,
    Coercion.Kind.apply_integer _ (.inl rfl), Coercion.Kind.apply_integer _ (.inr rfl)⟩

end Validator

end Rulebook
