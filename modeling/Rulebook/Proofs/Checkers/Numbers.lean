import Mathlib
import Rulebook.Proofs.Numbers.Denotation
import Rulebook.Proofs.Validation.Conversion
/-!
# Checkers — numbers compared by value

Enumerations and bounds compare numbers by way of their doubles (`Checker.numbers_compared`).
Rounding does not cross a double, and bounds are doubles, so whatever is within the bounds is
accepted (`Rule.Encloses.of_nearest`), and what is equal to a listed number is as well. The converse
holds among doubles. Beyond `2 ^ 53` an integer may be none, and then its neighbours are accepted in
its place (`Validator.validate_upToPower`).
-/

namespace Rulebook

open Binary64

/-- A number is within the bounds of a rule. -/
structure Rule.Encloses (rule : Rule) (v : ℚ) : Prop where
  min_le : ∀ min, rule.min = some min → min.toRat ≤ v
  le_max : ∀ max, rule.max = some max → v ≤ max.toRat

section

variable {rule : Rule} {x y : Binary64} {v w : ℚ}

/-- A double is within the bounds if its units are. -/
theorem Rule.encloses_toRat_iff : rule.Encloses x.toRat ↔ rule.Within x.signedUnits := by
  constructor
  · intro h
    exact ⟨fun min hmin => toRat_le_iff.1 (h.min_le min hmin),
      fun max hmax => toRat_le_iff.1 (h.le_max max hmax)⟩
  · intro h
    exact ⟨fun min hmin => toRat_le_iff.2 (h.min_le min hmin),
      fun max hmax => toRat_le_iff.2 (h.le_max max hmax)⟩

/-- **Rounding does not leave the bounds**, which are doubles. -/
theorem Rule.Encloses.of_nearest (h : rule.Encloses v) (hx : Nearest v x) :
    rule.Encloses x.toRat :=
  ⟨fun min hmin => hx.le_toRat (h.min_le min hmin), fun max hmax => hx.toRat_le (h.le_max max hmax)⟩

/-- Numbers are the same value to a comparison if their doubles are. -/
theorem Json.Number.sameValue_iff {a b : Json.Number} (hx : Nearest a.toRat x)
    (hy : Nearest b.toRat y) : a.sameValue b = true ↔ x.toRat = y.toRat := by
  have ha := (nearest_toBinary64 a).toRat_unique hx
  have hb := (nearest_toBinary64 b).toRat_unique hy
  rw [← ha, ← hb, toRat_inj]
  exact decide_eq_true_iff

end

namespace Checker

variable {context : Context} {rule : Rule} {x y : Binary64} {a b n : Json.Number}

/-- **An enumeration compares doubles**: among its values there is one number, and it accepts the
numbers that round to the same double. -/
theorem enumeration_number_iff {values : List Json} (hvalues : rule.values = some values)
    (hmem : .number b ∈ values) (honly : ∀ m, .number m ∈ values → m = b)
    (hx : Nearest a.toRat x) (hy : Nearest b.toRat y) :
    (Kind.enumeration.run context rule (.number a)).verdict = .ok .valid ↔ x.toRat = y.toRat := by
  have hany : values.any (fun allowed => allowed.sameValue (.number a)) = b.sameValue a := by
    rw [Bool.eq_iff_iff, List.any_eq_true]
    constructor
    · rintro ⟨allowed, hallowed, hsame⟩
      cases allowed with
      | number m => rwa [honly m hallowed] at hsame
      | _ => cases hsame
    · exact fun hsame => ⟨_, hmem, hsame⟩
  have hverdict : (Kind.enumeration.run context rule (.number a)).verdict =
      if b.sameValue a then .ok .valid else .ok (.invalid (context.say (.unlisted
        (String.intercalate ", " (values.map Coercion.Kind.textOf))))) := by
    rw [← hany]
    simp only [Kind.run, enumeration, hvalues]
  rw [hverdict, eq_comm (a := x.toRat), ← Json.Number.sameValue_iff hy hx]
  cases b.sameValue a <;> simp

/-- **The bounds apply to the double of a number.** -/
theorem number_valid_iff (say : Formatter) (hx : Nearest n.toRat x) :
    number say rule (.number n) = .valid ↔ rule.Encloses x.toRat := by
  rw [← (Json.Number.nearest_toBinary64 n).toRat_unique hx, Rule.encloses_toRat_iff,
    ← Rule.brokenBound?_eq_none_iff]
  unfold number
  cases hbroken : rule.brokenBound? n.toBinary64.signedUnits with
  | none => simp [hbroken, Verdict.ofReason]
  | some broken => simp [hbroken, Verdict.ofReason]

/-- The checkers of the types of numbers apply them. -/
theorem run_number_valid_iff {typeName : String} {kind : Kind}
    (htype : typeName ∈ ["number", "int", "integer"])
    (hkind : Kind.ofTypeName? typeName = some kind)
    (hintegral : ∃ k : ℤ, n.toRat = k) (hx : Nearest n.toRat x) :
    (kind.run context rule (.number n)).verdict = .ok .valid ↔ rule.Encloses x.toRat := by
  obtain ⟨k, hk⟩ := hintegral
  have hwhole := Json.Number.isIntegral_toBinary64 hk
  rw [← number_valid_iff context.say hx]
  have hkinds : kind = .number ∨ kind = .integer := by
    simp only [List.mem_cons, List.not_mem_nil, or_false] at htype
    rcases htype with rfl | rfl | rfl
    · exact .inl (Option.some.inj hkind).symm
    · exact .inr (Option.some.inj hkind).symm
    · exact .inr (Option.some.inj hkind).symm
  rcases hkinds with rfl | rfl
  · simp [Kind.run]
  · simp [Kind.run, integer, hwhole]

/-- **Checkers compare the doubles of numbers.** An enumeration with one number among its values
accepts a number if both have the same nearest double, so it accepts what is equal to it, and
nothing else among the doubles. The types of numbers accept an integral number if its nearest double
is within the bounds, so they accept what is within them, and nothing else among the doubles. -/
theorem numbers_compared (context : Context) (rule : Rule) :
    (∀ (values : List Json) (a b : Json.Number) (x y : Binary64), rule.values = some values →
      .number b ∈ values → (∀ m, .number m ∈ values → m = b) → Nearest a.toRat x →
      Nearest b.toRat y →
        let accepts := (Kind.enumeration.run context rule (.number a)).verdict = .ok .valid
        (accepts ↔ x.toRat = y.toRat) ∧ (a.toRat = b.toRat → accepts) ∧
          ((∃ z : Binary64, z.toRat = a.toRat) → (∃ z : Binary64, z.toRat = b.toRat) →
            (accepts ↔ a.toRat = b.toRat))) ∧
    ∀ (typeName : String) (kind : Kind) (n : Json.Number) (x : Binary64),
      typeName ∈ ["number", "int", "integer"] → Kind.ofTypeName? typeName = some kind →
      (∃ k : ℤ, n.toRat = k) → Nearest n.toRat x →
        let accepts := (kind.run context rule (.number n)).verdict = .ok .valid
        (accepts ↔ rule.Encloses x.toRat) ∧ (rule.Encloses n.toRat → accepts) ∧
          ((∃ z : Binary64, z.toRat = n.toRat) → (accepts ↔ rule.Encloses n.toRat)) := by
  constructor
  · intro values a b x y hvalues hmem honly hx hy accepts
    have haccepts : accepts ↔ x.toRat = y.toRat :=
      enumeration_number_iff hvalues hmem honly hx hy
    refine ⟨haccepts, fun hsame => ?_, fun ha hb => ?_⟩
    · rw [← hsame] at hy
      exact haccepts.2 (hx.toRat_unique hy)
    · rw [haccepts, hx.toRat_eq_iff.2 ha, hy.toRat_eq_iff.2 hb]
  · intro typeName kind n x htype hkind hintegral hx accepts
    have haccepts : accepts ↔ rule.Encloses x.toRat :=
      run_number_valid_iff htype hkind hintegral hx
    refine ⟨haccepts, fun hwithin => haccepts.2 (hwithin.of_nearest hx), fun hdouble => ?_⟩
    rw [haccepts, hx.toRat_eq_iff.2 hdouble]

/-- **Beside `2 ^ 53`**: the next integer has the same nearest double, so it is accepted in its place
as a value and within the bound, and the one after that is a double itself, and is not. -/
theorem numbers_compared_besidePower :
    let power : Json.Number := .int (2 ^ 53) (by decide)
    let next : Json.Number := .int (2 ^ 53 + 1) (by decide)
    let after : Json.Number := .int (2 ^ 53 + 2) (by decide)
    let listed : Rule := { typeName := some "enum", values := some [.number power] }
    let bounded : Rule := { typeName := some "int", max := some power.toBinary64 }
    let context := Validator.context {} 0 "n" []
    ((Kind.enumeration.run context listed (.number next)).verdict = .ok .valid ∧
      (Kind.enumeration.run context listed (.number after)).verdict ≠ .ok .valid) ∧
    (Kind.integer.run context bounded (.number next)).verdict = .ok .valid ∧
      (Kind.integer.run context bounded (.number after)).verdict ≠ .ok .valid := by
  intro power next after listed bounded context
  have hpower : power.toBinary64.toRat = (2 ^ 53 : ℤ) :=
    toRat_ofInt (m := 1) (e := 53) (by decide) (by decide) (by decide)
  have hnext : next.toBinary64.toRat = (2 ^ 53 : ℤ) := toRat_ofInt_next
  have hafter : after.toBinary64.toRat = (2 ^ 53 + 2 : ℤ) :=
    toRat_ofInt (m := 2 ^ 52 + 1) (e := 1) (by decide) (by decide) (by decide)
  have hnear : ∀ n : Json.Number, Nearest n.toRat n.toBinary64 := Json.Number.nearest_toBinary64
  have honly : ∀ m, Json.number m ∈ [Json.number power] → m = power := by simp
  obtain ⟨hlisted, -⟩ := numbers_compared context listed
  obtain ⟨-, hbounded⟩ := numbers_compared context bounded
  have hkind : "int" ∈ ["number", "int", "integer"] := by decide
  refine ⟨⟨?_, fun hvalid => ?_⟩, ?_, fun hvalid => ?_⟩
  · have hsame := hlisted _ next power _ _ rfl (by simp) honly (hnear next) (hnear power)
    exact hsame.1.2 (hnext.trans hpower.symm)
  · have hsame := hlisted _ after power _ _ rfl (by simp) honly (hnear after) (hnear power)
    have hdoubles := hsame.1.1 hvalid
    rw [hafter, hpower, Int.cast_inj] at hdoubles
    exact absurd hdoubles (by decide)
  · refine (hbounded "int" .integer next _ hkind rfl ⟨_, rfl⟩ (hnear next)).1.2 ⟨nofun, ?_⟩
    rintro _ ⟨⟩
    rw [hnext, hpower]
  · have hwithin := (hbounded "int" .integer after _ hkind rfl ⟨_, rfl⟩ (hnear after)).1.1 hvalid
    have hle := hwithin.le_max _ rfl
    rw [hafter, hpower, Int.cast_le] at hle
    exact absurd hle (by decide)

end Checker

/-- An enumeration of `2 ^ 53`, and a whole number of at most as much. -/
def Validator.upToPower : RuleSet :=
  ⟨[("k", .oneOf [.number (.int (2 ^ 53) (by decide))]),
    ("n", .record { typeName := some "int", max := some (.ofInt (2 ^ 53) (by decide)) })]⟩

/-- The next integer is rounded to it, so it is accepted as one of the values and within the bound.
-/
theorem Validator.validate_upToPower :
    (Validator.validate {} upToPower (.object
      [("k", .number (.int (2 ^ 53 + 1) (by decide))),
        ("n", .number (.int (2 ^ 53 + 1) (by decide)))])).result = .ok [] ∧
      (ofInt (2 ^ 53) (by decide)).toRat = (2 ^ 53 : ℤ) ∧
      (Json.Number.int (2 ^ 53) (by decide)).toRat = (2 ^ 53 : ℤ) ∧
      (2 ^ 53 : ℤ) < (Json.Number.int (2 ^ 53 + 1) (by decide)).toRat := by
  refine ⟨by decide +kernel, toRat_ofInt (m := 1) (e := 53) (by decide) (by decide) _, rfl, ?_⟩
  rw [Json.Number.toRat, Int.cast_lt]
  decide

end Rulebook
