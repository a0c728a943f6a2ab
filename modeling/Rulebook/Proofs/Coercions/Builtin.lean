import Rulebook.Proofs.Numbers.Whole
import Rulebook.Proofs.Text.Blank
/-!
# Coercions — the built-in kinds

What the four kinds make of a value. It is settled for the kind (`Coercion.Kind.settled_apply`), so
a second conversion by the same kind changes nothing, and settled values are the only ones that stay
(`Coercion.Kind.apply_settles`). A conversion takes a value away only where a text is read as a
whole number that is beyond the doubles (`Coercion.Kind.isNull_apply`), and a text that it makes has
no blanks to trim (`Coercion.Kind.solid_of_apply`).
-/

namespace Rulebook

namespace Coercion

namespace Kind

variable {kind : Kind} {value : Json} {s : String}

/-- The digits that a text starts with are beyond the doubles. -/
def Overflows (s : String) : Prop :=
  let (negative, ds) := leadingDigits s.toList
  ds ≠ [] ∧ Decimal.toBinary64? ⟨negative, Decimal.value ds, 0⟩ = none

instance (s : String) : Decidable (Overflows s) :=
  inferInstanceAs (Decidable (_ ∧ _))

/-! ## Objects and arrays -/

@[simp]
theorem isStructured_ofBinary64? (x : Option Binary64) : (ofBinary64? x).isStructured = false := by
  cases x <;> rfl

/-- No kind makes an object or an array of a scalar. -/
theorem isStructured_apply (kind : Kind) (h : value.isStructured = false) :
    (kind.apply value).isStructured = false := by
  cases kind with
  | string => rfl
  | bool => rfl
  | int =>
    cases value with
    | string s =>
      simp only [apply, toInt]
      split
      · rfl
      · exact isStructured_ofBinary64? _
    | _ => exact h
  | number =>
    cases value with
    | string s =>
      simp only [apply, toNumber]
      split <;> rfl
    | array items => cases h
    | object members => cases h
    | _ => rfl

/-! ## Converting twice -/

/-- A text is read as a whole number only if it starts with digits. -/
theorem toInt_string (s : String) :
    toInt (.string s) =
      if (leadingDigits s.toList).2 = [] then .string s
      else ofBinary64? (Decimal.toBinary64?
        ⟨(leadingDigits s.toList).1, Decimal.value (leadingDigits s.toList).2, 0⟩) := by
  unfold toInt
  dsimp only
  split
  · rename_i hdigits
    simp [hdigits]
  · rename_i negative ds hne hdigits
    rw [hdigits, if_neg hne]

/-- **The values that a kind leaves as they are.** Integers below `2 ^ 53` in size are settled for
both kinds of numbers, and so are the doubles that no such integer can stand for: for whole numbers
those from `2 ^ 53` on, and for numbers also those with a fraction. A text is settled if it is read
as no number. -/
inductive Settled : Kind → Json → Prop where
  | text (s : String) : Settled string (.string s)
  | truth (b : Bool) : Settled bool (.bool b)
  | integer {kind : Kind} {n : Int} {hrange : Json.InRange n} (hkind : kind = int ∨ kind = number)
    (hn : n.natAbs < Json.Number.exactBound) : Settled kind (.number (.int n hrange))
  | large {x : Binary64} (hx : Json.Number.exactBound ≤ x.integralSize) :
    Settled int (.number (.float x))
  | double {x : Binary64}
    (hx : x.isIntegral = true → Json.Number.exactBound ≤ x.integralSize) :
    Settled number (.number (.float x))
  | digitless {s : String} (hs : (leadingDigits s.toList).2 = []) : Settled int (.string s)
  | illegible {s : String} (hs : literal? (Text.trim s.toList) = none) : Settled number (.string s)
  | null : Settled int .null
  | bool (b : Bool) : Settled int (.bool b)
  | array {kind : Kind} (items : List Json) (hkind : kind = int ∨ kind = number) :
    Settled kind (.array items)
  | object {kind : Kind} (members : Json.Members) (hkind : kind = int ∨ kind = number) :
    Settled kind (.object members)

/-- A double without its fraction is settled for whole numbers. -/
theorem settled_wholeOf (x : Binary64) : Settled int (.number (wholeOf x)) := by
  by_cases h : x.integralSize < Json.Number.exactBound
  · rw [wholeOf, dif_pos h]
    exact .integer (.inl rfl) (by rwa [Json.Number.natAbs_truncate])
  · rw [wholeOf, dif_neg h]
    exact .large (by omega)

/-- A double that is written as a number is settled for numbers. -/
theorem settled_ofBinary64 (x : Binary64) : Settled number (.number (.ofBinary64 x)) := by
  by_cases h : x.isIntegral = true ∧ x.integralSize < Json.Number.exactBound
  · rw [Json.Number.ofBinary64, dif_pos h]
    exact .integer (.inr rfl) (by rw [Json.Number.natAbs_truncate]; exact h.2)
  · rw [Json.Number.ofBinary64, dif_neg h]
    exact .double fun hwhole => Nat.not_lt.1 fun hsmall => h ⟨hwhole, hsmall⟩

/-- **What a kind makes of a value is settled for it.** -/
theorem settled_apply (kind : Kind) (value : Json) : kind.Settled (kind.apply value) := by
  cases kind with
  | string => exact .text _
  | bool => exact .truth _
  | int =>
    cases value with
    | number n => exact settled_wholeOf _
    | string s =>
      rw [apply, toInt_string]
      split
      · rename_i hdigits
        exact .digitless hdigits
      · cases hread : Decimal.toBinary64? ⟨(leadingDigits s.toList).1,
            Decimal.value (leadingDigits s.toList).2, 0⟩ with
        | none => exact .null
        | some x =>
          have hwhole := Binary64.isIntegral_of_toBinary64? hread
          rw [ofBinary64?, ← wholeOf_eq_ofBinary64 hwhole]
          exact settled_wholeOf x
    | null => exact .null
    | bool b => exact .bool b
    | array items => exact .array items (.inl rfl)
    | object members => exact .object members (.inl rfl)
  | number =>
    cases value with
    | string s =>
      cases hread : literal? (Text.trim s.toList) with
      | none =>
        have hself : number.apply (.string s) = .string s := by simp [apply, toNumber, hread]
        rw [hself]
        exact .illegible hread
      | some x =>
        have hnumber : number.apply (.string s) = .number (.ofBinary64 x) := by
          simp [apply, toNumber, hread]
        rw [hnumber]
        exact settled_ofBinary64 x
    | array items => exact .array items (.inr rfl)
    | object members => exact .object members (.inr rfl)
    | number n => exact settled_ofBinary64 _
    | null => exact settled_ofBinary64 _
    | bool b => exact settled_ofBinary64 _

/-- **A settled value stays.** -/
theorem Settled.apply_eq (h : kind.Settled value) : kind.apply value = value := by
  cases h with
  | text s => rfl
  | truth b => cases b <;> rfl
  | integer hkind hn =>
    rcases hkind with rfl | rfl
    · exact congrArg Json.number (wholeOf_ofInt hn _)
    · exact congrArg Json.number (Json.Number.ofBinary64_ofInt hn _)
  | @large x hx =>
    have hself : wholeOf x = .float x := by rw [wholeOf, dif_neg (Nat.not_lt.2 hx)]
    exact congrArg Json.number hself
  | @double x hx =>
    have hfloat : ¬ (x.isIntegral = true ∧ x.integralSize < Json.Number.exactBound) :=
      fun h => Nat.not_lt.2 (hx h.1) h.2
    have hself : Json.Number.ofBinary64 x = .float x := by
      rw [Json.Number.ofBinary64, dif_neg hfloat]
    exact congrArg Json.number hself
  | digitless hs => rw [apply, toInt_string, if_pos hs]
  | illegible hs => simp [apply, toNumber, hs]
  | null => rfl
  | bool b => rfl
  | array items hkind => rcases hkind with rfl | rfl <;> rfl
  | object members hkind => rcases hkind with rfl | rfl <;> rfl

/-- **Converting twice is converting once.** -/
theorem apply_apply (kind : Kind) (value : Json) :
    kind.apply (kind.apply value) = kind.apply value :=
  (settled_apply kind value).apply_eq

/-- **A kind brings every value to a settled one**, so that a second conversion changes nothing, and
leaves no other values as they are. -/
theorem apply_settles (kind : Kind) (value : Json) :
    kind.apply (kind.apply value) = kind.apply value ∧
      (kind.apply value = value ↔ kind.Settled value) := by
  refine ⟨apply_apply kind value, fun hself => ?_, Settled.apply_eq⟩
  have hsettled := settled_apply kind value
  rwa [hself] at hsettled

/-! ## Values and texts that are made -/

/-- **A conversion keeps a value**, unless it reads a number beyond the doubles. -/
theorem isNull_apply (hvalue : value.isNull = false)
    (hreads : kind = .int → ∀ s, value = .string s → ¬ Overflows s) :
    (kind.apply value).isNull = false := by
  cases kind with
  | string => rfl
  | bool => rfl
  | int =>
    cases value with
    | string s =>
      have hfinite := hreads rfl s rfl
      rw [apply, toInt_string]
      split
      · rfl
      · rename_i hdigits
        cases hread : Decimal.toBinary64? ⟨(leadingDigits s.toList).1,
            Decimal.value (leadingDigits s.toList).2, 0⟩ with
        | none => exact absurd ⟨hdigits, hread⟩ hfinite
        | some x => rfl
    | _ => exact hvalue
  | number =>
    cases value with
    | string s =>
      simp only [apply, toNumber]
      split <;> rfl
    | null => rfl
    | _ => exact hvalue

/-- **A text that a conversion makes has no blanks**, unless the value was that text before. -/
theorem solid_of_apply (hvalue : value.isStructured = false) (hnull : value.isNull = false)
    (h : kind.apply value = .string s) : value = .string s ∨ Text.Solid s.toList := by
  cases value with
  | null => cases hnull
  | array items => cases hvalue
  | object members => cases hvalue
  | string text =>
    cases kind with
    | string => exact .inl h
    | bool => cases h
    | int =>
      rw [apply, toInt_string] at h
      split at h
      · exact .inl h
      · cases hread : Decimal.toBinary64? ⟨(leadingDigits text.toList).1,
            Decimal.value (leadingDigits text.toList).2, 0⟩ with
        | none => rw [hread] at h; cases h
        | some x => rw [hread] at h; cases h
    | number =>
      simp only [apply, toNumber] at h
      split at h
      · cases h
      · exact .inl h
  | number n =>
    cases kind with
    | string =>
      obtain rfl := Json.string.inj h
      refine .inr ?_
      rw [textOf, String.toList_ofList]
      exact Json.Number.solid_plainText n
    | _ => cases h
  | bool b =>
    cases kind with
    | string =>
      obtain rfl := Json.string.inj h
      refine .inr ?_
      cases b <;> exact Text.solid_of_all (by decide) rfl
    | _ => cases h

end Kind

end Coercion

end Rulebook
