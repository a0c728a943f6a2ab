import Rulebook.Coercion
/-!
# Numbers — whole doubles

Rounding is exact where a whole number of units needs no more than 53 bits (`roundUnits_exact`), so
an integer below `2 ^ 53` in size is its own double (`units_ofInt`), and the double nearest to any
integer is whole (`isIntegral_of_ofRatio?`). Hence the two ways in which a conversion writes a
double back as a number, as it is or without its fraction, leave such an integer alone
(`Json.Number.ofBinary64_ofInt`, `Coercion.Kind.wholeOf_ofInt`), and they agree on whole doubles,
which keep their number (`Json.Number.signedUnits_ofBinary64`).
-/

namespace Rulebook

namespace Binary64

variable {num n e k : Nat} {x : Binary64}

/-! ## Powers of two -/

theorem twoPow_pos (e : Nat) : 0 < twoPow e := by
  rw [twoPow_eq]
  exact Nat.two_pow_pos e

theorem two_pow_dvd_twoPow (h : k ≤ e) : 2 ^ k ∣ twoPow e := by
  rw [twoPow_eq]
  exact Nat.pow_dvd_pow 2 h

theorem twoPow_dvd_two_pow (h : e ≤ k) : twoPow e ∣ 2 ^ k := by
  rw [twoPow_eq]
  exact Nat.pow_dvd_pow 2 h

theorem unitsPerOne_pos : 0 < unitsPerOne := twoPow_pos 1074

/-! ## Exact rounding -/

/-- A quotient that leaves no rest is not rounded. -/
theorem roundDiv_of_dvd {den : Nat} (hden : 0 < den) (h : den ∣ num) :
    roundDiv num den = num / den := by
  have hrest : num % den = 0 := Nat.mod_eq_zero_of_dvd h
  simp [roundDiv, hrest, hden]

/-- **Rounding is exact** if the bits that do not fit are all zero. -/
theorem roundUnits_exact (h : 2 ^ excessBits num ∣ num) :
    roundUnits num 1 = (num / 2 ^ excessBits num, excessBits num) := by
  have hround := roundDiv_of_dvd (Nat.two_pow_pos _) h
  simp only [roundUnits, Nat.div_one, Nat.one_mul, hround,
    if_pos (div_two_pow_excessBits_lt num)]

/-- A multiple of a power of two has no more excess bits than that, if its other factor fits. -/
theorem excessBits_le (h : n < 2 ^ 53) : excessBits (twoPow e * n) ≤ e := by
  have := log2_twoPow_mul_lt e (by decide) h
  unfold excessBits
  omega

/-- Whole numbers below `2 ^ 53` are not rounded. -/
theorem roundUnits_whole (h : n < 2 ^ 53) :
    (roundUnits (unitsPerOne * n) 1).1 * 2 ^ (roundUnits (unitsPerOne * n) 1).2 =
      unitsPerOne * n := by
  have hdvd : 2 ^ excessBits (unitsPerOne * n) ∣ unitsPerOne * n :=
    Nat.dvd_trans (two_pow_dvd_twoPow (excessBits_le h)) (Nat.dvd_mul_right _ _)
  rw [roundUnits_exact hdvd]
  exact Nat.div_mul_cancel hdvd

/-- A whole number is rounded to a whole number: either nothing of it is rounded off, or the shift
alone makes the outcome whole. -/
theorem unitsPerOne_dvd_roundUnits (n : Nat) : unitsPerOne ∣
    (roundUnits (unitsPerOne * n) 1).1 * 2 ^ (roundUnits (unitsPerOne * n) 1).2 := by
  by_cases hexcess : excessBits (unitsPerOne * n) ≤ 1074
  · have hdvd : 2 ^ excessBits (unitsPerOne * n) ∣ unitsPerOne * n :=
      Nat.dvd_trans (two_pow_dvd_twoPow hexcess) (Nat.dvd_mul_right _ _)
    rw [roundUnits_exact hdvd, Nat.div_mul_cancel hdvd]
    exact Nat.dvd_mul_right _ _
  · refine Nat.dvd_trans ?_ (Nat.dvd_mul_left _ _)
    have hshift : excessBits (unitsPerOne * n) ≤ (roundUnits (unitsPerOne * n) 1).2 := by
      simp only [roundUnits, Nat.div_one]
      split <;> simp
    exact twoPow_dvd_two_pow (by omega)

/-! ## The doubles of integers -/

/-- **An integer below `2 ^ 53` in size is its own double.** -/
theorem units_ofInt {n : Int} (h : n.natAbs < 2 ^ 53) (hrange : n.natAbs < 2 ^ 64) :
    (ofInt n hrange).units = unitsPerOne * n.natAbs :=
  roundUnits_whole h

theorem integralSize_ofInt {n : Int} (h : n.natAbs < 2 ^ 53) (hrange : n.natAbs < 2 ^ 64) :
    (ofInt n hrange).integralSize = n.natAbs := by
  rw [integralSize, units_ofInt h, Nat.mul_div_cancel_left _ unitsPerOne_pos]

theorem isIntegral_ofInt {n : Int} (h : n.natAbs < 2 ^ 53) (hrange : n.natAbs < 2 ^ 64) :
    (ofInt n hrange).isIntegral = true := by
  simp [isIntegral, units_ofInt h]

theorem truncate_ofInt {n : Int} (h : n.natAbs < 2 ^ 53) (hrange : n.natAbs < 2 ^ 64) :
    (ofInt n hrange).truncate = n := by
  rw [truncate, integralSize_ofInt h]
  simp only [ofInt, decide_eq_true_eq]
  split <;> omega

/-! ## The same number -/

/-- The size is that of the number. -/
theorem natAbs_signedUnits (x : Binary64) : x.signedUnits.natAbs = x.units := by
  unfold signedUnits
  split <;> simp

/-- Whether a double has a fraction depends on its number alone. -/
theorem isIntegral_congr {y : Binary64} (h : x.signedUnits = y.signedUnits) :
    x.isIntegral = y.isIntegral := by
  have hunits : x.units = y.units := by
    rw [← natAbs_signedUnits, h, natAbs_signedUnits]
  simp only [isIntegral, hunits]

/-- A double without a fraction is its integral part. -/
theorem signedUnits_eq_truncate (hx : x.isIntegral = true) :
    x.signedUnits = unitsPerOne * x.truncate := by
  have hmod : x.units % unitsPerOne = 0 := of_decide_eq_true hx
  have hunits : unitsPerOne * x.integralSize = x.units :=
    Nat.mul_div_cancel' (Nat.dvd_of_mod_eq_zero hmod)
  unfold signedUnits truncate
  split
  · rw [← hunits, Int.natCast_mul, Int.mul_neg]
  · rw [← hunits, Int.natCast_mul]

/-- **An integer below `2 ^ 53` in size and its double are one number.** -/
theorem signedUnits_ofInt {n : Int} (h : n.natAbs < 2 ^ 53) (hrange : n.natAbs < 2 ^ 64) :
    (ofInt n hrange).signedUnits = unitsPerOne * n := by
  rw [signedUnits_eq_truncate (isIntegral_ofInt h hrange), truncate_ofInt h]

/-- **The double nearest to a natural number is whole.** -/
theorem isIntegral_of_ofRatio? {negative : Bool} (h : ofRatio? negative n 1 = some x) :
    x.isIntegral = true := by
  unfold ofRatio? at h
  dsimp only at h
  split at h
  · obtain rfl := Option.some.inj h
    exact decide_eq_true (Nat.mod_eq_zero_of_dvd (unitsPerOne_dvd_roundUnits n))
  · cases h

/-- So is the double nearest to a decimal without an exponent. -/
theorem isIntegral_of_toBinary64? {negative : Bool}
    (h : Decimal.toBinary64? ⟨negative, n, 0⟩ = some x) : x.isIntegral = true := by
  unfold Decimal.toBinary64? at h
  dsimp only at h
  split at h
  · obtain rfl := Option.some.inj h
    simp [isIntegral, units, zero]
  · split at h
    · cases h
    · split at h
      · obtain rfl := Option.some.inj h
        simp [isIntegral, units, zero]
      · simp at h
        exact isIntegral_of_ofRatio? h

end Binary64

/-! ## Numbers of doubles -/

namespace Json.Number

/-- The size of an integer that a double below `exactBound` is cut down to. -/
theorem natAbs_truncate (x : Binary64) : x.truncate.natAbs = x.integralSize := by
  unfold Binary64.truncate
  split <;> simp

/-- An integer below `exactBound` in size is written back as itself. -/
theorem ofBinary64_ofInt {n : Int} (h : n.natAbs < exactBound) (hrange : InRange n) :
    ofBinary64 (.ofInt n (natAbs_lt_of_inRange hrange)) = .int n hrange := by
  have hwhole : (Binary64.ofInt n (natAbs_lt_of_inRange hrange)).isIntegral = true ∧
      (Binary64.ofInt n (natAbs_lt_of_inRange hrange)).integralSize < exactBound :=
    ⟨Binary64.isIntegral_ofInt h _, by rwa [Binary64.integralSize_ofInt h]⟩
  simp only [ofBinary64, dif_pos hwhole, Binary64.truncate_ofInt h]

/-- **Writing a double as a number keeps the number.** -/
theorem signedUnits_ofBinary64 (x : Binary64) :
    (ofBinary64 x).toBinary64.signedUnits = x.signedUnits := by
  by_cases h : x.isIntegral = true ∧ x.integralSize < exactBound
  · obtain ⟨hrange, hint⟩ : ∃ hrange, ofBinary64 x = .int x.truncate hrange := ⟨_, dif_pos h⟩
    have hsize : x.truncate.natAbs < 2 ^ 53 := by
      rw [natAbs_truncate]
      exact h.2
    rw [hint, toBinary64, Binary64.signedUnits_ofInt hsize, Binary64.signedUnits_eq_truncate h.1]
  · rw [ofBinary64, dif_neg h, toBinary64]

end Json.Number

namespace Coercion.Kind

open Json.Number

/-- Nor has an integer below `exactBound` in size a fraction to cut off. -/
theorem wholeOf_ofInt {n : Int} (h : n.natAbs < exactBound) (hrange : Json.InRange n) :
    wholeOf (.ofInt n (natAbs_lt_of_inRange hrange)) = .int n hrange := by
  have hsize : (Binary64.ofInt n (natAbs_lt_of_inRange hrange)).integralSize < exactBound := by
    rwa [Binary64.integralSize_ofInt h]
  simp only [wholeOf, dif_pos hsize, Binary64.truncate_ofInt h]

/-- A whole double is written back the same with or without its fraction. -/
theorem wholeOf_eq_ofBinary64 {x : Binary64} (hx : x.isIntegral = true) :
    wholeOf x = ofBinary64 x := by
  by_cases h : x.integralSize < exactBound
  · rw [wholeOf, dif_pos h, ofBinary64, dif_pos ⟨hx, h⟩]
  · rw [wholeOf, dif_neg h, ofBinary64, dif_neg fun hwhole => h hwhole.2]

end Coercion.Kind

end Rulebook
