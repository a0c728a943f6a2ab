import Mathlib
import Rulebook.Proofs.Numbers.Rounding
import Rulebook.Proofs.Text.Blank
/-!
# Numbers — what they denote

Decimals and JSON numbers denote rationals (`Decimal.toRat`, `Json.Number.toRat`), and what reading
and writing do to a number is measured by them. A decimal is read as its nearest double
(`Decimal.rounds_toBinary64?`): the exponents for which no power of ten is computed are those beyond
the doubles, and those nearer to zero than to the least of them. The value of a JSON number as a
double is the nearest one (`Json.Number.nearest_toBinary64`). An integer is its own double exactly
if 53 bits are enough for it, zeros at its end aside (`Binary64.toRat_ofInt`,
`Binary64.exists_natAbs_eq`), and a double is written back as the number that it is
(`Json.Number.toRat_ofBinary64`).
-/

namespace Rulebook

/-! ## Powers of ten -/

namespace Binary64

variable {x : Binary64}

theorem twoPow_mul (e k : Nat) : twoPow (e * k) = (2 ^ e) ^ k := by
  rw [twoPow_eq, Nat.pow_mul]

theorem twoPow_le_ten_pow : (twoPow 1023 : ℚ) ≤ (10 ^ 28) ^ 11 := by
  have hsplit : twoPow 1023 = (2 ^ 93) ^ 11 := twoPow_mul 93 11
  have hle : (2 ^ 93) ^ 11 ≤ (10 ^ 28) ^ 11 := Nat.pow_le_pow_left (by norm_num) 11
  rw [hsplit]
  exact_mod_cast hle

/-- A power of ten in two parts, the first of them beyond half of the doubles. -/
theorem ten_zpow_eq (e : ℤ) : (10 : ℚ) ^ e = (10 ^ 28) ^ 11 * 10 ^ (e - 308) := by
  rw [← pow_mul, ← zpow_natCast, ← zpow_add₀ (by norm_num)]
  congr 1
  push_cast
  ring

/-- From `10 ^ 310` on everything is beyond the doubles. -/
theorem limit_le_ten_zpow {e : ℤ} (h : 310 ≤ e) : limit ≤ 10 ^ e := by
  have hsplit : twoPow 1023 = twoPow 53 * twoPow 970 := twoPow_add 53 970
  have hle := twoPow_le_ten_pow
  rw [hsplit, twoPow_eq 53] at hle
  push_cast at hle
  have hrest : (10 : ℚ) ^ (2 : ℤ) ≤ 10 ^ (e - 308) := zpow_le_zpow_right₀ (by norm_num) (by omega)
  have htop : (0 : ℚ) < twoPow 970 := by exact_mod_cast twoPow_pos 970
  rw [ten_zpow_eq, limit]
  calc ((2 : ℚ) ^ 54 - 1) * twoPow 970 ≤ 2 ^ 53 * twoPow 970 * 10 ^ (2 : ℤ) := by
        norm_num
        linarith
    _ ≤ (10 ^ 28) ^ 11 * 10 ^ (2 : ℤ) := mul_le_mul_of_nonneg_right hle (by norm_num)
    _ ≤ (10 ^ 28) ^ 11 * 10 ^ (e - 308) := mul_le_mul_of_nonneg_left hrest (by positivity)

/-- Down to `10 ^ -325` everything is at most half of the least double. -/
theorem unitsPerOne_mul_ten_zpow_le {e : ℤ} (h : e ≤ -325) :
    unitsPerOne * (10 : ℚ) ^ e ≤ 1 / 2 := by
  have hsplit : twoPow 1074 = twoPow 1023 * twoPow 51 := twoPow_add 1023 51
  have hle := twoPow_le_ten_pow
  have hrest : (10 : ℚ) ^ (17 : ℤ) ≤ 10 ^ (-e - 308) :=
    zpow_le_zpow_right₀ (by norm_num) (by omega)
  have hpos : (0 : ℚ) < 10 ^ e := by positivity
  have hinverse : (10 : ℚ) ^ (-e) * 10 ^ e = 1 := by
    rw [← zpow_add₀ (by norm_num), neg_add_cancel, zpow_zero]
  have hunits : (2 : ℚ) * unitsPerOne ≤ 10 ^ (-e) := by
    rw [ten_zpow_eq, unitsPerOne, hsplit, twoPow_eq 51]
    push_cast
    calc (2 : ℚ) * (twoPow 1023 * 2 ^ 51) ≤ twoPow 1023 * 10 ^ (17 : ℤ) := by
          have hpow : (0 : ℚ) < twoPow 1023 := by exact_mod_cast twoPow_pos 1023
          norm_num
          linarith
      _ ≤ (10 ^ 28) ^ 11 * 10 ^ (17 : ℤ) := mul_le_mul_of_nonneg_right hle (by norm_num)
      _ ≤ (10 ^ 28) ^ 11 * 10 ^ (-e - 308) := mul_le_mul_of_nonneg_left hrest (by positivity)
  have hmul := mul_le_mul_of_nonneg_right hunits hpos.le
  rw [hinverse] at hmul
  linarith

/-- What is at most half of the least double is nearest to zero. -/
theorem nearest_zero {v : ℚ} (negative : Bool) (h : unitsPerOne * |v| ≤ 1 / 2) :
    Nearest v (zero negative) := by
  refine ⟨fun y => ?_, fun _ _ _ => rfl⟩
  have hpos := unitsPerOne_cast_pos
  rw [toRat_zero, sub_zero, abs_sub_toRat, le_div_iff₀ hpos, mul_comm]
  by_cases hy : y.signedUnits = 0
  · rw [hy, Int.cast_zero, sub_zero, abs_mul, abs_of_pos hpos]
  · -- another double is at least a unit away from zero
    have hunit : (1 : ℚ) ≤ |(y.signedUnits : ℚ)| := by exact_mod_cast Int.one_le_abs hy
    have htriangle := abs_sub_abs_le_abs_sub (y.signedUnits : ℚ) (unitsPerOne * v)
    rw [abs_sub_comm, abs_mul, abs_of_pos hpos] at htriangle
    linarith

/-! ## Integers that are doubles -/

/-- A double is an integer if its units are so many times those of one. -/
theorem toRat_eq_intCast_iff {n : ℤ} : x.toRat = n ↔ x.signedUnits = unitsPerOne * n := by
  have hpos := unitsPerOne_cast_pos
  rw [toRat, div_eq_iff hpos.ne', mul_comm]
  exact_mod_cast Iff.rfl

theorem units_of_toRat_eq {n : ℤ} (h : x.toRat = n) : x.units = unitsPerOne * n.natAbs := by
  rw [← natAbs_signedUnits, toRat_eq_intCast_iff.1 h, Int.natAbs_mul, Int.natAbs_natCast]

/-- **An integer of at most 53 bits, zeros at its end aside, is not rounded.** -/
theorem toRat_ofInt {n : ℤ} {m e : Nat} (hm : m < 2 ^ 53) (hn : n.natAbs = m * 2 ^ e)
    (hrange : n.natAbs < 2 ^ 64) : (ofInt n hrange).toRat = n := by
  have hsize : unitsPerOne * n.natAbs = twoPow (1074 + e) * m := by
    rw [hn, twoPow_add, twoPow_eq e, unitsPerOne]
    ring
  have hdvd : 2 ^ excessBits (unitsPerOne * n.natAbs) ∣ unitsPerOne * n.natAbs := by
    rw [hsize]
    exact Nat.dvd_trans (two_pow_dvd_twoPow (excessBits_le hm)) (Nat.dvd_mul_right _ _)
  have hunits : (ofInt n hrange).units = unitsPerOne * n.natAbs := by
    have hround := roundUnits_exact hdvd
    change (roundUnits (unitsPerOne * n.natAbs) 1).1 *
      2 ^ (roundUnits (unitsPerOne * n.natAbs) 1).2 = _
    rw [hround]
    exact Nat.div_mul_cancel hdvd
  have hsigned : (ofInt n hrange).signedUnits = unitsPerOne * n := by
    have hsign : (ofInt n hrange).negative = decide (n < 0) := rfl
    unfold signedUnits
    rw [hsign, hunits]
    by_cases hneg : n < 0
    · have habs : (n.natAbs : ℤ) = -n := by omega
      rw [decide_eq_true hneg, if_pos rfl, Int.natCast_mul, habs, Int.mul_neg, Int.neg_neg]
    · have habs : (n.natAbs : ℤ) = n := by omega
      rw [decide_eq_false hneg, if_neg (by decide), Int.natCast_mul, habs]
  exact toRat_eq_intCast_iff.2 hsigned

/-- Every double that is an integer is of this form. -/
theorem exists_natAbs_eq {n : ℤ} (h : x.toRat = n) :
    ∃ m e : Nat, m < 2 ^ 53 ∧ n.natAbs = m * 2 ^ e := by
  have hsize : x.significand * 2 ^ x.shift = unitsPerOne * n.natAbs := units_of_toRat_eq h
  rcases Nat.lt_or_ge x.shift 1074 with hless | hmore
  · -- the significand alone is at least the integer
    refine ⟨n.natAbs, 0, ?_, (Nat.mul_one _).symm⟩
    have hle : 2 ^ x.shift ≤ unitsPerOne := by
      rw [← twoPow_eq]
      exact twoPow_le (by omega)
    have hmul : 2 ^ x.shift * n.natAbs ≤ 2 ^ x.shift * x.significand := by
      rw [Nat.mul_comm _ x.significand, hsize]
      exact Nat.mul_le_mul_right _ hle
    have := Nat.le_of_mul_le_mul_left hmul (Nat.two_pow_pos _)
    have := x.significand_lt
    omega
  · refine ⟨x.significand, x.shift - 1074, x.significand_lt, ?_⟩
    have hsplit : 2 ^ x.shift = unitsPerOne * 2 ^ (x.shift - 1074) := by
      have h := twoPow_add 1074 (x.shift - 1074)
      rw [Nat.add_sub_cancel' hmore] at h
      rw [← twoPow_eq, ← twoPow_eq, h, unitsPerOne]
    rw [hsplit, Nat.mul_left_comm] at hsize
    exact (Nat.eq_of_mul_eq_mul_left unitsPerOne_pos hsize).symm

/-- So are all integers of up to 53 bits. -/
theorem exists_toRat_eq {n : ℤ} (h : n.natAbs ≤ 2 ^ 53) : ∃ x : Binary64, x.toRat = n := by
  rcases Nat.lt_or_eq_of_le h with hlt | heq
  · exact ⟨_, toRat_ofInt (e := 0) hlt (Nat.mul_one _).symm (by omega)⟩
  · exact ⟨_, toRat_ofInt (m := 1) (e := 53) (by decide) (by omega) (by omega)⟩

/-- The next integer is no double. It is rounded to the one before it, which is even. -/
theorem toRat_ofInt_next : (ofInt (2 ^ 53 + 1) (by decide)).toRat = (2 ^ 53 : ℤ) := by
  have hunits : (ofInt (2 ^ 53 + 1) (by decide)).signedUnits = unitsPerOne * 2 ^ 53 := by
    decide +kernel
  exact toRat_eq_intCast_iff.2 hunits

end Binary64

/-! ## Decimals -/

namespace Decimal

open Binary64

/-- The number that a decimal denotes. -/
def toRat (d : Decimal) : ℚ :=
  withSign d.negative (d.coefficient * 10 ^ d.exponent)

theorem digitValue_le_nine {c : Char} (h : c.isDigit = true) : digitValue c ≤ 9 := by
  have hhigh := (isDigit_iff.1 h).2
  unfold digitValue
  omega

/-- A run of digits is less than the power of ten that has one more digit. -/
theorem value_lt_ten_pow {ds : List Char} (h : ∀ c ∈ ds, c.isDigit = true) :
    value ds < 10 ^ ds.length := by
  induction ds using List.reverseRecOn with
  | nil => exact Nat.one_pos
  | append_singleton ds c ih =>
    have hrest := ih fun c hc => h c (by simp [hc])
    have hlast := digitValue_le_nine (h c (by simp))
    rw [value_append, List.length_append, List.length_singleton, Nat.pow_succ]
    omega

theorem lt_ten_pow_length_digits (n : Nat) : n < 10 ^ (digits n).length := by
  have h : value (digits n) < 10 ^ (digits n).length :=
    value_lt_ten_pow fun c hc => isDigit_of_mem_digits hc
  rwa [value_digits] at h

/-- The quotient that is rounded for a decimal. -/
theorem quotient_eq (coefficient : Nat) (exponent : ℤ) :
    ((coefficient * 10 ^ exponent.toNat : Nat) : ℚ) / (10 ^ (-exponent).toNat : Nat) =
      coefficient * 10 ^ exponent := by
  obtain ⟨n, rfl | rfl⟩ := exponent.eq_nat_or_neg
  · simp
  · simp [div_eq_mul_inv]

/-- **A decimal is read as the nearest double**, if it is not beyond the doubles. -/
theorem rounds_toBinary64? (d : Decimal) : Rounds d.negative d.toRat d.toBinary64? := by
  obtain ⟨negative, coefficient, exponent⟩ := d
  have hsize : |toRat ⟨negative, coefficient, exponent⟩| = coefficient * 10 ^ exponent := by
    rw [toRat, abs_withSign, abs_of_nonneg (by positivity)]
  have hten : (0 : ℚ) < 10 ^ exponent := by positivity
  unfold toBinary64?
  dsimp only
  split
  · rename_i hzero
    have hvalue : |toRat ⟨negative, coefficient, exponent⟩| = 0 := by
      rw [hsize, hzero, Nat.cast_zero, zero_mul]
    exact .finite (by rw [hvalue]; linarith [one_lt_limit]) rfl
      (nearest_zero negative (by rw [hvalue]; norm_num))
  · rename_i hne
    have hone : (1 : ℚ) ≤ coefficient := by exact_mod_cast Nat.one_le_iff_ne_zero.2 hne
    split
    · rename_i hlarge
      refine .infinite ?_
      rw [hsize]
      calc limit ≤ 10 ^ exponent := limit_le_ten_zpow (by omega)
        _ = 1 * 10 ^ exponent := (one_mul _).symm
        _ ≤ coefficient * 10 ^ exponent := mul_le_mul_of_nonneg_right hone hten.le
    · split
      · rename_i hsmall
        have hlt : (coefficient : ℚ) * 10 ^ exponent ≤
            10 ^ (((digits coefficient).length : ℤ) + exponent) := by
          have hcast : (coefficient : ℚ) ≤ 10 ^ (digits coefficient).length := by
            exact_mod_cast (lt_ten_pow_length_digits coefficient).le
          rw [zpow_add₀ (by norm_num), zpow_natCast]
          exact mul_le_mul_of_nonneg_right hcast hten.le
        have htiny : (10 : ℚ) ^ (((digits coefficient).length : ℤ) + exponent) ≤ 1 := by
          have h := zpow_le_zpow_right₀ (a := (10 : ℚ)) (by norm_num)
            (by omega : ((digits coefficient).length : ℤ) + exponent ≤ 0)
          rwa [zpow_zero] at h
        have hhalf := unitsPerOne_mul_ten_zpow_le
          (e := ((digits coefficient).length : ℤ) + exponent) (by omega)
        have hmul := mul_le_mul_of_nonneg_left hlt unitsPerOne_cast_pos.le
        refine .finite ?_ rfl (nearest_zero negative (by rw [hsize]; linarith))
        rw [hsize]
        linarith [one_lt_limit]
      · have hrounds := rounds_ofRatio? negative (coefficient * 10 ^ exponent.toNat)
          (Nat.pow_pos (by decide) : 0 < 10 ^ (-exponent).toNat)
        rw [quotient_eq] at hrounds
        exact hrounds

end Decimal

/-! ## JSON numbers -/

namespace Json.Number

open Binary64

/-- The number that a JSON number denotes. -/
def toRat : Number → ℚ
  | int n _ => n
  | float x => x.toRat

/-- The value of a number as a double is the double nearest to it. -/
theorem nearest_toBinary64 (n : Number) : Nearest n.toRat n.toBinary64 := by
  cases n with
  | int n h => exact nearest_ofInt (natAbs_lt_of_inRange h)
  | float x => exact nearest_self x

/-- A double without a fraction is its integral part, -/
theorem toRat_eq_truncate {x : Binary64} (hx : x.isIntegral = true) : x.toRat = x.truncate :=
  toRat_eq_intCast_iff.2 (signedUnits_eq_truncate hx)

/-- and an integer has no fraction. -/
theorem isIntegral_of_toRat_eq {x : Binary64} {n : ℤ} (h : x.toRat = n) : x.isIntegral = true := by
  simp [isIntegral, units_of_toRat_eq h]

/-- Nor has the double that an integer is rounded to. -/
theorem isIntegral_toBinary64 {n : Number} {k : ℤ} (h : n.toRat = k) :
    n.toBinary64.isIntegral = true := by
  cases n with
  | int m hrange => exact isIntegral_of_ofRatio? (ofRatio?_natAbs (natAbs_lt_of_inRange hrange))
  | float x => exact isIntegral_of_toRat_eq h

/-- **Writing a double as a number is exact.** -/
@[simp]
theorem toRat_ofBinary64 (x : Binary64) : (ofBinary64 x).toRat = x.toRat := by
  unfold ofBinary64
  split
  · rename_i h
    exact (toRat_eq_truncate h.1).symm
  · rfl

/-- An integer of a smaller size is written as itself. -/
theorem ofBinary64_of_toRat_eq {x : Binary64} {n : ℤ} (hx : x.toRat = n)
    (hn : n.natAbs < exactBound) : ∃ hrange, ofBinary64 x = .int n hrange := by
  have hsize := units_of_toRat_eq hx
  have hwhole := isIntegral_of_toRat_eq hx
  have hintegral : x.integralSize = n.natAbs := by
    rw [integralSize, hsize, Nat.mul_div_cancel_left _ unitsPerOne_pos]
  have htruncate : x.truncate = n := by
    have h := toRat_eq_truncate hwhole
    rw [hx] at h
    exact_mod_cast h.symm
  subst htruncate
  exact ⟨_, dif_pos ⟨hwhole, by rwa [hintegral]⟩⟩

/-- A double that is so large has no fraction. -/
theorem isIntegral_of_exactBound_le {x : Binary64} (h : exactBound ≤ x.integralSize) :
    x.isIntegral = true := by
  have hlarge : 2 ^ 53 * unitsPerOne ≤ x.units := (Nat.le_div_iff_mul_le unitsPerOne_pos).1 h
  have hshift : 1074 ≤ x.shift := by
    by_contra hsmall
    have hlt : x.units < 2 ^ 53 * 2 ^ x.shift :=
      Nat.mul_lt_mul_of_pos_right x.significand_lt (Nat.two_pow_pos _)
    have hle : 2 ^ x.shift ≤ unitsPerOne := by
      rw [← twoPow_eq]
      exact twoPow_le (by omega)
    omega
  exact decide_eq_true (Nat.mod_eq_zero_of_dvd
    (Nat.dvd_trans (twoPow_dvd_two_pow hshift) (Nat.dvd_mul_left _ _)))

/-- A double of such a size is written as it is. -/
theorem ofBinary64_of_exactBound_le {x : Binary64} (h : exactBound ≤ x.integralSize) :
    ofBinary64 x = .float x := by
  unfold ofBinary64
  rw [dif_neg fun hwhole => absurd hwhole.2 (not_lt.2 h)]

/-- The double nearest to a number of such a size is of such a size too. -/
theorem exactBound_le_integralSize {v : ℚ} {x : Binary64} (hx : Nearest v x) (hv : 2 ^ 53 ≤ |v|) :
    exactBound ≤ x.integralSize := by
  obtain ⟨y, hy⟩ := exists_toRat_eq (n := 2 ^ 53) (by decide)
  push_cast at hy
  have hsize : 2 ^ 53 ≤ |x.toRat| := by
    rcases le_abs'.1 hv with hneg | hpos
    · have hle := hx.toRat_le (y := y.negate) (by rw [toRat_negate, hy]; exact hneg)
      rw [toRat_negate, hy] at hle
      rw [le_abs']
      exact .inl hle
    · have hle := hx.le_toRat (y := y) (by rw [hy]; exact hpos)
      rw [hy] at hle
      exact hle.trans (le_abs_self _)
  have hunits : (x.units : ℚ) = unitsPerOne * |x.toRat| := by
    rw [← natAbs_signedUnits, Nat.cast_natAbs, Int.cast_abs, signedUnits_eq, abs_mul,
      abs_of_pos unitsPerOne_cast_pos]
  have hle : (unitsPerOne : ℚ) * 2 ^ 53 ≤ x.units := by
    rw [hunits]
    exact mul_le_mul_of_nonneg_left hsize unitsPerOne_cast_pos.le
  have hnat : 2 ^ 53 * unitsPerOne ≤ x.units := by
    rw [mul_comm] at hle
    exact_mod_cast hle
  exact (Nat.le_div_iff_mul_le unitsPerOne_pos).2 hnat

end Json.Number

/-- **Cutting off the fraction of a double leaves its integral part.** -/
theorem Coercion.Kind.toRat_wholeOf (x : Binary64) : (wholeOf x).toRat = x.truncate := by
  unfold wholeOf
  split
  · rfl
  · rename_i h
    exact Json.Number.toRat_eq_truncate (Json.Number.isIntegral_of_exactBound_le (not_lt.1 h))

end Rulebook
