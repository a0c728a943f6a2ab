import Mathlib
import Rulebook.Proofs.Numbers.Whole
/-!
# Numbers — rounding to the nearest double

What rounding is to do is said in the rationals. `Binary64.toRat` is the number that a double is,
and `Binary64.Nearest v x` says that no double is nearer to `v` than `x`, and that the significand
of `x` is even if another one is as near. Only one number can be so (`Nearest.toRat_unique`), and
rounding finds it (`rounds_ofRatio?`). A quotient is rounded to an integer (`roundDiv_nearest`), so
units are rounded to the last of 53 bits (`roundUnits_nearest`), all other doubles being on the same
grid or too far away; and the outcome is finite while the number is below `Binary64.limit`
(`roundUnits_snd_le_iff`).
-/

namespace Rulebook

/-! ## Quotients -/

/-- A rounded quotient is less than a half away from the quotient, or exactly a half and even. -/
theorem abs_sub_roundDiv (num : Nat) {den : Nat} (hden : 0 < den) :
    |(num : ℚ) / den - roundDiv num den| < 1 / 2 ∨
      |(num : ℚ) / den - roundDiv num den| = 1 / 2 ∧ roundDiv num den % 2 = 0 := by
  have hpos : (0 : ℚ) < den := by exact_mod_cast hden
  -- the quotient is its whole part and a fraction
  have hsplit : (num : ℚ) / den = (num / den : Nat) + ((num % den : Nat) : ℚ) / den := by
    have hcast : (num : ℚ) = den * (num / den : Nat) + (num % den : Nat) := by
      exact_mod_cast (Nat.div_add_mod num den).symm
    rw [hcast, add_div, mul_div_cancel_left₀ _ hpos.ne']
  have hfraction : ((num % den : Nat) : ℚ) / den < 1 := by
    rw [div_lt_one hpos]
    exact_mod_cast Nat.mod_lt num hden
  have hnonneg : 0 ≤ ((num % den : Nat) : ℚ) / den := by positivity
  unfold roundDiv
  dsimp only
  rw [hsplit]
  generalize hfrac : ((num % den : Nat) : ℚ) / den = f at *
  have hf : ((num % den : Nat) : ℚ) = f * den := by rw [← hfrac, div_mul_cancel₀ _ hpos.ne']
  split
  · rename_i hlow
    have hhalf : f < 1 / 2 := by
      have hcast : 2 * ((num % den : Nat) : ℚ) < den := by exact_mod_cast hlow
      rw [hf] at hcast
      nlinarith
    left
    rw [add_sub_cancel_left, abs_of_nonneg hnonneg]
    exact hhalf
  · split
    · rename_i hhigh
      have hhalf : 1 / 2 < f := by
        have hcast : (den : ℚ) < 2 * ((num % den : Nat) : ℚ) := by exact_mod_cast hhigh
        rw [hf] at hcast
        nlinarith
      left
      rw [Nat.cast_add, Nat.cast_one, abs_lt]
      constructor <;> linarith
    · rename_i hlow hhigh
      have hhalf : f = 1 / 2 := by
        have hcast : 2 * ((num % den : Nat) : ℚ) = den := by
          exact_mod_cast (by omega : 2 * (num % den) = den)
        rw [hf] at hcast
        have := mul_right_cancel₀ hpos.ne' (show (2 * f) * den = 1 * den by linarith)
        linarith
      right
      refine ⟨?_, by omega⟩
      rw [hhalf, Nat.cast_add]
      rcases Nat.mod_two_eq_zero_or_one (num / den) with h | h <;> rw [h] <;> norm_num

/-- So no integer is nearer to the quotient, and if another one is as near, the rounded quotient is
even. -/
theorem roundDiv_nearest (num : Nat) {den : Nat} (hden : 0 < den) (k : ℤ) :
    |(num : ℚ) / den - roundDiv num den| ≤ |(num : ℚ) / den - k| ∧
      (|(num : ℚ) / den - k| = |(num : ℚ) / den - roundDiv num den| → k ≠ roundDiv num den →
        roundDiv num den % 2 = 0) := by
  have hround := abs_sub_roundDiv num hden
  have hle : |(num : ℚ) / den - roundDiv num den| ≤ 1 / 2 := by
    rcases hround with h | ⟨h, -⟩
    · exact h.le
    · exact h.le
  generalize hq : (num : ℚ) / den = q at *
  generalize roundDiv num den = r at *
  by_cases hk : k = r
  · subst hk
    exact ⟨le_refl _, fun _ hne => absurd rfl hne⟩
  · -- two integers are at least one apart
    have hapart : (1 : ℚ) ≤ |(k : ℚ) - r| := by
      have h : (1 : ℤ) ≤ |k - r| := Int.one_le_abs (sub_ne_zero.2 hk)
      exact_mod_cast h
    have htriangle : |(k : ℚ) - r| ≤ |q - r| + |q - k| := by
      have h := abs_sub_le (k : ℚ) q r
      rw [abs_sub_comm (k : ℚ) q] at h
      linarith
    refine ⟨by linarith, fun heq _ => ?_⟩
    rcases hround with h | ⟨-, heven⟩
    · exfalso
      linarith
    · exact heven

/-- What is a half below an even number is rounded to it. -/
theorem roundDiv_lt_iff (num : Nat) {den k : Nat} (hden : 0 < den) (hk : k % 2 = 0) :
    roundDiv num den < k ↔ (num : ℚ) / den < k - 1 / 2 := by
  have hround := abs_sub_roundDiv num hden
  generalize (num : ℚ) / den = q at *
  generalize roundDiv num den = r at *
  constructor
  · intro hlt
    rcases hround with h | ⟨h, heven⟩
    · have hcast : (r : ℚ) + 1 ≤ k := by exact_mod_cast hlt
      linarith [(abs_lt.1 h).2]
    · -- below an even number there is an odd one
      have hcast : (r : ℚ) + 2 ≤ k := by exact_mod_cast (by omega : r + 2 ≤ k)
      linarith [(abs_le.1 h.le).2]
  · intro hlt
    have hle : |q - r| ≤ 1 / 2 := by
      rcases hround with h | ⟨h, -⟩
      · exact h.le
      · exact h.le
    have hcast : (r : ℚ) < k := by linarith [(abs_le.1 hle).1]
    exact_mod_cast hcast

namespace Binary64

variable {x y : Binary64} {v w : ℚ} {negative : Bool}

/-! ## Powers of two -/

theorem twoPow_le {e k : Nat} (h : e ≤ k) : twoPow e ≤ twoPow k := by
  rw [twoPow_eq, twoPow_eq]
  exact Nat.pow_le_pow_right (by decide) h

theorem twoPow_add (e k : Nat) : twoPow (e + k) = twoPow e * twoPow k := by
  simp only [twoPow_eq, Nat.pow_add]

/-! ## The numbers -/

/-- The number that a double is. -/
def toRat (x : Binary64) : ℚ :=
  x.signedUnits / unitsPerOne

theorem unitsPerOne_cast_pos : (0 : ℚ) < unitsPerOne := by
  exact_mod_cast unitsPerOne_pos

theorem signedUnits_eq (x : Binary64) : (x.signedUnits : ℚ) = unitsPerOne * x.toRat := by
  rw [toRat, mul_div_cancel₀ _ unitsPerOne_cast_pos.ne']

/-- Two doubles are the same number if they have the same units. -/
theorem toRat_inj : x.toRat = y.toRat ↔ x.signedUnits = y.signedUnits := by
  rw [toRat, toRat, div_left_inj' unitsPerOne_cast_pos.ne', Int.cast_inj]

theorem toRat_le_iff : x.toRat ≤ y.toRat ↔ x.signedUnits ≤ y.signedUnits := by
  rw [toRat, toRat, div_le_div_iff_of_pos_right unitsPerOne_cast_pos, Int.cast_le]

theorem toRat_lt_iff : x.toRat < y.toRat ↔ x.signedUnits < y.signedUnits := by
  rw [toRat, toRat, div_lt_div_iff_of_pos_right unitsPerOne_cast_pos, Int.cast_lt]

@[simp]
theorem toRat_zero (negative : Bool) : (zero negative).toRat = 0 := by
  simp [toRat, signedUnits, units, zero]

theorem signedUnits_negate (x : Binary64) : x.negate.signedUnits = -x.signedUnits := by
  unfold signedUnits negate units
  cases x.negative <;> simp

@[simp]
theorem toRat_negate (x : Binary64) : x.negate.toRat = -x.toRat := by
  rw [toRat, signedUnits_negate, Int.cast_neg, neg_div, toRat]

@[simp]
theorem negate_negate (x : Binary64) : x.negate.negate = x := by
  simp [negate]

/-- The units of a double are whole multiples of a power of two, unless they are too few for it. -/
theorem dvd_units_or_lt (y : Binary64) (e : Nat) :
    2 ^ e ∣ y.units ∨ 0 < e ∧ y.units < 2 ^ 52 * 2 ^ e := by
  rcases Nat.lt_or_ge y.shift e with h | h
  · right
    refine ⟨by omega, ?_⟩
    have hlt : y.units < 2 ^ 53 * 2 ^ y.shift :=
      Nat.mul_lt_mul_of_pos_right y.significand_lt (Nat.two_pow_pos _)
    have hle : 2 ^ 53 * 2 ^ y.shift ≤ 2 ^ 52 * 2 ^ e := by
      rw [← Nat.pow_add, ← Nat.pow_add]
      exact Nat.pow_le_pow_right (by decide) (by omega)
    omega
  · left
    exact Nat.dvd_trans (Nat.pow_dvd_pow 2 h) (Nat.dvd_mul_left _ _)

/-! ## Nearest doubles -/

/-- **A double is nearest to a number**: no other is nearer, and if another one is as near, the
significand is even. -/
structure Nearest (v : ℚ) (x : Binary64) : Prop where
  le : ∀ y : Binary64, |v - x.toRat| ≤ |v - y.toRat|
  even : ∀ y : Binary64, |v - y.toRat| = |v - x.toRat| → y.toRat ≠ x.toRat →
    x.significand % 2 = 0

theorem Nearest.negate (h : Nearest v x) : Nearest (-v) x.negate := by
  have hflip : ∀ y : Binary64, |-v - y.toRat| = |v - y.negate.toRat| := by
    intro y
    rw [toRat_negate, ← abs_neg (-v - y.toRat)]
    congr 1
    ring
  refine ⟨fun y => ?_, fun y heq hne => ?_⟩
  · rw [hflip, hflip, negate_negate]
    exact h.le y.negate
  · rw [hflip, hflip, negate_negate] at heq
    refine h.even y.negate heq fun hsame => hne ?_
    rw [toRat_negate, ← hsame, toRat_negate, neg_neg]

/-- A double is nearest to itself. -/
theorem nearest_self (x : Binary64) : Nearest x.toRat x := by
  refine ⟨fun y => by simp, fun y heq hne => ?_⟩
  rw [sub_self, abs_zero, abs_eq_zero, sub_eq_zero] at heq
  exact absurd heq.symm hne

/-- And no other one is. -/
theorem Nearest.toRat_eq (h : Nearest y.toRat x) : x.toRat = y.toRat := by
  have hle := h.le y
  rw [sub_self, abs_zero] at hle
  linarith [abs_nonpos_iff.1 hle]

/-- So rounding is exact exactly where a double is the number. -/
theorem Nearest.toRat_eq_iff (h : Nearest v x) : x.toRat = v ↔ ∃ y : Binary64, y.toRat = v := by
  refine ⟨fun hx => ⟨x, hx⟩, ?_⟩
  rintro ⟨y, rfl⟩
  exact h.toRat_eq

/-- Rounding does not cross a double. -/
theorem Nearest.toRat_le (h : Nearest v x) (hle : v ≤ y.toRat) : x.toRat ≤ y.toRat := by
  by_contra hlt
  push Not at hlt
  have hnear := h.le y
  rw [abs_of_neg (by linarith : v - x.toRat < 0), abs_of_nonpos (by linarith)] at hnear
  linarith

theorem Nearest.le_toRat (h : Nearest v x) (hle : y.toRat ≤ v) : y.toRat ≤ x.toRat := by
  have hneg := h.negate.toRat_le (y := y.negate) (by rw [toRat_negate]; linarith)
  rw [toRat_negate, toRat_negate] at hneg
  linarith

/-- It is at most twice as large as the number, zero being a double too. -/
theorem Nearest.abs_toRat_le (h : Nearest v x) : |x.toRat| ≤ 2 * |v| := by
  have hle := h.le (zero false)
  rw [toRat_zero, sub_zero] at hle
  have htriangle := abs_sub_abs_le_abs_sub x.toRat v
  rw [abs_sub_comm] at htriangle
  linarith

/-! ## Rounding units -/

section Units

variable {num den : Nat}

/-- Units that need excess bits fill 53 bits without them. -/
theorem le_div_two_pow_excessBits (num den : Nat) (h : excessBits (num / den) ≠ 0) :
    (2 ^ 52 : ℚ) ≤ (num : ℚ) / (den * 2 ^ excessBits (num / den) : Nat) := by
  have hle : 2 ^ 52 ≤ num / (den * 2 ^ excessBits (num / den)) := by
    rw [← Nat.div_div_eq_div_mul]
    exact two_pow_le_div_two_pow_excessBits h
  have hcast : ((2 ^ 52 : Nat) : ℚ) ≤ (num / (den * 2 ^ excessBits (num / den)) : Nat) := by
    exact_mod_cast hle
  refine le_trans (by exact_mod_cast hcast) Nat.cast_div_le

/-- Without its excess bits a number of units fits 53 bits. -/
theorem div_two_pow_excessBits_lt_cast (num : Nat) (hden : 0 < den) :
    (num : ℚ) / (den * 2 ^ excessBits (num / den) : Nat) < 2 ^ 53 := by
  have hstep : 0 < den * 2 ^ excessBits (num / den) := Nat.mul_pos hden (Nat.two_pow_pos _)
  have hlt : num / (den * 2 ^ excessBits (num / den)) < 2 ^ 53 := by
    rw [← Nat.div_div_eq_div_mul]
    exact div_two_pow_excessBits_lt _
  rw [Nat.div_lt_iff_lt_mul hstep] at hlt
  rw [div_lt_iff₀ (by exact_mod_cast hstep)]
  exact_mod_cast hlt

/-- A quotient counted in larger steps. -/
theorem div_eq_div_mul_two_pow (e : Nat) :
    (num : ℚ) / den = (num : ℚ) / (den * 2 ^ e : Nat) * (2 ^ e : Nat) := by
  have hpos : (0 : ℚ) < (2 ^ e : Nat) := by exact_mod_cast Nat.two_pow_pos e
  rw [Nat.cast_mul, div_mul_eq_mul_div, mul_div_mul_right _ _ hpos.ne']

theorem roundDiv_excessBits_le (num den : Nat) :
    roundDiv num (den * 2 ^ excessBits (num / den)) ≤ 2 ^ 53 := by
  have hlt := div_two_pow_excessBits_lt (num / den)
  have hle := roundDiv_le num (den * 2 ^ excessBits (num / den))
  rw [← Nat.div_div_eq_div_mul] at hle
  omega

/-- A carry into the next power of two changes neither the size nor that the significand is even. -/
theorem roundUnits_eq (num den : Nat) :
    (roundUnits num den).1 * 2 ^ (roundUnits num den).2 =
        roundDiv num (den * 2 ^ excessBits (num / den)) * 2 ^ excessBits (num / den) ∧
      (roundDiv num (den * 2 ^ excessBits (num / den)) % 2 = 0 →
        (roundUnits num den).1 % 2 = 0) := by
  unfold roundUnits
  dsimp only
  split
  · exact ⟨rfl, id⟩
  · rename_i hcarry
    have hround : roundDiv num (den * 2 ^ excessBits (num / den)) = 2 ^ 53 := by
      have := roundDiv_excessBits_le num den
      omega
    refine ⟨?_, fun _ => (by decide : 2 ^ 52 % 2 = 0)⟩
    change 2 ^ 52 * 2 ^ (excessBits (num / den) + 1) = _
    rw [hround, Nat.pow_succ]
    omega

/-- **Units are rounded to the nearest double.** -/
theorem roundUnits_nearest (hden : 0 < den) (y : Binary64) :
    |(num : ℚ) / den - ((roundUnits num den).1 * 2 ^ (roundUnits num den).2 : Nat)| ≤
        |(num : ℚ) / den - y.signedUnits| ∧
      (|(num : ℚ) / den - y.signedUnits| =
          |(num : ℚ) / den - ((roundUnits num den).1 * 2 ^ (roundUnits num den).2 : Nat)| →
        y.signedUnits ≠ ((roundUnits num den).1 * 2 ^ (roundUnits num den).2 : Nat) →
        (roundUnits num den).1 % 2 = 0) := by
  obtain ⟨hvalue, heven⟩ := roundUnits_eq num den
  have hfull := le_div_two_pow_excessBits num den
  rw [hvalue]
  generalize hstep : excessBits (num / den) = e at *
  have hpos : (0 : ℚ) < (2 ^ e : Nat) := by exact_mod_cast Nat.two_pow_pos e
  have hpart := roundDiv_nearest num (Nat.mul_pos hden (Nat.two_pow_pos e))
  -- everything is counted in steps of the last bit
  rw [div_eq_div_mul_two_pow e]
  generalize (num : ℚ) / (den * 2 ^ e : Nat) = t at *
  generalize roundDiv num (den * 2 ^ e) = r at *
  have hscale : ∀ k : ℤ, |t * (2 ^ e : Nat) - (k * (2 ^ e : Nat) : ℤ)| =
      |t - k| * (2 ^ e : Nat) := by
    intro k
    rw [Int.cast_mul, Int.cast_natCast, ← sub_mul, abs_mul, abs_of_pos hpos]
  have hrounded : |t * (2 ^ e : Nat) - (r * 2 ^ e : Nat)| = |t - r| * (2 ^ e : Nat) := by
    have h := hscale r
    push_cast at h ⊢
    exact h
  rw [hrounded]
  rcases dvd_units_or_lt y e with hdvd | ⟨he, hlt⟩
  · -- a double on the same grid is no nearer than the nearest integer
    have hsigned : ((2 ^ e : Nat) : ℤ) ∣ y.signedUnits := by
      rw [← Int.natCast_dvd_natCast] at hdvd
      unfold signedUnits
      split
      · exact (Int.dvd_neg).2 hdvd
      · exact hdvd
    obtain ⟨k, hk⟩ := hsigned
    rw [mul_comm] at hk
    rw [hk, hscale]
    obtain ⟨hle, htie⟩ := hpart k
    refine ⟨mul_le_mul_of_nonneg_right hle hpos.le, fun heq hne => heven (htie ?_ fun hsame => ?_)⟩
    · exact mul_right_cancel₀ hpos.ne' heq
    · exact hne (by rw [hsame]; push_cast; rfl)
  · -- a double on a finer grid is smaller, and farther away than the least one of this binade
    have hbinade : (2 ^ 52 : ℚ) ≤ t := hfull (by omega)
    have hsmall : (y.signedUnits : ℚ) < 2 ^ 52 * (2 ^ e : Nat) := by
      have hle : y.signedUnits ≤ y.units := by
        have := natAbs_signedUnits y
        omega
      have hcast : (y.units : ℚ) < 2 ^ 52 * (2 ^ e : Nat) := by exact_mod_cast hlt
      have hcast' : (y.signedUnits : ℚ) ≤ y.units := by exact_mod_cast hle
      linarith
    obtain ⟨hle, -⟩ := hpart (2 ^ 52)
    have hbelow : |t - r| ≤ t - 2 ^ 52 := by
      rw [abs_of_nonneg (by push_cast; linarith : 0 ≤ t - ((2 ^ 52 : ℤ) : ℚ))] at hle
      exact_mod_cast hle
    have hfar : |t - r| * (2 ^ e : Nat) < |t * (2 ^ e : Nat) - y.signedUnits| := by
      have hmul : |t - r| * (2 ^ e : Nat) ≤ (t - 2 ^ 52) * (2 ^ e : Nat) :=
        mul_le_mul_of_nonneg_right hbelow hpos.le
      have habs := le_abs_self (t * (2 ^ e : Nat) - y.signedUnits)
      linarith
    exact ⟨hfar.le, fun heq _ => absurd heq hfar.ne'⟩

/-- **When rounding stays finite**: while the units are less than the greatest double and half its
last step. -/
theorem roundUnits_snd_le_iff (num : Nat) (hden : 0 < den) :
    (roundUnits num den).2 ≤ 2045 ↔ (num : ℚ) / den < (2 ^ 54 - 1) * twoPow 2044 := by
  have hfull := le_div_two_pow_excessBits num den
  have hlt := div_two_pow_excessBits_lt_cast num hden
  have hlast := roundDiv_lt_iff num
    (Nat.mul_pos hden (Nat.two_pow_pos (excessBits (num / den)))) (by decide : 2 ^ 53 % 2 = 0)
  have hsnd : (roundUnits num den).2 = if roundDiv num (den * 2 ^ excessBits (num / den)) < 2 ^ 53
      then excessBits (num / den) else excessBits (num / den) + 1 := by
    unfold roundUnits
    dsimp only
    split <;> rfl
  rw [hsnd, div_eq_div_mul_two_pow (excessBits (num / den))]
  generalize excessBits (num / den) = e at *
  generalize (num : ℚ) / (den * 2 ^ e : Nat) = t at *
  generalize roundDiv num (den * 2 ^ e) = r at *
  rw [← twoPow_eq e]
  have hpos : (0 : ℚ) < twoPow e := by exact_mod_cast twoPow_pos e
  have htop : (0 : ℚ) < twoPow 2044 := by exact_mod_cast twoPow_pos 2044
  rcases Nat.lt_trichotomy e 2045 with h | rfl | h
  · -- below the last binade everything fits
    have hstep : (twoPow e : ℚ) ≤ twoPow 2044 := by exact_mod_cast twoPow_le (by omega : e ≤ 2044)
    have hbound : t * twoPow e < (2 ^ 54 - 1) * twoPow 2044 := by
      have hmul : t * twoPow e < 2 ^ 53 * twoPow e := mul_lt_mul_of_pos_right hlt hpos
      linarith
    have hle : (if r < 2 ^ 53 then e else e + 1) ≤ 2045 := by split <;> omega
    exact ⟨fun _ => hbound, fun _ => hle⟩
  · -- in it a carry is one step too much
    have hstep : (twoPow 2045 : ℚ) = 2 * twoPow 2044 := by
      have h : twoPow 2045 = twoPow 1 * twoPow 2044 := twoPow_add 1 2044
      rw [h, twoPow_eq 1]
      push_cast
      ring
    have hcarry : (if r < 2 ^ 53 then 2045 else 2045 + 1) ≤ 2045 ↔ r < 2 ^ 53 := by
      split <;> omega
    have hscale : t * (2 * twoPow 2044) = 2 * t * twoPow 2044 := by ring
    rw [hcarry, hlast, hstep, hscale, mul_lt_mul_iff_left₀ htop]
    push_cast
    constructor <;> intro h <;> linarith
  · -- above it nothing does
    have hbinade : (2 ^ 52 : ℚ) ≤ t := hfull (by omega)
    have hstep : (4 : ℚ) * twoPow 2044 ≤ twoPow e := by
      have hle : twoPow 2046 ≤ twoPow e := twoPow_le h
      have hsplit : twoPow 2046 = twoPow 2 * twoPow 2044 := twoPow_add 2 2044
      rw [hsplit, twoPow_eq 2] at hle
      exact_mod_cast hle
    constructor
    · intro hle
      split at hle <;> omega
    · intro hbound
      have hmul : (2 ^ 52 : ℚ) * (4 * twoPow 2044) ≤ t * twoPow e :=
        mul_le_mul hbinade hstep (by positivity) (by linarith)
      linarith

end Units

/-! ## Rounding quotients -/

/-- What is at least so large is rounded beyond the doubles: the greatest double and half its last
step, which is `2 ^ 1024 - 2 ^ 970`. -/
def limit : ℚ :=
  (2 ^ 54 - 1) * twoPow 970

theorem one_lt_limit : 1 < limit := by
  have htop : (1 : ℚ) ≤ twoPow 970 := by exact_mod_cast twoPow_pos 970
  unfold limit
  linarith

theorem unitsPerOne_mul_limit : unitsPerOne * limit = (2 ^ 54 - 1) * twoPow 2044 := by
  have hsplit : twoPow 2044 = twoPow 1074 * twoPow 970 := twoPow_add 1074 970
  rw [hsplit, unitsPerOne, limit]
  push_cast
  ring

/-- A number with a sign. -/
def withSign (negative : Bool) (v : ℚ) : ℚ :=
  if negative then -v else v

@[simp]
theorem abs_withSign (negative : Bool) (v : ℚ) : |withSign negative v| = |v| := by
  cases negative <;> simp [withSign]

/-- **What rounding makes of a number**: the nearest double, with the sign that is asked for, or
nothing where that is beyond the doubles. -/
inductive Rounds (negative : Bool) (v : ℚ) : Option Binary64 → Prop where
  | finite {x : Binary64} (hlt : |v| < limit) (hsign : x.negative = negative)
    (hnearest : Nearest v x) : Rounds negative v (some x)
  | infinite (hle : limit ≤ |v|) : Rounds negative v none

theorem abs_sub_toRat (v : ℚ) (x : Binary64) :
    |v - x.toRat| = |unitsPerOne * v - x.signedUnits| / unitsPerOne := by
  have hpos := unitsPerOne_cast_pos
  rw [signedUnits_eq, ← mul_sub, abs_mul, abs_of_pos hpos, mul_div_cancel_left₀ _ hpos.ne']

/-- A sign given to what is rounded is given to the outcome. -/
theorem ofRatio?_true (num den : Nat) :
    ofRatio? true num den = (ofRatio? false num den).map negate := by
  unfold ofRatio?
  dsimp only
  split <;> rfl

/-- **A quotient is rounded to the nearest double**, if it is not beyond the doubles. -/
theorem rounds_ofRatio? (negative : Bool) (num : Nat) {den : Nat} (hden : 0 < den) :
    Rounds negative (withSign negative (num / den)) (ofRatio? negative num den) := by
  have hpos := unitsPerOne_cast_pos
  have hunits : ((unitsPerOne * num : Nat) : ℚ) / den = unitsPerOne * (num / den) := by
    rw [Nat.cast_mul, mul_div_assoc]
  have hfinite := roundUnits_snd_le_iff (unitsPerOne * num) hden
  rw [hunits, ← unitsPerOne_mul_limit, mul_lt_mul_iff_right₀ hpos] at hfinite
  have hsize : |(num : ℚ) / den| = num / den := abs_of_nonneg (by positivity)
  -- a minus sign only turns everything around
  have hpositive : Rounds false (num / den) (ofRatio? false num den) := by
    unfold ofRatio?
    dsimp only
    split
    · rename_i hshift
      refine .finite (by rw [hsize]; exact hfinite.1 hshift) rfl ⟨fun y => ?_, fun y heq hne => ?_⟩
      · rw [abs_sub_toRat, abs_sub_toRat, ← hunits]
        exact div_le_div_of_nonneg_right (roundUnits_nearest hden y).1 hpos.le
      · rw [abs_sub_toRat, abs_sub_toRat, div_left_inj' hpos.ne', ← hunits] at heq
        exact (roundUnits_nearest hden y).2 heq fun hsame => hne (toRat_inj.2 hsame)
    · rename_i hshift
      refine .infinite ?_
      rw [hsize]
      exact not_lt.1 fun hlt => hshift (hfinite.2 hlt)
  cases negative with
  | false => exact hpositive
  | true =>
    rw [ofRatio?_true]
    generalize ofRatio? false num den = rounded at hpositive ⊢
    cases hpositive with
    | finite hlt hsign hnearest =>
      exact .finite (by rwa [abs_withSign]) (by simp [negate, hsign]) hnearest.negate
    | infinite hle => exact .infinite (by rwa [abs_withSign])

/-- Rounding an integer of at most 64 bits is rounding a quotient. -/
theorem ofRatio?_natAbs {n : ℤ} (h : n.natAbs < 2 ^ 64) :
    ofRatio? (n < 0) n.natAbs 1 = some (ofInt n h) := by
  have hshift := (ofInt n h).shift_le
  exact dif_pos hshift

/-- An integer is its size with its sign. -/
theorem withSign_natAbs (n : ℤ) : withSign (n < 0) n.natAbs = n := by
  rw [Nat.cast_natAbs]
  unfold withSign
  by_cases hn : n < 0
  · simp [hn, abs_of_neg hn]
  · simp [hn, abs_of_nonneg (not_lt.1 hn)]

/-- **An integer is rounded to the nearest double.** -/
theorem nearest_ofInt {n : ℤ} (h : n.natAbs < 2 ^ 64) : Nearest n (ofInt n h) := by
  have hrounds := rounds_ofRatio? (n < 0) n.natAbs Nat.one_pos
  rw [ofRatio?_natAbs h, Nat.cast_one, div_one, withSign_natAbs] at hrounds
  cases hrounds with
  | finite _ _ hnearest => exact hnearest

/-! ## There is one nearest double -/

theorem signedUnits_eq_units (h : 0 ≤ x.signedUnits) : x.signedUnits = x.units := by
  unfold signedUnits at h ⊢
  split at h
  · rename_i hnegative
    rw [if_pos hnegative]
    omega
  · rename_i hpositive
    rw [if_neg hpositive]

/-- An even significand counts twice as large steps. -/
theorem two_pow_succ_dvd_units {e : Nat} (hx : x.significand % 2 = 0) (h : e ≤ x.shift) :
    2 ^ (e + 1) ∣ x.units := by
  obtain ⟨k, hk⟩ := Nat.dvd_of_mod_eq_zero hx
  rw [units, hk, Nat.pow_succ, Nat.mul_comm (2 ^ e), Nat.mul_assoc]
  exact Nat.mul_dvd_mul_left 2 (Nat.dvd_trans (Nat.pow_dvd_pow 2 h) (Nat.dvd_mul_left _ _))

/-- A double with a greater shift is greater. -/
theorem units_lt_of_shift_lt (h : x.shift < y.shift) : x.units < y.units := by
  have hsmall : x.units < 2 ^ 53 * 2 ^ x.shift :=
    Nat.mul_lt_mul_of_pos_right x.significand_lt (Nat.two_pow_pos _)
  have hbinade : 2 ^ 53 * 2 ^ x.shift ≤ 2 ^ 52 * 2 ^ y.shift := by
    rw [← Nat.pow_add, ← Nat.pow_add]
    exact Nat.pow_le_pow_right (by decide) (by omega)
  have hnormal : 2 ^ 52 * 2 ^ y.shift ≤ y.units :=
    Nat.mul_le_mul_right _ (y.normal.resolve_left (by omega))
  omega

/-- The next double after an even one is odd, hence before the next even one. -/
theorem exists_between_of_nonneg (hx : x.significand % 2 = 0) (hy : y.significand % 2 = 0)
    (hnonneg : 0 ≤ x.signedUnits) (h : x.signedUnits < y.signedUnits) :
    ∃ z : Binary64, x.signedUnits < z.signedUnits ∧ z.signedUnits < y.signedUnits := by
  have hlt := x.significand_lt
  let z : Binary64 := ⟨false, x.significand + 1, x.shift, by omega, x.shift_le,
    x.normal.imp_right fun hnormal => by omega⟩
  have hstep : 0 < 2 ^ x.shift := Nat.two_pow_pos _
  have hz : z.signedUnits = (x.units + 2 ^ x.shift : Nat) := by
    have hunits : z.units = x.units + 2 ^ x.shift := Nat.succ_mul _ _
    rw [signedUnits_eq_units (by simp [signedUnits, z]), hunits]
  have hxunits := signedUnits_eq_units hnonneg
  have hyunits := signedUnits_eq_units (by omega : 0 ≤ y.signedUnits)
  have hxy : x.units < y.units := by omega
  have hfar : x.units + 2 * 2 ^ x.shift ≤ y.units := by
    rcases Nat.lt_or_ge y.shift x.shift with hless | hmore
    · exact absurd hxy (units_lt_of_shift_lt hless).not_gt
    · obtain ⟨i, hi⟩ := two_pow_succ_dvd_units hx (Nat.le_refl _)
      obtain ⟨j, hj⟩ := two_pow_succ_dvd_units hy hmore
      rw [hi, hj] at hxy ⊢
      have hij : i + 1 ≤ j := Nat.lt_of_mul_lt_mul_left hxy
      have hmul := Nat.mul_le_mul_left (2 ^ (x.shift + 1)) hij
      rw [Nat.mul_succ] at hmul
      rw [Nat.pow_succ] at hmul ⊢
      omega
  refine ⟨z, ?_, ?_⟩ <;> omega

/-- **Between two different doubles with even significands there is another one.** -/
theorem exists_between (hx : x.significand % 2 = 0) (hy : y.significand % 2 = 0)
    (h : x.signedUnits < y.signedUnits) :
    ∃ z : Binary64, x.signedUnits < z.signedUnits ∧ z.signedUnits < y.signedUnits := by
  rcases le_or_gt 0 x.signedUnits with hx0 | hx0
  · exact exists_between_of_nonneg hx hy hx0 h
  · rcases le_or_gt y.signedUnits 0 with hy0 | hy0
    · -- both turned around
      have hflip := signedUnits_negate y
      have hflip' := signedUnits_negate x
      obtain ⟨z, hyz, hzx⟩ := exists_between_of_nonneg (x := y.negate) (y := x.negate) hy hx
        (by omega) (by omega)
      have hz := signedUnits_negate z
      exact ⟨z.negate, by omega, by omega⟩
    · exact ⟨zero false, by simpa [signedUnits, units, zero] using hx0,
        by simpa [signedUnits, units, zero] using hy0⟩

/-- **A number has one nearest double**, zeros of both signs being one number. -/
theorem Nearest.toRat_unique (hx : Nearest v x) (hy : Nearest v y) : x.toRat = y.toRat := by
  by_contra hne
  have heq : |v - x.toRat| = |v - y.toRat| := le_antisymm (hx.le y) (hy.le x)
  have hxeven := hx.even y heq.symm (Ne.symm hne)
  have hyeven := hy.even x heq hne
  -- of two equally near numbers every one between them is nearer
  have hfirst : ∀ a b : Binary64, a.toRat < b.toRat → Nearest v a → Nearest v b →
      a.significand % 2 = 0 → b.significand % 2 = 0 → False := by
    intro a b hlt ha hb haeven hbeven
    obtain ⟨z, haz, hzb⟩ := exists_between haeven hbeven (toRat_lt_iff.1 hlt)
    rw [← toRat_lt_iff] at haz hzb
    rcases abs_cases (v - z.toRat) with ⟨hz, -⟩ | ⟨hz, -⟩
    · have hnear := ha.le z
      have := le_abs_self (v - a.toRat)
      linarith
    · have hnear := hb.le z
      have := neg_abs_le (v - b.toRat)
      linarith
  rcases lt_or_gt_of_ne hne with hlt | hlt
  · exact hfirst x y hlt hx hy hxeven hyeven
  · exact hfirst y x hlt hy hx hyeven hxeven

end Binary64

end Rulebook
