import Mathlib
import Rulebook.Decimal.Shortest
import Rulebook.Proofs.Numbers.Denotation
/-!
# Numbers — the shortest digits are read back

The digits that a double is printed with are searched for on grids of multiples of powers of ten.
What makes a multiple eligible is counted in quarter units: it must not be farther from the double
than the middle to its neighbour (`Binary64.attracts`). The neighbours of a double are as far away
as these middles say (`add_quartersAbove_le`, `add_quartersBelow_le`), so an eligible multiple is
nearest to the double and to no other (`nearest_of_attracts`). The finest grid of the search is
finer than the doubles, so that it always holds one (`exists_onGrid_finest`), and the search ends
with it at the latest (`onGrid_coarsest`). Hence the digits that it finds are read as the double
that they are printed for, the sign included (`toBinary64?_shortest`).
-/

namespace Rulebook

namespace Binary64

variable {x y : Binary64} {num den : Nat}

/-! ## One representation -/

/-- **A double is given by its sign and its size.** -/
theorem eq_of_units (hsign : x.negative = y.negative) (h : x.units = y.units) : x = y := by
  have hshift : x.shift = y.shift := by
    rcases Nat.lt_trichotomy x.shift y.shift with hlt | heq | hlt
    · exact absurd h (units_lt_of_shift_lt hlt).ne
    · exact heq
    · exact absurd h (units_lt_of_shift_lt hlt).ne'
  have hsignificand : x.significand = y.significand := by
    rw [units, units, hshift] at h
    exact Nat.eq_of_mul_eq_mul_right (Nat.two_pow_pos _) h
  cases x
  cases y
  simp only [mk.injEq]
  exact ⟨hsign, hsignificand, hshift⟩

theorem units_pos (hx : x.isZero = false) : 0 < x.units :=
  Nat.mul_pos (Nat.pos_of_ne_zero (of_decide_eq_false hx)) (Nat.two_pow_pos _)

theorem toRat_of_isZero (hx : x.isZero = true) : x.toRat = 0 := by
  have hsignificand : x.significand = 0 := of_decide_eq_true hx
  simp [toRat, signedUnits, units, hsignificand]

/-- A number other than zero is one double. -/
theorem eq_of_toRat_eq (hx : x.isZero = false) (h : x.toRat = y.toRat) : x = y := by
  have hpos := units_pos hx
  have hsigned := toRat_inj.1 h
  have hunits : x.units = y.units := by
    rw [← natAbs_signedUnits, hsigned, natAbs_signedUnits]
  refine eq_of_units ?_ hunits
  unfold signedUnits at hsigned
  rw [← hunits] at hsigned
  cases hxsign : x.negative <;> cases hysign : y.negative <;> simp [hxsign, hysign] at hsigned ⊢
    <;> omega

/-! ## Neighbours -/

/-- **The next greater double** is twice as far away as the middle to it. -/
theorem add_quartersAbove_le (h : x.units < y.units) :
    4 * x.units + 2 * x.quartersAbove ≤ 4 * y.units := by
  have hstep : x.units + 2 ^ x.shift ≤ y.units := by
    rcases dvd_units_or_lt y x.shift with ⟨k, hk⟩ | ⟨hshift, hsmall⟩
    · rw [hk, units, Nat.mul_comm (2 ^ x.shift)] at h
      have hlt : x.significand + 1 ≤ k := Nat.lt_of_mul_lt_mul_right h
      have hle := Nat.mul_le_mul_right (2 ^ x.shift) hlt
      rw [Nat.add_mul, Nat.one_mul] at hle
      rwa [hk, units, Nat.mul_comm (2 ^ x.shift) k]
    · have hnormal : 2 ^ 52 * 2 ^ x.shift ≤ x.units :=
        Nat.mul_le_mul_right _ (x.normal.resolve_left (by omega))
      omega
  unfold quartersAbove
  omega

/-- **So is the next smaller one**, which is nearer where a binade begins. -/
theorem add_quartersBelow_le (h : y.units < x.units) :
    4 * y.units + 2 * x.quartersBelow ≤ 4 * x.units := by
  -- a multiple of a power of two below another one
  have hgrid : ∀ (e m : Nat), 2 ^ e ∣ y.units → y.units < m * 2 ^ e →
      y.units + 2 ^ e ≤ m * 2 ^ e := by
    rintro e m ⟨k, hk⟩ hlt
    rw [hk, Nat.mul_comm (2 ^ e)] at hlt ⊢
    have hle := Nat.mul_le_mul_right (2 ^ e) (Nat.lt_of_mul_lt_mul_right hlt)
    rwa [Nat.succ_mul] at hle
  unfold quartersBelow
  split
  · rename_i hbinade
    obtain ⟨hleast, hshift⟩ := hbinade
    obtain ⟨e, he⟩ : ∃ e, x.shift = e + 1 := ⟨x.shift - 1, by omega⟩
    have hunits : x.units = 2 ^ 53 * 2 ^ e := by
      rw [units, hleast, he, Nat.pow_succ]
      omega
    have hhalf : y.units + 2 ^ e ≤ 2 ^ 53 * 2 ^ e := by
      rw [hunits] at h
      rcases dvd_units_or_lt y e with hdvd | ⟨-, hsmall⟩
      · exact hgrid e (2 ^ 53) hdvd h
      · have := Nat.two_pow_pos e
        omega
    have hstep : 2 ^ (e + 1) = 2 * 2 ^ e := by
      rw [Nat.pow_succ, Nat.mul_comm]
    rw [hunits, he, hstep]
    omega
  · rename_i hinside
    have hstep : y.units + 2 ^ x.shift ≤ x.units := by
      rcases dvd_units_or_lt y x.shift with hdvd | ⟨hshift, hsmall⟩
      · exact hgrid x.shift x.significand hdvd h
      · have hnormal := x.normal.resolve_left (by omega)
        have hmul : (2 ^ 52 + 1) * 2 ^ x.shift ≤ x.units :=
          Nat.mul_le_mul_right _ (by omega)
        rw [Nat.add_mul, Nat.one_mul] at hmul
        omega
    omega

/-- The middle to the next smaller double is not below zero. -/
theorem quartersBelow_le (hx : x.isZero = false) : 2 * x.quartersBelow ≤ 4 * x.units := by
  have hzero : (zero false).units = 0 := rfl
  have hle := add_quartersBelow_le (x := x) (y := zero false) (by rw [hzero]; exact units_pos hx)
  rwa [hzero, Nat.mul_zero, Nat.zero_add] at hle

theorem two_le_quartersBelow (x : Binary64) : 2 ≤ x.quartersBelow := by
  have hpos := Nat.two_pow_pos x.shift
  unfold quartersBelow
  split
  · rename_i hbinade
    have hle : 2 ^ 1 ≤ 2 ^ x.shift := Nat.pow_le_pow_right (by decide) hbinade.2
    omega
  · omega

/-! ## What a double attracts -/

/-- What is within the middles, in quarter units; a middle itself counts for an even significand. -/
theorem within_of_attracts (hx : x.isZero = false) (hden : 0 < den)
    (h : x.attracts num den = true) :
    (4 * x.units - x.quartersBelow : ℚ) ≤ num / den ∧
      (num / den : ℚ) ≤ 4 * x.units + x.quartersAbove ∧
      (x.significand % 2 ≠ 0 → (4 * x.units - x.quartersBelow : ℚ) < num / den ∧
        (num / den : ℚ) < 4 * x.units + x.quartersAbove) := by
  have hpos : (0 : ℚ) < den := by exact_mod_cast hden
  have hbelow := quartersBelow_le hx
  have hlow : (((4 * x.units - x.quartersBelow) * den : Nat) : ℚ) =
      (4 * x.units - x.quartersBelow) * den := by
    rw [Nat.cast_mul, Nat.cast_sub (by omega)]
    push_cast
    ring
  have hhigh : (((4 * x.units + x.quartersAbove) * den : Nat) : ℚ) =
      (4 * x.units + x.quartersAbove) * den := by push_cast; ring
  rw [le_div_iff₀ hpos, div_le_iff₀ hpos, lt_div_iff₀ hpos, div_lt_iff₀ hpos, ← hlow, ← hhigh]
  norm_cast
  unfold attracts at h
  dsimp only at h
  split at h
  · rename_i heven
    have hwithin := of_decide_eq_true h
    exact ⟨hwithin.1, hwithin.2, fun hodd => absurd heven hodd⟩
  · have hwithin := of_decide_eq_true h
    exact ⟨hwithin.1.le, hwithin.2.le, fun _ => hwithin⟩

/-- What a double attracts is below what is rounded beyond the doubles. -/
theorem lt_limit_of_attracts (hx : x.isZero = false) (hden : 0 < den)
    (h : x.attracts num den = true) : (num / den : ℚ) < 4 * (unitsPerOne * limit) := by
  obtain ⟨-, hle, hodd⟩ := within_of_attracts hx hden h
  have htop : (4 * x.units + x.quartersAbove : ℚ) = (4 * x.significand + 2) * twoPow x.shift := by
    rw [units, quartersAbove, twoPow_eq]
    push_cast
    ring
  have hstep : (twoPow x.shift : ℚ) ≤ 2 * twoPow 2044 := by
    have hle := twoPow_le x.shift_le
    have hsplit : twoPow 2045 = twoPow 1 * twoPow 2044 := twoPow_add 1 2044
    rw [hsplit, twoPow_eq 1] at hle
    exact_mod_cast hle
  have hpos : (0 : ℚ) < twoPow x.shift := by exact_mod_cast twoPow_pos _
  have hbound : ∀ m : Nat, m < 2 ^ 53 →
      (4 * m + 2 : ℚ) * twoPow x.shift ≤ 4 * ((2 ^ 54 - 1) * twoPow 2044) := by
    intro m hm
    have hsmall : ((m + 1 : Nat) : ℚ) ≤ ((2 ^ 53 : Nat) : ℚ) := by exact_mod_cast hm
    push_cast at hsmall
    have hmul : (4 * m + 2 : ℚ) * twoPow x.shift ≤ (4 * (2 ^ 53 - 1) + 2) * (2 * twoPow 2044) :=
      mul_le_mul (by linarith) hstep hpos.le (by norm_num)
    linarith
  rw [htop] at hle hodd
  rw [unitsPerOne_mul_limit]
  by_cases heven : x.significand % 2 = 0
  · -- the greatest significand is odd, so there is a next one
    have hlt := x.significand_lt
    have hnext := hbound (x.significand + 1) (by omega)
    push_cast at hnext
    linarith
  · exact lt_of_lt_of_le (hodd heven).2 (hbound x.significand x.significand_lt)

/-- A number is nearer to a point than to another one, if it is within the middles around the point
and the other one is beyond twice of them. It is as near only if it is a middle. -/
theorem abs_sub_le_of_within {t p q below above : ℚ} (hbelow : 0 < below) (habove : 0 < above)
    (hlow : p - below ≤ t) (hhigh : t ≤ p + above)
    (hapart : q + 2 * below ≤ p ∨ p + 2 * above ≤ q) : |t - p| ≤ |t - q| ∧
      (p - below < t ∧ t < p + above → |t - p| < |t - q|) := by
  have hle := le_abs_self (t - q)
  have hge := neg_abs_le (t - q)
  rcases hapart with h | h
  · rcases abs_cases (t - p) with ⟨habs, -⟩ | ⟨habs, -⟩ <;> rw [habs] <;>
      exact ⟨by linarith, fun hinside => by linarith [hinside.1]⟩
  · rcases abs_cases (t - p) with ⟨habs, -⟩ | ⟨habs, -⟩ <;> rw [habs] <;>
      exact ⟨by linarith, fun hinside => by linarith [hinside.2]⟩

/-- Every other double lies beyond twice the middles. -/
theorem apart_of_ne (hx : x.isZero = false) (h : y.signedUnits ≠ x.units) :
    (4 * y.signedUnits + 2 * x.quartersBelow : ℚ) ≤ 4 * x.units ∨
      (4 * x.units + 2 * x.quartersAbove : ℚ) ≤ 4 * y.signedUnits := by
  rcases lt_or_gt_of_ne h with hlt | hgt
  · left
    rcases le_or_gt 0 y.signedUnits with hnonneg | hnegative
    · have hy := signedUnits_eq_units hnonneg
      have hle := add_quartersBelow_le (x := x) (y := y) (by omega)
      exact_mod_cast (by omega : 4 * y.signedUnits + 2 * x.quartersBelow ≤ (4 * x.units : ℤ))
    · have hle := quartersBelow_le hx
      exact_mod_cast (by omega : 4 * y.signedUnits + 2 * x.quartersBelow ≤ (4 * x.units : ℤ))
  · right
    have hy := signedUnits_eq_units (x := y) (by omega)
    have hle := add_quartersAbove_le (x := x) (y := y) (by omega)
    exact_mod_cast (by omega : (4 * x.units + 2 * x.quartersAbove : ℤ) ≤ 4 * y.signedUnits)

/-- **What a double attracts is nearest to it.** -/
theorem nearest_of_attracts (hx : x.isZero = false) (hsign : x.negative = false) (hden : 0 < den)
    (h : x.attracts num den = true) : Nearest (num / den / (4 * unitsPerOne)) x := by
  have hpos : (0 : ℚ) < 4 * unitsPerOne := by linarith [unitsPerOne_cast_pos]
  have hbelow : (2 : ℚ) ≤ x.quartersBelow := by exact_mod_cast two_le_quartersBelow x
  have habove : (0 : ℚ) < x.quartersAbove := by
    exact_mod_cast Nat.mul_pos (by decide : 0 < 2) (Nat.two_pow_pos x.shift)
  obtain ⟨hlow, hhigh, hodd⟩ := within_of_attracts hx hden h
  have hunits : (x.signedUnits : ℚ) = x.units := by
    rw [signedUnits, hsign]
    rfl
  -- distances are counted in quarter units
  have hdistance : ∀ y : Binary64, |(num / den / (4 * unitsPerOne) : ℚ) - y.toRat| =
      |(num / den : ℚ) - 4 * y.signedUnits| / (4 * unitsPerOne) := by
    intro y
    rw [← abs_of_pos hpos, ← abs_div, abs_of_pos hpos, toRat]
    congr 1
    field_simp
  have hother : ∀ y : Binary64, y.toRat ≠ x.toRat → y.signedUnits ≠ x.units := by
    intro y hne hsame
    have hcast : (y.signedUnits : ℚ) = x.signedUnits := by
      rw [hsame, hunits, Int.cast_natCast]
    exact hne (toRat_inj.2 (by exact_mod_cast hcast))
  have hnear := fun (y : Binary64) (hne : y.toRat ≠ x.toRat) =>
    abs_sub_le_of_within (by linarith) habove hlow hhigh (apart_of_ne hx (hother y hne))
  refine ⟨fun y => ?_, fun y heq hne => ?_⟩
  · by_cases hsame : y.toRat = x.toRat
    · rw [hsame]
    · rw [hdistance, hdistance, hunits]
      exact div_le_div_of_nonneg_right (hnear y hsame).1 hpos.le
  · by_contra heven
    rw [hdistance, hdistance, div_left_inj' hpos.ne', hunits] at heq
    exact absurd heq.symm ((hnear y hne).2 (hodd heven)).ne

/-! ## The search -/

/-- A positive multiple of `10 ^ exponent` that a double attracts. -/
def Fits (x : Binary64) (exponent : ℤ) (c : Nat) : Prop :=
  0 < c ∧ x.attracts (4 * (c * (unitsPerOne * 10 ^ exponent.toNat))) (10 ^ (-exponent).toNat) = true

/-- The number that such a multiple is, in quarter units. -/
theorem quarters_eq (c : Nat) (exponent : ℤ) :
    ((4 * (c * (unitsPerOne * 10 ^ exponent.toNat)) : Nat) : ℚ) / (10 ^ (-exponent).toNat : Nat) =
      4 * unitsPerOne * (c * 10 ^ exponent) := by
  rw [← Decimal.quotient_eq c exponent]
  push_cast
  ring

/-- **A multiple that is found fits.** -/
theorem fits_of_onGrid {exponent : ℤ} {c : Nat} (h : x.onGrid exponent = some c) :
    x.Fits exponent c := by
  have hfits : ∀ d : Nat, (0 < d && x.attracts (4 * (d * (unitsPerOne * 10 ^ exponent.toNat)))
      (10 ^ (-exponent).toNat)) = true → x.Fits exponent d := by
    intro d hd
    rw [Bool.and_eq_true, decide_eq_true_eq] at hd
    exact hd
  unfold onGrid at h
  dsimp only at h
  split at h
  · rename_i hfloor hnext
    split at h
    · exact Option.some.inj h ▸ hfits _ hfloor
    · exact Option.some.inj h ▸ hfits _ hnext
  · rename_i hfloor hnext
    exact Option.some.inj h ▸ hfits _ hfloor
  · rename_i hfloor hnext
    exact Option.some.inj h ▸ hfits _ hnext
  · cases h

/-- If the neighbour below fits, one is found. -/
theorem exists_onGrid_of_fits {exponent : ℤ} (h : x.Fits exponent
    (x.units * 10 ^ (-exponent).toNat / (unitsPerOne * 10 ^ exponent.toNat))) :
    ∃ c, x.onGrid exponent = some c := by
  obtain ⟨hpos, hattracts⟩ := h
  unfold onGrid
  dsimp only
  rw [hattracts, decide_eq_true hpos]
  split
  · split <;> exact ⟨_, rfl⟩
  · exact ⟨_, rfl⟩
  · exact ⟨_, rfl⟩
  · rename_i hfloor _
    cases hfloor

/-- From `10 ^ -324` on downward, four units are at least a multiple of the grid. -/
theorem four_mul_unitsPerOne_le {exponent : ℤ} (h : exponent ≤ -324) :
    4 * unitsPerOne ≤ 10 ^ (-exponent).toNat := by
  have hsplit : 4 * unitsPerOne = twoPow 1023 * twoPow 53 := by
    have h : twoPow 1076 = twoPow 1023 * twoPow 53 := twoPow_add 1023 53
    have h' : twoPow 1076 = twoPow 2 * twoPow 1074 := twoPow_add 2 1074
    rw [← h, h', twoPow_eq 2, unitsPerOne]
  have hrest : (10 : ℚ) ^ (16 : ℤ) ≤ 10 ^ (-exponent - 308) :=
    zpow_le_zpow_right₀ (by norm_num) (by omega)
  have hcast : ((10 ^ (-exponent).toNat : Nat) : ℚ) = 10 ^ (-exponent) := by
    have hnonneg := Int.toNat_of_nonneg (by omega : 0 ≤ -exponent)
    rw [Nat.cast_pow, ← zpow_natCast, hnonneg]
    rfl
  have hle : ((4 * unitsPerOne : Nat) : ℚ) ≤ ((10 ^ (-exponent).toNat : Nat) : ℚ) := by
    rw [hcast, ten_zpow_eq, hsplit, twoPow_eq 53]
    push_cast
    calc (twoPow 1023 : ℚ) * 2 ^ 53 ≤ twoPow 1023 * 10 ^ (16 : ℤ) :=
          mul_le_mul_of_nonneg_left (by norm_num) (Nat.cast_nonneg _)
      _ ≤ (10 ^ 28) ^ 11 * 10 ^ (16 : ℤ) :=
          mul_le_mul_of_nonneg_right twoPow_le_ten_pow (by norm_num)
      _ ≤ (10 ^ 28) ^ 11 * 10 ^ (-exponent - 308) := mul_le_mul_of_nonneg_left hrest (by positivity)
  exact_mod_cast hle

/-- **The finest grid holds a multiple for every double** but zero: it is finer than the doubles. -/
theorem exists_onGrid_finest (hx : x.isZero = false) {exponent : ℤ} (h : exponent ≤ -324) :
    ∃ c, x.onGrid exponent = some c := by
  have hgrid := four_mul_unitsPerOne_le h
  have hunits := units_pos hx
  have hone := unitsPerOne_pos
  have hwhole : unitsPerOne * 10 ^ exponent.toNat = unitsPerOne := by
    rw [Int.toNat_of_nonpos (by omega), Nat.pow_zero, Nat.mul_one]
  refine exists_onGrid_of_fits ?_
  rw [Fits, hwhole]
  generalize 10 ^ (-exponent).toNat = up at *
  have hup : up ≤ x.units * up := Nat.le_mul_of_pos_left _ hunits
  have hrest := Nat.mod_lt (x.units * up) hone
  have hsplit := Nat.div_add_mod (x.units * up) unitsPerOne
  rw [Nat.mul_comm] at hsplit
  refine ⟨Nat.div_pos (by omega) hone, ?_⟩
  have hbelow : up ≤ x.quartersBelow * up :=
    Nat.le_mul_of_pos_left _ (Nat.lt_of_lt_of_le (by decide) (two_le_quartersBelow x))
  have habove : 0 < x.quartersAbove * up :=
    Nat.mul_pos (Nat.mul_pos (by decide) (Nat.two_pow_pos _)) (by omega)
  have hlow : (4 * x.units - x.quartersBelow) * up <
      4 * (x.units * up / unitsPerOne * unitsPerOne) := by
    rw [Nat.sub_mul, Nat.mul_assoc]
    omega
  have hhigh : 4 * (x.units * up / unitsPerOne * unitsPerOne) <
      (4 * x.units + x.quartersAbove) * up := by
    rw [Nat.add_mul, Nat.mul_assoc]
    omega
  unfold attracts
  dsimp only
  split
  · exact decide_eq_true ⟨hlow.le, hhigh.le⟩
  · exact decide_eq_true ⟨hlow, hhigh⟩

/-- **The search ends on a grid that holds a multiple.** -/
theorem onGrid_coarsest (hx : x.isZero = false) (steps : Nat) :
    x.onGrid (x.coarsest (steps + 1)).2 = some (x.coarsest (steps + 1)).1 := by
  induction steps with
  | zero =>
    have hfinest : ((0 : Nat) : ℤ) - 324 ≤ -324 := by omega
    obtain ⟨c, hc⟩ := exists_onGrid_finest hx hfinest
    rw [coarsest, hc]
    exact hc
  | succ steps ih =>
    rw [coarsest]
    split
    · assumption
    · exact ih

theorem fits_shortest (hx : x.isZero = false) : x.Fits x.shortest.2 x.shortest.1 :=
  fits_of_onGrid (onGrid_coarsest hx 632)

/-! ## Reading back -/

/-- A multiple that fits is below what is rounded beyond the doubles. -/
theorem Fits.lt_limit {exponent : ℤ} {c : Nat} (h : x.Fits exponent c) (hx : x.isZero = false) :
    (c * 10 ^ exponent : ℚ) < limit := by
  have hlimit := lt_limit_of_attracts hx (Nat.pow_pos (by decide)) h.2
  rw [quarters_eq, mul_assoc, mul_lt_mul_iff_right₀ (by norm_num),
    mul_lt_mul_iff_right₀ unitsPerOne_cast_pos] at hlimit
  exact hlimit

/-- It is nearest to the double. -/
theorem Fits.nearest {exponent : ℤ} {c : Nat} (h : x.Fits exponent c) (hx : x.isZero = false) :
    Nearest (withSign x.negative (c * 10 ^ exponent)) x := by
  have hpos := unitsPerOne_cast_pos
  have hpositive : ∀ y : Binary64, y.Fits exponent c → y.isZero = false → y.negative = false →
      Nearest (c * 10 ^ exponent) y := by
    intro y hfits hy hsign
    have hnearest := nearest_of_attracts hy hsign (Nat.pow_pos (by decide)) hfits.2
    rwa [quarters_eq, mul_div_cancel_left₀ _ (by linarith)] at hnearest
  cases hsign : x.negative with
  | false => exact hpositive x h hx hsign
  | true =>
    have hnegated := (hpositive x.negate h hx (by simp [negate, hsign])).negate
    rwa [negate_negate] at hnegated

/-- **The shortest digits are read as the double that they are printed for**, with its sign. -/
theorem toBinary64?_shortest (hx : x.isZero = false) {d : Decimal}
    (hd : d.toRat = withSign x.negative (x.shortest.1 * 10 ^ x.shortest.2)) :
    d.toBinary64? = some x := by
  have hfits := fits_shortest hx
  have hrounds := Decimal.rounds_toBinary64? d
  rw [hd] at hrounds
  generalize d.toBinary64? = read at *
  cases hrounds with
  | @finite y hlt hsign hnearest =>
    rw [eq_of_toRat_eq hx ((hfits.nearest hx).toRat_unique hnearest)]
  | infinite hle =>
    rw [abs_withSign, abs_of_nonneg (by positivity)] at hle
    exact absurd (hfits.lt_limit hx) (not_lt.2 hle)

end Binary64

end Rulebook
