/-!
# Finite double-precision numbers

`Binary64` holds the finite numbers of the 64-bit binary floating-point format exactly. Every such
number is a whole multiple of `2 ^ -1074`, so its size is counted in these units: `significand * 2 ^
shift` of them, with a 53-bit significand. The two proofs of canonicity make the representation
unique, hence equality of the fields is equality of numbers, with the two zeros apart;
`Binary64.sameValue` identifies them.

`Binary64.ofRatio?` rounds any quotient of naturals to the nearest number, a tie to the even
significand, and fails exactly when the rounded size exceeds the greatest finite one.
-/

namespace Rulebook

-- Powers are those of the core library, whatever else a module imports.
attribute [default_instance 20000, scoped instance (high)] instPowNat

/-- `num / den` rounded to the nearest integer, a tie to the even neighbour. -/
def roundDiv (num den : Nat) : Nat :=
  let quotient := num / den
  let double := 2 * (num % den)
  if double < den then quotient
  else if den < double then quotient + 1
  else quotient + quotient % 2

/-- Rounding never goes below the quotient. -/
theorem div_le_roundDiv (num den : Nat) : num / den ≤ roundDiv num den := by
  unfold roundDiv
  dsimp only
  split
  · exact Nat.le_refl _
  · split <;> omega

/-- Rounding goes at most one step up. -/
theorem roundDiv_le (num den : Nat) : roundDiv num den ≤ num / den + 1 := by
  unfold roundDiv
  dsimp only
  split
  · omega
  · split <;> omega

/-- A finite double: `significand * 2 ^ shift` units of `2 ^ -1074`, with a sign. -/
structure Binary64 where
  /-- Whether the number carries a minus sign; zero has both signs. -/
  negative : Bool
  /-- The 53-bit significand. -/
  significand : Nat
  /-- How far the significand is shifted left, in units of `2 ^ -1074`. -/
  shift : Nat
  /-- The significand fits its 53 bits. -/
  significand_lt : significand < 2 ^ 53
  /-- Nothing exceeds the greatest finite number. -/
  shift_le : shift ≤ 2045
  /-- A shifted significand uses all its bits. -/
  normal : shift = 0 ∨ 2 ^ 52 ≤ significand
deriving DecidableEq

namespace Binary64

/-- A power of two that is never computed by unfolding, large exponents being common here. -/
@[irreducible]
def twoPow (k : Nat) : Nat := 2 ^ k

theorem twoPow_eq (k : Nat) : twoPow k = 2 ^ k := by
  unfold twoPow
  rfl

/-- The number of units of `2 ^ -1074` in one. -/
def unitsPerOne : Nat := twoPow 1074

/-- The zero of the given sign. -/
def zero (negative : Bool) : Binary64 :=
  ⟨negative, 0, 0, by decide, by decide, .inl rfl⟩

/-- The size, in units of `2 ^ -1074`. -/
def units (x : Binary64) : Nat :=
  x.significand * 2 ^ x.shift

/-- The number itself, in units of `2 ^ -1074`. -/
def signedUnits (x : Binary64) : Int :=
  if x.negative then -(x.units : Int) else x.units

/-- Order of the numbers, in which the two zeros are level. -/
def below (x y : Binary64) : Bool :=
  x.signedUnits < y.signedUnits

/-- Equality of the numbers, in which the two zeros are equal. -/
def sameValue (x y : Binary64) : Bool :=
  x.signedUnits = y.signedUnits

/-- Whether the number is a zero. -/
def isZero (x : Binary64) : Bool :=
  x.significand = 0

/-- Whether the number has no fractional part. -/
def isIntegral (x : Binary64) : Bool :=
  x.units % unitsPerOne = 0

/-- The size of the integral part. -/
def integralSize (x : Binary64) : Nat :=
  x.units / unitsPerOne

/-- The integral part: the number rounded toward zero. -/
def truncate (x : Binary64) : Int :=
  if x.negative then -(x.integralSize : Int) else x.integralSize

/-- The same size with the other sign. -/
def negate (x : Binary64) : Binary64 :=
  { x with negative := !x.negative }

/-! ## Rounding -/

/-- How far a quotient of this many whole units has to be shifted right to fit 53 bits. -/
def excessBits (whole : Nat) : Nat :=
  whole.log2 - 52

/-- `num / den` units rounded to 53 significant bits, as a significand and a shift. -/
def roundUnits (num den : Nat) : Nat × Nat :=
  let shift := excessBits (num / den)
  let rounded := roundDiv num (den * 2 ^ shift)
  if rounded < 2 ^ 53 then (rounded, shift) else (2 ^ 52, shift + 1)

/-- Shifted right by its excess bits, a number fits 53 bits. -/
theorem div_two_pow_excessBits_lt (whole : Nat) : whole / 2 ^ excessBits whole < 2 ^ 53 := by
  have hlt : whole < 2 ^ (whole.log2 + 1) := Nat.lt_log2_self
  rw [Nat.div_lt_iff_lt_mul (Nat.two_pow_pos _), ← Nat.pow_add]
  refine Nat.lt_of_lt_of_le hlt (Nat.pow_le_pow_right (by decide) ?_)
  unfold excessBits
  omega

/-- A number with excess bits still fills 53 bits once they are shifted out. -/
theorem two_pow_le_div_two_pow_excessBits {whole : Nat} (h : excessBits whole ≠ 0) :
    2 ^ 52 ≤ whole / 2 ^ excessBits whole := by
  have hne : whole ≠ 0 := by
    rintro rfl
    exact h (by simp [excessBits])
  rw [Nat.le_div_iff_mul_le (Nat.two_pow_pos _), ← Nat.pow_add]
  refine Nat.le_trans (Nat.pow_le_pow_right (by decide) ?_) (Nat.log2_self_le hne)
  unfold excessBits at h ⊢
  omega

theorem roundUnits_fst_lt (num den : Nat) : (roundUnits num den).1 < 2 ^ 53 := by
  unfold roundUnits
  dsimp only
  split
  · assumption
  · exact (by decide : 2 ^ 52 < 2 ^ 53)

theorem roundUnits_normal (num den : Nat) :
    (roundUnits num den).2 = 0 ∨ 2 ^ 52 ≤ (roundUnits num den).1 := by
  unfold roundUnits
  dsimp only
  split
  · by_cases h : excessBits (num / den) = 0
    · exact .inl h
    · refine .inr (Nat.le_trans (two_pow_le_div_two_pow_excessBits h) ?_)
      rw [Nat.div_div_eq_div_mul]
      exact div_le_roundDiv _ _
  · exact .inr (Nat.le_refl _)

/-- The double nearest to `num / den`, a tie going to the even significand; none if that is beyond
the greatest finite one. -/
def ofRatio? (negative : Bool) (num den : Nat) : Option Binary64 :=
  let rounded := roundUnits (unitsPerOne * num) den
  if h : rounded.2 ≤ 2045 then
    some ⟨negative, rounded.1, rounded.2, roundUnits_fst_lt _ _, h, roundUnits_normal _ _⟩
  else none

/-- The shift grows by at most one over the excess bits. -/
theorem roundUnits_snd_le (num den : Nat) :
    (roundUnits num den).2 ≤ excessBits (num / den) + 1 := by
  unfold roundUnits
  dsimp only
  split <;> simp

/-- Multiplying by a power of two adds its exponent to the number of bits. -/
theorem log2_twoPow_mul_lt (e : Nat) {n k : Nat} (hk : 0 < k) (h : n < 2 ^ k) :
    (twoPow e * n).log2 < e + k := by
  have hlt : twoPow e * n < 2 ^ (e + k) := by
    rw [twoPow_eq, Nat.pow_add]
    exact Nat.mul_lt_mul_of_pos_left h (Nat.two_pow_pos _)
  by_cases h0 : twoPow e * n = 0
  · simp only [h0, Nat.log2_zero]
    omega
  · exact (Nat.log2_lt h0).2 hlt

/-- The double nearest to an integer of at most 64 bits. -/
def ofInt (n : Int) (h : n.natAbs < 2 ^ 64) : Binary64 :=
  let rounded := roundUnits (unitsPerOne * n.natAbs) 1
  have hshift : rounded.2 ≤ 2045 := by
    refine Nat.le_trans (roundUnits_snd_le _ _) ?_
    have := log2_twoPow_mul_lt 1074 (by decide) h
    simp only [Nat.div_one, excessBits, unitsPerOne]
    omega
  ⟨n < 0, rounded.1, rounded.2, roundUnits_fst_lt _ _, hshift, roundUnits_normal _ _⟩

end Binary64

end Rulebook
