import Mathlib
import Rulebook.Proofs.Coercions.Literals
import Rulebook.Proofs.Numbers.Shortest
/-!
# Coercions — numbers that are printed and read again

A number becomes a text as messages show it: an integer as its digits, a whole double below
`10 ^ 21` likewise, and every other double with its shortest digits, laid out positionally or with
an exponent. Each of these texts is a literal (`Decimal.exists_written_signedDigits`,
`Decimal.writtenSize_write`), and it is read as the double that the number itself is converted to
(`Json.Number.exists_written_plainText`). So the text of a number is converted to a number as the
number is, and that of an integer to the same whole number (`Coercion.Kind.apply_apply_string`).
Whole doubles are no different from integers below `10 ^ 21`, but their texts are cut short from
there on (`Coercion.Kind.apply_int_text_iff`).
-/

namespace Rulebook

/-! ## Literals without a sign -/

namespace Decimal

open Binary64

variable {s ds es sign : List Char} {v : ℚ} {negative : Bool}

/-- Digits after others push these to the left. -/
theorem value_append_append (ds es : List Char) :
    value (ds ++ es) = value ds * 10 ^ es.length + value es := by
  induction es using List.reverseRecOn with
  | nil => simp [value]
  | append_singleton es c ih =>
    rw [← List.append_assoc, value_append, value_append, ih, List.length_append,
      List.length_singleton, pow_succ]
    ring

@[simp]
theorem value_replicate (n : Nat) : value (List.replicate n '0') = 0 := by
  induction n with
  | zero => rfl
  | succ n ih =>
    rw [List.replicate_succ', value_append, ih]
    rfl

theorem isDigit_of_mem_replicate {n : Nat} : ∀ c ∈ List.replicate n '0', c.isDigit = true := by
  intro c hc
  rw [List.eq_of_mem_replicate hc]
  rfl

/-- **A text is a literal without a sign**, of the number that it denotes. -/
inductive WrittenSize : List Char → ℚ → Prop where
  | intro {mantissa mark digits : List Char} {places : Nat} {exponent : ℤ}
    (hmantissa : WrittenMantissa mantissa digits places)
    (hexponent : WrittenExponent mark exponent) :
    WrittenSize (mantissa ++ mark) (value digits * 10 ^ (exponent - places))

/-- With a sign it is a literal of the number with this sign. -/
theorem WrittenSize.exists_written (h : WrittenSize s v) (hsign : WrittenSign sign negative) :
    ∃ d, Written (sign ++ s) d ∧ d.toRat = withSign negative v := by
  obtain ⟨hmantissa, hexponent⟩ := h
  exact ⟨_, .intro hsign hmantissa hexponent, rfl⟩

/-- A mantissa may stand alone. -/
theorem WrittenSize.of_mantissa {mantissa digits : List Char} {places : Nat}
    (h : WrittenMantissa mantissa digits places)
    (hv : (value digits * 10 ^ (-places : ℤ) : ℚ) = v) : WrittenSize mantissa v := by
  have hsize := WrittenSize.intro h .absent
  rwa [List.append_nil, zero_sub, hv] at hsize

/-! ## Layouts -/

/-- The digits of a mantissa with a point after the first one. -/
theorem writtenMantissa_pointed (ds : List Char) : ds ≠ [] → (∀ c ∈ ds, c.isDigit = true) →
    WrittenMantissa (match ds with
      | d :: e :: rest => d :: '.' :: e :: rest
      | ds => ds) ds (ds.length - 1) := by
  intro hne hds
  match ds, hne with
  | [d], _ => exact .whole (by simp) hds
  | d :: e :: rest, _ =>
    rw [List.forall_mem_cons] at hds
    have hfirst : ∀ c ∈ [d], c.isDigit = true := by simpa using hds.1
    exact .pointed (by simp) hfirst hds.2

/-- The exponent of an order of magnitude. -/
theorem writtenExponent_lowered {order : ℤ} (h : order < 0) :
    WrittenExponent (Json.Number.layout.loweredMark ++ digits order.natAbs) order := by
  have hexponent := WrittenExponent.marked (.inl rfl : 'e' = 'e' ∨ 'e' = 'E') .minus
    (digits_ne_nil order.natAbs) fun c hc => isDigit_of_mem_digits hc
  rw [if_pos rfl, value_digits] at hexponent
  have horder : -(order.natAbs : ℤ) = order := by omega
  rwa [horder] at hexponent

theorem writtenExponent_raised {order : ℤ} (h : 0 ≤ order) :
    WrittenExponent (Json.Number.layout.raisedMark ++ digits order.natAbs) order := by
  have hexponent := WrittenExponent.marked (.inl rfl : 'e' = 'e' ∨ 'e' = 'E') .plus
    (digits_ne_nil order.natAbs) fun c hc => isDigit_of_mem_digits hc
  rw [if_neg (by decide), value_digits] at hexponent
  have horder : (order.natAbs : ℤ) = order := by omega
  rwa [horder] at hexponent

/-- Digits with zeros after them, and a point at their end. -/
theorem writtenSize_raised (hne : ds ≠ []) (hds : ∀ c ∈ ds, c.isDigit = true) (n : Nat) :
    WrittenSize (ds ++ List.replicate n '0' ++ ['.', '0']) (value ds * 10 ^ n) := by
  have hall : ∀ c ∈ ds ++ List.replicate n '0', c.isDigit = true := by
    intro c hc
    rcases List.mem_append.1 hc with hc | hc
    · exact hds c hc
    · exact isDigit_of_mem_replicate c hc
  refine .of_mantissa (.pointed (by simp [hne]) hall (by simp)) ?_
  rw [value_append, value_append_append, value_replicate, List.length_replicate]
  push_cast
  simp [digitValue]
  ring

/-- Digits with a point among them. -/
theorem writtenSize_split (hne : ds ≠ []) (hds : ∀ c ∈ ds, c.isDigit = true) {n : Nat}
    (hpos : 0 < n) (hle : n ≤ ds.length) :
    WrittenSize (ds.take n ++ '.' :: ds.drop n) (value ds * 10 ^ ((n : ℤ) - ds.length)) := by
  have htake : ds.take n ≠ [] := by
    rw [ne_eq, List.take_eq_nil_iff]
    rintro (rfl | rfl)
    · exact absurd hpos (by decide)
    · exact hne rfl
  refine .of_mantissa (.pointed htake (fun c hc => hds c (List.mem_of_mem_take hc))
    fun c hc => hds c (List.mem_of_mem_drop hc)) ?_
  rw [List.take_append_drop, List.length_drop, Nat.cast_sub hle, neg_sub]

/-- Digits after a point and zeros. -/
theorem writtenSize_lowered (hds : ∀ c ∈ ds, c.isDigit = true) (n : Nat) :
    WrittenSize ('0' :: '.' :: List.replicate n '0' ++ ds)
      (value ds * 10 ^ (-((n : ℤ) + ds.length))) := by
  have hall : ∀ c ∈ List.replicate n '0' ++ ds, c.isDigit = true := by
    intro c hc
    rcases List.mem_append.1 hc with hc | hc
    · exact isDigit_of_mem_replicate c hc
    · exact hds c hc
  have hmantissa : WrittenMantissa (['0'] ++ '.' :: (List.replicate n '0' ++ ds))
      (['0'] ++ (List.replicate n '0' ++ ds)) (List.replicate n '0' ++ ds).length :=
    .pointed (by simp) (by simp) hall
  have hzero : value ['0'] = 0 := rfl
  refine .of_mantissa hmantissa ?_
  rw [List.length_append, List.length_replicate, value_append_append, value_append_append,
    value_replicate, hzero]
  push_cast
  ring

/-- **What is laid out is a literal** of the number, whether it is written positionally or with an
exponent. -/
theorem writtenSize_write (coefficient : Nat) (exponent : ℤ) :
    WrittenSize (Json.Number.layout.write coefficient exponent) (coefficient * 10 ^ exponent) := by
  have hvalue := value_digits coefficient
  have hne := digits_ne_nil coefficient
  have hds : ∀ c ∈ digits coefficient, c.isDigit = true := fun c hc => isDigit_of_mem_digits hc
  have hlength := List.length_pos_iff.2 hne
  unfold Layout.write
  dsimp only
  generalize digits coefficient = ds at *
  subst hvalue
  split
  · -- positionally, and the point goes after the digits, among them or before them
    split
    · rename_i hwhole
      have hexponent : (10 : ℚ) ^ exponent = 10 ^ exponent.toNat := by
        rw [← zpow_natCast, Int.toNat_of_nonneg hwhole]
      rw [hexponent]
      exact writtenSize_raised hne hds _
    · rename_i hfraction
      split
      · rename_i horder
        have hplaces : exponent = ((exponent + ds.length - 1 + 1).toNat : ℤ) - ds.length := by
          omega
        nth_rewrite 3 [hplaces]
        exact writtenSize_split hne hds (by omega) (by omega)
      · rename_i horder
        have hplaces : exponent =
            -(((-(exponent + ds.length - 1) - 1).toNat : ℤ) + ds.length) := by omega
        nth_rewrite 2 [hplaces]
        exact writtenSize_lowered hds _
  · -- with an exponent, which is the order of the first digit
    have hmantissa := writtenMantissa_pointed ds hne hds
    have horder : exponent + ds.length - 1 - (ds.length - 1 : Nat) = exponent := by omega
    split
    · rename_i hlowered
      have hsize := WrittenSize.intro hmantissa (writtenExponent_lowered hlowered)
      rwa [horder, ← List.append_assoc] at hsize
    · rename_i hraised
      have hsize := WrittenSize.intro hmantissa (writtenExponent_raised (not_lt.1 hraised))
      rwa [horder, ← List.append_assoc] at hsize

/-! ## Numbers -/

/-- The sign of an integer, and its digits. -/
theorem signedDigits_eq (k : ℤ) : ∃ sign, signedDigits k = sign ++ digits k.natAbs ∧
    WrittenSign sign (decide (k < 0)) := by
  unfold signedDigits
  split
  · rename_i hnegative
    rw [decide_eq_true hnegative]
    exact ⟨['-'], rfl, .minus⟩
  · rename_i hnonneg
    rw [decide_eq_false hnonneg]
    exact ⟨[], rfl, .none⟩

/-- The digits of an integer are a literal of it. -/
theorem exists_written_signedDigits (k : ℤ) : ∃ d, Written (signedDigits k) d ∧ d.toRat = k := by
  obtain ⟨sign, hsplit, hsign⟩ := signedDigits_eq k
  have hdigits : WrittenSize (digits k.natAbs) k.natAbs := by
    refine .of_mantissa (.whole (digits_ne_nil _) fun c hc => isDigit_of_mem_digits hc) ?_
    rw [value_digits]
    simp
  obtain ⟨d, hwritten, hvalue⟩ := hdigits.exists_written hsign
  rw [withSign_natAbs] at hvalue
  exact ⟨d, hsplit ▸ hwritten, hvalue⟩

/-- The sign of a double, and its shortest digits. -/
theorem toText_eq {x : Binary64} (hx : x.isZero = false) : ∃ sign,
    x.toText Json.Number.layout = sign ++ Json.Number.layout.write x.shortest.1 x.shortest.2 ∧
      WrittenSign sign x.negative := by
  unfold Binary64.toText
  rw [hx]
  cases x.negative with
  | false => exact ⟨[], rfl, .none⟩
  | true => exact ⟨['-'], rfl, .minus⟩

/-- **The text of a double is a literal that is read as this double.** -/
theorem exists_written_toText {x : Binary64} (hx : x.isZero = false) :
    ∃ d, Written (x.toText Json.Number.layout) d ∧ d.toBinary64? = some x := by
  have hsize := writtenSize_write x.shortest.1 x.shortest.2
  obtain ⟨sign, hsplit, hsign⟩ := toText_eq hx
  obtain ⟨d, hwritten, hvalue⟩ := hsize.exists_written hsign
  exact ⟨d, hsplit ▸ hwritten, toBinary64?_shortest hx hvalue⟩

end Decimal

namespace Json.Number

open Binary64

/-- **A whole number below `10 ^ 21` is written as an integer**, whatever its kind, and zero without
a sign. -/
theorem plainText_of_toRat_eq {n : Number} {k : ℤ} (h : n.toRat = k) (hk : k.natAbs < 10 ^ 21) :
    n.plainText = Decimal.signedDigits k := by
  cases n with
  | int m hrange =>
    obtain rfl : m = k := Int.cast_injective h
    rfl
  | float x =>
    have hwhole := isIntegral_of_toRat_eq h
    have hunits := units_of_toRat_eq h
    have hsize : x.integralSize = k.natAbs := by
      rw [integralSize, hunits, Nat.mul_div_cancel_left _ unitsPerOne_pos]
    have htruncate : x.truncate = k := by
      have hcast := (toRat_eq_truncate hwhole).symm.trans h
      exact_mod_cast hcast
    by_cases hzero : x.isZero = true
    · obtain rfl : k = 0 := by
        have hx : x.toRat = k := h
        rw [toRat_of_isZero hzero] at hx
        exact_mod_cast hx.symm
      simp only [plainText, plainFloatText, if_pos hzero]
      rfl
    · simp only [plainText, plainFloatText, if_neg hzero, if_pos (And.intro hwhole (hsize ▸ hk)),
        htruncate]

/-- The doubles of one number are written back as one number. -/
theorem ofBinary64_congr {x y : Binary64} (h : x.toRat = y.toRat) :
    ofBinary64 x = ofBinary64 y := by
  cases hzero : x.isZero with
  | false => rw [eq_of_toRat_eq hzero h]
  | true =>
    have hx : x.toRat = (0 : ℤ) := by rw [toRat_of_isZero hzero, Int.cast_zero]
    obtain ⟨_, hxint⟩ := ofBinary64_of_toRat_eq hx (by decide)
    obtain ⟨_, hyint⟩ := ofBinary64_of_toRat_eq (h ▸ hx) (by decide)
    rw [hxint, hyint]

/-- Every other number is a double, and is written with its shortest digits. -/
theorem exists_plainText_eq_toText {n : Number} (h : ∀ k : ℤ, n.toRat = k → 10 ^ 21 ≤ k.natAbs) :
    ∃ x, n = .float x ∧ x.isZero = false ∧ n.plainText = x.toText layout := by
  cases n with
  | int m hrange =>
    have hsmall := natAbs_lt_of_inRange hrange
    have hlarge := h m rfl
    omega
  | float x =>
    have hzero : x.isZero = false := by
      by_contra hzero
      rw [Bool.not_eq_false] at hzero
      have hx : x.toRat = (0 : ℤ) := by rw [toRat_of_isZero hzero, Int.cast_zero]
      exact absurd (h 0 hx) (by decide)
    have hlayout : ¬ (x.isIntegral = true ∧ x.integralSize < 10 ^ 21) := by
      rintro ⟨hwhole, hsmall⟩
      have hlarge := h x.truncate (toRat_eq_truncate hwhole)
      rw [natAbs_truncate] at hlarge
      omega
    refine ⟨x, rfl, hzero, ?_⟩
    simp only [plainText, plainFloatText, hzero, if_neg hlayout]
    rfl

/-- A number below `10 ^ 21` is not beyond the doubles. -/
theorem lt_limit_of_natAbs_lt {k : ℤ} (h : k.natAbs < 10 ^ 21) : |(k : ℚ)| < limit := by
  have hcast : |(k : ℚ)| < 10 ^ 21 := by
    rw [← Int.cast_abs, ← Nat.cast_natAbs]
    exact_mod_cast h
  have htop : (twoPow 20 : ℚ) ≤ twoPow 970 := by exact_mod_cast twoPow_le (by decide)
  rw [twoPow_eq 20] at htop
  push_cast at htop
  unfold limit
  linarith

/-- **The text of a number is a literal**, and it is read as the double that the number itself is
converted to. -/
theorem exists_written_plainText (n : Number) : ∃ d x, Decimal.Written n.plainText d ∧
    d.toBinary64? = some x ∧ x.toRat = n.toBinary64.toRat := by
  by_cases hwhole : ∃ k : ℤ, n.toRat = k ∧ k.natAbs < 10 ^ 21
  · -- rounding the digits is rounding the integer
    obtain ⟨k, hk, hlt⟩ := hwhole
    obtain ⟨d, hwritten, hvalue⟩ := Decimal.exists_written_signedDigits k
    have hnearest := n.nearest_toBinary64
    have hrounds := Decimal.rounds_toBinary64? d
    rw [hk] at hnearest
    rw [hvalue] at hrounds
    rw [plainText_of_toRat_eq hk hlt]
    generalize hread : d.toBinary64? = read at hrounds
    cases hrounds with
    | @finite y _ _ hy => exact ⟨d, y, hwritten, hread, hy.toRat_unique hnearest⟩
    | infinite hle => exact absurd (lt_limit_of_natAbs_lt hlt) (not_lt.2 hle)
  · push Not at hwhole
    obtain ⟨x, rfl, hzero, htext⟩ := exists_plainText_eq_toText hwhole
    obtain ⟨d, hwritten, hread⟩ := Decimal.exists_written_toText hzero
    rw [htext]
    exact ⟨d, x, hwritten, hread, rfl⟩

end Json.Number

/-! ## Converting a text that was made of a number -/

namespace Coercion.Kind

open Binary64 Text

variable {n : Json.Number}

theorem apply_string_number (n : Json.Number) :
    string.apply (.number n) = .string (String.ofList n.plainText) := rfl

/-- A number is the same whether it is converted itself or its text is. -/
theorem apply_number_text (n : Json.Number) :
    number.apply (string.apply (.number n)) = number.apply (.number n) := by
  obtain ⟨d, x, hwritten, hread, hvalue⟩ := n.exists_written_plainText
  have hliteral : literal? (trim (String.ofList n.plainText).toList) = some x := by
    rw [String.toList_ofList, (Json.Number.solid_plainText n).trim_eq, literal?_of_written hwritten,
      hread]
  rw [apply_string_number, apply_number_of_literal? hliteral]
  simp only [apply, toNumber, Json.Number.ofBinary64_congr hvalue]

/-- A whole number below `10 ^ 21` is the same whole number, whether it is converted itself or its
text is. -/
theorem apply_int_text {k : ℤ} (h : n.toRat = k) (hk : k.natAbs < 10 ^ 21) :
    int.apply (string.apply (.number n)) = int.apply (.number n) := by
  obtain ⟨sign, hsplit, hsign⟩ := Decimal.signedDigits_eq k
  have hstart : StartsWith (String.ofList n.plainText).toList (k < 0)
      (Decimal.digits k.natAbs) := by
    rw [String.toList_ofList, Json.Number.plainText_of_toRat_eq h hk, hsplit]
    exact startsWith_digits hsign _
  have hvalue : withSign (k < 0) (Decimal.value (Decimal.digits k.natAbs)) = k := by
    rw [Decimal.value_digits, withSign_natAbs]
  have hlimit : (Decimal.value (Decimal.digits k.natAbs) : ℚ) < limit := by
    rw [← abs_withSign_natCast (k < 0), hvalue]
    exact Json.Number.lt_limit_of_natAbs_lt hk
  obtain ⟨x, hx, hresult⟩ := apply_int_digits hstart (Decimal.digits_ne_nil _) hlimit
  have hnearest := n.nearest_toBinary64
  rw [hvalue] at hx
  rw [h] at hnearest
  rw [apply_string_number, hresult]
  simp only [apply, toInt, wholeOf_eq_ofBinary64 (Json.Number.isIntegral_toBinary64 h),
    Json.Number.ofBinary64_congr (hx.toRat_unique hnearest)]

/-! ## Where a text has an exponent -/

/-- From `10 ^ 21` on a double has more digits than are written positionally. -/
theorem lt_order_of_le {x : Binary64} (hx : x.isZero = false) (h : 10 ^ 21 ≤ |x.toRat|) :
    15 < x.shortest.2 + (Decimal.digits x.shortest.1).length - 1 := by
  have hle := ((fits_shortest hx).nearest hx).abs_toRat_le
  have hsize : (0 : ℚ) ≤ x.shortest.1 * 10 ^ x.shortest.2 := by positivity
  rw [abs_withSign, abs_of_nonneg hsize] at hle
  have hdigits := Decimal.lt_ten_pow_length_digits x.shortest.1
  generalize x.shortest.1 = c at *
  generalize x.shortest.2 = e at *
  generalize (Decimal.digits c).length = length at *
  by_contra hsmall
  have hcast : (c : ℚ) < 10 ^ length := by exact_mod_cast hdigits
  have hbound : (c * 10 ^ e : ℚ) ≤ 10 ^ 16 := by
    calc (c * 10 ^ e : ℚ) ≤ 10 ^ length * 10 ^ e :=
          mul_le_mul_of_nonneg_right hcast.le (by positivity)
      _ = 10 ^ ((length : ℤ) + e) := by rw [zpow_add₀ (by norm_num), zpow_natCast]
      _ ≤ 10 ^ (16 : ℤ) := zpow_le_zpow_right₀ (by norm_num) (by omega)
      _ = 10 ^ 16 := by norm_num
  norm_num at h hbound
  linarith

/-- Then only the first digit stands before the point or the exponent. -/
theorem exists_write_eq {c : Nat} {e : ℤ} (h : 15 < e + (Decimal.digits c).length - 1) :
    ∃ d rest, Json.Number.layout.write c e = d :: rest ∧ d.isDigit = true ∧
      ∀ b, rest.head? = some b → b.isDigit = false := by
  have hne := Decimal.digits_ne_nil c
  have hds : ∀ d ∈ Decimal.digits c, d.isDigit = true := fun d hd =>
    Decimal.isDigit_of_mem_digits hd
  have hexponent : ¬ (Json.Number.layout.leastPositional ≤ e + (Decimal.digits c).length - 1 ∧
      e + (Decimal.digits c).length - 1 ≤ Json.Number.layout.mostPositional) :=
    fun hpositional => absurd hpositional.2 (not_le.2 h)
  have hraised : ¬ (e + (Decimal.digits c).length - 1 < 0) := by omega
  unfold Decimal.Layout.write
  dsimp only
  rw [if_neg hexponent, if_neg hraised]
  generalize Decimal.digits c = ds at *
  match ds, hne with
  | [d], _ => exact ⟨d, _, rfl, hds d (by simp), fun b hb => Option.some.inj hb ▸ rfl⟩
  | d :: e :: tail, _ => exact ⟨d, _, rfl, hds d (by simp), fun b hb => Option.some.inj hb ▸ rfl⟩

/-- So the text of such a double starts with one digit. -/
theorem exists_startsWith_toText {x : Binary64} (hx : x.isZero = false) (h : 10 ^ 21 ≤ |x.toRat|) :
    ∃ d, d.isDigit = true ∧ StartsWith (x.toText Json.Number.layout) x.negative [d] := by
  obtain ⟨sign, hsplit, hsign⟩ := Decimal.toText_eq hx
  obtain ⟨d, rest, hwrite, hd, hrest⟩ := exists_write_eq (lt_order_of_le hx h)
  have hdigits : ∀ c ∈ [d], c.isDigit = true := by simpa using hd
  refine ⟨d, hd, ?_⟩
  rw [hsplit, hwrite]
  exact startsWith_append hsign (List.cons_ne_nil _ _) hdigits hrest

/-- **A whole number is the same whether it is converted itself or its text is, exactly below
`10 ^ 21`**. From there on the text has an exponent, and only the digit before it is read. -/
theorem apply_int_text_iff {k : ℤ} (h : n.toRat = k) :
    int.apply (string.apply (.number n)) = int.apply (.number n) ↔ k.natAbs < 10 ^ 21 := by
  refine ⟨fun hsame => ?_, apply_int_text h⟩
  by_contra hlarge
  have hcast : (10 ^ 21 : ℚ) ≤ |(k : ℚ)| := by
    rw [← Int.cast_abs, ← Nat.cast_natAbs]
    exact_mod_cast not_lt.1 hlarge
  obtain ⟨x, rfl, hzero, htext⟩ := Json.Number.exists_plainText_eq_toText (n := n) fun m hm => by
    obtain rfl : m = k := Int.cast_injective (hm.symm.trans h)
    exact not_lt.1 hlarge
  have hx : x.toRat = k := h
  rw [← hx] at hcast
  obtain ⟨d, hd, hstart⟩ := exists_startsWith_toText hzero hcast
  have hdigit : ((Decimal.value [d] : Nat) : ℚ) ≤ 9 := by
    have hnine : Decimal.value [d] ≤ 9 := by
      simpa [Decimal.value] using Decimal.digitValue_le_nine hd
    exact_mod_cast hnine
  have hlimit : (9 : ℚ) < limit := by
    have h := @Json.Number.lt_limit_of_natAbs_lt 9 (by decide)
    simpa using h
  rw [← htext, ← @String.toList_ofList (Json.Number.plainText _)] at hstart
  obtain ⟨y, hy, hread⟩ := apply_int_digits hstart (List.cons_ne_nil _ _)
    (lt_of_le_of_lt hdigit hlimit)
  -- what is read is below twenty
  have hsmall := hy.abs_toRat_le
  rw [abs_withSign_natCast] at hsmall
  have hself : int.apply (.number (.float x)) = .number (.ofBinary64 x) :=
    congrArg Json.number (wholeOf_eq_ofBinary64 (Json.Number.isIntegral_of_toRat_eq hx))
  rw [apply_string_number, hread, hself, Json.number.injEq] at hsame
  have hequal : y.toRat = x.toRat := by
    rw [← Json.Number.toRat_ofBinary64 y, hsame, Json.Number.toRat_ofBinary64]
  rw [hequal] at hsmall
  norm_num at hcast
  linarith

/-- **A conversion to text loses nothing of a number that a conversion to a number keeps**, and
nothing of an integer that a conversion to a whole number keeps. -/
theorem apply_apply_string :
    (∀ n : Json.Number, number.apply (string.apply (.number n)) = number.apply (.number n)) ∧
      ∀ (k : ℤ) (h : Json.InRange k),
        int.apply (string.apply (.number (.int k h))) = int.apply (.number (.int k h)) := by
  refine ⟨apply_number_text, fun k h => apply_int_text rfl ?_⟩
  have hsmall := Json.Number.natAbs_lt_of_inRange h
  omega

/-- An integer that is no double is written with all its digits, and rounded only when they are
read. -/
theorem apply_apply_string_next : Json.InRange (2 ^ 53 + 1) ∧
    string.apply (.number (.int (2 ^ 53 + 1) (by decide))) = .string "9007199254740993" ∧
      number.apply (.string "9007199254740993") =
        .number (.float (ofInt (2 ^ 53) (by decide))) ∧
      int.apply (.string "9007199254740993") =
        .number (.float (ofInt (2 ^ 53) (by decide))) := by
  have hrange : Json.InRange (2 ^ 53 + 1) := by decide
  have htext : string.apply (.number (.int (2 ^ 53 + 1) (by decide))) =
      .string "9007199254740993" := congrArg Json.string (by decide +kernel)
  have hround : ofInt (2 ^ 53 + 1) (by decide) = ofInt (2 ^ 53) (by decide) := by decide +kernel
  have hlarge : Json.Number.exactBound ≤ (ofInt (2 ^ 53) (by decide)).integralSize := by
    decide +kernel
  have hnumber := apply_apply_string.1 (.int (2 ^ 53 + 1) hrange)
  have hint := apply_apply_string.2 (2 ^ 53 + 1) hrange
  rw [htext] at hnumber hint
  refine ⟨hrange, htext, ?_, ?_⟩
  · rw [hnumber]
    simp only [apply, toNumber, Json.Number.toBinary64, hround,
      Json.Number.ofBinary64_of_exactBound_le hlarge]
  · rw [hint]
    simp only [apply, toInt, Json.Number.toBinary64, hround, wholeOf, dif_neg (not_lt.2 hlarge)]

end Coercion.Kind

end Rulebook
