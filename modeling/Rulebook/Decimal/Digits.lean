import Rulebook.Binary64
/-!
# Decimal digits

The decimal digits of a natural number, most significant first (`Decimal.digits`), and the number
that a run of digits writes (`Decimal.value`). Reading back what is written is the identity
(`Decimal.value_digits`), and every character written is an ASCII digit
(`Decimal.isDigit_of_mem_digits`).
-/

namespace Rulebook

namespace Decimal

/-- The character of a digit below ten. -/
def digitChar (d : Nat) : Char :=
  Char.ofNat (48 + d)

/-- The digit that a character writes, counted from `'0'`. -/
def digitValue (c : Char) : Nat :=
  c.toNat - 48

/-- The digits of `n`, least significant first, in at most `bound` steps. -/
def reversedDigits : (bound n : Nat) → List Char
  | 0, _ => []
  | bound + 1, n =>
    if n < 10 then [digitChar n] else digitChar (n % 10) :: reversedDigits bound (n / 10)

/-- The digits of `n`, most significant first; zero is written `0`. -/
def digits (n : Nat) : List Char :=
  (reversedDigits (n.log2 + 1) n).reverse

/-- The digits of `n` as text. -/
def text (n : Nat) : String :=
  String.ofList (digits n)

/-- The number that a run of digits writes; the empty run is zero. -/
def value (ds : List Char) : Nat :=
  ds.foldl (fun n c => 10 * n + digitValue c) 0

/-- The digits of an integer, with a minus sign below zero. -/
def signedDigits (n : Int) : List Char :=
  if n < 0 then '-' :: digits n.natAbs else digits n.natAbs

/-! ## Laws -/

/-- The ASCII digits are ten characters in a row. -/
theorem isDigit_iff {c : Char} : c.isDigit = true ↔ 48 ≤ c.toNat ∧ c.toNat ≤ 57 := by
  rw [Char.isDigit, Bool.and_eq_true, decide_eq_true_eq, decide_eq_true_eq, ge_iff_le,
    UInt32.le_iff_toNat_le, UInt32.le_iff_toNat_le]
  exact Iff.rfl

theorem toNat_digitChar {d : Nat} (h : d < 10) : (digitChar d).toNat = 48 + d := by
  have : ∀ d < 10, (digitChar d).toNat = 48 + d := by decide
  exact this d h

/-- Every digit is one of ten characters. -/
theorem exists_digitChar {c : Char} (h : c.isDigit = true) : ∃ d < 10, c = digitChar d := by
  obtain ⟨hlow, hhigh⟩ := isDigit_iff.1 h
  refine ⟨c.toNat - 48, by omega, ?_⟩
  have hself : 48 + (c.toNat - 48) = c.toNat := by omega
  rw [digitChar, hself, Char.ofNat_toNat]

theorem digitValue_digitChar {d : Nat} (h : d < 10) : digitValue (digitChar d) = d := by
  have : ∀ d, d < 10 → digitValue (digitChar d) = d := by decide
  exact this d h

theorem isDigit_digitChar {d : Nat} (h : d < 10) : (digitChar d).isDigit = true := by
  have : ∀ d, d < 10 → (digitChar d).isDigit = true := by decide
  exact this d h

theorem value_append (xs : List Char) (c : Char) :
    value (xs ++ [c]) = 10 * value xs + digitValue c := by
  simp [value]

theorem value_reverse_reversedDigits (bound n : Nat) (h : n < 2 ^ bound) (hb : 0 < bound) :
    value (reversedDigits bound n).reverse = n := by
  induction bound generalizing n with
  | zero => omega
  | succ bound ih =>
    unfold reversedDigits
    split
    · next h10 => simp [value, digitValue_digitChar h10]
    · next h10 =>
      have hbound : 0 < bound := by
        rcases Nat.eq_zero_or_pos bound with rfl | hp
        · omega
        · exact hp
      have hlt : n / 10 < 2 ^ bound := by
        rw [Nat.pow_succ] at h
        omega
      simp only [List.reverse_cons, value_append, ih _ hlt hbound,
        digitValue_digitChar (Nat.mod_lt n (by decide : 0 < 10))]
      omega

/-- **Writing and reading back is the identity.** -/
theorem value_digits (n : Nat) : value (digits n) = n :=
  value_reverse_reversedDigits _ _ Nat.lt_log2_self (Nat.succ_pos _)

theorem isDigit_of_mem_reversedDigits {bound n : Nat} {c : Char}
    (h : c ∈ reversedDigits bound n) : c.isDigit = true := by
  induction bound generalizing n with
  | zero => simp [reversedDigits] at h
  | succ bound ih =>
    unfold reversedDigits at h
    split at h
    · next h10 =>
      rw [List.mem_singleton.1 h]
      exact isDigit_digitChar h10
    · rcases List.mem_cons.1 h with rfl | h
      · exact isDigit_digitChar (Nat.mod_lt n (by decide))
      · exact ih h

/-- Only ASCII digits are written. -/
theorem isDigit_of_mem_digits {n : Nat} {c : Char} (h : c ∈ digits n) : c.isDigit = true :=
  isDigit_of_mem_reversedDigits (List.mem_reverse.1 h)

/-- Different numbers are written differently. -/
theorem text_inj {m n : Nat} : text m = text n ↔ m = n := by
  refine ⟨fun h => ?_, congrArg text⟩
  have hd : digits m = digits n := String.ofList_injective h
  rw [← value_digits m, ← value_digits n, hd]

/-- The digits do not depend on the bound of the steps. -/
theorem reversedDigits_eq {n bound bound' : Nat} (h : n < 2 ^ bound) (h' : n < 2 ^ bound')
    (hb : 0 < bound) (hb' : 0 < bound') : reversedDigits bound n = reversedDigits bound' n := by
  induction bound generalizing n bound' with
  | zero => omega
  | succ bound ih =>
    obtain ⟨bound', rfl⟩ := Nat.exists_eq_succ_of_ne_zero (Nat.ne_of_gt hb')
    unfold reversedDigits
    split
    next => rfl
    next hten =>
      have hpos : ∀ b, n < 2 ^ (b + 1) → 0 < b := by
        intro b hlt
        rcases Nat.eq_zero_or_pos b with rfl | hpos
        · omega
        · exact hpos
      have hrest := hpos bound h
      have hrest' := hpos bound' h'
      rw [Nat.pow_succ] at h h'
      rw [ih (by omega) (by omega) hrest hrest']

/-- A number of one digit. -/
theorem digits_of_lt {n : Nat} (h : n < 10) : digits n = [digitChar n] := by
  rw [digits, reversedDigits, if_pos h, List.reverse_singleton]

/-- One digit more. -/
theorem digits_snoc {n d : Nat} (hn : 0 < n) (hd : d < 10) :
    digits (10 * n + d) = digits n ++ [digitChar d] := by
  have hrest : (10 * n + d) / 10 = n := by omega
  have hlast : (10 * n + d) % 10 = d := by omega
  have hbound : 10 * n + d < 2 ^ ((10 * n + d).log2 + 1) := Nat.lt_log2_self
  rw [Nat.pow_succ] at hbound
  have hlog : 0 < (10 * n + d).log2 := by
    rcases Nat.eq_zero_or_pos (10 * n + d).log2 with hzero | hpos
    · rw [hzero] at hbound
      omega
    · exact hpos
  rw [digits, reversedDigits, if_neg (by omega), hrest, hlast, List.reverse_cons, digits,
    reversedDigits_eq (by omega) Nat.lt_log2_self hlog (Nat.succ_pos _)]

/-- At least one digit is written. -/
theorem digits_ne_nil (n : Nat) : digits n ≠ [] := by
  unfold digits reversedDigits
  split <;> simp

/-- The digits are those of the library. -/
theorem digits_eq_toDigits (n : Nat) : digits n = Nat.toDigits 10 n := by
  have hdigit : ∀ d < 10, digitChar d = Nat.digitChar d := by decide
  induction n using Nat.strongRecOn with
  | ind n ih =>
    rcases Nat.lt_or_ge n 10 with hlt | hge
    · rw [digits_of_lt hlt, Nat.toDigits_of_lt_base hlt, hdigit n hlt]
    · have hsplit := digits_snoc (n := n / 10) (d := n % 10) (by omega) (by omega)
      rw [Nat.div_add_mod] at hsplit
      rw [hsplit, Nat.toDigits_of_base_le (by decide) hge, ih (n / 10) (by omega),
        hdigit _ (by omega)]

/-- So is the text. -/
theorem text_eq_toString (n : Nat) : text n = toString n := by
  rw [text, digits_eq_toDigits]
  rfl

end Decimal

end Rulebook
