import Rulebook.Checker.Url
import Rulebook.Proofs.Numbers.Denotation
import Rulebook.Proofs.Patterns.Parts
/-!
# URLs — addresses of four numbers

The numbers of an address are read by expressions over digits. Each one of them that takes no leading
zero writes the numbers of an interval (`Url.Writes`), and intervals are put together digit by digit
and side by side. So an address can be read if its numbers lie in certain intervals
(`Url.mem_language_address_iff`), and the private ones among the addresses are those of five networks
(`Url.isPrivate_iff`).
-/

namespace Rulebook

namespace Url

open Pattern (Expr)
open Formats (char digit optional times)
open Decimal (digits digitChar value digits_of_lt digits_snoc toNat_digitChar)

variable {l m : Language Char} {e : Expr} {w : List Char} {c : Char}

/-! ## Intervals -/

/-- **A language writes the numbers of an interval**, each one without a leading zero. -/
def Writes (l : Language Char) (least most : Nat) : Prop :=
  ∀ w, w ∈ l ↔ ∃ n, least ≤ n ∧ n ≤ most ∧ w = digits n

variable {low high least most mid : Nat}

/-- One digit. -/
theorem writes_one (low high : Nat) (hdigit : high < 10) :
    Writes (Expr.one (.range (0x30 + low) (0x30 + high))).language low high := by
  intro w
  simp only [Expr.mem_language_one, CodeSet.contains_range_iff]
  constructor
  · rintro ⟨c, ⟨hle, hge⟩, rfl⟩
    refine ⟨c.toNat - 0x30, by omega, by omega, ?_⟩
    have hself : 48 + (c.toNat - 0x30) = c.toNat := by omega
    rw [digits_of_lt (by omega), digitChar, hself, Char.ofNat_toNat]
  · rintro ⟨n, hle, hge, rfl⟩
    refine ⟨digitChar n, ?_, digits_of_lt (by omega)⟩
    rw [toNat_digitChar (by omega)]
    omega

/-- **One digit more**: any digit, or some digits after a single number. -/
theorem Writes.mul (hl : Writes l least most) (hm : Writes m low high) (hpos : 0 < least)
    (hdigit : high < 10) (hall : least = most ∨ low = 0 ∧ high = 9) :
    Writes (l * m) (10 * least + low) (10 * most + high) := by
  intro w
  rw [Language.mem_mul]
  constructor
  · rintro ⟨u, hu, v, hv, rfl⟩
    obtain ⟨n, hle, hge, rfl⟩ := (hl u).1 hu
    obtain ⟨d, hle', hge', rfl⟩ := (hm v).1 hv
    refine ⟨10 * n + d, by omega, by omega, ?_⟩
    rw [digits_snoc (by omega) (by omega), digits_of_lt (by omega : d < 10)]
  · rintro ⟨n, hle, hge, rfl⟩
    refine ⟨digits (n / 10), (hl _).2 ⟨n / 10, by omega, by omega, rfl⟩, digits (n % 10),
      (hm _).2 ⟨n % 10, by omega, by omega, rfl⟩, ?_⟩
    rw [digits_of_lt (by omega : n % 10 < 10), ← digits_snoc (by omega) (by omega), Nat.div_add_mod]

/-- Two intervals side by side. -/
theorem Writes.add (hl : Writes l least mid) (hm : Writes m (mid + 1) most) (hle : least ≤ mid + 1)
    (hge : mid ≤ most) : Writes (l + m) least most := by
  intro w
  rw [Language.mem_add, hl w, hm w]
  constructor
  · rintro (⟨n, hn, hn', rfl⟩ | ⟨n, hn, hn', rfl⟩)
    · exact ⟨n, by omega, by omega, rfl⟩
    · exact ⟨n, by omega, by omega, rfl⟩
  · rintro ⟨n, hn, hn', rfl⟩
    rcases Nat.lt_or_ge mid n with hlt | hle'
    · exact .inr ⟨n, by omega, by omega, rfl⟩
    · exact .inl ⟨n, by omega, by omega, rfl⟩

/-! ## The numbers of an address -/

theorem writes_digit : Writes digit.language 0 9 :=
  writes_one 0 9 (by decide)

theorem writes_char_two : Writes (char '2').language 2 2 :=
  writes_one 2 2 (by decide)

theorem writes_tens : Writes tens.language 1 99 := by
  have hfirst : Writes (Expr.one (.range 0x31 0x39)).language 1 9 :=
    writes_one 1 9 (by decide)
  have htwo := hfirst.mul writes_digit (by omega) (by omega) (.inr ⟨rfl, rfl⟩)
  have hboth := hfirst.add htwo (by omega) (by omega)
  rwa [← mul_one_add, ← Formats.language_optional] at hboth

theorem writes_hundreds : Writes hundreds.language 100 199 := by
  have hfirst : Writes (char '1').language 1 1 := writes_one 1 1 (by decide)
  have htwo := hfirst.mul writes_digit (by omega) (by omega) (.inl rfl)
  have hthree := htwo.mul writes_digit (by omega) (by omega) (.inr ⟨rfl, rfl⟩)
  rwa [← Expr.language_three] at hthree

/-- From two hundred up to some tens. -/
theorem writes_twoHundreds (last : Nat) (hlast : last < 10) :
    Writes (Expr.sequence [char '2', .one (.range 0x30 (0x30 + last)), digit]).language 200
      (209 + 10 * last) := by
  have hten : Writes (Expr.one (.range 0x30 (0x30 + last))).language 0 last :=
    writes_one 0 last hlast
  have htwo := writes_char_two.mul hten (by omega) hlast (.inl rfl)
  have hthree := htwo.mul writes_digit (by omega) (by omega) (.inr ⟨rfl, rfl⟩)
  have hhigh : 10 * (10 * 2 + last) + 9 = 209 + 10 * last := by omega
  rwa [← Expr.language_three, hhigh] at hthree

/-- Two hundred and some tens, with a few more. -/
theorem writes_upTo (ten last : Nat) (hten : ten < 10) (hlast : last < 10) :
    Writes (upTo ['2', digitChar ten] last).language (200 + 10 * ten) (200 + 10 * ten + last) := by
  have htens : Writes (char (digitChar ten)).language ten ten := by
    rw [char, CodeSet.single, toNat_digitChar hten]
    exact writes_one ten ten hten
  have hones : Writes (Expr.one (.range 0x30 (0x30 + last))).language 0 last :=
    writes_one 0 last hlast
  have htwo := writes_char_two.mul htens (by omega) hten (.inl rfl)
  have hthree := htwo.mul hones (by omega) hlast (.inl rfl)
  have hlow : 10 * (10 * 2 + ten) + 0 = 200 + 10 * ten := by omega
  have hhigh : 10 * (10 * 2 + ten) + last = 200 + 10 * ten + last := by omega
  rw [← Expr.language_three, hlow, hhigh] at hthree
  exact hthree

/-- **The first number of an address.** -/
theorem writes_firstNumber : Writes firstNumber.language 1 223 := by
  have hupper := (writes_twoHundreds 1 (by decide)).add (writes_upTo 2 3 (by decide) (by decide))
    (by omega) (by omega)
  exact writes_tens.add (writes_hundreds.add hupper (by omega) (by omega)) (by omega) (by omega)

/-- **The last number of an address.** -/
theorem writes_lastNumber : Writes lastNumber.language 1 254 := by
  have hupper := (writes_twoHundreds 4 (by decide)).add (writes_upTo 5 4 (by decide) (by decide))
    (by omega) (by omega)
  exact writes_tens.add (writes_hundreds.add hupper (by omega) (by omega)) (by omega) (by omega)

/-- **A number in the middle of an address is written** with one or two digits, with `1` and two
digits, or as a number from 200 to 255. -/
def IsMiddle (w : List Char) : Prop :=
  w.length ≤ 2 ∨ (w.length = 3 ∧ w.head? = some '1') ∨ ∃ n, 200 ≤ n ∧ n ≤ 255 ∧ w = digits n

/-- One or two digits, or three of them that start with `1`. -/
theorem mem_language_short_iff (hne : w ≠ []) (hw : ∀ c ∈ w, c.isDigit = true) :
    w ∈ (Expr.seq (optional (char '1')) (.repetition digit 1 (some 2))).language ↔
      w.length ≤ 2 ∨ w.length = 3 ∧ w.head? = some '1' := by
  simp only [Expr.mem_language_seq, Formats.mem_language_optional, Formats.mem_language_char, digit,
    Expr.mem_language_repetition_one, Formats.contains_digits_iff]
  constructor
  · rintro ⟨u, hu, v, ⟨hleast, hmost, -⟩, rfl⟩
    have hlength : v.length ≤ 2 := by
      have := hmost 2 rfl
      omega
    rcases hu with rfl | rfl
    · exact .inl hlength
    · rw [List.length_append, List.length_singleton]
      rcases Nat.lt_or_ge v.length 2 with hlt | hge
      · exact .inl (by omega)
      · exact .inr ⟨by omega, rfl⟩
  · have hpos : 1 ≤ w.length := List.length_pos_iff.2 hne
    rintro (hshort | ⟨hlength, hhead⟩)
    · refine ⟨[], .inl rfl, w, ⟨hpos, fun m hm => ?_, hw⟩, rfl⟩
      obtain rfl := Option.some.inj hm
      omega
    · obtain ⟨rest, rfl⟩ := List.head?_eq_some_iff.1 hhead
      rw [List.length_cons] at hlength
      refine ⟨['1'], .inr rfl, rest, ⟨by omega, fun m hm => ?_, fun c hc => ?_⟩, rfl⟩
      · obtain rfl := Option.some.inj hm
        omega
      · exact hw c (List.mem_cons_of_mem _ hc)

theorem mem_language_middleNumber_iff (hne : w ≠ []) (hw : ∀ c ∈ w, c.isDigit = true) :
    w ∈ middleNumber.language ↔ IsMiddle w := by
  have hupper := (writes_twoHundreds 4 (by decide)).add (writes_upTo 5 5 (by decide) (by decide))
    (by omega) (by omega)
  have hsplit : w ∈ middleNumber.language ↔
      w ∈ (Expr.seq (optional (char '1')) (.repetition digit 1 (some 2))).language ∨
        ∃ n, 200 ≤ n ∧ n ≤ 255 ∧ w = digits n := by
    rw [← hupper w]
    exact Language.mem_add _ _ _
  rw [hsplit, mem_language_short_iff hne hw, or_assoc, IsMiddle]

/-- Such a number is a run of digits. -/
theorem digits_of_mem_middleNumber (h : w ∈ middleNumber.language) :
    w ≠ [] ∧ ∀ c ∈ w, c.isDigit = true := by
  have hupper := (writes_twoHundreds 4 (by decide)).add (writes_upTo 5 5 (by decide) (by decide))
    (by omega) (by omega)
  rcases (Language.mem_add _ _ _).1 h with hshort | hlong
  · simp only [Expr.mem_language_seq, Formats.mem_language_optional, Formats.mem_language_char, digit,
      Expr.mem_language_repetition_one, Formats.contains_digits_iff] at hshort
    obtain ⟨u, hu, v, ⟨hleast, -, hv⟩, rfl⟩ := hshort
    have hne : v ≠ [] := List.length_pos_iff.1 hleast
    refine ⟨by simp [hne], fun c hc => ?_⟩
    rcases List.mem_append.1 hc with hc | hc
    · rcases hu with rfl | rfl
      · cases hc
      · rw [List.mem_singleton.1 hc]
        rfl
    · exact hv c hc
  · obtain ⟨n, -, -, rfl⟩ := (hupper w).1 hlong
    exact ⟨Decimal.digits_ne_nil n, fun _ => Decimal.isDigit_of_mem_digits⟩

/-- Such a number is an octet. -/
theorem IsMiddle.value_le (h : IsMiddle w) (hw : ∀ c ∈ w, c.isDigit = true) : value w ≤ 255 := by
  rcases h with hshort | ⟨hlength, hhead⟩ | ⟨n, -, hle, rfl⟩
  · have hvalue := Decimal.value_lt_ten_pow hw
    have hpow : 10 ^ w.length ≤ 10 ^ 2 := Nat.pow_le_pow_right (by decide) hshort
    omega
  · obtain ⟨rest, rfl⟩ := List.head?_eq_some_iff.1 hhead
    obtain ⟨x, y, rfl⟩ := List.length_eq_two.1 (Nat.succ.inj hlength)
    have hx := Decimal.digitValue_le_nine (hw x (by simp))
    have hy := Decimal.digitValue_le_nine (hw y (by simp))
    have hvalue : value ['1', x, y] = 10 * (10 * 1 + Decimal.digitValue x) + Decimal.digitValue y :=
      rfl
    omega
  · rwa [Decimal.value_digits]

/-! ## Addresses -/

/-- An address is four numbers with points between them. -/
theorem mem_language_address_iff : w ∈ address.language ↔
    ∃ a ∈ firstNumber.language, ∃ b ∈ middleNumber.language, ∃ c ∈ middleNumber.language,
      ∃ d ∈ lastNumber.language, w = ['.'].intercalate [a, b, c, d] := by
  have hpoint : ∀ v, v ∈ (Expr.seq (char '.') middleNumber).language ↔
      ∃ b ∈ middleNumber.language, v = '.' :: b := by
    intro v
    simp only [Expr.mem_language_seq, Formats.mem_language_char, exists_eq_left]
    exact ⟨fun ⟨b, hb, h⟩ => ⟨b, hb, h.symm⟩, fun ⟨b, hb, h⟩ => ⟨b, hb, h.symm⟩⟩
  rw [address, Expr.language_four]
  constructor
  · rintro ⟨a, ha, rest, ⟨middle, hmiddle, last, ⟨point, hmark, d, hd, rfl⟩, rfl⟩, rfl⟩
    have hpair := Formats.mem_language_times_iff.1 hmiddle
    rw [pow_two] at hpair
    obtain ⟨u, hu, v, hv, rfl⟩ := hpair
    obtain ⟨b, hb, rfl⟩ := (hpoint u).1 hu
    obtain ⟨c, hc, rfl⟩ := (hpoint v).1 hv
    obtain rfl := Formats.mem_language_char.1 hmark
    exact ⟨a, ha, b, hb, c, hc, d, hd, by simp⟩
  · rintro ⟨a, ha, b, hb, c, hc, d, hd, rfl⟩
    have hmiddle : '.' :: b ++ '.' :: c ∈ (times 2 (.seq (char '.') middleNumber)).language := by
      rw [Formats.mem_language_times_iff, pow_two]
      exact ⟨_, (hpoint _).2 ⟨b, hb, rfl⟩, _, (hpoint _).2 ⟨c, hc, rfl⟩, rfl⟩
    refine ⟨a, ha, _, ⟨_, hmiddle, _, ⟨['.'], Formats.mem_language_char.2 rfl, d, hd, rfl⟩, rfl⟩, ?_⟩
    simp

/-- **Four runs of digits** with points between them. -/
structure Dotted where
  /-- The first number. -/
  a : List Char
  /-- The second number. -/
  b : List Char
  /-- The third number. -/
  c : List Char
  /-- The last number. -/
  d : List Char
  ne_nil : ∀ w ∈ [a, b, c, d], w ≠ []
  isDigit : ∀ w ∈ [a, b, c, d], ∀ c ∈ w, c.isDigit = true

namespace Dotted

/-- Four numbers as they are written without leading zeros. -/
def ofNumbers (a b c d : Nat) : Dotted where
  a := digits a
  b := digits b
  c := digits c
  d := digits d
  ne_nil := by simp [Decimal.digits_ne_nil]
  isDigit := by
    simp only [List.forall_mem_cons, List.not_mem_nil, false_implies, implies_true, and_true]
    exact ⟨fun _ => Decimal.isDigit_of_mem_digits, fun _ => Decimal.isDigit_of_mem_digits,
      fun _ => Decimal.isDigit_of_mem_digits, fun _ => Decimal.isDigit_of_mem_digits⟩

variable (x : Dotted)

/-- The numbers with points between them. -/
def host : List Char := ['.'].intercalate [x.a, x.b, x.c, x.d]

/-- What can be read as an address. -/
def IsReadable : Prop :=
  (∃ n, 1 ≤ n ∧ n ≤ 223 ∧ x.a = digits n) ∧ IsMiddle x.b ∧ IsMiddle x.c ∧
    ∃ n, 1 ≤ n ∧ n ≤ 254 ∧ x.d = digits n

theorem host_eq : x.host = x.a ++ '.' :: (x.b ++ '.' :: (x.c ++ '.' :: x.d)) := by
  simp [host]

theorem point_not_mem (hw : w ∈ [x.a, x.b, x.c, x.d]) : '.' ∉ w := fun hpoint =>
  absurd (x.isDigit w hw '.' hpoint) (by decide)

/-- **What can be read as an address**: there is one way to divide it into numbers. -/
theorem host_mem_language_iff : x.host ∈ address.language ↔ x.IsReadable := by
  have hmiddle : ∀ w ∈ [x.a, x.b, x.c, x.d], (w ∈ middleNumber.language ↔ IsMiddle w) := fun w hw =>
    mem_language_middleNumber_iff (x.ne_nil w hw) (x.isDigit w hw)
  rw [mem_language_address_iff, IsReadable, ← hmiddle x.b (by simp), ← hmiddle x.c (by simp),
    ← writes_firstNumber, ← writes_lastNumber]
  constructor
  · rintro ⟨a, ha, b, hb, c, hc, d, hd, hhost⟩
    have hparts : ∀ w ∈ [a, b, c, d], '.' ∉ w := by
      have hfirst : Expr.avoids '.' firstNumber = true := by decide
      have hmid : Expr.avoids '.' middleNumber = true := by decide
      have hlast : Expr.avoids '.' lastNumber = true := by decide
      simp only [List.forall_mem_cons, List.not_mem_nil, false_implies, implies_true, and_true]
      exact ⟨Expr.not_mem_of_avoids hfirst ha, Expr.not_mem_of_avoids hmid hb,
        Expr.not_mem_of_avoids hmid hc, Expr.not_mem_of_avoids hlast hd⟩
    have hsplit : [x.a, x.b, x.c, x.d] = [a, b, c, d] := by
      rw [← List.splitOn_intercalate '.' hparts (by simp), ← hhost]
      exact (List.splitOn_intercalate '.' (fun w => x.point_not_mem) (by simp)).symm
    simp only [List.cons.injEq, and_true] at hsplit
    obtain ⟨rfl, rfl, rfl, rfl⟩ := hsplit
    exact ⟨ha, hb, hc, hd⟩
  · rintro ⟨ha, hb, hc, hd⟩
    exact ⟨x.a, ha, x.b, hb, x.c, hc, x.d, hd, rfl⟩

end Dotted

/-- **Every address is four runs of digits** that can be read. -/
theorem exists_eq_host (h : w ∈ address.language) : ∃ x : Dotted, w = x.host ∧ x.IsReadable := by
  obtain ⟨a, ha, b, hb, c, hc, d, hd, hw⟩ := mem_language_address_iff.1 h
  obtain ⟨n, -, -, ha'⟩ := (writes_firstNumber a).1 ha
  obtain ⟨m, -, -, hd'⟩ := (writes_lastNumber d).1 hd
  have hparts : ∀ w ∈ [a, b, c, d], w ≠ [] ∧ ∀ c ∈ w, c.isDigit = true := by
    simp only [List.forall_mem_cons, List.not_mem_nil, false_implies, implies_true, and_true]
    exact ⟨ha' ▸ ⟨Decimal.digits_ne_nil n, fun _ => Decimal.isDigit_of_mem_digits⟩,
      digits_of_mem_middleNumber hb, digits_of_mem_middleNumber hc,
      hd' ▸ ⟨Decimal.digits_ne_nil m, fun _ => Decimal.isDigit_of_mem_digits⟩⟩
  let x : Dotted := ⟨a, b, c, d, fun w hw => (hparts w hw).1, fun w hw => (hparts w hw).2⟩
  have hhost : w = x.host := hw
  exact ⟨x, hhost, x.host_mem_language_iff.1 (hhost ▸ h)⟩

/-! ## Networks -/

/-- The 32 bits of four octets. -/
def bits (a b c d : Nat) : Nat := ((a * 256 + b) * 256 + c) * 256 + d

/-- A network: the addresses that have some leading bits in common. -/
structure Network where
  /-- One of the addresses. -/
  base : Nat
  /-- How many bits they have in common. -/
  common : Nat

/-- An address is in a network. -/
def Network.Contains (network : Network) (address : Nat) : Prop :=
  address / 2 ^ (32 - network.common) = network.base / 2 ^ (32 - network.common)
deriving Decidable

/-- The private networks. -/
def privateNetworks : List Network :=
  [⟨bits 10 0 0 0, 8⟩, ⟨bits 127 0 0 0, 8⟩, ⟨bits 169 254 0 0, 16⟩, ⟨bits 192 168 0 0, 16⟩,
    ⟨bits 172 16 0 0, 12⟩]

variable {a b c d : Nat}

theorem isPrivate_iff_octets : isPrivate [a, b, c, d] = true ↔
    a = 10 ∨ a = 127 ∨ a = 169 ∧ b = 254 ∨ a = 192 ∧ b = 168 ∨ a = 172 ∧ 16 ≤ b ∧ b ≤ 31 := by
  unfold isPrivate
  split
  all_goals simp_all

/-- **The private addresses** are those of the private networks. -/
theorem isPrivate_iff (hb : b ≤ 255) (hc : c ≤ 255) (hd : d ≤ 255) :
    isPrivate [a, b, c, d] = true ↔
      ∃ network ∈ privateNetworks, network.Contains (bits a b c d) := by
  have hshared8 : bits a b c d / 2 ^ 24 = a := by unfold bits; omega
  have hshared12 : bits a b c d / 2 ^ 20 = 16 * a + b / 16 := by unfold bits; omega
  have hshared16 : bits a b c d / 2 ^ 16 = 256 * a + b := by unfold bits; omega
  have hnetworks : (∃ network ∈ privateNetworks, network.Contains (bits a b c d)) ↔
      a = 10 ∨ a = 127 ∨ 256 * a + b = 256 * 169 + 254 ∨ 256 * a + b = 256 * 192 + 168 ∨
        16 * a + b / 16 = 16 * 172 + 1 := by
    simp only [privateNetworks, Network.Contains, List.mem_cons, List.not_mem_nil, or_false,
      exists_eq_or_imp, exists_eq_left, Nat.reduceSub, hshared8, hshared12, hshared16]
    exact Iff.rfl
  rw [isPrivate_iff_octets, hnetworks]
  omega

/-! ## Numbers -/

/-- What has no point is one number. -/
theorem numbers_of_not_mem (hw : '.' ∉ w) (before : List Char) :
    numbers w before = [value (before.reverse ++ w)] := by
  induction w generalizing before with
  | nil => simp [numbers]
  | cons c rest ih =>
    rw [List.mem_cons, not_or] at hw
    have hc : c ≠ '.' := Ne.symm hw.1
    rw [numbers.eq_3 _ _ _ hc, ih hw.2, List.reverse_cons, List.append_assoc]
    rfl

/-- A point ends a number. -/
theorem numbers_append {rest : List Char} (hw : '.' ∉ w) (before : List Char) :
    numbers (w ++ '.' :: rest) before = value (before.reverse ++ w) :: numbers rest [] := by
  induction w generalizing before with
  | nil => simp [numbers]
  | cons c tail ih =>
    rw [List.mem_cons, not_or] at hw
    have hc : c ≠ '.' := Ne.symm hw.1
    rw [List.cons_append, numbers.eq_3 _ _ _ hc, ih hw.2, List.reverse_cons, List.append_assoc]
    rfl

namespace Dotted

variable (x : Dotted)

theorem numbers_host : numbers x.host [] = [value x.a, value x.b, value x.c, value x.d] := by
  have hpoint : ∀ w ∈ [x.a, x.b, x.c, x.d], '.' ∉ w := fun w => x.point_not_mem
  rw [host_eq, numbers_append (hpoint x.a (by simp)), numbers_append (hpoint x.b (by simp)),
    numbers_append (hpoint x.c (by simp)), numbers_of_not_mem (hpoint x.d (by simp))]
  rfl

/-- **An address is public**: it can be read, and it is in none of the private networks. -/
def IsPublic : Prop :=
  x.IsReadable ∧ ∀ network ∈ privateNetworks,
    ¬network.Contains (bits (value x.a) (value x.b) (value x.c) (value x.d))

/-- Of an address that can be read, the check tells so. -/
theorem isPrivate_numbers_iff (h : x.IsReadable) :
    isPrivate (numbers x.host []) = false ↔ x.IsPublic := by
  have hlast : value x.d ≤ 255 := by
    obtain ⟨n, -, hn, hd⟩ := h.2.2.2
    rw [hd, Decimal.value_digits]
    omega
  have hprivate := isPrivate_iff (a := value x.a) (h.2.1.value_le (x.isDigit x.b (by simp)))
    (h.2.2.1.value_le (x.isDigit x.c (by simp))) hlast
  rw [IsPublic, and_iff_right h, numbers_host, ← Bool.not_eq_true, hprivate]
  push Not
  rfl

end Dotted

end Url

end Rulebook
