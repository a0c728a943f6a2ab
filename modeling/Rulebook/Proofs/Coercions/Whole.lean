import Mathlib
import Rulebook.Proofs.Coercions.Builtin
import Rulebook.Proofs.Json.RoundTrip
import Rulebook.Proofs.Numbers.Denotation
/-!
# Coercions — to whole numbers

`Coercion.Kind.ReadsWhole` says what a conversion to a whole number is to make of a value. It speaks
of the digits that a text starts with (`Text.StartsWith`), which are those that are read
(`leadingDigits_eq_iff`), and of the double nearest to their number. The conversion does all this
unless the number is beyond the doubles (`apply_int_readsWhole_iff`). In that case the text should
stay, but becomes null, and no other value does: these are the texts that overflow
(`overflows_iff_beyond`).
-/

namespace Rulebook

/-! ## The digits that a text starts with -/

/-- A sign as it is written: a minus, a plus, or nothing. -/
inductive Decimal.WrittenSign : List Char → Bool → Prop where
  | none : WrittenSign [] false
  | plus : WrittenSign ['+'] false
  | minus : WrittenSign ['-'] true

/-- A text starts, after its blanks and at most one sign, with a run of digits, which is as long as
it can be. It may be empty. -/
inductive Text.StartsWith : List Char → (negative : Bool) → (digits : List Char) → Prop where
  | intro {blanks sign digits rest : List Char} {negative : Bool}
    (hblanks : ∀ c ∈ blanks, isBlank c = true)
    (hsolid : ∀ c, (sign ++ (digits ++ rest)).head? = some c → isBlank c = false)
    (hsign : Decimal.WrittenSign sign negative)
    (hunsigned : sign = [] → ∀ c, (digits ++ rest).head? = some c → c ≠ '-' ∧ c ≠ '+')
    (hdigits : ∀ c ∈ digits, c.isDigit = true)
    (hrest : ∀ c, rest.head? = some c → c.isDigit = false) :
    StartsWith (blanks ++ (sign ++ (digits ++ rest))) negative digits

namespace Decimal

/-- A sign is read off, and nothing else is. -/
theorem scanSign_append {sign rest : List Char} {negative : Bool} (h : WrittenSign sign negative)
    (hrest : sign = [] → ∀ c, rest.head? = some c → c ≠ '-' ∧ c ≠ '+') :
    scanSign (sign ++ rest) = (negative, rest) := by
  cases h with
  | plus => rfl
  | minus => rfl
  | none =>
    cases rest with
    | nil => rfl
    | cons c s =>
      obtain ⟨hminus, hplus⟩ := hrest rfl c rfl
      simp [scanSign, hminus, hplus]

/-- What is read off is a sign. -/
theorem exists_of_scanSign {s rest : List Char} {negative : Bool}
    (h : scanSign s = (negative, rest)) : ∃ sign, s = sign ++ rest ∧ WrittenSign sign negative ∧
      (sign = [] → ∀ c, rest.head? = some c → c ≠ '-' ∧ c ≠ '+') := by
  unfold scanSign at h
  split at h
  · obtain ⟨rfl, rfl⟩ := Prod.mk.inj h
    exact ⟨['-'], rfl, .minus, by simp⟩
  · obtain ⟨rfl, rfl⟩ := Prod.mk.inj h
    exact ⟨['+'], rfl, .plus, by simp⟩
  · rename_i hminus hplus
    obtain ⟨rfl, rfl⟩ := Prod.mk.inj h
    refine ⟨[], rfl, .none, fun _ c hc => ?_⟩
    cases s with
    | nil => cases hc
    | cons first t =>
      obtain rfl := Option.some.inj hc
      refine ⟨?_, ?_⟩
      · rintro rfl
        exact hminus t rfl
      · rintro rfl
        exact hplus t rfl

/-- No digit is a sign. -/
theorem ne_sign_of_isDigit {c : Char} (h : c.isDigit = true) : c ≠ '-' ∧ c ≠ '+' := by
  constructor <;> rintro rfl <;> exact absurd h (by decide)

theorem scanDigits_eq {s ds rest : List Char} (h : scanDigits s = (ds, rest)) :
    s = ds ++ rest ∧ (∀ c ∈ ds, c.isDigit = true) ∧
      ∀ c, rest.head? = some c → c.isDigit = false := by
  obtain ⟨rfl, rfl⟩ := Prod.mk.inj h
  refine ⟨List.takeWhile_append_dropWhile.symm, fun c hc => ?_, fun c hc => ?_⟩
  · exact List.mem_takeWhile_imp hc
  · have hfirst := List.head?_dropWhile_not Char.isDigit s
    rw [hc] at hfirst
    exact hfirst

end Decimal

namespace Coercion.Kind

open Binary64 Text

/-- **The digits that are read are those that the text starts with.** -/
theorem leadingDigits_eq_iff {s ds : List Char} {negative : Bool} :
    leadingDigits s = (negative, ds) ↔ StartsWith s negative ds := by
  constructor
  · intro h
    unfold leadingDigits at h
    cases hscan : Decimal.scanSign (trimStart s) with
    | mk read tail =>
    cases hrun : Decimal.scanDigits tail with
    | mk run rest =>
    rw [hscan] at h
    dsimp only at h
    rw [hrun] at h
    obtain ⟨rfl, rfl⟩ := Prod.mk.inj h
    obtain ⟨sign, hsplit, hsign, hunsigned⟩ := Decimal.exists_of_scanSign hscan
    obtain ⟨rfl, hdigits, hrest⟩ := Decimal.scanDigits_eq hrun
    have hs : s = s.takeWhile isBlank ++ (sign ++ (run ++ rest)) := by
      rw [← hsplit, trimStart, List.takeWhile_append_dropWhile]
    have hsolid : ∀ c, (sign ++ (run ++ rest)).head? = some c → isBlank c = false := by
      intro c hc
      rw [← hsplit] at hc
      exact isBlank_head_trimStart hc
    rw [hs]
    exact .intro (fun c hc => List.mem_takeWhile_imp hc) hsolid hsign hunsigned hdigits hrest
  · rintro ⟨hblanks, hsolid, hsign, hunsigned, hdigits, hrest⟩
    have htrim : ∀ blanks t : List Char, (∀ c ∈ blanks, isBlank c = true) →
        (∀ c, t.head? = some c → isBlank c = false) → trimStart (blanks ++ t) = t := by
      intro blanks t hb ht
      rw [trimStart, List.dropWhile_append_of_pos hb]
      exact trimStart_eq_self ht
    unfold leadingDigits
    rw [htrim _ _ hblanks hsolid, Decimal.scanSign_append hsign hunsigned]
    dsimp only
    rw [Decimal.scanDigits_append hdigits hrest]

/-! ## What is read -/

/-- **What a conversion to a whole number is to give.** The digits that a text starts with give the
integer that they write, and from `2 ^ 53` on the nearest double. A text without them stays, and so
does one whose number is beyond the doubles. A number gives its integral part, and anything else
stays. -/
inductive ReadsWhole : Json → Json → Prop where
  | noDigits {s : String} {negative : Bool} (h : StartsWith s.toList negative []) :
    ReadsWhole (.string s) (.string s)
  | integer {s : String} {negative : Bool} {digits : List Char} {n : ℤ} {hrange : Json.InRange n}
    (h : StartsWith s.toList negative digits) (hne : digits ≠ [])
    (hsmall : Decimal.value digits < 2 ^ 53)
    (hn : (n : ℚ) = withSign negative (Decimal.value digits)) :
    ReadsWhole (.string s) (.number (.int n hrange))
  | double {s : String} {negative : Bool} {digits : List Char} {x : Binary64}
    (h : StartsWith s.toList negative digits) (hlarge : 2 ^ 53 ≤ Decimal.value digits)
    (hlt : (Decimal.value digits : ℚ) < limit)
    (hnearest : Nearest (withSign negative (Decimal.value digits)) x) :
    ReadsWhole (.string s) (.number (.float x))
  | beyond {s : String} {negative : Bool} {digits : List Char}
    (h : StartsWith s.toList negative digits) (hle : limit ≤ (Decimal.value digits : ℚ)) :
    ReadsWhole (.string s) (.string s)
  | number {n m : Json.Number} (h : m.toRat = n.toBinary64.truncate) :
    ReadsWhole (.number n) (.number m)
  | other {value : Json} (hstring : ∀ s, value ≠ .string s) (hnumber : ∀ n, value ≠ .number n) :
    ReadsWhole value value

/-- A text starts with digits whose number is beyond the doubles. -/
inductive Beyond : Json → Prop where
  | intro {s : String} {negative : Bool} {digits : List Char}
    (h : StartsWith s.toList negative digits) (hle : limit ≤ (Decimal.value digits : ℚ)) :
    Beyond (.string s)

variable {s : String} {negative : Bool} {ds : List Char}

/-- The number that digits write after a sign is rounded to a double, unless it is beyond them. -/
theorem rounds_digits (negative : Bool) (ds : List Char) :
    Rounds negative (withSign negative (Decimal.value ds))
      (Decimal.toBinary64? ⟨negative, Decimal.value ds, 0⟩) := by
  have hrounds := Decimal.rounds_toBinary64? ⟨negative, Decimal.value ds, 0⟩
  have hvalue : Decimal.toRat ⟨negative, Decimal.value ds, 0⟩ =
      withSign negative (Decimal.value ds) := by
    simp [Decimal.toRat]
  rwa [hvalue] at hrounds

theorem abs_withSign_natCast (negative : Bool) (m : Nat) : |withSign negative (m : ℚ)| = m := by
  rw [abs_withSign, Nat.abs_cast]

/-- **The texts that overflow** are those that start with digits beyond the doubles. -/
theorem overflows_iff_beyond (s : String) : Overflows s ↔ Beyond (.string s) := by
  obtain ⟨⟨negative, ds⟩, hread⟩ : ∃ read, leadingDigits s.toList = read := ⟨_, rfl⟩
  have hrounds := rounds_digits negative ds
  unfold Overflows
  rw [hread]
  constructor
  · rintro ⟨-, hnone⟩
    rw [hnone] at hrounds
    cases hrounds with
    | infinite hle =>
      rw [abs_withSign_natCast] at hle
      exact .intro (leadingDigits_eq_iff.1 hread) hle
  · rintro ⟨hstart, hle⟩
    obtain ⟨rfl, rfl⟩ := Prod.mk.inj (hread.symm.trans (leadingDigits_eq_iff.2 hstart))
    refine ⟨?_, ?_⟩
    · -- without digits the number would be zero
      rintro rfl
      have hzero : (Decimal.value [] : ℚ) = 0 := by simp [Decimal.value]
      linarith [one_lt_limit]
    · generalize Decimal.toBinary64? ⟨negative, Decimal.value ds, 0⟩ = read at *
      cases hrounds with
      | finite hlt =>
        rw [abs_withSign_natCast] at hlt
        exact absurd hle (not_le.2 hlt)
      | infinite => rfl

/-- What becomes of a text that starts with digits, if it does not overflow. -/
theorem apply_int_digits (h : StartsWith s.toList negative ds) (hne : ds ≠ [])
    (hlt : (Decimal.value ds : ℚ) < limit) : ∃ x : Binary64,
    Nearest (withSign negative (Decimal.value ds)) x ∧
      int.apply (.string s) = .number (.ofBinary64 x) := by
  have hrounds := rounds_digits negative ds
  rw [apply, toInt_string, leadingDigits_eq_iff.2 h, if_neg hne]
  dsimp only
  generalize Decimal.toBinary64? ⟨negative, Decimal.value ds, 0⟩ = read at *
  cases hrounds with
  | finite _ _ hnearest => exact ⟨_, hnearest, rfl⟩
  | infinite hle =>
    rw [abs_withSign_natCast] at hle
    exact absurd hle (not_le.2 hlt)

/-- A text that starts with no digits stays. -/
theorem apply_int_noDigits (h : StartsWith s.toList negative []) :
    int.apply (.string s) = .string s := by
  rw [apply, toInt_string, leadingDigits_eq_iff.2 h, if_pos rfl]

/-- A natural number with a sign is an integer of its size. -/
theorem exists_int_withSign (negative : Bool) (m : Nat) :
    ∃ n : ℤ, (n : ℚ) = withSign negative m ∧ n.natAbs = m := by
  cases negative with
  | false => exact ⟨m, by simp [withSign], by simp⟩
  | true => exact ⟨-m, by simp [withSign], by simp⟩

/-- **A whole number is read as it is meant to be**, unless it is beyond the doubles. -/
theorem readsWhole_of_not_beyond (hbeyond : ¬ Beyond (.string s)) :
    ReadsWhole (.string s) (int.apply (.string s)) := by
  obtain ⟨⟨negative, ds⟩, hread⟩ : ∃ read, leadingDigits s.toList = read := ⟨_, rfl⟩
  have hstart := leadingDigits_eq_iff.1 hread
  by_cases hne : ds = []
  · subst hne
    rw [apply_int_noDigits hstart]
    exact .noDigits hstart
  · have hlt : (Decimal.value ds : ℚ) < limit := not_le.1 fun hle => hbeyond (.intro hstart hle)
    obtain ⟨x, hnearest, hresult⟩ := apply_int_digits hstart hne hlt
    obtain ⟨n, hn, habs⟩ := exists_int_withSign negative (Decimal.value ds)
    rw [hresult]
    rcases Nat.lt_or_ge (Decimal.value ds) (2 ^ 53) with hsmall | hlarge
    · -- the number is a double, so rounding keeps it
      have hexact : x.toRat = n := by
        rw [← hn] at hnearest
        exact hnearest.toRat_eq_iff.2 (exists_toRat_eq (by omega))
      obtain ⟨hrange, hint⟩ := Json.Number.ofBinary64_of_toRat_eq hexact (by rwa [habs])
      rw [hint]
      exact .integer hstart hne hsmall hn
    · have hsize : 2 ^ 53 ≤ |withSign negative (Decimal.value ds : ℚ)| := by
        rw [abs_withSign_natCast]
        exact_mod_cast hlarge
      rw [Json.Number.ofBinary64_of_exactBound_le
        (Json.Number.exactBound_le_integralSize hnearest hsize)]
      exact .double hstart hlarge hlt hnearest

/-- No text is meant to become null. -/
theorem not_readsWhole_null (s : String) : ¬ ReadsWhole (.string s) .null := by
  intro h
  cases h

/-- A text whose number is beyond the doubles becomes null. -/
theorem apply_int_of_beyond {value : Json} (h : Beyond value) : int.apply value = .null := by
  obtain ⟨s, rfl⟩ : ∃ s, value = .string s := by
    cases h
    exact ⟨_, rfl⟩
  have hoverflows : (leadingDigits s.toList).2 ≠ [] ∧ Decimal.toBinary64?
      ⟨(leadingDigits s.toList).1, Decimal.value (leadingDigits s.toList).2, 0⟩ = none :=
    (overflows_iff_beyond s).2 h
  obtain ⟨hne, hnone⟩ := hoverflows
  rw [apply, toInt_string, if_neg hne, hnone]
  rfl

/-- A value that is no text and no number stays, as it is meant to. -/
theorem readsWhole_other {value : Json} (hself : int.apply value = value)
    (hstring : ∀ s, value ≠ .string s) (hnumber : ∀ n, value ≠ .number n) :
    (ReadsWhole value (int.apply value) ↔ ¬ Beyond value) ∧
      (int.apply value = .null ↔ value = .null ∨ Beyond value) := by
  have hnot : ¬ Beyond value := by
    rintro ⟨hstart, -⟩
    exact hstring _ rfl
  rw [hself]
  exact ⟨⟨fun _ => hnot, fun _ => .other hstring hnumber⟩, by simp [hnot]⟩

/-- **Conversion to a whole number reads the leading digits of a text**, and leaves everything else
but numbers as it is, exactly if their number is not beyond the doubles. If it is, the text becomes
null, and nothing else but null does. -/
theorem apply_int_readsWhole_iff (value : Json) :
    (ReadsWhole value (int.apply value) ↔ ¬ Beyond value) ∧
      (int.apply value = .null ↔ value = .null ∨ Beyond value) := by
  cases value with
  | string s =>
    by_cases hbeyond : Beyond (.string s)
    · have hnull := apply_int_of_beyond hbeyond
      rw [hnull]
      exact ⟨⟨fun h => absurd h (not_readsWhole_null s), fun h => absurd hbeyond h⟩,
        fun _ => .inr hbeyond, fun _ => rfl⟩
    · have hreads := readsWhole_of_not_beyond hbeyond
      refine ⟨⟨fun _ => hbeyond, fun _ => hreads⟩, fun hnull => ?_, fun h => ?_⟩
      · rw [hnull] at hreads
        exact absurd hreads (not_readsWhole_null s)
      · rcases h with h | h
        · cases h
        · exact absurd h hbeyond
  | number n =>
    have hnot : ¬ Beyond (.number n) := fun h => by cases h
    exact ⟨⟨fun _ => hnot, fun _ => .number (toRat_wholeOf _)⟩, by simp [apply, toInt, hnot]⟩
  | _ => exact readsWhole_other rfl (by simp) (by simp)

/-- A text that has digits after its sign starts with these digits. -/
theorem startsWith_append {sign rest : List Char} (hsign : Decimal.WrittenSign sign negative)
    (hne : ds ≠ []) (hdigits : ∀ c ∈ ds, c.isDigit = true)
    (hrest : ∀ c, rest.head? = some c → c.isDigit = false) :
    StartsWith (sign ++ (ds ++ rest)) negative ds := by
  have hfirst : ∀ c, (ds ++ rest).head? = some c → c.isDigit = true := by
    intro c hc
    rw [List.head?_append_of_ne_nil _ hne] at hc
    exact hdigits c (List.mem_of_head? hc)
  have hsolid : ∀ c, (sign ++ (ds ++ rest)).head? = some c → isBlank c = false := by
    intro c hc
    cases hsign with
    | none => exact isBlank_of_isDigit (hfirst c hc)
    | plus =>
      obtain rfl := Option.some.inj hc
      decide
    | minus =>
      obtain rfl := Option.some.inj hc
      decide
  have hunsigned : sign = [] → ∀ c, (ds ++ rest).head? = some c → c ≠ '-' ∧ c ≠ '+' :=
    fun _ c hc => Decimal.ne_sign_of_isDigit (hfirst c hc)
  have hblanks : ∀ c ∈ ([] : List Char), isBlank c = true := by simp
  exact .intro hblanks hsolid hsign hunsigned hdigits hrest

theorem startsWith_digits {sign : List Char} (hsign : Decimal.WrittenSign sign negative) (n : Nat) :
    StartsWith (sign ++ Decimal.digits n) negative (Decimal.digits n) := by
  have hstart := @startsWith_append negative (Decimal.digits n) sign [] hsign
    (Decimal.digits_ne_nil n) (fun c hc => Decimal.isDigit_of_mem_digits hc) (by simp)
  rwa [List.append_nil] at hstart

/-- The digits of a number beyond the doubles are such a text. -/
theorem beyond_text {n : Nat} (h : limit ≤ (n : ℚ)) : Beyond (.string (Decimal.text n)) := by
  have hstart : StartsWith (Decimal.text n).toList false (Decimal.digits n) := by
    rw [Decimal.text, String.toList_ofList]
    exact startsWith_digits .none n
  exact .intro hstart (by rwa [Decimal.value_digits])

/-- One with 310 zeros after it is beyond the doubles: it becomes null instead of staying. -/
theorem apply_int_ten_pow :
    int.apply (.string (Decimal.text ((10 ^ 31) ^ 10))) = .null ∧
      ¬ ReadsWhole (.string (Decimal.text ((10 ^ 31) ^ 10)))
        (int.apply (.string (Decimal.text ((10 ^ 31) ^ 10)))) := by
  have hlarge : limit ≤ (((10 ^ 31) ^ 10 : Nat) : ℚ) := by
    have h := limit_le_ten_zpow (e := 31 * 10) (by norm_num)
    rw [zpow_mul] at h
    exact_mod_cast h
  have hnull := apply_int_of_beyond (beyond_text hlarge)
  exact ⟨hnull, hnull ▸ not_readsWhole_null _⟩

end Coercion.Kind

end Rulebook
