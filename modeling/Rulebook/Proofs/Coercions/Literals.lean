import Mathlib
import Rulebook.Proofs.Coercions.Whole
/-!
# Coercions — to numbers

The texts that a conversion to a number is to read are given by a grammar,
`Coercion.Kind.WritesNumber`. A decimal literal has a sign, digits around a point, and an exponent
(`Decimal.Written`). The scanner finds these parts (`Decimal.Written.scan`), and finds nothing else
(`Decimal.exists_written_of_scan`), so decimal literals are read as the grammar has it, and a text
writes at most one number (`Coercion.Kind.WritesNumber.unique`). Hexadecimal literals are not always
read: `Coercion.Kind.Misread` has the texts for which the conversion differs, and for all others it
gives the nearest double of the literal, or leaves what is none (`apply_number_readsNumber_iff`).
-/

namespace Rulebook

/-! ## Decimal literals -/

namespace Decimal

/-- The digits of a literal around its point, if it has one; at least one of them is written. The
places are the digits after the point. -/
inductive WrittenMantissa : List Char → (digits : List Char) → (places : Nat) → Prop where
  | whole {ds : List Char} (hne : ds ≠ []) (hds : ∀ c ∈ ds, c.isDigit = true) :
    WrittenMantissa ds ds 0
  | pointed {ds fs : List Char} (hne : ds ≠ []) (hds : ∀ c ∈ ds, c.isDigit = true)
    (hfs : ∀ c ∈ fs, c.isDigit = true) : WrittenMantissa (ds ++ '.' :: fs) (ds ++ fs) fs.length
  | fraction {fs : List Char} (hne : fs ≠ []) (hfs : ∀ c ∈ fs, c.isDigit = true) :
    WrittenMantissa ('.' :: fs) fs fs.length

/-- The exponent of a literal, if it has one: its mark, perhaps a sign, and digits. -/
inductive WrittenExponent : List Char → (exponent : ℤ) → Prop where
  | absent : WrittenExponent [] 0
  | marked {mark : Char} {sign ds : List Char} {negative : Bool} (hmark : mark = 'e' ∨ mark = 'E')
    (hsign : WrittenSign sign negative) (hne : ds ≠ []) (hds : ∀ c ∈ ds, c.isDigit = true) :
    WrittenExponent (mark :: (sign ++ ds)) (if negative then -(value ds : ℤ) else value ds)

/-- **A text is a decimal literal**, of the decimal that it writes. -/
inductive Written : List Char → Decimal → Prop where
  | intro {sign mantissa mark digits : List Char} {negative : Bool} {places : Nat} {exponent : ℤ}
    (hsign : WrittenSign sign negative) (hmantissa : WrittenMantissa mantissa digits places)
    (hexponent : WrittenExponent mark exponent) :
    Written (sign ++ (mantissa ++ mark)) ⟨negative, value digits, exponent - places⟩

/-- The number that a sign and the digits of an exponent write. -/
def exponentValue : Option (Bool × List Char) → ℤ
  | none => 0
  | some (negative, ds) => if negative then -(value ds : ℤ) else value ds

theorem ofParts_eq (negative : Bool) (parts : Parts) : ofParts negative parts =
    ⟨negative, value (parts.whole ++ parts.fraction.getD []),
      exponentValue parts.exponent - (parts.fraction.getD []).length⟩ := by
  obtain ⟨whole, fraction, _ | ⟨_ | _, ds⟩⟩ := parts <;> rfl

/-! ## Reading a literal -/

theorem WrittenExponent.head {mark : List Char} {exponent : ℤ} {c : Char}
    (h : WrittenExponent mark exponent) (hc : mark.head? = some c) : c = 'e' ∨ c = 'E' := by
  cases h with
  | absent => cases hc
  | marked hmark => rwa [← Option.some.inj hc]

theorem WrittenMantissa.head {mantissa digits : List Char} {places : Nat} {c : Char}
    (h : WrittenMantissa mantissa digits places) (rest : List Char)
    (hc : (mantissa ++ rest).head? = some c) : c.isDigit = true ∨ c = '.' := by
  have hfirst : ∀ ds : List Char, ds ≠ [] → (∀ c ∈ ds, c.isDigit = true) → ∀ rest c,
      (ds ++ rest).head? = some c → c.isDigit = true := by
    intro ds hne hds rest c hc
    rw [List.head?_append_of_ne_nil _ hne] at hc
    exact hds c (List.mem_of_head? hc)
  cases h with
  | whole hne hds => exact .inl (hfirst _ hne hds rest c hc)
  | pointed hne hds hfs =>
    rw [List.append_assoc] at hc
    exact .inl (hfirst _ hne hds _ c hc)
  | fraction hne hfs => exact .inr (Option.some.inj hc).symm

variable {s rest ds fs : List Char} {mark : Char} {negative : Bool}

theorem scanExponent_cons (hmark : mark = 'e' ∨ mark = 'E') {unsigned : List Char}
    (hsign : scanSign s = (negative, unsigned)) (hdigits : scanDigits unsigned = (ds, rest)) :
    scanExponent (mark :: s) = (some (negative, ds), rest) := by
  simp [scanExponent, hmark, hsign, hdigits]

theorem scan_whole (hwhole : scanDigits s = (ds, rest)) (hpoint : rest.head? ≠ some '.') :
    scan s = (⟨ds, none, (scanExponent rest).1⟩, (scanExponent rest).2) := by
  unfold scan
  rw [hwhole]
  dsimp only
  split
  · exact absurd rfl hpoint
  · rfl

theorem scan_pointed {tail : List Char} (hwhole : scanDigits s = (ds, '.' :: tail))
    (hfraction : scanDigits tail = (fs, rest)) :
    scan s = (⟨ds, some fs, (scanExponent rest).1⟩, (scanExponent rest).2) := by
  simp only [scan, hwhole, hfraction]

theorem WrittenMantissa.digits_ne_nil {mantissa digits : List Char} {places : Nat}
    (h : WrittenMantissa mantissa digits places) : digits ≠ [] := by
  cases h with
  | whole hne => exact hne
  | pointed hne => simp [hne]
  | fraction hne => exact hne

theorem Written.ne_nil {s : List Char} {d : Decimal} (h : Written s d) : s ≠ [] := by
  obtain ⟨-, hmantissa, -⟩ := h
  cases hmantissa with
  | whole hne => simp [hne]
  | pointed => simp
  | fraction => simp

/-- An exponent is read to its end. -/
theorem scanExponent_written {mark : List Char} {exponent : ℤ} (h : WrittenExponent mark exponent) :
    ∃ read, scanExponent mark = (read, []) ∧ read.any (·.2.isEmpty) = false ∧
      exponentValue read = exponent := by
  cases h with
  | absent => exact ⟨none, rfl, rfl, rfl⟩
  | @marked mark sign ds negative hmark hsign hne hds =>
    have hunsigned : sign = [] → ∀ c, ds.head? = some c → c ≠ '-' ∧ c ≠ '+' := by
      intro _ c hc
      exact ne_sign_of_isDigit (hds c (List.mem_of_head? hc))
    have hdigits : scanDigits (ds ++ []) = (ds, []) := scanDigits_append hds (by simp)
    rw [List.append_nil] at hdigits
    exact ⟨some (negative, ds), scanExponent_cons hmark (scanSign_append hsign hunsigned) hdigits,
      by simpa using hne, rfl⟩

/-- What is read to its end as an exponent with digits is one. -/
theorem writtenExponent_of_scanExponent {read : Option (Bool × List Char)}
    (h : scanExponent s = (read, [])) (hread : read.any (·.2.isEmpty) = false) :
    WrittenExponent s (exponentValue read) := by
  cases s with
  | nil =>
    obtain ⟨rfl, -⟩ := Prod.mk.inj h
    exact .absent
  | cons mark s =>
    by_cases hmark : mark = 'e' ∨ mark = 'E'
    · cases hscan : scanSign s with
      | mk negative tail =>
      cases hrun : scanDigits tail with
      | mk ds rest =>
      rw [scanExponent_cons hmark hscan hrun] at h
      obtain ⟨rfl, rfl⟩ := Prod.mk.inj h
      obtain ⟨sign, rfl, hsign, -⟩ := exists_of_scanSign hscan
      obtain ⟨rfl, hds, -⟩ := scanDigits_eq hrun
      rw [List.append_nil]
      exact .marked hmark hsign (by simpa using hread) hds
    · simp [scanExponent, hmark] at h

/-- The digits of a literal and its exponent are read to their end. -/
theorem scan_written {mantissa digits mark : List Char} {places : Nat} {exponent : ℤ}
    (hmantissa : WrittenMantissa mantissa digits places) (hmark : WrittenExponent mark exponent) :
    ∃ parts, scan (mantissa ++ mark) = (parts, []) ∧
      parts.whole ++ parts.fraction.getD [] = digits ∧
      (parts.fraction.getD []).length = places ∧
      parts.exponent.any (·.2.isEmpty) = false ∧ exponentValue parts.exponent = exponent := by
  obtain ⟨read, hscan, hany, hvalue⟩ := scanExponent_written hmark
  -- an exponent ends the run of digits before it, and is no point
  have hend : ∀ c, mark.head? = some c → c.isDigit = false ∧ c ≠ '.' := by
    intro c hc
    rcases hmark.head hc with rfl | rfl <;> decide
  have hrun : ∀ ds : List Char, (∀ c ∈ ds, c.isDigit = true) →
      scanDigits (ds ++ mark) = (ds, mark) :=
    fun ds hds => scanDigits_append hds fun c hc => (hend c hc).1
  have hpoint : ∀ ds fs : List Char, (∀ c ∈ ds, c.isDigit = true) → (∀ c ∈ fs, c.isDigit = true) →
      scan (ds ++ '.' :: (fs ++ mark)) = (⟨ds, some fs, read⟩, []) := by
    intro ds fs hds hfs
    have hwhole : scanDigits (ds ++ '.' :: (fs ++ mark)) = (ds, '.' :: (fs ++ mark)) :=
      scanDigits_append hds fun c hc => Option.some.inj hc ▸ rfl
    rw [scan_pointed hwhole (hrun fs hfs), hscan]
  cases hmantissa with
  | whole hne hds =>
    refine ⟨⟨mantissa, none, read⟩, ?_, by simp, rfl, hany, hvalue⟩
    rw [scan_whole (hrun mantissa hds) fun hdot => (hend '.' hdot).2 rfl, hscan]
  | pointed hne hds hfs =>
    rw [List.append_assoc]
    exact ⟨_, hpoint _ _ hds hfs, rfl, rfl, hany, hvalue⟩
  | fraction hne hfs =>
    exact ⟨_, hpoint [] _ (by simp) hfs, rfl, rfl, hany, hvalue⟩

/-- What is read to its end with digits, and with digits in its exponent, is written so. -/
theorem exists_written_of_scan {parts : Parts} (h : scan s = (parts, []))
    (hdigits : parts.whole ++ parts.fraction.getD [] ≠ [])
    (hany : parts.exponent.any (·.2.isEmpty) = false) : ∃ mantissa mark, s = mantissa ++ mark ∧
      WrittenMantissa mantissa (parts.whole ++ parts.fraction.getD [])
        (parts.fraction.getD []).length ∧
      WrittenExponent mark (exponentValue parts.exponent) := by
  cases hwhole : scanDigits s with
  | mk ds tail =>
  obtain ⟨rfl, hds, -⟩ := scanDigits_eq hwhole
  by_cases hpoint : tail.head? = some '.'
  · obtain ⟨rest, rfl⟩ : ∃ rest, tail = '.' :: rest := by
      cases tail with
      | nil => cases hpoint
      | cons c rest => exact ⟨rest, by rw [Option.some.inj hpoint]⟩
    cases hfraction : scanDigits rest with
    | mk fs mark =>
    rw [scan_pointed hwhole hfraction] at h
    obtain ⟨rfl, hend⟩ := Prod.mk.inj h
    obtain ⟨rfl, hfs, -⟩ := scanDigits_eq hfraction
    have hexponent := writtenExponent_of_scanExponent (Prod.ext rfl hend) hany
    -- digits may be missing on one side of the point only
    by_cases hempty : ds = []
    · subst hempty
      exact ⟨'.' :: fs, mark, rfl, .fraction hdigits hfs, hexponent⟩
    · exact ⟨ds ++ '.' :: fs, mark, by simp, .pointed hempty hds hfs, hexponent⟩
  · rw [scan_whole hwhole hpoint] at h
    obtain ⟨rfl, hend⟩ := Prod.mk.inj h
    have hexponent := writtenExponent_of_scanExponent (Prod.ext rfl hend) hany
    dsimp only [Option.getD_none] at hdigits ⊢
    rw [List.append_nil] at hdigits ⊢
    exact ⟨ds, tail, rfl, .whole hdigits hds, hexponent⟩

/-- **The parts of a literal are found**, and they write its decimal. -/
theorem Written.scan {d : Decimal} (h : Written s d) : ∃ negative unsigned parts,
    scanSign s = (negative, unsigned) ∧ Decimal.scan unsigned = (parts, []) ∧
      parts.whole ++ parts.fraction.getD [] ≠ [] ∧ parts.exponent.any (·.2.isEmpty) = false ∧
      ofParts negative parts = d := by
  obtain ⟨hsign, hmantissa, hmark⟩ := h
  rename_i sign mantissa mark digits negative places exponent
  obtain ⟨parts, hscan, hdigits, hplaces, hany, hvalue⟩ := scan_written hmantissa hmark
  have hunsigned : sign = [] → ∀ c, (mantissa ++ mark).head? = some c → c ≠ '-' ∧ c ≠ '+' := by
    intro _ c hc
    rcases hmantissa.head mark hc with hdigit | rfl
    · exact ne_sign_of_isDigit hdigit
    · decide
  refine ⟨negative, _, parts, scanSign_append hsign hunsigned, hscan, ?_, hany, ?_⟩
  · rw [hdigits]
    exact hmantissa.digits_ne_nil
  · rw [ofParts_eq, hdigits, hplaces, hvalue]

/-- So a text writes at most one decimal. -/
theorem Written.unique {d e : Decimal} (hd : Written s d) (he : Written s e) : d = e := by
  obtain ⟨negative, unsigned, parts, hsign, hscan, -, -, rfl⟩ := hd.scan
  obtain ⟨negative', unsigned', parts', hsign', hscan', -, -, rfl⟩ := he.scan
  obtain ⟨rfl, rfl⟩ := Prod.mk.inj (hsign.symm.trans hsign')
  obtain ⟨rfl, -⟩ := Prod.mk.inj (hscan.symm.trans hscan')
  rfl

end Decimal

namespace Coercion.Kind

open Binary64 Text

/-- **A decimal literal is read as the decimal that it writes.** -/
theorem decimal?_of_written {s : List Char} {d : Decimal} (h : Decimal.Written s d) :
    decimal? s = d.toBinary64? := by
  obtain ⟨negative, unsigned, parts, hsign, hscan, hne, hany, rfl⟩ := h.scan
  unfold decimal?
  rw [hsign]
  dsimp only
  rw [hscan]
  simp [hne, hany]

/-- Nothing else is read. -/
theorem exists_written_of_decimal? {s : List Char} {x : Binary64} (h : decimal? s = some x) :
    ∃ d, Decimal.Written s d := by
  cases hsign : Decimal.scanSign s with
  | mk negative tail =>
  cases hscan : Decimal.scan tail with
  | mk parts rest =>
  unfold decimal? at h
  rw [hsign] at h
  dsimp only at h
  rw [hscan] at h
  dsimp only at h
  split at h
  · cases h
  split at h
  · cases h
  split at h
  · cases h
  rename_i hend hdigits hany
  obtain rfl : rest = [] := by simpa using hend
  obtain ⟨sign, rfl, hwritten, -⟩ := Decimal.exists_of_scanSign hsign
  obtain ⟨mantissa, mark, rfl, hmantissa, hmark⟩ :=
    Decimal.exists_written_of_scan hscan (by simpa using hdigits) (by simpa using hany)
  exact ⟨_, .intro hwritten hmantissa hmark⟩

/-! ## Literals -/

/-- A text is a hexadecimal literal: its mark, what stands for a sign, and digits. -/
inductive WritesHexadecimal (sign : List Char) : List Char → Nat → Prop where
  | intro {mark : Char} {ds : List Char} {n : Nat} (hmark : mark = 'x' ∨ mark = 'X') (hne : ds ≠ [])
    (hds : hexNumber? ds = some n) : WritesHexadecimal sign ('0' :: mark :: (sign ++ ds)) n

/-- **The literals of conversion to a number**, blanks around them aside: nothing at all, a
hexadecimal literal, or a decimal one that is not beyond the doubles. -/
inductive WritesNumber : List Char → ℚ → Prop where
  | empty : WritesNumber [] 0
  | hexadecimal {t : List Char} {n : Nat} (h : WritesHexadecimal [] t n) : WritesNumber t n
  | decimal {t : List Char} {d : Decimal} (h : Decimal.Written t d) (hlt : |d.toRat| < limit) :
    WritesNumber t d.toRat

/-- **What a conversion of a text to a number is to give**: the double nearest to its literal, and
the text itself if it is none. -/
inductive ReadsNumber (s : String) : Json → Prop where
  | number {v : ℚ} {x : Binary64} (h : WritesNumber (trim s.toList) v) (hx : Nearest v x) :
    ReadsNumber s (.number (.ofBinary64 x))
  | text (h : ∀ v, ¬ WritesNumber (trim s.toList) v) : ReadsNumber s (.string s)

/-- A text with a plus sign between the hexadecimal mark and the digits, or one whose hexadecimal
digits do not fit 64 bits. -/
inductive Misread (t : List Char) : Prop where
  | signed {n : Nat} (h : WritesHexadecimal ['+'] t n) (hlt : n < 2 ^ 64)
  | long {n : Nat} (h : WritesHexadecimal [] t n) (hle : 2 ^ 64 ≤ n)

variable {s t ds sign : List Char} {n : Nat} {mark : Char} {x : Binary64}

theorem hexNumber?_plus (ds : List Char) : hexNumber? ('+' :: ds) = none := rfl

/-- Hexadecimal digits are read after a plus sign as without one. -/
theorem hexadecimal?_append (hsign : sign = [] ∨ sign = ['+']) (hne : ds ≠ [])
    (hds : hexNumber? ds = some n) :
    hexadecimal? (sign ++ ds) = if n < 2 ^ 64 then some n else none := by
  have hnonempty : ds.isEmpty = false := by simpa using hne
  rcases hsign with rfl | rfl
  · unfold hexadecimal?
    rw [List.nil_append]
    split
    · -- a plus sign is no digit
      rw [hexNumber?_plus] at hds
      cases hds
    · simp [hds, hnonempty]
  · simp [hexadecimal?, hds, hnonempty]

theorem exists_of_hexadecimal? (h : hexadecimal? s = some n) : n < 2 ^ 64 ∧
    ∃ sign ds, s = sign ++ ds ∧ (sign = [] ∨ sign = ['+']) ∧ ds ≠ [] ∧ hexNumber? ds = some n := by
  obtain ⟨sign, ds, rfl, hsign, hread⟩ : ∃ sign ds, s = sign ++ ds ∧ (sign = [] ∨ sign = ['+']) ∧
      (if ds.isEmpty then none else (hexNumber? ds).bind fun n =>
        if n < 2 ^ 64 then some n else none) = some n := by
    unfold hexadecimal? at h
    split at h
    · exact ⟨['+'], _, rfl, .inr rfl, h⟩
    · exact ⟨[], _, rfl, .inl rfl, h⟩
  split at hread
  · cases hread
  · rename_i hne
    obtain ⟨m, hm, hfits⟩ := Option.bind_eq_some_iff.1 hread
    split at hfits
    · rename_i hlt
      obtain rfl := Option.some.inj hfits
      exact ⟨hlt, sign, ds, rfl, hsign, by simpa using hne, hm⟩
    · cases hfits

theorem literal?_hexadecimal (hmark : mark = 'x' ∨ mark = 'X') (s : List Char) :
    literal? ('0' :: mark :: s) = (hexadecimal? s).bind fun n => ofRatio? false n 1 := by
  rcases hmark with rfl | rfl <;> rfl

/-- A text that is neither empty nor marked as hexadecimal is read as a decimal literal. -/
theorem literal?_decimal (hne : t ≠ [])
    (hmark : ∀ mark s, t = '0' :: mark :: s → mark ≠ 'x' ∧ mark ≠ 'X') :
    literal? t = decimal? t := by
  unfold literal?
  split
  · exact absurd rfl hne
  · exact absurd rfl (hmark _ _ rfl).1
  · exact absurd rfl (hmark _ _ rfl).2
  · rfl

/-- No decimal literal is marked as hexadecimal. -/
theorem not_written_hexadecimal {d : Decimal} (hmark : mark = 'x' ∨ mark = 'X') :
    ¬ Decimal.Written ('0' :: mark :: s) d := by
  intro h
  generalize ht : '0' :: mark :: s = t at h
  obtain ⟨hsign, hmantissa, hexponent⟩ := h
  -- a decimal literal would be read to its end, but the mark stays
  obtain ⟨parts, hscan, -⟩ := Decimal.scan_written hmantissa hexponent
  have hx : mark.isDigit = false ∧ mark ≠ '.' ∧ mark ≠ 'e' ∧ mark ≠ 'E' := by
    rcases hmark with rfl | rfl <;> decide
  obtain ⟨hdigit, hpoint, he, hE⟩ := hx
  cases hsign with
  | none =>
    rw [List.nil_append] at ht
    have hwhole : Decimal.scanDigits ('0' :: mark :: s) = (['0'], mark :: s) := by
      simp [Decimal.scanDigits, hdigit]
    rw [← ht, Decimal.scan_whole hwhole (by simpa using hpoint)] at hscan
    simp [Decimal.scanExponent, he, hE] at hscan
  | plus => cases ht
  | minus => cases ht

/-- **A decimal literal is read as its double.** -/
theorem literal?_of_written {d : Decimal} (h : Decimal.Written t d) :
    literal? t = d.toBinary64? := by
  have hmark : ∀ mark s, t = '0' :: mark :: s → mark ≠ 'x' ∧ mark ≠ 'X' := by
    rintro mark s rfl
    exact ⟨fun hx => not_written_hexadecimal (.inl hx) h,
      fun hx => not_written_hexadecimal (.inr hx) h⟩
  rw [literal?_decimal h.ne_nil hmark, decimal?_of_written h]

/-- **What is read for a hexadecimal literal**, with or without a plus sign. -/
theorem literal?_of_writesHexadecimal (hsign : sign = [] ∨ sign = ['+'])
    (h : WritesHexadecimal sign t n) : (n < 2 ^ 64 ∧ ∃ x, Nearest n x ∧ literal? t = some x) ∨
      (2 ^ 64 ≤ n ∧ literal? t = none) := by
  obtain ⟨hmark, hne, hds⟩ := h
  rw [literal?_hexadecimal hmark, hexadecimal?_append hsign hne hds]
  split
  · rename_i hlt
    have hround : ofRatio? false n 1 = some (ofInt n hlt) := by
      have hnonneg : decide ((n : ℤ) < 0) = false := decide_eq_false (by omega)
      rw [← ofRatio?_natAbs, hnonneg, Int.natAbs_natCast]
    have hnearest : Nearest (n : ℤ) (ofInt n hlt) := nearest_ofInt (n := n) hlt
    rw [Int.cast_natCast] at hnearest
    refine .inl ⟨hlt, _, hnearest, ?_⟩
    rw [Option.bind_some, hround]
  · rename_i hle
    exact .inr ⟨not_lt.1 hle, rfl⟩

/-- **What is read as a number is a literal**, misread texts apart. -/
theorem exists_writesNumber_of_literal? (h : literal? t = some x) (ht : ¬ Misread t) :
    ∃ v, WritesNumber t v ∧ Nearest v x := by
  by_cases hempty : t = []
  · subst hempty
    obtain rfl := Option.some.inj h
    exact ⟨0, .empty, nearest_zero false (by norm_num)⟩
  by_cases hmarked : ∃ mark s, t = '0' :: mark :: s ∧ (mark = 'x' ∨ mark = 'X')
  · obtain ⟨mark, s, rfl, hmark⟩ := hmarked
    obtain ⟨n, hn, -⟩ := Option.bind_eq_some_iff.1 (literal?_hexadecimal hmark s ▸ h)
    obtain ⟨hlt, sign, ds, rfl, hsign, hne, hds⟩ := exists_of_hexadecimal? hn
    have hwrites : WritesHexadecimal sign ('0' :: mark :: (sign ++ ds)) n := .intro hmark hne hds
    rcases hsign with rfl | rfl
    · rcases literal?_of_writesHexadecimal (.inl rfl) hwrites with
        ⟨-, y, hnearest, hread⟩ | ⟨hle, -⟩
      · obtain rfl := Option.some.inj (h.symm.trans hread)
        exact ⟨n, .hexadecimal hwrites, hnearest⟩
      · exact absurd hle (not_le.2 hlt)
    · exact absurd (.signed hwrites hlt) ht
  · have hdecimal : literal? t = decimal? t := by
      refine literal?_decimal hempty fun mark s hs => ⟨?_, ?_⟩
      · rintro rfl
        exact hmarked ⟨'x', s, hs, .inl rfl⟩
      · rintro rfl
        exact hmarked ⟨'X', s, hs, .inr rfl⟩
    rw [hdecimal] at h
    obtain ⟨d, hwritten⟩ := exists_written_of_decimal? h
    have hrounds := Decimal.rounds_toBinary64? d
    rw [← decimal?_of_written hwritten, h] at hrounds
    cases hrounds with
    | finite hlt _ hnearest => exact ⟨d.toRat, .decimal hwritten hlt, hnearest⟩

/-- **A literal is read as a number**, misread texts apart. -/
theorem literal?_ne_none {v : ℚ} (h : WritesNumber t v) (ht : ¬ Misread t) : literal? t ≠ none := by
  cases h with
  | empty => simp [literal?]
  | hexadecimal hwrites =>
    rcases literal?_of_writesHexadecimal (.inl rfl) hwrites with ⟨-, x, -, hread⟩ | ⟨hle, -⟩
    · simp [hread]
    · exact absurd (.long hwrites hle) ht
  | @decimal _ d hwritten hlt =>
    rw [literal?_of_written hwritten]
    have hrounds := Decimal.rounds_toBinary64? d
    intro hnone
    rw [hnone] at hrounds
    cases hrounds with
    | infinite hle => exact absurd hlt (not_lt.2 hle)

/-- **A text writes at most one number.** -/
theorem WritesNumber.unique {v w : ℚ} (hv : WritesNumber t v) (hw : WritesNumber t w) : v = w := by
  cases hv with
  | empty =>
    cases hw with
    | empty => rfl
    | hexadecimal hwrites => cases hwrites
    | decimal hwritten => exact absurd rfl hwritten.ne_nil
  | hexadecimal hwrites =>
    obtain ⟨hmark, -, hds⟩ := hwrites
    cases hw with
    | hexadecimal hother =>
      obtain ⟨-, -, hds'⟩ := hother
      obtain rfl := Option.some.inj (hds.symm.trans hds')
      rfl
    | decimal hwritten => exact absurd hwritten (not_written_hexadecimal hmark)
  | decimal hwritten =>
    cases hw with
    | empty => exact absurd rfl hwritten.ne_nil
    | hexadecimal hwrites =>
      obtain ⟨hmark, -, -⟩ := hwrites
      exact absurd hwritten (not_written_hexadecimal hmark)
    | decimal hother => rw [hwritten.unique hother]

/-- No literal has a plus sign after its mark. -/
theorem not_writesNumber_plus {v : ℚ} (h : WritesHexadecimal ['+'] t n) : ¬ WritesNumber t v := by
  obtain ⟨hmark, -, -⟩ := h
  intro hwrites
  cases hwrites with
  | hexadecimal hwrites =>
    obtain ⟨-, -, hds⟩ := hwrites
    cases hds
  | decimal hwritten => exact not_written_hexadecimal hmark hwritten

section Text

variable {s : String}

/-- What becomes of a text that is a literal. -/
theorem apply_number_of_literal? (h : literal? (trim s.toList) = some x) :
    number.apply (.string s) = .number (.ofBinary64 x) := by
  simp [apply, toNumber, h]

/-- What becomes of a text that is none. -/
theorem apply_number_of_literal?_none (h : literal? (trim s.toList) = none) :
    number.apply (.string s) = .string s := by
  simp [apply, toNumber, h]

/-- What becomes of a text that is a hexadecimal literal, with or without a plus sign. -/
theorem apply_number_hexadecimal (hsign : sign = [] ∨ sign = ['+'])
    (h : WritesHexadecimal sign (trim s.toList) n) :
    (n < 2 ^ 64 ∧ ∃ x, Nearest n x ∧ number.apply (.string s) = .number (.ofBinary64 x)) ∨
      (2 ^ 64 ≤ n ∧ number.apply (.string s) = .string s) := by
  rcases literal?_of_writesHexadecimal hsign h with ⟨hlt, x, hnearest, hread⟩ | ⟨hle, hread⟩
  · exact .inl ⟨hlt, x, hnearest, apply_number_of_literal? hread⟩
  · exact .inr ⟨hle, apply_number_of_literal?_none hread⟩

/-- A misread text does not become what it is meant to become. -/
theorem not_readsNumber_of_misread (h : Misread (trim s.toList)) :
    ¬ ReadsNumber s (number.apply (.string s)) := by
  intro hreads
  cases h with
  | signed h hlt =>
    rcases apply_number_hexadecimal (.inr rfl) h with ⟨-, x, -, hresult⟩ | ⟨hle, -⟩
    · rw [hresult] at hreads
      generalize hnumber : Json.number (.ofBinary64 x) = result at hreads
      cases hreads with
      | number hwrites => exact not_writesNumber_plus h hwrites
      | text => cases hnumber
    · exact absurd hle (not_le.2 hlt)
  | long h hle =>
    rcases apply_number_hexadecimal (.inl rfl) h with ⟨hlt, -⟩ | ⟨-, hresult⟩
    · exact absurd hle (not_le.2 hlt)
    · rw [hresult] at hreads
      cases hreads with
      | text htext => exact htext _ (.hexadecimal h)

/-- Every other text does. -/
theorem readsNumber_of_not_misread (h : ¬ Misread (trim s.toList)) :
    ReadsNumber s (number.apply (.string s)) := by
  cases hread : literal? (trim s.toList) with
  | none =>
    rw [apply_number_of_literal?_none hread]
    exact .text fun v hv => literal?_ne_none hv h hread
  | some x =>
    obtain ⟨v, hwrites, hnearest⟩ := exists_writesNumber_of_literal? hread h
    rw [apply_number_of_literal? hread]
    exact .number hwrites hnearest

end Text

/-- **Conversion to a number reads its literals**, and leaves every other text as it is, two kinds of
hexadecimal texts apart. A plus sign after the mark does not matter to it, and digits that do not
fit 64 bits are not read. -/
theorem apply_number_readsNumber_iff (s : String) :
    (ReadsNumber s (number.apply (.string s)) ↔ ¬ Misread (trim s.toList)) ∧
      (∀ n, WritesHexadecimal ['+'] (trim s.toList) n → n < 2 ^ 64 →
        ∃ x, Nearest n x ∧ number.apply (.string s) = .number (.ofBinary64 x)) ∧
      (∀ n, WritesHexadecimal [] (trim s.toList) n → 2 ^ 64 ≤ n →
        number.apply (.string s) = .string s) := by
  refine ⟨⟨fun hreads h => not_readsNumber_of_misread h hreads, readsNumber_of_not_misread⟩,
    fun n h hlt => ?_, fun n h hle => ?_⟩
  · rcases apply_number_hexadecimal (.inr rfl) h with ⟨-, hresult⟩ | ⟨hle, -⟩
    · exact hresult
    · exact absurd hle (not_le.2 hlt)
  · rcases apply_number_hexadecimal (.inl rfl) h with ⟨hlt, -⟩ | ⟨-, hresult⟩
    · exact absurd hle (not_le.2 hlt)
    · exact hresult

/-- A plus sign after the mark is taken for a part of the literal, and seventeen digits are taken
for none. -/
theorem apply_number_slips :
    (number.apply (.string "0x+1f") = .number (.int 31 (by decide)) ∧
        ¬ ReadsNumber "0x+1f" (number.apply (.string "0x+1f"))) ∧
      number.apply (.string "0x10000000000000000") = .string "0x10000000000000000" ∧
        ¬ ReadsNumber "0x10000000000000000" (number.apply (.string "0x10000000000000000")) := by
  have hsigned : WritesHexadecimal ['+'] (trim "0x+1f".toList) 31 :=
    @WritesHexadecimal.intro ['+'] 'x' ['1', 'f'] 31 (.inl rfl) (by decide) (by decide)
  have hlong : WritesHexadecimal [] (trim "0x10000000000000000".toList) (2 ^ 64) :=
    @WritesHexadecimal.intro [] 'x' "10000000000000000".toList (2 ^ 64) (.inl rfl) (by decide)
      (by decide)
  refine ⟨⟨?_, not_readsNumber_of_misread (.signed hsigned (by decide))⟩, ?_,
    not_readsNumber_of_misread (.long hlong (by decide))⟩
  · rcases apply_number_hexadecimal (.inr rfl) hsigned with ⟨-, x, hnearest, hresult⟩ | ⟨hle, -⟩
    · have hexact : x.toRat = (31 : ℤ) := by
        have hcast : ((31 : Nat) : ℚ) = (31 : ℤ) := by norm_num
        rw [hcast] at hnearest
        exact hnearest.toRat_eq_iff.2 (exists_toRat_eq (by decide))
      obtain ⟨hrange, hint⟩ := Json.Number.ofBinary64_of_toRat_eq hexact (by decide)
      rw [hresult, hint]
    · exact absurd hle (by decide)
  · rcases apply_number_hexadecimal (.inl rfl) hlong with ⟨hlt, -⟩ | ⟨-, hresult⟩
    · exact absurd hlt (by decide)
    · exact hresult

end Coercion.Kind

end Rulebook
