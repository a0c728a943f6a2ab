import Rulebook.Decimal.Digits
import Rulebook.Proofs.Patterns.Language
/-!
# Patterns — the languages of parts

What the language of each part of a format is: characters of a set, sequences, repetitions, and parts
with a character between them (`Formats.joined`).
-/

namespace Rulebook

namespace Pattern

namespace Expr

variable {e f g h : Expr} {w : List Char}

/-! ## Expressions -/

theorem mem_language_one {set : CodeSet} :
    w ∈ (one set).language ↔ ∃ c, set.contains c.toNat = true ∧ w = [c] := Iff.rfl

theorem mem_language_seq {first second : Expr} : w ∈ (seq first second).language ↔
    ∃ u ∈ first.language, ∃ v ∈ second.language, u ++ v = w := Language.mem_mul

/-- A text of one character of a set after the other. -/
theorem mem_pow_one_iff {set : CodeSet} {n : Nat} :
    w ∈ (one set).language ^ n ↔ w.length = n ∧ ∀ c ∈ w, set.contains c.toNat = true := by
  induction n generalizing w with
  | zero =>
    rw [pow_zero, Language.mem_one]
    constructor
    · rintro rfl
      simp
    · rintro ⟨hlength, -⟩
      exact List.length_eq_zero_iff.1 hlength
  | succ n ih =>
    rw [pow_succ', Language.mem_mul]
    constructor
    · rintro ⟨u, ⟨c, hc, rfl⟩, v, hv, rfl⟩
      obtain ⟨hlength, hall⟩ := ih.1 hv
      exact ⟨by simp [hlength], by simpa using ⟨hc, hall⟩⟩
    · rintro ⟨hlength, hall⟩
      cases w with
      | nil => cases hlength
      | cons c rest =>
        rw [List.forall_mem_cons] at hall
        exact ⟨[c], ⟨c, hall.1, rfl⟩, rest, ih.2 ⟨Nat.succ.inj hlength, hall.2⟩, rfl⟩

/-- A repetition of one character of a set: its length counts the rounds. -/
theorem mem_language_repetition_one {set : CodeSet} {least : Nat} {most : Option Nat} :
    w ∈ (repetition (one set) least most).language ↔
      least ≤ w.length ∧ (∀ m ∈ most, w.length - least ≤ m - least) ∧
        ∀ c ∈ w, set.contains c.toNat = true := by
  simp only [language]
  constructor
  · rintro ⟨extra, hmost, hw⟩
    obtain ⟨hlength, hall⟩ := mem_pow_one_iff.1 hw
    exact ⟨by omega, fun m hm => by have := hmost m hm; omega, hall⟩
  · rintro ⟨hleast, hmost, hall⟩
    exact ⟨w.length - least, hmost, mem_pow_one_iff.2 ⟨by omega, hall⟩⟩

/-- Any repetition: some texts of the body, one after the other. -/
theorem mem_language_repetition {least : Nat} {most : Option Nat} :
    w ∈ (repetition e least most).language ↔
      ∃ parts : List (List Char), w = parts.flatten ∧ least ≤ parts.length ∧
        (∀ m ∈ most, parts.length - least ≤ m - least) ∧ ∀ part ∈ parts, part ∈ e.language := by
  simp only [language]
  constructor
  · rintro ⟨extra, hmost, hw⟩
    obtain ⟨parts, rfl, hlength, hparts⟩ := Language.mem_pow.1 hw
    exact ⟨parts, rfl, by omega, fun m hm => by have := hmost m hm; omega, hparts⟩
  · rintro ⟨parts, rfl, hleast, hmost, hparts⟩
    exact ⟨parts.length - least, hmost, Language.mem_pow.2 ⟨parts, rfl, by omega, hparts⟩⟩

theorem language_three : (sequence [e, f, g]).language =
    e.language * f.language * g.language := by
  simp only [language_sequence_cons, language_sequence_nil, mul_one, mul_assoc]

theorem language_four : (sequence [e, f, g, h]).language =
    e.language * (f.language * (g.language * h.language)) := by
  simp only [language_sequence_cons, language_sequence_nil, mul_one]

end Expr

end Pattern

/-! ## Named parts -/

theorem CodeSet.contains_range_iff {first last c : Nat} :
    (CodeSet.range first last).contains c = true ↔ first ≤ c ∧ c ≤ last := by
  simp only [CodeSet.range, CodeSet.contains, Unicode.inRanges]
  split <;> simp <;> omega

namespace Formats

open Pattern (Expr)

variable {set : CodeSet} {e : Expr} {w : List Char}

theorem contains_digits_iff {c : Char} : digits.contains c.toNat = true ↔ c.isDigit = true := by
  rw [digits, CodeSet.contains_range_iff, Decimal.isDigit_iff]

theorem mem_language_oneOrMore :
    w ∈ (oneOrMore set).language ↔ w ≠ [] ∧ ∀ c ∈ w, set.contains c.toNat = true := by
  rw [oneOrMore, Expr.mem_language_repetition_one, Nat.one_le_iff_ne_zero, ne_eq,
    List.length_eq_zero_iff]
  simp

theorem mem_language_zeroOrMore :
    w ∈ (zeroOrMore set).language ↔ ∀ c ∈ w, set.contains c.toNat = true := by
  rw [zeroOrMore, Expr.mem_language_repetition_one]
  simp

theorem mem_language_optional : w ∈ (optional e).language ↔ w = [] ∨ w ∈ e.language := by
  rw [optional, Expr.mem_language_repetition]
  constructor
  · rintro ⟨parts, rfl, -, hmost, hparts⟩
    have hlength : parts.length ≤ 1 := by simpa using hmost 1 rfl
    match parts, hlength with
    | [], _ => exact .inl rfl
    | [part], _ => exact .inr (by simpa using hparts)
  · rintro (rfl | hw)
    · exact ⟨[], by simp⟩
    · exact ⟨[w], by simpa using hw⟩

theorem language_optional : (optional e).language = 1 + e.language := by
  ext w
  rw [mem_language_optional, Language.mem_add, Language.mem_one]

theorem mem_language_times_iff {n : Nat} : w ∈ (times n e).language ↔ w ∈ e.language ^ n := by
  constructor
  · rintro ⟨extra, hmost, hw⟩
    have hzero : extra ≤ n - n := hmost n rfl
    obtain rfl : extra = 0 := by omega
    exact hw
  · exact fun hw => ⟨0, by simp, hw⟩

theorem mem_language_char {c : Char} : w ∈ (char c).language ↔ w = [c] := by
  rw [char, Expr.mem_language_one]
  simp only [CodeSet.single, CodeSet.contains_range_iff]
  constructor
  · rintro ⟨d, ⟨hle, hge⟩, rfl⟩
    rw [Char.toNat_inj.1 (Nat.le_antisymm hle hge)]
  · rintro rfl
    exact ⟨c, ⟨Nat.le_refl _, Nat.le_refl _⟩, rfl⟩

theorem language_char (c : Char) : (char c).language = {[c]} := by
  ext w
  exact mem_language_char

/-! ## Parts with a character between them -/

variable {c : Char} {l : Language Char} {n : Nat}

/-- Texts of a language with a character between them, at least so many of them. -/
def joined (c : Char) (least : Nat) (l : Language Char) : Language Char :=
  {w | ∃ parts : List (List Char), (least ≤ parts.length ∧ ∀ part ∈ parts, part ∈ l) ∧
    w = [c].intercalate parts}

/-- What stands between parts is the character that they are joined with. -/
theorem mem_intercalate {d : Char} {parts : List (List Char)} (h : d ∈ [c].intercalate parts) :
    d = c ∨ ∃ part ∈ parts, d ∈ part := by
  induction parts with
  | nil => simp at h
  | cons part rest ih =>
    cases rest with
    | nil => exact .inr ⟨part, by simp, by simpa using h⟩
    | cons second rest =>
      rw [List.intercalate_cons_cons, List.mem_append, List.mem_append, List.mem_singleton] at h
      rcases h with (h | h) | h
      · exact .inr ⟨part, List.mem_cons_self, h⟩
      · exact .inl h
      · exact (ih h).imp_right fun ⟨part, hpart, hd⟩ => ⟨part, List.mem_cons_of_mem _ hpart, hd⟩

theorem mem_intercalate_of_mem {d : Char} {part : List Char} {parts : List (List Char)}
    (hpart : part ∈ parts) (hd : d ∈ part) : d ∈ [c].intercalate parts := by
  induction parts with
  | nil => cases hpart
  | cons first rest ih =>
    cases rest with
    | nil =>
      rw [List.mem_singleton] at hpart
      rwa [List.intercalate_singleton, ← hpart]
    | cons second rest =>
      rw [List.intercalate_cons_cons, List.mem_append, List.mem_append]
      rcases List.mem_cons.1 hpart with rfl | hpart
      · exact .inl (.inl hd)
      · exact .inr (ih hpart)

/-- A text, and any number of times the character and another text. -/
theorem mem_mul_pow_iff : w ∈ l * ({[c]} * l) ^ n ↔ ∃ parts : List (List Char),
    parts.length = n + 1 ∧ (∀ part ∈ parts, part ∈ l) ∧ w = [c].intercalate parts := by
  induction n generalizing w with
  | zero =>
    rw [pow_zero, mul_one]
    constructor
    · intro hw
      exact ⟨[w], rfl, by simpa using hw, by simp⟩
    · rintro ⟨parts, hlength, hparts, rfl⟩
      obtain ⟨part, rfl⟩ := List.length_eq_one_iff.1 hlength
      simpa using hparts
  | succ n ih =>
    rw [pow_succ', mul_assoc, Language.mem_mul]
    constructor
    · rintro ⟨first, hfirst, rest, ⟨mark, rfl, w, hw, rfl⟩, rfl⟩
      obtain ⟨parts, hlength, hparts, rfl⟩ := ih.1 hw
      have hne : parts ≠ [] := by
        rintro rfl
        cases hlength
      refine ⟨first :: parts, by rw [List.length_cons, hlength],
        List.forall_mem_cons.2 ⟨hfirst, hparts⟩, ?_⟩
      rw [List.intercalate_cons_of_ne_nil hne, List.append_assoc]
    · rintro ⟨parts, hlength, hparts, rfl⟩
      cases parts with
      | nil => cases hlength
      | cons first rest =>
        have hrest : rest.length = n + 1 := Nat.succ.inj hlength
        have hne : rest ≠ [] := by
          rintro rfl
          cases hrest
        rw [List.forall_mem_cons] at hparts
        rw [List.intercalate_cons_of_ne_nil hne, List.append_assoc]
        have hw := ih.2 ⟨rest, hrest, hparts.2, rfl⟩
        exact ⟨first, hparts.1, _, ⟨[c], rfl, _, hw, rfl⟩, rfl⟩

theorem mem_mul_repetition_iff {least : Nat} :
    w ∈ l * (Expr.repetition e least none).language ↔
      ∃ extra, w ∈ l * e.language ^ (least + extra) := by
  constructor
  · rintro ⟨u, hu, v, ⟨extra, -, hv⟩, rfl⟩
    exact ⟨extra, u, hu, v, hv, rfl⟩
  · rintro ⟨extra, u, hu, v, hv, rfl⟩
    exact ⟨u, hu, v, ⟨extra, by simp, hv⟩, rfl⟩

theorem mem_repetition_mul_iff {least : Nat} :
    w ∈ (Expr.repetition e least none).language * l ↔
      ∃ extra, w ∈ e.language ^ (least + extra) * l := by
  constructor
  · rintro ⟨u, ⟨extra, -, hu⟩, v, hv, rfl⟩
    exact ⟨extra, u, hu, v, hv, rfl⟩
  · rintro ⟨extra, u, hu, v, hv, rfl⟩
    exact ⟨u, ⟨extra, by simp, hu⟩, v, hv, rfl⟩

/-- The first text apart, and each further one with the character before it. -/
theorem language_mul_repetition (e : Expr) (c : Char) (least : Nat) :
    e.language * (Expr.repetition (.seq (char c) e) least none).language =
      joined c (least + 1) e.language := by
  ext w
  rw [mem_mul_repetition_iff]
  simp only [Expr.language, language_char, mem_mul_pow_iff]
  constructor
  · rintro ⟨extra, parts, hlength, hparts, rfl⟩
    exact ⟨parts, ⟨by omega, hparts⟩, rfl⟩
  · rintro ⟨parts, ⟨hleast, hparts⟩, rfl⟩
    exact ⟨parts.length - (least + 1), parts, by omega, hparts, rfl⟩

/-- The last text apart, and each one before it with the character after it. -/
theorem repetition_mul_language (e : Expr) (c : Char) (least : Nat) :
    (Expr.repetition (.seq e (char c)) least none).language * e.language =
      joined c (least + 1) e.language := by
  rw [← language_mul_repetition]
  ext w
  rw [mem_repetition_mul_iff, mem_mul_repetition_iff]
  simp only [Expr.language, language_char, mul_pow_mul]

end Formats

end Rulebook
