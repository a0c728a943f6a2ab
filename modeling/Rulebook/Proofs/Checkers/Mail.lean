import Mathlib
import Rulebook.Validator
import Rulebook.Proofs.Checkers.Builtin
import Rulebook.Proofs.Patterns.Parts
import Rulebook.Proofs.Text.Blank
import Rulebook.Proofs.Unicode.Folding
/-!
# Checkers — mail addresses

A mail address is atoms between points, an `@`, and two labels or more between points
(`Mail.IsAddress`). The format says so with repetitions that can divide a text in many ways, but its
language is that of the addresses (`Mail.isMatch_email_iff`). Its letters count in either case.
Two letters from beyond ASCII fold to letters of ASCII, so they are accepted besides those that the
format spells (`Checker.run_email`).
-/

namespace Rulebook

open Pattern (Expr)
open Unicode (isCapital)

/-! ## Addresses -/

namespace Mail

/-- What may stand in an atom besides letters and digits. -/
def marks : List Char := "!#$%&'*+/=?^_`\x7b|\x7d~-".toList

/-- A letter of ASCII. -/
def IsLetter (c : Char) : Prop :=
  c.isAlpha = true
deriving Decidable

/-- One of the two letters beyond ASCII that fold to a letter of ASCII: the long s and the Kelvin
sign. -/
def IsAlien (c : Char) : Prop :=
  c.toNat = 0x17F ∨ c.toNat = 0x212A
deriving Decidable

/-- An atom: letters, digits and marks. -/
structure IsAtom (letter : Char → Prop) (w : List Char) : Prop where
  ne_nil : w ≠ []
  chars : ∀ c ∈ w, letter c ∨ c.isDigit = true ∨ c ∈ marks

/-- A label: letters, digits and hyphens, with no hyphen at either end. -/
structure IsLabel (letter : Char → Prop) (w : List Char) : Prop where
  ne_nil : w ≠ []
  chars : ∀ c ∈ w, letter c ∨ c.isDigit = true ∨ c = '-'
  head : w.head? ≠ some '-'
  last : w.getLast? ≠ some '-'

-- The characters of the text are looked through, not all characters.
instance (letter : Char → Prop) [DecidablePred letter] (w : List Char) :
    Decidable (IsAtom letter w) :=
  decidable_of_iff
    (w ≠ [] ∧ w.all (fun c => letter c ∨ c.isDigit = true ∨ c ∈ marks) = true)
    ⟨fun h => ⟨h.1, by simpa using h.2⟩, fun h => ⟨h.ne_nil, by simpa using h.chars⟩⟩

instance (letter : Char → Prop) [DecidablePred letter] (w : List Char) :
    Decidable (IsLabel letter w) :=
  decidable_of_iff
    ((w ≠ [] ∧ w.all (fun c => letter c ∨ c.isDigit = true ∨ c = '-') = true) ∧
      w.head? ≠ some '-' ∧ w.getLast? ≠ some '-')
    ⟨fun h => ⟨h.1.1, by simpa using h.1.2, h.2.1, h.2.2⟩,
      fun h => ⟨⟨h.ne_nil, by simpa using h.chars⟩, h.head, h.last⟩⟩

/-- **A mail address**, for a notion of letters: one atom or more, an `@`, two labels or more. -/
def IsAddress (letter : Char → Prop) (w : List Char) : Prop :=
  ∃ atoms labels : List (List Char),
    (1 ≤ atoms.length ∧ ∀ atom ∈ atoms, IsAtom letter atom) ∧
      (2 ≤ labels.length ∧ ∀ label ∈ labels, IsLabel letter label) ∧
        w = ['.'].intercalate atoms ++ '@' :: ['.'].intercalate labels

variable {letter other : Char → Prop} {w : List Char} {c : Char}

theorem marks_ascii (h : c ∈ marks) : c.toNat < 128 ∧ Text.isBlank c = false := by
  have hall : marks.all (fun c => c.toNat < 128 && !Text.isBlank c) = true := by decide +kernel
  simpa using List.all_eq_true.1 hall c h

theorem letter_ascii (h : IsLetter c) : c.toNat < 128 ∧ Text.isBlank c = false := by
  have hlt : c.toNat < 128 := by
    simp only [IsLetter, Char.isAlpha, Char.isUpper, Char.isLower, Bool.or_eq_true,
      Bool.and_eq_true, decide_eq_true_eq] at h
    rcases h with ⟨-, hhigh⟩ | ⟨-, hhigh⟩
    · have hhigh : c.toNat ≤ 90 := UInt32.le_iff_toNat_le.1 hhigh
      omega
    · have hhigh : c.toNat ≤ 122 := UInt32.le_iff_toNat_le.1 hhigh
      omega
  have hletters : ∀ n < 128, (Char.ofNat n).isAlpha = true → Text.isBlank (Char.ofNat n) = false := by
    decide +kernel
  exact ⟨hlt, Unicode.forall_ascii (P := fun c => c.isAlpha = true → Text.isBlank c = false)
    hletters hlt h⟩

theorem IsAlien.isBlank_eq_false (h : IsAlien c) : Text.isBlank c = false := by
  unfold Text.isBlank
  rcases h with h | h
  · rw [h]
    decide
  · rw [h]
    decide

theorem digit_ascii (h : c.isDigit = true) : c.toNat < 128 ∧ Text.isBlank c = false := by
  have hhigh := (Decimal.isDigit_iff.1 h).2
  exact ⟨by omega, Text.isBlank_of_isDigit h⟩

/-- **An address holds no blank and, letters aside, nothing but ASCII characters.** -/
theorem IsAddress.chars (h : IsAddress letter w) (hc : c ∈ w) :
    letter c ∨ c.toNat < 128 ∧ Text.isBlank c = false := by
  obtain ⟨atoms, labels, ⟨-, hatoms⟩, ⟨-, hlabels⟩, rfl⟩ := h
  rcases List.mem_append.1 hc with hc | hc
  · rcases Formats.mem_intercalate hc with rfl | ⟨atom, hatom, hc⟩
    · exact .inr (by decide)
    · rcases (hatoms atom hatom).chars c hc with h | h | h
      · exact .inl h
      · exact .inr (digit_ascii h)
      · exact .inr (marks_ascii h)
  · rcases List.mem_cons.1 hc with rfl | hc
    · exact .inr (by decide)
    · rcases Formats.mem_intercalate hc with rfl | ⟨label, hlabel, hc⟩
      · exact .inr (by decide)
      · rcases (hlabels label hlabel).chars c hc with h | h | rfl
        · exact .inl h
        · exact .inr (digit_ascii h)
        · exact .inr (by decide)

/-- An address of ASCII letters holds neither of the two others. -/
theorem IsAddress.not_isAlien (h : IsAddress IsLetter w) (hc : c ∈ w) : ¬IsAlien c := by
  have hlt : c.toNat < 128 := (h.chars hc).elim (fun hletter => (letter_ascii hletter).1) (·.1)
  unfold IsAlien
  omega

/-- What letters are matters only for the characters of the address. -/
theorem IsAddress.imp {letter' : Char → Prop} (h : IsAddress letter w)
    (hletter : ∀ c ∈ w, letter c → letter' c) : IsAddress letter' w := by
  obtain ⟨atoms, labels, ⟨hleast, hatoms⟩, ⟨hleast', hlabels⟩, rfl⟩ := h
  refine ⟨atoms, labels, ⟨hleast, fun atom hmem => ?_⟩, ⟨hleast', fun label hmem => ?_⟩, rfl⟩
  · have hatom := hatoms atom hmem
    refine ⟨hatom.ne_nil, fun c hc => (hatom.chars c hc).imp_left (hletter c ?_)⟩
    exact List.mem_append_left _ (Formats.mem_intercalate_of_mem hmem hc)
  · have hlabel := hlabels label hmem
    refine ⟨hlabel.ne_nil, fun c hc => (hlabel.chars c hc).imp_left (hletter c ?_),
      hlabel.head, hlabel.last⟩
    exact List.mem_append_right _ (List.mem_cons_of_mem _ (Formats.mem_intercalate_of_mem hmem hc))

/-! ## The characters of the format -/

/-- Ranges of ASCII characters that leave the capitals out. -/
def leaveCapitals (rs : List Unicode.CodeRange) : Bool :=
  rs.all fun r => r.2 < 128 && (r.2 < 0x41 || 0x5A < r.1)

theorem isCapital_of_leaveCapitals {rs : List Unicode.CodeRange} (hrs : leaveCapitals rs = true) :
    ∀ d, (CodeSet.ranges rs).contains d = true → d < 128 ∧ isCapital d = false := by
  intro d hd
  obtain ⟨r, hr, hwithin⟩ := CodeSet.exists_of_contains_ranges hd
  have hrange := List.all_eq_true.1 hrs r hr
  simp only [Bool.and_eq_true, Bool.or_eq_true, decide_eq_true_eq] at hrange
  simp only [isCapital, Bool.and_eq_false_iff, decide_eq_false_iff_not]
  omega

/-- **Small letters and other ASCII characters, in either case**: what such a set holds is seen from
ASCII. -/
theorem contains_folded_iff {rs : List Unicode.CodeRange} (hrs : leaveCapitals rs = true)
    (hs : (CodeSet.ranges rs).contains 0x73 = true) (hk : (CodeSet.ranges rs).contains 0x6B = true)
    (hother : ∀ c, other c → c.toNat < 128)
    (hascii : ∀ n < 128, (CodeSet.ranges rs).contains (if isCapital n then n + 32 else n) = true ↔
      IsLetter (Char.ofNat n) ∨ other (Char.ofNat n)) (c : Char) :
    (CodeSet.folded (.ranges rs)).contains c.toNat = true ↔
      (IsLetter c ∨ IsAlien c) ∨ other c := by
  rw [CodeSet.contains_folded (isCapital_of_leaveCapitals hrs)]
  rcases Nat.lt_or_ge c.toNat 128 with hlt | hge
  · have halien : ¬IsAlien c := by
      unfold IsAlien
      omega
    have hself := hascii c.toNat hlt
    rw [Char.ofNat_toNat] at hself
    rw [Unicode.fold_of_lt hlt, hself, or_iff_left halien]
  · have hletter : ¬IsLetter c := fun h => absurd (letter_ascii h).1 (Nat.not_lt.2 hge)
    have hnone : ¬other c := fun h => absurd (hother c h) (Nat.not_lt.2 hge)
    rw [or_iff_left hnone, or_iff_right hletter, IsAlien]
    by_cases hlong : c.toNat = 0x17F
    · rw [hlong, Unicode.fold_long]
      simp [hs]
    · by_cases hkelvin : c.toNat = 0x212A
      · rw [hkelvin, Unicode.fold_kelvin]
        simp [hk]
      · have hbeyond := Unicode.le_fold hge hlong hkelvin
        have hnot : ¬(CodeSet.ranges rs).contains (Unicode.fold c.toNat) = true := by
          intro h
          have := (isCapital_of_leaveCapitals hrs _ h).1
          omega
        simp [hnot, hlong, hkelvin]

theorem contains_atomChars (c : Char) : Formats.atomChars.contains c.toNat = true ↔
    (IsLetter c ∨ IsAlien c) ∨ c.isDigit = true ∨ c ∈ marks := by
  apply contains_folded_iff
  iterate 3 rfl
  · rintro c (h | h)
    · exact (digit_ascii h).1
    · exact (marks_ascii h).1
  · unfold IsLetter
    decide +kernel

theorem contains_labelChars (c : Char) : Formats.labelChars.contains c.toNat = true ↔
    (IsLetter c ∨ IsAlien c) ∨ c.isDigit = true ∨ c = '-' := by
  apply contains_folded_iff
  iterate 3 rfl
  · rintro c (h | rfl)
    · exact (digit_ascii h).1
    · decide
  · unfold IsLetter
    decide +kernel

theorem contains_labelEnds (c : Char) : Formats.labelEnds.contains c.toNat = true ↔
    (IsLetter c ∨ IsAlien c) ∨ c.isDigit = true := by
  apply contains_folded_iff
  iterate 3 rfl
  · exact fun c h => (digit_ascii h).1
  · unfold IsLetter
    decide +kernel

/-! ## The language of the format -/

theorem mem_language_atom_iff : w ∈ (Formats.oneOrMore Formats.atomChars).language ↔
    IsAtom (fun c => IsLetter c ∨ IsAlien c) w := by
  rw [Formats.mem_language_oneOrMore]
  simp only [contains_atomChars]
  exact ⟨fun h => ⟨h.1, h.2⟩, fun h => ⟨h.ne_nil, h.chars⟩⟩

/-- The characters at the ends of a label are its characters without the hyphen. -/
theorem contains_labelEnds_iff (c : Char) : Formats.labelEnds.contains c.toNat = true ↔
    Formats.labelChars.contains c.toNat = true ∧ c ≠ '-' := by
  have hhyphen : Formats.labelEnds.contains '-'.toNat ≠ true := by decide
  rw [contains_labelChars]
  constructor
  · intro h
    have hne : c ≠ '-' := fun heq => hhyphen (heq ▸ h)
    exact ⟨((contains_labelEnds c).1 h).imp_right .inl, hne⟩
  · rintro ⟨h, hne⟩
    exact (contains_labelEnds c).2 (h.imp_right fun h => h.resolve_right hne)

/-- A label is one character that may stand at its ends, or two with others between them. -/
theorem mem_language_label_iff : w ∈ Formats.label.language ↔
    IsLabel (fun c => IsLetter c ∨ IsAlien c) w := by
  simp only [Formats.label, Expr.mem_language_seq, Formats.mem_language_optional,
    Formats.mem_language_zeroOrMore, Expr.mem_language_one, contains_labelEnds_iff]
  constructor
  · rintro ⟨u, ⟨c, ⟨hc, hne⟩, rfl⟩, v, rfl | ⟨mid, hmid, last, ⟨d, ⟨hd, hlast⟩, rfl⟩, rfl⟩, rfl⟩
    · refine ⟨by simp, ?_, by simpa using hne, by simpa using hne⟩
      simpa using (contains_labelChars c).1 hc
    · refine ⟨by simp, fun b hb => (contains_labelChars b).1 ?_, by simpa using hne, ?_⟩
      · simp only [List.mem_append, List.mem_singleton] at hb
        rcases hb with rfl | hb | rfl
        · exact hc
        · exact hmid b hb
        · exact hd
      · rw [← List.append_assoc, List.getLast?_concat]
        simpa using hlast
  · rintro ⟨hne, hchars, hhead, hlast⟩
    simp only [← contains_labelChars] at hchars
    -- after the first character comes nothing, or some text that ends with no hyphen either
    cases w with
    | nil => exact absurd rfl hne
    | cons c rest =>
      rw [List.forall_mem_cons] at hchars
      have hc : c ≠ '-' := by simpa using hhead
      refine ⟨[c], ⟨c, ⟨hchars.1, hc⟩, rfl⟩, rest, ?_, rfl⟩
      rcases List.eq_nil_or_concat rest with rfl | ⟨mid, d, rfl⟩
      · exact .inl rfl
      · have hd : d ≠ '-' := by simpa [List.getLast?_cons] using hlast
        simp only [List.concat_eq_append, List.forall_mem_append, List.forall_mem_singleton] at hchars
        refine .inr ⟨mid, hchars.2.1, [d], ⟨d, ⟨hchars.2.2, hd⟩, rfl⟩, ?_⟩
        exact (List.concat_eq_append ..).symm

/-- **The format matches the addresses** and nothing else. -/
theorem isMatch_email_iff (text : String) : Formats.email.isMatch text = true ↔
    IsAddress (fun c => IsLetter c ∨ IsAlien c) text.toList := by
  have hlanguage : Formats.email.isMatch text = true ↔
      text.toList ∈ Formats.joined '.' 1 (Formats.oneOrMore Formats.atomChars).language *
        ({['@']} * Formats.joined '.' 2 Formats.label.language) := by
    have hwhole := @Expr.isMatch_whole_iff [Formats.oneOrMore Formats.atomChars,
      .repetition (.seq (Formats.char '.') (Formats.oneOrMore Formats.atomChars)) 0 none,
      Formats.char '@', .repetition (.seq Formats.label (Formats.char '.')) 1 none,
      Formats.label] rfl text
    simp only [Expr.language_sequence_cons, Expr.language_sequence_nil, mul_one] at hwhole
    rw [← mul_assoc, Formats.language_mul_repetition, Formats.repetition_mul_language,
      Formats.language_char] at hwhole
    exact hwhole
  rw [hlanguage]
  constructor
  · rintro ⟨u, ⟨atoms, ⟨hleast, hatoms⟩, rfl⟩, v, ⟨mark, rfl, rest, ⟨labels, ⟨hleast', hlabels⟩, rfl⟩,
      rfl⟩, htext⟩
    exact ⟨atoms, labels, ⟨hleast, fun atom h => mem_language_atom_iff.1 (hatoms atom h)⟩,
      ⟨hleast', fun label h => mem_language_label_iff.1 (hlabels label h)⟩, htext.symm⟩
  · rintro ⟨atoms, labels, ⟨hleast, hatoms⟩, ⟨hleast', hlabels⟩, htext⟩
    exact ⟨_, ⟨atoms, ⟨hleast, fun atom h => mem_language_atom_iff.2 (hatoms atom h)⟩, rfl⟩, _,
      ⟨['@'], rfl, _, ⟨labels, ⟨hleast', fun label h => mem_language_label_iff.2 (hlabels label h)⟩,
        rfl⟩, rfl⟩, htext.symm⟩

end Mail

/-! ## The check -/

namespace Checker

open Mail

variable {context : Context} {rule : Rule} {text : String}

/-- A text of a fixed format that is not empty is not looked at in any other respect. -/
theorem text_formatRule (say : Formatter) (rule : Rule) (format : Pattern) (message : Option String)
    (htext : text ≠ "") :
    Checker.text say (formatRule rule format message) (.string text) =
      if format.isMatch text then .valid
      else .invalid (message.getD (say (.mismatch format.display))) := by
  have hempty : text.isEmpty = false := by simpa using htext
  rw [Checker.text, hempty]
  rfl

theorem email_verdict (context : Context) (rule : Rule) (htext : text ≠ "") :
    (Kind.email.run context rule (.string text)).verdict =
      .ok (if Formats.email.isMatch text then .valid
        else .invalid (rule.message.getD (context.say .notEmail))) :=
  congrArg Except.ok (text_formatRule context.say rule Formats.email _ htext)

theorem email_valid_iff (context : Context) (rule : Rule) (htext : text ≠ "") :
    (Kind.email.run context rule (.string text)).verdict = .ok .valid ↔
      IsAddress (fun c => IsLetter c ∨ IsAlien c) text.toList := by
  rw [email_verdict context rule htext, ok_ite_eq_valid_iff, isMatch_email_iff]

/-- **What the check of mail addresses accepts**: the addresses, with the long s and the Kelvin sign
as letters besides those of ASCII. Of the texts without these two, these are the ASCII addresses.
What is accepted holds no blank, so no line break either, and nothing else beyond ASCII. -/
theorem run_email (context : Context) (rule : Rule) (htext : text ≠ "") :
    let verdict := (Kind.email.run context rule (.string text)).verdict
    (verdict = .ok .valid ↔ IsAddress (fun c => IsLetter c ∨ IsAlien c) text.toList) ∧
      (verdict ≠ .ok .valid →
        verdict = .ok (.invalid (rule.message.getD (context.say .notEmail)))) ∧
      ((∀ c ∈ text.toList, ¬IsAlien c) →
        (verdict = .ok .valid ↔ IsAddress IsLetter text.toList)) ∧
      (verdict = .ok .valid →
        ∀ c ∈ text.toList, (c.toNat < 128 ∨ IsAlien c) ∧ Text.isBlank c = false) := by
  intro verdict
  have haccepted := email_valid_iff context rule htext
  refine ⟨haccepted, ok_ite_eq_invalid (email_verdict context rule htext),
    fun hascii => haccepted.trans ⟨fun h => ?_, fun h => ?_⟩, fun hvalid c hc => ?_⟩
  · exact h.imp fun c hc hletter => hletter.resolve_right (hascii c hc)
  · exact h.imp fun c _ => .inl
  · rcases (haccepted.1 hvalid).chars hc with (hletter | halien) | hascii
    · exact ⟨.inl (letter_ascii hletter).1, (letter_ascii hletter).2⟩
    · exact ⟨.inr halien, halien.isBlank_eq_false⟩
    · exact ⟨.inl hascii.1, hascii.2⟩

/-- An address with a tag, in capitals for the most part. -/
theorem run_email_tagged :
    "JOE+tag@x-1.EXAMPLE" ≠ "" ∧
      (Kind.email.run (Validator.context {} 0 "mail" []) {}
        (.string "JOE+tag@x-1.EXAMPLE")).verdict = .ok .valid := by
  have hne : "JOE+tag@x-1.EXAMPLE" ≠ "" := by decide
  have haddress : IsAddress IsLetter "JOE+tag@x-1.EXAMPLE".toList :=
    ⟨["JOE+tag".toList], ["x-1".toList, "EXAMPLE".toList], by decide +kernel, by decide +kernel, rfl⟩
  have hascii : ∀ c ∈ "JOE+tag@x-1.EXAMPLE".toList, ¬IsAlien c := fun c => haddress.not_isAlien
  exact ⟨hne, ((run_email (Validator.context {} 0 "mail" []) {} hne).2.2.1 hascii).2 haddress⟩

/-- **A long s and a Kelvin sign are accepted**, and the two texts are no addresses of ASCII letters.
-/
theorem run_email_aliens :
    let verdict (text : String) :=
      (Kind.email.run (Validator.context {} 0 "mail" []) {} (.string text)).verdict
    (verdict "\u017f@example.com" = .ok .valid ∧ ¬IsAddress IsLetter "\u017f@example.com".toList) ∧
      verdict "\u212a@example.com" = .ok .valid ∧
        ¬IsAddress IsLetter "\u212a@example.com".toList := by
  intro verdict
  have hlong : IsAddress (fun c => IsLetter c ∨ IsAlien c) "\u017f@example.com".toList :=
    ⟨["\u017f".toList], ["example".toList, "com".toList], by decide +kernel, by decide +kernel, rfl⟩
  have hkelvin : IsAddress (fun c => IsLetter c ∨ IsAlien c) "\u212a@example.com".toList :=
    ⟨["\u212a".toList], ["example".toList, "com".toList], by decide +kernel, by decide +kernel, rfl⟩
  refine ⟨⟨(email_valid_iff _ _ (by decide)).2 hlong, fun h => ?_⟩,
    (email_valid_iff _ _ (by decide)).2 hkelvin, fun h => ?_⟩
  · exact h.not_isAlien (c := '\u017f') (by decide) (.inl rfl)
  · exact h.not_isAlien (c := '\u212a') (by decide) (.inr rfl)

end Checker

end Rulebook
