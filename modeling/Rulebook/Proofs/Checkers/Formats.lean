import Mathlib
import Rulebook.Proofs.Checkers.Mail
import Rulebook.Proofs.Validation.Conformance
import Rulebook.Proofs.Validation.Findings
/-!
# Checkers — texts of a fixed format

What the types of a fixed format accept is said without patterns (`Formats.OfType`): digits only for
`id`, a template of digits and signs for dates (`Formats.Shaped`), and for passwords a length and
the characters that may be used. The formats are expressions, which mean the regular expressions
that they are shown as (`Formats.exists_ofSource_eq`), and their languages are these texts
(`Formats.isMatch_date_iff` and its siblings). So a check says what the plain description says
(`Checker.run_fixedFormat`).
-/

namespace Rulebook

open Pattern (Expr)

namespace Formats

/-! ## Templates -/

/-- A text has the shape of a template: a digit for each `d`, and every other character itself. -/
def Shaped (template text : List Char) : Prop :=
  List.Forall₂ (fun t c => if t = 'd' then c.isDigit = true else c = t) template text

instance (template text : List Char) : Decidable (Shaped template text) :=
  inferInstanceAs (Decidable (List.Forall₂ _ template text))

/-- The template of a date. -/
def dateTemplate : List Char := "dddd-dd-dd".toList

/-- The template of a date with a time. -/
def dateTimeTemplate : List Char := "dddd-dd-dd dd:dd:dd".toList

variable {s t w : List Char} {c : Char} {n : Nat} {text : String}

theorem shaped_append_iff :
    Shaped (s ++ t) w ↔ ∃ u v, Shaped s u ∧ Shaped t v ∧ u ++ v = w := by
  induction s generalizing w with
  | nil => simp [Shaped]
  | cons a s ih =>
    simp only [Shaped, List.cons_append, List.forall₂_cons_left_iff]
    constructor
    · rintro ⟨c, rest, hc, hrest, rfl⟩
      obtain ⟨u, v, hu, hv, rfl⟩ := ih.1 hrest
      exact ⟨c :: u, v, ⟨c, u, hc, hu, rfl⟩, hv, rfl⟩
    · rintro ⟨-, v, ⟨c, u, hc, hu, rfl⟩, hv, rfl⟩
      exact ⟨c, u ++ v, hc, ih.2 ⟨u, v, hu, hv, rfl⟩, rfl⟩

theorem shaped_digits_iff :
    Shaped (List.replicate n 'd') w ↔ w.length = n ∧ ∀ c ∈ w, c.isDigit = true := by
  induction n generalizing w with
  | zero =>
    rw [List.replicate_zero, Shaped, List.forall₂_nil_left_iff]
    constructor
    · rintro rfl
      simp
    · exact fun h => List.length_eq_zero_iff.1 h.1
  | succ n ih =>
    rw [List.replicate_succ, Shaped, List.forall₂_cons_left_iff]
    constructor
    · rintro ⟨c, rest, hc, hrest, rfl⟩
      obtain ⟨hlength, hall⟩ := ih.1 hrest
      exact ⟨by rw [List.length_cons, hlength], List.forall_mem_cons.2 ⟨hc, hall⟩⟩
    · rintro ⟨hlength, hall⟩
      cases w with
      | nil => cases hlength
      | cons c rest =>
        rw [List.forall_mem_cons] at hall
        exact ⟨c, rest, hall.1, ih.2 ⟨Nat.succ.inj hlength, hall.2⟩, rfl⟩

theorem shaped_sign_iff (hc : c ≠ 'd') : Shaped [c] w ↔ w = [c] := by
  simp [Shaped, List.forall₂_cons_left_iff, hc]

/-! ## The languages of the formats -/

/-- The texts of a template. -/
def shape (t : List Char) : Language Char :=
  {w | Shaped t w}

theorem shape_append : shape (s ++ t) = shape s * shape t := by
  ext w
  exact shaped_append_iff.trans ⟨fun ⟨u, v, hu, hv, hw⟩ => ⟨u, hu, v, hv, hw⟩,
    fun ⟨u, hu, v, hv, hw⟩ => ⟨u, v, hu, hv, hw⟩⟩

/-- So many digits. -/
theorem language_digits : (times n digit).language = shape (List.replicate n 'd') := by
  ext w
  rw [mem_language_times_iff, digit, Expr.mem_pow_one_iff]
  simp only [contains_digits_iff]
  exact shaped_digits_iff.symm

/-- A sign. -/
theorem language_sign (hc : c ≠ 'd') : (char c).language = shape [c] := by
  ext w
  rw [mem_language_char]
  exact (shaped_sign_iff hc).symm

/-- **The format of dates is its template.** -/
theorem isMatch_date_iff : date.isMatch text = true ↔ Shaped dateTemplate text.toList := by
  have hwhole := @Expr.isMatch_whole_iff dateParts rfl text
  have hlanguage : (Expr.sequence dateParts).language = shape dateTemplate := by
    simp only [dateParts, Expr.language_sequence_cons, Expr.language_sequence_nil, mul_one,
      language_digits, language_sign (by decide : '-' ≠ 'd'), ← shape_append]
    rfl
  rw [hlanguage] at hwhole
  exact hwhole

/-- **So is the format of dates with a time.** -/
theorem isMatch_dateTime_iff :
    dateTime.isMatch text = true ↔ Shaped dateTimeTemplate text.toList := by
  have hwhole := @Expr.isMatch_whole_iff (dateParts ++ char ' ' :: timeParts) rfl text
  have hlanguage : (Expr.sequence (dateParts ++ char ' ' :: timeParts)).language =
      shape dateTimeTemplate := by
    simp only [dateParts, timeParts, List.cons_append, List.nil_append,
      Expr.language_sequence_cons, Expr.language_sequence_nil, mul_one, language_digits,
      language_sign (by decide : '-' ≠ 'd'), language_sign (by decide : ' ' ≠ 'd'),
      language_sign (by decide : ':' ≠ 'd'), ← shape_append]
    rfl
  rw [hlanguage] at hwhole
  exact hwhole

/-- A format of one character of a set after the other. -/
theorem isMatch_oneOrMore_iff {display : String} {set : CodeSet} :
    (Pattern.mk display (whole [oneOrMore set])).isMatch text = true ↔
      text ≠ "" ∧ ∀ c ∈ text.toList, set.contains c.toNat = true := by
  have hwhole := @Expr.isMatch_whole_iff [oneOrMore set] rfl text
  have hne : text ≠ "" ↔ text.toList ≠ [] := by simp
  rw [Expr.language_sequence_cons, Expr.language_sequence_nil, mul_one,
    mem_language_oneOrMore] at hwhole
  rw [hne]
  exact hwhole

/-- **The format of identifiers** is digits. -/
theorem isMatch_id_iff (htext : text ≠ "") :
    Formats.id.isMatch text = true ↔ ∀ c ∈ text.toList, c.isDigit = true := by
  have hchars := @isMatch_oneOrMore_iff text Formats.id.display digits
  simp only [contains_digits_iff, and_iff_right htext] at hchars
  exact hchars

/-- What a password is written with: the visible characters of ASCII, the backslash apart. -/
def IsPasswordChar (c : Char) : Prop :=
  (0x21 ≤ c.toNat ∧ c.toNat ≤ 0x7E) ∧ c ≠ '\\'
deriving Decidable

theorem contains_passwordChars_iff :
    passwordChars.contains c.toNat = true ↔ IsPasswordChar c := by
  have hbackslash : c = '\\' ↔ c.toNat = 0x5C := (Char.toNat_inj (d := '\\')).symm
  rw [passwordChars, CodeSet.contains_ranges_iff (by decide), IsPasswordChar, ne_eq, hbackslash]
  simp only [List.mem_cons, List.not_mem_nil, or_false, exists_eq_or_imp, exists_eq_left]
  omega

/-- **The format of passwords** is their characters. -/
theorem isMatch_password_iff (htext : text ≠ "") :
    password.isMatch text = true ↔ ∀ c ∈ text.toList, IsPasswordChar c := by
  have hchars := @isMatch_oneOrMore_iff text password.display passwordChars
  simp only [contains_passwordChars_iff, and_iff_right htext] at hchars
  exact hchars

/-! ## The regular expressions -/

/-- The characters of a password as its regular expression lists them. -/
def passwordItems : CodeSet :=
  .unions ([.range 0x41 0x5A, .range 0x61 0x7A, .range 0x30 0x39] ++
    "_`~!@#$%^&*()-=+[]\x7b\x7d|;:'\",<.>/?".toList.map fun c => .single c.toNat)

/-- They are the same, beyond ASCII too. -/
theorem contains_passwordItems (n : Nat) :
    passwordItems.contains n = passwordChars.contains n := by
  rcases Nat.lt_or_ge n 128 with hlt | hge
  · have hascii : ∀ n < 128, passwordItems.contains n = passwordChars.contains n := by
      decide +kernel
    exact hascii n hlt
  · rw [Bool.eq_iff_iff]
    simp [passwordItems, passwordChars, CodeSet.unions, CodeSet.contains, CodeSet.range,
      CodeSet.single, Unicode.inRanges]
    omega

/-- **The formats mean the regular expressions that they are shown as**: each of these compiles, to
a pattern with the same display that matches the same texts. -/
theorem exists_ofSource_eq {source : String} {format : Pattern}
    (h : (source, format) ∈ [("^[0-9]+$", Formats.id),
      ("^[0-9]\x7b4\x7d-[0-9]\x7b2\x7d-[0-9]\x7b2\x7d$", date),
      ("^[0-9]\x7b4\x7d-[0-9]\x7b2\x7d-[0-9]\x7b2\x7d " ++
        "[0-9]\x7b2\x7d:[0-9]\x7b2\x7d:[0-9]\x7b2\x7d$", dateTime),
      ("^[A-Za-z0-9_`~!@#$%^&*()\\-=+\\[\\]\x7b\x7d|;:'\",<.>/?]+$", password)]) :
    ∃ pattern, Pattern.ofSource source = .ok pattern ∧ pattern.display = format.display ∧
      ∀ text, pattern.isMatch text = format.isMatch text := by
  simp only [List.mem_cons, List.not_mem_nil, or_false, Prod.mk.injEq] at h
  rcases h with ⟨rfl, rfl⟩ | ⟨rfl, rfl⟩ | ⟨rfl, rfl⟩ | ⟨rfl, rfl⟩
  · exact ⟨Formats.id, by cbv, rfl, fun _ => rfl⟩
  · exact ⟨date, by cbv, rfl, fun _ => rfl⟩
  · exact ⟨dateTime, by cbv, rfl, fun _ => rfl⟩
  · refine ⟨⟨password.display, whole [oneOrMore passwordItems]⟩, by cbv, rfl, fun text => ?_⟩
    have hchars := @isMatch_oneOrMore_iff text password.display passwordChars
    rw [Bool.eq_iff_iff, isMatch_oneOrMore_iff]
    simp only [contains_passwordItems]
    exact hchars.symm

/-! ## The types -/

/-- The types whose texts are dates, identifiers and passwords, with the checks that they name. -/
def types : List (String × Checker.Kind) :=
  [("id", .id), ("date", .date), ("dateTime", .dateTime), ("datetime", .dateTime),
    ("password", .password)]

/-- **The texts of a type with a fixed format.** Only for passwords the rule matters: it bounds the
length, which is counted in 16-bit units. -/
inductive OfType (rule : Rule) (text : String) : Checker.Kind → Prop where
  | id (hchars : ∀ c ∈ text.toList, c.isDigit = true) : OfType rule text .id
  | date (hshape : Shaped dateTemplate text.toList) : OfType rule text .date
  | dateTime (hshape : Shaped dateTimeTemplate text.toList) : OfType rule text .dateTime
  | password (hlength : rule.WithinPassword (Text.units text.toList))
    (hchars : ∀ c ∈ text.toList, IsPasswordChar c) : OfType rule text .password

variable {rule : Rule} {kind : Checker.Kind}

/-- A digit is visible. -/
theorem printable_of_isDigit (hc : c.isDigit = true) : 0x20 ≤ c.toNat ∧ c.toNat ≤ 0x7E := by
  have hrange := Decimal.isDigit_iff.1 hc
  omega

theorem Shaped.printable (h : Shaped t w)
    (ht : t.all (fun a => 0x20 ≤ a.toNat ∧ a.toNat ≤ 0x7E) = true) :
    ∀ c ∈ w, 0x20 ≤ c.toNat ∧ c.toNat ≤ 0x7E := by
  induction h with
  | nil => simp
  | @cons a c t w hfills _ ih =>
    rw [List.all_cons, Bool.and_eq_true, decide_eq_true_eq] at ht
    rw [List.forall_mem_cons]
    refine ⟨?_, ih ht.2⟩
    split at hfills
    · exact printable_of_isDigit hfills
    · exact hfills ▸ ht.1

/-- **All these texts are printable ASCII**, so there is no line break in them, and no digit or
letter of another script. -/
theorem OfType.printable (h : OfType rule text kind) :
    ∀ c ∈ text.toList, 0x20 ≤ c.toNat ∧ c.toNat ≤ 0x7E := by
  cases h with
  | id hchars => exact fun c hc => printable_of_isDigit (hchars c hc)
  | date hshape => exact hshape.printable (by decide)
  | dateTime hshape => exact hshape.printable (by decide)
  | password _ hchars =>
    intro c hc
    obtain ⟨⟨hlow, hhigh⟩, -⟩ := hchars c hc
    omega

end Formats

/-! ## The check -/

namespace Checker

open Formats

variable {rule : Rule} {text typeName : String} {kind : Kind} {length : Nat}

/-- **The bounds of a password** are what the rule that is checked in its place says. -/
theorem withinLength_passwordRule_iff :
    (passwordRule rule).WithinLength length ↔ rule.WithinPassword length := by
  refine ⟨Rule.withinPassword_of_withinLength, fun h => ⟨fun min hmin => ?_, h.le_max⟩⟩
  have hsix : (∀ m, rule.min = some m → m.isZero = true) →
      leastPassword.signedUnits ≤ (Binary64.unitsPerOne * length : Nat) := by
    intro hnone
    have hleast : leastPassword.signedUnits = (Binary64.unitsPerOne * 6 : Nat) := by
      decide +kernel
    rw [hleast]
    exact Int.ofNat_le.2 (Nat.mul_le_mul_left _ (h.six_le hnone))
  obtain rfl := Option.some.inj hmin
  cases hgiven : rule.min with
  | none => exact hsix (by simp [hgiven])
  | some m =>
    cases hzero : m.isZero with
    | true =>
      simp only [Option.filter_some, hzero]
      exact hsix (by simp [hgiven, hzero])
    | false =>
      simp only [Option.filter_some, hzero]
      exact h.min_le m hgiven hzero

/-- A text that is not empty is valid if its length is within the bounds and it matches the format.
-/
theorem text_valid_iff (say : Formatter) {format : Pattern} (hformat : rule.format = some format)
    (htext : text ≠ "") : Checker.text say rule (.string text) = .valid ↔
      rule.WithinLength (Text.units text.toList) ∧ format.isMatch text = true := by
  have hempty : text.isEmpty = false := by simpa using htext
  have hlength : rule.brokenLength? (Text.units text.toList) = none ↔
      rule.WithinLength (Text.units text.toList) := Rule.brokenBound?_eq_none_iff
  rw [← hlength, Checker.text, hempty, if_neg (by decide), filledText]
  cases rule.brokenLength? (Text.units text.toList) with
  | some broken => simp
  | none =>
    simp only [hformat, true_and]
    cases format.isMatch text with
    | false => simp
    | true => simp

/-- What is not valid is invalid for a reason. -/
theorem text_invalid (say : Formatter) (hnot : Checker.text say rule (.string text) ≠ .valid) :
    ∃ message, Checker.text say rule (.string text) = .invalid message := by
  cases hverdict : Checker.text say rule (.string text) with
  | valid => exact absurd hverdict hnot
  | invalid message => exact ⟨message, rfl⟩
  | nested errors => exact absurd hverdict (text_ne_nested errors)

/-- A format is all that a text of a fixed format is checked for. -/
theorem formatted_valid_iff (say : Formatter) (rule : Rule) (format : Pattern) (htext : text ≠ "") :
    formatted format say rule (.string text) = .valid ↔ format.isMatch text = true := by
  have hlength : (formatRule rule format none).WithinLength (Text.units text.toList) :=
    ⟨nofun, nofun⟩
  rw [formatted, text_valid_iff say rfl htext, and_iff_right hlength]

/-- A password that repeats no other field is checked as a text. -/
theorem password_eq_text (say : Formatter) (siblings : Json.Members)
    (hcompare : rule.compare = none) :
    password say siblings rule (.string text) =
      Checker.text say (passwordRule rule) (.string text) := by
  unfold password
  rw [hcompare]
  cases hverdict : Checker.text say (passwordRule rule) (.string text) with
  | valid => rfl
  | invalid message => rfl
  | nested errors => exact absurd hverdict (text_ne_nested errors)

/-- Each type checks its texts under a rule of its own, and accepts those of its format. -/
theorem exists_text_of_fixedFormat (context : Context)
    (hkind : kind ∈ [.id, .date, .dateTime, .password]) (htext : text ≠ "")
    (hcompare : kind = .password → rule.compare = none) : ∃ own,
      (kind.run context rule (.string text)).verdict =
        .ok (Checker.text context.say own (.string text)) ∧
      (Checker.text context.say own (.string text) = .valid ↔ OfType rule text kind) := by
  have hformatted := fun format => formatted_valid_iff context.say rule format htext
  simp only [List.mem_cons, List.not_mem_nil, or_false] at hkind
  rcases hkind with rfl | rfl | rfl | rfl
  · refine ⟨formatRule rule Formats.id none, rfl, ?_⟩
    refine ((hformatted _).trans (isMatch_id_iff htext)).trans ⟨.id, fun h => ?_⟩
    cases h with
    | id hchars => exact hchars
  · refine ⟨formatRule rule Formats.date none, rfl, ?_⟩
    refine ((hformatted _).trans isMatch_date_iff).trans ⟨.date, fun h => ?_⟩
    cases h with
    | date hshape => exact hshape
  · refine ⟨formatRule rule Formats.dateTime none, rfl, ?_⟩
    refine ((hformatted _).trans isMatch_dateTime_iff).trans ⟨.dateTime, fun h => ?_⟩
    cases h with
    | dateTime hshape => exact hshape
  · refine ⟨passwordRule rule, congrArg Except.ok (password_eq_text _ _ (hcompare rfl)), ?_⟩
    rw [text_valid_iff context.say rfl htext, withinLength_passwordRule_iff,
      isMatch_password_iff htext]
    refine ⟨fun h => .password h.1 h.2, fun h => ?_⟩
    cases h with
    | password hlength hchars => exact ⟨hlength, hchars⟩

/-- **The types of a fixed format accept their texts**, and refuse all others as invalid. None of
the texts that they accept has a line break in it, or a character beyond ASCII. -/
theorem run_fixedFormat (context : Context)
    (htype : (typeName, kind) ∈ Formats.types) (htext : text ≠ "")
    (hcompare : typeName = "password" → rule.compare = none) :
    let verdict := (kind.run context rule (.string text)).verdict
    Registry.builtin.get? typeName = some (.builtin kind) ∧
      (verdict = .ok .valid ↔ OfType rule text kind) ∧
      (verdict ≠ .ok .valid → ∃ message, verdict = .ok (.invalid message)) ∧
      (verdict = .ok .valid → ∀ c ∈ text.toList, 0x20 ≤ c.toNat ∧ c.toNat ≤ 0x7E) := by
  intro verdict
  have htypes : ∀ entry ∈ Formats.types,
      Kind.ofTypeName? entry.1 = some entry.2 ∧ entry.2 ∈ [.id, .date, .dateTime, .password] ∧
        (entry.2 = .password → entry.1 = "password") := by decide
  obtain ⟨hname, hkind, hpassword⟩ := htypes _ htype
  have hregistered : Registry.builtin.get? typeName = some (.builtin kind) := by
    rw [Registry.get?_builtin, hname]
    rfl
  obtain ⟨own, hverdict, hvalid⟩ :=
    exists_text_of_fixedFormat context hkind htext fun h => hcompare (hpassword h)
  have haccepted : verdict = .ok .valid ↔ OfType rule text kind := by
    rw [← hvalid, show verdict = _ from hverdict, Except.ok.injEq]
  refine ⟨hregistered, haccepted, fun hnot => ?_, fun hok => (haccepted.1 hok).printable⟩
  have hinvalid : Checker.text context.say own (.string text) ≠ .valid :=
    fun h => hnot (hverdict.trans (congrArg Except.ok h))
  obtain ⟨message, hmessage⟩ := text_invalid context.say hinvalid
  exact ⟨message, hverdict.trans (congrArg Except.ok hmessage)⟩

/-- Digits of another script are refused, and so is a date with a line break after it; a password
may hold every sign that patterns give a meaning to. -/
theorem run_fixedFormat_signs :
    let verdict (kind : Kind) (text : String) :=
      (kind.run (Validator.context {} 0 "field" []) {} (.string text)).verdict
    (verdict .id "007" = .ok .valid ∧ verdict .id "\u0661\u0662" ≠ .ok .valid) ∧
      (verdict .date "2024-13-99" = .ok .valid ∧ verdict .date "2024-13-99\n" ≠ .ok .valid) ∧
      verdict .dateTime "2024-02-30 25:61:00" = .ok .valid ∧
      (verdict .password "x]^[-&&" = .ok .valid ∧ verdict .password "x]\\^[-&&" ≠ .ok .valid) := by
  intro verdict
  have haccepts : ∀ typeName kind, (typeName, kind) ∈ Formats.types →
      ∀ text ≠ "", verdict kind text = .ok .valid ↔ OfType {} text kind :=
    fun typeName kind htype text htext =>
      (run_fixedFormat (Validator.context {} 0 "field" []) htype htext fun _ => rfl).2.1
  have hid := haccepts "id" .id (by decide)
  have hdate := haccepts "date" .date (by decide)
  have htime := haccepts "datetime" .dateTime (by decide)
  have hpassword := haccepts "password" .password (by decide)
  refine ⟨⟨(hid _ (by decide)).2 (.id (by simp)), fun h => ?_⟩,
    ⟨(hdate _ (by decide)).2 (.date (by decide)), fun h => ?_⟩,
    (htime _ (by decide)).2 (.dateTime (by decide)),
    (hpassword _ (by decide)).2 (.password ⟨nofun, fun _ => by decide, nofun⟩
      (by simp [IsPasswordChar])),
    fun h => ?_⟩
  · cases (hid _ (by decide)).1 h with
    | id hchars => exact absurd (hchars '\u0661' (by decide)) (by decide)
  · cases (hdate _ (by decide)).1 h with
    | date hshape => exact absurd hshape (by decide)
  · cases (hpassword _ (by decide)).1 h with
    | password _ hchars => exact absurd (hchars '\\' (by decide)).2 (by decide)

end Checker

end Rulebook
