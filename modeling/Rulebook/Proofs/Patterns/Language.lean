import Mathlib.Computability.Language
import Rulebook.Checker.Formats
import Rulebook.Proofs.Patterns.Spans
/-!
# Patterns — the language of an expression

An expression without conditions on places has a language (`Expr.language`): what it spans is a text
of the language that stands there (`Expr.reads_spans`). So it does not matter what stands before a
place (`Expr.ends_eq_map`), and a format that is bound to both ends of a text matches the texts of
its language and no others (`Expr.isMatch_whole_iff`).
-/

namespace Rulebook

namespace Pattern

namespace Expr

open Places

variable {s : Array Char} {e : Expr} {es : List Expr} {i j : Nat} {w : List Char}

/-- Whether an expression asks nothing of places. -/
def isPlain : Expr → Bool
  | empty => true
  | one _ => true
  | look _ => false
  | seq first second => first.isPlain && second.isPlain
  | alt left right => left.isPlain && right.isPlain
  | repetition body _ _ => body.isPlain

/-- **The texts that an expression matches**, wherever they stand. A condition on places is not met
by a text alone. -/
def language : Expr → Language Char
  | empty => 1
  | one set => {w | ∃ c, set.contains c.toNat = true ∧ w = [c]}
  | look _ => 0
  | seq first second => first.language * second.language
  | alt left right => left.language + right.language
  | repetition body least most =>
    {w | ∃ extra, (∀ m ∈ most, extra ≤ m - least) ∧ w ∈ body.language ^ (least + extra)}

/-! ## Texts that stand at a place -/

/-- A text stands at a place if its first part does, and the second one stands where that ends. -/
theorem append_prefix_drop_iff {u v t : List Char} :
    u ++ v <+: t.drop i ↔ u <+: t.drop i ∧ v <+: t.drop (i + u.length) := by
  rw [← List.drop_drop]
  constructor
  · rintro ⟨rest, hrest⟩
    rw [← hrest]
    simp
  · rintro ⟨⟨rest, hrest⟩, hv⟩
    rw [← hrest, List.drop_left] at hv
    rw [← hrest]
    exact (List.prefix_append_right_inj u).2 hv

theorem singleton_prefix_drop_iff {c : Char} {t : List Char} : [c] <+: t.drop i ↔ t[i]? = some c := by
  rw [← List.head?_drop]
  cases t.drop i with
  | nil => simp
  | cons first rest => simp [List.cons_prefix_cons, eq_comm]

/-- **A relation on the places of a text reads a language**: it leads over the texts of the language
that stand there. -/
def Reads (t : List Char) (R : Nat → Nat → Prop) (l : Language Char) : Prop :=
  ∀ i j, i ≤ t.length → (R i j ↔ ∃ w ∈ l, w <+: t.drop i ∧ j = i + w.length)

variable {R S : Nat → Nat → Prop} {l m : Language Char} {t : List Char}

/-- One relation after the other reads the product. -/
theorem Reads.comp (hR : Reads t R l) (hS : Reads t S m) :
    Reads t (fun i j => ∃ k, R i k ∧ S k j) (l * m) := by
  have hwithin : ∀ {i : Nat} {w : List Char}, i ≤ t.length → w <+: t.drop i →
      i + w.length ≤ t.length := by
    intro i w hi hw
    have := hw.length_le
    rw [List.length_drop] at this
    omega
  intro i j hi
  simp only [Language.mem_mul]
  constructor
  · rintro ⟨k, hik, hkj⟩
    obtain ⟨u, hu, hstands, rfl⟩ := (hR i k hi).1 hik
    obtain ⟨v, hv, hrest, rfl⟩ := (hS _ j (hwithin hi hstands)).1 hkj
    refine ⟨u ++ v, ⟨u, hu, v, hv, rfl⟩, append_prefix_drop_iff.2 ⟨hstands, hrest⟩, ?_⟩
    rw [List.length_append, Nat.add_assoc]
  · rintro ⟨w, ⟨u, hu, v, hv, rfl⟩, hstands, rfl⟩
    obtain ⟨hstands, hrest⟩ := append_prefix_drop_iff.1 hstands
    refine ⟨i + u.length, (hR i _ hi).2 ⟨u, hu, hstands, rfl⟩,
      (hS _ _ (hwithin hi hstands)).2 ⟨v, hv, hrest, ?_⟩⟩
    rw [List.length_append, Nat.add_assoc]

/-- Rounds of it read the power. -/
theorem Reads.rounds (hR : Reads t R l) (n : Nat) : Reads t (Rounds R n) (l ^ n) := by
  induction n with
  | zero =>
    intro i j _
    simp [Rounds, Language.mem_one, eq_comm]
  | succ n ih =>
    rw [pow_succ']
    exact hR.comp ih

theorem reads_one (s : Array Char) (set : CodeSet) :
    Reads s.toList (Spans s (one set)) (one set).language := by
  intro i j _
  have hnext : nextIn s set i = true ↔ ∃ c, set.contains c.toNat = true ∧ s.toList[i]? = some c := by
    unfold nextIn
    rw [Array.getElem?_toList]
    cases s[i]? with
    | none => simp
    | some c => simp
  rw [Spans, hnext]
  constructor
  · rintro ⟨⟨c, hc, hi⟩, rfl⟩
    exact ⟨[c], ⟨c, hc, rfl⟩, singleton_prefix_drop_iff.2 hi, rfl⟩
  · rintro ⟨w, ⟨c, hc, rfl⟩, hstands, rfl⟩
    exact ⟨⟨c, hc, singleton_prefix_drop_iff.1 hstands⟩, rfl⟩

/-- **What a plain expression spans** is a text of its language that stands there. -/
theorem reads_spans (s : Array Char) (he : e.isPlain = true) :
    Reads s.toList (Spans s e) e.language := by
  induction e with
  | empty =>
    intro i j _
    simp [Spans, language, Language.mem_one, eq_comm]
  | one set => exact reads_one s set
  | look condition => cases he
  | seq first second ihfirst ihsecond =>
    rw [isPlain, Bool.and_eq_true] at he
    exact (ihfirst he.1).comp (ihsecond he.2)
  | alt left right ihleft ihright =>
    rw [isPlain, Bool.and_eq_true] at he
    intro i j hi
    simp only [Spans, language, Language.mem_add, ihleft he.1 i j hi, ihright he.2 i j hi]
    constructor
    · rintro (⟨w, hw, hplace⟩ | ⟨w, hw, hplace⟩)
      · exact ⟨w, .inl hw, hplace⟩
      · exact ⟨w, .inr hw, hplace⟩
    · rintro ⟨w, hw | hw, hplace⟩
      · exact .inl ⟨w, hw, hplace⟩
      · exact .inr ⟨w, hw, hplace⟩
  | repetition body least most ih =>
    intro i j hi
    have hrounds := fun n => (ih he).rounds n i j hi
    simp only [Spans, language, hrounds]
    constructor
    · rintro ⟨extra, hmost, w, hw, hplace⟩
      exact ⟨w, ⟨extra, hmost, hw⟩, hplace⟩
    · rintro ⟨w, ⟨extra, hmost, hw⟩, hplace⟩
      exact ⟨extra, hmost, w, hw, hplace⟩

/-! ## Sequences and choices -/

@[simp]
theorem spans_sequence_nil : Spans s (sequence []) i j ↔ i = j := Iff.rfl

theorem spans_sequence_cons :
    Spans s (sequence (e :: es)) i j ↔ ∃ k, Spans s e i k ∧ Spans s (sequence es) k j := by
  cases es with
  | nil => simp [sequence, Spans]
  | cons second rest => rfl

theorem spans_sequence_append {fs : List Expr} :
    Spans s (sequence (es ++ fs)) i j ↔
      ∃ k, Spans s (sequence es) i k ∧ Spans s (sequence fs) k j := by
  induction es generalizing i with
  | nil => simp
  | cons e es ih =>
    rw [List.cons_append, spans_sequence_cons]
    simp only [ih, spans_sequence_cons]
    constructor
    · rintro ⟨k, hik, l, hkl, hlj⟩
      exact ⟨l, ⟨k, hik, hkl⟩, hlj⟩
    · rintro ⟨l, ⟨k, hik, hkl⟩, hlj⟩
      exact ⟨k, hik, l, hkl, hlj⟩

@[simp]
theorem language_sequence_nil : (sequence []).language = 1 := rfl

@[simp]
theorem language_sequence_cons :
    (sequence (e :: es)).language = e.language * (sequence es).language := by
  cases es with
  | nil => exact (mul_one _).symm
  | cons second rest => rfl

theorem isPlain_sequence (h : es.all isPlain = true) : (sequence es).isPlain = true := by
  induction es with
  | nil => rfl
  | cons e es ih =>
    rw [List.all_cons, Bool.and_eq_true] at h
    cases es with
    | nil => exact h.1
    | cons second rest => exact Bool.and_eq_true_iff.2 ⟨h.1, ih h.2⟩

/-! ## Places in a text -/

/-- What starts at one place ends after the texts of the language that stand there. -/
theorem mem_ends_iff_exists (he : e.isPlain = true) (hi : i ≤ s.size) :
    j ∈ ends s e [i] ↔ ∃ w ∈ e.language, w <+: s.toList.drop i ∧ j = i + w.length := by
  rw [mem_ends_iff hi, reads_spans s he i j (by simpa using hi)]

theorem ascending_ends (s : Array Char) (e : Expr) (hi : i ≤ s.size) :
    (ends s e [i]).Pairwise (· < ·) :=
  ((follows_ends s e).listed [i] ⟨by simp, by simpa using hi⟩).ascending

/-- **What stands before a place does not matter.** -/
theorem ends_eq_map (he : e.isPlain = true) (hi : i ≤ s.size) :
    ends s e [i] = (ends (s.toList.drop i).toArray e [0]).map (i + ·) := by
  refine List.Pairwise.eq_of_mem_iff (r := (· < ·)) (ascending_ends s e hi) ?_ fun j => ?_
  · exact (ascending_ends _ e (Nat.zero_le _)).map _ fun a b hab => Nat.add_lt_add_left hab i
  · rw [mem_ends_iff_exists he hi, List.mem_map]
    simp only [mem_ends_iff_exists he (Nat.zero_le _), List.drop_zero, Nat.zero_add]
    constructor
    · rintro ⟨w, hw, hstands, rfl⟩
      exact ⟨w.length, ⟨w, hw, hstands, rfl⟩, rfl⟩
    · rintro ⟨n, ⟨w, hw, hstands, rfl⟩, rfl⟩
      exact ⟨w, hw, hstands, rfl⟩

/-! ## Characters that do not occur -/

/-- No set of the expression holds a character. -/
def avoids (c : Char) : Expr → Bool
  | empty => true
  | one set => !set.contains c.toNat
  | look _ => true
  | seq first second => avoids c first && avoids c second
  | alt left right => avoids c left && avoids c right
  | repetition body _ _ => avoids c body

/-- Then no text of the language holds it. -/
theorem not_mem_of_avoids {c : Char} (he : avoids c e = true) (hw : w ∈ e.language) : c ∉ w := by
  induction e generalizing w with
  | empty =>
    obtain rfl := (Language.mem_one w).1 hw
    exact List.not_mem_nil
  | one set =>
    obtain ⟨d, hd, rfl⟩ := hw
    intro hc
    obtain rfl := List.mem_singleton.1 hc
    rw [avoids, hd] at he
    cases he
  | look condition => exact absurd hw (Language.notMem_zero w)
  | seq first second ihfirst ihsecond =>
    rw [avoids, Bool.and_eq_true] at he
    obtain ⟨u, hu, v, hv, rfl⟩ := hw
    rw [List.mem_append]
    exact fun hc => hc.elim (ihfirst he.1 hu) (ihsecond he.2 hv)
  | alt left right ihleft ihright =>
    rw [avoids, Bool.and_eq_true] at he
    exact hw.elim (ihleft he.1) (ihright he.2)
  | repetition body least most ih =>
    obtain ⟨extra, -, hw⟩ := hw
    obtain ⟨parts, rfl, -, hparts⟩ := Language.mem_pow.1 hw
    rw [List.mem_flatten]
    rintro ⟨part, hpart, hc⟩
    exact ih he (hparts part hpart) hc

/-! ## Whole texts -/

theorem holds_textStart_iff (hi : i ≤ s.size) :
    Look.textStart.holds (before? s i) s[i]? = true ↔ i = 0 := by
  cases i with
  | zero => simp [Look.holds, before?]
  | succ i =>
    have hlt : i < s.size := hi
    simp [Look.holds, before?, hlt]

theorem holds_textEnd_iff (hi : i ≤ s.size) :
    Look.textEnd.holds (before? s i) s[i]? = true ↔ i = s.size := by
  simp only [Look.holds, Option.isNone_iff_eq_none, Array.getElem?_eq_none_iff]
  omega

/-- What spans the rest of a text has all of it in its language. -/
theorem spans_to_end_iff (he : e.isPlain = true) (hi : i ≤ s.size) :
    Spans s e i s.size ↔ s.toList.drop i ∈ e.language := by
  have hsize : s.toList.length = s.size := Array.length_toList
  rw [reads_spans s he i s.size (by omega)]
  constructor
  · rintro ⟨w, hw, hstands, hlength⟩
    have hfull : w.length = (s.toList.drop i).length := by
      rw [List.length_drop]
      omega
    exact hstands.eq_of_length hfull ▸ hw
  · intro hmem
    refine ⟨_, hmem, List.prefix_rfl, ?_⟩
    rw [List.length_drop]
    omega

/-- **A format that is bound to both ends** matches the texts of its language. -/
theorem isMatch_whole_iff (h : es.all isPlain = true) {text : String} :
    (Formats.whole es).isMatch text = true ↔ text.toList ∈ (sequence es).language := by
  have hplain := isPlain_sequence h
  have hsize : text.toList.toArray.size = text.toList.length := rfl
  have hspan := spans_to_end_iff (s := text.toList.toArray) hplain (Nat.zero_le _)
  rw [List.drop_zero] at hspan
  rw [isMatch_iff, ← hspan]
  simp only [Formats.whole, List.cons_append, spans_sequence_cons, spans_sequence_append]
  constructor
  · rintro ⟨i, j, hi, k, ⟨hstart, rfl⟩, l, hbody, m, ⟨hend, rfl⟩, -⟩
    obtain rfl := (holds_textStart_iff hi).1 hstart
    have hl := (forward_spans _ _ 0 l (Nat.zero_le _) hbody).2
    obtain rfl := (holds_textEnd_iff hl).1 hend
    exact hbody
  · intro hbody
    exact ⟨0, _, Nat.zero_le _, 0, ⟨(holds_textStart_iff (Nat.zero_le _)).2 rfl, rfl⟩, _, hbody,
      _, ⟨(holds_textEnd_iff (Nat.le_refl _)).2 rfl, rfl⟩, rfl⟩

end Expr

end Pattern

end Rulebook
