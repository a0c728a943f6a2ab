import Mathlib
import Rulebook.Pattern.Basic
/-!
# Patterns — how they are shown

A pattern is shown as a source between slashes with letters of flags after them, and it is the
meaning of this source under these flags, however it was made (`Pattern.Built.exists_shownAs`). No
letter is a slash, so the source ends before the last slash, even if it has slashes of its own or
ends as flags do, and the source and the letters are read off again
(`Pattern.literalParts?_eq_some_iff`). So patterns that are shown alike match alike, and what shows
a pattern can be read as this pattern, unless its source is empty (`Pattern.display_determines`).
-/

namespace Rulebook

namespace Pattern

variable {p q : Pattern} {s t source letters letters' : List Char} {literal : String}

/-! ## The last slash -/

/-- A letter of flags is no slash. -/
theorem slash_not_mem (h : ∀ c ∈ letters, c ∈ literalFlags) : '/' ∉ letters :=
  fun hslash => absurd (h '/' hslash) (by decide)

/-- What stands after and before a last slash is found from the end. -/
theorem reverse_split (h : '/' ∉ letters) :
    (s ++ '/' :: letters).reverse.takeWhile (· ≠ '/') = letters.reverse ∧
      (s ++ '/' :: letters).reverse.dropWhile (· ≠ '/') = '/' :: s.reverse := by
  have hall : ∀ c ∈ letters.reverse, decide (c ≠ '/') = true := by
    intro c hc
    rw [decide_eq_true_eq]
    rintro rfl
    exact h (List.mem_reverse.1 hc)
  have hreverse : (s ++ '/' :: letters).reverse = letters.reverse ++ '/' :: s.reverse := by simp
  rw [hreverse, List.takeWhile_append_of_pos hall, List.dropWhile_append_of_pos hall]
  simp

/-- **A text has one last slash.** -/
theorem append_slash_inj (hletters : '/' ∉ letters) (hletters' : '/' ∉ letters')
    (h : s ++ '/' :: letters = t ++ '/' :: letters') : s = t ∧ letters = letters' := by
  obtain ⟨hafter, hbefore⟩ := reverse_split (s := s) hletters
  obtain ⟨hafter', hbefore'⟩ := reverse_split (s := t) hletters'
  rw [h, hafter', List.reverse_inj] at hafter
  rw [h, hbefore', List.cons_inj_right, List.reverse_inj] at hbefore
  exact ⟨hbefore.symm, hafter.symm⟩

/-- **The parts of a literal** are a source between slashes, which is not empty, and letters of
flags. -/
theorem literalParts?_eq_some_iff : literalParts? literal = some (source, letters) ↔
    literal.toList = '/' :: (source ++ '/' :: letters) ∧ source ≠ [] ∧
      ∀ c ∈ letters, c ∈ literalFlags := by
  constructor
  · intro h
    unfold literalParts? at h
    split at h
    · rename_i body hbody
      have hsplit := List.takeWhile_append_dropWhile (p := (· ≠ '/')) (l := body.reverse)
      dsimp only at h
      split at h
      · rename_i rest hrest
        rw [hrest] at hsplit
        generalize body.reverse.takeWhile (· ≠ '/') = run at h hsplit
        have hbody' : body = rest.reverse ++ '/' :: run.reverse := by
          rw [← List.reverse_reverse body, ← hsplit]
          simp
        split at h
        · cases h
        · rename_i hparts
          obtain ⟨rfl, rfl⟩ := Prod.mk.inj (Option.some.inj h)
          rw [hbody, hbody']
          exact ⟨rfl, by simpa using hparts⟩
      · cases h
    · cases h
  · rintro ⟨hliteral, hsource, hletters⟩
    obtain ⟨hafter, hbefore⟩ := reverse_split (s := source) (slash_not_mem hletters)
    simp only [literalParts?, hliteral, hafter, hbefore, List.reverse_reverse]
    rw [if_neg]
    simpa [hsource] using hletters

/-! ## What patterns are made of -/

/-- **A pattern is shown as a source and letters**, and is the meaning of the source under the flags
of the letters. -/
structure ShownAs (p : Pattern) (source letters : List Char) : Prop where
  display : p.display.toList = '/' :: (source ++ '/' :: letters)
  flags : ∀ c ∈ letters, c ∈ literalFlags
  meaning : compile? (flagsOf letters) source = some p.expr

/-- A pattern is made from a source, from a literal, or from the text of a format. -/
inductive Built : Pattern → Prop where
  | source {source : String} {p : Pattern} (h : ofSource source = .ok p) : Built p
  | literal {literal : String} {p : Pattern} (h : ofLiteral? literal = some (.ok p)) : Built p
  | format {text : String} {p : Pattern} (h : ofFormat text = .ok p) : Built p

/-- Without letters the flags are the initial ones. -/
theorem flagsOf_nil : flagsOf [] = Flags.initial := by
  funext flag
  cases flag <;> rfl

/-- A source is shown without letters. -/
theorem shownAs_of_ofSource {source : String} (h : ofSource source = .ok p) :
    p.ShownAs source.toList [] := by
  unfold ofSource at h
  split at h
  · rename_i expr hexpr
    obtain rfl := Except.ok.inj h
    exact ⟨by simp, by simp, by rw [flagsOf_nil, hexpr]⟩
  · cases h

/-- A literal is shown as it is, with a source that is not empty. -/
theorem shownAs_of_ofLiteral? (h : ofLiteral? literal = some (.ok p)) :
    p.display = literal ∧ ∃ source letters, source ≠ [] ∧ p.ShownAs source letters := by
  obtain ⟨⟨source, letters⟩, hparts, hpattern⟩ := Option.map_eq_some_iff.1 h
  obtain ⟨hliteral, hsource, hletters⟩ := literalParts?_eq_some_iff.1 hparts
  dsimp only at hpattern
  split at hpattern
  · rename_i expr hexpr
    obtain rfl := Except.ok.inj hpattern
    exact ⟨rfl, source, letters, hsource, hliteral, hletters, hexpr⟩
  · cases hpattern

/-- The text of a format is one of the two. -/
theorem built_cases_of_ofFormat {text : String} (h : ofFormat text = .ok p) :
    ofLiteral? text = some (.ok p) ∨ ofSource text = .ok p := by
  unfold ofFormat at h
  cases hliteral : ofLiteral? text with
  | none =>
    rw [hliteral] at h
    exact .inr h
  | some made =>
    rw [hliteral] at h
    exact .inl (congrArg some h)

/-- **Every pattern is shown as its source and letters.** -/
theorem Built.exists_shownAs (h : Built p) : ∃ source letters, p.ShownAs source letters := by
  have hliteral : ∀ literal, ofLiteral? literal = some (.ok p) →
      ∃ source letters, p.ShownAs source letters := by
    intro literal h
    obtain ⟨-, source, letters, -, hshown⟩ := shownAs_of_ofLiteral? h
    exact ⟨source, letters, hshown⟩
  cases h with
  | source h => exact ⟨_, _, shownAs_of_ofSource h⟩
  | literal h => exact hliteral _ h
  | format h =>
    rcases built_cases_of_ofFormat h with h | h
    · exact hliteral _ h
    · exact ⟨_, _, shownAs_of_ofSource h⟩

/-! ## Reading back -/

/-- **What shows a pattern determines it.** -/
theorem ShownAs.eq (hp : p.ShownAs s letters) (hq : q.ShownAs t letters')
    (h : p.display = q.display) : p = q := by
  have htexts := hp.display.symm.trans ((congrArg String.toList h).trans hq.display)
  obtain ⟨rfl, rfl⟩ := append_slash_inj (slash_not_mem hp.flags) (slash_not_mem hq.flags)
    (List.cons.inj htexts).2
  have hexpr : p.expr = q.expr := Option.some.inj (hp.meaning.symm.trans hq.meaning)
  cases p
  cases q
  simp only at h hexpr
  rw [h, hexpr]

/-- **What shows a pattern is read as this pattern**, exactly if its source is not empty. -/
theorem ShownAs.ofFormat_eq_iff (h : p.ShownAs s letters) :
    ofFormat p.display = .ok p ↔ s ≠ [] := by
  constructor
  · intro hread
    rcases built_cases_of_ofFormat hread with hliteral | hsource
    · obtain ⟨-, t, letters', ht, hshown⟩ := shownAs_of_ofLiteral? hliteral
      have htexts := List.cons.inj (h.display.symm.trans hshown.display)
      rwa [(append_slash_inj (slash_not_mem h.flags) (slash_not_mem hshown.flags) htexts.2).1]
    · -- a source is shorter than what shows it
      have hlength := congrArg List.length (shownAs_of_ofSource hsource).display
      rw [List.length_cons, List.length_append, List.length_singleton] at hlength
      omega
  · intro hs
    have hparts : literalParts? p.display = some (s, letters) :=
      literalParts?_eq_some_iff.2 ⟨h.display, hs, h.flags⟩
    have hmeaning := h.meaning
    simp only [ofFormat, ofLiteral?, hparts, Option.map_some, Option.getD_some]
    rw [hmeaning]

/-- **Patterns that are shown alike match alike**, however they were made, and what shows a pattern
can be read as this pattern, if it was made from a source that is not empty or from a literal. -/
theorem display_determines :
    (∀ p q, Built p → Built q → p.display = q.display → ∀ text, p.isMatch text = q.isMatch text) ∧
      (∀ source p, source ≠ "" → ofSource source = .ok p → ofFormat p.display = .ok p) ∧
      (∀ literal p, ofLiteral? literal = some (.ok p) → ofFormat p.display = .ok p) := by
  refine ⟨fun p q hp hq h text => ?_, fun source p hsource h => ?_, fun literal p h => ?_⟩
  · obtain ⟨s, letters, hp⟩ := hp.exists_shownAs
    obtain ⟨t, letters', hq⟩ := hq.exists_shownAs
    rw [hp.eq hq h]
  · exact (shownAs_of_ofSource h).ofFormat_eq_iff.2 (by simpa using hsource)
  · obtain ⟨-, s, letters, hs, hshown⟩ := shownAs_of_ofLiteral? h
    exact hshown.ofFormat_eq_iff.2 hs

/-- A source that ends as a literal with a flag does is shown without the flag. -/
theorem display_determines_flag : ∃ p q : Pattern, ofSource "a/i" = .ok p ∧
    ofLiteral? "/a/i/" = some (.ok q) ∧ p.display = q.display ∧
      (∀ text, p.isMatch text = q.isMatch text) ∧ ofFormat p.display = .ok p ∧
        ofFormat q.display = .ok q := by
  have hsource : ofSource "a/i" = .ok ⟨"/a/i/", .sequence
      [.one (.single 0x61), .one (.single 0x2F), .one (.single 0x69)]⟩ := by cbv
  have hliteral : ofLiteral? "/a/i/" = some (.ok ⟨"/a/i/", .sequence
      [.one (.single 0x61), .one (.single 0x2F), .one (.single 0x69)]⟩) := by cbv
  obtain ⟨halike, hsources, hliterals⟩ := display_determines
  exact ⟨_, _, hsource, hliteral, rfl, halike _ _ (.source hsource) (.literal hliteral) rfl,
    hsources "a/i" _ (by decide) hsource, hliterals "/a/i/" _ hliteral⟩

end Pattern

end Rulebook
