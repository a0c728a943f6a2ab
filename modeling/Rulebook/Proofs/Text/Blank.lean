import Rulebook.Coercion
/-!
# Text — blanks

A trimmed text starts and ends with no blank, so trimming it again does nothing (`Text.trim_trim`).
The text of a number or of a boolean holds no blank at all, and at least one character.
-/

namespace Rulebook

namespace Text

variable {s : List Char} {c : Char}

/-! ## Trimming -/

/-- There is nothing to cut off before a character that is not blank. -/
theorem trimStart_eq_self (h : ∀ c, s.head? = some c → isBlank c = false) : trimStart s = s := by
  cases s with
  | nil => rfl
  | cons c rest => simp [trimStart, h c rfl]

theorem trimEnd_eq_reverse (s : List Char) : trimEnd s = (trimStart s.reverse).reverse := rfl

/-- Nor after one. -/
theorem trimEnd_eq_self (h : ∀ c, s.getLast? = some c → isBlank c = false) : trimEnd s = s := by
  rw [trimEnd_eq_reverse, trimStart_eq_self, List.reverse_reverse]
  simpa using h

/-- No blank is left at the start. -/
theorem isBlank_head_trimStart (h : (trimStart s).head? = some c) : isBlank c = false := by
  have hfirst := List.head?_dropWhile_not isBlank s
  rw [show (s.dropWhile isBlank).head? = some c from h] at hfirst
  exact hfirst

/-- Cutting blanks off the end keeps the start. -/
theorem head_of_head_trimEnd (h : (trimEnd s).head? = some c) : s.head? = some c := by
  have hprefix : trimEnd s <+: s := by
    rw [← List.reverse_suffix, trimEnd_eq_reverse, List.reverse_reverse]
    exact List.dropWhile_suffix isBlank
  obtain ⟨cut, hcut⟩ := hprefix
  rw [← hcut]
  cases htrimmed : trimEnd s with
  | nil => rw [htrimmed] at h; cases h
  | cons first rest => rwa [htrimmed] at h

/-- A text that neither starts nor ends with a blank is trimmed. -/
theorem trim_eq_self (hhead : ∀ c, s.head? = some c → isBlank c = false)
    (hlast : ∀ c, s.getLast? = some c → isBlank c = false) : trim s = s := by
  rw [trim, trimStart_eq_self hhead, trimEnd_eq_self hlast]

/-- **Trimming twice is trimming once.** -/
@[simp]
theorem trim_trim (s : List Char) : trim (trim s) = trim s := by
  refine trim_eq_self (fun c h => isBlank_head_trimStart (head_of_head_trimEnd h)) fun c h => ?_
  refine isBlank_head_trimStart (s := (trimStart s).reverse) ?_
  simpa [trim, trimEnd_eq_reverse] using h

/-! ## Texts without blanks -/

/-- A text of one character or more, none of them blank. -/
structure Solid (s : List Char) : Prop where
  ne_nil : s ≠ []
  isBlank_eq_false : ∀ c ∈ s, isBlank c = false

/-- There is nothing to trim in such a text. -/
theorem Solid.trim_eq (h : Solid s) : trim s = s :=
  trim_eq_self (fun c hc => h.isBlank_eq_false c (List.mem_of_head? hc))
    fun c hc => h.isBlank_eq_false c (List.mem_of_getLast? hc)

/-- It is enough to look at every character. -/
theorem solid_of_all (hne : s ≠ []) (h : s.all (!isBlank ·) = true) : Solid s :=
  ⟨hne, fun c hc => by simpa using List.all_eq_true.1 h c hc⟩

/-- A digit is no blank. -/
theorem isBlank_of_isDigit (h : c.isDigit = true) : isBlank c = false := by
  obtain ⟨hlow, hhigh⟩ := Decimal.isDigit_iff.1 h
  simp only [isBlank, blankRanges, List.any_cons, List.any_nil, Bool.or_eq_false_iff,
    Bool.and_eq_false_iff, decide_eq_false_iff_not, and_true]
  omega

end Text

namespace Decimal

variable {c : Char}

/-- A written integer has digits and at most a minus sign. -/
theorem mem_signedDigits {n : Int} (h : c ∈ signedDigits n) : c.isDigit = true ∨ c = '-' := by
  unfold signedDigits at h
  split at h
  · rcases List.mem_cons.1 h with rfl | h
    · exact .inr rfl
    · exact .inl (isDigit_of_mem_digits h)
  · exact .inl (isDigit_of_mem_digits h)

theorem signedDigits_ne_nil (n : Int) : signedDigits n ≠ [] := by
  unfold signedDigits
  split
  · simp
  · exact digits_ne_nil _

/-- A point among the digits changes nothing else. -/
theorem mem_mantissa {ds : List Char} (hdigits : ∀ c ∈ ds, c.isDigit = true)
    (h : c ∈ match ds with
      | d :: e :: rest => d :: '.' :: e :: rest
      | ds => ds) : c.isDigit = true ∨ c = '.' := by
  split at h
  · simp only [List.mem_cons] at h hdigits
    rcases h with h | rfl | h
    · exact .inl (hdigits c (.inl h))
    · exact .inr rfl
    · exact .inl (hdigits c (.inr h))
  · exact .inl (hdigits c h)

/-- A written decimal has digits and what its layout adds to them. -/
theorem Layout.mem_write {layout : Layout} {coefficient : Nat} {exponent : Int}
    (h : c ∈ layout.write coefficient exponent) : c.isDigit = true ∨
      c ∈ '.' :: (layout.wholeSuffix ++ layout.raisedMark ++ layout.loweredMark) := by
  have hdigits : ∀ n, ∀ c ∈ digits n, c.isDigit = true := fun n c h => isDigit_of_mem_digits h
  have hzero : ∀ n, c ∈ List.replicate n '0' → c.isDigit = true := fun n h => by
    rw [(List.mem_replicate.1 h).2]
    rfl
  simp only [List.mem_cons, List.mem_append]
  unfold Layout.write at h
  dsimp only at h
  split at h
  · -- positionally
    split at h
    · simp only [List.mem_append] at h
      rcases h with (h | h) | h
      · exact .inl (hdigits _ c h)
      · exact .inl (hzero _ h)
      · exact .inr (.inr (.inl (.inl h)))
    · split at h
      · rcases List.mem_append.1 h with h | h
        · exact .inl (hdigits _ c (List.mem_of_mem_take h))
        · rcases List.mem_cons.1 h with rfl | h
          · exact .inr (.inl rfl)
          · exact .inl (hdigits _ c (List.mem_of_mem_drop h))
      · simp only [List.cons_append, List.mem_cons, List.mem_append] at h
        rcases h with rfl | rfl | h | h
        · exact .inl rfl
        · exact .inr (.inl rfl)
        · exact .inl (hzero _ h)
        · exact .inl (hdigits _ c h)
  · -- with an exponent
    split at h
    all_goals
      simp only [List.mem_append] at h
      rcases h with (h | h) | h
      · exact (mem_mantissa (hdigits _) h).imp_right .inl
      · simp [h]
      · exact .inl (hdigits _ c h)

theorem Layout.write_ne_nil (layout : Layout) (coefficient : Nat) (exponent : Int) :
    layout.write coefficient exponent ≠ [] := by
  have hdigits := digits_ne_nil coefficient
  unfold Layout.write
  dsimp only
  split
  · split
    · simp [hdigits]
    · split <;> simp
  · split
    all_goals
      split
      · simp
      · simp [hdigits]

end Decimal

namespace Json.Number

/-- Whether a character is one of those that numbers are written with. -/
def writes (c : Char) : Bool :=
  c.isDigit || ['-', '.', 'e', '+'].contains c

/-- None of them is blank. -/
theorem isBlank_of_writes {c : Char} (h : writes c = true) : Text.isBlank c = false := by
  simp only [writes, Bool.or_eq_true, List.contains_iff_mem, List.mem_cons, List.not_mem_nil,
    or_false] at h
  rcases h with h | rfl | rfl | rfl | rfl
  · exact Text.isBlank_of_isDigit h
  all_goals rfl

/-- So they make a text without blanks. -/
theorem solid_of_writes {s : List Char} (hne : s ≠ []) (h : ∀ c ∈ s, writes c = true) :
    Text.Solid s :=
  ⟨hne, fun c hc => isBlank_of_writes (h c hc)⟩

/-- An integer is written with them. -/
theorem writes_of_mem_signedDigits {n : Int} {c : Char} (h : c ∈ Decimal.signedDigits n) :
    writes c = true := by
  rcases Decimal.mem_signedDigits h with h | rfl
  · simp [writes, h]
  · rfl

/-- So is a double. -/
theorem writes_of_mem_toText {x : Binary64} {c : Char} (h : c ∈ x.toText layout) :
    writes c = true := by
  have hsize : ∀ c ∈ (if x.isZero then '0' :: layout.wholeSuffix
      else layout.write x.shortest.1 x.shortest.2), writes c = true := by
    intro c hc
    split at hc
    · have hzero : ('0' :: layout.wholeSuffix).all writes = true := rfl
      exact List.all_eq_true.1 hzero c hc
    · have hlayout : ('.' :: (layout.wholeSuffix ++ layout.raisedMark ++
          layout.loweredMark)).all writes = true := rfl
      rcases Decimal.Layout.mem_write hc with h | h
      · simp [writes, h]
      · exact List.all_eq_true.1 hlayout c h
  unfold Binary64.toText at h
  dsimp only at h
  split at h
  · rcases List.mem_cons.1 h with rfl | h
    · rfl
    · exact hsize c h
  · exact hsize c h

theorem toText_ne_nil (x : Binary64) : x.toText layout ≠ [] := by
  have hsize : (if x.isZero then '0' :: layout.wholeSuffix
      else layout.write x.shortest.1 x.shortest.2) ≠ [] := by
    split
    · simp
    · exact Decimal.Layout.write_ne_nil _ _ _
  unfold Binary64.toText
  dsimp only
  split
  · simp
  · exact hsize

/-- **So is every number.** -/
theorem writes_of_mem_text {n : Number} {c : Char} (h : c ∈ n.text) : writes c = true := by
  cases n with
  | int n => exact writes_of_mem_signedDigits h
  | float x => exact writes_of_mem_toText h

theorem text_ne_nil (n : Number) : n.text ≠ [] := by
  cases n with
  | int n => exact Decimal.signedDigits_ne_nil n
  | float x => exact toText_ne_nil x

/-- The digits of an integer hold no blank. -/
theorem solid_signedDigits (n : Int) : Text.Solid (Decimal.signedDigits n) :=
  solid_of_writes (Decimal.signedDigits_ne_nil n) fun _ => writes_of_mem_signedDigits

/-- Nor does the text of a double. -/
theorem solid_toText (x : Binary64) : Text.Solid (x.toText layout) :=
  solid_of_writes (toText_ne_nil x) fun _ => writes_of_mem_toText

/-- **The text of a number holds no blank.** -/
theorem solid_plainText (n : Number) : Text.Solid n.plainText := by
  cases n with
  | int n h => exact solid_signedDigits n
  | float x =>
    rw [plainText, plainFloatText]
    split
    · exact solid_of_writes (by simp) (by simp [writes])
    · split
      · exact solid_signedDigits _
      · exact solid_toText x

end Json.Number

end Rulebook
