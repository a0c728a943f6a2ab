import Rulebook.Unicode.CodeSet
/-!
# Unicode — folding and ASCII

Within ASCII, case folding takes capitals to small letters and leaves everything else
(`Unicode.fold_of_lt`). It takes two letters from beyond ASCII there: the long s, U+017F, and the
Kelvin sign, U+212A. No other code point leads there (`Unicode.le_fold`). So a set of ASCII
characters that are not capitals, in either case, holds what folds to something in it
(`CodeSet.contains_folded`).
-/

namespace Rulebook

namespace Unicode

variable {c d : Nat}

/-- Whether a code point is an ASCII capital. -/
def isCapital (c : Nat) : Bool :=
  0x41 ≤ c && c ≤ 0x5A

/-- A property of all ASCII characters can be checked one by one. -/
theorem forall_ascii {P : Char → Prop} (h : ∀ n < 128, P (Char.ofNat n)) {c : Char}
    (hc : c.toNat < 128) : P c := by
  have hself := h c.toNat hc
  rwa [Char.ofNat_toNat] at hself

/-! ## Runs -/

theorem FoldRun.le_of_moves {run : FoldRun} (h : run.moves c = true) :
    run.first ≤ c ∧ c ≤ run.last := by
  simp only [moves, Bool.and_eq_true, decide_eq_true_eq] at h
  exact h.1

/-- The first run is that of the ASCII capitals. -/
theorem foldRuns_eq_cons : foldRuns = ⟨0x41, 0x5A, 1, 32⟩ :: foldRuns.tail := rfl

theorem moves_capitals (c : Nat) : (⟨0x41, 0x5A, 1, 32⟩ : FoldRun).moves c = isCapital c := by
  simp [FoldRun.moves, isCapital, Nat.mod_one]

/-- The others start beyond ASCII. -/
theorem le_first_of_mem_tail {run : FoldRun} (h : run ∈ foldRuns.tail) : 128 ≤ run.first := by
  have hall : foldRuns.tail.all (fun run => 128 ≤ run.first) = true := by decide +kernel
  simpa using List.all_eq_true.1 hall run h

/-- They lead beyond ASCII, too, but for the long s and the Kelvin sign. -/
theorem le_target_of_mem_tail {run : FoldRun} (h : run ∈ foldRuns.tail) :
    128 ≤ run.first + run.distance ∨
      run.first = run.last ∧ (run.first = 0x17F ∨ run.first = 0x212A) := by
  have hall : foldRuns.tail.all (fun run => 128 ≤ run.first + run.distance ||
      run.first = run.last && (run.first = 0x17F || run.first = 0x212A)) = true := by
    decide +kernel
  simpa using List.all_eq_true.1 hall run h

/-! ## Folding -/

/-- **Folding within ASCII.** -/
theorem fold_of_lt (hc : c < 128) : fold c = if isCapital c then c + 32 else c := by
  have htail : foldRuns.tail.find? (·.moves c) = none := by
    rw [List.find?_eq_none]
    intro run hrun hmoves
    have := le_first_of_mem_tail hrun
    have := FoldRun.le_of_moves hmoves
    omega
  rw [fold, foldRuns_eq_cons, List.find?_cons, moves_capitals, htail]
  cases isCapital c with
  | false => rfl
  | true => rfl

/-- **Folding does not lead into ASCII from beyond**, the long s and the Kelvin sign aside. -/
theorem le_fold (hc : 128 ≤ c) (hs : c ≠ 0x17F) (hk : c ≠ 0x212A) : 128 ≤ fold c := by
  unfold fold
  split
  next run hrun =>
    have hmoves : run.moves c = true := by simpa using List.find?_some hrun
    have hwithin := FoldRun.le_of_moves hmoves
    have hmem := List.mem_of_find?_eq_some hrun
    rw [foldRuns_eq_cons] at hmem
    rcases List.mem_cons.1 hmem with rfl | htail
    · dsimp only at hwithin
      omega
    · rcases le_target_of_mem_tail htail with hle | hsingle
      · omega
      · omega
  next => exact hc

theorem fold_long : fold 0x17F = 0x73 := by decide

theorem fold_kelvin : fold 0x212A = 0x6B := by decide

/-- Nothing else folds to an ASCII character that is no letter. -/
theorem eq_of_fold_eq (h : fold c = d) (hd : d < 128) (hletter : d < 0x61 ∨ 0x7A < d) : c = d := by
  rcases Nat.lt_or_ge c 128 with hlt | hge
  · rw [fold_of_lt hlt] at h
    split at h
    next hcapital =>
      simp only [isCapital, Bool.and_eq_true, decide_eq_true_eq] at hcapital
      omega
    next => exact h
  · by_cases hs : c = 0x17F
    · rw [hs, fold_long] at h
      omega
    · by_cases hk : c = 0x212A
      · rw [hk, fold_kelvin] at h
        omega
      · have := le_fold hge hs hk
        omega

/-- Within ASCII, folding makes letters small. -/
theorem fold_toNat {c : Char} (hc : c.toNat < 128) : fold c.toNat = c.toLower.toNat := by
  have hall : ∀ n < 128, (if isCapital n then n + 32 else n) = (Char.ofNat n).toLower.toNat := by
    decide +kernel
  rw [fold_of_lt hc, hall _ hc, Char.ofNat_toNat]

/-- Of what is the same letter as a code point, ASCII holds what it folds to and a capital. -/
theorem eq_fold_of_mem_sameLetter (h : d ∈ sameLetter c) (hd : d < 128) (hsmall : isCapital d = false) :
    d = fold c := by
  rcases List.mem_cons.1 h with rfl | hsource
  · rfl
  · obtain ⟨run, hrun, hfound⟩ := List.mem_filterMap.1 hsource
    dsimp only at hfound
    split at hfound
    next hmoves =>
      obtain rfl := Option.some.inj hfound
      rw [foldRuns_eq_cons] at hrun
      rcases List.mem_cons.1 hrun with rfl | htail
      · rw [moves_capitals, hsmall] at hmoves
        cases hmoves
      · have := le_first_of_mem_tail htail
        have := FoldRun.le_of_moves hmoves
        omega
    next => cases hfound

end Unicode

/-- **A set of ASCII characters without capitals, in either case**, holds what folds to something in
the set. -/
theorem CodeSet.contains_folded {set : CodeSet} {c : Nat}
    (hset : ∀ d, set.contains d = true → d < 128 ∧ Unicode.isCapital d = false) :
    (folded set).contains c = set.contains (Unicode.fold c) := by
  have hself : set.contains c = true → set.contains (Unicode.fold c) = true := by
    intro hc
    obtain ⟨hlt, hsmall⟩ := hset c hc
    rwa [Unicode.fold_of_lt hlt, hsmall]
  rw [Bool.eq_iff_iff, contains, Bool.or_eq_true, List.any_eq_true]
  constructor
  · rintro (hc | ⟨d, hd, hcontains⟩)
    · exact hself hc
    · obtain ⟨hlt, hsmall⟩ := hset d hcontains
      exact Unicode.eq_fold_of_mem_sameLetter hd hlt hsmall ▸ hcontains
  · intro hfold
    exact .inr ⟨_, List.mem_cons_self, hfold⟩

/-- What a list of ranges holds lies in one of them. -/
theorem CodeSet.exists_of_contains_ranges {rs : List Unicode.CodeRange} {c : Nat}
    (h : (ranges rs).contains c = true) : ∃ r ∈ rs, r.1 ≤ c ∧ c ≤ r.2 := by
  rw [contains] at h
  induction rs with
  | nil => cases h
  | cons r rest ih =>
    simp only [Unicode.inRanges] at h
    split at h
    · cases h
    · split at h
      · exact ⟨r, List.mem_cons_self, by omega⟩
      · obtain ⟨q, hmem, hq⟩ := ih h
        exact ⟨q, List.mem_cons_of_mem _ hmem, hq⟩

/-- If the ranges ascend, that is all that it takes. -/
theorem CodeSet.contains_ranges_iff {rs : List Unicode.CodeRange} {c : Nat}
    (hrs : rs.Pairwise fun r q => r.1 ≤ q.1) :
    (ranges rs).contains c = true ↔ ∃ r ∈ rs, r.1 ≤ c ∧ c ≤ r.2 := by
  refine ⟨exists_of_contains_ranges, ?_⟩
  rw [contains]
  induction rs with
  | nil => simp
  | cons r rest ih =>
    obtain ⟨hfirst, hrest⟩ := List.pairwise_cons.1 hrs
    rintro ⟨q, hq, hle, hge⟩
    simp only [Unicode.inRanges]
    rcases List.mem_cons.1 hq with rfl | hq
    · rw [if_neg (by omega), if_pos hge]
    · have hbegins := hfirst q hq
      rw [if_neg (by omega)]
      split
      · rfl
      · exact ih hrest ⟨q, hq, hle, hge⟩

end Rulebook
