import Rulebook.Proofs.Patterns.Places
/-!
# Patterns — what an expression spans

`Expr.Spans` says, constructor by constructor, from which place to which an expression matches. The
matcher is good for this relation (`Expr.follows_ends`), though it bounds the rounds of a
repetition by the size of the text (`Expr.spans_repetition_iff`). So a pattern matches a text if it
spans some part of it (`Expr.isMatch_iff`).
-/

namespace Rulebook

namespace Pattern

namespace Expr

open Places

variable {s : Array Char} {e : Expr} {i j : Nat}

/-- **An expression matches from a place to another one.** A repetition has some rounds beyond the
least number, but no more than there may be. -/
def Spans (s : Array Char) : Expr → Nat → Nat → Prop
  | empty, i, j => i = j
  | one set, i, j => nextIn s set i = true ∧ j = i + 1
  | look condition, i, j => condition.holds (before? s i) s[i]? = true ∧ i = j
  | seq first second, i, j => ∃ k, Spans s first i k ∧ Spans s second k j
  | alt left right, i, j => Spans s left i j ∨ Spans s right i j
  | repetition body least most, i, j =>
    ∃ extra, (∀ m ∈ most, extra ≤ m - least) ∧ Rounds (Spans s body) (least + extra) i j

theorem lt_size_of_nextIn {set : CodeSet} (h : nextIn s set i = true) : i < s.size := by
  unfold nextIn at h
  split at h
  next c hc => exact (Array.getElem?_eq_some_iff.1 hc).1
  next => cases h

/-- A match does not go back, and stays within the text. -/
theorem forward_spans (s : Array Char) (e : Expr) : Forward s.size (Spans s e) := by
  induction e with
  | empty =>
    rintro i j hi rfl
    exact ⟨Nat.le_refl _, hi⟩
  | one set =>
    rintro i j - ⟨hnext, rfl⟩
    exact ⟨Nat.le_succ _, lt_size_of_nextIn hnext⟩
  | look condition =>
    rintro i j hi ⟨-, rfl⟩
    exact ⟨Nat.le_refl _, hi⟩
  | seq first second ihfirst ihsecond =>
    rintro i j hi ⟨k, hik, hkj⟩
    obtain ⟨hk, hksize⟩ := ihfirst i k hi hik
    obtain ⟨hj, hjsize⟩ := ihsecond k j hksize hkj
    exact ⟨Nat.le_trans hk hj, hjsize⟩
  | alt left right ihleft ihright =>
    rintro i j hi (h | h)
    · exact ihleft i j hi h
    · exact ihright i j hi h
  | repetition body least most ih =>
    rintro i j hi ⟨extra, -, h⟩
    exact ih.rounds _ i j hi h

/-! ## The matcher -/

/-- The rounds that the matcher goes on with after the least number of them. -/
def furtherRounds (s : Array Char) (least : Nat) : Option Nat → Nat
  | some most => min (most - least) (s.size + 1)
  | none => s.size + 1

theorem ends_repetition (body : Expr) (least : Nat) (most : Option Nat) (places : List Nat) :
    ends s (repetition body least most) places =
      let start := Nat.repeat (ends s body) (min least (s.size + 1)) places
      Places.reach (ends s body) (furtherRounds s least most) start start := by
  cases most <;> rfl

theorem le_furtherRounds {least extra : Nat} {most : Option Nat}
    (hmost : ∀ m ∈ most, extra ≤ m - least) : min extra (s.size + 1) ≤ furtherRounds s least most := by
  cases most with
  | none => exact Nat.min_le_right _ _
  | some m =>
    have := hmost m rfl
    simp only [furtherRounds]
    omega

theorem le_of_le_furtherRounds {least n m : Nat} {most : Option Nat}
    (h : n ≤ furtherRounds s least most) (hm : m ∈ most) : n ≤ m - least := by
  obtain rfl := Option.mem_def.1 hm
  simp only [furtherRounds] at h
  omega

/-- **Bounding the rounds changes nothing.** The rounds of a repetition can be cut down to those that
the matcher makes, since of so many one stays in its place. -/
theorem spans_repetition_iff {body : Expr} {least : Nat} {most : Option Nat} (hi : i ≤ s.size) :
    Spans s (repetition body least most) i j ↔
      ∃ k, Rounds (Spans s body) (min least (s.size + 1)) i k ∧
        ∃ n ≤ furtherRounds s least most, Rounds (Spans s body) n k j := by
  have hbody := forward_spans s body
  rcases Nat.lt_or_ge (s.size + 1) least with hlong | hshort
  · -- already the least number is more than enough
    rw [Nat.min_eq_right (Nat.le_of_lt hlong)]
    constructor
    · rintro ⟨extra, -, h⟩
      exact ⟨j, h.resize hbody hi (by omega) (by omega), 0, Nat.zero_le _, rfl⟩
    · rintro ⟨k, hik, n, -, hkj⟩
      have h := rounds_add.2 ⟨k, hik, hkj⟩
      exact ⟨0, fun _ _ => Nat.zero_le _, h.resize hbody hi (by omega) (by omega)⟩
  · -- the least number of rounds is made in full, and only those beyond it are cut down
    rw [Nat.min_eq_left hshort]
    constructor
    · rintro ⟨extra, hmost, h⟩
      obtain ⟨k, hik, hkj⟩ := rounds_add.1 h
      have hk := (hbody.rounds least i k hi hik).2
      refine ⟨k, hik, min extra (s.size + 1), le_furtherRounds hmost, ?_⟩
      rcases Nat.le_total extra (s.size + 1) with hle | hle
      · rwa [Nat.min_eq_left hle]
      · rw [Nat.min_eq_right hle]
        exact hkj.resize hbody hk (by omega) (by omega)
    · rintro ⟨k, hik, n, hn, hkj⟩
      exact ⟨n, fun m hm => le_of_le_furtherRounds hn hm, rounds_add.2 ⟨k, hik, hkj⟩⟩

/-- **The matcher finds what is spanned**, and nothing else. -/
theorem follows_ends (s : Array Char) (e : Expr) : Follows s.size (ends s e) (Spans s e) := by
  induction e with
  | empty => exact ⟨fun _ hplaces => hplaces, fun places _ j => by simp [ends, Spans]⟩
  | one set =>
    refine ⟨fun places hplaces => ⟨?_, fun j hj => ?_⟩, fun places _ j => ?_⟩
    · exact List.Pairwise.map _ (fun a b hab => Nat.succ_lt_succ hab)
        (hplaces.ascending.sublist List.filter_sublist)
    · obtain ⟨i, hi, rfl⟩ := List.mem_map.1 hj
      exact lt_size_of_nextIn (List.mem_filter.1 hi).2
    · simp only [ends, Spans, List.mem_map, List.mem_filter]
      grind
  | look condition =>
    refine ⟨fun places hplaces => hplaces.sublist List.filter_sublist, fun places _ j => ?_⟩
    simp only [ends, Spans, List.mem_filter]
    grind
  | seq first second ihfirst ihsecond =>
    refine ⟨fun places hplaces => ihsecond.listed _ (ihfirst.listed _ hplaces),
      fun places hplaces j => ?_⟩
    rw [ends, ihsecond.mem_iff _ (ihfirst.listed _ hplaces)]
    simp only [ihfirst.mem_iff _ hplaces, Spans]
    constructor
    · rintro ⟨k, ⟨i, hi, hik⟩, hkj⟩
      exact ⟨i, hi, k, hik, hkj⟩
    · rintro ⟨i, hi, k, hik, hkj⟩
      exact ⟨k, ⟨i, hi, hik⟩, hkj⟩
  | alt left right ihleft ihright =>
    refine ⟨fun places hplaces => listed_union (ihleft.listed _ hplaces) (ihright.listed _ hplaces),
      fun places hplaces j => ?_⟩
    rw [ends, mem_union, ihleft.mem_iff _ hplaces, ihright.mem_iff _ hplaces]
    simp only [Spans]
    grind
  | repetition body least most ih =>
    have hstart := ih.repeat (min least (s.size + 1))
    have hreach := ih.reach (furtherRounds s least most)
    refine ⟨fun places hplaces => ?_, fun places hplaces j => ?_⟩
    · rw [ends_repetition]
      exact hreach.listed _ (hstart.listed _ hplaces)
    · rw [ends_repetition, hreach.mem_iff _ (hstart.listed _ hplaces)]
      simp only [hstart.mem_iff _ hplaces]
      constructor
      · rintro ⟨k, ⟨i, hi, hik⟩, hkj⟩
        exact ⟨i, hi, (spans_repetition_iff (hplaces.le_size i hi)).2 ⟨k, hik, hkj⟩⟩
      · rintro ⟨i, hi, h⟩
        obtain ⟨k, hik, hkj⟩ := (spans_repetition_iff (hplaces.le_size i hi)).1 h
        exact ⟨k, ⟨i, hi, hik⟩, hkj⟩

/-- The ends of what starts at one place. -/
theorem mem_ends_iff (hi : i ≤ s.size) : j ∈ ends s e [i] ↔ Spans s e i j := by
  have hlisted : Listed s.size [i] := ⟨by simp, by simpa using hi⟩
  simpa using (follows_ends s e).mem_iff [i] hlisted j

/-- **A pattern matches a text** if it spans some part of it. -/
theorem isMatch_iff {text : String} : e.isMatch text = true ↔
    ∃ i j, i ≤ text.toList.length ∧ Spans text.toList.toArray e i j := by
  have hlisted : Listed text.toList.toArray.size (List.range (text.toList.length + 1)) :=
    ⟨List.pairwise_lt_range, fun i hi => by
      have := List.mem_range.1 hi
      simp only [List.size_toArray]
      omega⟩
  have hmatch : e.isMatch text = true ↔
      ∃ j, j ∈ ends text.toList.toArray e (List.range (text.toList.length + 1)) := by
    simp [isMatch, List.eq_nil_iff_forall_not_mem]
  rw [hmatch]
  simp only [(follows_ends text.toList.toArray e).mem_iff _ hlisted, List.mem_range,
    Nat.lt_succ_iff]
  constructor
  · rintro ⟨j, i, hi, h⟩
    exact ⟨i, j, hi, h⟩
  · rintro ⟨i, j, hi, h⟩
    exact ⟨j, i, hi, h⟩

end Expr

end Pattern

end Rulebook
