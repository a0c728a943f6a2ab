import Rulebook.Pattern.Expr
/-!
# Patterns — ascending places

A matcher works on lists of places that ascend and stay within the text (`Places.Listed`). Such a
list stands for a set: `union` and `diff` are the operations of that name, and a function on places
is good for a relation if it takes a list to the places related to it (`Places.Follows`). What is
good for one round gives what is good for any number of rounds, and `reach` finds all that is
reached in at most so many (`Places.Follows.reach`). More rounds than there are places add nothing,
since one of them stays in its place (`Places.Rounds.resize`).
-/

namespace Rulebook

namespace Pattern

namespace Places

variable {size : Nat} {xs ys : List Nat} {i j k m n : Nat}

/-! ## Lists as sets -/

/-- Places in ascending order, none of them after the end of a text. -/
structure Listed (size : Nat) (places : List Nat) : Prop where
  ascending : places.Pairwise (· < ·)
  le_size : ∀ i ∈ places, i ≤ size

theorem Listed.sublist (hys : Listed size ys) (h : xs.Sublist ys) : Listed size xs :=
  ⟨hys.ascending.sublist h, fun i hi => hys.le_size i (h.subset hi)⟩

theorem mem_union (xs ys : List Nat) : j ∈ union xs ys ↔ j ∈ xs ∨ j ∈ ys := by
  fun_induction union xs ys with
  | case1 ys => simp
  | case2 xs => simp
  | case3 x xs y ys hlt ih => grind
  | case4 x xs y ys hlt hgt ih => grind
  | case5 x xs y ys hlt hgt ih => grind

theorem ascending_union (hxs : xs.Pairwise (· < ·)) (hys : ys.Pairwise (· < ·)) :
    (union xs ys).Pairwise (· < ·) := by
  fun_induction union xs ys with
  | case1 ys => exact hys
  | case2 xs => exact hxs
  | case3 x xs y ys hlt ih =>
    obtain ⟨hx, hrest⟩ := List.pairwise_cons.1 hxs
    refine List.pairwise_cons.2 ⟨fun j hj => ?_, ih hrest hys⟩
    rcases (mem_union _ _).1 hj with hj | hj
    · exact hx j hj
    · rcases List.mem_cons.1 hj with rfl | hj
      · exact hlt
      · exact Nat.lt_trans hlt ((List.pairwise_cons.1 hys).1 j hj)
  | case4 x xs y ys hlt hgt ih =>
    obtain ⟨hy, hrest⟩ := List.pairwise_cons.1 hys
    refine List.pairwise_cons.2 ⟨fun j hj => ?_, ih hxs hrest⟩
    rcases (mem_union _ _).1 hj with hj | hj
    · rcases List.mem_cons.1 hj with rfl | hj
      · exact hgt
      · exact Nat.lt_trans hgt ((List.pairwise_cons.1 hxs).1 j hj)
    · exact hy j hj
  | case5 x xs y ys hlt hgt ih =>
    obtain rfl : x = y := by omega
    obtain ⟨hx, hxs⟩ := List.pairwise_cons.1 hxs
    obtain ⟨hy, hys⟩ := List.pairwise_cons.1 hys
    refine List.pairwise_cons.2 ⟨fun j hj => ?_, ih hxs hys⟩
    exact ((mem_union _ _).1 hj).elim (hx j) (hy j)

theorem listed_union (hxs : Listed size xs) (hys : Listed size ys) :
    Listed size (union xs ys) := by
  refine ⟨ascending_union hxs.ascending hys.ascending, fun i hi => ?_⟩
  exact ((mem_union xs ys).1 hi).elim (hxs.le_size i) (hys.le_size i)

theorem diff_sublist (xs ys : List Nat) : (diff xs ys).Sublist xs := by
  fun_induction diff xs ys with
  | case1 => exact .slnil
  | case2 => exact .refl _
  | case3 x xs y ys hlt ih => exact ih.cons_cons x
  | case4 x xs y ys hlt hgt ih => exact ih
  | case5 x xs y ys hlt hgt ih => exact ih.cons x

theorem mem_diff (hxs : xs.Pairwise (· < ·)) (hys : ys.Pairwise (· < ·)) :
    j ∈ diff xs ys ↔ j ∈ xs ∧ j ∉ ys := by
  fun_induction diff xs ys with
  | case1 => simp
  | case2 => simp
  | case3 x xs y ys hlt ih =>
    have hnot : x ∉ y :: ys := by
      intro hmem
      rcases List.mem_cons.1 hmem with rfl | hmem
      · exact Nat.lt_irrefl x hlt
      · have := (List.pairwise_cons.1 hys).1 x hmem
        omega
    rw [List.mem_cons, ih (List.pairwise_cons.1 hxs).2 hys]
    grind
  | case4 x xs y ys hlt hgt ih =>
    have hnot : y ∉ x :: xs := by
      intro hmem
      rcases List.mem_cons.1 hmem with rfl | hmem
      · exact hlt hgt
      · have := (List.pairwise_cons.1 hxs).1 y hmem
        omega
    rw [ih hxs (List.pairwise_cons.1 hys).2]
    grind
  | case5 x xs y ys hlt hgt ih =>
    obtain rfl : x = y := by omega
    obtain ⟨hx, hxs⟩ := List.pairwise_cons.1 hxs
    obtain ⟨hy, hys⟩ := List.pairwise_cons.1 hys
    have hnot : x ∉ xs := fun hmem => Nat.lt_irrefl x (hx x hmem)
    rw [ih hxs hys]
    grind

/-! ## Rounds -/

/-- A place is reached from another one by a relation in so many rounds. -/
def Rounds (R : Nat → Nat → Prop) : (rounds : Nat) → Nat → Nat → Prop
  | 0, i, j => i = j
  | rounds + 1, i, j => ∃ k, R i k ∧ Rounds R rounds k j

/-- A relation does not go back, and stays within a text. -/
def Forward (size : Nat) (R : Nat → Nat → Prop) : Prop :=
  ∀ i j, i ≤ size → R i j → i ≤ j ∧ j ≤ size

variable {R : Nat → Nat → Prop}

theorem rounds_add : Rounds R (m + n) i j ↔ ∃ k, Rounds R m i k ∧ Rounds R n k j := by
  induction m generalizing i with
  | zero => simp [Rounds]
  | succ m ih =>
    rw [Nat.succ_add]
    simp only [Rounds, ih]
    constructor
    · rintro ⟨k, hik, l, hkl, hlj⟩
      exact ⟨l, ⟨k, hik, hkl⟩, hlj⟩
    · rintro ⟨l, ⟨k, hik, hkl⟩, hlj⟩
      exact ⟨k, hik, l, hkl, hlj⟩

theorem rounds_one : Rounds R 1 i j ↔ R i j := by
  simp [Rounds]

/-- So do rounds of it. -/
theorem Forward.rounds (hR : Forward size R) (n : Nat) : Forward size (Rounds R n) := by
  intro i j hi h
  induction n generalizing i with
  | zero => exact ⟨Nat.le_of_eq h, h ▸ hi⟩
  | succ n ih =>
    obtain ⟨k, hik, hkj⟩ := h
    obtain ⟨hk, hksize⟩ := hR i k hi hik
    obtain ⟨hj, hjsize⟩ := ih k hksize hkj
    exact ⟨Nat.le_trans hk hj, hjsize⟩

/-- Of more rounds than the places that they pass, one stays in its place. It can be made once more.
-/
theorem Rounds.grow (hR : Forward size R) (hi : i ≤ size) (h : Rounds R n i j) (hn : j - i < n) :
    Rounds R (n + 1) i j := by
  induction n generalizing i with
  | zero => omega
  | succ n ih =>
    obtain ⟨k, hik, hkj⟩ := h
    obtain ⟨hle, hk⟩ := hR i k hi hik
    -- either this round stays, or fewer places are left for fewer rounds
    rcases Nat.eq_or_lt_of_le hle with rfl | hlt
    · exact ⟨i, hik, i, hik, hkj⟩
    · have hj := (hR.rounds n k j hk hkj).1
      exact ⟨k, hik, ih hk hkj (by omega)⟩

/-- Or left out. -/
theorem Rounds.shrink (hR : Forward size R) (hi : i ≤ size) (h : Rounds R (n + 1) i j)
    (hn : j - i ≤ n) : Rounds R n i j := by
  induction n generalizing i with
  | zero =>
    obtain ⟨hle, -⟩ := hR.rounds 1 i j hi h
    exact (by omega : i = j)
  | succ n ih =>
    obtain ⟨k, hik, hkj⟩ := h
    obtain ⟨hle, hk⟩ := hR i k hi hik
    rcases Nat.eq_or_lt_of_le hle with rfl | hlt
    · exact hkj
    · exact ⟨k, hik, ih hk hkj (by omega)⟩

/-- **More rounds than places are as good as any other such number of rounds.** -/
theorem Rounds.resize (hR : Forward size R) (hi : i ≤ size) (h : Rounds R n i j)
    (hn : size < n) (hm : size < m) : Rounds R m i j := by
  have hj := (hR.rounds n i j hi h).2
  rcases Nat.le_total n m with hle | hle
  · obtain ⟨d, rfl⟩ := Nat.exists_eq_add_of_le hle
    clear hle hm
    induction d with
    | zero => exact h
    | succ d ih =>
      have hgrown : Rounds R (n + d + 1) i j := ih.grow hR hi (by omega)
      exact hgrown
  · obtain ⟨d, rfl⟩ := Nat.exists_eq_add_of_le hle
    clear hle hn
    induction d with
    | zero => exact h
    | succ d ih => exact ih (h.shrink hR hi (by omega))

/-! ## Functions on places -/

/-- **A function on places is good for a relation**: it takes a list of places to the list of all
places related to one of them. -/
structure Follows (size : Nat) (step : List Nat → List Nat) (R : Nat → Nat → Prop) : Prop where
  listed : ∀ places, Listed size places → Listed size (step places)
  mem_iff : ∀ places, Listed size places → ∀ j, j ∈ step places ↔ ∃ i ∈ places, R i j

variable {step : List Nat → List Nat}

theorem Follows.repeat (h : Follows size step R) (n : Nat) :
    Follows size (Nat.repeat step n) (Rounds R n) := by
  induction n with
  | zero => exact ⟨fun _ hplaces => hplaces, fun places _ j => by simp [Nat.repeat, Rounds]⟩
  | succ n ih =>
    refine ⟨fun places hplaces => h.listed _ (ih.listed places hplaces), fun places hplaces j => ?_⟩
    rw [Nat.repeat, h.mem_iff _ (ih.listed places hplaces)]
    simp only [ih.mem_iff places hplaces, rounds_add (m := n) (n := 1), rounds_one]
    constructor
    · rintro ⟨k, ⟨i, hi, hik⟩, hkj⟩
      exact ⟨i, hi, k, hik, hkj⟩
    · rintro ⟨i, hi, k, hik, hkj⟩
      exact ⟨k, ⟨i, hi, hik⟩, hkj⟩

/-- What is reached from places whose ways on all lead to them again or to new ones is one of them
or is reached from a new one. -/
theorem mem_or_exists_rounds {seen new : List Nat}
    (hclosed : ∀ i ∈ seen, i ∉ new → ∀ j, R i j → j ∈ seen) (hi : i ∈ seen) (h : Rounds R n i j) :
    j ∈ seen ∨ ∃ m ≤ n, ∃ i ∈ new, Rounds R m i j := by
  induction n generalizing i with
  | zero => exact .inl (h ▸ hi)
  | succ n ih =>
    by_cases hmem : i ∈ new
    · exact .inr ⟨n + 1, Nat.le_refl _, i, hmem, h⟩
    · obtain ⟨k, hik, hkj⟩ := h
      rcases ih (hclosed i hi hmem k hik) hkj with hj | ⟨m, hm, hrest⟩
      · exact .inl hj
      · exact .inr ⟨m, by omega, hrest⟩

/-- One more round from a frontier is no round or one to the new places, and the rounds from there. -/
theorem mem_union_or_exists_rounds_iff {seen frontier new : List Nat} {rounds : Nat}
    (hsub : ∀ i ∈ frontier, i ∈ seen)
    (hnew : ∀ j, j ∈ new ↔ (∃ i ∈ frontier, R i j) ∧ j ∉ seen)
    (hclosed : ∀ i ∈ union seen new, i ∉ new → ∀ j, R i j → j ∈ union seen new) :
    (j ∈ union seen new ∨ ∃ n ≤ rounds, ∃ i ∈ new, Rounds R n i j) ↔
      j ∈ seen ∨ ∃ n ≤ rounds + 1, ∃ i ∈ frontier, Rounds R n i j := by
  constructor
  · rintro (hj | ⟨n, hn, k, hk, hkj⟩)
    · rcases (mem_union _ _).1 hj with hj | hj
      · exact .inl hj
      · obtain ⟨i, hi, hij⟩ := ((hnew j).1 hj).1
        exact .inr ⟨1, by omega, i, hi, rounds_one.2 hij⟩
    · obtain ⟨i, hi, hik⟩ := ((hnew k).1 hk).1
      exact .inr ⟨n + 1, by omega, i, hi, k, hik, hkj⟩
  · rintro (hj | ⟨n, hn, i, hi, hij⟩)
    · exact .inl ((mem_union _ _).2 (.inl hj))
    · cases n with
      | zero => exact .inl ((mem_union _ _).2 (.inl (hij ▸ hsub i hi)))
      | succ n =>
        obtain ⟨k, hik, hkj⟩ := hij
        have hk : k ∈ union seen new := by
          rw [mem_union, hnew]
          by_cases hmem : k ∈ seen
          · exact .inl hmem
          · exact .inr ⟨⟨i, hi, hik⟩, hmem⟩
        rcases mem_or_exists_rounds hclosed hk hkj with hj | ⟨m, hm, hrest⟩
        · exact .inl hj
        · exact .inr ⟨m, by omega, hrest⟩

/-- **`reach` finds what is reached in at most so many rounds**, if all that is left to look at is
reached from the frontier. -/
theorem mem_reach (h : Follows size step R) (rounds : Nat) {seen frontier : List Nat}
    (hseen : Listed size seen) (hfrontier : Listed size frontier) (hsub : ∀ i ∈ frontier, i ∈ seen)
    (hclosed : ∀ i ∈ seen, i ∉ frontier → ∀ j, R i j → j ∈ seen) :
    Listed size (reach step rounds seen frontier) ∧
      ∀ j, j ∈ reach step rounds seen frontier ↔
        j ∈ seen ∨ ∃ n ≤ rounds, ∃ i ∈ frontier, Rounds R n i j := by
  -- `hclosed` is the invariant: it holds again of the places seen next and the next frontier
  induction rounds generalizing seen frontier with
  | zero =>
    refine ⟨hseen, fun j => ⟨.inl, ?_⟩⟩
    rintro (hj | ⟨n, hn, i, hi, hij⟩)
    · exact hj
    · obtain rfl : n = 0 := by omega
      exact hij ▸ hsub i hi
  | succ rounds ih =>
    have hstep := h.listed frontier hfrontier
    have hdiff : ∀ j, j ∈ diff (step frontier) seen ↔ (∃ i ∈ frontier, R i j) ∧ j ∉ seen := by
      intro j
      rw [mem_diff hstep.ascending hseen.ascending, h.mem_iff frontier hfrontier]
    have hnext : ∀ i ∈ seen, ∀ j, R i j → j ∈ seen ∨ j ∈ diff (step frontier) seen := by
      intro i hi j hij
      by_cases hj : j ∈ seen
      · exact .inl hj
      · by_cases hmem : i ∈ frontier
        · exact .inr ((hdiff j).2 ⟨⟨i, hmem, hij⟩, hj⟩)
        · exact .inl (hclosed i hi hmem j hij)
    rw [reach]
    cases hnew : diff (step frontier) seen with
    | nil =>
      -- nothing new: no number of rounds leads out of what has been seen
      rw [hnew] at hnext
      have hstays : ∀ i ∈ seen, i ∉ ([] : List Nat) → ∀ j, R i j → j ∈ seen :=
        fun i hi _ j hij => (hnext i hi j hij).resolve_right (by simp)
      refine ⟨hseen, fun j => ⟨.inl, ?_⟩⟩
      rintro (hj | ⟨n, -, i, hi, hij⟩)
      · exact hj
      · exact (mem_or_exists_rounds hstays (hsub i hi) hij).resolve_right (by simp)
    | cons first rest =>
      rw [hnew] at hdiff hnext
      have hlisted : Listed size (first :: rest) := hnew ▸ hstep.sublist (diff_sublist _ _)
      have hgrown : ∀ i ∈ union seen (first :: rest), i ∉ first :: rest → ∀ j, R i j →
          j ∈ union seen (first :: rest) := by
        intro i hi hold j hij
        rw [mem_union] at hi ⊢
        exact hnext i (hi.resolve_right hold) j hij
      obtain ⟨hfound, hmem⟩ := ih (listed_union hseen hlisted) hlisted
        (fun i hi => (mem_union _ _).2 (.inr hi)) hgrown
      exact ⟨hfound, fun j => (hmem j).trans (mem_union_or_exists_rounds_iff hsub hdiff hgrown)⟩

/-- So from a list on, it gives what is reached in at most so many rounds. -/
theorem Follows.reach (h : Follows size step R) (rounds : Nat) :
    Follows size (fun places => Places.reach step rounds places places)
      fun i j => ∃ n ≤ rounds, Rounds R n i j := by
  have hreach : ∀ places, Listed size places →
      Listed size (Places.reach step rounds places places) ∧
        ∀ j, j ∈ Places.reach step rounds places places ↔
          j ∈ places ∨ ∃ n ≤ rounds, ∃ i ∈ places, Rounds R n i j :=
    fun places hplaces => mem_reach h rounds hplaces hplaces (fun _ hi => hi)
      fun i hi hnot => absurd hi hnot
  refine ⟨fun places hplaces => (hreach places hplaces).1, fun places hplaces j => ?_⟩
  rw [(hreach places hplaces).2 j]
  constructor
  · rintro (hj | ⟨n, hn, i, hi, hij⟩)
    · exact ⟨j, hj, 0, Nat.zero_le _, rfl⟩
    · exact ⟨i, hi, n, hn, hij⟩
  · rintro ⟨i, hi, n, hn, hij⟩
    exact .inr ⟨n, hn, i, hi, hij⟩

end Places

end Pattern

end Rulebook
