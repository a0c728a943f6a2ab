import Rulebook.Proofs.Urls.Hosts
/-!
# URLs — the host that is captured

A text can be read as a URL in several ways, because user information may end in several places.
They are tried in order, and the captured host starts at the first one from which a host can be read
(`Url.PublicAt`). From there an address can be read in one way only (`Url.stop_unique`), since no tail
starts with a digit. So a text is the URL of a public host exactly if the captured one is a name or
a public address (`Url.isPublic_iff`).
-/

namespace Rulebook

namespace Url

open Pattern (Expr)

variable {s : Array Char} {place start stop other : Nat}

/-- From a place on a host can be read: an address or a name, with a tail behind it. -/
def ReadableAt (s : Array Char) (place : Nat) : Prop :=
  ∃ stop ∈ address.ends s [place] ++ name.ends s [place], isTail s stop = true

/-- **The captured host of a text starts at a place and is public.** -/
structure PublicAt (s : Array Char) (start : Nat) : Prop where
  /-- Of the places where a host may start, in the order in which they are tried, it is the first
  one from which a host can be read. -/
  captured : ∃ before after, hostStarts s = before ++ start :: after ∧ ReadableAt s start ∧
    ∀ place ∈ before, ¬ReadableAt s place
  /-- If an address is read there, it is in none of the private networks. -/
  address_isPublic : ∀ stop ∈ address.ends s [start], isTail s stop = true →
    ∃ x : Dotted, (s.extract start stop).toList = x.host ∧ x.IsPublic

/-! ## Addresses -/

/-- What is read as an address is the text up to where it stops. -/
theorem extract_mem_address (hplace : place ≤ s.size) (hstop : stop ∈ address.ends s [place]) :
    (s.extract place stop).toList ∈ address.language ∧
      (s.extract place stop).toList ++ s.toList.drop stop = s.toList.drop place := by
  obtain ⟨w, hw, ⟨rest, hrest⟩, rfl⟩ := (Expr.mem_ends_iff_exists (by rfl) hplace).1 hstop
  have hdrop : s.toList.drop (place + w.length) = rest := by
    rw [← List.drop_drop, ← hrest, List.drop_left]
  have hcut : (s.extract place (place + w.length)).toList = w := by
    rw [Array.toList_extract, List.extract_eq_take_drop, Nat.add_sub_cancel_left, ← hrest,
      List.take_left]
  rw [hcut, hdrop]
  exact ⟨hw, hrest⟩

/-- What is read ends within the text. -/
theorem le_size_of_mem_ends {e : Expr} (hplace : place ≤ s.size) (hstop : stop ∈ e.ends s [place]) :
    place ≤ stop ∧ stop ≤ s.size :=
  Expr.forward_spans s e place stop hplace ((Expr.mem_ends_iff hplace).1 hstop)

/-- **An address that is read stops in one place.** -/
theorem stop_unique (hplace : place ≤ s.size) (hstop : stop ∈ address.ends s [place])
    (htail : isTail s stop = true) (hother : other ∈ address.ends s [place])
    (htail' : isTail s other = true) : stop = other := by
  obtain ⟨hle, hsize⟩ := le_size_of_mem_ends hplace hstop
  obtain ⟨hle', hsize'⟩ := le_size_of_mem_ends hplace hother
  obtain ⟨haddress, hparts⟩ := extract_mem_address hplace hstop
  obtain ⟨haddress', hparts'⟩ := extract_mem_address hplace hother
  have hchars : ∀ {w}, w ∈ address.language → ∀ c ∈ w, c ≠ ':' ∧ c ≠ '/' :=
    chars_of_avoids (by decide) (by decide)
  have hsame := eq_of_append_tail (hchars haddress) (hchars haddress') ((isTail_iff hsize).1 htail)
    ((isTail_iff hsize').1 htail') (hparts.trans hparts'.symm)
  have hlength := congrArg List.length hsame
  simp only [Array.length_toList, Array.size_extract] at hlength
  omega

/-- An address is judged by its numbers, which are those of a private network or not. -/
theorem isPrivate_numbers_eq_false_iff {w : List Char} (h : w ∈ address.language) :
    isPrivate (numbers w []) = false ↔ ∃ x : Dotted, w = x.host ∧ x.IsPublic := by
  constructor
  · intro hprivate
    obtain ⟨x, rfl, hread⟩ := exists_eq_host h
    exact ⟨x, rfl, (x.isPrivate_numbers_iff hread).1 hprivate⟩
  · rintro ⟨x, rfl, hpublic⟩
    exact (x.isPrivate_numbers_iff hpublic.1).2 hpublic

/-! ## One place -/

/-- Nothing is said about a place from which no host can be read. -/
theorem hostAt?_eq_none_iff : hostAt? s place = none ↔ ¬ReadableAt s place := by
  unfold hostAt? ReadableAt
  cases hfind : (address.ends s [place]).find? (isTail s) with
  | some stop =>
    have hmem := List.mem_of_find?_eq_some hfind
    have htail := List.find?_some hfind
    exact iff_of_false (by simp) fun hnone => hnone ⟨stop, List.mem_append_left _ hmem, htail⟩
  | none =>
    rw [List.find?_eq_none] at hfind
    cases hname : (name.ends s [place]).any (isTail s) with
    | true =>
      obtain ⟨stop, hmem, htail⟩ := List.any_eq_true.1 hname
      exact iff_of_false (by simp) fun hnone => hnone ⟨stop, List.mem_append_right _ hmem, htail⟩
    | false =>
      rw [List.any_eq_false] at hname
      refine iff_of_true (by simp) ?_
      rintro ⟨stop, hmem, htail⟩
      rcases List.mem_append.1 hmem with hmem | hmem
      · exact hfind stop hmem htail
      · exact hname stop hmem htail

/-- **A host that can be read is public** unless it is read as an address, and then if the address
is. -/
theorem hostAt?_eq_some_true_iff (hplace : place ≤ s.size) (hread : ReadableAt s place) :
    hostAt? s place = some true ↔ ∀ stop ∈ address.ends s [place], isTail s stop = true →
      ∃ x : Dotted, (s.extract place stop).toList = x.host ∧ x.IsPublic := by
  cases hfind : (address.ends s [place]).find? (isTail s) with
  | some stop =>
    have hmem := List.mem_of_find?_eq_some hfind
    have htail := List.find?_some hfind
    have hhost : hostAt? s place =
        some (!isPrivate (numbers (s.extract place stop).toList [])) := by
      rw [hostAt?, hfind]
    rw [hhost, Option.some.injEq, Bool.not_eq_true',
      isPrivate_numbers_eq_false_iff (extract_mem_address hplace hmem).1]
    refine ⟨fun hpublic other hother htail' => ?_, fun hall => hall stop hmem htail⟩
    rwa [← stop_unique hplace hmem htail hother htail']
  | none =>
    have hsome : hostAt? s place ≠ none := fun hnone => hostAt?_eq_none_iff.1 hnone hread
    rw [List.find?_eq_none] at hfind
    refine iff_of_true ?_ fun stop hmem htail => absurd htail (hfind stop hmem)
    rw [← List.find?_eq_none] at hfind
    unfold hostAt? at hsome ⊢
    rw [hfind] at hsome ⊢
    dsimp only at hsome ⊢
    split at hsome
    · rename_i hname
      rw [if_pos hname]
    · exact absurd rfl hsome

/-! ## All places -/

/-- A host starts within the text. -/
theorem le_size_of_mem_hostStarts (h : start ∈ hostStarts s) : start ≤ s.size := by
  have hzero : Pattern.Places.Listed s.size [0] := ⟨by simp, by simp⟩
  have hscheme := (Expr.follows_ends s scheme).listed _ hzero
  rcases List.mem_append.1 h with h | h
  · exact ((Expr.follows_ends s userInfo).listed _ hscheme).le_size _ (List.mem_reverse.1 h)
  · exact hscheme.le_size _ h

/-- **A text is the URL of a public host exactly if the captured host is public.** -/
theorem isPublic_iff (text : String) :
    isPublic text = true ↔ ∃ start, PublicAt text.toList.toArray start := by
  have hfirst : isPublic text = true ↔
      (hostStarts text.toList.toArray).findSome? (hostAt? text.toList.toArray) = some true := by
    unfold isPublic
    dsimp only
    cases (hostStarts text.toList.toArray).findSome? (hostAt? text.toList.toArray) <;> simp
  rw [hfirst, List.findSome?_eq_some_iff]
  constructor
  · rintro ⟨before, start, after, hstarts, hhost, hnone⟩
    have hread : ReadableAt text.toList.toArray start := by
      by_contra hread
      rw [hostAt?_eq_none_iff.2 hread] at hhost
      cases hhost
    have hsize : start ≤ text.toList.toArray.size :=
      le_size_of_mem_hostStarts (by simp [hstarts])
    exact ⟨start, ⟨before, after, hstarts, hread, fun place hplace =>
      hostAt?_eq_none_iff.1 (hnone place hplace)⟩, (hostAt?_eq_some_true_iff hsize hread).1 hhost⟩
  · rintro ⟨start, ⟨before, after, hstarts, hread, hbefore⟩, haddress⟩
    have hsize : start ≤ text.toList.toArray.size :=
      le_size_of_mem_hostStarts (by simp [hstarts])
    exact ⟨before, start, after, hstarts, (hostAt?_eq_some_true_iff hsize hread).2 haddress,
      fun place hplace => hostAt?_eq_none_iff.2 (hbefore place hplace)⟩

end Url

end Rulebook
