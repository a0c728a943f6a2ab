import Rulebook.Proofs.Text.Blank
import Rulebook.Proofs.Unicode.Folding
import Rulebook.Proofs.Urls.Addresses
/-!
# URLs — reading a host

Whether a host and a tail can be read from a place on depends only on what stands from there on
(`Url.hostAt?_eq_drop`). An address and a name hold neither a colon nor a slash, and a tail that is
not empty starts with one of them, so there is at most one way to tell the host from the tail. Four
runs of digits and a tail are read as an address or not at all, since a name ends with a letter
(`Url.Target.hostAt?_eq`).
-/

namespace Rulebook

open Pattern (Expr)

namespace Url

open Formats (char digit optional oneOrMore zeroOrMore)

variable {s : Array Char} {e : Expr} {i n : Nat} {t w : List Char} {c : Char}

/-! ## Characters -/

theorem contains_blank (c : Char) : CodeSet.blank.contains c.toNat = Text.isBlank c := by
  rw [Bool.eq_iff_iff, CodeSet.blank, CodeSet.contains_ranges_iff (by decide), Text.isBlank,
    List.any_eq_true]
  simp only [Bool.and_eq_true, decide_eq_true_eq]

theorem contains_solid_iff : solid.contains c.toNat = true ↔ Text.isBlank c = false := by
  rw [solid, CodeSet.contains, contains_blank, Bool.not_eq_true']

/-- No digit is a letter. -/
theorem contains_letters_digit (hc : c.isDigit = true) : letters.contains c.toNat = false := by
  have hall : ∀ d < 10, letters.contains (Decimal.digitChar d).toNat = false := by decide +kernel
  obtain ⟨d, hd, rfl⟩ := Decimal.exists_digitChar hc
  exact hall d hd

/-! ## Tails -/

/-- A port and a path, both of them optional. -/
def tailParts : List Expr :=
  [optional (.seq (char ':') (.repetition digit 2 (some 5))),
    optional (.seq (char '/') (zeroOrMore solid))]

/-- A tail reaches to the end. -/
theorem isTail_iff (hi : i ≤ s.size) :
    isTail s i = true ↔ s.toList.drop i ∈ (Expr.sequence tailParts).language := by
  have hends : isTail s i = true ↔ ∃ j, Expr.Spans s tail i j := by
    simp only [isTail, Bool.not_eq_true', List.isEmpty_eq_false_iff_exists_mem, Expr.mem_ends_iff hi]
  have htail : tail = Expr.sequence (tailParts ++ [.look .textEnd]) := rfl
  rw [hends, ← Expr.spans_to_end_iff (by rfl) hi, htail]
  simp only [Expr.spans_sequence_append, Expr.spans_sequence_cons, Expr.spans_sequence_nil]
  constructor
  · rintro ⟨j, k, hk, l, ⟨hend, rfl⟩, -⟩
    have hsize := (Expr.forward_spans s _ i k hi hk).2
    rwa [← (Expr.holds_textEnd_iff hsize).1 hend]
  · intro h
    exact ⟨_, _, h, _, ⟨(Expr.holds_textEnd_iff (Nat.le_refl _)).2 rfl, rfl⟩, rfl⟩

/-- A port as it is written. -/
def IsPort (t : List Char) : Prop :=
  t = [] ∨ ∃ ds, t = ':' :: ds ∧ (2 ≤ ds.length ∧ ds.length ≤ 5) ∧ ∀ c ∈ ds, c.isDigit = true

/-- A path as it is written. -/
def IsPath (t : List Char) : Prop :=
  t = [] ∨ ∃ p, t = '/' :: p ∧ ∀ c ∈ p, Text.isBlank c = false

theorem mem_language_port_iff :
    t ∈ (optional (.seq (char ':') (.repetition digit 2 (some 5)))).language ↔ IsPort t := by
  simp only [Formats.mem_language_optional, Expr.mem_language_seq, Formats.mem_language_char, digit,
    Expr.mem_language_repetition_one, Formats.contains_digits_iff, exists_eq_left, IsPort]
  refine or_congr Iff.rfl ⟨?_, ?_⟩
  · rintro ⟨ds, ⟨hleast, hmost, hds⟩, rfl⟩
    have hle := hmost 5 rfl
    exact ⟨ds, rfl, ⟨hleast, by omega⟩, hds⟩
  · rintro ⟨ds, rfl, ⟨hleast, hmost⟩, hds⟩
    refine ⟨ds, ⟨hleast, fun m hm => ?_, hds⟩, rfl⟩
    obtain rfl := Option.some.inj hm
    omega

theorem mem_language_path_iff :
    t ∈ (optional (.seq (char '/') (zeroOrMore solid))).language ↔ IsPath t := by
  simp only [Formats.mem_language_optional, Expr.mem_language_seq, Formats.mem_language_char,
    Formats.mem_language_zeroOrMore, contains_solid_iff, exists_eq_left, IsPath]
  refine or_congr Iff.rfl ⟨?_, ?_⟩
  · rintro ⟨p, hp, rfl⟩
    exact ⟨p, rfl, hp⟩
  · rintro ⟨p, rfl, hp⟩
    exact ⟨p, hp, rfl⟩

theorem mem_language_tailParts_iff : t ∈ (Expr.sequence tailParts).language ↔
    ∃ port path, IsPort port ∧ IsPath path ∧ t = port ++ path := by
  rw [tailParts, Expr.language_sequence_cons, Expr.language_sequence_cons,
    Expr.language_sequence_nil, mul_one, Language.mem_mul]
  simp only [mem_language_port_iff, mem_language_path_iff]
  constructor
  · rintro ⟨port, hport, path, hpath, rfl⟩
    exact ⟨port, path, hport, hpath, rfl⟩
  · rintro ⟨port, path, hport, hpath, rfl⟩
    exact ⟨port, hport, path, hpath, rfl⟩

/-- A tail that is not empty starts with a colon or with a slash. -/
theorem head?_tail (h : t ∈ (Expr.sequence tailParts).language) (hc : t.head? = some c) :
    c = ':' ∨ c = '/' := by
  obtain ⟨port, path, hport, hpath, rfl⟩ := mem_language_tailParts_iff.1 h
  rcases hport with rfl | ⟨ds, rfl, -⟩
  · rcases hpath with rfl | ⟨p, rfl, -⟩
    · cases hc
    · exact .inr (Option.some.inj hc).symm
  · exact .inl (Option.some.inj hc).symm

/-! ## Places -/

theorem isTail_add (hn : i + n ≤ s.size) :
    isTail s (i + n) = isTail (s.toList.drop i).toArray n := by
  have hsize : n ≤ (s.toList.drop i).toArray.size := by
    rw [List.size_toArray, List.length_drop, Array.length_toList]
    omega
  rw [Bool.eq_iff_iff, isTail_iff hn, isTail_iff hsize, List.drop_drop]

/-- **What stands before a place does not matter** for the host that starts there. -/
theorem hostAt?_eq_drop (hi : i ≤ s.size) :
    hostAt? s i = hostAt? (s.toList.drop i).toArray 0 := by
  have htail : ∀ e, ∀ n ∈ Expr.ends (s.toList.drop i).toArray e [0],
      (isTail s ∘ (i + ·)) n = isTail (s.toList.drop i).toArray n := by
    intro e n hn
    have hle := (Expr.forward_spans _ e 0 n (Nat.zero_le _)
      ((Expr.mem_ends_iff (Nat.zero_le _)).1 hn)).2
    have hsize : (s.toList.drop i).toArray.size = s.size - i := by simp
    exact isTail_add (by omega)
  have hfind : ∀ e, (Expr.ends (s.toList.drop i).toArray e [0]).find? (isTail s ∘ (i + ·)) =
      (Expr.ends (s.toList.drop i).toArray e [0]).find? (isTail (s.toList.drop i).toArray) := by
    intro e
    rw [← List.head?_filter, List.filter_congr (htail e), List.head?_filter]
  have hany : ∀ e, (Expr.ends (s.toList.drop i).toArray e [0]).any (isTail s ∘ (i + ·)) =
      (Expr.ends (s.toList.drop i).toArray e [0]).any (isTail (s.toList.drop i).toArray) := by
    intro e
    rw [Bool.eq_iff_iff, List.any_eq_true, List.any_eq_true]
    exact exists_congr fun n => and_congr_right fun hn => by rw [htail e n hn]
  have hnumbers : ∀ n, (s.extract i (i + n)).toList =
      ((s.toList.drop i).toArray.extract 0 n).toList := by
    intro n
    simp [List.extract_eq_take_drop]
  unfold hostAt?
  rw [Expr.ends_eq_map (by rfl) hi, Expr.ends_eq_map (by rfl) hi, List.find?_map, List.any_map,
    hfind, hany]
  cases (Expr.ends (s.toList.drop i).toArray address [0]).find?
      (isTail (s.toList.drop i).toArray) with
  | none => rfl
  | some n =>
    simp only [Option.map_some]
    rw [hnumbers]

/-! ## Hosts of digits -/

/-- Where a run of characters ends is told by the next one. -/
theorem eq_of_append_eq {p : Char → Bool} {u v : List Char} (hw : ∀ c ∈ w, p c = true)
    (hu : ∀ c ∈ u, p c = true) (hv : ∀ c, v.head? = some c → p c = false)
    (ht : ∀ c, t.head? = some c → p c = false) (h : w ++ v = u ++ t) : w = u := by
  have hrun : ∀ {w v : List Char}, (∀ c ∈ w, p c = true) →
      (∀ c, v.head? = some c → p c = false) → (w ++ v).takeWhile p = w := by
    intro w v hw hv
    rw [List.takeWhile_append_of_pos hw]
    cases v with
    | nil => simp
    | cons c rest => simp [hv c rfl]
  rw [← hrun hw hv, h, hrun hu ht]

/-- **A host is told from a tail in one way.** It has no colon and no slash, and a tail that is not
empty starts with one. -/
theorem eq_of_append_tail {u v u' v' : List Char} (hu : ∀ c ∈ u, c ≠ ':' ∧ c ≠ '/')
    (hv : ∀ c ∈ v, c ≠ ':' ∧ c ≠ '/') (hu' : u' ∈ (Expr.sequence tailParts).language)
    (hv' : v' ∈ (Expr.sequence tailParts).language) (h : u ++ u' = v ++ v') : u = v := by
  have hends : ∀ {t : List Char}, t ∈ (Expr.sequence tailParts).language →
      ∀ c, t.head? = some c → (c ≠ ':' && c ≠ '/') = false := by
    intro t ht c hc
    rcases head?_tail ht hc with rfl | rfl
    · rfl
    · rfl
  refine eq_of_append_eq (p := fun c => c ≠ ':' && c ≠ '/') (fun c hc => ?_) (fun c hc => ?_)
    (hends hu') (hends hv') h
  · simp [hu c hc]
  · simp [hv c hc]

/-- The texts of an expression have no colon and no slash if it has no set that holds one. -/
theorem chars_of_avoids (hcolon : Expr.avoids ':' e = true) (hslash : Expr.avoids '/' e = true)
    (hw : w ∈ e.language) : ∀ c ∈ w, c ≠ ':' ∧ c ≠ '/' := by
  refine fun c hc => ⟨fun h => ?_, fun h => ?_⟩
  · exact Expr.not_mem_of_avoids hcolon hw (h ▸ hc)
  · exact Expr.not_mem_of_avoids hslash hw (h ▸ hc)

namespace Dotted

variable (x : Dotted)

/-- A host of digits has none of the characters that end a host. -/
theorem host_chars (hc : c ∈ x.host) : c ≠ ':' ∧ c ≠ '/' ∧ c ≠ '@' ∧ Text.isBlank c = false := by
  rcases Formats.mem_intercalate hc with rfl | ⟨w, hw, hc⟩
  · decide
  · obtain ⟨d, hd, rfl⟩ := Decimal.exists_digitChar (x.isDigit w hw c hc)
    have hall : ∀ d < 10, Decimal.digitChar d ≠ ':' ∧ Decimal.digitChar d ≠ '/' ∧
        Decimal.digitChar d ≠ '@' ∧ Text.isBlank (Decimal.digitChar d) = false := by decide
    exact hall d hd

/-- A host of digits ends with a digit. -/
theorem isDigit_getLast?_host (h : x.host.getLast? = some c) : c.isDigit = true := by
  have hd : x.d ≠ [] := x.ne_nil x.d (by simp)
  rw [x.host_eq] at h
  simp only [List.getLast?_append, List.getLast?_cons, List.getLast?_eq_some_getLast hd,
    Option.getD_some, Option.some_or, Option.some.injEq] at h
  exact x.isDigit x.d (by simp) c (h ▸ List.getLast_mem hd)

/-- So it is no name, since a name ends with a letter. -/
theorem host_not_mem_name : x.host ∉ name.language := by
  intro hname
  rw [name, Expr.language_four] at hname
  obtain ⟨u, -, rest, ⟨v, -, rest', ⟨point, -, last, hlast, rfl⟩, rfl⟩, hhost⟩ := hname
  obtain ⟨hlength, -, hletters⟩ := Expr.mem_language_repetition_one.1 hlast
  have hne : last ≠ [] := List.length_pos_iff.1 (by omega)
  have hend : x.host.getLast? = some (last.getLast hne) := by
    rw [← hhost]
    simp [List.getLast?_append, List.getLast?_eq_some_getLast hne]
  have hletter := hletters _ (List.getLast_mem hne)
  rw [contains_letters_digit (x.isDigit_getLast?_host hend)] at hletter
  cases hletter

end Dotted

/-- **Four runs of digits, and perhaps a port and a path.** -/
structure Target extends Dotted where
  /-- The digits of the port. -/
  port : Option (List Char)
  /-- The path without the slash that starts it. -/
  path : Option (List Char)
  isPort : ∀ ds ∈ port, (2 ≤ ds.length ∧ ds.length ≤ 5) ∧ ∀ c ∈ ds, c.isDigit = true
  isPath : ∀ p ∈ path, ∀ c ∈ p, Text.isBlank c = false

namespace Target

variable (x : Target)

/-- The port and the path as they are written. -/
def tail : List Char :=
  (x.port.elim [] (':' :: ·)) ++ x.path.elim [] ('/' :: ·)

/-- The whole text. -/
def text : List Char :=
  x.host ++ x.tail

theorem tail_mem_language : x.tail ∈ (Expr.sequence tailParts).language := by
  refine mem_language_tailParts_iff.2 ⟨_, _, ?_, ?_, rfl⟩
  · have hport := x.isPort
    cases hds : x.port with
    | none => exact .inl rfl
    | some ds => exact .inr ⟨ds, rfl, hport ds hds⟩
  · have hpath := x.isPath
    cases hp : x.path with
    | none => exact .inl rfl
    | some p => exact .inr ⟨p, rfl, hpath p hp⟩

/-- **The host of digits is told from the tail in one way.** -/
theorem mem_ends_isTail_iff (he : e.isPlain = true) (hcolon : Expr.avoids ':' e = true)
    (hslash : Expr.avoids '/' e = true) :
    n ∈ Expr.ends x.text.toArray e [0] ∧ isTail x.text.toArray n = true ↔
      n = x.host.length ∧ x.host ∈ e.language := by
  have hsize : x.text.toArray.size = x.text.length := rfl
  rw [Expr.mem_ends_iff_exists he (Nat.zero_le _)]
  simp only [List.drop_zero, Nat.zero_add]
  constructor
  · rintro ⟨⟨w, hw, ⟨rest, hrest⟩, rfl⟩, htail⟩
    rw [isTail_iff (by simp [← hrest]), ← hrest, List.drop_left] at htail
    have hsame : w = x.host :=
      eq_of_append_tail (chars_of_avoids hcolon hslash hw)
        (fun c hc => ⟨(x.host_chars hc).1, (x.host_chars hc).2.1⟩) htail x.tail_mem_language hrest
    exact ⟨congrArg List.length hsame, hsame ▸ hw⟩
  · rintro ⟨rfl, hw⟩
    refine ⟨⟨x.host, hw, List.prefix_append _ _, rfl⟩, (isTail_iff (by simp [text])).2 ?_⟩
    rw [text, List.drop_left]
    exact x.tail_mem_language

/-- What can be read as an address at the start is read as one. -/
theorem hostAt?_of_isReadable (h : x.IsReadable) :
    hostAt? x.text.toArray 0 = some (!isPrivate (numbers x.host [])) := by
  have hread := fun n => @mem_ends_isTail_iff address n x (by rfl) (by decide) (by decide)
  have hmem := (hread x.host.length).2 ⟨rfl, x.host_mem_language_iff.2 h⟩
  have hfound : (address.ends x.text.toArray [0]).find? (isTail x.text.toArray) =
      some x.host.length := by
    cases hfind : (address.ends x.text.toArray [0]).find? (isTail x.text.toArray) with
    | none => exact absurd hmem.2 (List.find?_eq_none.1 hfind _ hmem.1)
    | some n =>
      have hn := (hread n).1 ⟨List.mem_of_find?_eq_some hfind, List.find?_some hfind⟩
      rw [hn.1]
  have hcut : (x.text.toArray.extract 0 x.host.length).toList = x.host := by
    simp [text]
  rw [hostAt?, hfound]
  dsimp only
  rw [hcut]

/-- What cannot is not read at all. -/
theorem hostAt?_of_not_isReadable (h : ¬x.IsReadable) : hostAt? x.text.toArray 0 = none := by
  have hread := fun n => @mem_ends_isTail_iff address n x (by rfl) (by decide) (by decide)
  have hname := fun n => @mem_ends_isTail_iff name n x (by rfl) (by decide) (by decide)
  have haddress : (address.ends x.text.toArray [0]).find? (isTail x.text.toArray) = none := by
    rw [List.find?_eq_none]
    intro n hn htail
    exact h (x.host_mem_language_iff.1 ((hread n).1 ⟨hn, htail⟩).2)
  have hno : (name.ends x.text.toArray [0]).any (isTail x.text.toArray) = false := by
    rw [List.any_eq_false]
    intro n hn htail
    exact x.host_not_mem_name ((hname n).1 ⟨hn, htail⟩).2
  rw [hostAt?, haddress, hno]
  rfl

end Target

end Url

end Rulebook
