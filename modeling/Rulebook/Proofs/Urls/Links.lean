import Rulebook.Proofs.Urls.Hosts
/-!
# URLs — where a host may start

A link is a scheme and a target (`Url.Link`). The scheme ends in one place (`Url.Link.ends_scheme`),
and what may be user information ends after any `@` of what follows (`Url.Link.mem_ends_userInfo_iff`),
so also after one in the path. The last place where a host can be read decides
(`Url.Link.isPublic_of_last`), and the place after the scheme does if there is no other one
(`Url.Link.isPublic_of_none`).
-/

namespace Rulebook

open Pattern (Expr)

namespace Url

open Formats (char optional oneOrMore zeroOrMore)

variable {s : Array Char} {e : Expr} {i n : Nat} {t w : List Char} {c d : Char}

/-! ## Schemes -/

theorem contains_folded_single (hc : c.toNat < 128 ∧ Unicode.isCapital c.toNat = false) :
    (CodeSet.folded (.single c.toNat)).contains d.toNat = true ↔ Unicode.fold d.toNat = c.toNat := by
  have hset : ∀ n, (CodeSet.single c.toNat).contains n = true →
      n < 128 ∧ Unicode.isCapital n = false := by
    intro n hn
    rw [CodeSet.single, CodeSet.contains_range_iff] at hn
    obtain rfl : n = c.toNat := by omega
    exact hc
  rw [CodeSet.contains_folded hset, CodeSet.single, CodeSet.contains_range_iff]
  omega

/-- Small letters and other ASCII characters. -/
def AreSmall (cs : List Char) : Prop :=
  ∀ c ∈ cs, c.toNat < 128 ∧ Unicode.isCapital c.toNat = false

-- The list is short, unlike that of all characters, which would be looked for first.
instance (cs : List Char) : Decidable (AreSmall cs) :=
  List.decidableBAll _ cs

/-- Given characters in either case. -/
theorem mem_language_word_iff {letters : String} (hletters : AreSmall letters.toList) :
    w ∈ (word letters).language ↔
      w.map (fun d => Unicode.fold d.toNat) = letters.toList.map Char.toNat := by
  rw [word]
  generalize letters.toList = cs at hletters
  induction cs generalizing w with
  | nil => simp [Language.mem_one]
  | cons c cs ih =>
    obtain ⟨hc, hcs⟩ := List.forall_mem_cons.1 hletters
    rw [List.map_cons, Expr.language_sequence_cons, Language.mem_mul, List.map_cons]
    constructor
    · rintro ⟨u, ⟨d, hd, rfl⟩, v, hv, rfl⟩
      rw [List.singleton_append, List.map_cons, (contains_folded_single hc).1 hd, (ih hcs).1 hv]
    · intro h
      obtain ⟨d, v, rfl, hd, hv⟩ := List.map_eq_cons_iff.1 h
      exact ⟨[d], ⟨d, (contains_folded_single hc).2 hd, rfl⟩, v, (ih hcs).2 hv, rfl⟩

theorem toNat_lt_of_toLower (h : d.toLower.toNat < 128) : d.toNat < 128 := by
  unfold Char.toLower at h
  split at h
  next hupper =>
    have hhigh : d.toNat ≤ 90 := UInt32.le_iff_toNat_le.1 hupper.2
    omega
  next => exact h

/-- Among them are the same characters but for the case of letters. -/
theorem mem_language_word_of_toLower {letters : String} (hletters : AreSmall letters.toList)
    (h : w.map Char.toLower = letters.toList) : w ∈ (word letters).language := by
  rw [mem_language_word_iff hletters, ← h, List.map_map]
  refine List.map_congr_left fun d hd => ?_
  have hlower := hletters d.toLower (h ▸ List.mem_map_of_mem hd)
  exact Unicode.fold_toNat (toNat_lt_of_toLower hlower.1)

/-- What is no letter has no case. -/
theorem mem_language_marks_iff : w ∈ (word "://").language ↔ w = "://".toList := by
  have hmarks : AreSmall "://".toList := by decide +kernel
  have hsingle : ∀ {d : Char}, Unicode.fold d.toNat = 0x3A ∨ Unicode.fold d.toNat = 0x2F →
      Char.ofNat (Unicode.fold d.toNat) = d := by
    intro d hd
    have hself : d.toNat = Unicode.fold d.toNat :=
      Unicode.eq_of_fold_eq rfl (by omega) (by omega)
    rw [← hself, Char.ofNat_toNat]
  constructor
  · intro hw
    have hfold : w.map (fun d => Unicode.fold d.toNat) = [0x3A, 0x2F, 0x2F] :=
      (mem_language_word_iff hmarks).1 hw
    obtain ⟨a, rest, rfl, ha, hrest⟩ := List.map_eq_cons_iff.1 hfold
    obtain ⟨b, rest, rfl, hb, hrest⟩ := List.map_eq_cons_iff.1 hrest
    obtain ⟨c, rest, rfl, hc, hrest⟩ := List.map_eq_cons_iff.1 hrest
    obtain rfl := List.map_eq_nil_iff.1 hrest
    rw [← hsingle (.inl ha), ← hsingle (.inr hb), ← hsingle (.inr hc), ha, hb, hc]
    rfl
  · rintro rfl
    exact mem_language_word_of_toLower hmarks (by decide)

/-- The name of a scheme. -/
def schemeName : Expr :=
  .choice [.seq (word "http") (optional (word "s")), word "ftp"]

/-- **A scheme, and four runs of digits for a host.** -/
structure Link extends Target where
  /-- The scheme. -/
  scheme : List Char
  isScheme : scheme.map Char.toLower ∈ ["http".toList, "https".toList, "ftp".toList]

namespace Link

variable (x : Link)

/-- The whole link. -/
def url : List Char :=
  x.scheme ++ ("://".toList ++ x.text)

theorem scheme_mem_language : x.scheme ∈ schemeName.language := by
  have hhttp : AreSmall "http".toList := by decide +kernel
  have hs : AreSmall "s".toList := by decide +kernel
  have hftp : AreSmall "ftp".toList := by decide +kernel
  have hscheme := x.isScheme
  simp only [List.mem_cons, List.not_mem_nil, or_false] at hscheme
  rcases hscheme with h | h | h
  · refine .inl ⟨x.scheme, mem_language_word_of_toLower hhttp h, [], ?_, List.append_nil _⟩
    exact Formats.mem_language_optional.2 (.inl rfl)
  · obtain ⟨u, v, hscheme, hu, hv⟩ := List.map_eq_append_iff.1
      (h.trans (by decide : "https".toList = "http".toList ++ "s".toList))
    refine .inl ⟨u, mem_language_word_of_toLower hhttp hu, v, ?_, hscheme.symm⟩
    exact Formats.mem_language_optional.2 (.inr (mem_language_word_of_toLower hs hv))
  · exact .inr (mem_language_word_of_toLower hftp h)

/-- The colon after the scheme is the first one. -/
theorem colon_not_mem_scheme : ':' ∉ x.scheme := by
  have hschemes : ∀ name ∈ ["http".toList, "https".toList, "ftp".toList], ':' ∉ name := by decide
  intro hcolon
  exact hschemes _ x.isScheme (List.mem_map_of_mem hcolon)

/-- The place after the scheme. -/
def start : Nat :=
  x.scheme.length + 3

/-- **The scheme ends in one place.** -/
theorem ends_scheme : Url.scheme.ends x.url.toArray [0] = [x.start] := by
  refine List.Pairwise.eq_of_mem_iff (r := (· < ·))
    (Expr.ascending_ends _ _ (Nat.zero_le _)) (List.pairwise_singleton _ _) fun n => ?_
  rw [Expr.mem_ends_iff_exists (by rfl) (Nat.zero_le _), List.mem_singleton]
  simp only [List.drop_zero, Nat.zero_add]
  constructor
  · rintro ⟨w, ⟨u, hu, v, hv, rfl⟩, ⟨rest, hrest⟩, rfl⟩
    obtain rfl := mem_language_marks_iff.1 hv
    have hcolon : ':' ∉ u := Expr.not_mem_of_avoids (by decide +kernel) hu
    -- both end where the first colon stands
    have hsame : u = x.scheme := by
      refine eq_of_append_eq (p := (· ≠ ':')) (fun c hc => ?_) (fun c hc => ?_) ?_ ?_
        ((List.append_assoc ..).symm.trans hrest)
      · exact decide_eq_true fun h : c = ':' => hcolon (h ▸ hc)
      · exact decide_eq_true fun h : c = ':' => x.colon_not_mem_scheme (h ▸ hc)
      · simp
      · simp
    rw [hsame, start]
    simp
  · rintro rfl
    refine ⟨x.scheme ++ "://".toList, ⟨x.scheme, x.scheme_mem_language, _,
      mem_language_marks_iff.2 rfl, rfl⟩, ⟨x.text, ?_⟩, ?_⟩
    · rw [List.append_assoc]
      rfl
    · simp [start]

theorem drop_start : x.url.toArray.toList.drop x.start = x.text := by
  simp [url, start]

theorem start_le : x.start ≤ x.url.toArray.size := by
  simp [url, start]

end Link

/-! ## User information -/

/-- Of two marks in a text, one stands before the other, or they are the same. -/
theorem append_cons_eq_append_cons {u v xs ys : List Char} (h : u ++ c :: xs = v ++ d :: ys) :
    (∃ mid, v = u ++ c :: mid ∧ xs = mid ++ d :: ys) ∨ (c = d ∧ xs = ys) ∨
      ∃ mid, u = v ++ d :: mid ∧ ys = mid ++ c :: xs := by
  rcases List.append_eq_append_iff.1 h with ⟨mid, hv, hxs⟩ | ⟨mid, hu, hys⟩
  · cases mid with
    | nil => exact .inr (.inl (List.cons.inj hxs))
    | cons first mid =>
      obtain ⟨rfl, htail⟩ := List.cons.inj hxs
      exact .inl ⟨mid, hv, htail⟩
  · cases mid with
    | nil => exact .inr (.inl ((List.cons.inj hys).imp Eq.symm Eq.symm))
    | cons first mid =>
      obtain ⟨rfl, htail⟩ := List.cons.inj hys
      exact .inr (.inr ⟨mid, hu, htail⟩)

/-- User information is any text without blanks, and an `@`. -/
theorem mem_language_userInfo_iff : w ∈ userInfo.language ↔
    ∃ p, p ≠ [] ∧ (∀ c ∈ p, Text.isBlank c = false) ∧ w = p ++ ['@'] := by
  rw [userInfo, Expr.language_three]
  constructor
  · rintro ⟨u, ⟨name, hname, secret, hsecret, rfl⟩, v, hv, rfl⟩
    obtain rfl := Formats.mem_language_char.1 hv
    obtain ⟨hne, hname⟩ := Formats.mem_language_oneOrMore.1 hname
    simp only [contains_solid_iff] at hname
    refine ⟨name ++ secret, by simp [hne], fun c hc => ?_, rfl⟩
    rcases List.mem_append.1 hc with hc | hc
    · exact hname c hc
    · rcases Formats.mem_language_optional.1 hsecret with rfl | ⟨mark, hmark, rest, hrest, rfl⟩
      · cases hc
      · obtain rfl := Formats.mem_language_char.1 hmark
        rcases List.mem_cons.1 hc with rfl | hc
        · decide
        · exact contains_solid_iff.1 (Formats.mem_language_zeroOrMore.1 hrest c hc)
  · rintro ⟨p, hne, hp, rfl⟩
    refine ⟨p, ⟨p, ?_, [], Formats.mem_language_optional.2 (.inl rfl), List.append_nil p⟩, ['@'],
      Formats.mem_language_char.2 rfl, rfl⟩
    exact Formats.mem_language_oneOrMore.2 ⟨hne, fun c hc => contains_solid_iff.2 (hp c hc)⟩

namespace Target

variable (x : Target)

/-- What stands before the path. -/
def front : List Char :=
  x.host ++ x.port.elim [] (':' :: ·)

theorem text_eq : x.text = x.front ++ x.path.elim [] ('/' :: ·) := by
  simp [text, tail, front]

theorem front_chars (hc : c ∈ x.front) : c ≠ '@' ∧ Text.isBlank c = false := by
  rcases List.mem_append.1 hc with hc | hc
  · exact (x.host_chars hc).2.2
  · have hport := x.isPort
    cases hds : x.port with
    | none =>
      rw [hds] at hc
      cases hc
    | some ds =>
      rw [hds] at hc
      rcases List.mem_cons.1 hc with rfl | hc
      · decide
      · have hdigit := (hport ds hds).2 c hc
        refine ⟨?_, Text.isBlank_of_isDigit hdigit⟩
        rintro rfl
        exact absurd hdigit (by decide)

/-- Nothing in a target is blank. -/
theorem isBlank_eq_false (hc : c ∈ x.text) : Text.isBlank c = false := by
  rw [text_eq] at hc
  rcases List.mem_append.1 hc with hc | hc
  · exact (x.front_chars hc).2
  · have hpath := x.isPath
    cases hp : x.path with
    | none =>
      rw [hp] at hc
      cases hc
    | some p =>
      rw [hp] at hc
      rcases List.mem_cons.1 hc with rfl | hc
      · decide
      · exact hpath p hp c hc

/-- **An `@` in a target stands in its path.** -/
theorem text_eq_append_iff {before rest : List Char} : x.text = before ++ '@' :: rest ↔
    ∃ inner, x.path = some (inner ++ '@' :: rest) ∧ before = x.front ++ '/' :: inner := by
  rw [text_eq]
  constructor
  · intro h
    cases hp : x.path with
    | none =>
      rw [hp, Option.elim_none, List.append_nil] at h
      exact absurd rfl (x.front_chars (h ▸ by simp : '@' ∈ x.front)).1
    | some p =>
      rw [hp, Option.elim_some] at h
      rcases append_cons_eq_append_cons h with ⟨inner, hbefore, hpath⟩ | ⟨hmark, -⟩ | ⟨mid, hfront, -⟩
      · exact ⟨inner, congrArg some hpath, hbefore⟩
      · cases hmark
      · exact absurd rfl (x.front_chars (hfront ▸ by simp : '@' ∈ x.front)).1
  · rintro ⟨inner, hpath, rfl⟩
    rw [hpath, Option.elim_some, List.append_assoc, List.cons_append]

end Target

namespace Link

variable (x : Link)

/-- **What may be user information** ends after any `@` of the path. -/
theorem mem_ends_userInfo_iff : n ∈ userInfo.ends x.url.toArray [x.start] ↔
    ∃ inner rest, x.path = some (inner ++ '@' :: rest) ∧ n + rest.length = x.url.length := by
  have hlength : x.url.length = x.start + x.text.length := by
    simp [url, start, Nat.add_assoc, Nat.add_comm 3]
  rw [Expr.mem_ends_iff_exists (by rfl) x.start_le, x.drop_start]
  constructor
  · rintro ⟨w, hw, ⟨rest, hrest⟩, rfl⟩
    obtain ⟨p, -, -, rfl⟩ := mem_language_userInfo_iff.1 hw
    rw [List.append_assoc, List.singleton_append] at hrest
    obtain ⟨inner, hpath, -⟩ := x.text_eq_append_iff.1 hrest.symm
    refine ⟨inner, rest, hpath, ?_⟩
    rw [hlength, ← hrest]
    simp
    omega
  · rintro ⟨inner, rest, hpath, hn⟩
    have htext := x.text_eq_append_iff.2 ⟨inner, hpath, rfl⟩
    refine ⟨x.front ++ '/' :: inner ++ ['@'], mem_language_userInfo_iff.2 ⟨_, by simp,
      fun c hc => ?_, rfl⟩, ⟨rest, ?_⟩, ?_⟩
    · exact x.isBlank_eq_false (htext ▸ List.mem_append_left _ hc)
    · rw [htext, List.append_assoc, List.singleton_append]
    · rw [hlength, htext] at hn
      simp at hn ⊢
      omega

end Link

/-! ## The order of the places -/

/-- **What is read at the start of a text** as a host with a tail, if anything is: whether the host
is public. -/
def verdict? (rest : List Char) : Option Bool :=
  hostAt? rest.toArray 0

/-- Of ascending places that are tried from the last one on, the last one that gives something
decides. -/
theorem findSome?_reverse_of_last {f : Nat → Option Bool} {places : List Nat} {v : Bool}
    (hplaces : places.Pairwise (· < ·)) (hn : n ∈ places) (hv : f n = some v)
    (hlater : ∀ m ∈ places, n < m → f m = none) : places.reverse.findSome? f = some v := by
  obtain ⟨before, after, rfl⟩ := List.append_of_mem hn
  have hafter : after.reverse.findSome? f = none := by
    rw [List.findSome?_eq_none_iff]
    intro m hm
    have hmem := List.mem_reverse.1 hm
    have hascending := (List.pairwise_cons.1 (List.pairwise_append.1 hplaces).2.1).1 m hmem
    exact hlater m (by simp [hmem]) hascending
  rw [List.reverse_append, List.reverse_cons, List.append_assoc, List.findSome?_append, hafter,
    Option.none_or, List.singleton_append, List.findSome?_cons_of_isSome (by simp [hv]), hv]

namespace Link

variable (x : Link)

theorem isPublic_url : isPublic (String.ofList x.url) =
    (((userInfo.ends x.url.toArray [x.start]).reverse ++ [x.start]).findSome?
      (hostAt? x.url.toArray)).getD false := by
  simp only [isPublic, hostStarts, String.toList_ofList, x.ends_scheme]

theorem hostAt?_start : hostAt? x.url.toArray x.start = verdict? x.text := by
  rw [hostAt?_eq_drop x.start_le, x.drop_start, verdict?]

/-- What stands after an `@` of the path is the rest of the link. -/
theorem suffix_url {inner rest : List Char} (hpath : x.path = some (inner ++ '@' :: rest)) :
    rest <:+ x.url := by
  refine ⟨x.scheme ++ ("://".toList ++ (x.front ++ '/' :: inner ++ ['@'])), ?_⟩
  rw [url, x.text_eq_append_iff.2 ⟨inner, hpath, rfl⟩]
  simp

/-- At the end of what may be user information, the rest is read. -/
theorem hostAt?_of_userInfo {inner rest : List Char}
    (hpath : x.path = some (inner ++ '@' :: rest)) (hn : n + rest.length = x.url.length) :
    hostAt? x.url.toArray n = verdict? rest := by
  have hdrop : x.url.toArray.toList.drop n = rest := by
    have hplace : n = x.url.length - rest.length := by omega
    rw [hplace]
    exact (List.suffix_iff_eq_drop.1 (x.suffix_url hpath)).symm
  have hsize : x.url.toArray.size = x.url.length := rfl
  rw [hostAt?_eq_drop (by omega), hdrop, verdict?]

/-- **If no host can be read after any `@` of the path**, the host of the link decides. -/
theorem isPublic_of_none (hnone : ∀ inner rest, x.path = some (inner ++ '@' :: rest) →
    verdict? rest = none) : isPublic (String.ofList x.url) = (verdict? x.text).getD false := by
  have huser : (userInfo.ends x.url.toArray [x.start]).reverse.findSome? (hostAt? x.url.toArray) =
      none := by
    rw [List.findSome?_eq_none_iff]
    intro n hn
    obtain ⟨inner, rest, hpath, hplace⟩ := x.mem_ends_userInfo_iff.1 (List.mem_reverse.1 hn)
    rw [x.hostAt?_of_userInfo hpath hplace, hnone inner rest hpath]
  rw [isPublic_url, List.findSome?_append, huser, Option.none_or, List.findSome?_singleton,
    hostAt?_start]

/-- **Otherwise the host after the last such `@` decides.** -/
theorem isPublic_of_last {inner rest : List Char} {v : Bool}
    (hpath : x.path = some (inner ++ '@' :: rest)) (hv : verdict? rest = some v)
    (hlast : ∀ inner' rest', rest = inner' ++ '@' :: rest' → verdict? rest' = none) :
    isPublic (String.ofList x.url) = v := by
  obtain ⟨n, hn⟩ : ∃ n, n + rest.length = x.url.length :=
    ⟨_, Nat.sub_add_cancel (x.suffix_url hpath).length_le⟩
  have huser : (userInfo.ends x.url.toArray [x.start]).reverse.findSome? (hostAt? x.url.toArray) =
      some v := by
    refine findSome?_reverse_of_last (Expr.ascending_ends _ _ x.start_le)
      (x.mem_ends_userInfo_iff.2 ⟨inner, rest, hpath, hn⟩)
      ((x.hostAt?_of_userInfo hpath hn).trans hv) fun m hm hlt => ?_
    obtain ⟨inner', rest', hpath', hm⟩ := x.mem_ends_userInfo_iff.1 hm
    rw [x.hostAt?_of_userInfo hpath' hm]
    have hsame : inner ++ '@' :: rest = inner' ++ '@' :: rest' :=
      Option.some.inj (hpath.symm.trans hpath')
    -- a later place has a shorter rest
    rcases append_cons_eq_append_cons hsame with ⟨mid, -, hrest⟩ | ⟨-, rfl⟩ | ⟨mid, -, hrest⟩
    · exact hlast mid rest' hrest
    · omega
    · have hlength := congrArg List.length hrest
      rw [List.length_append, List.length_cons] at hlength
      omega
  rw [isPublic_url, List.findSome?_append, huser]
  rfl

end Link

end Url

end Rulebook
