import Rulebook.Validator
import Rulebook.Proofs.Checkers.Builtin
import Rulebook.Proofs.Urls.Links
import Rulebook.Proofs.Validation.Conformance
/-!
# Checkers — links to addresses

A link with four runs of digits for a host is accepted if they are the address of a public host, as
long as the path holds no `@` with a host behind it (`Checker.run_url`). Such an `@` makes user
information of all that stands before it, the address included, and the host behind the last one is
checked in place of the address. So it is that host which decides whether the link conforms to a
rule (`Url.Link.conforms_iff_of_target`).
-/

namespace Rulebook

namespace Url

namespace Target

variable (x : Target)

/-- An address that can be read is judged by its numbers. -/
theorem verdict?_text (h : x.IsReadable) : verdict? x.text = some true ↔ x.IsPublic := by
  rw [verdict?, x.hostAt?_of_isReadable h, ← x.isPrivate_numbers_iff h]
  simp

/-- So it is judged as public just if it is. -/
theorem getD_verdict?_text : (verdict? x.text).getD false = true ↔ x.IsPublic := by
  by_cases h : x.IsReadable
  · rw [← x.verdict?_text h, verdict?, x.hostAt?_of_isReadable h]
    simp
  · rw [verdict?, x.hostAt?_of_not_isReadable h]
    exact iff_of_false (by simp) fun hpublic => h hpublic.1

/-- A path without an `@` makes a text without one. -/
theorem text_ne_append {inner rest : List Char} (h : ∀ p ∈ x.path, '@' ∉ p) :
    x.text ≠ inner ++ '@' :: rest := by
  intro htext
  obtain ⟨before, hpath, -⟩ := x.text_eq_append_iff.1 htext
  exact h _ hpath (by simp)

end Target

namespace Dotted

/-- An address with nothing behind it. -/
def bare (x : Dotted) : Target where
  toDotted := x
  port := none
  path := none
  isPort := nofun
  isPath := nofun

theorem text_bare (x : Dotted) : x.bare.text = x.host := by
  simp [Target.text, Target.tail, bare]

end Dotted

/-- An address of the open network. -/
def wide : Dotted := .ofNumbers 8 8 8 8

/-- An address of a private network. -/
def home : Dotted := .ofNumbers 10 0 0 1

theorem isReadable_wide : wide.IsReadable :=
  ⟨⟨8, by decide, by decide, rfl⟩, .inl (by decide), .inl (by decide), 8, by decide, by decide, rfl⟩

theorem isReadable_home : home.IsReadable :=
  ⟨⟨10, by decide, by decide, rfl⟩, .inl (by decide), .inl (by decide), 1, by decide, by decide, rfl⟩

theorem isPublic_wide : wide.IsPublic := by
  have hnetworks : ∀ network ∈ privateNetworks, ¬network.Contains (bits 8 8 8 8) := by decide
  refine ⟨isReadable_wide, ?_⟩
  simpa only [wide, Dotted.ofNumbers, Decimal.value_digits] using hnetworks

theorem not_isPublic_home : ¬home.IsPublic := by
  have hnetwork : (⟨bits 10 0 0 0, 8⟩ : Network).Contains (bits 10 0 0 1) := by decide
  rintro ⟨-, hnone⟩
  refine hnone _ List.mem_cons_self ?_
  simpa only [home, Dotted.ofNumbers, Decimal.value_digits] using hnetwork

namespace Link

/-- A link to an address. -/
def http (x : Dotted) : Link where
  toTarget := x.bare
  scheme := "http".toList
  isScheme := by decide

/-- A link to an address, with another address behind an `@` in its path. -/
def detour (x y : Dotted) : Link where
  toDotted := x
  port := none
  path := some ('@' :: y.host)
  isPort := nofun
  isPath := by
    rintro p ⟨⟩ c hc
    rcases List.mem_cons.1 hc with rfl | hc
    · decide
    · exact (y.host_chars hc).2.2.2
  scheme := "http".toList
  isScheme := by decide

theorem path_detour (x y : Dotted) : (detour x y).path = some ([] ++ '@' :: y.bare.text) := by
  rw [y.text_bare]
  rfl

variable (x : Link)

theorem ofList_url_ne : String.ofList x.url ≠ "" := by
  simp [url]

/-- **Another target behind an `@` of the path** is judged in place of the link's own, if it can be
read. -/
theorem isPublic_of_target {inner : List Char} {y : Target}
    (hpath : x.path = some (inner ++ '@' :: y.text)) (hread : y.IsReadable)
    (hy : ∀ p ∈ y.path, '@' ∉ p) : isPublic (String.ofList x.url) = true ↔ y.IsPublic := by
  have hverdict : verdict? y.text = some (!isPrivate (numbers y.host [])) :=
    y.hostAt?_of_isReadable hread
  rw [x.isPublic_of_last hpath hverdict fun _ _ h => absurd h (y.text_ne_append hy),
    ← y.isPrivate_numbers_iff hread, Bool.not_eq_true']

/-- So the link conforms to a rule for URLs just if that target is public. -/
theorem conforms_iff_of_target {rule : Rule} {inner : List Char} {y : Target}
    (hpath : x.path = some (inner ++ '@' :: y.text)) (hread : y.IsReadable)
    (hy : ∀ p ∈ y.path, '@' ∉ p) :
    Conforms .url rule (.string (String.ofList x.url)) ↔ y.IsPublic := by
  rw [← x.isPublic_of_target hpath hread hy]
  refine ⟨Checker.isPublic_of_conforms x.ofList_url_ne, fun hpublic => ?_⟩
  obtain ⟨start, hhost⟩ := (isPublic_iff _).1 hpublic
  exact .url x.ofList_url_ne hhost

/-- And one to a public address does not conform if the one behind the `@` is private. -/
theorem not_conforms_detour (rule : Rule) :
    ¬Conforms .url rule (.string "http://8.8.8.8/@10.0.0.1") := by
  have htext : String.ofList (detour wide home).url = "http://8.8.8.8/@10.0.0.1" := by decide
  rw [← htext, conforms_iff_of_target _ (path_detour wide home) isReadable_home nofun]
  exact not_isPublic_home

end Link

end Url

namespace Checker

open Url

variable {context : Context} {rule : Rule}

/-- The check of a link asks whether it is one of a public host. -/
theorem url_verdict (context : Context) (rule : Rule) (x : Link) :
    (Kind.url.run context rule (.string (String.ofList x.url))).verdict =
      .ok (if isPublic (String.ofList x.url) then .valid
        else .invalid (rule.message.getD (context.say .notUrl))) := by
  have hempty : (String.ofList x.url).isEmpty = false := by
    simpa using x.ofList_url_ne
  refine congrArg Except.ok ?_
  rw [url, hempty]
  rfl

theorem url_valid_iff (context : Context) (rule : Rule) (x : Link) :
    (Kind.url.run context rule (.string (String.ofList x.url))).verdict = .ok .valid ↔
      isPublic (String.ofList x.url) = true := by
  rw [url_verdict, ok_ite_eq_valid_iff]

/-- **What the check of links makes of an address**. If no host can be read behind any `@` of the
path, so also if the path holds none, the link is accepted just if the address is public. Otherwise
the host behind the last such `@` decides, whatever the address is. What is not accepted gets the
message of the rule. -/
theorem run_url (context : Context) (rule : Rule) (x : Link) :
    let verdict := (Kind.url.run context rule (.string (String.ofList x.url))).verdict
    ((∀ inner rest, x.path = some (inner ++ '@' :: rest) → verdict? rest = none) →
        (verdict = .ok .valid ↔ x.IsPublic)) ∧
      (∀ inner rest v, x.path = some (inner ++ '@' :: rest) → verdict? rest = some v →
        (∀ inner' rest', rest = inner' ++ '@' :: rest' → verdict? rest' = none) →
          (verdict = .ok .valid ↔ v = true)) ∧
      (∀ inner (y : Target), x.path = some (inner ++ '@' :: y.text) → y.IsReadable →
        (∀ p ∈ y.path, '@' ∉ p) → (verdict = .ok .valid ↔ y.IsPublic)) ∧
      (verdict ≠ .ok .valid →
        verdict = .ok (.invalid (rule.message.getD (context.say .notUrl)))) := by
  intro verdict
  have hvalid : verdict = .ok .valid ↔ isPublic (String.ofList x.url) = true :=
    url_valid_iff context rule x
  refine ⟨fun hnone => ?_, fun inner rest v hpath hv hlast => ?_, fun inner y hpath hread hy => ?_,
    ok_ite_eq_invalid (url_verdict context rule x)⟩
  · rw [hvalid, x.isPublic_of_none hnone, x.getD_verdict?_text]
  · rw [hvalid, x.isPublic_of_last hpath hv hlast]
  · rw [hvalid, x.isPublic_of_target hpath hread hy]

/-- A link to a public address is accepted, one with a private address behind an `@` is not. -/
theorem run_url_wide :
    let verdict (x : Link) := (Kind.url.run (Validator.context {} 0 "site" []) {}
      (.string (String.ofList x.url))).verdict
    (Link.http wide).path = none ∧ verdict (.http wide) = .ok .valid ∧
      (Link.detour wide home).path = some ([] ++ '@' :: home.bare.text) ∧ home.IsReadable ∧
        verdict (.detour wide home) ≠ .ok .valid := by
  have hplain := run_url (Validator.context {} 0 "site" []) {} (.http wide)
  have hdetour := run_url (Validator.context {} 0 "site" []) {} (.detour wide home)
  have hpath := Link.path_detour wide home
  refine ⟨rfl, (hplain.1 nofun).2 isPublic_wide, hpath, isReadable_home, fun hvalid => ?_⟩
  exact not_isPublic_home ((hdetour.2.2.1 [] home.bare hpath isReadable_home nofun).1 hvalid)

/-- **The address is not what decides.** A link to a private address is accepted with a public one
behind an `@` in its path, and the other way round one to a public address is not. -/
theorem run_url_detours :
    let verdict (x : Link) := (Kind.url.run (Validator.context {} 0 "site" []) {}
      (.string (String.ofList x.url))).verdict
    (String.ofList (Link.detour home wide).url = "http://10.0.0.1/@8.8.8.8" ∧
      ¬(Link.detour home wide).IsPublic ∧ verdict (.detour home wide) = .ok .valid) ∧
    String.ofList (Link.detour wide home).url = "http://8.8.8.8/@10.0.0.1" ∧
      (Link.detour wide home).IsPublic ∧ verdict (.detour wide home) ≠ .ok .valid := by
  refine ⟨⟨by decide, not_isPublic_home, ?_⟩, by decide, isPublic_wide, fun hvalid => ?_⟩
  · rw [url_valid_iff]
    exact (Link.isPublic_of_target _ (Link.path_detour home wide) isReadable_wide nofun).2
      isPublic_wide
  · rw [url_valid_iff] at hvalid
    exact not_isPublic_home ((Link.isPublic_of_target _ (Link.path_detour wide home)
      isReadable_home nofun).1 hvalid)

end Checker

end Rulebook
