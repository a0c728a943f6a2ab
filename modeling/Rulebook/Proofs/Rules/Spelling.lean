import Mathlib.Logic.Relation
import Rulebook.Proofs.Rules.Documents
import Rulebook.Proofs.Rules.Reading
/-!
# Rules — the spelling of records

A record says the same in many spellings: its keys may come in any order, some of them have a second
spelling, keys that are no attributes are passed over, and null is the same as nothing wherever an
attribute may be left out. Records are read key by key into one state, so the reason is that reading
two attributes in either order comes to the same (`Record.agree_readAll_perm`). A rule document can
be respelled in this way at any depth (`RuleSet.ofJson_of_respelled`).
-/

namespace Rulebook

/-- Two results are the same, or both are errors. -/
abbrev SameSuccess {ε α : Type} : Except ε α → Except ε α → Prop :=
  Agree (fun _ _ => True) Eq

namespace SameSuccess

variable {ε α : Type} {x y z : Except ε α}

theorem refl (x : Except ε α) : SameSuccess x x :=
  Agree.refl (fun _ => trivial) (fun _ => rfl) x

theorem symm (h : SameSuccess x y) : SameSuccess y x := by
  cases h with
  | ok hab => exact .ok hab.symm
  | error _ => exact .error trivial

theorem trans (h : SameSuccess x y) (h' : SameSuccess y z) : SameSuccess x z := by
  cases h with
  | ok hab => cases h' with | ok hbc => exact .ok (hab.trans hbc)
  | error _ => cases h' with | error _ => exact .error trivial

/-- **A result that is not an error is the same on both sides.** -/
theorem eq_ok_iff (h : SameSuccess x y) (a : α) : x = .ok a ↔ y = .ok a := by
  cases h with
  | ok hab => rw [hab]
  | error _ => simp

end SameSuccess

/-! ## One attribute -/

namespace Attribute

/-- Only the nested rules have the key `rule`. -/
theorem ofKey?_eq_rule_iff {name : String} : ofKey? name = some rule ↔ name = rule.key := by
  constructor
  · intro h
    unfold ofKey? at h
    split at h <;> first | rfl | cases h
  · rintro rfl
    exact ofKey?_key rule

end Attribute

namespace Record

/-- A record with one attribute taken from another one. The nested rules are no part of it. -/
def take (record source : Record) : Attribute → Record
  | .typeName => { record with typeName := source.typeName }
  | .required => { record with required := source.required }
  | .allowEmpty => { record with allowEmpty := source.allowEmpty }
  | .empty => { record with empty := source.empty }
  | .trim => { record with trim := source.trim }
  | .min => { record with min := source.min }
  | .max => { record with max := source.max }
  | .values => { record with values := source.values }
  | .format => { record with format := source.format }
  | .itemType => { record with itemType := source.itemType }
  | .rule => record
  | .compare => { record with compare := source.compare }
  | .fallback => { record with fallback := source.fallback }
  | .message => { record with message := source.message }
  | .conversion => { record with conversion := source.conversion }
  | .widelyUndefined => { record with widelyUndefined := source.widelyUndefined }

/-- Different attributes can be taken in either order. -/
theorem take_comm (record first second : Record) {a b : Attribute} (h : a ≠ b) :
    (record.take first a).take second b = (record.take second b).take first a := by
  cases a <;> cases b <;> first | rfl | exact absurd rfl h

/-- **Reading an attribute changes that attribute only**, to what it would be in any record. -/
theorem read_eq_take (record : Record) (value : Json) (which : Attribute) :
    record.read value which = (read {} value which).map (record.take · which) := by
  cases which
  case typeName | format | itemType | compare | message | conversion =>
    simp only [read]
    cases string? value <;> rfl
  case required | allowEmpty | empty | widelyUndefined =>
    simp only [read]
    cases boolean? value <;> rfl
  case min | max =>
    simp only [read]
    cases number? value <;> rfl
  case trim =>
    simp only [read]
    cases boolean value <;> rfl
  case values | rule | fallback => rfl

/-- Null reads as an attribute that is not given, except for the one that must be a boolean. -/
theorem read_null {which : Attribute} (h : which ≠ .trim) : read {} .null which = .ok {} := by
  cases which <;> first | rfl | exact absurd rfl h

/-- **Different attributes can be read in either order.** -/
theorem agree_read_comm (record : Record) (value other : Json) {a b : Attribute} (h : a ≠ b) :
    SameSuccess (record.read value a >>= (·.read other b))
      (record.read other b >>= (·.read value a)) := by
  have hfirst (record : Record) := read_eq_take record value a
  have hsecond (record : Record) := read_eq_take record other b
  generalize read {} value a = first at hfirst
  generalize read {} other b = second at hsecond
  simp only [hfirst, hsecond]
  cases first with
  | error fault =>
    cases second with
    | error _ => exact .error trivial
    | ok _ => exact .error trivial
  | ok source =>
    cases second with
    | error _ => exact .error trivial
    | ok other => exact .ok (take_comm record source other h)

/-! ## All attributes -/

/-- Which attributes were seen matters, and not in which order. -/
theorem readAll_congr {seen others : List Attribute} (h : ∀ a, a ∈ seen ↔ a ∈ others)
    (members : Json.Members) (record : Record) :
    readAll record seen members = readAll record others members := by
  induction members generalizing record seen others with
  | nil => rfl
  | cons member rest ih =>
    have hcontains (a : Attribute) : seen.contains a = others.contains a := by
      rw [Bool.eq_iff_iff, List.contains_iff_mem, List.contains_iff_mem]
      exact h a
    rw [readAll, readAll]
    cases Attribute.ofKey? member.1 with
    | none => exact ih h record
    | some which =>
      have hseen : ∀ a, a ∈ which :: seen ↔ a ∈ which :: others := by
        intro a
        rw [List.mem_cons, List.mem_cons, h]
      simp only [hcontains, ih hseen]

/-- A member that is no attribute is passed over. -/
theorem readAll_foreign {key : String} (hkey : Attribute.ofKey? key = none) (value : Json)
    (before after : Json.Members) (record : Record) (seen : List Attribute) :
    readAll record seen (before ++ (key, value) :: after) =
      readAll record seen (before ++ after) := by
  induction before generalizing record seen with
  | nil => simp only [List.nil_append, readAll, hkey]
  | cons member rest ih => simp only [List.cons_append, readAll, ih]

/-- An attribute that is not among the members may have been seen before. -/
theorem readAll_seen {which : Attribute} {members : Json.Members}
    (h : ∀ member ∈ members, Attribute.ofKey? member.1 ≠ some which) (record : Record)
    (seen : List Attribute) :
    readAll record (which :: seen) members = readAll record seen members := by
  induction members generalizing record seen with
  | nil => rfl
  | cons member rest ih =>
    have hrest : ∀ member ∈ rest, Attribute.ofKey? member.1 ≠ some which :=
      fun member hmember => h member (List.mem_cons_of_mem _ hmember)
    rw [readAll, readAll]
    cases hother : Attribute.ofKey? member.1 with
    | none => exact ih hrest record seen
    | some other =>
      have hne : other ≠ which := fun heq => h member List.mem_cons_self (heq ▸ hother)
      have hcontains : (which :: seen).contains other = seen.contains other := by
        simp [hne]
      have hswap : ∀ record : Record, readAll record (other :: which :: seen) rest =
          readAll record (other :: seen) rest := by
        intro record
        rw [← ih hrest record (other :: seen)]
        exact readAll_congr (fun a => by simp only [List.mem_cons, or_left_comm]) rest record
      simp only [hcontains, hswap]

/-- Nothing is read from members with an attribute that was seen before. -/
theorem agree_error_of_seen (fault : RecordFault) {which : Attribute} {members : Json.Members}
    (h : ∃ member ∈ members, Attribute.ofKey? member.1 = some which) (record : Record)
    {seen : List Attribute} (hseen : which ∈ seen) :
    SameSuccess (.error fault) (readAll record seen members) := by
  induction members generalizing record seen with
  | nil =>
    obtain ⟨member, hmember, -⟩ := h
    cases hmember
  | cons first rest ih =>
    obtain ⟨member, hmember, hkey⟩ := h
    rw [readAll]
    split
    case h_1 hnone =>
      rcases List.mem_cons.1 hmember with rfl | hmember
      · cases hnone.symm.trans hkey
      · exact ih ⟨member, hmember, hkey⟩ record hseen
    case h_2 other hother =>
      split
      case isTrue => exact .error trivial
      case isFalse hnew =>
        -- an attribute that is new is not the one that was seen
        have hrest : member ∈ rest := by
          refine (List.mem_cons.1 hmember).resolve_left ?_
          rintro rfl
          obtain rfl := Option.some.inj (hother.symm.trans hkey)
          exact hnew (List.contains_iff_mem.2 hseen)
        cases record.read first.2 other with
        | error _ => exact .error trivial
        | ok record => exact ih ⟨member, hrest, hkey⟩ record (List.mem_cons_of_mem _ hseen)

/-- Nothing is read from members either that begin with one attribute twice. -/
theorem agree_error_of_repeated (fault : RecordFault) {which : Attribute}
    {first second : String × Json} (hfirst : Attribute.ofKey? first.1 = some which)
    (hsecond : Attribute.ofKey? second.1 = some which) (rest : Json.Members) (record : Record)
    (seen : List Attribute) :
    SameSuccess (.error fault) (readAll record seen (first :: second :: rest)) := by
  rw [readAll, hfirst]
  dsimp only
  split
  case isTrue => exact .error trivial
  case isFalse =>
    cases record.read first.2 which with
    | error _ => exact .error trivial
    | ok record =>
      exact agree_error_of_seen fault ⟨second, List.mem_cons_self, hsecond⟩ record
        List.mem_cons_self

/-- Two neighbours can be swapped. -/
theorem agree_readAll_swap (first second : String × Json) (rest : Json.Members) (record : Record)
    (seen : List Attribute) :
    SameSuccess (readAll record seen (first :: second :: rest))
      (readAll record seen (second :: first :: rest)) := by
  cases hfirst : Attribute.ofKey? first.1 with
  | none =>
    simp only [readAll, hfirst]
    exact .refl _
  | some a =>
    cases hsecond : Attribute.ofKey? second.1 with
    | none =>
      simp only [readAll, hfirst, hsecond]
      exact .refl _
    | some b =>
      -- what is refused in one order is refused in the other
      by_cases ha : a ∈ seen
      · exact (agree_error_of_seen (.repeated a) ⟨first, by simp, hfirst⟩ record ha).symm.trans
          (agree_error_of_seen (.repeated a) ⟨first, by simp, hfirst⟩ record ha)
      by_cases hb : b ∈ seen
      · exact (agree_error_of_seen (.repeated b) ⟨second, by simp, hsecond⟩ record hb).symm.trans
          (agree_error_of_seen (.repeated b) ⟨second, by simp, hsecond⟩ record hb)
      by_cases heq : a = b
      · subst heq
        exact (agree_error_of_repeated (.repeated a) hfirst hsecond rest record seen).symm.trans
          (agree_error_of_repeated (.repeated a) hsecond hfirst rest record seen)
      -- two attributes that are new are read in either order
      have hseen : seen.contains a = false ∧ (b :: seen).contains a = false := by simp [ha, heq]
      have hother : seen.contains b = false ∧ (a :: seen).contains b = false := by
        simp [hb, Ne.symm heq]
      have hrest : ∀ record : Record, readAll record (b :: a :: seen) rest =
          readAll record (a :: b :: seen) rest :=
        readAll_congr (fun which => by simp only [List.mem_cons, or_left_comm]) rest
      simp only [readAll, hfirst, hsecond, hseen, hother, hrest, Bool.false_eq_true, if_false]
      rw [← bind_assoc, ← bind_assoc]
      refine .bind (agree_read_comm record first.2 second.2 heq) fun _ _ _ hsame => ?_
      rw [hsame]
      exact SameSuccess.refl _

/-- **The order of the members does not matter to what is read from them.** -/
theorem agree_readAll_perm {members others : Json.Members} (h : members.Perm others) :
    ∀ (record : Record) (seen : List Attribute),
      SameSuccess (readAll record seen members) (readAll record seen others) := by
  induction h with
  | nil => exact fun _ _ => .refl _
  | cons member _ ih =>
    intro record seen
    simp only [readAll]
    split
    · exact ih record seen
    · split
      · exact .refl _
      · refine .bind (SameSuccess.refl _) fun record _ _ heq => ?_
        rw [← heq]
        exact ih record _
  | swap first second rest => exact agree_readAll_swap second first rest
  | trans _ _ ih ih' => exact fun record seen => (ih record seen).trans (ih' record seen)

/-! ## The nested rules -/

/-- Members from which a record can be read, whatever was read before. -/
def Readable (members : Json.Members) : Prop :=
  ∃ (record : Record) (seen : List Attribute) (result : Record),
    readAll record seen members = .ok result

/-- What comes after a member is readable too. -/
theorem Readable.tail {member : String × Json} {rest : Json.Members}
    (h : Readable (member :: rest)) : Readable rest := by
  obtain ⟨record, seen, result, hread⟩ := h
  rw [readAll] at hread
  split at hread
  · exact ⟨record, seen, result, hread⟩
  · split at hread
    · cases hread
    · obtain ⟨record, -, hread⟩ := exists_of_bind_eq_ok hread
      exact ⟨record, _, result, hread⟩

/-- Two attributes of a readable record differ. -/
theorem Readable.ne {first second : String × Json} {rest : Json.Members}
    (h : Readable (first :: second :: rest)) {a b : Attribute}
    (hfirst : Attribute.ofKey? first.1 = some a) (hsecond : Attribute.ofKey? second.1 = some b) :
    a ≠ b := by
  rintro rfl
  obtain ⟨record, seen, result, hread⟩ := h
  have hnone := agree_error_of_repeated (.repeated a) hfirst hsecond rest record seen
  rw [hread] at hnone
  cases hnone

/-- The order of the members does not matter to the nested rules, of which there is one. -/
theorem nested?_perm {members others : Json.Members} (h : members.Perm others)
    (hreadable : Readable members) : nested? members = nested? others := by
  suffices hvalue : Entries.value? members Attribute.rule.key =
      Entries.value? others Attribute.rule.key by
    rw [nested?, hvalue, nested?]
  induction h with
  | nil => rfl
  | cons member _ ih =>
    rw [Entries.value?, Entries.value?, ih hreadable.tail]
  | swap first second rest =>
    obtain ⟨first, value⟩ := first
    obtain ⟨second, other⟩ := second
    simp only [Entries.value?]
    split
    case isTrue hsecond =>
      split
      case isTrue hfirst =>
        have hne := hreadable.ne (Attribute.ofKey?_eq_rule_iff.2 hsecond)
          (Attribute.ofKey?_eq_rule_iff.2 hfirst)
        exact absurd rfl hne
      case isFalse => rfl
    case isFalse => rfl
  | trans h _ ih ih' =>
    obtain ⟨record, seen, result, hread⟩ := hreadable
    have hother := (agree_readAll_perm h record seen).eq_ok_iff result |>.1 hread
    exact (ih ⟨record, seen, result, hread⟩).trans (ih' ⟨record, seen, result, hother⟩)

end Record

/-! ## Records -/

/-- An edit of a record that changes its spelling only. -/
inductive Respelled : Json → Json → Prop where
  /-- The keys are put in another order. -/
  | order {members others : Json.Members} : members.Perm others →
      Respelled (.object members) (.object others)
  /-- A key is put in its other spelling. -/
  | spelling (before after : Json.Members) (value : Json) {key other : String} (which : Attribute) :
      Attribute.ofKey? key = some which → Attribute.ofKey? other = some which →
      Respelled (.object (before ++ (key, value) :: after))
        (.object (before ++ (other, value) :: after))
  /-- A key is added that is no attribute. -/
  | foreign (before after : Json.Members) (key : String) (value : Json) :
      Attribute.ofKey? key = none →
      Respelled (.object (before ++ after)) (.object (before ++ (key, value) :: after))
  /-- An attribute that is not given is given as null, which is possible for all but `trim`. -/
  | null (before after : Json.Members) (key : String) (which : Attribute) :
      Attribute.ofKey? key = some which → which ≠ .trim →
      (∀ member ∈ before ++ after, Attribute.ofKey? member.1 ≠ some which) →
      Respelled (.object (before ++ after)) (.object (before ++ (key, .null) :: after))

namespace Record

variable {before after : Json.Members} {key other : String} {which : Attribute} {value : Json}

/-- Only the first member of the key `rule` is looked at. -/
theorem nested?_append (members others : Json.Members) :
    nested? (members ++ others) = ((Entries.value? members Attribute.rule.key).or
      (Entries.value? others Attribute.rule.key)).bind value? := by
  rw [nested?, Entries.value?_append]

/-- A member of another key is not looked at. -/
theorem nested?_of_ne (hkey : key ≠ Attribute.rule.key) :
    nested? (before ++ (key, value) :: after) = nested? (before ++ after) := by
  rw [nested?_append, nested?_append, Entries.value?, if_neg hkey]

/-- Null is the same as no nested rules. -/
theorem nested?_null
    (habsent : ∀ member ∈ before ++ after, Attribute.ofKey? member.1 ≠ some .rule) :
    nested? (before ++ (Attribute.rule.key, .null) :: after) = nested? (before ++ after) := by
  have hnone : ∀ {members : Json.Members}, (∀ member ∈ members, member ∈ before ++ after) →
      Entries.value? members Attribute.rule.key = none := by
    intro members hmembers
    rw [Entries.value?_eq_none_iff]
    intro hname
    obtain ⟨member, hmember, hkey⟩ := List.mem_map.1 hname
    exact habsent member (hmembers member hmember) (Attribute.ofKey?_eq_rule_iff.2 hkey)
  rw [nested?_append, nested?_append, hnone fun _ h => List.mem_append_left _ h,
    hnone fun _ h => List.mem_append_right _ h, Entries.value?, if_pos rfl]
  rfl

/-- **The same is read from a record in another spelling**, or nothing from either. -/
theorem agree_ofMembers_of_respelled {members others : Json.Members}
    (h : Respelled (.object members) (.object others)) :
    SameSuccess (ofMembers members) (ofMembers others) ∧
      (Readable members → nested? members = nested? others) := by
  cases h with
  | order hperm => exact ⟨agree_readAll_perm hperm {} [], nested?_perm hperm⟩
  | @spelling before after value key other which hkey hother =>
    have hread : ofMembers (before ++ (key, value) :: after) =
        ofMembers (before ++ (other, value) :: after) :=
      readAll_replace before after (key, value) (other, value) (hkey.trans hother.symm)
        (fun _ _ _ => rfl) {} []
    refine ⟨hread ▸ .refl _, fun _ => ?_⟩
    by_cases hrule : which = .rule
    · -- the nested rules have one spelling
      subst hrule
      rw [Attribute.ofKey?_eq_rule_iff.1 hkey, Attribute.ofKey?_eq_rule_iff.1 hother]
    · have hne : ∀ {name : String}, Attribute.ofKey? name = some which →
          name ≠ Attribute.rule.key := by
        intro name hname heq
        rw [Attribute.ofKey?_eq_rule_iff.2 heq] at hname
        exact hrule (Option.some.inj hname).symm
      rw [nested?_of_ne (hne hkey), nested?_of_ne (hne hother)]
  | foreign before after key value hkey =>
    have hne : key ≠ Attribute.rule.key := by
      intro heq
      rw [Attribute.ofKey?_eq_rule_iff.2 heq] at hkey
      cases hkey
    rw [nested?_of_ne hne, ofMembers, ofMembers, readAll_foreign hkey]
    exact ⟨.refl _, fun _ => rfl⟩
  | null before after key which hkey htrim habsent =>
    constructor
    · -- read first, null leaves the record as it was
      have hfront : readAll {} [] ((key, .null) :: (before ++ after)) =
          readAll {} [] (before ++ after) := by
        rw [readAll]
        simp only [hkey, List.contains_nil, Bool.false_eq_true, if_false, read_null htrim]
        exact readAll_seen habsent {} []
      refine .trans ?_ (agree_readAll_perm List.perm_middle.symm {} [])
      exact hfront ▸ .refl _
    · intro _
      by_cases hrule : which = .rule
      · subst hrule
        rw [Attribute.ofKey?_eq_rule_iff.1 hkey, nested?_null habsent]
      · have hne : key ≠ Attribute.rule.key := by
          intro heq
          rw [Attribute.ofKey?_eq_rule_iff.2 heq] at hkey
          exact hrule (Option.some.inj hkey).symm
        rw [nested?_of_ne hne]

end Record

/-! ## Documents -/

/-- Likeness of rules that are the same; failures are not told apart. -/
def Likeness.same : Likeness true where
  error _ _ := True
  spec := Eq
  ruleSet := Eq
  error_refl _ := trivial
  spec_refl _ := rfl
  item _ _ _ _ h := h ▸ rfl
  schema _ _ _ _ _ h := h ▸ rfl
  field _ _ _ _ _ h := h ▸ rfl

/-- Two values that are respelled are records. -/
theorem Respelled.exists_members {value other : Json} (h : Respelled value other) :
    ∃ members others, value = .object members ∧ other = .object others := by
  cases h <;> exact ⟨_, _, rfl, rfl⟩

/-- A record in another spelling is read as the same rule. -/
theorem Likeness.reads_of_respelled {value other : Json} (h : Respelled value other) :
    Likeness.same.Reads .spec value other := by
  obtain ⟨members, others, rfl, rfl⟩ := h.exists_members
  obtain ⟨hrecord, hnested⟩ := Record.agree_ofMembers_of_respelled h
  intro path
  refine Likeness.same.agree_object hrecord (fun record hread _ => ?_) fun record hread _ => ?_
  · rw [itemRuleOf_eq, itemRuleOf_eq, hnested ⟨{}, [], record, hread⟩]
    exact .refl (fun _ => trivial) (Likeness.same.items_refl) _
  · rw [schemaOf_eq, schemaOf_eq, hnested ⟨{}, [], record, hread⟩]
    exact .refl (fun _ => trivial) (Likeness.same.schemas_refl) _

/-- **What a rule document means does not depend on how its records are spelled.** Any number of
respellings, forwards or backwards, in any places where a record is read, at any depth, leave the
document one that can be read if it was one, and then the same rule set is read from it. -/
theorem RuleSet.ofJson_of_respelled {document other : Json}
    (h : Relation.EqvGen (Edited true Respelled .ruleSet) document other) (rules : RuleSet) :
    RuleSet.ofJson document = .ok rules ↔ RuleSet.ofJson other = .ok rules := by
  induction h with
  | rel document other hedit =>
    have hreads := Likeness.same.reads_of_edited (fun _ _ => Likeness.reads_of_respelled)
      (fun value other h => by
        obtain ⟨members, others, rfl, rfl⟩ := h.exists_members
        exact ⟨rfl, rfl⟩) hedit
    exact SameSuccess.eq_ok_iff hreads.1.2 rules
  | refl document => exact Iff.rfl
  | symm _ _ _ ih => exact ih.symm
  | trans _ _ _ _ _ ih ih' => exact ih.trans ih'

/-- A field for an array of texts, with a rule for them. -/
def labels (key : String) (rule : Json) : Json :=
  .object [("labels", .object [("type", .string "array"), (key, .string "string"), ("rule", rule)])]

/-- **Two spellings of one document.** The second one has another key for the type of the items, and
in the rule for them the keys are in another order, one means nothing and one is null. -/
theorem RuleSet.ofJson_of_respelled_labels : ∃ rules,
    RuleSet.ofJson (labels "itemType"
      (.object [("type", .string "string"), ("allowEmpty", .bool true)])) = .ok rules ∧
    RuleSet.ofJson (labels "item_type"
      (.object [("allowEmpty", .bool true), ("type", .string "string"), ("note", .string "old"),
        ("min", .null)])) = .ok rules := by
  have hinside : ∀ {value other : Json}, Respelled value other →
      Relation.EqvGen (Edited true Respelled .ruleSet) (labels "itemType" value)
        (labels "itemType" other) := by
    intro value other h
    refine .rel _ _ (.field [] [] "labels"
      (.item [("type", .string "array"), ("itemType", .string "string")] []
        (fun record hrecord => ?_) (.here h)))
    obtain rfl := Except.ok.inj hrecord
    decide
  have hkey : ∀ rule, Relation.EqvGen (Edited true Respelled .ruleSet) (labels "itemType" rule)
      (labels "item_type" rule) := fun rule =>
    .rel _ _ (.field [] [] "labels"
      (.here (.spelling [("type", .string "array")] _ (.string "string") .itemType rfl rfl)))
  have hfour := hinside (.null [("allowEmpty", .bool true), ("type", .string "string"),
    ("note", .string "old")] [] "min" .min rfl (by decide) (by decide))
  have hthree := hinside (.foreign [("allowEmpty", .bool true), ("type", .string "string")] []
    "note" (.string "old") rfl)
  have htwo := hinside (.order (.swap ("allowEmpty", .bool true) ("type", .string "string") []))
  exact ⟨_, rfl, (RuleSet.ofJson_of_respelled
    (htwo.trans _ _ _ (hthree.trans _ _ _ (hfour.trans _ _ _ (hkey _)))) _).1 rfl⟩

end Rulebook
