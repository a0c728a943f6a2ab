import Rulebook.Proofs.Rules.Reading
/-!
# Rules — places in a document

A rule document is read from the outside in, and the same value is read differently in different
places: as a rule, or as a set of rules. `Edited` says that one document becomes another by an edit
in one place where a rule is read, however deep that place is. What an edit does to the reading in
its place it does to the reading of the whole document (`Likeness.reads_of_edited`), whatever is
compared, as long as rules that are built from like parts are alike (`Likeness`).
-/

namespace Rulebook

/-! ## Readings that agree -/

/-- Two results that agree: both are errors that are alike, or both are values that are. -/
inductive Agree {ε α : Type} (E : ε → ε → Prop) (R : α → α → Prop) :
    Except ε α → Except ε α → Prop where
  | ok {a b : α} : R a b → Agree E R (.ok a) (.ok b)
  | error {e f : ε} : E e f → Agree E R (.error e) (.error f)

namespace Agree

variable {ε α β : Type} {E : ε → ε → Prop} {R : α → α → Prop} {S : β → β → Prop}

theorem refl (hE : ∀ e, E e e) (hR : ∀ a, R a a) (result : Except ε α) :
    Agree E R result result := by
  cases result with
  | ok a => exact .ok (hR a)
  | error e => exact .error (hE e)

/-- Steps that agree, with continuations that agree after them. -/
theorem bind {x y : Except ε α} {f g : α → Except ε β} (h : Agree E R x y)
    (hnext : ∀ a b, x = .ok a → R a b → Agree E S (f a) (g b)) : Agree E S (x >>= f) (y >>= g) := by
  cases h with
  | ok hab => exact hnext _ _ rfl hab
  | error hef => exact .error hef

theorem of_eq (hE : ∀ e, E e e) (hR : ∀ a, R a a) {x y : Except ε α} (h : x = y) :
    Agree E R x y := by
  rw [h]
  exact .refl hE hR y

/-- Results that agree in one way agree in any weaker one. -/
theorem mono {S : α → α → Prop} (hmono : ∀ a b, R a b → S a b) {x y : Except ε α}
    (h : Agree E R x y) : Agree E S x y := by
  cases h with
  | ok hab => exact .ok (hmono _ _ hab)
  | error hef => exact .error hef

theorem mapError {ε' : Type} {f : ε → ε'} {E' : ε' → ε' → Prop} {x y : Except ε α}
    (h : Agree (fun e e' => E' (f e) (f e')) R x y) : Agree E' R (x.mapError f) (y.mapError f) := by
  cases h with
  | ok hab => exact .ok hab
  | error hef => exact .error hef

end Agree

/-! ## The nested rules of a record -/

/-- The value that a record has for its nested rules; null is none. -/
def Record.nested? (members : Json.Members) : Option Json :=
  (Entries.value? members Attribute.rule.key).bind Record.value?

theorem Record.value?_of_isNull {value : Json} (h : value.isNull = true) : value? value = none := by
  cases value <;> first | rfl | cases h

theorem Record.value?_of_not_isNull {value : Json} (h : value.isNull = false) :
    value? value = some value := by
  cases value <;> first | rfl | cases h

/-- A walk over members that looks for the nested rules reads them and nothing else. -/
theorem Record.eq_elim_nested? {α : Type} {walk : Json.Members → Except ConfigError (Option α)}
    {read : Json → Except ConfigError (Option α)} (hnil : walk [] = .ok none)
    (hcons : ∀ key value rest, walk ((key, value) :: rest) =
      if key = Attribute.rule.key then if value.isNull then .ok none else read value
      else walk rest) (members : Json.Members) :
    walk members = (nested? members).elim (.ok none) read := by
  induction members with
  | nil => exact hnil
  | cons member rest ih =>
    obtain ⟨key, value⟩ := member
    by_cases hkey : key = Attribute.rule.key
    · rw [hcons, if_pos hkey, nested?, Entries.value?, if_pos hkey, Option.bind_some]
      cases hnull : value.isNull with
      | true =>
        rw [value?_of_isNull hnull]
        rfl
      | false =>
        rw [value?_of_not_isNull hnull]
        rfl
    · rw [hcons, if_neg hkey, ih, nested?, nested?, Entries.value?, if_neg hkey]

/-- The rule for items that a value writes, as the nested rules of a record at a path. -/
def itemRuleIn (path : String) (value : Json) : Except ConfigError (Option Rule) := do
  return some (← Spec.ofJson (path ++ "[]") value).normalize

/-- The schema that a value writes there. -/
def schemaIn (path : String) (value : Json) : Except ConfigError (Option RuleSet) := do
  return some (← RuleSet.nestedOfJson path value)

/-- **Of the members of a record only the nested rules are read for items.** -/
theorem itemRuleOf_eq (path : String) (members : Json.Members) :
    itemRuleOf path members = (Record.nested? members).elim (.ok none) (itemRuleIn path) :=
  Record.eq_elim_nested? rfl (fun _ _ _ => by rw [itemRuleOf]; rfl) members

/-- **And only they are read as the schema.** -/
theorem schemaOf_eq (path : String) (members : Json.Members) :
    schemaOf path members = (Record.nested? members).elim (.ok none) (schemaIn path) :=
  Record.eq_elim_nested? rfl (fun _ _ _ => by rw [schemaOf]; rfl) members

namespace Record

/-- A member can be put for another one of the same attribute if the same is read from it. -/
theorem readAll_replace (before after : Json.Members) (member other : String × Json)
    (hkey : Attribute.ofKey? member.1 = Attribute.ofKey? other.1)
    (hread : ∀ (record : Record) which, Attribute.ofKey? member.1 = some which →
      record.read member.2 which = record.read other.2 which) :
    ∀ (record : Record) (seen : List Attribute),
      readAll record seen (before ++ member :: after) =
        readAll record seen (before ++ other :: after) := by
  induction before with
  | nil =>
    intro record seen
    rw [List.nil_append, List.nil_append, readAll, readAll, ← hkey]
    cases hwhich : Attribute.ofKey? member.1 with
    | none => rfl
    | some which => simp only [hread record which hwhich]
  | cons first rest ih =>
    intro record seen
    simp only [List.cons_append, readAll, ih]

/-- **What the nested rules are does not matter to the attributes of the record.** -/
theorem ofMembers_rule (before after : Json.Members) (value other : Json) :
    ofMembers (before ++ (Attribute.rule.key, value) :: after) =
      ofMembers (before ++ (Attribute.rule.key, other) :: after) := by
  refine readAll_replace before after (Attribute.rule.key, value) (Attribute.rule.key, other) rfl
    (fun record which hwhich => ?_) {} []
  rw [Attribute.ofKey?_key] at hwhich
  obtain rfl := Option.some.inj hwhich
  rfl

/-- A value among others is the nested rules of the record, unless one before it is. -/
theorem nested?_replace (before after : Json.Members) {value other : Json}
    (hvalue : value.isNull = false) (hother : other.isNull = false) :
    nested? (before ++ (Attribute.rule.key, value) :: after) =
      nested? (before ++ (Attribute.rule.key, other) :: after) ∨
    nested? (before ++ (Attribute.rule.key, value) :: after) = some value ∧
      nested? (before ++ (Attribute.rule.key, other) :: after) = some other := by
  simp only [nested?, Entries.value?_append]
  cases Entries.value? before Attribute.rule.key with
  | some first => exact .inl rfl
  | none =>
    refine .inr ⟨?_, ?_⟩
    · rw [Option.none_or, Entries.value?, if_pos rfl, Option.bind_some,
        value?_of_not_isNull hvalue]
    · rw [Option.none_or, Entries.value?, if_pos rfl, Option.bind_some,
        value?_of_not_isNull hother]

/-- The nested rules of a record are for items, unless the record is malformed: then none are read.
-/
def HoldsItemRule (members : Json.Members) : Prop :=
  ∀ record, ofMembers members = .ok record → record.describesItems = true

/-- The nested rules of a record are a schema, unless the record is malformed. -/
def HoldsSchema (members : Json.Members) : Prop :=
  ∀ record, ofMembers members = .ok record → record.describesItems = false

end Record

/-! ## Edits in a place -/

/-- What a value in a rule document is read as. -/
inductive Reading where
  /-- One rule. -/
  | spec
  /-- A rule for each field. -/
  | ruleSet

/-- One document becomes another by an edit in one place where a rule is read. Whether the place may
be inside a nested rule set is a parameter. -/
inductive Edited (nested : Bool) (edit : Json → Json → Prop) : Reading → Json → Json → Prop where
  /-- The rule itself is edited. -/
  | here {value other : Json} : edit value other → Edited nested edit .spec value other
  /-- The rule for the items is edited, or something in it. -/
  | item (before after : Json.Members) {value other : Json} :
      Record.HoldsItemRule (before ++ (Attribute.rule.key, value) :: after) →
      Edited nested edit .spec value other →
      Edited nested edit .spec (.object (before ++ (Attribute.rule.key, value) :: after))
        (.object (before ++ (Attribute.rule.key, other) :: after))
  /-- Something in the schema is edited. -/
  | schema (before after : Json.Members) {value other : Json} : nested = true →
      Record.HoldsSchema (before ++ (Attribute.rule.key, value) :: after) →
      Edited nested edit .ruleSet value other →
      Edited nested edit .spec (.object (before ++ (Attribute.rule.key, value) :: after))
        (.object (before ++ (Attribute.rule.key, other) :: after))
  /-- The rule of a field is edited, or something in it. -/
  | field (before after : Json.Members) (name : String) {value other : Json} :
      Edited nested edit .spec value other →
      Edited nested edit .ruleSet (.object (before ++ (name, value) :: after))
        (.object (before ++ (name, other) :: after))

/-! ## Likeness -/

/-- When errors, specs and rule sets are alike. Likeness is kept by everything that is built from
what is read. -/
structure Likeness (nested : Bool) where
  /-- Errors that are alike. -/
  error : ConfigError → ConfigError → Prop
  /-- Specs that are alike. -/
  spec : Spec → Spec → Prop
  /-- Rule sets that are alike. -/
  ruleSet : RuleSet → RuleSet → Prop
  error_refl : ∀ e, error e e
  spec_refl : ∀ s, spec s s
  /-- Arrays are alike if the rules for their items are. -/
  item : ∀ (record : Record) (format : Option Pattern) {s t : Spec}, spec s t →
    spec (.record (record.toRule format none (some s.normalize)))
      (.record (record.toRule format none (some t.normalize)))
  /-- Objects are alike if their schemas are. -/
  schema : nested = true → ∀ (record : Record) (format : Option Pattern) {rules others : RuleSet},
    ruleSet rules others → spec (.record (record.toRule format (some rules) none))
      (.record (record.toRule format (some others) none))
  /-- Rule sets are alike if the specs of a field are, all others being equal. -/
  field : ∀ (before after : List (String × Spec)) (name : String) {s t : Spec}, spec s t →
    ruleSet (.ofList (before ++ (name, s) :: after)) (.ofList (before ++ (name, t) :: after))

namespace Likeness

variable {nested : Bool} (L : Likeness nested)

/-- Two values are read alike in a place. -/
def Reads : Reading → Json → Json → Prop
  | .spec, value, other =>
    ∀ path, Agree L.error L.spec (Spec.ofJson path value) (Spec.ofJson path other)
  | .ruleSet, value, other =>
    (∀ path, Agree L.error L.ruleSet (RuleSet.nestedOfJson path value)
      (RuleSet.nestedOfJson path other)) ∧
    Agree L.error L.ruleSet (RuleSet.ofJson value) (RuleSet.ofJson other)

/-- Rules for items that can be put for each other in a record. -/
def Items (first second : Option Rule) : Prop :=
  ∀ (record : Record) (format : Option Pattern),
    L.spec (.record (record.toRule format none first)) (.record (record.toRule format none second))

/-- Schemas that can be put for each other in a record. -/
def Schemas (first second : Option RuleSet) : Prop :=
  ∀ (record : Record) (format : Option Pattern),
    L.spec (.record (record.toRule format first none)) (.record (record.toRule format second none))

theorem items_refl (rule : Option Rule) : L.Items rule rule :=
  fun _ _ => L.spec_refl _

theorem schemas_refl (rules : Option RuleSet) : L.Schemas rules rules :=
  fun _ _ => L.spec_refl _

/-! ## What is read around a place -/

/-- Two records with the same attributes are read alike if their nested rules are. -/
theorem agree_object {path : String} {members others : Json.Members}
    (hrecord : Agree (fun fault other => L.error (.badRecord path fault) (.badRecord path other)) Eq
      (Record.ofMembers members) (Record.ofMembers others))
    (hitem : ∀ record, Record.ofMembers members = .ok record → record.describesItems = true →
      Agree L.error L.Items (itemRuleOf path members) (itemRuleOf path others))
    (hschema : ∀ record, Record.ofMembers members = .ok record → record.describesItems = false →
      Agree L.error L.Schemas (schemaOf path members) (schemaOf path others)) :
    Agree L.error L.spec (Spec.ofJson path (.object members))
      (Spec.ofJson path (.object others)) := by
  rw [Spec.ofJson, Spec.ofJson]
  -- the attributes are read first, then the format is compiled; neither looks at the nested rules
  refine .bind hrecord.mapError fun record second hread heq => ?_
  subst heq
  refine .bind (.refl (R := Eq) L.error_refl (fun _ => rfl) _) fun format second _ heq => ?_
  subst heq
  have hmembers : Record.ofMembers members = .ok record := eq_ok_of_mapError hread
  cases hdescribes : record.describesItems with
  | true =>
    exact .bind (hitem record hmembers hdescribes) fun _ _ _ hrules => .ok (hrules record format)
  | false =>
    exact .bind (hschema record hmembers hdescribes) fun _ _ _ hrules =>
      .ok (hrules record format)

/-- Nested rules are read alike if they are edited to some that are. -/
theorem agree_nested {α : Type} {R : Option α → Option α → Prop} (hR : ∀ nested, R nested nested)
    {read : Json → Except ConfigError (Option α)} {value other : Json}
    (h : Agree L.error R (read value) (read other))
    (hvalue : value.isNull = false) (hother : other.isNull = false)
    (before after : Json.Members) :
    Agree L.error R
      ((Record.nested? (before ++ (Attribute.rule.key, value) :: after)).elim (.ok none) read)
      ((Record.nested? (before ++ (Attribute.rule.key, other) :: after)).elim (.ok none) read) := by
  rcases Record.nested?_replace before after hvalue hother with heq | ⟨hfirst, hsecond⟩
  · -- the edit is behind other nested rules, and is not read
    rw [heq]
    exact .refl L.error_refl hR _
  · rw [hfirst, hsecond]
    exact h

/-- So is the rule for items. -/
theorem agree_itemRuleOf {value other : Json} (h : L.Reads .spec value other)
    (hvalue : value.isNull = false) (hother : other.isNull = false) (path : String)
    (before after : Json.Members) :
    Agree L.error L.Items (itemRuleOf path (before ++ (Attribute.rule.key, value) :: after))
      (itemRuleOf path (before ++ (Attribute.rule.key, other) :: after)) := by
  rw [itemRuleOf_eq, itemRuleOf_eq]
  refine L.agree_nested L.items_refl (.bind (h _) fun _ _ _ hspec => .ok ?_) hvalue hother before
    after
  exact fun record format => L.item record format hspec

/-- So is the schema. -/
theorem agree_schemaOf (hnested : nested = true) {value other : Json}
    (h : L.Reads .ruleSet value other)
    (hvalue : value.isNull = false) (hother : other.isNull = false) (path : String)
    (before after : Json.Members) :
    Agree L.error L.Schemas (schemaOf path (before ++ (Attribute.rule.key, value) :: after))
      (schemaOf path (before ++ (Attribute.rule.key, other) :: after)) := by
  rw [schemaOf_eq, schemaOf_eq]
  refine L.agree_nested L.schemas_refl (.bind (h.1 path) fun _ _ _ hrules => .ok ?_) hvalue hother
    before after
  exact fun record format => L.schema hnested record format hrules

/-- Rule sets are read alike if one field is edited to a rule that is read alike. -/
theorem agree_specsOf {value other : Json} (h : L.Reads .spec value other) (name : String)
    (after : Json.Members) (pathOf : String → String) (before : Json.Members) :
    ∀ start : List (String × Spec),
      Agree L.error (fun first second => L.ruleSet (.ofList (start ++ first))
          (.ofList (start ++ second)))
        (specsOf pathOf (before ++ (name, value) :: after))
        (specsOf pathOf (before ++ (name, other) :: after)) := by
  induction before with
  | nil =>
    intro start
    rw [List.nil_append, List.nil_append, specsOf, specsOf]
    refine .bind (h _) fun s t _ hspec => ?_
    refine .bind (.refl (R := Eq) L.error_refl (fun _ => rfl) _) fun rest _ _ heq => ?_
    subst heq
    exact .ok (L.field start rest name hspec)
  | cons member rest ih =>
    intro start
    rw [List.cons_append, List.cons_append, specsOf, specsOf]
    refine .bind (.refl (R := Eq) L.error_refl (fun _ => rfl) _) fun spec _ _ heq => ?_
    subst heq
    refine .bind (ih (start ++ [(member.1, spec)])) fun first second _ hrules => .ok ?_
    simpa using hrules

/-- **What is read in a place and around it.** If an edit changes what it edits to something that
is read alike, then the document with the edit is read alike too, in whichever place it is made.
Null stands for no rule at all, so edits leave it alone. -/
theorem reads_of_edited {edit : Json → Json → Prop}
    (hedit : ∀ value other, edit value other → L.Reads .spec value other)
    (hnull : ∀ value other, edit value other → value.isNull = false ∧ other.isNull = false)
    {reading : Reading} {value other : Json} (h : Edited nested edit reading value other) :
    L.Reads reading value other ∧ value.isNull = false ∧ other.isNull = false := by
  induction h with
  | here h => exact ⟨hedit _ _ h, hnull _ _ h⟩
  | item before after hitem h ih =>
    obtain ⟨hreads, hvalue, hother⟩ := ih
    refine ⟨fun path => L.agree_object (.of_eq (fun fault => L.error_refl (.badRecord path fault))
      (fun _ => rfl) (Record.ofMembers_rule before after _ _)) ?_ ?_, rfl, rfl⟩
    · exact fun _ _ _ => L.agree_itemRuleOf hreads hvalue hother path before after
    · intro record hrecord hdescribes
      exact absurd ((hitem record hrecord).symm.trans hdescribes) (by decide)
  | schema before after hnested hschema h ih =>
    obtain ⟨hreads, hvalue, hother⟩ := ih
    refine ⟨fun path => L.agree_object (.of_eq (fun fault => L.error_refl (.badRecord path fault))
      (fun _ => rfl) (Record.ofMembers_rule before after _ _)) ?_ ?_, rfl, rfl⟩
    · intro record hrecord hdescribes
      exact absurd ((hschema record hrecord).symm.trans hdescribes) (by decide)
    · exact fun _ _ _ => L.agree_schemaOf hnested hreads hvalue hother path before after
  | field before after name h ih =>
    have hspecs (pathOf : String → String) := L.agree_specsOf ih.1 name after pathOf before []
    refine ⟨⟨fun path => ?_, ?_⟩, rfl, rfl⟩
    · rw [RuleSet.nestedOfJson, RuleSet.nestedOfJson]
      exact .bind (hspecs _) fun _ _ _ hrules => .ok hrules
    · exact .bind (hspecs _) fun _ _ _ hrules => .ok hrules

end Likeness

end Rulebook
