import Mathlib.Data.Finset.Card
import Rulebook.Proofs.Rules.Reading
/-!
# Rules — insertions

A rule set is the ordered map of the specs that were inserted into it: a name stands where it was
first inserted and has the spec that was inserted last (`RuleSet.Ordered`). One insertion keeps this
(`RuleSet.Ordered.insert`), so it holds however a rule set is built (`RuleSet.Built.ordered`): from
a list, from a document or one insertion after another, as they are mixed. A document is read member
by member, and the specs of its members are the insertions (`RuleSet.specsOf_eq_ok_iff`).

The place of a name is counted among the insertions: what was inserted first has the lower index. A
repeated name leaves all indices alone, and a new one gets the highest, so in both cases the listed
names stay in their order.
-/

namespace Rulebook

namespace Entries

variable {α : Type u} {pairs : List (String × α)} {key name : String} {new value : α}

/-- The last of some pairs that has a name has the value. -/
def IsLast (pairs : List (String × α)) (name : String) (value : α) : Prop :=
  ∃ before after, pairs = before ++ (name, value) :: after ∧ name ∉ names after

theorem not_isLast_nil : ¬ IsLast [] name value := by
  rintro ⟨before, after, h, -⟩
  exact absurd h.symm (by simp)

/-- One more pair is the last one of its name, and changes nothing for other names. -/
theorem isLast_snoc : IsLast (pairs ++ [(key, new)]) name value ↔
    (key = name ∧ new = value) ∨ (key ≠ name ∧ IsLast pairs name value) := by
  constructor
  · rintro ⟨before, after, heq, hafter⟩
    rcases List.eq_nil_or_concat' after with rfl | ⟨init, last, rfl⟩
    · obtain ⟨-, hlast⟩ := List.append_inj' heq rfl
      obtain ⟨rfl, rfl⟩ := Prod.mk.inj (List.singleton_inj.1 hlast)
      exact .inl ⟨rfl, rfl⟩
    · rw [← List.cons_append, ← List.append_assoc] at heq
      obtain ⟨hpairs, hlast⟩ := List.append_inj' heq rfl
      obtain rfl := List.singleton_inj.1 hlast
      rw [names_append, List.mem_append, not_or] at hafter
      exact .inr ⟨fun h => hafter.2 (by simp [h]), before, init, hpairs, hafter.1⟩
  · rintro (⟨rfl, rfl⟩ | ⟨hne, before, after, rfl, hafter⟩)
    · exact ⟨pairs, [], rfl, List.not_mem_nil⟩
    · exact ⟨before, after ++ [(key, new)], by simp, by simp [hafter, Ne.symm hne]⟩

/-- Among entries of distinct names each has the value of its name. -/
theorem mem_iff_value?_eq_some {entries : Entries α} (h : (names entries).Nodup) :
    (name, value) ∈ entries ↔ value? entries name = some value := by
  refine ⟨fun hmem => ?_, mem_of_value?⟩
  induction entries with
  | nil => cases hmem
  | cons entry rest ih =>
    obtain ⟨key, first⟩ := entry
    obtain ⟨hkey, hrest⟩ := List.nodup_cons.1 h
    rcases List.mem_cons.1 hmem with heq | hmem
    · obtain ⟨rfl, rfl⟩ := Prod.mk.inj heq
      rw [value?, if_pos rfl]
    · rw [value?, if_neg (fst_ne_of_mem hkey hmem).symm, ih hrest hmem]

end Entries

namespace RuleSet

variable {pairs : List (String × Spec)} {rules : RuleSet}

/-- **The rule set of some insertions**: what is asked of an ordered map. -/
structure Ordered (pairs : List (String × Spec)) (rules : RuleSet) : Prop where
  /-- No name is listed twice. -/
  names_nodup : rules.names.Nodup
  /-- The listed names are those that were inserted. -/
  mem_names : ∀ name, name ∈ rules.names ↔ name ∈ Entries.names pairs
  /-- They are listed in the order in which each was first inserted. -/
  names_first : rules.names.Pairwise fun name other =>
    (Entries.names pairs).idxOf name < (Entries.names pairs).idxOf other
  /-- The spec of a name is the one that was inserted last. -/
  get?_last : ∀ name spec, rules.get? name = some spec ↔ Entries.IsLast pairs name spec

theorem ordered_empty : Ordered [] .empty where
  names_nodup := List.nodup_nil
  mem_names _ := Iff.rfl
  names_first := List.Pairwise.nil
  get?_last _ _ := ⟨fun h => (nomatch h), fun h => absurd h Entries.not_isLast_nil⟩

/-- An insertion gives its name the spec, and changes nothing for other names. -/
theorem get?_insert (rules : RuleSet) (name : String) (spec : Spec) (other : String) :
    (rules.insert name spec).get? other = if name = other then some spec else rules.get? other := by
  split
  case isTrue h => exact h ▸ Entries.value?_put_self rules.entries name spec
  case isFalse h => exact Entries.value?_put_of_ne rules.entries spec (Ne.symm h)

/-- What was inserted before was first inserted where it was. -/
theorem Ordered.idxOf_snoc (h : Ordered pairs rules) (name : String) {other : String}
    (hother : other ∈ rules.names) :
    (Entries.names pairs ++ [name]).idxOf other = (Entries.names pairs).idxOf other :=
  List.idxOf_append_of_mem ((h.mem_names other).1 hother)

/-- So the names that are listed stay in their order. -/
theorem Ordered.names_first_snoc (h : Ordered pairs rules) (name : String) :
    rules.names.Pairwise fun one other =>
      (Entries.names pairs ++ [name]).idxOf one < (Entries.names pairs ++ [name]).idxOf other := by
  refine h.names_first.imp_of_mem fun hone hother hlt => ?_
  rwa [h.idxOf_snoc name hone, h.idxOf_snoc name hother]

/-- **An insertion keeps the order.** A name that is there keeps its place, and a new one goes last,
after everything that was inserted before. -/
theorem Ordered.insert (h : Ordered pairs rules) (name : String) (spec : Spec) :
    Ordered (pairs ++ [(name, spec)]) (rules.insert name spec) := by
  have hinserted : Entries.names (pairs ++ [(name, spec)]) = Entries.names pairs ++ [name] :=
    Entries.names_append _ _
  have hlast (other : String) (value : Spec) :
      (rules.insert name spec).get? other = some value ↔
        Entries.IsLast (pairs ++ [(name, spec)]) other value := by
    rw [get?_insert, Entries.isLast_snoc, ← h.get?_last]
    by_cases hname : name = other <;> simp [hname]
  by_cases hmem : name ∈ rules.names
  · -- a repeated name: the same names are listed, and the same were inserted
    have hnames : (rules.insert name spec).names = rules.names :=
      Entries.names_put_of_mem spec hmem
    constructor
    · rw [hnames]
      exact h.names_nodup
    · intro other
      rw [hnames, h.mem_names, hinserted, List.mem_append, List.mem_singleton]
      refine ⟨.inl, fun hother => hother.elim id ?_⟩
      rintro rfl
      exact (h.mem_names other).1 hmem
    · rw [hnames, hinserted]
      exact h.names_first_snoc name
    · exact hlast
  · have hnames : (rules.insert name spec).names = rules.names ++ [name] :=
      Entries.names_put_of_not_mem spec hmem
    have hnew : name ∉ Entries.names pairs := fun hold => hmem ((h.mem_names name).2 hold)
    constructor
    · exact Entries.nodup_names_put name spec h.names_nodup
    · intro other
      rw [hnames, List.mem_append, h.mem_names, hinserted, List.mem_append]
    · -- the index of the new name is the number of all insertions before
      rw [hnames, hinserted, List.pairwise_append]
      refine ⟨h.names_first_snoc name, List.pairwise_singleton _ _,
        fun other hother last hlast => ?_⟩
      obtain rfl := List.mem_singleton.1 hlast
      rw [h.idxOf_snoc last hother, List.idxOf_append_of_notMem hnew, List.idxOf_cons_self]
      exact List.idxOf_lt_length_of_mem ((h.mem_names other).1 hother)
    · exact hlast

/-- A list is inserted from left to right. -/
theorem ofList_snoc (pairs : List (String × Spec)) (name : String) (spec : Spec) :
    ofList (pairs ++ [(name, spec)]) = (ofList pairs).insert name spec :=
  List.foldl_append

/-- **The rule set of a list is ordered.** The last pair is the last insertion, so the induction
goes from the end. -/
theorem ordered_ofList (pairs : List (String × Spec)) : Ordered pairs (.ofList pairs) := by
  induction pairs using List.reverseRecOn with
  | nil => exact ordered_empty
  | append_singleton pairs pair ih =>
    rw [ofList_snoc]
    exact ih.insert pair.1 pair.2

/-! ## Documents -/

/-- The specs that some members write, each at the path of its name. -/
def Written (pathOf : String → String) (members : Json.Members) (pairs : List (String × Spec)) :
    Prop :=
  List.Forall₂ (fun member pair =>
    pair.1 = member.1 ∧ Spec.ofJson (pathOf member.1) member.2 = .ok pair.2) members pairs

/-- **Members are read one after the other**, and each of them has to be read. -/
theorem specsOf_eq_ok_iff {pathOf : String → String} {members : Json.Members} :
    specsOf pathOf members = .ok pairs ↔ Written pathOf members pairs := by
  induction members generalizing pairs with
  | nil =>
    rw [specsOf, Written, List.forall₂_nil_left_iff]
    exact ⟨fun h => (Except.ok.inj h).symm, fun h => congrArg Except.ok h.symm⟩
  | cons member rest ih =>
    rw [specsOf, Written]
    constructor
    · intro h
      obtain ⟨spec, hspec, h⟩ := exists_of_bind_eq_ok h
      obtain ⟨specs, hspecs, h⟩ := exists_of_bind_eq_ok h
      obtain rfl := Except.ok.inj h
      exact .cons ⟨rfl, hspec⟩ (ih.1 hspecs)
    · intro h
      cases h with
      | @cons _ pair _ specs hpair hrest =>
        obtain ⟨name, spec⟩ := pair
        obtain ⟨rfl, hspec⟩ := hpair
        dsimp only at hspec ⊢
        rw [hspec, ih.2 hrest]
        rfl

/-! ## Building a rule set -/

/-- **How a rule set is built**, with the insertions that it is built by, the first one first. -/
inductive Built : List (String × Spec) → RuleSet → Prop where
  /-- Nothing is inserted at first. -/
  | empty : Built [] .empty
  /-- A list is inserted. -/
  | ofList (pairs : List (String × Spec)) : Built pairs (.ofList pairs)
  /-- A document is read. -/
  | ofJson {members : Json.Members} {pairs : List (String × Spec)} {rules : RuleSet}
      (hwritten : Written id members pairs) (hload : RuleSet.ofJson (.object members) = .ok rules) :
      Built pairs rules
  /-- The rule set in a rule at a path is read. -/
  | nested {path : String} {members : Json.Members} {pairs : List (String × Spec)}
      {rules : RuleSet} (hwritten : Written (fun name => path ++ "." ++ name) members pairs)
      (hload : RuleSet.nestedOfJson path (.object members) = .ok rules) : Built pairs rules
  /-- A spec is inserted into what was built before. -/
  | insert {pairs : List (String × Spec)} {rules : RuleSet} (h : Built pairs rules) (name : String)
      (spec : Spec) : Built (pairs ++ [(name, spec)]) (rules.insert name spec)

theorem ofJson_of_written {members : Json.Members} (h : Written id members pairs) :
    ofJson (.object members) = .ok (.ofList pairs) := by
  rw [ofJson, specsOf_eq_ok_iff.2 h]
  rfl

theorem nestedOfJson_of_written {path : String} {members : Json.Members}
    (h : Written (fun name => path ++ "." ++ name) members pairs) :
    nestedOfJson path (.object members) = .ok (.ofList pairs) := by
  rw [nestedOfJson, specsOf_eq_ok_iff.2 h]
  rfl

/-- However it is built, a rule set is ordered. -/
theorem Built.ordered (h : Built pairs rules) : Ordered pairs rules := by
  induction h with
  | empty => exact ordered_empty
  | ofList pairs => exact ordered_ofList pairs
  | ofJson hwritten hload =>
    obtain rfl := Except.ok.inj ((ofJson_of_written hwritten).symm.trans hload)
    exact ordered_ofList _
  | nested hwritten hload =>
    obtain rfl := Except.ok.inj ((nestedOfJson_of_written hwritten).symm.trans hload)
    exact ordered_ofList _
  | insert _ name spec ih => exact ih.insert name spec

/-- **What is read from a document is built from its members.** -/
theorem exists_built_of_ofJson {document : Json} (h : ofJson document = .ok rules) :
    ∃ members pairs, document = .object members ∧ Written id members pairs ∧ Built pairs rules := by
  cases document with
  | object members =>
    obtain ⟨pairs, hspecs, -⟩ := exists_of_bind_eq_ok h
    have hwritten := specsOf_eq_ok_iff.1 hspecs
    exact ⟨members, pairs, rfl, hwritten, .ofJson hwritten h⟩
  | _ => cases h

/-- So is a rule set in a rule. -/
theorem exists_built_of_nestedOfJson {path : String} {document : Json}
    (h : nestedOfJson path document = .ok rules) :
    ∃ members pairs, document = .object members ∧
      Written (fun name => path ++ "." ++ name) members pairs ∧ Built pairs rules := by
  cases document with
  | object members =>
    rw [nestedOfJson] at h
    obtain ⟨pairs, hspecs, -⟩ := exists_of_bind_eq_ok h
    have hwritten := specsOf_eq_ok_iff.1 hspecs
    exact ⟨members, pairs, rfl, hwritten, .nested hwritten h⟩
  | _ => cases h

/-- **A rule set is the ordered map of its insertions**, however it was built: from a list, from the
members of a document or of a rule set nested in one, and by single insertions into what was there.
Its names are distinct and are those that were inserted, entries and names are listed in the order
in which each name was first inserted, an entry has the spec that was inserted last under its name,
looking a name up finds this spec and finds none exactly for a name that was never inserted, and
there are as many fields as there are different names. Every document that is read, and every rule
set nested in one, is built by the specs of its members. -/
theorem orderedMap_of_built :
    (∀ pairs rules, Built pairs rules →
      rules.names.Nodup ∧
      rules.entries.map Prod.fst = rules.names ∧
      (∀ name, name ∈ rules.names ↔ name ∈ Entries.names pairs) ∧
      (rules.names.Pairwise fun name other =>
        (Entries.names pairs).idxOf name < (Entries.names pairs).idxOf other) ∧
      (∀ name spec, (name, spec) ∈ rules.entries ↔ Entries.IsLast pairs name spec) ∧
      (∀ name spec, rules.get? name = some spec ↔ Entries.IsLast pairs name spec) ∧
      (∀ name, rules.contains name = true ↔ name ∈ Entries.names pairs) ∧
      rules.size = (Entries.names pairs).toFinset.card) ∧
    (∀ document rules, ofJson document = .ok rules → ∃ members pairs,
      document = .object members ∧ Written id members pairs ∧ Built pairs rules) ∧
    ∀ path document rules, nestedOfJson path document = .ok rules → ∃ members pairs,
      document = .object members ∧ Written (fun name => path ++ "." ++ name) members pairs ∧
        Built pairs rules := by
  refine ⟨fun pairs rules hbuilt => ?_, fun _ _ => exists_built_of_ofJson,
    fun _ _ _ => exists_built_of_nestedOfJson⟩
  have h := hbuilt.ordered
  have hentries (name : String) (spec : Spec) :
      (name, spec) ∈ rules.entries ↔ Entries.IsLast pairs name spec :=
    (Entries.mem_iff_value?_eq_some h.names_nodup).trans (h.get?_last name spec)
  have hcontains (name : String) : rules.contains name = true ↔ name ∈ Entries.names pairs :=
    (Entries.value?_isSome_iff rules.entries name).trans (h.mem_names name)
  have hsize : rules.size = (Entries.names pairs).toFinset.card := calc
    rules.size = rules.names.length := (List.length_map _).symm
    _ = rules.names.toFinset.card := (List.toFinset_card_of_nodup h.names_nodup).symm
    _ = (Entries.names pairs).toFinset.card := by rw [List.toFinset.ext h.mem_names]
  exact ⟨h.names_nodup, rfl, h.mem_names, h.names_first, hentries, h.get?_last, hcontains, hsize⟩

/-- A book has a title and pages, as a document says. -/
def bookDocument : Json :=
  .object [("title", .string "string"), ("pages", .string "int")]

/-- Pages are inserted again and a shelf for the first time: the pages stay where they were. The
same specs are read where a loan has a book. -/
theorem orderedMap_of_built_book : ∃ book, ofJson bookDocument = .ok book ∧
    (∃ members pairs, bookDocument = .object members ∧ Written id members pairs ∧
      Built pairs book) ∧
    (let shelved := (book.insert "pages" (.typeName "number")).insert "shelf" (.typeName "string")
     shelved.names.Nodup ∧ shelved.get? "pages" = some (.typeName "number") ∧
       shelved.contains "title" = true ∧ shelved.size = 3) ∧
    nestedOfJson "loan" bookDocument = .ok book ∧
    ∃ members pairs, bookDocument = .object members ∧
      Written (fun name => "loan" ++ "." ++ name) members pairs ∧ Built pairs book := by
  have hstring : Pattern.ofLiteral? "string" = none := by decide
  have hint : Pattern.ofLiteral? "int" = none := by decide
  have hwritten (pathOf : String → String) :
      Written pathOf [("title", .string "string"), ("pages", .string "int")]
        [("title", .typeName "string"), ("pages", .typeName "int")] :=
    .cons ⟨rfl, by simp [Spec.ofJson, hstring]⟩ (.cons ⟨rfl, by simp [Spec.ofJson, hint]⟩ .nil)
  have hload := ofJson_of_written (hwritten id)
  have hnested := nestedOfJson_of_written (hwritten fun name => "loan" ++ "." ++ name)
  obtain ⟨hordered, hread, hreadNested⟩ := orderedMap_of_built
  obtain ⟨hnames, -, -, -, -, hget, hcontains, hsize⟩ := hordered _ _
    (((Built.ofJson (hwritten id) hload).insert "pages" (.typeName "number")).insert "shelf"
      (.typeName "string"))
  refine ⟨_, hload, hread _ _ hload,
    ⟨hnames, (hget _ _).2 ?_, (hcontains _).2 (by decide), hsize⟩,
    hnested, hreadNested _ _ _ hnested⟩
  exact ⟨[("title", .typeName "string"), ("pages", .typeName "int")],
    [("shelf", .typeName "string")], rfl, by decide⟩

end RuleSet

end Rulebook
