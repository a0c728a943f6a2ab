import Rulebook.Proofs.Validation.Slot
/-!
# Validation — the frame

What a validation may do to an object, whatever its checkers and converters do to the values they
are handed: the names stay in their places, a name without a rule keeps its value, and the only new
names are those of optional rules whose default was due, which go last. `Validator.Framed` says so
of a run that got through a prefix of the rules; a field's turn is framed (`validateField_framed`),
frames compose (`Framed.cons`), and so every run is (`validateFields_framed`).
-/

namespace Rulebook

namespace Validator

variable {validator : Validator} {context : String → Json.Members → Checker.Context}
variable {name : String} {spec : Spec} {rest done : List (String × Spec)}
variable {before after fields : Json.Members}

/-- The defaults that are due in an object, in the order of the rules. -/
def additions (entries : List (String × Spec)) (before : Json.Members) : Json.Members :=
  entries.filterMap fun (name, spec) =>
    (spec.normalize.due? (Entries.has before name)).map (name, ·)

/-- **The frame of a run** under `entries` that got through `done`. -/
structure Framed (entries done : List (String × Spec)) (before after : Json.Members) : Prop where
  /-- The names stay, in their order, and those of the defaults follow. -/
  names_eq : Entries.names after = Entries.names before ++ Entries.names (additions done before)
  /-- A name without a rule keeps its value. -/
  kept : ∀ name, name ∉ Entries.names entries →
    Entries.value? after name = Entries.value? before name
  /-- An added field carries its default. -/
  added : ∀ entry ∈ additions done before, Entries.value? after entry.1 = some entry.2

/-! ## The defaults that are due -/

@[simp]
theorem additions_nil : additions [] before = [] := rfl

theorem additions_cons (entry : String × Spec) (rest : List (String × Spec)) :
    additions (entry :: rest) before = additions [entry] before ++ additions rest before := by
  unfold additions
  rw [← List.filterMap_append, List.singleton_append]

theorem additions_singleton :
    additions [(name, spec)] before =
      ((spec.normalize.due? (Entries.has before name)).map (name, ·)).toList := by
  cases h : spec.normalize.due? (Entries.has before name) <;> simp [additions, h]

/-- An added name is the name of a rule. -/
theorem mem_names_of_mem_additions {entry : String × Json} (h : entry ∈ additions done before) :
    entry.1 ∈ Entries.names done := by
  obtain ⟨⟨name, spec⟩, hmem, hentry⟩ := List.mem_filterMap.1 h
  obtain ⟨value, -, rfl⟩ := Option.map_eq_some_iff.1 hentry
  exact List.mem_map.2 ⟨(name, spec), hmem, rfl⟩

/-- Which defaults are due depends only on the fields that the rules name. -/
theorem additions_congr (h : ∀ name ∈ Entries.names done,
    Entries.value? after name = Entries.value? before name) :
    additions done after = additions done before := by
  induction done with
  | nil => rfl
  | cons entry rest ih =>
    have hrest := ih fun name hname => h name (by simp [hname])
    have hentry := h entry.1 (by simp)
    rw [additions_cons entry rest, additions_cons entry rest, hrest, additions_singleton,
      additions_singleton, Entries.has, Entries.has, hentry]

/-! ## Composition -/

/-- Nothing done, nothing changed. -/
theorem Framed.refl (entries : List (String × Spec)) (fields : Json.Members) :
    Framed entries [] fields fields where
  names_eq := by simp
  kept := fun _ _ => rfl
  added := by simp

/-- A field whose value is replaced is framed without any default. -/
theorem framed_put {value : Json} (h : (Entries.value? fields name).isSome = true) :
    Framed [(name, spec)] [] fields (Entries.put fields name value) where
  names_eq := by simp [Entries.names_put_of_mem value ((Entries.value?_isSome_iff _ _).1 h)]
  kept := fun other hother => Entries.value?_put_of_ne fields value (by simpa using hother)
  added := by simp

/-- **Frames compose**: the turn of a field, then a run under rules for other fields. -/
theorem Framed.cons {middle : Json.Members} (hname : name ∉ Entries.names rest)
    (hdone : ∀ entry ∈ done, entry ∈ rest)
    (hfirst : Framed [(name, spec)] [(name, spec)] before middle)
    (hrest : Framed rest done middle after) :
    Framed ((name, spec) :: rest) ((name, spec) :: done) before after := by
  have hdoneNames : ∀ other ∈ Entries.names done, other ∈ Entries.names rest := by
    intro other hother
    obtain ⟨entry, hmem, rfl⟩ := List.mem_map.1 hother
    exact List.mem_map.2 ⟨entry, hdone entry hmem, rfl⟩
  have hsame : additions done middle = additions done before :=
    additions_congr fun other hother => hfirst.kept other (by
      have hne : other ≠ name := fun h => hname (h ▸ hdoneNames other hother)
      simpa using hne)
  refine ⟨?_, ?_, ?_⟩
  · rw [hrest.names_eq, hfirst.names_eq, hsame, additions_cons (name, spec) done]
    simp
  · intro other hother
    simp only [Entries.names_cons, List.mem_cons, not_or] at hother
    rw [hrest.kept other hother.2, hfirst.kept other (by simpa using hother.1)]
  · intro entry hentry
    rw [additions_cons (name, spec) done, List.mem_append] at hentry
    rcases hentry with hentry | hentry
    · -- the default just added is under a name that the later rules do not have
      have hkey : entry.1 = name := by simpa using mem_names_of_mem_additions hentry
      rw [hrest.kept entry.1 (hkey ▸ hname)]
      exact hfirst.added entry hentry
    · exact hrest.added entry (hsame ▸ hentry)

/-! ## Runs -/

/-- **The turn of a field is framed**: with its default if it gets through, without one if not. -/
theorem validateField_framed (validator : Validator)
    (context : String → Json.Members → Checker.Context) (name : String) (spec : Spec)
    (fields : Json.Members) :
    Framed [(name, spec)]
      (match (validator.validateField context spec.normalize name fields).result with
        | .ok _ => [(name, spec)]
        | .error _ => [])
      fields (validator.validateField context spec.normalize name fields).target := by
  rw [validateField_eq]
  dsimp only
  cases hslot : Entries.value? fields name with
  | some value =>
    -- the field is there: no default is due, and the slot is only rewritten
    obtain ⟨left, hleft⟩ := Option.isSome_iff_exists.1
      (isSome_validateSlot validator context spec.normalize name
        (prepared validator.options spec.normalize name fields)
        (by simp : (ready validator.options spec.normalize (some value)).isSome = true))
    have hput : Framed [(name, spec)] [] fields (Entries.put fields name left) :=
      framed_put (by simp [hslot])
    have hnone : additions [(name, spec)] fields = [] := by
      simp [additions_singleton, Entries.has, hslot, Rule.due?]
    rw [hleft]
    split
    · exact ⟨by rw [hnone]; exact hput.names_eq, hput.kept, by simp [hnone]⟩
    · exact hput
  | none =>
    -- the field is missing: the slot is filled with the default that is due, or left empty
    obtain ⟨errors, hok⟩ := validateSlot_none_ok validator context spec.normalize name
      (prepared validator.options spec.normalize name fields)
    have hnames := (Entries.value?_eq_none_iff fields name).1 hslot
    have hdue : additions [(name, spec)] fields =
        ((spec.normalize.due? false).map (name, ·)).toList := by
      rw [additions_singleton, Entries.has, hslot]
      rfl
    rw [ready_none, hok, validateSlot_none]
    cases hd : spec.normalize.due? false with
    | none => exact ⟨by simp [hdue, hd], fun _ _ => rfl, by simp [hdue, hd]⟩
    | some value =>
      refine ⟨by simp [hdue, hd, Entries.names_put_of_not_mem value hnames], ?_, by
        simp [hdue, hd]⟩
      intro other hother
      exact Entries.value?_put_of_ne fields value (by simpa using hother)

/-- **Every run over fields is framed**, as far as it got: through all the rules if it returns
errors, through fewer if it fails. -/
theorem validateFields_framed (validator : Validator)
    (context : String → Json.Members → Checker.Context) (entries : List (String × Spec))
    (hnames : (Entries.names entries).Nodup) (fields : Json.Members) :
    ∃ done rest, entries = done ++ rest ∧
      Framed entries done fields (validator.validateFields context entries fields).target ∧
      ((∃ errors, (validator.validateFields context entries fields).result = .ok errors ∧
          rest = []) ∨
        (∃ e, (validator.validateFields context entries fields).result = .error e ∧
          rest ≠ [])) := by
  induction entries generalizing fields with
  | nil => exact ⟨[], [], rfl, .refl [] fields, .inl ⟨[], rfl, rfl⟩⟩
  | cons entry entries ih =>
    obtain ⟨name, spec⟩ := entry
    obtain ⟨hname, hnames⟩ := List.nodup_cons.1 hnames
    have hfirst := validateField_framed validator context name spec fields
    cases hrun : (validator.validateField context spec.normalize name fields).result with
    | error e =>
      rw [validateFields_cons_error hrun]
      rw [hrun] at hfirst
      refine ⟨[], _, rfl, ⟨hfirst.names_eq, fun other hother => ?_, by simp⟩,
        .inr ⟨e, rfl, by simp⟩⟩
      exact hfirst.kept other fun h => hother (by simp_all)
    | ok errors =>
      rw [validateFields_cons_ok hrun]
      rw [hrun] at hfirst
      obtain ⟨done, rest, hentries, hframed, hend⟩ := ih hnames
        (validator.validateField context spec.normalize name fields).target
      have hsub : ∀ entry ∈ done, entry ∈ entries := fun entry h => by simp [hentries, h]
      refine ⟨(name, spec) :: done, rest, by rw [hentries]; rfl,
        hfirst.cons hname hsub hframed, ?_⟩
      rcases hend with ⟨others, hothers, hrest⟩ | ⟨e, hothers, hrest⟩
      · exact .inl ⟨errors ++ others, by simp [hothers, Except.map], hrest⟩
      · exact .inr ⟨e, by simp [hothers, Except.map], hrest⟩

/-- **The frame law.** Whatever the types, converters, options and rules, and whether it fails or
not, a validation keeps the fields of an object in their places, leaves those without a rule alone,
and adds only the defaults that are due in the part of the rules it got through, behind the fields
that were there. What is no object it leaves alone. -/
theorem validate_frame (validator : Validator) (rules : RuleSet) (hrules : rules.names.Nodup)
    (target : Json) :
    (∀ fields, target = .object fields → ∃ after done rest,
      (validator.validate rules target).target = .object after ∧
      rules.entries = done ++ rest ∧
      Framed rules.entries done fields after ∧
      ((∃ errors, (validator.validate rules target).result = .ok errors ∧ rest = []) ∨
        (∃ e, (validator.validate rules target).result = .error e ∧ rest ≠ []))) ∧
    ((∀ fields, target ≠ .object fields) →
      (validator.validate rules target).target = target) := by
  refine ⟨?_, target_validateIn_of_not_object⟩
  rintro fields rfl
  obtain ⟨done, rest, hentries, hframed, hend⟩ := validateFields_framed validator
    (validator.context (validator.depth rules)) rules.entries hrules fields
  unfold validate
  rw [validateIn_object]
  exact ⟨_, done, rest, rfl, hentries, hframed, hend⟩

/-- Rules with a default, and after it an enumeration that lists nothing. -/
def pageThenKind : RuleSet :=
  ⟨[("page", .record { typeName := some "bool?", fallback := some (.bool false) }),
    ("kind", .typeName "enum")]⟩

/-- A run that adds a default and then fails. -/
theorem validate_frame_pageThenKind :
    let run := validate {} pageThenKind (.object [("kind", .bool true)])
    run.result = .error (.missingValues "kind") ∧
    ∃ after done rest, run.target = .object after ∧ pageThenKind.entries = done ++ rest ∧
      Framed pageThenKind.entries done [("kind", .bool true)] after ∧ rest ≠ [] := by
  intro run
  obtain ⟨after, done, rest, htarget, hentries, hframed, hend⟩ :=
    (validate_frame {} pageThenKind (by decide) (.object [("kind", .bool true)])).1 _ rfl
  have hfails : run.result = .error (.missingValues "kind") := rfl
  refine ⟨hfails, after, done, rest, htarget, hentries, hframed, ?_⟩
  rcases hend with ⟨errors, hok, -⟩ | ⟨_, _, hrest⟩
  · cases hfails.symm.trans hok
  · exact hrest

end Validator

end Rulebook
