/-!
# Insertion-ordered entries

`Entries α` is a finite map from names to values kept as the list of its entries, oldest first. JSON
objects, rule sets, TOML tables and registries are all read through it. Binding a name that is
present keeps its position (`Entries.put`), and a new name goes last.

The small laws say what `put` does to `value?` and to `names`; no later proof unfolds it.
-/

namespace Rulebook

/-- Named values in the order of their first insertion. -/
abbrev Entries (α : Type u) := List (String × α)

namespace Entries

variable {α : Type u}

/-- The names, in order. -/
def names (entries : Entries α) : List String :=
  entries.map Prod.fst

/-- The value bound to `name`. -/
def value? : Entries α → String → Option α
  | [], _ => none
  | (key, value) :: rest, name => if key = name then some value else value? rest name

/-- Whether `name` is bound. -/
def has (entries : Entries α) (name : String) : Bool :=
  (value? entries name).isSome

/-- Binds `name` to `value`: in place if the name is present, otherwise at the end. -/
def put : Entries α → String → α → Entries α
  | [], name, value => [(name, value)]
  | (key, old) :: rest, name, value =>
    if key = name then (key, value) :: rest else (key, old) :: put rest name value

/-- All entries but those of `name`. -/
def without (entries : Entries α) (name : String) : Entries α :=
  entries.filter fun entry => entry.1 ≠ name

/-- The entries left by binding each pair in turn: a repeated name keeps its first position and
takes its last value. -/
def ofPairs (pairs : List (String × α)) : Entries α :=
  pairs.foldl (fun entries pair => put entries pair.1 pair.2) []

/-! ## Laws -/

@[simp]
theorem names_nil : names ([] : Entries α) = [] := rfl

@[simp]
theorem names_cons (entry : String × α) (rest : Entries α) :
    names (entry :: rest) = entry.1 :: names rest := rfl

@[simp]
theorem names_append (first second : Entries α) :
    names (first ++ second) = names first ++ names second :=
  List.map_append

/-- The first value of a name counts. -/
theorem value?_append (first second : Entries α) (name : String) :
    value? (first ++ second) name = (value? first name).or (value? second name) := by
  induction first with
  | nil => rfl
  | cons entry rest ih =>
    obtain ⟨key, value⟩ := entry
    by_cases h : key = name <;> simp [value?, h, ih]

/-- A name has a value exactly if it is among the names. -/
theorem value?_isSome_iff (entries : Entries α) (name : String) :
    (value? entries name).isSome = true ↔ name ∈ names entries := by
  induction entries with
  | nil => simp [value?]
  | cons entry rest ih =>
    obtain ⟨key, value⟩ := entry
    by_cases h : key = name
    · simp [value?, h]
    · simp [value?, h, Ne.symm h, ih]

/-- The name just bound has the value just given. -/
@[simp]
theorem value?_put_self (entries : Entries α) (name : String) (value : α) :
    value? (put entries name value) name = some value := by
  induction entries with
  | nil => simp [put, value?]
  | cons entry rest ih =>
    obtain ⟨key, old⟩ := entry
    by_cases h : key = name <;> simp [put, value?, h, ih]

/-- Every other name keeps its value. -/
theorem value?_put_of_ne (entries : Entries α) {name other : String} (value : α)
    (h : other ≠ name) : value? (put entries name value) other = value? entries other := by
  induction entries with
  | nil => simp [put, value?, Ne.symm h]
  | cons entry rest ih =>
    obtain ⟨key, old⟩ := entry
    by_cases hk : key = name
    · subst hk; simp [put, value?, Ne.symm h]
    · simp [put, value?, hk, ih]

/-- A name has no value exactly if it is not among the names. -/
theorem value?_eq_none_iff (entries : Entries α) (name : String) :
    value? entries name = none ↔ name ∉ names entries := by
  rw [← value?_isSome_iff]
  cases value? entries name <;> simp

/-- An entry has another name than one that is not among the names. -/
theorem fst_ne_of_mem {entries : Entries α} {name : String} (h : name ∉ names entries)
    {entry : String × α} (hmem : entry ∈ entries) : entry.1 ≠ name := by
  rintro rfl
  exact h (List.mem_map.2 ⟨entry, hmem, rfl⟩)

/-- A value comes from an entry. -/
theorem mem_of_value? {entries : Entries α} {name : String} {value : α}
    (h : value? entries name = some value) : (name, value) ∈ entries := by
  induction entries with
  | nil => cases h
  | cons entry rest ih =>
    obtain ⟨key, first⟩ := entry
    unfold value? at h
    split at h
    next hkey =>
      cases h
      exact hkey ▸ List.mem_cons_self
    next => exact List.mem_cons_of_mem _ (ih h)

/-- Of two bindings of a name only the second one counts. -/
@[simp]
theorem put_put (entries : Entries α) (name : String) (first second : α) :
    put (put entries name first) name second = put entries name second := by
  induction entries with
  | nil => simp [put]
  | cons entry rest ih =>
    obtain ⟨key, old⟩ := entry
    by_cases h : key = name <;> simp [put, h, ih]

/-- Binding a name to the value that it has changes nothing. -/
theorem put_of_value? {entries : Entries α} {name : String} {value : α}
    (h : value? entries name = some value) : put entries name value = entries := by
  induction entries with
  | nil => cases h
  | cons entry rest ih =>
    obtain ⟨key, old⟩ := entry
    by_cases hkey : key = name
    · rw [value?, if_pos hkey] at h
      rw [put, if_pos hkey, Option.some.inj h]
    · rw [value?, if_neg hkey] at h
      rw [put, if_neg hkey, ih h]

/-- A binding adds no entry but its own value. -/
theorem mem_put {entries : Entries α} {name : String} {value : α} {entry : String × α}
    (h : entry ∈ put entries name value) : entry ∈ entries ∨ entry.2 = value := by
  induction entries with
  | nil => exact .inr (by rw [List.mem_singleton.1 h])
  | cons first rest ih =>
    obtain ⟨key, old⟩ := first
    unfold put at h
    split at h
    · rcases List.mem_cons.1 h with h | h
      · exact .inr (by rw [h])
      · exact .inl (List.mem_cons_of_mem _ h)
    · rcases List.mem_cons.1 h with h | h
      · exact .inl (h ▸ List.mem_cons_self)
      · exact (ih h).imp_left (List.mem_cons_of_mem _)

/-- Changing all values changes the value of each name. -/
theorem value?_map {β : Type v} (f : α → β) (entries : Entries α) (name : String) :
    value? (entries.map fun entry => (entry.1, f entry.2)) name = (value? entries name).map f := by
  induction entries with
  | nil => rfl
  | cons entry rest ih =>
    obtain ⟨key, value⟩ := entry
    by_cases h : key = name <;> simp [value?, h, ih]

/-- Changing all values and binding a name can be done in either order. -/
theorem map_put {β : Type v} (f : α → β) (entries : Entries α) (name : String) (value : α) :
    (put entries name value).map (fun entry => (entry.1, f entry.2)) =
      put (entries.map fun entry => (entry.1, f entry.2)) name (f value) := by
  induction entries with
  | nil => rfl
  | cons entry rest ih =>
    obtain ⟨key, old⟩ := entry
    by_cases h : key = name <;> simp [put, h, ih]

/-- Changing all values and binding pairs in turn can be done in either order. -/
theorem map_ofPairs {β : Type v} (f : α → β) (pairs : List (String × α)) :
    (ofPairs pairs).map (fun entry => (entry.1, f entry.2)) =
      ofPairs (pairs.map fun pair => (pair.1, f pair.2)) := by
  have hfold : ∀ start : Entries α,
      (pairs.foldl (fun entries pair => put entries pair.1 pair.2) start).map
          (fun entry => (entry.1, f entry.2)) =
        (pairs.map fun pair => (pair.1, f pair.2)).foldl
          (fun entries pair => put entries pair.1 pair.2)
          (start.map fun entry => (entry.1, f entry.2)) := by
    induction pairs with
    | nil => exact fun _ => rfl
    | cons pair rest ih =>
      intro start
      rw [List.foldl_cons, ih, map_put, List.map_cons, List.foldl_cons]
  exact hfold []

/-- Binding a present name leaves the names alone. -/
theorem names_put_of_mem {entries : Entries α} {name : String} (value : α)
    (h : name ∈ names entries) : names (put entries name value) = names entries := by
  induction entries with
  | nil => simp at h
  | cons entry rest ih =>
    obtain ⟨key, old⟩ := entry
    by_cases hk : key = name
    · simp [put, hk]
    · have : name ∈ names rest := by
        rcases List.mem_cons.1 h with h | h
        · exact absurd h.symm hk
        · exact h
      simp [put, hk, ih this]

/-- A new entry goes last. -/
theorem put_of_not_mem {entries : Entries α} {name : String} (value : α)
    (h : name ∉ names entries) : put entries name value = entries ++ [(name, value)] := by
  induction entries with
  | nil => rfl
  | cons entry rest ih =>
    obtain ⟨key, old⟩ := entry
    simp only [names_cons, List.mem_cons, not_or] at h
    simp [put, Ne.symm h.1, ih h.2]

/-- Binding a new name puts it last. -/
theorem names_put_of_not_mem {entries : Entries α} {name : String} (value : α)
    (h : name ∉ names entries) : names (put entries name value) = names entries ++ [name] := by
  rw [put_of_not_mem value h, names_append]
  rfl

/-- Binding a name leaves the names distinct. -/
theorem nodup_names_put {entries : Entries α} (name : String) (value : α)
    (h : (names entries).Nodup) : (names (put entries name value)).Nodup := by
  by_cases hname : name ∈ names entries
  · rwa [names_put_of_mem value hname]
  · rw [names_put_of_not_mem value hname, List.nodup_append]
    refine ⟨h, by simp, fun other hother last hlast => ?_⟩
    rintro rfl
    exact hname (List.mem_singleton.1 hlast ▸ hother)

/-- Pairs of distinct names are the entries that they leave. -/
theorem ofPairs_of_nodup {pairs : List (String × α)} (h : (names pairs).Nodup) :
    ofPairs pairs = pairs := by
  have hfold : ∀ (rest start : List (String × α)), (names (start ++ rest)).Nodup →
      rest.foldl (fun entries pair => put entries pair.1 pair.2) start = start ++ rest := by
    intro rest
    induction rest with
    | nil => exact fun start _ => (List.append_nil start).symm
    | cons pair rest ih =>
      intro start hnames
      have hnew : pair.1 ∉ names start := by
        rw [names_append, names_cons, List.nodup_append] at hnames
        exact fun hmem => hnames.2.2 pair.1 hmem pair.1 List.mem_cons_self rfl
      rw [List.foldl_cons, put_of_not_mem pair.2 hnew, ih _ (by simpa using hnames)]
      simp
  exact hfold pairs [] h

end Entries

end Rulebook
