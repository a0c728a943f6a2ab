import Rulebook.Json.Basic
/-!
# Values — alike up to the representation of numbers

Two values are alike if they are the same but for the kinds of their numbers, which are equal as
doubles: the same names in the same order, and so on at every depth. What is written into alike
objects under one name leaves them alike, and what is read from them is alike.
-/

namespace Rulebook

namespace Json

mutual

/-- Whether two values are the same up to the representation of numbers. -/
def alike : Json → Json → Bool
  | null, null => true
  | bool a, bool b => a = b
  | number a, number b => a.sameValue b
  | string a, string b => a = b
  | array as, array bs => alikeItems as bs
  | object as, object bs => alikeMembers as bs
  | _, _ => false

/-- Whether two lists of items are alike, place by place. -/
def alikeItems : List Json → List Json → Bool
  | [], [] => true
  | a :: as, b :: bs => alike a b && alikeItems as bs
  | _, _ => false

/-- Whether two objects have the same names in the same order, with values that are alike. -/
def alikeMembers : List (String × Json) → List (String × Json) → Bool
  | [], [] => true
  | (name, a) :: as, (other, b) :: bs => name = other && alike a b && alikeMembers as bs
  | _, _ => false

end

mutual

/-- A value is like itself. -/
@[simp]
theorem alike_refl : ∀ value : Json, alike value value = true
  | null => rfl
  | bool _ => by simp [alike]
  | number _ => by simp [alike, Number.sameValue, Binary64.sameValue]
  | string _ => by simp [alike]
  | array items => by simp [alike, alikeItems_refl items]
  | object members => by simp [alike, alikeMembers_refl members]

@[simp]
theorem alikeItems_refl : ∀ items : List Json, alikeItems items items = true
  | [] => rfl
  | item :: rest => by simp [alikeItems, alike_refl item, alikeItems_refl rest]

@[simp]
theorem alikeMembers_refl : ∀ members : List (String × Json), alikeMembers members members = true
  | [] => rfl
  | (_, value) :: rest => by simp [alikeMembers, alike_refl value, alikeMembers_refl rest]

end

variable {a b : Json} {first second : Members} {name : String}

/-- Values that are alike are both objects or arrays, or neither is. -/
theorem isStructured_of_alike (h : alike a b = true) : b.isStructured = a.isStructured := by
  cases a <;> cases b <;> first | rfl | cases h

/-- Values that are alike equal the same texts. -/
theorem sameValue_string_of_alike (s : String) (h : alike a b = true) :
    b.sameValue (.string s) = a.sameValue (.string s) := by
  cases a <;> cases b <;> simp_all [alike, sameValue, same]

/-- Whether two slots are both empty, or hold values that are alike. -/
def alikeSlots : Option Json → Option Json → Bool
  | some a, some b => alike a b
  | none, none => true
  | _, _ => false

@[simp]
theorem alikeSlots_refl (slot : Option Json) : alikeSlots slot slot = true := by
  cases slot <;> simp [alikeSlots]

/-- So do slots. -/
theorem any_sameValue_string_of_alike {slot other : Option Json} (s : String)
    (h : alikeSlots slot other = true) :
    (slot.any fun value => value.sameValue (.string s)) =
      other.any fun value => value.sameValue (.string s) := by
  cases slot with
  | none =>
    cases other with
    | none => rfl
    | some b => cases h
  | some a =>
    cases other with
    | none => cases h
    | some b => exact (sameValue_string_of_alike s h).symm

/-- **What is read from alike objects is alike.** -/
theorem alikeSlots_value? (h : alikeMembers first second = true) (name : String) :
    alikeSlots (Entries.value? first name) (Entries.value? second name) = true := by
  induction first generalizing second with
  | nil =>
    cases second with
    | nil => rfl
    | cons entry rest => cases h
  | cons entry rest ih =>
    cases second with
    | nil => cases h
    | cons other others =>
      obtain ⟨key, value⟩ := entry
      obtain ⟨key', value'⟩ := other
      simp only [alikeMembers, Bool.and_eq_true, decide_eq_true_eq] at h
      obtain ⟨⟨rfl, hvalue⟩, hrest⟩ := h
      by_cases hkey : key = name
      · simpa [Entries.value?, hkey, alikeSlots] using hvalue
      · simpa [Entries.value?, hkey] using ih hrest

/-- **What is written into alike objects leaves them alike.** -/
theorem alikeMembers_put (h : alikeMembers first second = true) (hvalue : alike a b = true)
    (name : String) :
    alikeMembers (Entries.put first name a) (Entries.put second name b) = true := by
  induction first generalizing second with
  | nil =>
    cases second with
    | nil => simp [Entries.put, alikeMembers, hvalue]
    | cons entry rest => cases h
  | cons entry rest ih =>
    cases second with
    | nil => cases h
    | cons other others =>
      obtain ⟨key, old⟩ := entry
      obtain ⟨key', old'⟩ := other
      simp only [alikeMembers, Bool.and_eq_true, decide_eq_true_eq] at h
      obtain ⟨⟨rfl, hold⟩, hrest⟩ := h
      by_cases hkey : key = name
      · simp [Entries.put, hkey, alikeMembers, hvalue, hrest]
      · simp [Entries.put, hkey, alikeMembers, hold, ih hrest]

end Json

end Rulebook
