import Rulebook.Json.Reader
import Rulebook.Json.Writer
import Rulebook.Proofs.Text.Blank
/-!
# JSON — what is written is read back

The compact text of a value is read back as that value (`Json.ofText?_text`), if the value is
`Json.Legible`: no object gives a name twice, its nesting is within the limit of the reader, and
each of its numbers is read back by itself, as every integer is (`Json.Number.readsBack_int`). The
text is one line, whatever is in it (`Json.newline_not_mem_write`).

The reader counts its steps. Each character of a text pays for two of them, so the length of what is
written bounds what is needed to read it (`Json.Reader.value?_write`).
-/

namespace Rulebook

namespace Json

namespace Reader

variable {c : Char} {cs s rest : List Char} {steps depth : Nat}

/-! ## Strings -/

/-- The unit of a control character that is written with its number. -/
theorem unit?_control {n : Nat} (h : n < 32) :
    unit? '0' '0' (Text.hexDigit (n / 16)) (Text.hexDigit (n % 16)) = some n := by
  have : ∀ n, n < 32 →
      unit? '0' '0' (Text.hexDigit (n / 16)) (Text.hexDigit (n % 16)) = some n := by decide
  exact this n h

/-- **A written character is read back**, in whichever way it is escaped. -/
theorem string?_escape (c : Char) (h : string? s = some (cs, rest)) :
    string? (escape c ++ s) = some (c :: cs, rest) := by
  unfold escape
  split
  case h_6 hquote hslash hn hr ht =>
    split
    next hc =>
      obtain rfl : c = '\x08' := Char.toNat_inj.1 hc
      simp [string?, escaped?, h]
    next =>
    split
    next hc =>
      obtain rfl : c = '\x0c' := Char.toNat_inj.1 hc
      simp [string?, escaped?, h]
    next =>
    split
    next hc =>
      have hchar : Char.ofNat c.toNat = c := Char.ofNat_toNat c
      have hlow : c.toNat < 0xD800 := by omega
      simp [string?, unit?_control hc, h, hlow, hchar]
    next hc =>
      have hslash : c ≠ '\\' := hslash
      rw [List.singleton_append, string?]
      · simp [hc, hslash, h]
      all_goals
        intros
        simp_all
  all_goals simp [string?, escaped?, h]

/-- So is a string, up to its closing quote. -/
theorem string?_quoted (cs rest : List Char) :
    string? (cs.flatMap escape ++ '"' :: rest) = some (cs, rest) := by
  induction cs with
  | nil => simp [string?]
  | cons c cs ih =>
    rw [List.flatMap_cons, List.append_assoc]
    exact string?_escape c ih

/-! ## Integers -/

/-- What may follow a number: nothing, or a character that does not carry it on. -/
def Stops (rest : List Char) : Prop :=
  ∀ c, rest.head? = some c → c.isDigit = false ∧ c ≠ '.' ∧ c ≠ 'e' ∧ c ≠ 'E'

theorem stops_nil : Stops [] := nofun

theorem stops_cons (s : List Char) (h : c.isDigit = false ∧ c ≠ '.' ∧ c ≠ 'e' ∧ c ≠ 'E') :
    Stops (c :: s) := by
  intro other hother
  obtain rfl := Option.some.inj hother
  exact h

end Reader

end Json

namespace Decimal

variable {rest : List Char}

/-- The first digit of a positive number is not zero. -/
theorem getLast?_reversedDigits {bound n : Nat} (h : n < 2 ^ bound) (hn : 0 < n) :
    (reversedDigits bound n).getLast? ≠ some '0' := by
  induction bound generalizing n with
  | zero => omega
  | succ bound ih =>
    unfold reversedDigits
    split
    next h10 =>
      have hchar : ∀ d, d < 10 → 0 < d → digitChar d ≠ '0' := by decide
      simpa using hchar n h10 hn
    next h10 =>
      have hlt : n / 10 < 2 ^ bound := by
        rw [Nat.pow_succ] at h
        omega
      have hrest := ih hlt (by omega)
      cases hdigits : reversedDigits bound (n / 10) with
      | nil =>
        -- more digits follow, since there are steps left for them
        cases bound with
        | zero => omega
        | succ bound =>
          unfold reversedDigits at hdigits
          split at hdigits <;> cases hdigits
      | cons d ds =>
        rw [List.getLast?_cons_cons, ← hdigits]
        exact hrest

/-- Written numbers have no leading zeros. -/
theorem wholeOk_digits (n : Nat) : Json.Reader.wholeOk (digits n) = true := by
  rcases Nat.eq_zero_or_pos n with rfl | hn
  · decide
  · have hhead : (digits n).head? ≠ some '0' := by
      rw [digits, List.head?_reverse]
      exact getLast?_reversedDigits Nat.lt_log2_self hn
    cases hdigits : digits n with
    | nil => exact absurd hdigits (digits_ne_nil n)
    | cons c rest =>
      rw [hdigits] at hhead
      unfold Json.Reader.wholeOk
      split <;> simp_all

/-- The digits of a text end where something else begins. -/
theorem scanDigits_append {ds : List Char} (h : ∀ c ∈ ds, c.isDigit = true)
    (hrest : ∀ c, rest.head? = some c → c.isDigit = false) :
    scanDigits (ds ++ rest) = (ds, rest) := by
  rw [scanDigits, List.takeWhile_append_of_pos h, List.dropWhile_append_of_pos h]
  cases rest with
  | nil => simp
  | cons c s => simp [hrest c rfl]

/-- A number that is written as an integer has no other parts. -/
theorem scan_digits (n : Nat) (h : Json.Reader.Stops rest) :
    scan (digits n ++ rest) = (⟨digits n, none, none⟩, rest) := by
  have hscan := scanDigits_append (fun c hc => isDigit_of_mem_digits (n := n) hc)
    fun c hc => (h c hc).1
  unfold scan
  rw [hscan]
  cases rest with
  | nil => rfl
  | cons c s =>
    obtain ⟨-, hpoint, he, hE⟩ := h c rfl
    have hexponent : scanExponent (c :: s) = (none, c :: s) := by simp [scanExponent, he, hE]
    dsimp only
    split <;> simp_all

end Decimal

namespace Json

namespace Reader

variable {c : Char} {cs s rest : List Char} {steps depth : Nat}

/-- The digits of an integer write it. -/
theorem numberOf?_digits {n : Int} (h : InRange n) :
    numberOf? (decide (n < 0)) ⟨Decimal.digits n.natAbs, none, none⟩ = some (.int n h) := by
  have hsigned : (if decide (n < 0) = true then -(n.natAbs : Int) else n.natAbs) = n := by
    simp only [decide_eq_true_eq]
    split <;> omega
  have hzero : ¬ (decide (n < 0) = true ∧ n.natAbs = 0) := by
    simp only [decide_eq_true_eq]
    omega
  simp only [numberOf?, Decimal.wholeOk_digits, Decimal.value_digits, hsigned, hzero, dif_pos h]
  rfl

/-- **An integer is read back.** -/
theorem number?_signedDigits {n : Int} (h : InRange n) (hrest : Stops rest) :
    number? (Decimal.signedDigits n ++ rest) = some (.int n h, rest) := by
  have hscan := Decimal.scan_digits n.natAbs hrest
  have hnumber := numberOf?_digits h
  unfold Decimal.signedDigits number?
  by_cases hn : n < 0
  · rw [decide_eq_true hn] at hnumber
    simp [hn, hscan, hnumber]
  · rw [decide_eq_false hn] at hnumber
    -- the first digit is no sign
    have hminus : ∀ t, Decimal.digits n.natAbs ++ rest ≠ '-' :: t := by
      intro t ht
      cases hdigits : Decimal.digits n.natAbs with
      | nil => exact Decimal.digits_ne_nil _ hdigits
      | cons c ds =>
        have hdigit : c.isDigit = true :=
          Decimal.isDigit_of_mem_digits (n := n.natAbs) (by simp [hdigits])
        rw [hdigits] at ht
        cases ht
        cases hdigit
    simp [hn, hscan, hnumber]

end Reader

/-! ## Legible values -/

/-- A number that is read back where nothing carries it on. -/
def Number.ReadsBack (n : Number) : Prop :=
  ∀ rest, Reader.Stops rest → Reader.number? (n.text ++ rest) = some (n, rest)

/-- Every integer is. -/
theorem Number.readsBack_int {n : Int} (h : InRange n) : (Number.int n h).ReadsBack :=
  fun _ hrest => Reader.number?_signedDigits h hrest

/-- Values whose text says what they are: they nest at most so deep, no object gives a name twice,
and their numbers are read back. -/
inductive Legible : (depth : Nat) → Json → Prop
  | null {depth : Nat} : Legible depth .null
  | bool {depth : Nat} (b : Bool) : Legible depth (.bool b)
  | number {depth : Nat} {n : Number} (h : n.ReadsBack) : Legible depth (.number n)
  | string {depth : Nat} (s : String) : Legible depth (.string s)
  | array {depth : Nat} {items : List Json} (h : ∀ item ∈ items, Legible depth item) :
      Legible (depth + 1) (.array items)
  | object {depth : Nat} {members : List (String × Json)}
      (hnames : (Entries.names members).Nodup)
      (h : ∀ member ∈ members, Legible depth member.2) : Legible (depth + 1) (.object members)

namespace Reader

variable {c : Char} {s rest : List Char} {steps depth : Nat}

/-! ## What a written value starts with -/

theorem skipSpace_cons (h : isSpace c = false) (s : List Char) : skipSpace (c :: s) = c :: s := by
  simp [skipSpace, h]

/-- No character of a number may stand between tokens. -/
theorem isSpace_of_writes (h : Number.writes c = true) : isSpace c = false := by
  cases hspace : isSpace c with
  | false => rfl
  | true =>
    simp only [isSpace, Bool.or_eq_true, decide_eq_true_eq] at hspace
    rcases hspace with ((rfl | rfl) | rfl) | rfl <;> cases h

/-- A written value starts with a character that is neither passed over nor the end of an array. -/
theorem exists_write_eq_cons (v : Json) :
    ∃ c s, v.write = c :: s ∧ isSpace c = false ∧ c ≠ ']' := by
  cases v with
  | number n =>
    cases htext : n.text with
    | nil => exact absurd htext n.text_ne_nil
    | cons c s =>
      have hwrites := Number.writes_of_mem_text (n := n) (c := c) (by simp [htext])
      refine ⟨c, s, by rw [write, htext], isSpace_of_writes hwrites, ?_⟩
      rintro rfl
      cases hwrites
  | bool b => cases b <;> exact ⟨_, _, rfl, rfl, by decide⟩
  | _ => exact ⟨_, _, rfl, rfl, by decide⟩

theorem length_write_pos (v : Json) : 0 < v.write.length := by
  obtain ⟨c, s, hwrite, -⟩ := exists_write_eq_cons v
  simp [hwrite]

theorem writeItems_cons_cons (first second : Json) (others : List Json) :
    writeItems (first :: second :: others) =
      first.write ++ ',' :: writeItems (second :: others) := rfl

/-- So do the items of an array. -/
theorem exists_writeItems_eq_cons {items : List Json} (hne : items ≠ []) :
    ∃ c s, writeItems items = c :: s ∧ isSpace c = false ∧ c ≠ ']' := by
  match items with
  | [] => exact absurd rfl hne
  | [item] => exact exists_write_eq_cons item
  | item :: second :: others =>
    obtain ⟨c, s, hwrite, hc⟩ := exists_write_eq_cons item
    exact ⟨c, _, by rw [writeItems_cons_cons, hwrite, List.cons_append], hc⟩

theorem writeMembers_cons_cons (name : String) (value : Json) (second : String × Json)
    (others : List (String × Json)) :
    writeMembers ((name, value) :: second :: others) =
      quote name.toList ++ ':' :: value.write ++ ',' :: writeMembers (second :: others) := rfl

/-- The members of an object start with a quote. -/
theorem exists_writeMembers_eq_cons {members : List (String × Json)} (hne : members ≠ []) :
    ∃ s, writeMembers members = '"' :: s := by
  match members with
  | [] => exact absurd rfl hne
  | [(name, value)] => exact ⟨_, rfl⟩
  | (name, value) :: second :: others => exact ⟨_, rfl⟩

/-! ## Items and members -/

/-- The value can be read in front of whatever stops a number, if each of its characters pays for
two steps. -/
def ReadsAt (depth : Nat) (v : Json) : Prop :=
  ∀ steps rest, 2 * v.write.length ≤ steps → Stops rest →
    value? steps depth (v.write ++ rest) = some (v, rest)

/-- A written value is not empty, so there is a step left for it. -/
theorem readsAt_of_succ {v : Json} (h : ∀ steps rest, 2 * v.write.length ≤ steps + 1 →
    Stops rest → value? (steps + 1) depth (v.write ++ rest) = some (v, rest)) :
    ReadsAt depth v := by
  intro steps rest hsteps hrest
  have hpos := length_write_pos v
  obtain ⟨steps, rfl⟩ := Nat.exists_eq_add_of_le' (show 1 ≤ steps by omega)
  exact h steps rest hsteps hrest

/-- **Written items are read back** if each of them is. -/
theorem items?_write {items : List Json} (hne : items ≠ [])
    (h : ∀ item ∈ items, ReadsAt depth item) :
    ∀ steps rest, 2 * (writeItems items).length + 1 ≤ steps →
      items? steps depth (writeItems items ++ ']' :: rest) = some (items, rest) := by
  induction items with
  | nil => exact absurd rfl hne
  | cons item others ih =>
    intro steps rest hsteps
    obtain ⟨steps, rfl⟩ := Nat.exists_eq_add_of_le' (show 1 ≤ steps by omega)
    cases others with
    | nil =>
      rw [writeItems] at hsteps
      have hitem := h item (by simp) steps (']' :: rest) (by omega) (stops_cons _ (by decide))
      simp [writeItems, items?, hitem, skipSpace_cons (show isSpace ']' = false from rfl)]
    | cons second others =>
      rw [writeItems_cons_cons, List.length_append, List.length_cons] at hsteps
      have hitem := h item (by simp) steps (',' :: (writeItems (second :: others) ++ ']' :: rest))
        (by omega) (stops_cons _ (by decide))
      have hothers := ih (by simp) (fun item hmem => h item (List.mem_cons_of_mem _ hmem)) steps
        rest (by omega)
      simp [writeItems_cons_cons, items?, hitem, hothers,
        skipSpace_cons (show isSpace ',' = false from rfl)]

/-- **A written member is read back**, and the character after it decides whether there are more.
-/
theorem members?_member (name : String) (value : Json) {tail : List Char}
    (hc : isSpace c = false)
    (h : value? steps depth (value.write ++ c :: tail) = some (value, c :: tail)) :
    members? (steps + 1) depth (quote name.toList ++ ':' :: value.write ++ c :: tail) =
      if c = ',' then
        (members? steps depth tail).map fun (members, rest) => ((name, value) :: members, rest)
      else if c = '\x7d' then some ([(name, value)], tail)
      else none := by
  have hname := string?_quoted name.toList (':' :: (value.write ++ c :: tail))
  have hquote : quote name.toList ++ ':' :: value.write ++ c :: tail =
      '"' :: (name.toList.flatMap escape ++ '"' :: ':' :: (value.write ++ c :: tail)) := by
    simp [quote]
  rw [hquote, members?, skipSpace_cons (show isSpace '"' = false from rfl)]
  simp only [hname, Option.bind_eq_bind, Option.bind_some,
    skipSpace_cons (show isSpace ':' = false from rfl), h, skipSpace_cons hc,
    String.ofList_toList]
  by_cases hcomma : c = ','
  · subst hcomma
    rw [if_pos rfl, Option.map_eq_bind]
    rfl
  · by_cases hbrace : c = '\x7d'
    · subst hbrace
      rfl
    · simp [hcomma, hbrace]

/-- **Written members are read back** if the value of each of them is. -/
theorem members?_write {members : List (String × Json)} (hne : members ≠ [])
    (h : ∀ member ∈ members, ReadsAt depth member.2) :
    ∀ steps rest, 2 * (writeMembers members).length + 1 ≤ steps →
      members? steps depth (writeMembers members ++ '\x7d' :: rest) = some (members, rest) := by
  induction members with
  | nil => exact absurd rfl hne
  | cons member others ih =>
    obtain ⟨name, value⟩ := member
    intro steps rest hsteps
    obtain ⟨steps, rfl⟩ := Nat.exists_eq_add_of_le' (show 1 ≤ steps by omega)
    cases others with
    | nil =>
      rw [writeMembers, List.length_append, List.length_cons] at hsteps
      have hvalue := h (name, value) (by simp) steps ('\x7d' :: rest) (by dsimp only; omega)
        (stops_cons _ (by decide))
      rw [writeMembers, members?_member name value rfl hvalue]
      rfl
    | cons second others =>
      rw [writeMembers_cons_cons, List.length_append, List.length_append, List.length_cons,
        List.length_cons] at hsteps
      have hvalue := h (name, value) (by simp) steps
        (',' :: (writeMembers (second :: others) ++ '\x7d' :: rest)) (by dsimp only; omega)
        (stops_cons _ (by decide))
      have hothers := ih (by simp) (fun item hmem => h item (List.mem_cons_of_mem _ hmem)) steps
        rest (by omega)
      rw [writeMembers_cons_cons, List.append_assoc, List.cons_append,
        members?_member name value rfl hvalue, if_pos rfl, hothers]
      rfl

/-! ## Values -/

/-- A text that starts with a character of a number is read as one. -/
theorem value?_of_writes (h : Number.writes c = true) : value? (steps + 1) depth (c :: s) =
    (number? (c :: s)).map fun (n, rest) => (.number n, rest) := by
  rw [value?, skipSpace_cons (isSpace_of_writes h)]
  split
  case h_7 => cases number? (c :: s) <;> rfl
  all_goals
    next heq =>
      cases heq
      cases h

/-- An array with items is read through them. -/
theorem value?_array {items : List Json} (hne : items ≠ [])
    (h : items? steps depth (writeItems items ++ ']' :: rest) = some (items, rest)) :
    value? (steps + 1) (depth + 1) ((array items).write ++ rest) = some (.array items, rest) := by
  obtain ⟨c, s, hwrite, hspace, hc⟩ := exists_writeItems_eq_cons hne
  have htext : (array items).write ++ rest = '[' :: (writeItems items ++ ']' :: rest) := by
    simp [write]
  rw [htext, value?, skipSpace_cons (show isSpace '[' = false from rfl)]
  rw [hwrite, List.cons_append] at h ⊢
  simp only [skipSpace_cons hspace, Nat.add_one_ne_zero, if_false, Nat.add_sub_cancel]
  split
  next heq => exact absurd (List.cons.inj heq).1 hc
  next => simp [h]

/-- An object with members is read through them. -/
theorem value?_object {members : List (String × Json)} (hne : members ≠ [])
    (hnames : (Entries.names members).Nodup)
    (h : members? steps depth (writeMembers members ++ '\x7d' :: rest) = some (members, rest)) :
    value? (steps + 1) (depth + 1) ((object members).write ++ rest) =
      some (.object members, rest) := by
  obtain ⟨s, hwrite⟩ := exists_writeMembers_eq_cons hne
  have htext : (object members).write ++ rest =
      '\x7b' :: (writeMembers members ++ '\x7d' :: rest) := by
    simp [write]
  rw [htext, value?, skipSpace_cons (show isSpace '\x7b' = false from rfl)]
  rw [hwrite, List.cons_append] at h ⊢
  simp only [skipSpace_cons (show isSpace '"' = false from rfl), Nat.add_one_ne_zero, if_false,
    Nat.add_sub_cancel]
  simp [h, Entries.ofPairs_of_nodup hnames]

/-- **A legible value is read back**, whatever follows it that would not carry a number on. -/
theorem value?_write {v : Json} (h : Legible depth v) : ReadsAt depth v := by
  induction h with
  | null =>
    refine readsAt_of_succ fun steps rest _ _ => ?_
    simp [write, value?, skipSpace, isSpace]
  | bool b =>
    refine readsAt_of_succ fun steps rest _ _ => ?_
    cases b <;> simp [write, value?, skipSpace, isSpace]
  | @number depth n h =>
    refine readsAt_of_succ fun steps rest _ hrest => ?_
    have hread := h rest hrest
    cases htext : n.text with
    | nil => exact absurd htext n.text_ne_nil
    | cons c s =>
      have hwrites := Number.writes_of_mem_text (n := n) (c := c) (by simp [htext])
      rw [htext, List.cons_append] at hread
      rw [write, htext, List.cons_append, value?_of_writes hwrites, hread]
      rfl
  | string s =>
    refine readsAt_of_succ fun steps rest _ _ => ?_
    have hread := string?_quoted s.toList rest
    simp [write, quote, value?, skipSpace_cons (show isSpace '"' = false from rfl), hread]
  | @array depth items h ih =>
    refine readsAt_of_succ fun steps rest hsteps _ => ?_
    -- the brackets pay for the step from the array to its items
    simp only [write, List.cons_append, List.length_cons, List.length_append,
      List.length_nil] at hsteps
    by_cases hne : items = []
    · subst hne
      simp [write, writeItems, value?, skipSpace_cons (show isSpace '[' = false from rfl),
        skipSpace_cons (show isSpace ']' = false from rfl)]
    · exact value?_array hne (items?_write hne ih steps rest (by omega))
  | @object depth members hnames h ih =>
    refine readsAt_of_succ fun steps rest hsteps _ => ?_
    simp only [write, List.cons_append, List.length_cons, List.length_append,
      List.length_nil] at hsteps
    by_cases hne : members = []
    · subst hne
      simp [write, writeMembers, value?, skipSpace_cons (show isSpace '\x7b' = false from rfl),
        skipSpace_cons (show isSpace '\x7d' = false from rfl)]
    · exact value?_object hne hnames (members?_write hne ih steps rest (by omega))

end Reader

/-! ## Texts -/

/-- **What is written is read back.** -/
theorem ofChars?_write {v : Json} (h : Legible nestingLimit v) : ofChars? v.write = some v := by
  have hread := Reader.value?_write h (2 * v.write.length + 1) [] (by omega) Reader.stops_nil
  rw [List.append_nil] at hread
  rw [ofChars?, hread]
  rfl

theorem ofText?_text {v : Json} (h : Legible nestingLimit v) : ofText? v.text = some v := by
  rw [ofText?, text, String.toList_ofList, ofChars?_write h]

/-- An escaped character is no newline. -/
theorem newline_not_mem_escape (c : Char) : '\n' ∉ escape c := by
  have hhex : ∀ d, d < 16 → Text.hexDigit d ≠ '\n' := by decide
  unfold escape
  split
  case h_6 hn _ _ =>
    split
    next => decide
    next =>
    split
    next => decide
    next =>
    split
    next hc =>
      have hhigh := hhex (c.toNat / 16) (by omega)
      have hlow := hhex (c.toNat % 16) (by omega)
      simp [hhigh.symm, hlow.symm]
    next => simpa using Ne.symm hn
  all_goals decide

theorem newline_not_mem_quote (s : List Char) : '\n' ∉ quote s := by
  simp [quote, newline_not_mem_escape]

mutual

/-- **A value is written on one line**, whatever its strings hold. -/
theorem newline_not_mem_write : ∀ v : Json, '\n' ∉ v.write
  | .null => by decide
  | .bool b => by cases b <;> decide
  | .number n => fun h => nomatch (Number.writes_of_mem_text h : Number.writes '\n' = true)
  | .string s => newline_not_mem_quote s.toList
  | .array items => by simp [write, newline_not_mem_writeItems items]
  | .object members => by simp [write, newline_not_mem_writeMembers members]

/-- So are items. -/
theorem newline_not_mem_writeItems : ∀ items : List Json, '\n' ∉ writeItems items
  | [] => by simp [writeItems]
  | [item] => newline_not_mem_write item
  | item :: second :: others => by
    simp [Reader.writeItems_cons_cons, newline_not_mem_write item,
      newline_not_mem_writeItems (second :: others)]

/-- So are members. -/
theorem newline_not_mem_writeMembers :
    ∀ members : List (String × Json), '\n' ∉ writeMembers members
  | [] => by simp [writeMembers]
  | [(name, value)] => by
    simp [writeMembers, newline_not_mem_quote, newline_not_mem_write value]
  | (name, value) :: second :: others => by
    simp [Reader.writeMembers_cons_cons, newline_not_mem_quote, newline_not_mem_write value,
      newline_not_mem_writeMembers (second :: others)]

end

end Json

end Rulebook
