import Rulebook.Message
/-!
# Messages — templates

A template is read from left to right into tokens (`Message.tokens`), and each token is written as
one part of the text: a character as itself, and a slot with so many slots before it as the argument
of that number. The arguments that are left over follow (`Message.parts`). Filling the
slots writes these parts (`Message.fillSlots_eq`), and the arguments among them are all that were
given, each once and in their order (`Message.arguments_parts`), so no character of an argument is
ever read as a part of the template. The slots are counted by their places; the lemmas about a first
token (`Message.parts_char` and the two that follow) turn this into a recursion like that of
`fillSlots`.
-/

namespace Rulebook

namespace Message

/-! ## Reading a template -/

/-- What a template is made of. -/
inductive Token where
  /-- The place of an argument. -/
  | slot
  /-- A character that stands for itself. -/
  | char (c : Char)
deriving DecidableEq

/-- The tokens of a template: `%s` is a slot, `%%` is a percent sign, and any other character is
itself, a percent sign before anything else or at the end included. -/
def tokens : List Char → List Token
  | '%' :: 's' :: rest => .slot :: tokens rest
  | '%' :: '%' :: rest => .char '%' :: tokens rest
  | c :: rest => .char c :: tokens rest
  | [] => []

/-- A character as a template writes it: a percent sign is doubled. -/
def doubled (c : Char) : List Char :=
  if c = '%' then ['%', '%'] else [c]

/-- A character other than the percent sign is a token. -/
theorem tokens_cons {c : Char} (h : c ≠ '%') (rest : List Char) :
    tokens (c :: rest) = .char c :: tokens rest := by
  rw [tokens]
  all_goals
    intros
    contradiction

/-- **Doubled percent signs are read as they were meant.** -/
theorem tokens_flatMap_doubled (text : List Char) :
    tokens (text.flatMap doubled) = text.map .char := by
  induction text with
  | nil => rfl
  | cons c rest ih =>
    rw [List.flatMap_cons, List.map_cons, ← ih]
    by_cases hc : c = '%'
    · subst hc
      rfl
    · rw [doubled, if_neg hc, List.singleton_append, tokens_cons hc]

/-! ## Writing a message -/

/-- A part of the text of a message. -/
inductive Part where
  /-- What the template or the formatter says. -/
  | text (s : String)
  /-- An argument. -/
  | argument (s : String)
deriving DecidableEq

/-- What is written for a part: an argument is written as it is. -/
def Part.written : Part → String
  | text s => s
  | argument s => s

/-- The argument that a part is. -/
def Part.argument? : Part → Option String
  | text _ => none
  | argument s => some s

/-- The part for a token, given the argument for it if it is a slot. Without an argument a slot stays
as it is. -/
def Token.part (argument? : Option String) : Token → Part
  | char c => .text (String.singleton c)
  | slot => argument?.elim (.text "%s") .argument

/-- The parts of a text: one for each token, where a slot takes the argument of its own number among
the slots, and after them the arguments for which there is no slot, each after a space. -/
def parts (arguments : List String) (tokens : List Token) : List Part :=
  tokens.mapIdx (fun i token => token.part arguments[(tokens.take i).count .slot]?) ++
    (arguments.drop (tokens.count .slot)).flatMap fun argument => [.text " ", .argument argument]

theorem parts_nil (arguments : List String) :
    parts arguments [] = arguments.flatMap fun argument => [.text " ", .argument argument] := rfl

/-- A character takes no argument. -/
theorem parts_char (arguments : List String) (c : Char) (rest : List Token) :
    parts arguments (.char c :: rest) =
      .text (String.singleton c) :: parts arguments rest := by
  have hcount (tokens : List Token) : (.char c :: tokens).count .slot = tokens.count .slot :=
    List.count_cons_of_ne (by simp)
  simp only [parts, List.mapIdx_cons, List.take_succ_cons, hcount, Token.part, List.cons_append]

/-- A slot takes the first argument. -/
theorem parts_slot_cons (argument : String) (arguments : List String) (rest : List Token) :
    parts (argument :: arguments) (.slot :: rest) = .argument argument :: parts arguments rest := by
  have hfirst : (Token.slot).part (argument :: arguments)[([] : List Token).count .slot]? =
      .argument argument := rfl
  simp only [parts, List.mapIdx_cons, List.take_zero, List.take_succ_cons, List.count_cons_self,
    List.getElem?_cons_succ, List.drop_succ_cons, hfirst, List.cons_append]

/-- Without arguments it stays as it is. -/
theorem parts_slot_nil (rest : List Token) :
    parts [] (.slot :: rest) = .text "%s" :: parts [] rest := by
  simp only [parts, List.mapIdx_cons, List.getElem?_nil, Token.part, Option.elim_none,
    List.drop_nil, List.cons_append]

/-- **The arguments among the parts are those that were given**, each once and in their order. -/
theorem arguments_parts (arguments : List String) (tokens : List Token) :
    (parts arguments tokens).filterMap Part.argument? = arguments := by
  induction tokens generalizing arguments with
  | nil =>
    rw [parts_nil, List.filterMap_flatMap]
    exact List.flatMap_singleton' arguments
  | cons token rest ih =>
    cases token with
    | char c => rw [parts_char, List.filterMap_cons_none rfl, ih]
    | slot =>
      cases arguments with
      | nil => rw [parts_slot_nil, List.filterMap_cons_none rfl, ih]
      | cons argument arguments =>
        have hargument : (Part.argument argument).argument? = some argument := rfl
        rw [parts_slot_cons, List.filterMap_cons_some hargument, ih]

/-- Characters that stand for themselves are written one after the other. -/
theorem parts_chars (arguments : List String) (text : List Char) (rest : List Token) :
    parts arguments (text.map .char ++ rest) =
      text.map (fun c => .text (String.singleton c)) ++ parts arguments rest := by
  induction text with
  | nil => rfl
  | cons c text ih =>
    rw [List.map_cons, List.cons_append, parts_char, ih, List.map_cons, List.cons_append]

/-! ## Filling the slots -/

/-- **Filling the slots of a template writes its parts.** The induction goes along the template as
it is read. -/
theorem fillSlots_eq (template : List Char) (arguments : List String) :
    fillSlots template (arguments.map String.toList) =
      (parts arguments (tokens template)).flatMap fun part => part.written.toList := by
  fun_induction tokens template generalizing arguments with
  | case1 rest ih =>
    -- a slot takes an argument away from those for the rest, if there is one
    cases arguments with
    | nil =>
      rw [parts_slot_nil, List.flatMap_cons, ← ih, List.map_nil, fillSlots]
      rfl
    | cons argument arguments =>
      rw [parts_slot_cons, List.flatMap_cons, ← ih, List.map_cons, fillSlots]
      rfl
  | case2 rest ih =>
    have hwritten : (Part.text (String.singleton '%')).written.toList = ['%'] := rfl
    rw [parts_char, List.flatMap_cons, ← ih, fillSlots, hwritten, List.singleton_append]
  | case3 c rest hslot hpercent ih =>
    have hwritten : (Part.text (String.singleton c)).written.toList = [c] :=
      String.toList_singleton c
    -- no slot and no doubled percent sign begins here, so the character is copied
    have hcopied : fillSlots (c :: rest) (arguments.map String.toList) =
        c :: fillSlots rest (arguments.map String.toList) := by
      rw [fillSlots]
      · exact hpercent
      · exact fun rest' _ _ _ => hslot rest'
      · exact fun rest' _ => hslot rest'
    rw [parts_char, List.flatMap_cons, ← ih, hcopied, hwritten, List.singleton_append]
  | case4 =>
    rw [parts_nil, fillSlots, List.flatMap_map, List.flatMap_assoc]
    simp [Part.written]

/-- A message is written part by part. -/
theorem fill_eq_join (message : Message) : fill message =
    String.join ((parts message.arguments (tokens message.template.toList)).map Part.written) := by
  rw [← String.toList_inj, fill, String.toList_ofList, fillSlots_eq, String.toList_join,
    List.flatMap_map]

/-- **A message loses, repeats and reinterprets nothing.** Its text is that of the parts of its
template, read from left to right: the characters in their order, each slot replaced by the argument
of its number or left as it is, and after them a space and the argument for each argument without a
slot. The arguments among the parts are those of the message, each once and in their order, whatever
characters they hold. And a text in which every percent sign is doubled is a template for the text.
-/
theorem fill_lossless :
    (∀ message : Message,
      let parts := parts message.arguments (tokens message.template.toList)
      fill message = String.join (parts.map Part.written) ∧
        parts.filterMap Part.argument? = message.arguments) ∧
    ∀ text : String, fill ⟨String.ofList (text.toList.flatMap doubled), []⟩ = text := by
  refine ⟨fun message => ⟨fill_eq_join message, arguments_parts _ _⟩, fun text => ?_⟩
  have hparts : parts [] (text.toList.map .char) =
      text.toList.map fun c => .text (String.singleton c) := by
    simpa [parts_nil] using parts_chars [] text.toList []
  rw [fill_eq_join, String.toList_ofList, tokens_flatMap_doubled, hparts, List.map_map,
    ← String.toList_inj, String.toList_join, List.flatMap_map]
  simp [Part.written]

example : fill ⟨"%%%s of %s, %d%", ["5%s"]⟩ = "%5%s of %s, %d%" := by decide

end Message

end Rulebook
