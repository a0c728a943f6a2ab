import Rulebook.Proofs.Reports.Lines
import Rulebook.Report.Human
/-!
# Reports — colours

A terminal takes what is written to it apart into characters and escape sequences
(`Report.signals`). A sequence has a code, which is in force from there on, and a code of zero ends
all that are in force. `Report.shown` is what is seen, each character with the codes in force where
it stands, and `Report.uncoloured` is the text without its sequences.

Where no name, field or message holds an escape character, a report is read piece by piece
(`Report.signals_human`): none of its text can be taken for a part of a sequence. What carries the
rest is that nothing is in force between two pieces, since a style ends with its piece
(`Report.inForce_signals`). So each piece is shown in its own style, whatever stands before it.
-/

namespace Rulebook

namespace Report

/-! ## What a terminal reads -/

/-- The character that every escape sequence starts with. -/
def escape : Char :=
  '\x1b'

/-- What a terminal reads. -/
inductive Signal where
  /-- An escape sequence with its code. -/
  | code (n : Nat)
  /-- A character that is shown. -/
  | char (c : Char)
deriving DecidableEq

/-- The code of the sequence whose escape character was just read, with what follows it: a bracket,
the digits of the code, and an `m`. -/
def code? : List Char → Option (Nat × List Char)
  | '[' :: rest =>
    match Decimal.scanDigits rest with
    | (d :: ds, 'm' :: after) => some (Decimal.value (d :: ds), after)
    | _ => none
  | _ => none

/-- A sequence takes up some of the text. -/
theorem length_of_code? {s after : List Char} {n : Nat} (h : code? s = some (n, after)) :
    after.length < s.length := by
  unfold code? at h
  split at h
  case h_2 => cases h
  case h_1 rest =>
    split at h
    case h_2 => cases h
    case h_1 d ds tail hscan =>
      obtain ⟨-, rfl⟩ := Prod.mk.inj (Option.some.inj h)
      have hdrop : rest.dropWhile Char.isDigit = 'm' :: tail := congrArg Prod.snd hscan
      have hle := (List.dropWhile_suffix (l := rest) Char.isDigit).length_le
      rw [hdrop, List.length_cons] at hle
      rw [List.length_cons]
      omega

/-- What a terminal reads in a text, from left to right. An escape character that starts no sequence
is shown. -/
def signals : List Char → List Signal
  | [] => []
  | c :: rest =>
    if c = escape then
      match _h : code? rest with
      | some (n, after) => .code n :: signals after
      | none => .char c :: signals rest
    else .char c :: signals rest
termination_by s => s.length
decreasing_by
  all_goals simp only [List.length_cons]
  · have := length_of_code? _h
    omega
  · omega
  · omega

/-- The character that a signal is. -/
def Signal.char? : Signal → Option Char
  | code _ => none
  | char c => some c

/-- A text without its escape sequences. -/
def uncoloured (text : String) : String :=
  String.ofList ((signals text.toList).filterMap Signal.char?)

/-- The codes in force after a signal: those since the last code of zero. -/
def Signal.after (codes : List Nat) : Signal → List Nat
  | code 0 => []
  | code n => codes ++ [n]
  | char _ => codes

/-- The codes in force after some signals. -/
def inForce (codes : List Nat) (read : List Signal) : List Nat :=
  read.foldl Signal.after codes

/-- What is shown of some signals: each character with the codes in force where it stands. -/
def shown (codes : List Nat) : List Signal → List (Char × List Nat)
  | [] => []
  | .code n :: rest => shown (Signal.after codes (.code n)) rest
  | .char c :: rest => (c, codes) :: shown codes rest

variable {text : List Char}

/-- Text without escape characters is shown as it is. -/
theorem signals_append (h : escape ∉ text) (rest : List Char) :
    signals (text ++ rest) = text.map .char ++ signals rest := by
  induction text with
  | nil => rfl
  | cons c text ih =>
    simp only [List.mem_cons, not_or] at h
    rw [List.cons_append, signals, if_neg (Ne.symm h.1), ih h.2, List.map_cons, List.cons_append]

/-- A sequence is read as its code. -/
theorem signals_sequence (n : Nat) (rest : List Char) :
    signals ((sequence (Decimal.text n)).toList ++ rest) = .code n :: signals rest := by
  have htext : (sequence (Decimal.text n)).toList ++ rest =
      escape :: '[' :: (Decimal.digits n ++ 'm' :: rest) := by
    simp [sequence, escape, Decimal.text]
  -- the digits of the code end at the `m`, and are the code again
  have hcode : code? ('[' :: (Decimal.digits n ++ 'm' :: rest)) = some (n, rest) := by
    have hstop : ∀ c, ('m' :: rest).head? = some c → c.isDigit = false := by
      rintro c hc
      obtain rfl := Option.some.inj hc
      rfl
    have hscan := Decimal.scanDigits_append
      (fun c hc => Decimal.isDigit_of_mem_digits (n := n) hc) hstop
    have hvalue := Decimal.value_digits n
    obtain ⟨d, ds, hdigits⟩ := List.exists_cons_of_ne_nil (Decimal.digits_ne_nil n)
    rw [hdigits] at hscan hvalue ⊢
    rw [code?, hscan]
    exact congrArg (fun value => some (value, rest)) hvalue
  rw [htext, signals, if_pos rfl]
  split
  case h_1 h =>
    obtain ⟨rfl, rfl⟩ := Prod.mk.inj (Option.some.inj (hcode.symm.trans h))
    rfl
  case h_2 h => cases hcode.symm.trans h

/-- So are several, one after the other. -/
theorem signals_sequences (codes : List Nat) (rest : List Char) :
    signals ((String.join (codes.map fun n => sequence (Decimal.text n))).toList ++ rest) =
      codes.map .code ++ signals rest := by
  induction codes with
  | nil => rfl
  | cons n codes ih =>
    rw [List.map_cons, String.join_cons, String.toList_append, List.append_assoc, signals_sequence,
      ih, List.map_cons, List.cons_append]

/-! ## What is seen -/

/-- A text as it is seen with some codes in force. -/
def seen (codes : List Nat) (text : String) : List (Char × List Nat) :=
  text.toList.map (·, codes)

@[simp]
theorem inForce_append (codes : List Nat) (first second : List Signal) :
    inForce codes (first ++ second) = inForce (inForce codes first) second :=
  List.foldl_append

theorem shown_append (codes : List Nat) (first second : List Signal) :
    shown codes (first ++ second) = shown codes first ++ shown (inForce codes first) second := by
  induction first generalizing codes with
  | nil => rfl
  | cons signal rest ih =>
    cases signal with
    | code n => exact ih _
    | char c => exact congrArg ((c, codes) :: ·) (ih codes)

/-- Characters change nothing that is in force. -/
theorem inForce_chars (codes : List Nat) (text : List Char) :
    inForce codes (text.map .char) = codes := by
  induction text with
  | nil => rfl
  | cons c text ih => exact ih

theorem shown_chars (codes : List Nat) (text : List Char) :
    shown codes (text.map .char) = text.map (·, codes) := by
  induction text with
  | nil => rfl
  | cons c text ih => exact congrArg ((c, codes) :: ·) ih

/-! ## Pieces -/

/-- The codes of a style: 1 is bold, and 31, 32 and 33 are red, green and yellow. -/
def Style.codes : Style → List Nat
  | plain => []
  | bold => [1]
  | yellow => [33]
  | boldGreen => [1, 32]
  | boldRed => [1, 31]

/-- The codes that are written before a piece of a style. -/
def Style.opening : Style → List Nat
  | plain => []
  | style => 0 :: style.codes

/-- The codes that are written after it. -/
def Style.closing : Style → List Nat
  | plain => []
  | _ => [0]

theorem Style.start_eq (style : Style) :
    style.start = String.join (style.opening.map fun n => sequence (Decimal.text n)) := by
  cases style <;> decide

theorem Style.stop_eq (style : Style) :
    style.stop = String.join (style.closing.map fun n => sequence (Decimal.text n)) := by
  cases style <;> decide

/-- What a terminal reads in a piece with its style. -/
def Piece.signals (piece : Piece) : List Signal :=
  piece.style.opening.map .code ++ piece.text.toList.map .char ++ piece.style.closing.map .code

variable {piece : Piece}

/-- **A piece is read on its own**, whatever follows it. -/
theorem signals_styled (h : escape ∉ piece.text.toList) (rest : List Char) :
    signals (piece.styled.toList ++ rest) = piece.signals ++ signals rest := by
  simp only [Piece.styled, Piece.signals, Style.start_eq, Style.stop_eq, String.toList_append,
    List.append_assoc, signals_sequences, signals_append h]

/-- So are several. -/
theorem signals_flatMap_styled {pieces : List Piece}
    (h : ∀ piece ∈ pieces, escape ∉ piece.text.toList) :
    signals (pieces.flatMap fun piece => piece.styled.toList) =
      pieces.flatMap Piece.signals := by
  induction pieces with
  | nil => rw [List.flatMap_nil, signals, List.flatMap_nil]
  | cons piece rest ih =>
    rw [List.flatMap_cons, signals_styled (h piece List.mem_cons_self),
      ih fun other hmem => h other (List.mem_cons_of_mem _ hmem), List.flatMap_cons]

/-- **A style ends with its piece.** -/
theorem inForce_signals (piece : Piece) : inForce [] piece.signals = [] := by
  obtain ⟨style, text⟩ := piece
  simp only [Piece.signals, inForce_append, inForce_chars]
  cases style <;> rfl

/-- A piece is seen in its style. -/
theorem shown_signals (piece : Piece) :
    shown [] piece.signals = seen piece.style.codes piece.text := by
  obtain ⟨style, text⟩ := piece
  unfold seen
  simp only [Piece.signals, shown_append, inForce_append, inForce_chars, shown_chars]
  cases style <;> simp [Style.opening, Style.closing, Style.codes, inForce, shown, Signal.after]

/-- Its text is what it has of characters. -/
theorem filterMap_signals (piece : Piece) :
    piece.signals.filterMap Signal.char? = piece.text.toList := by
  have hcodes (codes : List Nat) : (codes.map Signal.code).filterMap Signal.char? = [] := by
    simp [List.filterMap_map, Function.comp_def, Signal.char?]
  have hchars (text : List Char) : (text.map Signal.char).filterMap Signal.char? = text := by
    simp [List.filterMap_map, Function.comp_def, Signal.char?]
  rw [Piece.signals, List.filterMap_append, List.filterMap_append, hcodes, hcodes, hchars,
    List.nil_append, List.append_nil]

/-! ## Reports -/

/-- The name of the file and the fields and messages of its errors are without escape characters. -/
def Unescaped (report : FileReport) : Prop :=
  escape ∉ report.file.toList ∧ ∀ error ∈ report.errors,
    escape ∉ error.message.toList ∧ ∀ field ∈ error.field, escape ∉ field.toList

variable {reports : List FileReport}

/-- No count is written with an escape character. -/
theorem escape_not_mem_text (n : Nat) : escape ∉ (Decimal.text n).toList := by
  rw [Decimal.text, String.toList_ofList]
  intro hmem
  exact absurd (Decimal.isDigit_of_mem_digits hmem) (by decide)

/-- In the line of an error there is none but in the name, the field or the message. -/
theorem escape_not_mem_errorPieces {report : FileReport} (h : Unescaped report)
    {error : FieldError} (herror : error ∈ report.errors) :
    ∀ piece ∈ errorPieces report.file error, escape ∉ piece.text.toList := by
  obtain ⟨hmessage, hfield⟩ := h.2 error herror
  have hcode : escape ∉ error.code.name.toList := by
    cases error.code <;> decide
  have hseparator : escape ∉ ": ".toList := by decide
  have hend : escape ∉ (error.message ++ " (" ++ error.code.name ++ ")\n").toList := by
    simp only [String.toList_append, List.mem_append, not_or]
    exact ⟨⟨⟨hmessage, by decide⟩, hcode⟩, by decide⟩
  unfold errorPieces
  cases hplace : error.field with
  | none =>
    simp only [List.cons_append, List.nil_append, List.forall_mem_cons]
    exact ⟨h.1, hseparator, hend, List.forall_mem_nil _⟩
  | some field =>
    simp only [List.cons_append, List.nil_append, List.forall_mem_cons]
    exact ⟨h.1, hseparator, hfield field hplace, hseparator, hend, List.forall_mem_nil _⟩

/-- There is none in the line of the totals. -/
theorem escape_not_mem_summaryPieces (summary : Summary) :
    ∀ piece ∈ summaryPieces summary, escape ∉ piece.text.toList := by
  unfold summaryPieces
  split
  all_goals
    simp only [List.forall_mem_cons, String.toList_append, List.mem_append, not_or,
      escape_not_mem_text]
    decide

/-- **No piece of the report holds an escape character.** -/
theorem escape_not_mem_pieces (h : ∀ report ∈ reports, Unescaped report) :
    ∀ piece ∈ pieces reports, escape ∉ piece.text.toList := by
  intro piece hpiece
  rcases List.mem_append.1 hpiece with hpiece | hpiece
  · obtain ⟨report, hreport, hpiece⟩ := List.mem_flatMap.1 hpiece
    obtain ⟨error, herror, hpiece⟩ := List.mem_flatMap.1 hpiece
    exact escape_not_mem_errorPieces (h report hreport) herror piece hpiece
  · exact escape_not_mem_summaryPieces _ piece hpiece

/-- **A coloured report is read piece by piece.** -/
theorem signals_human (h : ∀ report ∈ reports, Unescaped report) :
    signals (human true reports).toList = (pieces reports).flatMap Piece.signals := by
  rw [← signals_flatMap_styled (escape_not_mem_pieces h)]
  simp [human, String.toList_join, List.flatMap_map]

/-- **Without its escape sequences a coloured report is the plain one.** -/
theorem uncoloured_human (h : ∀ report ∈ reports, Unescaped report) :
    uncoloured (human true reports) = human false reports := by
  rw [uncoloured, signals_human h, ← String.toList_inj, String.toList_ofList]
  simp [human, List.filterMap_flatMap, filterMap_signals, String.toList_join, List.flatMap_map]

/-- Nothing is in force after some pieces. -/
theorem inForce_flatMap_signals (pieces : List Piece) :
    inForce [] (pieces.flatMap Piece.signals) = [] := by
  induction pieces with
  | nil => rfl
  | cons piece rest ih => rw [List.flatMap_cons, inForce_append, inForce_signals, ih]

/-- So each of them is seen in its own style. -/
theorem shown_flatMap_signals (pieces : List Piece) :
    shown [] (pieces.flatMap Piece.signals) =
      pieces.flatMap fun piece => seen piece.style.codes piece.text := by
  induction pieces with
  | nil => rfl
  | cons piece rest ih =>
    rw [List.flatMap_cons, shown_append, inForce_signals, shown_signals, ih, List.flatMap_cons]

/-- What is to be seen of an error: the file is bold and the field yellow, and all else is plain. -/
def seenError (file : String) (error : FieldError) : List (Char × List Nat) :=
  seen [1] file ++ seen [] ": " ++
    error.field.elim [] (fun field => seen [33] field ++ seen [] ": ") ++
    seen [] (error.message ++ " (" ++ error.code.name ++ ")\n")

/-- What is to be seen of the totals: the verdict is bold, and green or red. -/
def seenTotals (reports : List FileReport) : List (Char × List Nat) :=
  if (found reports).isEmpty then
    seen [1, 32] "Check PASSED" ++
      seen [] (": " ++ Decimal.text reports.length ++ " file(s) valid\n")
  else
    seen [1, 31] "Check FAILED" ++
      seen [] (": " ++ Decimal.text (found reports).length ++ " error(s) in "
        ++ Decimal.text (reports.countP fun report => !report.errors.isEmpty) ++ " of "
        ++ Decimal.text reports.length ++ " file(s)\n")

/-- The pieces of an error are seen so. -/
theorem flatMap_seen_errorPieces (file : String) (error : FieldError) :
    ((errorPieces file error).flatMap fun piece => seen piece.style.codes piece.text) =
      seenError file error := by
  obtain ⟨message, field, code⟩ := error
  cases field <;> simp [errorPieces, seenError, Style.codes]

/-- And so are those of the totals. -/
theorem flatMap_seen_summaryPieces (reports : List FileReport) :
    ((summaryPieces (.ofReports reports)).flatMap fun piece => seen piece.style.codes piece.text) =
      seenTotals reports := by
  rw [summaryPieces, seenTotals, passed_ofReports, totalErrors_ofReports]
  split <;> simp [Style.codes, Summary.ofReports, FileReport.isValid]

/-- **Colours change nothing but the colours.** If no name of a file, no field and no message holds
an escape character, then a coloured report without its escape sequences is the plain one. On a
terminal the files of its errors are seen in bold, the fields in yellow and the verdict in bold and
green or red, and no code is in force in any text between them, or at the end: whatever is set has
ended before. -/
theorem human_colours (h : ∀ report ∈ reports, Unescaped report) :
    uncoloured (human true reports) = human false reports ∧
    shown [] (signals (human true reports).toList) =
      (found reports).flatMap (fun (file, error) => seenError file error) ++ seenTotals reports ∧
    inForce [] (signals (human true reports).toList) = [] := by
  have hpieces : ((pieces reports).flatMap fun piece => seen piece.style.codes piece.text) =
      (found reports).flatMap (fun (file, error) => seenError file error) ++
        seenTotals reports := by
    rw [pieces, List.flatMap_append, flatMap_seen_summaryPieces]
    simp [found, List.flatMap_assoc, List.flatMap_map, flatMap_seen_errorPieces]
  rw [signals_human h]
  exact ⟨uncoloured_human h, (shown_flatMap_signals _).trans hpieces, inForce_flatMap_signals _⟩

/-- A valid file, and one whose name and message look like sequences without being any. -/
def consoleReports : List FileReport :=
  [⟨"a.json", []⟩, ⟨"b[0m.json", [⟨"[31mred", none, .invalidRoot⟩, ⟨"", some "x", .invalid⟩]⟩]

/-- They are left as they are. -/
theorem human_colours_consoleReports :
    (∀ report ∈ consoleReports, Unescaped report) ∧
    uncoloured (human true consoleReports) = "b[0m.json: [31mred (invalid_root)\n" ++
      "b[0m.json: x:  (invalid)\n" ++ "Check FAILED: 2 error(s) in 1 of 2 file(s)\n" ∧
    shown [] (signals (human true consoleReports).toList) =
      seen [1] "b[0m.json" ++ seen [] ": [31mred (invalid_root)\n" ++
      seen [1] "b[0m.json" ++ seen [] ": " ++ seen [33] "x" ++ seen [] ":  (invalid)\n" ++
      seen [1, 31] "Check FAILED" ++ seen [] ": 2 error(s) in 1 of 2 file(s)\n" ∧
    inForce [] (signals (human true consoleReports).toList) = [] := by
  have h : ∀ report ∈ consoleReports, Unescaped report := by
    unfold Unescaped consoleReports
    decide
  obtain ⟨htext, hshown, hend⟩ := human_colours h
  refine ⟨h, ?_, ?_, hend⟩
  · rw [htext]
    decide
  · rw [hshown]
    decide

end Report

end Rulebook
