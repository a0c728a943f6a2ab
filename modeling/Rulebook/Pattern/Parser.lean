import Rulebook.Pattern.Node
import Rulebook.Text.Hex
import Rulebook.Unicode.Names

/-!
# Reading patterns

`Pattern.Node.ofChars?` reads the text of a regular expression. A lone closing bracket or brace
stands for itself, a lone opening brace is refused; letters and digits may follow a backslash only
where they have a meaning, so that references to groups are refused, and so are conditions on the
text ahead or behind.

The mutually recursive readers take a bound on the number of their steps, which the length of the
text supplies. `verbose` tells whether blanks and comments are being ignored; a group puts it back
at its end.
-/

namespace Rulebook

namespace Pattern

namespace Parser

/-! ## Blanks and comments -/

/-- The text after leading blanks and comments; `inComment` tells whether it starts within one. -/
def skipIgnored : (inComment : Bool) → List Char → List Char
  | _, [] => []
  | true, c :: s => if c = '\n' then skipIgnored false s else skipIgnored true s
  | false, c :: s =>
    if Text.isBlank c then skipIgnored false s
    else if c = '#' then skipIgnored true s
    else c :: s

/-- The text after what a verbose pattern ignores. -/
def skip (verbose : Bool) (s : List Char) : List Char :=
  if verbose then skipIgnored false s else s

/-! ## Escapes -/

/-- The characters that have a meaning of their own somewhere. -/
def isMeta (c : Char) : Bool :=
  "\\.+*?()|[]\x7b\x7d^$#&-~".toList.contains c

/-- Whether a character may follow a backslash to stand for itself: any ASCII character but letters,
digits and the angle brackets. -/
def isEscapable (c : Char) : Bool :=
  isMeta c || (c.toNat < 0x80 && !c.isAlphanum && c ≠ '<' && c ≠ '>')

/-- What a backslash and what follows it mean. -/
inductive Escape where
  /-- One character; `byte` tells that it is written as `\x` and two digits. -/
  | literal (c : Char) (byte : Bool)
  /-- A property. -/
  | property (set : CodeSet) (negated : Bool)
  /-- A class with a letter of its own. -/
  | letter (l : Letter) (negated : Bool)
  /-- A condition on the place. -/
  | anchor (a : Anchor)

/-- The character of a code point. -/
def charOf? (n : Nat) : Option Char :=
  if h : n.isValidChar then some (Char.ofNatAux n h) else none

/-- `count` hexadecimal digits and the rest. -/
def hexDigits? (verbose : Bool) : (count : Nat) → List Char → Option (List Char × List Char)
  | 0, s => some ([], s)
  | count + 1, c :: s => do
    let _ ← Text.hexValue? c
    let (ds, rest) ← hexDigits? verbose count (skip verbose s)
    return (c :: ds, rest)
  | _ + 1, [] => none

/-- The hexadecimal digits up to a closing brace, and the rest after it. -/
def bracedHex? (verbose : Bool) : (steps : Nat) → List Char → Option (List Char × List Char)
  | 0, _ => none
  | steps + 1, s =>
    match skip verbose s with
    | '\x7d' :: rest => some ([], skip verbose rest)
    | c :: s => do
      let _ ← Text.hexValue? c
      let (ds, rest) ← bracedHex? verbose steps s
      return (c :: ds, rest)
    | [] => none

/-- A character by its code point: in braces, or with `count` digits. -/
def hex? (verbose : Bool) (count : Nat) (s : List Char) : Option (Escape × List Char) := do
  match skip verbose s with
  | '\x7b' :: s =>
    let (ds, rest) ← bracedHex? verbose (s.length + 1) s
    if ds.isEmpty then none
    else return (.literal (← charOf? (← Text.hexNumber? ds)) false, rest)
  | s =>
    let (ds, rest) ← hexDigits? verbose count s
    return (.literal (← charOf? (← Text.hexNumber? ds)) (count = 2), rest)

/-- The text before the first occurrence of `separator`, and the text after it. -/
def splitAt? (separator : List Char) : List Char → Option (List Char × List Char)
  | [] => none
  | c :: s =>
    if separator.isPrefixOf (c :: s) then some ([], (c :: s).drop separator.length)
    else (splitAt? separator s).map fun (before, after) => (c :: before, after)

/-- The set that the text in the braces of a property stands for, and whether it is meant negated.
-/
def propertyText? (name : List Char) : Option (CodeSet × Bool) :=
  match splitAt? ['!', '='] name with
  | some (property, value) => (CodeSet.propertyValue? property value).map (·, true)
  | none =>
    match splitAt? [':'] name with
    | some (property, value) => (CodeSet.propertyValue? property value).map (·, false)
    | none =>
      match splitAt? ['='] name with
      | some (property, value) => (CodeSet.propertyValue? property value).map (·, false)
      | none => (CodeSet.property? name).map (·, false)

/-- The text up to a closing brace, and the rest after it. -/
def braced? (verbose : Bool) : (steps : Nat) → List Char → Option (List Char × List Char)
  | 0, _ => none
  | steps + 1, s =>
    match skip verbose s with
    | '\x7d' :: rest => some ([], rest)
    | c :: s => (braced? verbose steps s).map fun (name, rest) => (c :: name, rest)
    | [] => none

/-- The property after `\p` or `\P`. -/
def property? (verbose negated : Bool) (s : List Char) : Option (Escape × List Char) := do
  match skip verbose s with
  | '\x7b' :: s =>
    let (name, rest) ← braced? verbose (s.length + 1) s
    let (set, unequal) ← propertyText? name
    return (.property set (negated != unequal), rest)
  | c :: s =>
    if c = '\\' then none
    else return (.property (← CodeSet.property? [c]) negated, s)
  | [] => none

/-- The characters that may name a special boundary. -/
def isBoundaryChar (c : Char) : Bool :=
  c.isAlpha || c = '-'

/-- The name of a special boundary up to its closing brace, and the rest after it. -/
def boundaryName? (verbose : Bool) : (steps : Nat) → List Char → Option (List Char × List Char)
  | 0, _ => none
  | steps + 1, s =>
    match skip verbose s with
    | '\x7d' :: rest => some ([], rest)
    | c :: s =>
      if isBoundaryChar c then
        (boundaryName? verbose steps s).map fun (name, rest) => (c :: name, rest)
      else none
    | [] => none

/-- The boundary after `\b`: a special one in braces, unless what follows the brace cannot name one,
so that the brace belongs to a repetition. -/
def boundary? (verbose : Bool) (s : List Char) : Option (Anchor × List Char) := do
  match s with
  | '\x7b' :: inside =>
    match skip verbose inside with
    | [] => none
    | c :: _ =>
      if isBoundaryChar c then
        let (name, rest) ← boundaryName? verbose (inside.length + 1) inside
        match String.ofList name with
        | "start" => return (.wordStart, rest)
        | "end" => return (.wordEnd, rest)
        | "start-half" => return (.wordStartHalf, rest)
        | "end-half" => return (.wordEndHalf, rest)
        | _ => none
      else return (.wordBoundary, s)
  | _ => return (.wordBoundary, s)

/-- What follows a backslash. -/
def escape? (verbose : Bool) : List Char → Option (Escape × List Char)
  | [] => none
  | c :: s =>
    match c with
    | 'x' => hex? verbose 2 s
    | 'u' => hex? verbose 4 s
    | 'U' => hex? verbose 8 s
    | 'p' => property? verbose false s
    | 'P' => property? verbose true s
    | 'd' => some (.letter .digit false, s)
    | 's' => some (.letter .blank false, s)
    | 'w' => some (.letter .word false, s)
    | 'D' => some (.letter .digit true, s)
    | 'S' => some (.letter .blank true, s)
    | 'W' => some (.letter .word true, s)
    | 'a' => some (.literal '\x07' false, s)
    | 'f' => some (.literal '\x0c' false, s)
    | 't' => some (.literal '\t' false, s)
    | 'n' => some (.literal '\n' false, s)
    | 'r' => some (.literal '\r' false, s)
    | 'v' => some (.literal '\x0b' false, s)
    | 'A' => some (.anchor .textStart, s)
    | 'z' => some (.anchor .textEnd, s)
    | 'B' => some (.anchor .notWordBoundary, s)
    | '<' => some (.anchor .wordStart, s)
    | '>' => some (.anchor .wordEnd, s)
    | 'b' => (boundary? verbose s).map fun (a, rest) => (.anchor a, rest)
    | c => if isEscapable c then some (.literal c false, s) else none

/-! ## Bracketed classes -/

/-- The ranges of a named ASCII class. -/
def asciiClass? : String → Option (List Unicode.CodeRange)
  | "alnum" => some [(0x30, 0x39), (0x41, 0x5A), (0x61, 0x7A)]
  | "alpha" => some [(0x41, 0x5A), (0x61, 0x7A)]
  | "ascii" => some [(0x00, 0x7F)]
  | "blank" => some [(0x09, 0x09), (0x20, 0x20)]
  | "cntrl" => some [(0x00, 0x1F), (0x7F, 0x7F)]
  | "digit" => some [(0x30, 0x39)]
  | "graph" => some [(0x21, 0x7E)]
  | "lower" => some [(0x61, 0x7A)]
  | "print" => some [(0x20, 0x7E)]
  | "punct" => some [(0x21, 0x2F), (0x3A, 0x40), (0x5B, 0x60), (0x7B, 0x7E)]
  | "space" => some [(0x09, 0x0D), (0x20, 0x20)]
  | "upper" => some [(0x41, 0x5A)]
  | "word" => some [(0x30, 0x39), (0x41, 0x5A), (0x5F, 0x5F), (0x61, 0x7A)]
  | "xdigit" => some [(0x30, 0x39), (0x41, 0x46), (0x61, 0x66)]
  | _ => none

/-- The named class at an inner opening bracket, if the text after the bracket writes one. -/
def namedClass? : List Char → Option (ClassNode × List Char)
  | ':' :: s => do
    let (negated, s) := match s with
      | '^' :: s => (true, s)
      | s => (false, s)
    match s.dropWhile (· ≠ ':') with
    | ':' :: ']' :: rest =>
      let ranges ← asciiClass? (String.ofList (s.takeWhile (· ≠ ':')))
      return (.ascii ranges negated, rest)
    | _ => none
  | _ => none

/-- The parts of a class side by side, as one. -/
def ofParts : List ClassNode → ClassNode
  | [] => .empty
  | [part] => part
  | parts => .items parts

/-- Applies a pending operation, if there is one, to its right-hand side. -/
def applyPending (pending : Option (SetOp × ClassNode)) (right : ClassNode) : ClassNode :=
  match pending with
  | some (operation, left) => .op operation left right
  | none => right

/-- A single part of a class or an end of a range. -/
def classAtom? (verbose : Bool) : List Char → Option (Escape × List Char)
  | '\\' :: s => escape? verbose s
  | c :: s => some (.literal c false, s)
  | [] => none

/-- The next character at a glance. In a verbose pattern, blanks and the mark of one comment are
passed over, but not what the comment says. -/
def glance? (verbose : Bool) (s : List Char) : Option Char :=
  if verbose then
    match Text.trimStart s with
    | '#' :: comment => (Text.trimStart comment).head?
    | s => s.head?
  else s.head?

/-- What an escape means as a part of a class. -/
def classPart? : Escape → Option ClassNode
  | .literal c byte => some (.literal c byte)
  | .property set negated => some (.property set negated)
  | .letter l negated => some (.letter l negated)
  | .anchor _ => none

/-- A range or a single part of a class. A hyphen makes no range where the next character at a
glance is the closing bracket or another hyphen. -/
def classRange? (verbose : Bool) (s : List Char) : Option (ClassNode × List Char) := do
  let (first, s) ← classAtom? verbose s
  match skip verbose s with
  | [] => none
  | '-' :: s =>
    if glance? verbose s = some ']' ∨ glance? verbose s = some '-' then
      return (← classPart? first, '-' :: s)
    else
      let (last, rest) ← classAtom? verbose (skip verbose s)
      match first, last with
      | .literal a byteA, .literal b byteB =>
        if a.toNat ≤ b.toNat then return (.range a byteA b byteB, rest) else none
      | _, _ => none
  | s => return (← classPart? first, s)

/-- Hyphens at the start of a class stand for themselves. -/
def leadingHyphens (verbose : Bool) : (steps : Nat) → List Char → List ClassNode × List Char
  | 0, s => ([], s)
  | steps + 1, '-' :: s =>
    let (parts, rest) := leadingHyphens verbose steps (skip verbose s)
    (.literal '-' false :: parts, rest)
  | _ + 1, s => ([], s)

/-- The start of a class after its opening bracket: whether it is negated, the parts that only stand
for themselves at its start, and the rest. -/
def classStart (verbose : Bool) (s : List Char) : Bool × List ClassNode × List Char :=
  let (negated, s) := match skip verbose s with
    | '^' :: s => (true, skip verbose s)
    | s => (false, s)
  match leadingHyphens verbose s.length s with
  | ([], ']' :: s) => (negated, [.literal ']' false], s)
  | (parts, s) => (negated, parts, s)

/-- The rest of a class up to and with its closing bracket. `parts` are the parts since the last
operation, the last one first, and `pending` is that operation with what stands to its left. -/
def classBody? (verbose : Bool) : (steps : Nat) → (pending : Option (SetOp × ClassNode)) →
    (parts : List ClassNode) → List Char → Option (ClassNode × List Char)
  | 0, _, _, _ => none
  | steps + 1, pending, parts, s =>
    let done := fun (_ : Unit) => applyPending pending (ofParts parts.reverse)
    match skip verbose s with
    | [] => none
    | ']' :: s => some (done (), s)
    | '[' :: s =>
      match namedClass? s with
      | some (part, rest) => classBody? verbose steps pending (part :: parts) rest
      | none => do
        let (negated, inner, s) := classStart verbose s
        let (body, rest) ← classBody? verbose steps none inner.reverse s
        classBody? verbose steps pending (.bracket negated body :: parts) rest
    | '&' :: '&' :: s => classBody? verbose steps (some (.inter, done ())) [] s
    | '-' :: '-' :: s => classBody? verbose steps (some (.diff, done ())) [] s
    | '~' :: '~' :: s => classBody? verbose steps (some (.symmDiff, done ())) [] s
    | s => do
      let (part, rest) ← classRange? verbose s
      classBody? verbose steps pending (part :: parts) rest

/-- The bracketed class after its opening bracket. -/
def class? (verbose : Bool) (s : List Char) : Option (Node × List Char) := do
  let (negated, parts, s) := classStart verbose s
  let (body, rest) ← classBody? verbose (s.length + 1) none parts.reverse s
  return (.bracket negated body, rest)

/-! ## Repetitions -/

/-- The leading digits of a count, and the rest. -/
def countDigits (verbose : Bool) : (steps : Nat) → List Char → List Char × List Char
  | 0, s => ([], s)
  | steps + 1, c :: s =>
    if c.isDigit then
      let (ds, rest) := countDigits verbose steps (skip verbose s)
      (c :: ds, rest)
    else ([], c :: s)
  | _ + 1, [] => ([], [])

/-- A count of 32 bits with blanks around it, and the rest. -/
def count? (verbose : Bool) (s : List Char) : Option (Nat × List Char) :=
  let s := Text.trimStart s
  let (ds, rest) := countDigits verbose s.length s
  let n := ds.foldl (fun n c => 10 * n + (c.toNat - 48)) 0
  if ds.isEmpty ∨ 2 ^ 32 ≤ n then none else some (n, Text.trimStart rest)

/-- The bounds of a repetition in braces, after the opening brace. -/
def bounds? (verbose : Bool) (s : List Char) : Option (Nat × Option Nat × List Char) := do
  let (least, s) ← count? verbose (skip verbose s)
  match s with
  | '\x7d' :: rest => return (least, some least, rest)
  | ',' :: s =>
    match skip verbose s with
    | '\x7d' :: rest => return (least, none, rest)
    | s =>
      let (most, s) ← count? verbose s
      match s with
      | '\x7d' :: rest => if least ≤ most then return (least, some most, rest) else none
      | _ => none
  | _ => none

/-- Repeats the last part read; there must be one, and switching flags is none. A question mark
that follows makes the repetition lazy. The text after all that is the second part. -/
def repeatLast? (least : Nat) (most : Option Nat) (parts : List Node) (s : List Char) :
    Option (List Node × List Char) :=
  match parts with
  | [] => none
  | .switch _ :: _ => none
  | part :: parts =>
    match s with
    | '?' :: s => some (.repetition part least most true :: parts, s)
    | s => some (.repetition part least most false :: parts, s)

/-! ## Groups -/

/-- The flag of a letter. -/
def flagOf? : Char → Option Flag
  | 'i' => some .ignoreCase
  | 'm' => some .multiLine
  | 's' => some .dotAll
  | 'U' => some .swapGreed
  | 'u' => some .unicode
  | 'R' => some .carriageReturn
  | 'x' => some .verbose
  | _ => none

/-- The flags up to `:` or `)`, the rest starting with that character. No flag may be given twice,
there is at most one minus sign, and it stands before a flag. -/
def switches? : (negated : Bool) → (seen : List (Flag × Bool)) → List Char →
    Option (List (Flag × Bool) × List Char)
  | _, _, [] => none
  | negated, seen, c :: s =>
    if c = ':' ∨ c = ')' then some (seen.reverse, c :: s)
    else if c = '-' then
      match s with
      | ':' :: _ => none
      | ')' :: _ => none
      | s => if negated then none else switches? true seen s
    else do
      let flag ← flagOf? c
      if seen.any (·.1 = flag) then none
      else switches? negated ((flag, !negated) :: seen) s

/-- Whether a character may start the name of a group. -/
def isNameStart (c : Char) : Bool :=
  c = '_' || CodeSet.alphabetic.contains c.toNat

/-- Whether a character may continue the name of a group. -/
def isNameChar (c : Char) : Bool :=
  isNameStart c || c = '.' || c = '[' || c = ']' || CodeSet.numbers.contains c.toNat

/-- The name of a group up to `>`, and the rest after it. -/
def groupName? (s : List Char) : Option (String × List Char) :=
  match s.takeWhile isNameChar, s.dropWhile isNameChar with
  | c :: name, '>' :: rest => if isNameStart c then some (String.ofList (c :: name), rest) else none
  | _, _ => none

/-- What an opening parenthesis opens. -/
inductive Opening where
  /-- A switch of flags, already closed. -/
  | switch (switches : List (Flag × Bool))
  /-- A capturing group. -/
  | capture (name : Option String)
  /-- A group with flags. -/
  | group (switches : List (Flag × Bool))

/-- What the text after an opening parenthesis opens, and the rest. -/
def opening? (s : List Char) : Option (Opening × List Char) := do
  match s with
  | '?' :: '=' :: _ => none
  | '?' :: '!' :: _ => none
  | '?' :: '<' :: '=' :: _ => none
  | '?' :: '<' :: '!' :: _ => none
  | '?' :: 'P' :: '<' :: s =>
    let (name, rest) ← groupName? s
    return (.capture (some name), rest)
  | '?' :: '<' :: s =>
    let (name, rest) ← groupName? s
    return (.capture (some name), rest)
  | '?' :: s =>
    let (switches, s) ← switches? false [] s
    match s with
    | ')' :: rest => if switches.isEmpty then none else return (.switch switches, rest)
    | ':' :: rest => return (.group switches, rest)
    | _ => none
  | s => return (.capture none, s)

/-- Whether blanks are ignored after some switches. -/
def verboseAfter (verbose : Bool) (switches : List (Flag × Bool)) : Bool :=
  match switches.find? (·.1 = .verbose) with
  | some (_, on) => on
  | none => verbose

/-! ## Expressions -/

/-- Parts one after the other, as one. -/
def sequenceOf : List Node → Node
  | [] => .empty
  | [part] => part
  | parts => .sequence parts

/-- The expression that an escape means. -/
def nodeOf : Escape → Node
  | .literal c byte => .literal c byte
  | .property set negated => .property set negated
  | .letter l negated => .letter l negated
  | .anchor a => .anchor a

mutual

/-- The alternatives up to a closing parenthesis or the end, and the rest. -/
def alternatives? : (steps : Nat) → (verbose : Bool) → List Char → Option (List Node × List Char)
  | 0, _, _ => none
  | steps + 1, verbose, s => do
    let (part, verbose, s) ← parts? steps verbose [] s
    match s with
    | '|' :: s =>
      let (others, rest) ← alternatives? steps verbose s
      return (part :: others, rest)
    | s => return ([part], s)

/-- The parts up to a bar, a closing parenthesis or the end, after those in `done`, the last one
first; whether blanks are ignored by then; and the rest. -/
def parts? : (steps : Nat) → (verbose : Bool) → (done : List Node) → List Char →
    Option (Node × Bool × List Char)
  | 0, _, _, _ => none
  | steps + 1, verbose, done, s =>
    match skip verbose s with
    | [] => some (sequenceOf done.reverse, verbose, [])
    | '|' :: s => some (sequenceOf done.reverse, verbose, '|' :: s)
    | ')' :: s => some (sequenceOf done.reverse, verbose, ')' :: s)
    | '(' :: s => do
      let (opening, s) ← opening? (skip verbose s)
      match opening with
      | .switch switches =>
        parts? steps (verboseAfter verbose switches) (.switch switches :: done) s
      | .capture name =>
        let (body, rest) ← body? steps verbose s
        parts? steps verbose (.capture name body :: done) rest
      | .group switches =>
        let (body, rest) ← body? steps (verboseAfter verbose switches) s
        parts? steps verbose (.group switches body :: done) rest
    | '[' :: s => do
      let (part, rest) ← class? verbose s
      parts? steps verbose (part :: done) rest
    | '?' :: s => do
      let (done, rest) ← repeatLast? 0 (some 1) done s
      parts? steps verbose done rest
    | '*' :: s => do
      let (done, rest) ← repeatLast? 0 none done s
      parts? steps verbose done rest
    | '+' :: s => do
      let (done, rest) ← repeatLast? 1 none done s
      parts? steps verbose done rest
    | '\x7b' :: s => do
      let (least, most, s) ← bounds? verbose s
      let (done, rest) ← repeatLast? least most done (skip verbose s)
      parts? steps verbose done rest
    | '\\' :: s => do
      let (escape, rest) ← escape? verbose s
      parts? steps verbose (nodeOf escape :: done) rest
    | '.' :: s => parts? steps verbose (.dot :: done) s
    | '^' :: s => parts? steps verbose (.anchor .caret :: done) s
    | '$' :: s => parts? steps verbose (.anchor .dollar :: done) s
    | c :: s => parts? steps verbose (.literal c false :: done) s

/-- The inside of a group up to its closing parenthesis, and the rest after it. -/
def body? : (steps : Nat) → (verbose : Bool) → List Char → Option (Node × List Char)
  | 0, _, _ => none
  | steps + 1, verbose, s => do
    let (parts, s) ← alternatives? steps verbose s
    match parts, s with
    | [part], ')' :: rest => return (part, rest)
    | parts, ')' :: rest => return (.choice parts, rest)
    | _, _ => none

end

end Parser

/-- The regular expression that a text writes, if it writes one. -/
def Node.ofChars? (s : List Char) : Option Node := do
  let (parts, rest) ← Parser.alternatives? (3 * s.length + 3) false s
  let node := match parts with
    | [part] => part
    | parts => .choice parts
  if rest.isEmpty ∧ node.groupNames.Nodup ∧ node.height ≤ heightLimit then some node else none

end Pattern

end Rulebook
