import Rulebook.Pattern.Automaton
import Rulebook.Pattern.Expr
import Rulebook.Pattern.Node
import Rulebook.Unicode.Properties

/-!
# What a pattern means under its flags

`Pattern.Node.resolve?` turns a written expression into one that is ready for matching. It carries
the flags along: a switch holds to the end of the group that it stands in, through later
alternatives too. There is no answer for what cannot be meant: a class beyond ASCII where `u` is
off, and a pattern whose automaton is too large.

Under `i`, a class is closed under simple case folding before it is negated.
-/

namespace Rulebook

namespace Pattern

/-! ## Flags -/

/-- Which flags are on. -/
abbrev Flags := Flag → Bool

namespace Flags

/-- At first only `u` is on. -/
def initial : Flags := fun flag => flag = .unicode

/-- Flags with one of them put on or off. -/
def put (flags : Flags) (flag : Flag) (on : Bool) : Flags :=
  fun other => if other = flag then on else flags other

/-- Flags after some switches. -/
def switch (flags : Flags) (switches : List (Flag × Bool)) : Flags :=
  switches.foldl (fun flags (flag, on) => flags.put flag on) flags

end Flags

/-! ## Sets -/

/-- The ASCII code points. -/
def ascii : CodeSet := .range 0 0x7F

/-- The code points of one byte that are not ASCII. -/
def highBytes : List Nat := (List.range 0x80).map (· + 0x80)

/-- A set under the flag `i`. -/
def foldedUnder (flags : Flags) (set : CodeSet) : CodeSet :=
  if flags .ignoreCase then
    if flags .unicode then .folded set else .inter (.folded set) ascii
  else set

/-- A set or what is not in it. -/
def negatedIf (negated : Bool) (set : CodeSet) : CodeSet :=
  if negated then .compl set else set

/-- A class after folding and negation. Where `u` is off it may only hold ASCII. -/
def finished? (flags : Flags) (negated : Bool) (set : CodeSet) : Option CodeSet :=
  let set := negatedIf negated (foldedUnder flags set)
  if !flags .unicode && highBytes.any set.contains then none else some set

/-- The set of a class with a letter of its own. -/
def Letter.set (unicode : Bool) : Letter → CodeSet
  | digit => if unicode then CodeSet.digit else .range 0x30 0x39
  | blank => if unicode then CodeSet.blank else .ranges [(0x09, 0x0D), (0x20, 0x20)]
  | word =>
    if unicode then CodeSet.word
    else .ranges [(0x30, 0x39), (0x41, 0x5A), (0x5F, 0x5F), (0x61, 0x7A)]

/-- A class with a letter of its own; it is closed under folding already. -/
def letterSet? (flags : Flags) (l : Letter) (negated : Bool) : Option CodeSet :=
  if negated && !flags .unicode then none
  else some (negatedIf negated (l.set (flags .unicode)))

/-- A property, which `u` must allow. -/
def propertySet? (flags : Flags) (set : CodeSet) (negated : Bool) : Option CodeSet :=
  if flags .unicode then some (negatedIf negated (foldedUnder flags set)) else none

/-- A character inside a class: where `u` is off it must be ASCII. -/
def classChar? (flags : Flags) (c : Char) : Option Nat :=
  if flags .unicode || c.toNat < 0x80 then some c.toNat else none

mutual

/-- The set of what stands inside a bracketed class. -/
def ClassNode.resolve? (flags : Flags) : ClassNode → Option CodeSet
  | .empty => some .empty
  | .literal c _ => (classChar? flags c).map .single
  | .range first _ last _ => do
    return .range (← classChar? flags first) (← classChar? flags last)
  | .ascii ranges negated => finished? flags negated (.ranges ranges)
  | .property set negated => propertySet? flags set negated
  | .letter l negated => letterSet? flags l negated
  | .bracket negated body => do finished? flags negated (← body.resolve? flags)
  | .items parts => do return .unions (← ClassNode.resolveAll? flags parts)
  | .op operation left right => do
    let left := foldedUnder flags (← left.resolve? flags)
    let right := foldedUnder flags (← right.resolve? flags)
    match operation with
    | .inter => return .inter left right
    | .diff => return .diff left right
    | .symmDiff => return .symmDiff left right

/-- The sets of some parts of a class. -/
def ClassNode.resolveAll? (flags : Flags) : List ClassNode → Option (List CodeSet)
  | [] => some []
  | part :: rest => do
    let set ← part.resolve? flags
    return set :: (← ClassNode.resolveAll? flags rest)

end

/-! ## Expressions -/

/-- A single character. Where `u` is off, one written as a byte must be ASCII, and so must any under
`i`. -/
def literal? (flags : Flags) (c : Char) (byte : Bool) : Option CodeSet :=
  if !flags .unicode && 0x80 ≤ c.toNat && (byte || flags .ignoreCase) then none
  else some (foldedUnder flags (.single c.toNat))

/-- What `.` matches. -/
def dot? (flags : Flags) : Option CodeSet :=
  if !flags .unicode then none
  else if flags .dotAll then some (.compl .empty)
  else if flags .carriageReturn then some (.compl (.ranges [(0x0A, 0x0A), (0x0D, 0x0D)]))
  else some (.compl (.single 0x0A))

/-- The condition that an anchor stands for. -/
def Anchor.look (flags : Flags) : Anchor → Look
  | caret =>
    if flags .multiLine then if flags .carriageReturn then .anyLineStart else .lineStart
    else .textStart
  | dollar =>
    if flags .multiLine then if flags .carriageReturn then .anyLineEnd else .lineEnd
    else .textEnd
  | textStart => .textStart
  | textEnd => .textEnd
  | wordBoundary => .boundary (Letter.word.set (flags .unicode))
  | notWordBoundary => .noBoundary (Letter.word.set (flags .unicode))
  | wordStart => .wordStart (Letter.word.set (flags .unicode))
  | wordEnd => .wordEnd (Letter.word.set (flags .unicode))
  | wordStartHalf => .wordStartHalf (Letter.word.set (flags .unicode))
  | wordEndHalf => .wordEndHalf (Letter.word.set (flags .unicode))

/-- What an expression means: what it matches, and the shape that tells its size. -/
structure Meaning where
  /-- What it matches. -/
  expr : Expr
  /-- Its shape. -/
  shape : Shape

namespace Meaning

/-- Nothing. -/
def empty : Meaning := ⟨.empty, .empty⟩

/-- One character of a set. -/
def one (set : CodeSet) : Meaning := ⟨.one set, .ofRanges set.toRanges⟩

/-- A condition on the place. -/
def look (condition : Look) : Meaning := ⟨.look condition, .look condition⟩

/-- A repetition. -/
def repetition (m : Meaning) (least : Nat) (most : Option Nat) (greedy : Bool) : Meaning :=
  ⟨.repetition m.expr least most, .repeated m.shape least most greedy⟩

/-- A group that captures. -/
def capture (m : Meaning) : Meaning := ⟨m.expr, .capture m.shape⟩

/-- One after the other. -/
def sequence (ms : List Meaning) : Meaning :=
  ⟨.sequence (ms.map expr), .sequenceOf (ms.map shape)⟩

/-- One or the other. -/
def choice (ms : List Meaning) : Meaning :=
  ⟨.choice (ms.map expr), .choiceOf (ms.map shape)⟩

end Meaning

mutual

/-- The meaning of an expression under flags, and the flags after it. -/
def Node.resolveUnder? : Flags → Node → Option (Meaning × Flags)
  | flags, .empty => some (.empty, flags)
  | flags, .switch switches => some (.empty, flags.switch switches)
  | flags, .literal c byte => (literal? flags c byte).map fun set => (.one set, flags)
  | flags, .dot => (dot? flags).map fun set => (.one set, flags)
  | flags, .anchor a => some (.look (a.look flags), flags)
  | flags, .property set negated =>
    (propertySet? flags set negated).map fun set => (.one set, flags)
  | flags, .letter l negated => (letterSet? flags l negated).map fun set => (.one set, flags)
  | flags, .bracket negated body => do
    return (.one (← finished? flags negated (← body.resolve? flags)), flags)
  | flags, .repetition body least most lazy => do
    let (m, flags) ← body.resolveUnder? flags
    return (m.repetition least most (lazy == flags .swapGreed), flags)
  | flags, .capture _ body => do
    let (m, _) ← body.resolveUnder? flags
    return (m.capture, flags)
  | flags, .group switches body => do
    let (m, _) ← body.resolveUnder? (flags.switch switches)
    return (m, flags)
  | flags, .sequence parts => do
    let (ms, flags) ← Node.resolveAllUnder? flags parts
    return (.sequence ms, flags)
  | flags, .choice parts => do
    let (ms, flags) ← Node.resolveAllUnder? flags parts
    return (.choice ms, flags)

/-- The meanings of some expressions, each under the flags after the one before it, and the last
flags. -/
def Node.resolveAllUnder? : Flags → List Node → Option (List Meaning × Flags)
  | flags, [] => some ([], flags)
  | flags, part :: rest => do
    let (m, flags) ← part.resolveUnder? flags
    let (ms, flags) ← Node.resolveAllUnder? flags rest
    return (m :: ms, flags)

end

/-- The meaning of a whole expression, if it has one and its automata are not too large. -/
def Node.resolve? (flags : Flags) (node : Node) : Option Expr := do
  let (m, _) ← node.resolveUnder? flags
  if Automaton.fits m.shape then some m.expr else none

end Pattern

end Rulebook
