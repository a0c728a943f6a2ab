import Rulebook.Unicode.CodeSet

/-!
# The written form of patterns

A `Pattern.Node` is a regular expression as it is written, before its flags are taken into account.
Flags may be switched anywhere (`(?i)`), so what a node matches depends on where it stands;
`Pattern.Node.resolve?` works that out. Here are the tree itself, its height, which is limited, and
the names of its groups, which must differ.
-/

namespace Rulebook

namespace Pattern

/-- Switches that change what a pattern means. -/
inductive Flag where
  /-- `i`: letters match in both cases. -/
  | ignoreCase
  /-- `m`: `^` and `$` match at lines. -/
  | multiLine
  /-- `s`: `.` matches a line break too. -/
  | dotAll
  /-- `U`: the greedy and the lazy operators change places. -/
  | swapGreed
  /-- `u`: classes go beyond ASCII. -/
  | unicode
  /-- `R`: lines may end in a carriage return. -/
  | carriageReturn
  /-- `x`: blanks and comments are ignored. -/
  | verbose
deriving DecidableEq

/-- Conditions on a place between characters. -/
inductive Anchor where
  /-- `^`: the start of the text, or of a line. -/
  | caret
  /-- `$`: the end of the text, or of a line. -/
  | dollar
  /-- `\A`: the start of the text. -/
  | textStart
  /-- `\z`: the end of the text. -/
  | textEnd
  /-- `\b`: exactly one side is inside a word. -/
  | wordBoundary
  /-- `\B`: both sides are inside a word, or neither. -/
  | notWordBoundary
  /-- The start of a word. -/
  | wordStart
  /-- The end of a word. -/
  | wordEnd
  /-- No word before. -/
  | wordStartHalf
  /-- No word after. -/
  | wordEndHalf
deriving DecidableEq

/-- The classes with a letter of their own. -/
inductive Letter where
  /-- `\d` -/
  | digit
  /-- `\s` -/
  | blank
  /-- `\w` -/
  | word
deriving DecidableEq

/-- The operations between the parts of a bracketed class. -/
inductive SetOp where
  /-- `&&` -/
  | inter
  /-- `--` -/
  | diff
  /-- `~~` -/
  | symmDiff
deriving DecidableEq

/-- What stands inside a bracketed class. -/
inductive ClassNode where
  /-- Nothing, as beside `&&`. -/
  | empty
  /-- One character; `byte` tells that it is written as `\x` and two digits. -/
  | literal (c : Char) (byte : Bool)
  /-- The characters from the first to the second, each as above. -/
  | range (first : Char) (firstByte : Bool) (last : Char) (lastByte : Bool)
  /-- A named ASCII class, as `[:alpha:]`. -/
  | ascii (ranges : List Unicode.CodeRange) (negated : Bool)
  /-- A property, as `\p` with a name. -/
  | property (set : CodeSet) (negated : Bool)
  /-- A class with a letter of its own. -/
  | letter (l : Letter) (negated : Bool)
  /-- A bracketed class. -/
  | bracket (negated : Bool) (body : ClassNode)
  /-- Several parts side by side. -/
  | items (parts : List ClassNode)
  /-- An operation. -/
  | op (operation : SetOp) (left right : ClassNode)

/-- A regular expression as it is written. -/
inductive Node where
  /-- Nothing. -/
  | empty
  /-- A switch of flags for the rest of the group. -/
  | switch (switches : List (Flag × Bool))
  /-- One character; `byte` tells that it is written as `\x` and two digits. -/
  | literal (c : Char) (byte : Bool)
  /-- `.` -/
  | dot
  /-- A condition on the place. -/
  | anchor (a : Anchor)
  /-- A property, as `\p` with a name. -/
  | property (set : CodeSet) (negated : Bool)
  /-- A class with a letter of its own. -/
  | letter (l : Letter) (negated : Bool)
  /-- A bracketed class. -/
  | bracket (negated : Bool) (body : ClassNode)
  /-- A repetition, at least and at most so many times; `lazy` tells that it is marked to take as
  few as it can. -/
  | repetition (body : Node) (least : Nat) (most : Option Nat) (lazy : Bool)
  /-- A group that captures, with its name if it has one. -/
  | capture (name : Option String) (body : Node)
  /-- A group that only groups, with flags for its inside. -/
  | group (switches : List (Flag × Bool)) (body : Node)
  /-- One after the other. -/
  | sequence (parts : List Node)
  /-- One or the other. -/
  | choice (parts : List Node)

/-! ## Height -/

mutual

/-- The nesting of a class: of its brackets, lists and operations. -/
def ClassNode.height : ClassNode → Nat
  | .bracket _ body => body.height + 1
  | .items parts => ClassNode.heights parts + 1
  | .op _ left right => max left.height right.height + 1
  | _ => 0

/-- The greatest height of some parts of a class. -/
def ClassNode.heights : List ClassNode → Nat
  | [] => 0
  | part :: rest => max part.height (ClassNode.heights rest)

end

mutual

/-- The nesting of an expression: of its classes, groups, repetitions, lists and choices. -/
def Node.height : Node → Nat
  | .bracket _ body => body.height + 1
  | .repetition body _ _ _ => body.height + 1
  | .capture _ body => body.height + 1
  | .group _ body => body.height + 1
  | .sequence parts => Node.heights parts + 1
  | .choice parts => Node.heights parts + 1
  | _ => 0

/-- The greatest height of some expressions. -/
def Node.heights : List Node → Nat
  | [] => 0
  | part :: rest => max part.height (Node.heights rest)

end

/-- The greatest height of an expression that is accepted. -/
def Node.heightLimit : Nat := 250

/-! ## Names of groups -/

mutual

/-- The names of the groups of an expression. -/
def Node.groupNames : Node → List String
  | .repetition body _ _ _ => body.groupNames
  | .capture name body => name.toList ++ body.groupNames
  | .group _ body => body.groupNames
  | .sequence parts => Node.allGroupNames parts
  | .choice parts => Node.allGroupNames parts
  | _ => []

/-- The names of the groups of some expressions. -/
def Node.allGroupNames : List Node → List String
  | [] => []
  | part :: rest => part.groupNames ++ Node.allGroupNames rest

end

end Pattern

end Rulebook
