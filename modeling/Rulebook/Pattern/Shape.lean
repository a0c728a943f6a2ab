import Rulebook.Pattern.Expr

/-!
# Shapes of patterns

How large the automaton of a pattern grows depends on how the pattern is put together. A
`Pattern.Shape` tells that: characters in a row form words, a class is listed, groups that do not
capture are gone, and where all alternatives begin in the same way, the beginning is taken out.

`Shape.ofRanges`, `Shape.repeated`, `Shape.sequenceOf` and `Shape.choiceOf` build shapes that are
simple in this sense from simple ones.
-/

namespace Rulebook

namespace Pattern

open Unicode (CodeRange)

/-- What the automaton of a pattern depends on. -/
inductive Shape where
  /-- Nothing. -/
  | empty
  /-- Some characters in a row. -/
  | word (chars : List Nat)
  /-- One character of a class. -/
  | oneOf (ranges : List CodeRange)
  /-- A condition on the place. -/
  | look (condition : Look)
  /-- The same again and again, at least and at most so many times, as often as can be if it is
  `greedy`. -/
  | repetition (body : Shape) (least : Nat) (most : Option Nat) (greedy : Bool)
  /-- A group that captures. -/
  | capture (body : Shape)
  /-- One after the other. -/
  | sequence (parts : List Shape)
  /-- One or the other. -/
  | choice (parts : List Shape)

namespace Shape

/-! ## What shapes match -/

mutual

/-- Whether nothing but the empty text matches. -/
def isBlank : Shape → Bool
  | empty => true
  | word _ => false
  | oneOf _ => false
  | look _ => true
  | repetition body _ most _ => most.isSome && body.isBlank
  | capture body => body.isBlank
  | sequence parts => allBlank parts
  | choice parts => allBlank parts

/-- Whether nothing but the empty text matches any of some shapes. -/
def allBlank : List Shape → Bool
  | [] => true
  | part :: rest => part.isBlank && allBlank rest

end

mutual

/-- Whether some text matches, as far as the classes tell. -/
def isPossible : Shape → Bool
  | oneOf ranges => !ranges.isEmpty
  | repetition body _ _ _ => body.isPossible
  | capture body => body.isPossible
  | sequence parts => allPossible parts
  | choice parts => allPossible parts
  | _ => true

/-- Whether some text matches each of some shapes. -/
def allPossible : List Shape → Bool
  | [] => true
  | part :: rest => part.isPossible && allPossible rest

end

mutual

/-- Whether the empty text may match, as far as the lengths of the parts tell. -/
def mayBeEmpty : Shape → Bool
  | empty => true
  | word _ => false
  | oneOf _ => false
  | look _ => true
  | repetition body least _ _ => least = 0 || body.mayBeEmpty
  | capture body => body.mayBeEmpty
  | sequence parts => allMayBeEmpty parts
  | choice parts => someMayBeEmpty parts

/-- Whether the empty text may match each of some shapes. -/
def allMayBeEmpty : List Shape → Bool
  | [] => true
  | part :: rest => part.mayBeEmpty && allMayBeEmpty rest

/-- Whether the empty text may match one of some shapes. -/
def someMayBeEmpty : List Shape → Bool
  | [] => false
  | part :: rest => part.mayBeEmpty || someMayBeEmpty rest

end

/-- Whether every match takes a character, and there may be one. -/
def takesText (shape : Shape) : Bool :=
  shape.isPossible && !shape.mayBeEmpty

mutual

/-- Whether a condition holds wherever a match begins. -/
def beginsWith (condition : Look) : Shape → Bool
  | look l => l = condition
  | repetition body least _ _ => 0 < least && body.beginsWith condition
  | capture body => body.beginsWith condition
  | sequence parts => firstBeginsWith condition parts
  | choice parts => allBeginWith condition parts
  | _ => false

/-- Whether a condition holds wherever a match of some shapes in a row begins. -/
def firstBeginsWith (condition : Look) : List Shape → Bool
  | [] => false
  | part :: rest =>
    part.beginsWith condition || (part.isBlank && firstBeginsWith condition rest)

/-- Whether a condition holds wherever a match of any of some shapes begins. -/
def allBeginWith (condition : Look) : List Shape → Bool
  | [] => true
  | part :: rest => part.beginsWith condition && allBeginWith condition rest

end

mutual

/-- Whether a condition holds wherever a match ends. -/
def endsWith (condition : Look) : Shape → Bool
  | look l => l = condition
  | repetition body least _ _ => 0 < least && body.endsWith condition
  | capture body => body.endsWith condition
  | sequence parts => lastEndsWith condition parts
  | choice parts => allEndWith condition parts
  | _ => false

/-- Whether a condition holds wherever a match of some shapes in a row ends. -/
def lastEndsWith (condition : Look) : List Shape → Bool
  | [] => false
  | part :: rest =>
    lastEndsWith condition rest || (allBlank rest && part.endsWith condition)

/-- Whether a condition holds wherever a match of any of some shapes ends. -/
def allEndWith (condition : Look) : List Shape → Bool
  | [] => true
  | part :: rest => part.endsWith condition && allEndWith condition rest

end

/-! ## Equal shapes -/

mutual

/-- Whether two shapes are equal. Groups that capture differ in what they capture. -/
def same : Shape → Shape → Bool
  | empty, empty => true
  | word a, word b => a = b
  | oneOf a, oneOf b => a = b
  | look a, look b => a = b
  | repetition a leastA mostA greedyA, repetition b leastB mostB greedyB =>
    leastA = leastB && mostA = mostB && greedyA = greedyB && same a b
  | sequence a, sequence b => allSame a b
  | choice a, choice b => allSame a b
  | _, _ => false

/-- Whether two lists of shapes are equal. -/
def allSame : List Shape → List Shape → Bool
  | [], [] => true
  | a :: as, b :: bs => same a b && allSame as bs
  | _, _ => false

end

/-! ## Simple shapes -/

/-- One character of a listed class; a class of one character is a word. -/
def ofRanges : List CodeRange → Shape
  | [(first, last)] => if first = last then word [first] else oneOf [(first, last)]
  | ranges => oneOf ranges

/-- A repetition. What matches nothing but the empty text is needed once at most. -/
def repeated (body : Shape) (least : Nat) (most : Option Nat) (greedy : Bool) : Shape :=
  let (least, most) :=
    if body.isBlank then (min least 1, some (min (most.getD 1) 1)) else (least, most)
  if least = 0 ∧ most = some 0 then empty
  else if least = 1 ∧ most = some 1 then body
  else repetition body least most greedy

/-- The parts of a shape that stand in a row. -/
def inRow : Shape → List Shape
  | empty => []
  | sequence parts => parts
  | shape => [shape]

/-- Puts words that stand in a row together. -/
def joinWords : List Shape → List Shape
  | [] => []
  | word a :: rest =>
    match joinWords rest with
    | word b :: rest => word (a ++ b) :: rest
    | rest => word a :: rest
  | part :: rest => part :: joinWords rest

/-- Some shapes one after the other. -/
def sequenceOf (parts : List Shape) : Shape :=
  match joinWords (parts.flatMap inRow) with
  | [] => empty
  | [part] => part
  | parts => sequence parts

/-- The alternatives of a shape. -/
def alternatives : Shape → List Shape
  | choice parts => parts
  | shape => [shape]

/-- The character of a word of one character. -/
def char? : Shape → Option Nat
  | word [c] => some c
  | _ => none

/-- The ranges of a class. -/
def class? : Shape → Option (List CodeRange)
  | oneOf ranges => some ranges
  | _ => none

/-- The parts in a row of a shape that has several. -/
def row? : Shape → Option (List Shape)
  | sequence parts => some parts
  | _ => none

/-- How many shapes are equal at the start of two lists. -/
def commonLength : List Shape → List Shape → Nat
  | a :: as, b :: bs => if same a b then commonLength as bs + 1 else 0
  | _, _ => 0

/-- The common beginning of some alternatives that all have several parts, and what each of them
goes on with. -/
def commonStart? (parts : List Shape) : Option (List Shape × List Shape) := do
  match ← parts.mapM row? with
  | [] => none
  | first :: others =>
    let length := others.foldl (fun n row => min n (commonLength first row)) first.length
    if length = 0 then none
    else some (first.take length, (first :: others).map fun row => sequenceOf (row.drop length))

/-- One of some shapes. Single characters make one class together, and so do classes; a common
beginning is taken out, after which the rest may have one again, but at most in so many rounds. -/
def choiceIn : (rounds : Nat) → List Shape → Shape
  | 0, parts => choice parts
  | rounds + 1, parts =>
    match parts.flatMap alternatives with
    | [] => oneOf []
    | [part] => part
    | parts =>
      match parts.mapM char? with
      | some chars => ofRanges (Unicode.Ranges.ofCodes chars)
      | none =>
        match parts.mapM class? with
        | some classes => ofRanges (classes.foldl Unicode.Ranges.union [])
        | none =>
          match commonStart? parts with
          | some (start, rests) => sequenceOf (start ++ [choiceIn rounds rests])
          | none => choice parts

/-- One of some shapes. A beginning that is common to all alternatives is taken out whole, so that
further rounds only deal with groups inside groups, whose number is limited. -/
def choiceOf (parts : List Shape) : Shape :=
  choiceIn 256 parts

end Shape

end Pattern

end Rulebook
