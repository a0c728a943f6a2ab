import Rulebook.Unicode.CodeSet

/-!
# What patterns match

A `Pattern.Expr` is a regular expression whose flags are worked out: it is built of code-point sets
and conditions on places. A place is a number from 0 to the length of the text, and `Expr.ends`
takes the places where an expression may start to the places where it may end, both in ascending
order. Nothing here depends on which alternative is tried first, so the time is a polynomial of the
text and the expression.
-/

namespace Rulebook

namespace Pattern

/-! ## Conditions on places -/

/-- What may be asked of a place between two characters. -/
inductive Look where
  /-- The start of the text. -/
  | textStart
  /-- The end of the text. -/
  | textEnd
  /-- After a line feed, or the start. -/
  | lineStart
  /-- Before a line feed, or the end. -/
  | lineEnd
  /-- After a line break of any kind, but not inside one, or the start. -/
  | anyLineStart
  /-- Before a line break of any kind, but not inside one, or the end. -/
  | anyLineEnd
  /-- One side is in a word and the other one is not. -/
  | boundary (word : CodeSet)
  /-- Both sides are in a word, or neither. -/
  | noBoundary (word : CodeSet)
  /-- Outside before, in a word after. -/
  | wordStart (word : CodeSet)
  /-- In a word before, outside after. -/
  | wordEnd (word : CodeSet)
  /-- Outside before. -/
  | wordStartHalf (word : CodeSet)
  /-- Outside after. -/
  | wordEndHalf (word : CodeSet)
deriving DecidableEq

/-- Whether there is a character and it is in a word. -/
def inWord (word : CodeSet) : Option Char → Bool
  | some c => word.contains c.toNat
  | none => false

/-- Whether a condition holds between two characters; one is missing at an end of the text. -/
def Look.holds (before after : Option Char) : Look → Bool
  | textStart => before.isNone
  | textEnd => after.isNone
  | lineStart => before.isNone || before = some '\n'
  | lineEnd => after.isNone || after = some '\n'
  | anyLineStart =>
    before.isNone || before = some '\n' || (before = some '\r' && after ≠ some '\n')
  | anyLineEnd =>
    after.isNone || after = some '\r' || (after = some '\n' && before ≠ some '\r')
  | boundary word => inWord word before != inWord word after
  | noBoundary word => inWord word before == inWord word after
  | wordStart word => !inWord word before && inWord word after
  | wordEnd word => inWord word before && !inWord word after
  | wordStartHalf word => !inWord word before
  | wordEndHalf word => !inWord word after

/-! ## Ascending places -/

namespace Places

/-- The places in either of two ascending lists. -/
def union : List Nat → List Nat → List Nat
  | [], ys => ys
  | xs, [] => xs
  | x :: xs, y :: ys =>
    if x < y then x :: union xs (y :: ys)
    else if y < x then y :: union (x :: xs) ys
    else x :: union xs ys

/-- The places of the first ascending list that are not in the second one. -/
def diff : List Nat → List Nat → List Nat
  | [], _ => []
  | xs, [] => xs
  | x :: xs, y :: ys =>
    if x < y then x :: diff xs (y :: ys)
    else if y < x then diff (x :: xs) ys
    else diff xs ys

/-- The places reached from `frontier` in at most so many steps, beside those `seen` before. -/
def reach (step : List Nat → List Nat) : (rounds : Nat) → (seen frontier : List Nat) → List Nat
  | 0, seen, _ => seen
  | rounds + 1, seen, frontier =>
    match diff (step frontier) seen with
    | [] => seen
    | new => reach step rounds (union seen new) new

end Places

/-! ## Expressions -/

/-- A regular expression whose flags are worked out. -/
inductive Expr where
  /-- Nothing. -/
  | empty
  /-- One character of a set. -/
  | one (set : CodeSet)
  /-- A condition on the place. -/
  | look (condition : Look)
  /-- One after the other. -/
  | seq (first second : Expr)
  /-- One or the other. -/
  | alt (left right : Expr)
  /-- The same again and again, at least and at most so many times. -/
  | repetition (body : Expr) (least : Nat) (most : Option Nat)

namespace Expr

/-- Some expressions one after the other. -/
def sequence : List Expr → Expr
  | [] => empty
  | [e] => e
  | e :: rest => seq e (sequence rest)

/-- One of some expressions. -/
def choice : List Expr → Expr
  | [] => empty
  | [e] => e
  | e :: rest => alt e (choice rest)

/-- The character before a place. -/
def before? (s : Array Char) : (place : Nat) → Option Char
  | 0 => none
  | place + 1 => s[place]?

/-- Whether the character after a place is in a set. -/
def nextIn (s : Array Char) (set : CodeSet) (place : Nat) : Bool :=
  match s[place]? with
  | some c => set.contains c.toNat
  | none => false

/-- The places where an expression may end that starts at one of some places. A repetition of more
rounds than the text has places gains nothing by the further ones, since only rounds without a
character can be added. -/
def ends (s : Array Char) : Expr → List Nat → List Nat
  | empty, places => places
  | one set, places => (places.filter (nextIn s set)).map (· + 1)
  | look condition, places =>
    places.filter fun place => condition.holds (before? s place) s[place]?
  | seq first second, places => ends s second (ends s first places)
  | alt left right, places => Places.union (ends s left places) (ends s right places)
  | repetition body least most, places =>
    let start := Nat.repeat (ends s body) (min least (s.size + 1)) places
    let rounds := match most with
      | some most => min (most - least) (s.size + 1)
      | none => s.size + 1
    Places.reach (ends s body) rounds start start

/-- Whether an expression matches somewhere in a text. -/
def isMatch (e : Expr) (text : String) : Bool :=
  let s := text.toList.toArray
  !(e.ends s (List.range (s.size + 1))).isEmpty

end Expr

end Pattern

end Rulebook
