import Rulebook.Checker.Text
import Rulebook.Decimal.Digits

/-!
# Checks of URLs

A URL has a scheme, perhaps user information, a host, perhaps a port, and perhaps a path. The host
is an address of four numbers, which must not be a private one, or a name of at least two labels.

The text decides by itself where the user information ends: at the last `@` after which the rest can
be read, and where there is no such `@`, there is no user information. What can be read as an
address is one.
-/

namespace Rulebook

namespace Url

open Formats
open Pattern (Expr)

/-! ## Parts -/

/-- Given characters in either case. -/
def word (s : String) : Expr :=
  .sequence (s.toList.map fun c => .one (.folded (.single c.toNat)))

/-- What is not blank. -/
def solid : CodeSet := .compl .blank

/-- The scheme and what follows it. -/
def scheme : Expr :=
  .seq (.choice [.seq (word "http") (optional (word "s")), word "ftp"]) (word "://")

/-- User information with its `@`. -/
def userInfo : Expr :=
  .sequence [oneOrMore solid, optional (.seq (char ':') (zeroOrMore solid)), char '@']

/-- A number from 100 to 199. -/
def hundreds : Expr := .sequence [char '1', digit, digit]

/-- A number from 1 to 99 without a leading zero. -/
def tens : Expr := .seq (.one (.range 0x31 0x39)) (optional digit)

/-- A digit from zero to the given one, after given digits. -/
def upTo (before : List Char) (last : Nat) : Expr :=
  .sequence (before.map char ++ [.one (.range 0x30 (0x30 + last))])

/-- The first number of an address: from 1 to 223. -/
def firstNumber : Expr :=
  .choice [tens, hundreds, .sequence [char '2', .one (.range 0x30 0x31), digit], upTo ['2', '2'] 3]

/-- A number in the middle of an address: from 0 to 255, perhaps with one leading zero. -/
def middleNumber : Expr :=
  .choice [.seq (optional (char '1')) (.repetition digit 1 (some 2)),
    .sequence [char '2', .one (.range 0x30 0x34), digit], upTo ['2', '5'] 5]

/-- The last number of an address: from 1 to 254. -/
def lastNumber : Expr :=
  .choice [tens, hundreds, .sequence [char '2', .one (.range 0x30 0x34), digit], upTo ['2', '5'] 4]

/-- An address. -/
def address : Expr :=
  .sequence [firstNumber, times 2 (.seq (char '.') middleNumber), char '.', lastNumber]

/-- The letters of a host name, in either case. -/
def letters : CodeSet := .folded (.ranges [(0x61, 0x7A), (0xA1, 0xFFFF)])

/-- The letters and digits of a host name. -/
def letterDigits : CodeSet := .folded (.ranges [(0x30, 0x39), (0x61, 0x7A), (0xA1, 0xFFFF)])

/-- A label: letters and digits with hyphens between them. -/
def label : Expr :=
  .seq (.repetition (zeroOrMoreThen letterDigits '-') 0 none) (oneOrMore letterDigits)
where
  /-- A character of a set and any number of another one. -/
  zeroOrMoreThen (set : CodeSet) (c : Char) : Expr :=
    .seq (.one set) (zeroOrMore (.single c.toNat))

/-- A name: labels with points between them, the last one of at least two letters. -/
def name : Expr :=
  .sequence [label, .repetition (.seq (char '.') label) 0 none, char '.',
    .repetition (.one letters) 2 none]

/-- A port, a path and the end, both of them optional. -/
def tail : Expr :=
  .sequence [optional (.seq (char ':') (.repetition digit 2 (some 5))),
    optional (.seq (char '/') (zeroOrMore solid)), .look .textEnd]

/-! ## Reading -/

/-- Whether the rest from a place on is a tail. -/
def isTail (s : Array Char) (place : Nat) : Bool :=
  !(tail.ends s [place]).isEmpty

/-- Whether four numbers are an address in a private network. -/
def isPrivate : List Nat → Bool
  | 10 :: _ => true
  | 127 :: _ => true
  | 169 :: 254 :: _ => true
  | 192 :: 168 :: _ => true
  | 172 :: second :: _ => 16 ≤ second && second ≤ 31
  | _ => false

/-- The numbers of an address, which is cut at its points. -/
def numbers : List Char → (digits : List Char) → List Nat
  | [], digits => [Decimal.value digits.reverse]
  | '.' :: rest, digits => Decimal.value digits.reverse :: numbers rest []
  | c :: rest, digits => numbers rest (c :: digits)

/-- Whether a host that starts at a place is a public one; nothing if the rest cannot be read as a
host and a tail. -/
def hostAt? (s : Array Char) (place : Nat) : Option Bool :=
  match (address.ends s [place]).find? (isTail s) with
  | some stop => some (!isPrivate (numbers (s.extract place stop).toList []))
  | none => if (name.ends s [place]).any (isTail s) then some true else none

/-- The places where a host may start, in the order in which they are tried. -/
def hostStarts (s : Array Char) : List Nat :=
  let start := scheme.ends s [0]
  (userInfo.ends s start).reverse ++ start

/-- Whether a text is a URL of a public host. -/
def isPublic (text : String) : Bool :=
  let s := text.toList.toArray
  ((hostStarts s).findSome? (hostAt? s)).getD false

end Url

namespace Checker

/-- A URL of a public host; the message may be replaced. -/
def url (say : Formatter) (rule : Rule) : Json → Verdict
  | .string text =>
    if text.isEmpty then emptyText say rule
    else if Url.isPublic text then .valid
    else .invalid (rule.message.getD (say .notUrl))
  | _ => .invalid (say .notString)

end Checker

end Rulebook
