import Rulebook.Pattern.Basic

/-!
# Formats of the built-in types

The patterns of the types whose texts have a fixed format. Each is given as an expression, and shown
as the regular expression that it means.
-/

namespace Rulebook

namespace Formats

open Pattern (Expr)

/-- One given character. -/
def char (c : Char) : Expr := .one (.single c.toNat)

/-- At least one character of a set. -/
def oneOrMore (set : CodeSet) : Expr := .repetition (.one set) 1 none

/-- Any number of characters of a set. -/
def zeroOrMore (set : CodeSet) : Expr := .repetition (.one set) 0 none

/-- The same so many times. -/
def times (n : Nat) (e : Expr) : Expr := .repetition e n n

/-- What may be there or not. -/
def optional (e : Expr) : Expr := .repetition e 0 (some 1)

/-- Expressions one after the other that make up the whole text. -/
def whole (es : List Expr) : Expr :=
  .sequence (.look .textStart :: es ++ [.look .textEnd])

/-- The ASCII digits. -/
def digits : CodeSet := .range 0x30 0x39

/-- A digit. -/
def digit : Expr := .one digits

/-- Digits only. -/
def id : Pattern where
  display := "/^[0-9]+$/"
  expr := whole [oneOrMore digits]

/-- Year, month and day. -/
def dateParts : List Expr :=
  [times 4 digit, char '-', times 2 digit, char '-', times 2 digit]

/-- Hour, minute and second. -/
def timeParts : List Expr :=
  [times 2 digit, char ':', times 2 digit, char ':', times 2 digit]

/-- A date. -/
def date : Pattern where
  display := "/^[0-9]\x7b4\x7d-[0-9]\x7b2\x7d-[0-9]\x7b2\x7d$/"
  expr := whole dateParts

/-- A date and a time with a space between them. -/
def dateTime : Pattern where
  display := "/^[0-9]\x7b4\x7d-[0-9]\x7b2\x7d-[0-9]\x7b2\x7d " ++
    "[0-9]\x7b2\x7d:[0-9]\x7b2\x7d:[0-9]\x7b2\x7d$/"
  expr := whole (dateParts ++ char ' ' :: timeParts)

/-! ## Passwords -/

/-- The characters of a password: every printable ASCII character but the space and the backslash.
-/
def passwordChars : CodeSet :=
  .ranges [(0x21, 0x5B), (0x5D, 0x7E)]

/-- Characters of a password only. -/
def password : Pattern where
  display := "/^[A-Za-z0-9_`~!@#$%^&*()\\-=+\\[\\]\x7b\x7d|;:'\",<.>/?]+$/"
  expr := whole [oneOrMore passwordChars]

/-! ## Mail addresses -/

/-- The characters of the parts before the `@`, in either case. -/
def atomChars : CodeSet :=
  .folded (.ranges [(0x21, 0x21), (0x23, 0x27), (0x2A, 0x2B), (0x2D, 0x2D), (0x2F, 0x39),
    (0x3D, 0x3D), (0x3F, 0x3F), (0x5E, 0x7E)])

/-- The characters at the ends of a label, in either case. -/
def labelEnds : CodeSet := .folded (.ranges [(0x30, 0x39), (0x61, 0x7A)])

/-- The characters inside a label, in either case. -/
def labelChars : CodeSet := .folded (.ranges [(0x2D, 0x2D), (0x30, 0x39), (0x61, 0x7A)])

/-- A label of a host. -/
def label : Expr :=
  .seq (.one labelEnds) (optional (.seq (zeroOrMore labelChars) (.one labelEnds)))

/-- Atoms with points between them, an `@`, and at least two labels with points between them. -/
def email : Pattern where
  display := "/(?i)^[a-z0-9!#$%&'*+/=?^_`\x7b|\x7d~-]+" ++
    "(?:\\.[a-z0-9!#$%&'*+/=?^_`\x7b|\x7d~-]+)*@" ++
    "(?:[a-z0-9](?:[a-z0-9-]*[a-z0-9])?\\.)+[a-z0-9](?:[a-z0-9-]*[a-z0-9])?$/"
  expr := whole [oneOrMore atomChars,
    .repetition (.seq (char '.') (oneOrMore atomChars)) 0 none, char '@',
    .repetition (.seq label (char '.')) 1 none, label]

end Formats

end Rulebook
