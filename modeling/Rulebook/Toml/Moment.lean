import Rulebook.Decimal.Digits

/-!
# Dates and times

The dates and times that a TOML text may hold, and their usual spelling: a `T` between date and
time, a fraction of at most nine digits without zeros at its end, an offset in hours and minutes or
a `Z`. A moment may also stand in a string, where the hours may go a little further.
-/

namespace Rulebook

namespace Toml

namespace Moment

/-- `count` digits and the rest. -/
def digits? : (count : Nat) → List Char → Option (List Char × List Char)
  | 0, s => some ([], s)
  | count + 1, c :: s => do
    if c.isDigit then
      let (ds, rest) ← digits? count s
      return (c :: ds, rest)
    else none
  | _ + 1, [] => none

/-- Two digits that write a number from `least` to `most`, and the rest. -/
def two? (least most : Nat) (s : List Char) : Option (Nat × List Char) := do
  let (ds, rest) ← digits? 2 s
  let n := Decimal.value ds
  if least ≤ n ∧ n ≤ most then some (n, rest) else none

/-- The text after a given character. -/
def after? (c : Char) : List Char → Option (List Char)
  | d :: s => if d = c then some s else none
  | [] => none

/-- Whether a year has a 29th of February. -/
def isLeap (year : Nat) : Bool :=
  year % 4 = 0 && (year % 100 ≠ 0 || year % 400 = 0)

/-- How many days a month has. -/
def daysIn (year month : Nat) : Nat :=
  if month = 2 then if isLeap year then 29 else 28
  else if month = 4 ∨ month = 6 ∨ month = 9 ∨ month = 11 then 30
  else 31

/-- A number of two digits. -/
def pad (n : Nat) : List Char :=
  [Decimal.digitChar (n / 10 % 10), Decimal.digitChar (n % 10)]

/-- A date in its usual spelling, and the rest. -/
def date? (s : List Char) : Option (List Char × List Char) := do
  let (year, s) ← digits? 4 s
  let (month, s) ← two? 1 12 (← after? '-' s)
  let (day, rest) ← two? 1 (daysIn (Decimal.value year) month) (← after? '-' s)
  return (year ++ '-' :: pad month ++ '-' :: pad day, rest)

/-- The digits of a fraction that count: the first nine, without zeros at their end. -/
def significant (ds : List Char) : List Char :=
  ((ds.take 9).reverse.dropWhile (· = '0')).reverse

/-- The fraction of a second in its usual spelling, if there is one, and the rest. -/
def fraction? : List Char → Option (List Char × List Char)
  | '.' :: s =>
    match s.takeWhile Char.isDigit with
    | [] => none
    | ds =>
      let rest := s.dropWhile Char.isDigit
      match significant ds with
      | [] => some ([], rest)
      | ds => some ('.' :: ds, rest)
  | s => some ([], s)

/-- The greatest numbers that a moment may be written with. -/
structure Limits where
  /-- The hour of a time. -/
  hour : Nat
  /-- The hours of an offset. -/
  offsetHour : Nat
  /-- The minutes of an offset. -/
  offsetMinute : Nat

/-- The limits of a moment that stands for itself. -/
def Limits.plain : Limits := ⟨23, 23, 59⟩

/-- The limits of a moment in a string. -/
def Limits.quoted : Limits := ⟨24, 99, 99⟩

/-- A time in its usual spelling, and the rest. -/
def time? (limits : Limits) (s : List Char) : Option (List Char × List Char) := do
  let (hour, s) ← two? 0 limits.hour s
  let (minute, s) ← two? 0 59 (← after? ':' s)
  let (second, s) ← two? 0 60 (← after? ':' s)
  let (fraction, rest) ← fraction? s
  return (pad hour ++ ':' :: pad minute ++ ':' :: pad second ++ fraction, rest)

/-- An offset of so many minutes in its usual spelling. One of zero is positive. -/
def offsetText (sign : Char) (minutes : Nat) : List Char :=
  (if minutes = 0 then '+' else sign) :: pad (minutes / 60) ++ ':' :: pad (minutes % 60)

/-- An offset of at most a day in its usual spelling, if there is one, and the rest. -/
def offset? (limits : Limits) (s : List Char) : Option (List Char × List Char) := do
  match s with
  | [] => return ([], [])
  | c :: s =>
    if c = 'Z' ∨ c = 'z' then return (['Z'], s)
    else if c = '+' ∨ c = '-' then
      let (hours, s) ← two? 0 limits.offsetHour s
      let (minutes, rest) ← two? 0 limits.offsetMinute (← after? ':' s)
      let total := hours * 60 + minutes
      if total ≤ 24 * 60 then return (offsetText c total, rest) else none
    else return ([], c :: s)

/-- The text after what may stand between a date and a time. -/
def afterDate? : List Char → Option (List Char)
  | 'T' :: s => some s
  | 't' :: s => some s
  | ' ' :: s => some s
  | _ => none

/-- A time with an offset, and the rest. -/
def timeWithOffset? (limits : Limits) (s : List Char) : Option (List Char × List Char) := do
  let (time, s) ← time? limits s
  let (offset, rest) ← offset? limits s
  return (time ++ offset, rest)

/-- A date, a time, or both, in its usual spelling, and the rest. -/
def moment? (limits : Limits) (s : List Char) : Option (List Char × List Char) :=
  match date? s with
  | some (date, rest) =>
    match (afterDate? rest).bind (timeWithOffset? limits) with
    | some (time, rest) => some (date ++ 'T' :: time, rest)
    | none => some (date, rest)
  | none => time? limits s

/-- The usual spelling of the moment that a string writes, if it writes one. -/
def ofString? (s : String) : Option String :=
  match moment? .quoted s.toList with
  | some (text, []) => some (String.ofList text)
  | _ => none

end Moment

end Toml

end Rulebook
