import Rulebook.Unicode.CodeRange

/-!
# The bytes of characters

A character is written with one to four bytes in UTF-8, and the characters of a range with several
sequences of ranges of bytes: `Utf8.sequences` lists them, so that each character of the range fits
exactly one.
-/

namespace Rulebook

namespace Utf8

open Unicode (CodeRange)

/-- A first and a last byte. -/
abbrev ByteRange := Nat × Nat

/-- The bytes of a character. -/
def bytes (c : Nat) : List Nat :=
  if c < 0x80 then [c]
  else if c < 0x800 then [0xC0 + c / 64, 0x80 + c % 64]
  else if c < 0x10000 then [0xE0 + c / 4096, 0x80 + c / 64 % 64, 0x80 + c % 64]
  else [0xF0 + c / 262144, 0x80 + c / 4096 % 64, 0x80 + c / 64 % 64, 0x80 + c % 64]

/-- The characters with as many bytes each; surrogates are left out. -/
def lengthClasses : List CodeRange :=
  [(0, 0x7F), (0x80, 0x7FF), (0x800, 0xD7FF), (0xE000, 0xFFFF), (0x10000, 0x10FFFF)]

/-- The parts of a range within the classes. -/
def splitByLength (range : CodeRange) : List CodeRange :=
  lengthClasses.filterMap fun (first, last) =>
    let part := (max first range.1, min last range.2)
    if part.1 ≤ part.2 then some part else none

/-- A range cut at the blocks of a size, as far as it leaves one: what it holds of its first block,
if that is not the whole block, then whole blocks, then what it holds of its last block. -/
def cutAt (size : Nat) (range : CodeRange) : List CodeRange :=
  let (first, last) := range
  if first / size = last / size then [range]
  else
    let next := (first + size - 1) / size * size
    let head := if first < next then [(first, next - 1)] else []
    if next / size = last / size then head ++ [(next, last)]
    else
      let after := (last + 1) / size * size
      let tail := if after ≤ last then [(after, last)] else []
      head ++ (next, after - 1) :: tail

/-- The parts of a range of characters with as many bytes each, such that in each of them the bytes
after one that varies take all values. -/
def splitByBlock (range : CodeRange) : List CodeRange :=
  if range.2 < 0x80 then [range]
  else cutAt 64 range |>.flatMap (cutAt 4096) |>.flatMap (cutAt 262144)

/-- The sequences of ranges of bytes that write the characters of a range, in ascending order. -/
def sequences (range : CodeRange) : List (List ByteRange) :=
  (splitByLength range).flatMap splitByBlock |>.map fun (first, last) =>
    (bytes first).zip (bytes last)

end Utf8

end Rulebook
