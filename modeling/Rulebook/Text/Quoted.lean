import Rulebook.Text.Hex
import Rulebook.Unicode.Properties

/-!
# Quoted text in messages

`Text.quoted` shows a text inside a message so that every character of it can be seen: quotes,
backslashes and line ends are escaped, and so is whatever cannot be shown alone.
-/

namespace Rulebook

namespace Text

/-- The hexadecimal digits of a number, at least one; `count` bounds them. -/
def hexDigits : (count : Nat) → Nat → List Char
  | 0, _ => []
  | count + 1, n =>
    if n < 16 then [hexDigit n] else hexDigits count (n / 16) ++ [hexDigit (n % 16)]

/-- Whether a character can be shown alone. -/
def isShown (c : Char) : Bool :=
  CodeSet.printable.contains c.toNat && !CodeSet.graphemeExtend.contains c.toNat

/-- A character as it stands inside a quoted text. -/
def shown (c : Char) : List Char :=
  match c with
  | '\x00' => ['\\', '0']
  | '\t' => ['\\', 't']
  | '\n' => ['\\', 'n']
  | '\r' => ['\\', 'r']
  | '"' => ['\\', '"']
  | '\\' => ['\\', '\\']
  | c => if isShown c then [c] else '\\' :: 'u' :: '\x7b' :: hexDigits 6 c.toNat ++ ['\x7d']

/-- A text in quotes. -/
def quoted (s : String) : String :=
  String.ofList ('"' :: s.toList.flatMap shown ++ ['"'])

end Text

end Rulebook
