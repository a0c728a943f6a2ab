import Rulebook.Unicode.CodeSet
import Rulebook.Unicode.Letters
import Rulebook.Unicode.Marks
import Rulebook.Unicode.Numbers
import Rulebook.Unicode.Punctuation
import Rulebook.Unicode.Separators
import Rulebook.Unicode.Symbols

/-!
# General categories

Every character has one general category, and the categories form seven groups. `CodeSet.categories`
lists them all with their names.
-/

namespace Rulebook

open Unicode

namespace CodeSet

/-- Assigned code points of the category Letter. -/
def letters : CodeSet :=
  unions [ranges uppercaseLetters, ranges lowercaseLetters, ranges titlecaseLetters,
    ranges modifierLetters, ranges otherLetters]

/-- The category Cased_Letter. -/
def casedLetters : CodeSet :=
  unions [ranges uppercaseLetters, ranges lowercaseLetters, ranges titlecaseLetters]

/-- The category Mark. -/
def marks : CodeSet :=
  unions [ranges nonspacingMarks, ranges spacingMarks, ranges enclosingMarks]

/-- The category Number. -/
def numbers : CodeSet :=
  unions [ranges decimalNumbers, ranges letterNumbers, ranges otherNumbers]

/-- The category Punctuation. -/
def punctuation : CodeSet :=
  unions [ranges connectorPunctuation, ranges dashPunctuation, ranges openPunctuation,
    ranges closePunctuation, ranges initialPunctuation, ranges finalPunctuation,
    ranges otherPunctuation]

/-- The category Symbol. -/
def symbols : CodeSet :=
  unions [ranges mathSymbols, ranges currencySymbols, ranges modifierSymbols, ranges otherSymbols]

/-- The category Separator. -/
def separators : CodeSet :=
  unions [ranges spaceSeparators, ranges lineSeparators, ranges paragraphSeparators]

/-- Every code point with a category other than Unassigned. -/
def assigned : CodeSet :=
  unions [letters, marks, numbers, punctuation, symbols, separators, ranges controls,
    ranges formats, ranges privateUse]

/-- The category Other. -/
def other : CodeSet :=
  unions [ranges controls, ranges formats, ranges privateUse, compl assigned]

/-- The categories and the three classes beside them, each under all its names. -/
def categories : List (List String × CodeSet) :=
  [(["any"], range 0 0x10FFFF), (["assigned"], assigned), (["ascii"], range 0 0x7F),
    (["l", "letter"], letters), (["lc", "casedletter"], casedLetters),
    (["lu", "uppercaseletter"], ranges uppercaseLetters),
    (["ll", "lowercaseletter"], ranges lowercaseLetters),
    (["lt", "titlecaseletter"], ranges titlecaseLetters),
    (["lm", "modifierletter"], ranges modifierLetters),
    (["lo", "otherletter"], ranges otherLetters),
    (["m", "mark", "combiningmark"], marks), (["mn", "nonspacingmark"], ranges nonspacingMarks),
    (["mc", "spacingmark"], ranges spacingMarks), (["me", "enclosingmark"], ranges enclosingMarks),
    (["n", "number"], numbers), (["nd", "decimalnumber", "digit"], ranges decimalNumbers),
    (["nl", "letternumber"], ranges letterNumbers), (["no", "othernumber"], ranges otherNumbers),
    (["p", "punctuation", "punct"], punctuation),
    (["pc", "connectorpunctuation"], ranges connectorPunctuation),
    (["pd", "dashpunctuation"], ranges dashPunctuation),
    (["ps", "openpunctuation"], ranges openPunctuation),
    (["pe", "closepunctuation"], ranges closePunctuation),
    (["pi", "initialpunctuation"], ranges initialPunctuation),
    (["pf", "finalpunctuation"], ranges finalPunctuation),
    (["po", "otherpunctuation"], ranges otherPunctuation),
    (["s", "symbol"], symbols), (["sm", "mathsymbol"], ranges mathSymbols),
    (["sc", "currencysymbol"], ranges currencySymbols),
    (["sk", "modifiersymbol"], ranges modifierSymbols),
    (["so", "othersymbol"], ranges otherSymbols),
    (["z", "separator"], separators), (["zs", "spaceseparator"], ranges spaceSeparators),
    (["zl", "lineseparator"], ranges lineSeparators),
    (["zp", "paragraphseparator"], ranges paragraphSeparators),
    (["c", "other"], other), (["cc", "control", "cntrl"], ranges controls),
    (["cf", "format"], ranges formats), (["co", "privateuse"], ranges privateUse),
    (["cn", "unassigned"], compl assigned)]

end CodeSet

end Rulebook
