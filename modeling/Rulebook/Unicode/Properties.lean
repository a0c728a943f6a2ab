import Rulebook.Text.Blank
import Rulebook.Unicode.Alphabets
import Rulebook.Unicode.Casing
import Rulebook.Unicode.Categories
import Rulebook.Unicode.Emoji
import Rulebook.Unicode.Signs

/-!
# Binary properties

The sets of characters that have a property, `CodeSet.properties` with all names, and the word,
digit and blank characters that patterns know.
-/

namespace Rulebook

open Unicode

namespace CodeSet

/-! ## Case -/

/-- The property Lowercase. -/
def lowercase : CodeSet := union (ranges lowercaseLetters) (ranges otherLowercase)

/-- The property Uppercase. -/
def uppercase : CodeSet := union (ranges uppercaseLetters) (ranges otherUppercase)

/-- The characters that are written large at the start of a word: uppercase and titlecase ones. -/
def raised : CodeSet := union uppercase (ranges titlecaseLetters)

/-- The property Cased. -/
def cased : CodeSet := union lowercase raised

/-- The property Case_Ignorable. -/
def caseIgnorable : CodeSet :=
  unions [ranges nonspacingMarks, ranges enclosingMarks, ranges formats, ranges modifierLetters,
    ranges modifierSymbols, ranges otherCaseIgnorable]

/-- The property Changes_When_Lowercased. -/
def changesInLower : CodeSet := diff raised (ranges keptByLowering)

/-- The property Changes_When_Uppercased. -/
def changesInUpper : CodeSet :=
  diff (union lowercase (ranges titlecaseLetters)) (ranges keptByRaising)

/-- The property Changes_When_Titlecased. -/
def changesInTitle : CodeSet :=
  union (diff lowercase (ranges keptByTitling)) (ranges otherTitled)

/-- The property Changes_When_Casefolded. -/
def changesInFolding : CodeSet :=
  union (diff raised (ranges keptByFolding)) (ranges otherFolded)

/-! ## Letters and identifiers -/

/-- The property Alphabetic. -/
def alphabetic : CodeSet :=
  unions [lowercase, uppercase, ranges titlecaseLetters, ranges modifierLetters,
    ranges otherLetters, ranges letterNumbers, ranges otherAlphabetic]

/-- The characters of words: alphabetic ones, marks, digits, connectors and join controls. -/
def word : CodeSet :=
  unions [alphabetic, marks, ranges decimalNumbers, ranges connectorPunctuation,
    ranges joinControls]

/-- The characters of numerals. -/
def digit : CodeSet := ranges decimalNumbers

/-- Blank characters. -/
def blank : CodeSet := ranges Text.blankRanges

/-- The property ID_Start. -/
def idStart : CodeSet :=
  diff (unions [letters, ranges letterNumbers, ranges otherIdStart])
    (union (ranges patternSyntax) (ranges patternBlanks))

/-- The property ID_Continue. -/
def idContinue : CodeSet :=
  unions [idStart, ranges nonspacingMarks, ranges spacingMarks, ranges decimalNumbers,
    ranges connectorPunctuation, ranges otherIdContinue]

/-! ## Clusters -/

/-- Characters that extend the one before them. -/
def graphemeExtend : CodeSet :=
  unions [ranges nonspacingMarks, ranges enclosingMarks, ranges otherGraphemeExtend]

/-- The property Grapheme_Base: what is written and does not extend the character before it. -/
def graphemeBase : CodeSet :=
  diff (unions [letters, marks, numbers, punctuation, symbols, ranges spaceSeparators])
    graphemeExtend

/-- Characters that can be shown as they are: letters, marks, numbers, punctuation, symbols and the
space. -/
def printable : CodeSet :=
  unions [letters, marks, numbers, punctuation, symbols, single 0x20]

/-- The property Default_Ignorable_Code_Point. -/
def defaultIgnorable : CodeSet :=
  diff (unions [ranges otherDefaultIgnorable, ranges formats, ranges variationSelectors])
    (unions [blank, ranges prependedMarks, ranges visibleFormats])

/-! ## Names -/

/-- The binary properties, each under all its names. -/
def properties : List (List String × CodeSet) :=
  [(["ahex", "asciihexdigit"], ranges [(0x30, 0x39), (0x41, 0x46), (0x61, 0x66)]),
    (["alpha", "alphabetic"], alphabetic),
    (["bidic", "bidicontrol"], ranges bidiControls),
    (["ci", "caseignorable"], caseIgnorable),
    (["cased"], cased),
    (["cwcf", "changeswhencasefolded"], changesInFolding),
    (["cwcm", "changeswhencasemapped"], unions [changesInLower, changesInUpper, changesInTitle]),
    (["cwl", "changeswhenlowercased"], changesInLower),
    (["cwt", "changeswhentitlecased"], changesInTitle),
    (["cwu", "changeswhenuppercased"], changesInUpper),
    (["dash"], ranges dashes),
    (["dep", "deprecated"], ranges deprecated),
    (["di", "defaultignorablecodepoint"], defaultIgnorable),
    (["dia", "diacritic"], ranges diacritics),
    (["ebase", "emojimodifierbase"], ranges emojiModifierBases),
    (["ecomp", "emojicomponent"], ranges emojiComponents),
    (["emod", "emojimodifier"], ranges emojiModifiers),
    (["emoji"], ranges emoji),
    (["epres", "emojipresentation"], ranges emojiPresentation),
    (["ext", "extender"], ranges extenders),
    (["extpict", "extendedpictographic"], ranges pictographs),
    (["grbase", "graphemebase"], graphemeBase),
    (["grext", "graphemeextend"], graphemeExtend),
    (["grlink", "graphemelink"], ranges graphemeLinks),
    (["hex", "hexdigit"], ranges hexDigits),
    (["hyphen"], ranges hyphens),
    (["idc", "idcontinue"], idContinue),
    (["idcompatmathcontinue"], union (ranges compatMathStart) (ranges compatMathContinue)),
    (["idcompatmathstart"], ranges compatMathStart),
    (["ideo", "ideographic"], ranges ideographs),
    (["ids", "idstart"], idStart),
    (["idsb", "idsbinaryoperator"], ranges descriptionBinary),
    (["idst", "idstrinaryoperator"], ranges descriptionTrinary),
    (["idsu", "idsunaryoperator"], ranges descriptionUnary),
    (["joinc", "joincontrol"], ranges joinControls),
    (["loe", "logicalorderexception"], ranges logicalOrderExceptions),
    (["lower", "lowercase"], lowercase),
    (["math"], union (ranges mathSymbols) (ranges otherMath)),
    (["mcm", "modifiercombiningmark"], ranges modifierCombiningMarks),
    (["nchar", "noncharactercodepoint"], ranges noncharacters),
    (["oalpha", "otheralphabetic"], union (ranges otherAlphabetic) (ranges casedOtherAlphabetic)),
    (["odi", "otherdefaultignorablecodepoint"], ranges otherDefaultIgnorable),
    (["ogrext", "othergraphemeextend"], ranges otherGraphemeExtend),
    (["oidc", "otheridcontinue"], ranges otherIdContinue),
    (["oids", "otheridstart"], ranges otherIdStart),
    (["olower", "otherlowercase"], ranges otherLowercase),
    (["omath", "othermath"], ranges otherMath),
    (["oupper", "otheruppercase"], ranges otherUppercase),
    (["patsyn", "patternsyntax"], ranges patternSyntax),
    (["patws", "patternwhitespace"], ranges patternBlanks),
    (["pcm", "prependedconcatenationmark"], ranges prependedMarks),
    (["qmark", "quotationmark"], ranges quotationMarks),
    (["radical"], ranges radicals),
    (["ri", "regionalindicator"], ranges regionalIndicators),
    (["sd", "softdotted"], ranges softDotted),
    (["sterm", "sentenceterminal"], ranges sentenceTerminals),
    (["term", "terminalpunctuation"], ranges terminalPunctuation),
    (["uideo", "unifiedideograph"], ranges unifiedIdeographs),
    (["upper", "uppercase"], uppercase),
    (["vs", "variationselector"], ranges variationSelectors),
    (["wspace", "whitespace", "space"], blank),
    (["xidc", "xidcontinue"], diff idContinue (ranges unstableIdContinue)),
    (["xids", "xidstart"], diff idStart (ranges unstableIdStart))]

end CodeSet

end Rulebook
