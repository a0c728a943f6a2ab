import Rulebook.Unicode.BreakSigns
import Rulebook.Unicode.Properties
import Rulebook.Unicode.Scripts

/-!
# Clusters, words and sentences

Where a text is cut into clusters, words and sentences depends on three more classifications of
characters. Their classes are listed here with their names; a character outside all of them has no
class.
-/

namespace Rulebook

open Unicode

namespace CodeSet

/-- The ends of lines that are no line feed and no carriage return: controls, separators, formats
and code points that are ignored where they have no use. -/
def clusterControls : CodeSet :=
  diff (unions [ranges lineSeparators, ranges paragraphSeparators, ranges controls, ranges formats,
      diff defaultIgnorable assigned])
    (unions [ranges [(0xA, 0xA), (0xD, 0xD), (0x200C, 0x200D)], ranges prependedMarks,
      graphemeExtend])

/-- The syllables with a leading consonant and a vowel and nothing more. -/
def openSyllables : CodeSet :=
  ranges ((List.range 399).map fun i => (0xAC00 + 28 * i, 0xAC00 + 28 * i))

/-- The characters of the property Extend in clusters, which in words and sentences takes in the
spacing marks. -/
def clusterExtenders : CodeSet := union graphemeExtend (ranges emojiModifiers)

/-- The classes of characters in clusters. -/
def clusterClasses : List (List String × CodeSet) :=
  [(["cn", "control"], clusterControls), (["cr"], single 0xD), (["ex", "extend"], clusterExtenders),
    (["l"], ranges [(0x1100, 0x115F), (0xA960, 0xA97C)]), (["lf"], single 0xA),
    (["lv"], openSyllables), (["lvt"], diff (range 0xAC00 0xD7A3) openSyllables),
    (["pp", "prepend"], union (ranges prependedMarks) (ranges prependedLetters)),
    (["ri", "regionalindicator"], ranges regionalIndicators),
    (["sm", "spacingmark"],
      diff (unions [ranges spacingMarks, ranges [(0xE33, 0xE33), (0xEB3, 0xEB3)]])
        (unions [clusterExtenders, ranges looseSpacingMarks])),
    (["t"], ranges [(0x11A8, 0x11FF), (0xD7CB, 0xD7FB)]),
    (["v"], ranges [(0x1160, 0x11A7), (0xD7B0, 0xD7C6), (0x16D63, 0x16D63), (0x16D67, 0x16D6A)]),
    (["zwj"], single 0x200D)]

/-- The characters that extend the one before them in words and sentences. -/
def wordExtenders : CodeSet :=
  unions [graphemeExtend, ranges spacingMarks, ranges emojiModifiers]

/-- Katakana in words. -/
def katakana : CodeSet := union (script "katakana") (ranges otherKatakana)

/-- The Hebrew letters. -/
def hebrewLetters : CodeSet := inter (script "hebrew") (ranges otherLetters)

/-- The letters of words. -/
def wordLetters : CodeSet :=
  diff (union alphabetic (ranges otherWordLetters))
    (unions [ranges ideographs, katakana, wordExtenders, hebrewLetters, script "hiragana",
      ranges unspacedLetters])

/-- The classes of characters in words. -/
def wordClasses : List (List String × CodeSet) :=
  [(["cr"], single 0xD), (["dq", "doublequote"], single 0x22),
    (["ex", "extendnumlet"], union (ranges connectorPunctuation) (single 0x202F)),
    (["extend"], wordExtenders),
    (["fo", "format"],
      diff (ranges formats)
        (unions [range 0x200B 0x200D, wordExtenders, ranges prependedMarks])),
    (["hl", "hebrewletter"], hebrewLetters), (["ka", "katakana"], katakana),
    (["le", "aletter"], wordLetters), (["lf"], single 0xA),
    (["mb", "midnumlet"], ranges midWords), (["ml", "midletter"], ranges midLetters),
    (["mn", "midnum"], ranges midNumerals),
    (["nl", "newline"], ranges [(0xB, 0xC), (0x85, 0x85), (0x2028, 0x2029)]),
    (["nu", "numeric"], union (ranges decimalNumbers) (ranges otherWordNumerals)),
    (["ri", "regionalindicator"], ranges regionalIndicators),
    (["sq", "singlequote"], single 0x27), (["wsegspace"], ranges wordSpaces),
    (["zwj"], single 0x200D)]

/-- The characters that extend the one before them in sentences. -/
def sentenceExtenders : CodeSet :=
  unions [graphemeExtend, ranges spacingMarks, single 0x200D]

/-- The lowercase characters of sentences. -/
def sentenceLower : CodeSet :=
  diff lowercase (union graphemeExtend (ranges unicameralPairs))

/-- The uppercase characters of sentences. -/
def sentenceUpper : CodeSet := diff raised (ranges unicameralPairs)

/-- The full stops that may end an abbreviation too. -/
def fullStops : CodeSet :=
  ranges [(0x2E, 0x2E), (0x2024, 0x2024), (0xFE52, 0xFE52), (0xFF0E, 0xFF0E)]

/-- The classes of characters in sentences. -/
def sentenceClasses : List (List String × CodeSet) :=
  [(["at", "aterm"], fullStops),
    (["cl", "close"],
      diff (unions [ranges openPunctuation, ranges closePunctuation, ranges initialPunctuation,
          ranges finalPunctuation, ranges quotationMarks, ranges otherSentenceClosers])
        (ranges [(0xFF02, 0xFF02), (0xFF07, 0xFF07)])),
    (["cr"], single 0xD), (["ex", "extend"], sentenceExtenders),
    (["fo", "format"], diff (ranges formats) (union (range 0x200C 0x200D) sentenceExtenders)),
    (["le", "oletter"],
      diff (union alphabetic (single 0x5F3))
        (unions [sentenceLower, sentenceUpper, sentenceExtenders])),
    (["lf"], single 0xA), (["lo", "lower"], sentenceLower),
    (["nu", "numeric"], union (ranges decimalNumbers) (range 0x66B 0x66C)),
    (["sc", "scontinue"], ranges sentenceContinuers),
    (["se", "sep"], ranges [(0x85, 0x85), (0x2028, 0x2029)]),
    (["sp"],
      diff blank (ranges [(0xA, 0xA), (0xD, 0xD), (0x85, 0x85), (0x2028, 0x2029)])),
    (["st", "sterm"], diff (ranges sentenceTerminals) fullStops), (["up", "upper"], sentenceUpper)]

end CodeSet

end Rulebook
