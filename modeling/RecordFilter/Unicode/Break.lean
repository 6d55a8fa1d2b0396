import RecordFilter.Unicode.Property
import RecordFilter.Unicode.Script

set_option autoImplicit false

/-!
# Breaks

The classes of characters by which texts are cut into units that are read as one character, into
words and into sentences. Most follow from other properties; the characters that they add or leave
out are stored here as ranges.
-/

namespace RecordFilter.Unicode

/-- The characters of tags, which extend what they stand after. -/
def tagChars : CharSet := .ofText "e0020-e007f"

/-! ## Units -/

namespace UnitBreak

/-- Characters that extend the preceding one. -/
def extend : CharSet := graphemeExtend.union emojiModifier

/-- The joiner that asks for a joined form. -/
def joiner : CharSet := .single '\u200d'

/-- Characters that are written before others of their unit. -/
def prepend : CharSet := .ofText
  "600-605 6dd 70f 890-891 8e2 d4e 110bd 110cd 111c2-111c3 113d1 1193f 11941 11a3a 11a84-11a89
   11d46 11f02"

/-- Characters that stand alone and have no width. -/
def control : CharSet :=
  (CharSet.unions
    [withCategories [.control, .format, .lineSeparator, .paragraphSeparator],
      defaultIgnorable.intersection (withCategories [.unassigned])]).difference
    (.unions [prepend, tagChars, joinControl, .ofRanges [('\n', '\n'), ('\r', '\r')]])

/-- Marks with a width and two vowel signs. -/
def spacingMark : CharSet :=
  ((withCategories [.spacingMark]).difference
    (extend.union (.ofText
      "102b-102c 1038 1062-1064 1067-106d 1083 1087-108c 108f 109a-109c 1a61 1a63-1a64 aa7b aa7d
   11720-11721"))).union (.ofText "e33 eb3")

/-- Leading consonants of syllables. -/
def leading : CharSet := .ofText "1100-115f a960-a97c"

/-- Vowels of syllables. -/
def vowel : CharSet := .ofText "1160-11a7 d7b0-d7c6 16d63 16d67-16d6a"

/-- Trailing consonants of syllables. -/
def trailing : CharSet := .ofText "11a8-11ff d7cb-d7fb"

/-- Syllables without a trailing consonant: every 28th of the syllables. -/
def openSyllable : CharSet := .ofSortedCodes ((List.range 399).map fun i => 0xAC00 + 28 * i)

/-- Syllables with a trailing consonant. -/
def closedSyllable : CharSet := (CharSet.range '\uac00' '\ud7a3').difference openSyllable

end UnitBreak

/-! ## Words -/

namespace WordBreak

/-- Characters that extend the preceding one. -/
def extend : CharSet :=
  (CharSet.unions [graphemeExtend, withCategories [.spacingMark], emojiModifier]).difference
    UnitBreak.joiner

/-- Characters that are passed over. -/
def format : CharSet :=
  (withCategories [.format]).difference
    (.unions [prependedConcatenationMark, tagChars, joinControl, .single '\u200b'])

/-- Katakana and marks used with it. -/
def katakana : CharSet := (withScript "Kana").union (.ofText "3031-3035 309b-309c 30a0 30fc ff70")

/-- Hebrew letters. -/
def hebrewLetter : CharSet := (withScript "Hebr").intersection (withCategories [.otherLetter])

/-- The characters of scripts that are written without blanks between words. -/
def unspaced : CharSet :=
  .unions (["Thai", "Laoo", "Mymr", "Khmr", "Tale", "Talu", "Lana", "Tavt", "Ahom"].map
    withScript)

/-- Letters of words that are set off by blanks, and marks used like letters. -/
def letter : CharSet :=
  (alphabetic.difference
    (.unions [ideographic, katakana, unspaced, withScript "Hira", extend, hebrewLetter])).union
    (.ofText
      "2c2-2c5 2d2-2d7 2de-2df 2e5-2eb 2ed 2ef-2ff 55a-55c 55e 58a 5f3 70f a708-a716 a720-a721
   a789-a78a ab5b")

/-- Punctuation inside words. -/
def midLetter : CharSet := .ofText "3a b7 387 55f 5f4 2027 fe13 fe55 ff1a"

/-- Punctuation inside numbers. -/
def midNumber : CharSet := .ofText "2c 3b 37e 589 60c-60d 66c 7f8 2044 fe50 fe54 ff0c ff1b"

/-- Punctuation inside words and numbers. -/
def midNumberLetter : CharSet := .ofText "2e 2018-2019 2024 fe52 ff07 ff0e"

/-- Digits and signs of numbers. -/
def numeric : CharSet :=
  (withCategories [.decimalNumber]).union (.ofText "600-605 66b 6dd 890-891 8e2 19da 110bd 110cd")

/-- Characters that connect words and numbers. -/
def connector : CharSet := (withCategories [.connectorPunctuation]).union (.single '\u202f')

/-- Ends of lines, but for the two that stand alone. -/
def newline : CharSet := .ofText "b-c 85 2028-2029"

/-- Blanks at which lines may break. -/
def blank : CharSet :=
  (withCategories [.spaceSeparator]).difference (.ofText "a0 2007 202f")

end WordBreak

/-! ## Sentences -/

namespace SentenceBreak

/-- Characters that extend the preceding one. -/
def extend : CharSet := graphemeExtend.union (withCategories [.spacingMark]) |>.union joinControl

/-- Characters that are passed over. -/
def format : CharSet :=
  (withCategories [.format]).difference
    (.unions [prependedConcatenationMark.difference (.single '\u070f'), tagChars, joinControl])

/-- Lowercase letters, but for those of a script whose capitals are an ornament. -/
def lower : CharSet :=
  lowercaseChars.difference (graphemeExtend.union (.ofText "10d0-10fa 10fd-10ff"))

/-- Uppercase and titlecase letters, but for such ornaments. -/
def upper : CharSet :=
  (uppercaseChars.union (withCategories [.titlecaseLetter])).difference
    (.ofText "1c90-1cba 1cbd-1cbf")

/-- Letters without case. -/
def otherLetter : CharSet :=
  (alphabetic.difference (.unions [lower, upper, extend])).union (.single '\u05f3')

/-- Digits and signs of numbers. -/
def numeric : CharSet := WordBreak.numeric.union (.single '\u066c')

/-- Full stops that may end less than a sentence. -/
def fullStop : CharSet := .ofText "2e 2024 fe52 ff0e"

/-- Punctuation that ends sentences. -/
def terminal : CharSet := sentenceTerminal.difference fullStop

/-- Punctuation inside sentences. -/
def inside : CharSet := .ofText
  "2c-2d 3a-3b 37e 55d 60c-60d 7f8 1802 1808 2013-2014 3001 fe10-fe11 fe13-fe14 fe31-fe32
   fe50-fe51 fe54-fe55 fe58 fe63 ff0c-ff0d ff1a-ff1b ff64"

/-- Brackets and quotation marks. -/
def bracket : CharSet :=
  (CharSet.unions
    [withCategories [.openPunctuation, .closePunctuation, .initialPunctuation, .finalPunctuation],
      .ofText "22 27 275b-2760 2e00-2e01 2e06-2e08 2e0b 1f676-1f678"]).difference
    (terminal.union fullStop)

/-- Ends of paragraphs, but for the two that stand alone. -/
def separator : CharSet := .ofText "85 2028-2029"

/-- Other blanks. -/
def blank : CharSet :=
  whiteSpace.difference (separator.union (.ofRanges [('\n', '\n'), ('\r', '\r')]))

end SentenceBreak

end RecordFilter.Unicode
