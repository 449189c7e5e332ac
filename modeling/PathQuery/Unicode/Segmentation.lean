/-
# Where text is divided

Three properties say how characters join into graphemes, words and sentences.  Each value is a set
of characters, built from categories and other properties with a table of what they do not give.
-/
import PathQuery.Unicode.Property
import PathQuery.Unicode.Script

namespace PathQuery.Unicode

/-- Spacing marks, the zero-width joiner and characters that extend what stands before them. -/
def extendOrSpacingMark : CharSet := .unions [graphemeExtend, spacingMark, .ofRuns "8205 1"]

/-! ## Graphemes -/

/-- Characters that extend a grapheme, modifiers of emoji included. -/
def graphemeContinuation : CharSet := graphemeExtend.union emojiModifier

/-- Characters that stand alone: controls, separators and ignorable code points. -/
def graphemeControl : CharSet :=
  (CharSet.unions [control, format, lineSeparator, paragraphSeparator,
    unassigned.inter defaultIgnorable]).diff
  (.unions [graphemeContinuation, prependedConcatenationMark, .ofRuns "10 1 2 1 8190 2"])

/-- Characters that join the grapheme after them. -/
def graphemePrepend : CharSet :=
  prependedConcatenationMark.union (.ofRuns
    "3406 1 66675 2 525 1 1389 1 1 1 248 1 73 6 700 1 443 1")

/-- Spacing marks that join the grapheme before them. -/
def graphemeSpacingMark : CharSet :=
  (spacingMark.union (.ofRuns "3635 1 127 1")).diff (graphemeContinuation.union (.ofRuns
    "4139 2 11 1 41 3 2 7 21 1 3 6 2 1 10 3 2500 1 1 2 36886 1 1 1 27810 2"))

/-- Leading consonants of Hangul. -/
def hangulLeading : CharSet := .ofRuns "4352 96 38912 29"

/-- Vowels of Hangul and others that join a grapheme in the same way. -/
def hangulVowel : CharSet := .ofRuns "4448 72 50696 23 38300 1 3 4"

/-- Trailing consonants of Hangul. -/
def hangulTrailing : CharSet := .ofRuns "4520 88 50635 49"

/-- Hangul syllables without a trailing consonant, one in 28. -/
def hangulOpenSyllable : CharSet :=
  .ofRanges ((List.range 399).map fun i => (0xAC00 + 28 * i, 0xAC00 + 28 * i))

/-- Hangul syllables with a trailing consonant. -/
def hangulClosedSyllable : CharSet :=
  .ofRanges ((List.range 399).map fun i => (0xAC01 + 28 * i, 0xAC1B + 28 * i))

/-- The values of the grapheme division by their names, without case, blanks, hyphens and
underscores. -/
def graphemeBreak? (name : String) : Option CharSet :=
  match name with
  | "cr" => some (.singleton '\r')
  | "lf" => some (.singleton '\n')
  | "cn" | "control" => some graphemeControl
  | "ex" | "extend" => some graphemeContinuation
  | "l" => some hangulLeading
  | "v" => some hangulVowel
  | "t" => some hangulTrailing
  | "lv" => some hangulOpenSyllable
  | "lvt" => some hangulClosedSyllable
  | "pp" | "prepend" => some graphemePrepend
  | "ri" | "regionalindicator" => some regionalIndicator
  | "sm" | "spacingmark" => some graphemeSpacingMark
  | "zwj" => some (.singleton '\u200d')
  | _ => none

/-! ## Words -/

/-- Format characters that belong to no number and no word. -/
def breakFormat : CharSet :=
  format.diff (.unions [graphemeExtend, prependedConcatenationMark, .ofRuns "8204 2"])

/-- Digits, signs around numbers and the decimal separator of Arabic. -/
def breakNumeric : CharSet :=
  .unions [decimalNumber, .ofRuns "1643 1 4974 1",
    prependedConcatenationMark.diff (.singleton '\u070f')]

/-- Katakana and the marks written with it. -/
def wordKatakana : CharSet :=
  .union ((script? "katakana").getD .empty) (.ofRuns "12337 5 101 2 3 1 91 1 52851 1")

/-- Letters of Hebrew. -/
def hebrewLetter : CharSet := ((script? "hebrew").getD .empty).inter otherLetter

/-- Letters of scripts whose words are written without spaces between them. -/
def unspacedLetter : CharSet := .ofRuns
  "3585 48 1 2 12 7 58 2 1 1 1 5 1 24 1 1 1 10 1 2 9 1 2 5 1 1 21 4 288 43 20 1 16 6 4 4 3 1 3 2 7 3
  4 13 12 1 1777 52 35 1 4 1 371 30 2 5 11 44 4 26 86 53 82 1 5513 5 11 86 6 3 1 90 1 4 240 16
  30688 5 1 10 10 5 97 23 3 1 3 50 1 1 3 2 2 5 2 1 1 1 24 3 21640 56 5986 27 37 7 39081 4 1 7 1 2 1
  291 15 1 29 3 2 1 14 4"

/-- Letters of words in scripts with spaces, and signs that are used like letters. -/
def wordLetter : CharSet :=
  (alphabetic.diff (.unions [ideographic, extendOrSpacingMark, hebrewLetter, unspacedLetter])).union
  (.ofRuns
    "706 4 12 6 6 2 5 7 1 1 1 17 602 3 1 1 43 1 104 1 283 1 40952 15 9 2 103 2 976 1")

/-- The values of the word division by their names, without case, blanks, hyphens and
underscores. -/
def wordBreak? (name : String) : Option CharSet :=
  match name with
  | "cr" => some (.singleton '\r')
  | "lf" => some (.singleton '\n')
  | "nl" | "newline" => some (.ofRuns "11 2 120 1 8098 2")
  | "ex" | "extendnumlet" => some (.ofRuns "95 1 8143 1 15 2 19 1 56798 2 24 3 239 1")
  | "extend" =>
    some ((extendOrSpacingMark.union emojiModifier).diff (.singleton '\u200d'))
  | "fo" | "format" => some (breakFormat.diff (.singleton '\u200b'))
  | "ka" | "katakana" => some wordKatakana
  | "hl" | "hebrewletter" => some hebrewLetter
  | "le" | "aletter" => some wordLetter
  | "nu" | "numeric" => some breakNumeric
  | "mb" | "midnumlet" => some (.ofRuns "46 1 8169 2 10 1 56877 1 180 1 6 1")
  | "ml" | "midletter" => some (.ofRuns "58 1 124 1 719 1 471 1 148 1 6706 1 56811 1 65 1 196 1")
  | "mn" | "midnum" =>
    some (.ofRuns
      "44 1 14 1 834 1 522 1 130 2 94 1 395 1 6219 1 56843 1 3 1 183 1 14 1")
  | "dq" | "doublequote" => some (.singleton '\x22')
  | "sq" | "singlequote" => some (.singleton '\x27')
  | "ri" | "regionalindicator" => some regionalIndicator
  | "wsegspace" => some (.ofRuns "32 1 5727 1 2431 7 1 3 84 1 4000 1")
  | "zwj" => some (.singleton '\u200d')
  | _ => none

/-! ## Sentences -/

/-- Full stops that may also stand within a sentence. -/
def sentenceFullStop : CharSet := .ofRuns "46 1 8181 1 56877 1 187 1"

/-- Small letters, those of Georgian left out, which has no capitals at the start of sentences. -/
def sentenceLower : CharSet :=
  lowercase.diff (graphemeExtend.union (.ofRuns "4304 43 2 3"))

/-- Capital letters, with the same exception. -/
def sentenceUpper : CharSet :=
  (uppercase.union titlecaseLetter).diff (.ofRuns "7312 43 2 3")

/-- Other letters. -/
def sentenceLetter : CharSet :=
  (alphabetic.union (.ofRuns "1523 1")).diff
  (.unions [sentenceLower, sentenceUpper, extendOrSpacingMark])

/-- Brackets and quotation marks. -/
def sentenceClose : CharSet :=
  .unions [openPunctuation, closePunctuation, initialPunctuation, finalPunctuation,
    .ofRuns "34 1 4 1 10035 6 1695 2 4 3 2 1 116842 3"]

/-- The values of the sentence division by their names, without case, blanks, hyphens and
underscores. -/
def sentenceBreak? (name : String) : Option CharSet :=
  match name with
  | "cr" => some (.singleton '\r')
  | "lf" => some (.singleton '\n')
  | "se" | "sep" => some (.ofRuns "133 1 8098 2")
  | "sp" => some (whiteSpace.diff (.ofRuns "10 1 2 1 119 1 8098 2"))
  | "ex" | "extend" => some extendOrSpacingMark
  | "fo" | "format" => some (breakFormat.union (.singleton '\u070f'))
  | "lo" | "lower" => some sentenceLower
  | "up" | "upper" => some sentenceUpper
  | "le" | "oletter" => some sentenceLetter
  | "nu" | "numeric" => some (breakNumeric.union (.singleton '\u066c'))
  | "at" | "aterm" => some sentenceFullStop
  | "st" | "sterm" => some (sentenceTerminal.diff sentenceFullStop)
  | "cl" | "close" => some sentenceClose
  | "sc" | "scontinue" =>
    some (.ofRuns
      "44 2 12 2 834 1 478 1 174 2 490 1 4105 1 5 1 2058 2 4076 1 52750 2 1 2 28 2 29 2 2 2 2 1 10 1
      168 2 12 2 72 1")
  | _ => none

end PathQuery.Unicode
