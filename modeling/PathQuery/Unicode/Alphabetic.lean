/-
# Alphabetic characters, white space and word characters

The three sets of characters that paths and patterns ask for by name.  White space is the Unicode
property; a word character is alphabetic, a mark, a decimal digit, connecting punctuation or a
joiner.  For ASCII the predicates agree with the ones on `Char`, and are decided without a table.
The sets that patterns name are those of Unicode 16.0.  Names and flags in the text of a path may
also use the letters and digits that Unicode 17.0 added.
-/
import PathQuery.Unicode.Category

namespace PathQuery.Unicode

/-- Alphabetic characters that are neither letters nor letter numbers. -/
def otherAlphabetic : CharSet := .ofRuns
  "837 1 29 13 576 14 1 1 1 2 1 2 1 1 72 11 48 13 1 7 16 1 101 7 4 4 2 2 4 1 35 1 30 16
  102 11 101 2 3 9 1 3 1 4 106 1 60 12 3 7 6 20 54 2 2 15 1 2 5 3 10 2 29 3 58 7 2 2 2
  2 10 1 10 2 29 3 58 5 4 2 2 2 4 1 30 2 3 1 11 3 58 8 1 3 1 2 21 2 22 3 4 3 58 7 2 2
  2 2 9 2 10 2 30 1 59 5 3 3 1 3 10 1 40 5 57 7 1 3 1 3 8 2 11 2 29 3 58 7 1 3 1 3 8 2
  11 2 15 1 12 4 58 7 1 3 1 3 10 1 10 2 29 3 75 6 1 1 1 8 18 2 61 1 2 7 18 1 99 1 2 6
  1 2 16 1 163 19 9 11 1 36 110 12 1 1 2 4 23 4 4 3 1 3 2 7 3 4 13 12 1 1 10 4 1652 2
  30 2 30 2 30 2 66 19 188 2 34 1 118 12 4 9 222 5 57 10 2 20 74 2 11 3 49 5 48 15 60
  3 30 9 2 2 57 11 50 19 412 34 1729 52 2294 32 30836 8 34 2 354 1 8 1 23 5 88 2 50 16
  1 1 57 1 38 5 28 12 45 4 48 12 37 1 67 14 12 1 8 2 45 3 50 1 1 3 2 2 5 1 44 5 5 1
  237 8 20275 1 2135 5 1670 3 1 2 5 4 788 4 65 1 321 2 79 1 259 3 53 14 45 2 11 3 45 9
  9 1 61 3 36 12 18 2 57 3 48 13 14 2 92 9 2 1 6 1 2 1 157 10 23 4 58 7 2 2 2 2 10 1
  10 2 84 9 1 1 2 1 1 4 1 2 103 13 1 3 106 18 237 7 2 7 29 2 82 15 1 1 106 11 103 14
  257 13 247 6 1 2 2 2 3 1 1 1 142 7 2 6 4 1 28 10 42 5 1 4 18 11 46 14 407 8 1 7 83
  22 1 14 122 6 3 1 1 2 1 3 1 1 3 1 66 5 1 2 1 4 348 4 9 2 1 1 48 7 3 3 16861 17 3616
  1 1 55 7 4 93 2 19628 1 9057 7 1 17 2 7 1 2 1 5 100 1 2231 1 2024 26 6 26 6 26"

/-- Alphabetic characters. -/
def alphabetic : CharSet := .unions [letter, letterNumber, otherAlphabetic]

/-- White space. -/
def whiteSpace : CharSet := .ofRuns "9 5 18 1 100 1 26 1 5599 1 2431 11 29 2 5 1 47 1 4000 1"

/-- The zero-width non-joiner and joiner. -/
def joinControl : CharSet := .ofRuns "8204 2"

/-- Word characters. -/
def wordCharacter : CharSet :=
  .unions [alphabetic, mark, decimalNumber, connectorPunctuation, joinControl]

/-- Alphabetic characters that Unicode 17.0 added. -/
def addedAlphabetic : CharSet := .ofRuns
  "2191 1 972 1 127 1 39665 2 2 1 1 1 28 1 24910 26 1387 3 50 2 3172 8 584 44 20676 25 2
  25 286 5 6145 8 1289 22 97 115 22733 31 1 22 8 2 53306 6 5986 12 21762 4298"

/-- Numbers that Unicode 17.0 added. -/
def addedNumber : CharSet := .ofRuns
  "73184 10 21002 3"

end PathQuery.Unicode

namespace PathQuery

/-- Is the character alphabetic? -/
def isAlphabetic (c : Char) : Bool :=
  if c.toNat < 128 then c.isAlpha
  else Unicode.alphabetic.contains c || Unicode.addedAlphabetic.contains c

/-- Is the character alphabetic or a number of any kind? -/
def isAlphanumeric (c : Char) : Bool :=
  if c.toNat < 128 then c.isAlphanum
  else isAlphabetic c || Unicode.number.contains c || Unicode.addedNumber.contains c

/-- Is the character white space? -/
def isBlank (c : Char) : Bool :=
  if c.toNat < 128 then c == ' ' || (9 ≤ c.toNat && c.toNat ≤ 13)
  else Unicode.whiteSpace.contains c

/-- Is the character a word character? -/
def isWordCharacter (c : Char) : Bool :=
  if c.toNat < 128 then c.isAlphanum || c == '_' else Unicode.wordCharacter.contains c

/-- The text without white space at either end. -/
def trimBlanks (text : List Char) : List Char :=
  ((text.dropWhile isBlank).reverse.dropWhile isBlank).reverse

end PathQuery
