/-
# Regular expressions

A regular expression describes pieces of a text.  Besides characters it knows looks: conditions on a
place between two characters, which depend on the neighbours of the place alone.
-/
import PathQuery.Unicode.Alphabetic

namespace PathQuery

/-- A condition on the word characters on either side of a place. -/
inductive WordLook where
  | boundary
  | noBoundary
  | start
  | finish
  | startHalf
  | finishHalf
deriving DecidableEq, Repr

/-- A condition on a place in a text. -/
inductive Look where
  | textStart
  | textFinish
  /-- After a line break or at the start.  In the second form a carriage return breaks lines too. -/
  | lineStart (carriageReturns : Bool)
  /-- Before a line break or at the end. -/
  | lineFinish (carriageReturns : Bool)
  | word (kind : WordLook) (unicode : Bool)
deriving DecidableEq, Repr

/-- Is the character an ASCII letter, a digit or the underscore? -/
def isAsciiWordCharacter (c : Char) : Bool := c.isAlphanum || c == '_'

/-- Does the condition hold, given whether a word character stands before and after the place? -/
def WordLook.holds : WordLook → Bool → Bool → Bool
  | boundary, before, after => before != after
  | noBoundary, before, after => before == after
  | start, before, after => !before && after
  | finish, before, after => before && !after
  | startHalf, before, _ => !before
  | finishHalf, _, after => !after

/-- Does the condition hold between two characters, which are absent at the ends of the text? -/
def Look.holds : Look → Option Char → Option Char → Bool
  | textStart, before, _ => before.isNone
  | textFinish, _, after => after.isNone
  | lineStart carriageReturns, before, after =>
    before.isNone || before == some '\n' ||
      (carriageReturns && before == some '\r' && after != some '\n')
  | lineFinish carriageReturns, before, after =>
    if carriageReturns then
      after.isNone || after == some '\r' || (after == some '\n' && before != some '\r')
    else after.isNone || after == some '\n'
  | word kind unicode, before, after =>
    let isWord := if unicode then isWordCharacter else isAsciiWordCharacter
    kind.holds (before.any isWord) (after.any isWord)

/-- A regular expression. -/
inductive Regex where
  /-- The empty piece. -/
  | empty
  /-- Characters one after the other, at least one. -/
  | literal (text : List Char)
  /-- One character of a set, which may be a set of bytes outside Unicode mode. -/
  | chars (set : CharSet) (ofBytes : Bool)
  /-- The empty piece at a place where a condition holds. -/
  | look (condition : Look)
  | seq (first second : Regex)
  | alt (first second : Regex)
  /-- At least `least` and at most `most` pieces, one after the other.  Which number of pieces is
  tried first changes nothing about whether a text matches. -/
  | iterate (body : Regex) (least : Nat) (most : Option Nat) (longFirst : Bool)
  /-- The group with a number, which is remembered when the expression is used to extract
  pieces. -/
  | group (index : Nat) (body : Regex)
deriving DecidableEq

namespace Regex

/-! ## Lengths -/

/-- Are all pieces that the expression describes empty? -/
def onlyEmpty : Regex → Bool
  | empty => true
  | literal _ => false
  | chars _ _ => false
  | look _ => true
  | seq first second => first.onlyEmpty && second.onlyEmpty
  | alt first second => first.onlyEmpty && second.onlyEmpty
  | iterate body _ _ _ => body.onlyEmpty
  | group _ body => body.onlyEmpty

/-- How many characters a piece has at least; absent if a part describes no piece at all. -/
def leastLength : Regex → Option Nat
  | empty => some 0
  | literal text => some text.length
  | chars set _ => if set.isEmpty then none else some 1
  | look _ => some 0
  | seq first second => do return (← first.leastLength) + (← second.leastLength)
  | alt first second => do return min (← first.leastLength) (← second.leastLength)
  | iterate body least _ _ => body.leastLength.map (least * ·)
  | group _ body => body.leastLength

/-! ## Anchors -/

/-- Does every piece start at the start of the text, as far as the conditions before the first
character show? -/
def startsAtTextStart : Regex → Bool
  | look condition => condition == .textStart
  | seq first second =>
    first.startsAtTextStart || (first.onlyEmpty && second.startsAtTextStart)
  | alt first second => first.startsAtTextStart && second.startsAtTextStart
  | iterate body least _ _ => 0 < least && body.startsAtTextStart
  | group _ body => body.startsAtTextStart
  | _ => false

/-- Does every piece end at the end of the text, as far as the conditions after the last character
show? -/
def endsAtTextFinish : Regex → Bool
  | look condition => condition == .textFinish
  | seq first second =>
    second.endsAtTextFinish || (second.onlyEmpty && first.endsAtTextFinish)
  | alt first second => first.endsAtTextFinish && second.endsAtTextFinish
  | iterate body least _ _ => 0 < least && body.endsAtTextFinish
  | group _ body => body.endsAtTextFinish
  | _ => false

end Regex

end PathQuery
