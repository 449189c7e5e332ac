/-
# What can be wrong with a pattern

The causes for which the text of a regular expression is refused.
-/

namespace PathQuery

/-- What is wrong with the text of a regular expression. -/
inductive Regex.Error where
  | unclosedGroup
  | unopenedGroup
  | lookAround
  | invalidGroupName
  | repeatedGroupName
  | invalidFlags
  | nothingToRepeat
  | invalidCount
  | unclosedSet
  | invalidRange
  | notInSet
  | backReference
  | unknownEscape
  | unfinishedEscape
  | invalidCodePoint
  | unknownProperty
  /-- Something that needs Unicode mode. -/
  | needsUnicode
  /-- Something that would match a part of a character. -/
  | splitsCharacter
  | tooDeep
  | tooLarge
deriving DecidableEq, Repr

/-- The words for a cause. -/
def Regex.Error.message : Regex.Error → String
  | unclosedGroup => "a group is not closed"
  | unopenedGroup => "a group is closed that was not opened"
  | lookAround => "look-around is not supported"
  | invalidGroupName => "a group has an invalid name"
  | repeatedGroupName => "two groups have the same name"
  | invalidFlags => "the flags of a group are invalid"
  | nothingToRepeat => "there is nothing to repeat"
  | invalidCount => "the count of a repetition is invalid"
  | unclosedSet => "a set is not closed"
  | invalidRange => "a range of a set is invalid"
  | notInSet => "an escape cannot stand in a set"
  | backReference => "back references are not supported"
  | unknownEscape => "an escape is not known"
  | unfinishedEscape => "an escape is not finished"
  | invalidCodePoint => "an escape denotes no character"
  | unknownProperty => "a property is not known"
  | needsUnicode => "Unicode mode is needed here"
  | splitsCharacter => "a part of a character could match"
  | tooDeep => "the nesting is too deep"
  | tooLarge => "the expression is too large"

end PathQuery
