/-
# Patterns

A pattern is a string of the form `/body/flags`.  The body runs to the last slash.  Of the flags
only `i`, `m` and `s` matter; they are put in front of the body as flags of the regular expression.
A string of another form is a pattern that matches nothing.
-/
import PathQuery.Regex.Reader

namespace PathQuery

/-- The two parts of a pattern. -/
structure Pattern where
  body : List Char
  flags : List Char
deriving DecidableEq

namespace Pattern

/-- The parts of a text at its last slash: what is before and what is after it. -/
def splitLast? : List Char → Option (List Char × List Char)
  | [] => none
  | c :: rest =>
    match splitLast? rest with
    | some (before, after) => some (c :: before, after)
    | none => if c = '/' then some ([], rest) else none

/-- The pattern that a text spells: it starts with a slash, and another one ends the body. -/
def ofText? : List Char → Option Pattern
  | '/' :: rest => (splitLast? rest).map fun (body, flags) => ⟨body, flags⟩
  | _ => none

/-- The text of a pattern. -/
def text (pattern : Pattern) : List Char := '/' :: pattern.body ++ '/' :: pattern.flags

/-- The flags of the regular expression as they stand at its front. -/
def flagText (flags : List Char) : List Char :=
  let whenGiven (flag : Char) : List Char :=
    if flags.contains flag then ['(', '?', flag, ')'] else []
  whenGiven 'i' ++ whenGiven 'm' ++ whenGiven 's'

/-- The text of the regular expression. -/
def expressionText (pattern : Pattern) : List Char := flagText pattern.flags ++ pattern.body

/-- The regular expression of a string, made ready for matching; absent if the string is no
pattern. -/
def compile (literal : String) : Except Regex.Error (Option Marked) :=
  match ofText? literal.toList with
  | none => .ok none
  | some pattern => (Regex.read pattern.expressionText).map fun expression =>
    some (.ofRegex expression)

/-- Does a piece of the input match? -/
def found (compiled : Option Marked) (input : String) : Bool :=
  compiled.any fun expression => expression.search none input.toList

end Pattern

end PathQuery
