/-
# Matching regular expressions

Matching reads a text once.  A `Marked` expression records, at each set of characters, whether the
last character was taken there; taking the next character moves the marks.  A mark at the end of the
expression, or an expression that is satisfied without any character, means that a piece of the text
ends here that the expression describes.  Since a new piece may start at every place, a search lets
marks enter everywhere.

Most parts of a large expression have no mark at any one time.  They are left alone: every part says
whether there is a mark in it.
-/
import PathQuery.Regex.Basic

namespace PathQuery

/-- What is known about a part of an expression: whether it has a mark, and whether it is satisfied
without any character, unless this depends on the place. -/
structure Summary where
  hasMark : Bool
  nullable : Option Bool

/-- A regular expression with marks at the sets of characters.  Repetitions are unfolded except for
`plus`, one or more. -/
inductive Marked where
  | empty
  | chars (set : CharSet) (mark : Bool)
  | look (condition : Look)
  | seq (summary : Summary) (first second : Marked)
  | alt (summary : Summary) (first second : Marked)
  | plus (summary : Summary) (body : Marked)

namespace Marked

/-! ## Building expressions -/

/-- What is known about an expression. -/
def summary : Marked → Summary
  | empty => ⟨false, some true⟩
  | chars _ mark => ⟨mark, some false⟩
  | look _ => ⟨false, none⟩
  | seq summary _ _ => summary
  | alt summary _ _ => summary
  | plus summary _ => summary

/-- The result of an operation one of whose operands decides it if it equals `decisive`. -/
def knownResult (decisive : Bool) : Option Bool → Option Bool → Option Bool
  | some a, some b => some (if a = decisive then a else b)
  | some a, none => if a = decisive then some a else none
  | none, some b => if b = decisive then some b else none
  | none, none => none

/-- Two expressions one after the other. -/
def join (first second : Marked) : Marked :=
  let a := first.summary
  let b := second.summary
  seq ⟨a.hasMark || b.hasMark, knownResult false a.nullable b.nullable⟩ first second

/-- Either of two expressions. -/
def either (first second : Marked) : Marked :=
  let a := first.summary
  let b := second.summary
  alt ⟨a.hasMark || b.hasMark, knownResult true a.nullable b.nullable⟩ first second

/-- An expression once or more. -/
def many (body : Marked) : Marked := plus body.summary body

/-! ## Unfolding -/

/-- So many copies one after the other, halved so that the result is not deep. -/
def copies (body : Marked) (count : Nat) : Marked :=
  if count = 0 then empty
  else if count = 1 then body
  else
    let half := copies body (count / 2)
    if count % 2 = 0 then join half half else join body (join half half)
termination_by count

/-- The characters of a text one after the other. -/
def ofText (text : List Char) : Marked :=
  text.foldr (fun c rest => join (chars (.singleton c) false) rest) empty

/-- The expression or nothing. -/
def optional (body : Marked) : Marked := either body empty

/-- The expression without any mark. -/
def ofRegex : Regex → Marked
  | .empty => empty
  | .literal text => ofText text
  | .chars set _ => chars set false
  | .look condition => look condition
  | .seq first second => join (ofRegex first) (ofRegex second)
  | .alt first second => either (ofRegex first) (ofRegex second)
  | .iterate body least none _ =>
    if least = 0 then optional (many (ofRegex body))
    else join (copies (ofRegex body) (least - 1)) (many (ofRegex body))
  | .iterate body least (some most) _ =>
    join (copies (ofRegex body) least) (copies (optional (ofRegex body)) (most - least))
  | .group _ body => ofRegex body

/-! ## Moving marks

An expression is asked about a place between two characters, which are absent at the ends of the
text. -/

/-- Is the expression satisfied at the place without any character? -/
def isNullable (before after : Option Char) : Marked → Bool
  | empty => true
  | chars _ _ => false
  | look condition => condition.holds before after
  | seq summary first second =>
    match summary.nullable with
    | some known => known
    | none => first.isNullable before after && second.isNullable before after
  | alt summary first second =>
    match summary.nullable with
    | some known => known
    | none => first.isNullable before after || second.isNullable before after
  | plus summary body =>
    match summary.nullable with
    | some known => known
    | none => body.isNullable before after

/-- An expression without marks after the next character, if a piece starts at the place. -/
def enter (before after : Option Char) : Marked → Marked
  | empty => empty
  | chars set _ => chars set (after.any set.contains)
  | look condition => look condition
  | seq _ first second =>
    join (first.enter before after)
      (if first.isNullable before after then second.enter before after else second)
  | alt _ first second => either (first.enter before after) (second.enter before after)
  | plus _ body => many (body.enter before after)

/-- What an expression does at a place: whether it is satisfied there without any character, whether
a mark is at its end, and the expression after the next character, given whether a piece may start
at the place. -/
structure Move where
  nullable : Bool
  final : Bool
  next : Bool → Marked

/-- The move of an expression without marks. -/
def rest (before after : Option Char) (expression : Marked) : Move where
  nullable := expression.isNullable before after
  final := false
  next entering := if entering then expression.enter before after else expression

/-- The move of an expression. -/
def move (before after : Option Char) : Marked → Move
  | empty => rest before after empty
  | chars set mark => { rest before after (chars set false) with final := mark }
  | look condition => rest before after (look condition)
  | seq summary first second =>
    if summary.hasMark then
      let left := first.move before after
      let right := second.move before after
      { nullable := left.nullable && right.nullable
        final := right.final || (left.final && right.nullable)
        next := fun entering =>
          join (left.next entering) (right.next ((entering && left.nullable) || left.final)) }
    else rest before after (seq summary first second)
  | alt summary first second =>
    if summary.hasMark then
      let left := first.move before after
      let right := second.move before after
      { nullable := left.nullable || right.nullable
        final := left.final || right.final
        next := fun entering => either (left.next entering) (right.next entering) }
    else rest before after (alt summary first second)
  | plus summary body =>
    if summary.hasMark then
      let inner := body.move before after
      { nullable := inner.nullable
        final := inner.final
        next := fun entering => many (inner.next (entering || inner.final)) }
    else rest before after (plus summary body)

/-- Does a piece that the expression describes end in the text, which follows the character
`before`? -/
def search (expression : Marked) (before : Option Char) (text : List Char) : Bool :=
  let here := expression.move before text.head?
  if here.nullable || here.final then true
  else
    match text with
    | [] => false
    | c :: rest => search (here.next true) (some c) rest

end Marked

end PathQuery
