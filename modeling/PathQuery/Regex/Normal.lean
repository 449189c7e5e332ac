/-
# Expressions in normal form

Expressions are built by functions that simplify them: characters next to each other become one
literal, sequences and choices are flat, a choice between characters is a set, and what all
alternatives start with is written once.  The simplifications keep what an expression describes.
They decide, however, how large its automaton is.
-/
import PathQuery.Regex.Basic

namespace PathQuery.Regex

/-! ## Sets -/

/-- One character of a set.  A set of one character is a literal, and of the empty set there is one
form only. -/
def oneOf (set : CharSet) (ofBytes : Bool) : Regex :=
  match set.ranges.toList with
  | [] => chars .empty true
  | [(first, last)] => if first = last then literal [Char.ofNat first] else chars set ofBytes
  | _ => chars set ofBytes

/-! ## Sequences -/

/-- The parts of a sequence. -/
def parts : Regex → List Regex
  | empty => []
  | seq first second => first :: second.parts
  | single => [single]

/-- The sequence with the given parts. -/
def ofParts : List Regex → Regex
  | [] => empty
  | [single] => single
  | first :: rest => seq first (ofParts rest)

/-- The parts with one more in front, which is joined to a literal after it if it is one. -/
def addPart : Regex → List Regex → List Regex
  | literal text, literal more :: rest => literal (text ++ more) :: rest
  | first, rest => first :: rest

/-- The expressions one after the other. -/
def sequence (expressions : List Regex) : Regex :=
  ofParts ((expressions.flatMap parts).foldr addPart [])

/-! ## Repetitions -/

/-- A repetition, with needless repetitions of empty pieces left out. -/
def repeated (body : Regex) (least : Nat) (most : Option Nat) (longFirst : Bool) : Regex :=
  let least := if body.onlyEmpty then min least 1 else least
  let most := if body.onlyEmpty then some (min (most.getD 1) 1) else most
  if most = some 0 then empty
  else if least = 1 ∧ most = some 1 then body
  else iterate body least most longFirst

/-! ## Choices -/

/-- The alternatives of a choice. -/
def alternatives : Regex → List Regex
  | alt first second => first :: second.alternatives
  | single => [single]

/-- The choice between the given alternatives. -/
def ofAlternatives : List Regex → Regex
  | [] => chars .empty true
  | [single] => single
  | first :: rest => alt first (ofAlternatives rest)

/-- The character of a literal that has only one. -/
def singleChar? : Regex → Option Char
  | literal [c] => some c
  | _ => none

/-- The set of an expression that is one. -/
def set? : Regex → Option CharSet
  | chars set _ => some set
  | _ => none

/-- Any of the alternatives; those that are all characters or all sets become one set. -/
def merged (choices : List Regex) : Regex :=
  match choices with
  | [] => chars .empty true
  | [single] => single
  | choices =>
    match choices.mapM singleChar?, choices.mapM set? with
    | some letters, _ => oneOf (.ofChars letters) false
    | none, some sets => oneOf (.unions sets) false
    | none, none => ofAlternatives choices

/-- What two lists start with. -/
def commonFront : List Regex → List Regex → List Regex
  | a :: as, b :: bs => if a = b then a :: commonFront as bs else []
  | _, _ => []

/-- Is the expression a sequence of at least two parts? -/
def isSequence : Regex → Bool
  | seq _ _ => true
  | _ => false

/-- The parts that all alternatives start with, if all are sequences. -/
def sharedFront : List Regex → List Regex
  | [] => []
  | first :: rest =>
    if first.isSequence && rest.all isSequence then
      rest.foldl (fun front choice => commonFront front choice.parts) first.parts
    else []

/-- Any of the expressions. -/
def choice (expressions : List Regex) : Regex :=
  let choices := expressions.flatMap alternatives
  match merged choices with
  | alt first second =>
    match sharedFront choices with
    | [] => alt first second
    | front =>
      let rests := choices.map fun choice => ofParts (choice.parts.drop front.length)
      sequence (front ++ [merged (rests.flatMap alternatives)])
  | simpler => simpler

end PathQuery.Regex
