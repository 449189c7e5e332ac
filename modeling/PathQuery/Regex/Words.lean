/-
# Expressions that are lists of words

An expression that amounts to a few words, or that is a long choice between literals, is searched
for word by word.  No automaton is made for it, so it is never too large.  To see whether it amounts
to words, the words that its pieces start with are listed in the order in which they are tried.
Since only the first piece that is found matters, what starts with an earlier word does not count,
however large it is.
-/
import PathQuery.Regex.Normal
import PathQuery.Unicode.Encoding

namespace PathQuery.Regex

/-- A word is the encoding of a text. -/
abbrev Word := List Nat

/-- The texts of a choice between literals. -/
def literals? (expression : Regex) : Option (List (List Char)) :=
  expression.alternatives.mapM fun choice =>
    match choice with
    | literal text => some text
    | _ => none

/-! ## Words at the start of pieces -/

/-- A word that pieces start with, and the text that it encodes if it is the whole piece. -/
structure Beginning where
  word : Word
  whole : Option (List Char)

namespace Beginning

/-- Is the word the whole piece? -/
def isWhole (beginning : Beginning) : Bool := beginning.whole.isSome

/-- The beginning of the piece that is a text. -/
def ofText (text : List Char) : Beginning := ⟨text.flatMap Unicode.encode, some text⟩

/-- The start of a beginning that has at most so many bytes. -/
def cut (beginning : Beginning) (length : Nat) : Beginning :=
  if beginning.word.length ≤ length then beginning else ⟨beginning.word.take length, none⟩

/-- The beginning of a piece that has another piece after it. -/
def append (beginning next : Beginning) : Beginning :=
  ⟨beginning.word ++ next.word, do return (← beginning.whole) ++ (← next.whole)⟩

end Beginning

/-- Words that pieces start with, in the order in which they are tried; absent if they cannot be
listed. -/
abbrev Beginnings := Option (List Beginning)

namespace Beginnings

/-- The beginnings of the empty piece. -/
def ofEmpty : Beginnings := some [.ofText []]

/-- How many beginnings are listed at most. -/
def countLimit : Nat := 250

/-- How many bytes of a beginning are listed at most. -/
def lengthLimit : Nat := 100

/-- The beginnings with none of them whole. -/
def unfinished (beginnings : Beginnings) : Beginnings :=
  beginnings.map (·.map fun beginning => { beginning with whole := none })

/-- Is no beginning whole? -/
def isUnfinished (beginnings : Beginnings) : Bool :=
  beginnings.all (·.all fun beginning => !beginning.isWhole)

/-- The beginnings with equal neighbours made one, which is whole if both are. -/
def withoutRepetitions : List Beginning → List Beginning
  | [] => []
  | beginning :: rest =>
    match withoutRepetitions rest with
    | next :: others =>
      if beginning.word = next.word then
        ⟨next.word, if beginning.isWhole then next.whole else none⟩ :: others
      else beginning :: next :: others
    | [] => [beginning]

/-- The beginnings cut to what is listed at most. -/
def limited (beginnings : List Beginning) : List Beginning := beginnings.map (·.cut lengthLimit)

/-- Beginnings of pieces that consist of two pieces.  If there are too many, those of the first
piece are listed alone. -/
def followedBy (first second : Beginnings) : Beginnings := do
  let first ← first
  match second.filter fun second => first.length * second.length ≤ countLimit with
  | some second =>
    some (limited (withoutRepetitions (first.flatMap fun beginning =>
      if beginning.isWhole then second.map beginning.append else [beginning])))
  | none => if first.any (·.word.isEmpty) then none else unfinished (some first)

/-- Beginnings of pieces of two kinds.  If there are too many, only four bytes of each are
listed. -/
def or : Beginnings → Beginnings → Beginnings
  | some first, some second =>
    let small (beginnings : List Beginning) : List Beginning :=
      withoutRepetitions (beginnings.map (·.cut 4))
    if first.length + second.length ≤ countLimit then some (withoutRepetitions (first ++ second))
    else if (small first).length + (small second).length ≤ countLimit then
      some (withoutRepetitions (small first ++ small second))
    else none
  | _, _ => none

/-- The beginnings after so many repetitions of pieces with the given beginnings. -/
def times (beginnings : Beginnings) : Nat → Beginnings → Beginnings
  | 0, front => front
  | count + 1, front =>
    if front.isUnfinished then front else times beginnings count (front.followedBy beginnings)

/-- The beginnings of a repetition, of which at most ten pieces are looked at. -/
def repeated (beginnings : Beginnings) (least : Nat) (most : Option Nat) (longFirst : Bool) :
    Beginnings :=
  if least = 0 then
    let beginnings := if most = some 1 then beginnings else beginnings.unfinished
    if longFirst then beginnings.or ofEmpty else ofEmpty.or beginnings
  else
    let beginnings := beginnings.times (min least 10) ofEmpty
    if most = some least ∧ least ≤ 10 then beginnings else beginnings.unfinished

/-- The beginnings for a set of at most ten characters. -/
def ofSet (set : CharSet) : Beginnings :=
  if set.ranges.foldl (fun count range => count + (range.2 + 1 - range.1)) 0 ≤ 10 then
    some (set.ranges.toList.flatMap fun (first, last) =>
      (List.range' first (last + 1 - first)).map fun code => .ofText [Char.ofNat code])
  else none

end Beginnings

/-! ## Words of an expression -/

/-- Where a part of an expression stands: after a part with the given beginnings, or beside
alternatives with them. -/
inductive Place where
  | after (front : Beginnings)
  | beside (before : Beginnings)

/-- The beginnings at a place with those of what stands there. -/
def Place.add (place : Place) (beginnings : Beginnings) : Beginnings :=
  match place with
  | after front => if front.isUnfinished then front else front.followedBy beginnings
  | beside before => before.or beginnings

/-- The beginnings of the pieces that an expression describes, joined to those of its place. -/
def beginnings (place : Place) : Regex → Beginnings
  | empty => place.add .ofEmpty
  | literal text => place.add (some (Beginnings.limited [.ofText text]))
  | chars set _ => place.add (.ofSet set)
  | look _ => place.add .ofEmpty
  | seq first second =>
    match place with
    | .after front => second.beginnings (.after (first.beginnings (.after front)))
    | .beside _ => place.add (second.beginnings (.after (first.beginnings (.after .ofEmpty))))
  | alt first second =>
    match place with
    | .after _ => place.add (second.beginnings (.beside (first.beginnings (.beside (some [])))))
    | .beside before => second.beginnings (.beside (first.beginnings (.beside before)))
  | iterate body least most longFirst =>
    place.add ((body.beginnings (.after .ofEmpty)).repeated least most longFirst)
  | group _ body => place.add (body.beginnings (.after .ofEmpty))

/-- Has the expression neither looks nor groups? -/
def isPlain : Regex → Bool
  | look _ => false
  | group _ _ => false
  | seq first second => first.isPlain && second.isPlain
  | alt first second => first.isPlain && second.isPlain
  | iterate body _ _ _ => body.isPlain
  | _ => true

/-! ## Lists that are worth a search -/

/-- The bytes that are common in texts of all kinds. -/
def commonBytes : CharSet := .ofRuns
  "10 1 2 1 18 1 7 2 2 7 6 2 36 1 1 9 2 5 1 5 1 2 2 1 3 5 11 1 32 1 3 3 1 5 1 65"

/-- The beginnings without those that start with an earlier one, which are never found. -/
def reachable (beginnings : List Beginning) : List Beginning :=
  beginnings.foldl (fun kept beginning =>
    if kept.any (·.word.isPrefixOf beginning.word) then kept else kept ++ [beginning]) []

/-- What two words start with. -/
def commonStart : Word → Word → Word
  | a :: as, b :: bs => if a = b then a :: commonStart as bs else []
  | _, _ => []

/-- The beginnings cut shorter and shorter until there are few of them: each attempt has a length,
and is made if there are more beginnings than its limit. -/
def shortened (beginnings : List Beginning) : List (Nat × Nat) → List Beginning
  | [] => beginnings
  | (length, limit) :: attempts =>
    if beginnings.length ≤ limit then beginnings
    else shortened (reachable (beginnings.map (·.cut length))) attempts

/-- Are the beginnings whole words that are searched for as they are?  Starts of theirs are searched
for instead if they share one that is rare or long, or if there are many words and a few starts tell
them from other texts; then the rest has to be checked. -/
def areWords (beginnings : List Beginning) : Bool :=
  let kept := reachable beginnings
  let allWhole := kept.all (·.isWhole)
  let shared := match kept.map (·.word) with
    | [] => []
    | first :: rest => rest.foldl commonStart first
  let isRare := shared.head?.any fun byte => !commonBytes.contains (Char.ofNat byte)
  if kept.isEmpty || beginnings.any (·.word.isEmpty) || !allWhole then false
  else if 1 < beginnings.length ∧ shared.length ≤ 3 ∧ isRare then
    kept.all (·.word.length ≤ 1)
  else if 4 < shared.length ∨ (1 < shared.length ∧ 16 < kept.length) then kept.length = 1
  else
    let starts := shortened kept [(5, 10), (4, 10), (3, 64), (2, 64), (1, 10)]
    starts.any (·.word.length ≤ 2) || 64 < starts.length || starts.all (·.isWhole)

/-- So many literals are always searched for as words. -/
def manyWords : Nat := 3000

/-- The texts that are searched for instead of the expression, if it is searched for word by
word. -/
def wordSearch? (expression : Regex) : Option (List (List Char)) :=
  let many := (literals? expression).filter (manyWords ≤ ·.length)
  let few := if expression.isPlain then expression.beginnings (.after .ofEmpty) else none
  many.or ((few.filter areWords).map fun beginnings =>
    (reachable beginnings).filterMap (·.whole))

end PathQuery.Regex
