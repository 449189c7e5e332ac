/-
# Paths

A path is a list of steps; each step leads from a node to the nodes that it selects.  A query step
selects the nodes that satisfy an expression.  Expressions compare operands, which are literals or
paths of their own, and join comparisons by connectives.

Steps may also be built by hand: a list of names or indexes may have any length, and every
comparator may come with or without a right operand.
-/
import PathQuery.Json.Basic

namespace PathQuery

/-- How the two sides of a comparison are compared. -/
inductive Comparator where
  | equal
  | notEqual
  | strictEqual
  | strictNotEqual
  | less
  | lessOrEqual
  | greater
  | greaterOrEqual
  | matchesPattern
  /-- The left side selects anything at all. -/
  | exists
deriving DecidableEq, Repr

/-- How expressions are joined. -/
inductive Connective where
  | and
  | or
deriving DecidableEq, Repr

mutual

/-- A step of a path. -/
inductive Step where
  /-- To the root of the document. -/
  | root
  /-- To the member with a name, or to all members. -/
  | field (name : Option String)
  /-- To the members with the names of a list. -/
  | fields (names : List String)
  /-- To the element at an index, or to all elements. -/
  | index (i : Option Int)
  /-- To the elements at the indexes of a list. -/
  | indexes (is : List Int)
  /-- To the elements of a slice. -/
  | slice (start stop stride : Option Int)
  /-- To the members with a name anywhere below a node, or to all nodes from it on. -/
  | scan (name : Option String)
  /-- To the members with the names of a list anywhere below a node. -/
  | scanFields (names : List String)
  /-- To the children that satisfy an expression. -/
  | query (filter : Expression)
  /-- To the entries of a scan that satisfy an expression. -/
  | queryScan (filter : Expression)

/-- A side of a comparison: a literal, or a path from the node under test.  A path from the root of
the document starts with a step to the root. -/
inductive Operand where
  | literal (value : Json)
  | path (steps : List Step)

/-- A condition on a node. -/
inductive Expression where
  | comparison (comparator : Comparator) (left : Operand) (right : Option Operand)
  | composite (connective : Connective) (parts : List Expression)

end

/-- A path: steps, taken one after the other. -/
abbrev Path := List Step

/-! ## Identity

Two paths are the same if they have the same steps; literals are compared as documents are. -/

mutual

/-- Are two steps the same? -/
def Step.same : Step → Step → Bool
  | .root, .root => true
  | .field a, .field b => a == b
  | .fields a, .fields b => a == b
  | .index a, .index b => a == b
  | .indexes a, .indexes b => a == b
  | .slice a b c, .slice a' b' c' => a == a' && b == b' && c == c'
  | .scan a, .scan b => a == b
  | .scanFields a, .scanFields b => a == b
  | .query a, .query b => a.same b
  | .queryScan a, .queryScan b => a.same b
  | _, _ => false
termination_by structural x => x

/-- Are two paths the same, step by step? -/
def Step.sameList : List Step → List Step → Bool
  | [], [] => true
  | a :: as, b :: bs => a.same b && Step.sameList as bs
  | _, _ => false
termination_by structural x => x

/-- Are two operands the same? -/
def Operand.same : Operand → Operand → Bool
  | .literal a, .literal b => Json.same a b
  | .path a, .path b => Step.sameList a b
  | _, _ => false
termination_by structural x => x

/-- Are two right sides the same, or both absent? -/
def Operand.sameOption : Option Operand → Option Operand → Bool
  | none, none => true
  | some a, some b => a.same b
  | _, _ => false
termination_by structural x => x

/-- Are two expressions the same? -/
def Expression.same : Expression → Expression → Bool
  | .comparison c l r, .comparison c' l' r' =>
    c == c' && l.same l' && Operand.sameOption r r'
  | .composite c parts, .composite c' parts' => c == c' && Expression.sameList parts parts'
  | _, _ => false
termination_by structural x => x

/-- Are two lists of expressions the same, one by one? -/
def Expression.sameList : List Expression → List Expression → Bool
  | [], [] => true
  | a :: as, b :: bs => a.same b && Expression.sameList as bs
  | _, _ => false
termination_by structural x => x

end

end PathQuery
