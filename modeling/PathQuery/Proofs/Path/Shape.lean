/-
# The shape of paths that are read

Steps can be built by hand in ways that no text spells.  A step is *shaped* if it has the form of a
step that is read from a text: lists of names and of indexes have two entries or more, indexes fit a
signed 64-bit word, a comparison has a right side unless it is a test of existence, and connectives
join at least two parts, conjunctions within disjunctions.  A step to the root stands only at the
front of the path of an operand.

Which literals are allowed is a parameter.
-/
import PathQuery.Path.Step
import PathQuery.Number.Basic

namespace PathQuery

/-- The integer fits a signed 64-bit word. -/
def IsSignedWord (i : Int) : Prop := -signedReach ≤ i ∧ i < signedReach

instance : DecidablePred IsSignedWord := fun i =>
  inferInstanceAs (Decidable (-signedReach ≤ i ∧ i < signedReach))

/-- Literals that are spelled exactly: all but floats and containers. -/
def Json.IsExactLiteral : Json → Prop
  | .null | .bool _ | .string _ => True
  | .number (.integer n) => IsSignedWord n.value
  | _ => False

/-- Literals that a text can spell: all but containers.  An integer fits a signed word. -/
def Json.IsLiteral : Json → Prop
  | .null | .bool _ | .string _ => True
  | .number (.integer n) => IsSignedWord n.value
  | .number (.float _) => True
  | .array _ | .object _ => False

mutual

/-- The step has the form of one that is read. -/
inductive Step.Shaped (literal : Json → Prop) : Step → Prop
  | field (name : Option String) : Step.Shaped literal (.field name)
  | fields {names : List String} (hlength : 2 ≤ names.length) : Step.Shaped literal (.fields names)
  | index {i : Option Int} (hword : ∀ n ∈ i, IsSignedWord n) : Step.Shaped literal (.index i)
  | indexes {is : List Int} (hlength : 2 ≤ is.length) (hword : ∀ i ∈ is, IsSignedWord i) :
      Step.Shaped literal (.indexes is)
  | slice {start stop stride : Option Int} (hstart : ∀ n ∈ start, IsSignedWord n)
      (hstop : ∀ n ∈ stop, IsSignedWord n) (hstride : ∀ n ∈ stride, IsSignedWord n) :
      Step.Shaped literal (.slice start stop stride)
  | scan (name : Option String) : Step.Shaped literal (.scan name)
  | scanFields {names : List String} (hlength : 2 ≤ names.length) :
      Step.Shaped literal (.scanFields names)
  | query {filter : Expression} (hfilter : Expression.Shaped literal filter) :
      Step.Shaped literal (.query filter)
  | queryScan {filter : Expression} (hfilter : Expression.Shaped literal filter) :
      Step.Shaped literal (.queryScan filter)

/-- The operand has the form of one that is read. -/
inductive Operand.Shaped (literal : Json → Prop) : Operand → Prop
  | literal {value : Json} (hvalue : literal value) : Operand.Shaped literal (.literal value)
  | relative {steps : List Step} (hsteps : ∀ step ∈ steps, Step.Shaped literal step) :
      Operand.Shaped literal (.path steps)
  | absolute {steps : List Step} (hsteps : ∀ step ∈ steps, Step.Shaped literal step) :
      Operand.Shaped literal (.path (.root :: steps))

/-- The expression is a comparison of the form of one that is read. -/
inductive Expression.IsComparison (literal : Json → Prop) : Expression → Prop
  | exists {left : Operand} (hleft : Operand.Shaped literal left) :
      Expression.IsComparison literal (.comparison .exists left none)
  | pair {comparator : Comparator} {left right : Operand} (hcomparator : comparator ≠ .exists)
      (hleft : Operand.Shaped literal left) (hright : Operand.Shaped literal right) :
      Expression.IsComparison literal (.comparison comparator left (some right))

/-- The expression is a comparison, or joins comparisons by *and*. -/
inductive Expression.IsConjunction (literal : Json → Prop) : Expression → Prop
  | comparison {part : Expression} (hpart : Expression.IsComparison literal part) :
      Expression.IsConjunction literal part
  | and {parts : List Expression} (hlength : 2 ≤ parts.length)
      (hparts : ∀ part ∈ parts, Expression.IsComparison literal part) :
      Expression.IsConjunction literal (.composite .and parts)

/-- The expression is a conjunction, or joins conjunctions by *or*. -/
inductive Expression.Shaped (literal : Json → Prop) : Expression → Prop
  | conjunction {part : Expression} (hpart : Expression.IsConjunction literal part) :
      Expression.Shaped literal part
  | or {parts : List Expression} (hlength : 2 ≤ parts.length)
      (hparts : ∀ part ∈ parts, Expression.IsConjunction literal part) :
      Expression.Shaped literal (.composite .or parts)

end

/-- Every step of the path has the form of one that is read. -/
def Path.Shaped (literal : Json → Prop) (path : Path) : Prop := ∀ step ∈ path, step.Shaped literal

end PathQuery
