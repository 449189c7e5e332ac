/-
# What can go wrong in an evaluation

A step that cannot be taken is a failure in strict mode only.  A slice with a step of zero and a
pattern that cannot be read always are.
-/
import PathQuery.Json.Basic
import PathQuery.Number.Notation
import PathQuery.Regex.Error

namespace PathQuery

/-- Why an evaluation fails. -/
inductive EvaluationError where
  | missingProperty (name : String)
  /-- A member is asked of a value that is no object; no name stands for any. -/
  | noProperty (name : Option String) (kind : Kind)
  | noProperties (names : List String) (kind : Kind)
  | outOfBounds (i : Int)
  /-- An element is asked of a value that is no array; no index stands for any. -/
  | noIndex (i : Option Int) (kind : Kind)
  | noSlice (kind : Kind)
  | emptySlice (start stop : Option Int)
  | zeroStep
  | invalidPattern (cause : Regex.Error)
  /-- One match at most was asked for, and there are more. -/
  | multipleMatches
deriving DecidableEq

namespace EvaluationError

/-- An optional integer, with a star for none. -/
def bound : Option Int → String
  | none => "*"
  | some i => String.ofList (integerText i)

/-- A name in quotes. -/
def quoted (name : String) : String := "'" ++ name ++ "'"

/-- The message for a cause. -/
def message : EvaluationError → String
  | missingProperty name => "Property " ++ quoted name ++ " does not exist on JsonObject."
  | noProperty name kind =>
    "Property " ++ quoted (name.getD "*") ++ " not valid on " ++ kind.typeName ++ "."
  | noProperties names kind =>
    "Properties " ++ String.intercalate ", " (names.map quoted) ++ " not valid on " ++
      kind.typeName ++ "."
  | outOfBounds i => "Index " ++ bound (some i) ++ " outside the bounds of JsonArray."
  | noIndex i kind => "Index " ++ bound i ++ " not valid on " ++ kind.typeName ++ "."
  | noSlice kind => "Array slice is not valid on " ++ kind.typeName ++ "."
  | emptySlice start stop =>
    "Array slice of " ++ bound start ++ " to " ++ bound stop ++ " returned no results."
  | zeroStep => "Step cannot be zero."
  | invalidPattern cause => "Invalid regex pattern: " ++ cause.message
  | multipleMatches => "Path returned multiple tokens."

end EvaluationError

end PathQuery
