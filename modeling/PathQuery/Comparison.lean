/-
# Comparing values

Values are compared loosely, strictly, or by an order.  Loosely a number equals a number of the same
value, and a value equals a string that spells its text.  Strictly only values of one kind are
equal.  The order ranks values of different kinds by their kinds, unless both can be taken as
numbers.

In a query, arrays and objects are never equal, less or greater: they only are, and differ.
-/
import PathQuery.Json.Writer
import PathQuery.Number.Numeral
import PathQuery.Path.Step

namespace PathQuery

namespace Json

/-- The text of a value when it is compared with a string. -/
def plainText : Json → String
  | .string s => s
  | .bool true => "True"
  | .bool false => "False"
  | .null => ""
  | value => value.toCompact

/-- The value as a number: numbers, and strings that spell one. -/
def asNumber? : Json → Option Extended
  | .number n => some n.extended
  | .string s => Extended.ofText? s.toList
  | _ => none

/-- Is a value loosely equal to another?  The two sides have different roles: only a string on the
right is compared by its text. -/
def looselyEqual (value other : Json) : Bool :=
  value.same other ||
    match value, other with
    | .number a, .number b => a.extended.order b.extended == .eq
    | value, .string text => value.plainText == text
    | _, _ => false

/-- The order of values. -/
def order (left right : Json) : Ordering :=
  match left, right with
  | .string a, .string b => compare a b
  | .number a, .number b => a.extended.order b.extended
  | left, right =>
    if left.kind = right.kind then .eq
    else
      match left.asNumber?, right.asNumber? with
      | some a, some b => a.order b
      | _, _ => left.kind.order right.kind

/-- Are two values of one kind and equal in the order? -/
def strictlyEqual (left right : Json) : Bool :=
  left.kind == right.kind && left.order right == .eq

end Json

/-- Does a comparator hold between two values that are no containers?  Matching is not decided here;
it needs the pattern on the right. -/
def Comparator.holds (comparator : Comparator) (left right : Json) : Bool :=
  match comparator with
  | equal => left.looselyEqual right
  | notEqual => !left.looselyEqual right
  | strictEqual => left.strictlyEqual right
  | strictNotEqual => !left.strictlyEqual right
  | less => left.order right == .lt
  | lessOrEqual => left.order right != .gt
  | greater => left.order right == .gt
  | greaterOrEqual => left.order right != .lt
  | matchesPattern => false
  | «exists» => true

end PathQuery
