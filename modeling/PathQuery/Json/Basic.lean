/-
# JSON documents

A document is a tree of values.  Arrays hold their elements and objects their members in order; a
`WellFormed` tree has no two members of one object with the same key, and readers only build such
trees.  Kinds classify values, with `true` and `false` as kinds of their own, and rank them.
-/
import PathQuery.Number.Basic

namespace PathQuery

/-- A JSON value. -/
inductive Json where
  | null
  | bool (value : Bool)
  | number (value : Number)
  | string (value : String)
  | array (elements : List Json)
  | object (members : List (String × Json))

/-- The kinds of values. -/
inductive Kind where
  | null
  | number
  | string
  | object
  | array
  | false
  | true
deriving DecidableEq, Repr

namespace Kind

/-- The place of a kind in the order across kinds. -/
def rank : Kind → Nat
  | null => 1
  | number => 2
  | string => 3
  | object => 4
  | array => 5
  | false => 6
  | true => 7

/-- The order across kinds. -/
def order (a b : Kind) : Ordering := compare a.rank b.rank

/-- The name of the type of the values of a kind; the two truth values share one. -/
def typeName : Kind → String
  | null => "JsonNull"
  | number => "JsonNumber"
  | string => "JsonString"
  | object => "JsonObject"
  | array => "JsonArray"
  | false | true => "JsonBoolean"

end Kind

namespace Json

/-- The kind of a value. -/
def kind : Json → Kind
  | null => .null
  | bool true => .true
  | bool false => .false
  | number _ => .number
  | string _ => .string
  | array _ => .array
  | object _ => .object

/-- Is the value an array or an object? -/
def isContainer : Json → Bool
  | array _ | object _ => true
  | _ => false

/-- The values directly below a value, in order. -/
def children : Json → List Json
  | array elements => elements
  | object members => members.map (·.2)
  | _ => []

/-- The member of an object with the given key. -/
def member? (members : List (String × Json)) (key : String) : Option Json :=
  members.lookup key

/-! ## Identity -/

mutual

/-- Are two values the same?  Elements are compared in order, members whatever their order. -/
def same : Json → Json → Bool
  | null, null => true
  | bool a, bool b => a == b
  | number a, number b => a.same b
  | string a, string b => a == b
  | array a, array b => sameElements a b
  | object a, object b => a.length == b.length && sameMembers a b
  | _, _ => false
termination_by structural x => x

/-- Are two lists of elements the same, one by one? -/
def sameElements : List Json → List Json → Bool
  | [], [] => true
  | x :: xs, y :: ys => same x y && sameElements xs ys
  | _, _ => false
termination_by structural x => x

/-- Is each of the members also, with the same value, among the others? -/
def sameMembers : List (String × Json) → List (String × Json) → Bool
  | [], _ => true
  | (key, value) :: rest, others =>
    (match member? others key with
      | some other => same value other
      | none => false) && sameMembers rest others
termination_by structural x => x

end

/-! ## Distinct keys -/

mutual

/-- No object in the value has two members with the same key. -/
def WellFormed : Json → Prop
  | array elements => WellFormedElements elements
  | object members => (members.map (·.1)).Nodup ∧ WellFormedMembers members
  | _ => True

/-- `WellFormed` for each of the elements. -/
def WellFormedElements : List Json → Prop
  | [] => True
  | x :: xs => WellFormed x ∧ WellFormedElements xs

/-- `WellFormed` for the value of each of the members. -/
def WellFormedMembers : List (String × Json) → Prop
  | [] => True
  | (_, value) :: rest => WellFormed value ∧ WellFormedMembers rest

end

/-! ## Locations -/

/-- One way down: to the member with a key or to the element at an index. -/
inductive Access where
  | key (name : String)
  | index (i : Nat)
deriving DecidableEq, Repr

/-- The value one way down. -/
def child? : Json → Access → Option Json
  | object members, .key name => member? members name
  | array elements, .index i => elements[i]?
  | _, _ => none

/-- The value at the end of a way down. -/
def at? (value : Json) : List Access → Option Json
  | [] => some value
  | access :: rest => (value.child? access).bind fun child => child.at? rest

end Json

end PathQuery
