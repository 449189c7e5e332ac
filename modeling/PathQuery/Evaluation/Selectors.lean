/-
# Selecting from one node

Each kind of step selects nodes from a given one.  What cannot be selected is left out, or is a
failure in strict mode.
-/
import PathQuery.Evaluation.Run
import PathQuery.Evaluation.Slice
import PathQuery.Json.Scan

namespace PathQuery

namespace Run

/-- Nothing, or a failure in strict mode. -/
def unresolved (strict : Bool) (cause : EvaluationError) : Run :=
  if strict then fail cause else none

end Run

namespace Json

/-- The member with a name, or all members. -/
def selectField (strict : Bool) (name : Option String) : Json → Run
  | .object members =>
    match name with
    | some name =>
      match member? members name with
      | some value => .single value
      | none => .unresolved strict (.missingProperty name)
    | none => .ofList (members.map (·.2))
  | other => .unresolved strict (.noProperty name other.kind)

/-- The members with the listed names, one after the other. -/
def selectFields (strict : Bool) (names : List String) : Json → Run
  | .object members => go members names
  | other => .unresolved strict (.noProperties names other.kind)
where
  /-- The members with names, in the order of the names. -/
  go (members : List (String × Json)) : List String → Run
    | [] => .none
    | name :: rest => selectField strict (some name) (.object members) ++ go members rest

/-- The element at an index, or all elements. -/
def selectIndex (strict : Bool) (i : Option Int) : Json → Run
  | .array elements =>
    match i with
    | some i =>
      match if 0 ≤ i then elements[i.toNat]? else none with
      | some value => .single value
      | none => .unresolved strict (.outOfBounds i)
    | none => .ofList elements
  | other => .unresolved strict (.noIndex i other.kind)

/-- The elements at the listed indexes, one after the other. -/
def selectIndexes (strict : Bool) (node : Json) : List Int → Run
  | [] => .none
  | i :: rest => node.selectIndex strict (some i) ++ selectIndexes strict node rest

/-- The elements in a slice. -/
def selectSlice (strict : Bool) (slice : Slice) : Json → Run
  | .array elements =>
    if slice.count elements.length = 0 then
      .unresolved strict (.emptySlice slice.start slice.stop)
    else .ofList (slice.elements elements)
  | other => .unresolved strict (.noSlice other.kind)

/-- The entries of a scan with a key of their own, or without any. -/
def selectScan (name : Option String) (node : Json) : Run :=
  .ofList ((node.scan.filter (·.key == name)).map (·.node))

/-- The entries of a scan with one of the listed keys. -/
def selectScanFields (names : List String) (node : Json) : Run :=
  .ofList ((node.scan.filter fun entry => entry.key.any names.contains).map (·.node))

end Json

end PathQuery
