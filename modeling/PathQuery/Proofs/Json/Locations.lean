/-
# What a scan reports

A value has a node at every location, and `Json.locations` lists the locations, each of them once
and in the order of the document.  A scan goes through this list: it reports the node at a location
without a key, and if the node is the value of a member, it reports it with its key just before
(`Json.scan_eq_flatMap_reports`).  So a scan has as many entries as there are nodes and members.
-/
import Mathlib.Data.List.Basic
import PathQuery.Proofs.Json.Order

namespace PathQuery.Json

variable {value : Json}

/-! ## Locations -/

mutual

/-- The locations of all nodes of a value, each before the ones below it. -/
def locations : Json → List (List Nat)
  | array elements => [] :: locationsOfElements 0 elements
  | object members => [] :: locationsOfMembers 0 members
  | _ => [[]]

/-- The locations in elements, of which the first has the given position. -/
def locationsOfElements (i : Nat) : List Json → List (List Nat)
  | [] => []
  | x :: xs => (locations x).map (i :: ·) ++ locationsOfElements (i + 1) xs

/-- The locations in the values of members, of which the first has the given position. -/
def locationsOfMembers (i : Nat) : List (String × Json) → List (List Nat)
  | [] => []
  | (_, value) :: rest => (locations value).map (i :: ·) ++ locationsOfMembers (i + 1) rest

end

lemma locationsOfElements_eq_flatMap (i : Nat) (elements : List Json) :
    locationsOfElements i elements
      = (elements.zipIdx i).flatMap fun child => child.1.locations.map (child.2 :: ·) := by
  induction elements generalizing i with
  | nil => rfl
  | cons x xs ih => rw [locationsOfElements, ih, List.zipIdx_cons, List.flatMap_cons]

lemma locationsOfMembers_eq_flatMap (i : Nat) (members : List (String × Json)) :
    locationsOfMembers i members
      = ((members.map (·.2)).zipIdx i).flatMap
          fun child => child.1.locations.map (child.2 :: ·) := by
  induction members generalizing i with
  | nil => rfl
  | cons member rest ih =>
    obtain ⟨key, value⟩ := member
    rw [locationsOfMembers, ih, List.map_cons, List.zipIdx_cons, List.flatMap_cons]

/-- One level: the value itself, and then child by child. -/
lemma locations_eq (value : Json) :
    value.locations
      = [] :: value.children.zipIdx.flatMap fun child => child.1.locations.map (child.2 :: ·) := by
  cases value with
  | array elements => rw [locations, locationsOfElements_eq_flatMap, children]
  | object members => rw [locations, locationsOfMembers_eq_flatMap, children]
  | _ => rfl

/-- The locations are those of the nodes, and no others. -/
lemma mem_locations_iff {location : List Nat} :
    location ∈ value.locations ↔ ∃ node, value.descendant? location = some node := by
  induction location generalizing value with
  | nil =>
    rw [locations_eq]
    exact ⟨fun _ => ⟨value, rfl⟩, fun _ => List.mem_cons_self⟩
  | cons i rest ih =>
    have hchild : i :: rest ∈ value.locations
        ↔ ∃ child, value.children[i]? = some child ∧ rest ∈ child.locations := by
      rw [locations_eq]
      simp only [List.mem_cons, reduceCtorEq, false_or, List.mem_flatMap, Prod.exists,
        List.mem_map, List.mem_zipIdx_iff_getElem?, List.cons.injEq]
      constructor
      · rintro ⟨child, j, hj, location, hlocation, rfl, rfl⟩
        exact ⟨child, hj, hlocation⟩
      · rintro ⟨child, hi, hlocation⟩
        exact ⟨child, i, hi, rest, hlocation, rfl, rfl⟩
    rw [hchild, descendant?]
    constructor
    · rintro ⟨child, hi, hlocation⟩
      obtain ⟨node, hnode⟩ := ih.1 hlocation
      exact ⟨node, by rw [hi, Option.bind_some, hnode]⟩
    · rintro ⟨node, hnode⟩
      obtain ⟨child, hi, hnode⟩ := Option.bind_eq_some_iff.1 hnode
      exact ⟨child, hi, ih.2 ⟨node, hnode⟩⟩

/-- No location is listed twice, and none out of order. -/
lemma pairwise_locations (value : Json) : value.locations.Pairwise (· < ·) := by
  induction value using induction_children with
  | step value ih =>
    rw [locations_eq, List.pairwise_cons, List.pairwise_flatMap]
    refine ⟨?_, ?_, ?_⟩
    · intro location hlocation
      obtain ⟨child, -, hlocation⟩ := List.mem_flatMap.1 hlocation
      obtain ⟨tail, -, rfl⟩ := List.mem_map.1 hlocation
      exact List.nil_lt_cons _ _
    · rintro ⟨child, i⟩ hchild
      have hmem := List.mem_of_getElem? (List.mem_zipIdx_iff_getElem?.1 hchild)
      exact (ih child hmem).map _ fun a b hab => List.cons_lt_cons_self.2 hab
    · -- the positions of the children increase, and locations begin with them
      have hpositions : (value.children.zipIdx.map Prod.snd).Pairwise (· < ·) := by
        rw [List.zipIdx_map_snd]
        exact List.pairwise_lt_range'
      refine (List.pairwise_map.1 hpositions).imp ?_
      intro a b hab location hlocation other hother
      obtain ⟨tail, -, rfl⟩ := List.mem_map.1 hlocation
      obtain ⟨tail', -, rfl⟩ := List.mem_map.1 hother
      exact List.cons_lt_cons_iff.2 (Or.inl hab)

/-! ## Reports -/

/-- The key of the member whose value is the child at a position. -/
def memberKey? : Json → Nat → Option String
  | object members, i => members[i]?.map (·.1)
  | _, _ => none

/-- The key of the node at a location, if the node is the value of a member there. -/
def key? (value : Json) : List Nat → Option String
  | [] => none
  | [i] => value.memberKey? i
  | i :: rest => value.children[i]?.bind fun child => child.key? rest

/-- What a scan reports of the node at a location: with its key, if it has one there, and then
without any. -/
def reports (value : Json) (location : List Nat) : List Entry :=
  (value.descendant? location).toList.flatMap fun node =>
    (value.key? location).toList.map (fun key => ⟨some key, node⟩) ++ [⟨none, node⟩]

lemma reports_nil (value : Json) : value.reports [] = [⟨none, value⟩] := rfl

lemma reports_singleton {child : Json} {i : Nat} (hchild : value.children[i]? = some child) :
    value.reports [i]
      = (value.memberKey? i).toList.map (fun key => ⟨some key, child⟩) ++ child.reports [] := by
  rw [reports, descendant?, hchild]
  exact List.append_nil _

lemma reports_cons {child : Json} {i : Nat} (hchild : value.children[i]? = some child)
    {location : List Nat} (hlocation : location ≠ []) :
    value.reports (i :: location) = child.reports location := by
  obtain ⟨j, rest, rfl⟩ := List.exists_cons_of_ne_nil hlocation
  rw [reports, descendant?, key?, hchild, Option.bind_some, Option.bind_some, reports]
  simp

/-- The reports in a child: those from the child on, behind its key if it is the value of a
member. -/
lemma flatMap_reports_child {child : Json} {i : Nat} (hchild : value.children[i]? = some child) :
    (child.locations.map (i :: ·)).flatMap value.reports
      = (value.memberKey? i).toList.map (fun key => ⟨some key, child⟩)
          ++ child.locations.flatMap child.reports := by
  have hbelow : ∀ location ∈ child.children.zipIdx.flatMap
      (fun next => next.1.locations.map (next.2 :: ·)),
      value.reports (i :: location) = child.reports location := by
    intro location hlocation
    obtain ⟨next, -, hlocation⟩ := List.mem_flatMap.1 hlocation
    obtain ⟨rest, -, rfl⟩ := List.mem_map.1 hlocation
    exact reports_cons hchild (List.cons_ne_nil _ _)
  rw [locations_eq, List.map_cons, List.flatMap_cons, List.flatMap_cons, List.flatMap_map,
    List.flatMap_congr hbelow, reports_singleton hchild, List.append_assoc]

/-- One level of a scan: the value itself, and then child by child. -/
lemma scan_eq (value : Json) :
    value.scan = ⟨none, value⟩ :: value.children.zipIdx.flatMap fun child =>
      (value.memberKey? child.2).toList.map (fun key => ⟨some key, child.1⟩) ++ child.1.scan := by
  cases value with
  | array elements =>
    have hfirst := List.flatMap_map Prod.fst scan elements.zipIdx
    rw [List.zipIdx_map_fst] at hfirst
    rw [scan, scanElements_eq_flatMap, hfirst]
    rfl
  | object members =>
    have hmember : ∀ member ∈ members.zipIdx,
        ((object members).memberKey? member.2).toList.map (fun key => ⟨some key, member.1.2⟩)
            ++ member.1.2.scan
          = (⟨some member.1.1, member.1.2⟩ :: member.1.2.scan : List Entry) := by
      intro member hmem
      rw [memberKey?, List.mem_zipIdx_iff_getElem?.1 hmem]
      rfl
    have hfirst := List.flatMap_map Prod.fst
      (fun member : String × Json => (⟨some member.1, member.2⟩ :: member.2.scan : List Entry))
      members.zipIdx
    rw [List.zipIdx_map_fst] at hfirst
    rw [scan, scanMembers_eq_flatMap, hfirst, children, List.zipIdx_map, List.flatMap_map]
    exact congrArg _ (List.flatMap_congr hmember).symm
  | _ => rfl

/-- A scan reports the node at every location, in the order of the locations. -/
lemma scan_eq_flatMap_reports (value : Json) :
    value.scan = value.locations.flatMap value.reports := by
  induction value using induction_children with
  | step value ih =>
    rw [scan_eq, locations_eq, List.flatMap_cons, reports_nil, List.flatMap_assoc]
    refine congrArg _ (List.flatMap_congr fun child hchild => ?_)
    have hchild := List.mem_zipIdx_iff_getElem?.1 hchild
    rw [flatMap_reports_child hchild, ← ih child.1 (List.mem_of_getElem? hchild)]

/-! ## Counting -/

mutual

/-- How many members the objects in a value have, all together. -/
def memberCount : Json → Nat
  | array elements => memberCountOfElements elements
  | object members => memberCountOfMembers members
  | _ => 0

/-- How many members the objects in elements have. -/
def memberCountOfElements : List Json → Nat
  | [] => 0
  | x :: xs => memberCount x + memberCountOfElements xs

/-- How many members there are, those of the objects in their values included. -/
def memberCountOfMembers : List (String × Json) → Nat
  | [] => 0
  | (_, value) :: rest => 1 + memberCount value + memberCountOfMembers rest

end

mutual

/-- A scan has an entry for every node and one more for every member. -/
lemma length_scan : (value : Json) →
    value.scan.length = value.locations.length + value.memberCount
  | array elements => by
    have hlength := length_scanElements 0 elements
    rw [scan, locations, memberCount, List.length_cons, List.length_cons]
    omega
  | object members => by
    have hlength := length_scanMembers 0 members
    rw [scan, locations, memberCount, List.length_cons, List.length_cons]
    omega
  | null | bool _ | number _ | string _ => rfl

lemma length_scanElements (i : Nat) : (elements : List Json) →
    (scanElements elements).length
      = (locationsOfElements i elements).length + memberCountOfElements elements
  | [] => rfl
  | x :: xs => by
    have hfirst := length_scan x
    have hrest := length_scanElements (i + 1) xs
    rw [scanElements, locationsOfElements, memberCountOfElements, List.length_append,
      List.length_append, List.length_map]
    omega

lemma length_scanMembers (i : Nat) : (members : List (String × Json)) →
    (scanMembers members).length
      = (locationsOfMembers i members).length + memberCountOfMembers members
  | [] => rfl
  | (_, value) :: rest => by
    have hfirst := length_scan value
    have hrest := length_scanMembers (i + 1) rest
    rw [scanMembers, locationsOfMembers, memberCountOfMembers, List.cons_append, List.length_cons,
      List.length_append, List.length_append, List.length_map]
    omega

end

end PathQuery.Json
