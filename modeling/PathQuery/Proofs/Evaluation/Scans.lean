/-
# Scans for names

A scan for a name finds the same members as a scan of all nodes with a step to the name behind it,
and a scan for several names the same as scans for each of them.  The orders differ.  A scan reports
a member when it comes to it, in between what lies in the members before and behind, while a step
takes it from its object before anything below.  And scans one behind the other sort what they find
by name.

So the results are permutations of one another.  One level suffices for the first pair
(`Json.keyed_perm_children`): below a value with distinct keys, a scan for a name finds the member
of the value itself, and what it finds below each child.
-/
import Mathlib.Data.List.Dedup
import Mathlib.Data.List.Perm.Basic
import PathQuery.Proofs.Evaluation.Filtering
import PathQuery.Proofs.Json.Nesting

namespace PathQuery

namespace Json

/-! ## One name -/

/-- What a scan for a name finds. -/
def keyed (name : String) (value : Json) : List Json :=
  (value.scan.filter (·.key == some name)).map (·.node)

/-- What a step to a name finds, where nothing is no failure. -/
def named (name : String) (value : Json) : List Json := (value.selectField false (some name)).nodes

lemma named_object (name : String) (members : List (String × Json)) :
    (object members).named name = (member? members name).toList := by
  rw [named, selectField]
  cases member? members name <;> rfl

lemma selectField_eq_ofList (name : String) (value : Json) :
    value.selectField false (some name) = .ofList (value.named name) := by
  rw [named]
  cases value with
  | object members =>
    rw [selectField]
    cases member? members name <;> rfl
  | _ => rfl

/-- Among members with distinct keys one at most has the name. -/
lemma flatMap_eq_toList_member? (name : String) {members : List (String × Json)}
    (h : (members.map (·.1)).Nodup) :
    (members.flatMap fun member => if member.1 = name then [member.2] else [])
      = (member? members name).toList := by
  induction members with
  | nil => rfl
  | cons member rest ih =>
    obtain ⟨key, value⟩ := member
    rw [List.map_cons, List.nodup_cons] at h
    rw [List.flatMap_cons, member?, List.lookup_cons]
    by_cases hkey : key = name
    · subst hkey
      have hnone : (rest.flatMap fun member => if member.1 = key then [member.2] else []) = [] := by
        rw [List.flatMap_eq_nil_iff]
        intro member hmember
        refine if_neg fun hsame => h.1 ?_
        rw [← hsame]
        exact List.mem_map.2 ⟨member, hmember, rfl⟩
      simp [hnone]
    · have hbeq : (name == key) = false := beq_false_of_ne (Ne.symm hkey)
      rw [hbeq, if_neg hkey, List.nil_append]
      exact ih h.2

/-- One level: a scan for a name finds the member of the value itself, and what it finds below each
child. -/
lemma keyed_perm_children (name : String) {value : Json} (h : value.WellFormed) :
    (value.keyed name).Perm (value.named name ++ value.children.flatMap (keyed name)) := by
  cases value with
  | array elements =>
    rw [keyed, scan, scanElements_eq_flatMap, List.filter_cons_of_neg (by simp),
      List.filter_flatMap, List.map_flatMap]
    exact List.Perm.refl _
  | object members =>
    have hmember (member : String × Json) :
        (((⟨some member.1, member.2⟩ :: member.2.scan : List Entry).filter
            (·.key == some name)).map (·.node))
          = (if member.1 = name then [member.2] else []) ++ member.2.keyed name := by
      rw [List.filter_cons]
      by_cases hkey : member.1 = name <;> simp [hkey, keyed]
    rw [keyed, scan, scanMembers_eq_flatMap, List.filter_cons_of_neg (by simp),
      List.filter_flatMap, List.map_flatMap, named_object, ← flatMap_eq_toList_member? name h.1,
      children, List.flatMap_map]
    simp only [hmember]
    exact (List.flatMap_append_perm members _ _).symm
  | _ => exact List.Perm.refl _

/-- A scan for a name finds what a step to the name finds from all nodes. -/
lemma keyed_perm (name : String) (value : Json) (h : value.WellFormed) :
    (value.keyed name).Perm (value.preorder.flatMap (named name)) := by
  induction value using induction_children with
  | step value ih =>
    have hchildren : ∀ child ∈ value.children,
        (child.keyed name).Perm (child.preorder.flatMap (named name)) :=
      fun child hchild => ih child hchild (hereditary_wellFormed value h child hchild)
    rw [preorder_eq, List.flatMap_cons, List.flatMap_assoc]
    exact (keyed_perm_children name h).trans ((List.Perm.flatMap_left _ hchildren).append_left _)

/-! ## Several names -/

/-- What a scan for several names finds. -/
def keyedBy (names : List String) (value : Json) : List Json :=
  (value.scan.filter fun entry => entry.key.any names.contains).map (·.node)

lemma keyedBy_dedup (names : List String) (value : Json) :
    value.keyedBy names.dedup = value.keyedBy names := by
  have hcontains : names.dedup.contains = names.contains := by
    funext name
    rw [Bool.eq_iff_iff, List.contains_iff_mem, List.contains_iff_mem, List.mem_dedup]
  rw [keyedBy, keyedBy, hcontains]

/-- An entry has one of several distinct names if it has the first one or else one of the others. -/
lemma filter_key_perm {names : List String} (h : names.Nodup) (entries : List Entry) :
    (entries.filter fun entry => entry.key.any names.contains).Perm
      (names.flatMap fun name => entries.filter (·.key == some name)) := by
  induction names with
  | nil =>
    have hnone : (entries.filter fun entry => entry.key.any ([] : List String).contains) = [] := by
      rw [List.filter_eq_nil_iff]
      intro entry _
      cases entry.key <;> simp
    rw [hnone, List.flatMap_nil]
  | cons name rest ih =>
    obtain ⟨hname, hrest⟩ := List.nodup_cons.1 h
    have hsplit := List.filter_append_perm (·.key == some name)
      (entries.filter fun entry => entry.key.any (name :: rest).contains)
    have hfirst (entry : Entry) : (entry.key == some name &&
        entry.key.any (name :: rest).contains) = (entry.key == some name) := by
      cases entry.key with
      | none => rfl
      | some key => by_cases hkey : key = name <;> simp [hkey]
    have hothers (entry : Entry) : (!(entry.key == some name) &&
        entry.key.any (name :: rest).contains) = entry.key.any rest.contains := by
      cases entry.key with
      | none => rfl
      | some key => by_cases hkey : key = name <;> simp [hkey, hname]
    rw [List.filter_filter, List.filter_filter] at hsplit
    simp only [hfirst, hothers] at hsplit
    rw [List.flatMap_cons]
    exact hsplit.symm.trans ((ih hrest).append_left _)

lemma keyedBy_perm (names : List String) (value : Json) :
    (value.keyedBy names).Perm (names.dedup.flatMap fun name => value.keyed name) := by
  rw [← keyedBy_dedup, keyedBy]
  have hmap := (filter_key_perm names.nodup_dedup value.scan).map (·.node)
  rwa [List.map_flatMap] at hmap

lemma keyed_sublist_keyedBy {name : String} {names : List String} (h : name ∈ names)
    (value : Json) : (value.keyed name).Sublist (value.keyedBy names) := by
  refine (List.monotone_filter_right _ fun entry hentry => ?_).map _
  rw [beq_iff_eq.1 hentry]
  exact List.contains_iff_mem.2 h

end Json

/-! ## Scans as steps -/

namespace Path

variable (root node : Json)

lemma evaluateFrom_scan (name : String) :
    evaluateFrom [.scan (some name)] false root node = .ofList (node.keyed name) :=
  Run.single_bind _ _

lemma evaluateFrom_scanFields (names : List String) :
    evaluateFrom [.scanFields names] false root node = .ofList (node.keyedBy names) :=
  Run.single_bind _ _

lemma evaluateFrom_scan_field (name : String) :
    evaluateFrom [.scan none, .field (some name)] false root node
      = .ofList (node.preorder.flatMap (Json.named name)) := by
  show ((Run.single node).bind (Json.selectScan none)).bind
    (Json.selectField false (some name)) = _
  rw [Run.single_bind]
  exact Run.bind_of_ofList fun value _ => value.selectField_eq_ofList name

/-- **Scans for names.**  Below a node with distinct keys, a scan for a name finds what a step to
the name finds behind a scan of all nodes.  A scan for several names finds what scans for each of
them find, however often a name is listed, and what it finds for one of the names comes in the order
of that scan. -/
theorem items_scan_perm (hnode : node.WellFormed) :
    (∀ name, (evaluateFrom [.scan (some name)] false root node).items.Perm
        (evaluateFrom [.scan none, .field (some name)] false root node).items) ∧
      (∀ names, (evaluateFrom [.scanFields names] false root node).items.Perm
        (names.dedup.flatMap fun name =>
          (evaluateFrom [.scan (some name)] false root node).items)) ∧
      ∀ names, ∀ name ∈ names,
        (evaluateFrom [.scan (some name)] false root node).items.Sublist
          (evaluateFrom [.scanFields names] false root node).items := by
  have hitems (nodes : List Json) : (Run.ofList nodes).items = nodes.map .ok := List.append_nil _
  simp only [evaluateFrom_scan, evaluateFrom_scanFields, evaluateFrom_scan_field, hitems]
  refine ⟨fun name => ?_, fun names => ?_, fun names name hname => ?_⟩
  · exact (node.keyed_perm name hnode).map _
  · rw [← List.map_flatMap]
    exact (node.keyedBy_perm names).map _
  · exact (node.keyed_sublist_keyedBy hname).map _

/-- A key that is used again in the value of another member and in its own: the orders differ. -/
theorem items_scan_perm_nested :
    let inner : Json := .object [("a", .bool true)]
    let node : Json := .object [("b", .object [("a", .null)]), ("a", inner)]
    node.WellFormed ∧
      List.Perm ([.ok .null, .ok inner, .ok (.bool true)] : List Item)
        [.ok inner, .ok .null, .ok (.bool true)] ∧
      List.Sublist ([.ok .null, .ok inner, .ok (.bool true)] : List Item)
        (evaluateFrom [.scanFields ["b", "a", "b"]] false node node).items := by
  intro inner node
  have hnode : node.WellFormed := by
    simp [node, inner, Json.WellFormed, Json.WellFormedMembers]
  obtain ⟨hscan, -, hsublist⟩ := items_scan_perm node node hnode
  exact ⟨hnode, hscan "a", hsublist ["b", "a", "b"] "a" (by simp)⟩

end Path

end PathQuery
