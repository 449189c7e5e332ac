/-
# What the reader accepts

A value *fits* below so many open containers if it is well-formed and there is room for the
containers in it.  Whatever the reader has read so far fits where it stands: the value that is
complete, and of each open container the part that is there (`Progress.Fits`).  Every token keeps it
so (`Progress.Fits.step`), and in the end the document fits below nothing (`fits_of_read?`).
-/
import Mathlib.Tactic.SplitIfs
import PathQuery.Json.Reader
import PathQuery.Proofs.Json.Below

namespace PathQuery.Json

/-! ## Depth -/

mutual

/-- How many containers lie in each other. -/
def depth : Json → Nat
  | array elements => elementsDepth elements + 1
  | object members => membersDepth members + 1
  | _ => 0

/-- The greatest depth of the elements. -/
def elementsDepth : List Json → Nat
  | [] => 0
  | x :: xs => max (depth x) (elementsDepth xs)

/-- The greatest depth of the values of the members. -/
def membersDepth : List (String × Json) → Nat
  | [] => 0
  | (_, value) :: rest => max (depth value) (membersDepth rest)

end

lemma elementsDepth_le_iff {xs : List Json} {n : Nat} :
    elementsDepth xs ≤ n ↔ ∀ x ∈ xs, x.depth ≤ n := by
  induction xs with
  | nil => simp [elementsDepth]
  | cons x xs ih => rw [elementsDepth, Nat.max_le, ih, List.forall_mem_cons]

lemma membersDepth_le_iff {members : List (String × Json)} {n : Nat} :
    membersDepth members ≤ n ↔ ∀ member ∈ members, member.2.depth ≤ n := by
  induction members with
  | nil => simp [membersDepth]
  | cons member rest ih => rw [membersDepth, Nat.max_le, ih, List.forall_mem_cons]

lemma wellFormedElements_iff {xs : List Json} :
    WellFormedElements xs ↔ ∀ x ∈ xs, x.WellFormed := by
  induction xs with
  | nil => simp [WellFormedElements]
  | cons x xs ih => rw [WellFormedElements, ih, List.forall_mem_cons]

lemma wellFormedMembers_iff {members : List (String × Json)} :
    WellFormedMembers members ↔ ∀ member ∈ members, member.2.WellFormed := by
  induction members with
  | nil => simp [WellFormedMembers]
  | cons member rest ih => rw [WellFormedMembers, ih, List.forall_mem_cons]

lemma hereditary_wellFormed : Hereditary WellFormed := by
  intro value h child hchild
  cases value with
  | array elements => exact wellFormedElements_iff.1 h child hchild
  | object members =>
    obtain ⟨member, hmember, rfl⟩ := List.mem_map.1 hchild
    exact wellFormedMembers_iff.1 h.2 member hmember
  | _ => exact absurd hchild List.not_mem_nil

/-! ## Room below open containers -/

/-- The value is well-formed, and it can be read while so many containers are open. -/
def Fits (opened : Nat) (value : Json) : Prop :=
  value.WellFormed ∧ opened + value.depth ≤ depthLimit

variable {n : Nat}

lemma fits_scalar_iff {value : Json} (h : value.isContainer = false) :
    Fits n value ↔ n ≤ depthLimit := by
  cases value with
  | array | object => cases h
  | _ => simp [Fits, WellFormed, depth]

lemma fits_array_iff {elements : List Json} :
    Fits n (.array elements) ↔ n < depthLimit ∧ ∀ x ∈ elements, Fits (n + 1) x := by
  have hdepth : n + (elementsDepth elements + 1) ≤ depthLimit ↔
      n < depthLimit ∧ elementsDepth elements ≤ depthLimit - (n + 1) := by omega
  rw [Fits, WellFormed, depth, wellFormedElements_iff, hdepth, elementsDepth_le_iff]
  constructor
  · rintro ⟨hwell, hlt, hle⟩
    refine ⟨hlt, fun x hx => ⟨hwell x hx, ?_⟩⟩
    have := hle x hx
    omega
  · rintro ⟨hlt, hall⟩
    refine ⟨fun x hx => (hall x hx).1, hlt, fun x hx => ?_⟩
    have := (hall x hx).2
    omega

lemma fits_object_iff {members : List (String × Json)} :
    Fits n (.object members) ↔ n < depthLimit ∧ (members.map (·.1)).Nodup ∧
      ∀ member ∈ members, Fits (n + 1) member.2 := by
  have hdepth : n + (membersDepth members + 1) ≤ depthLimit ↔
      n < depthLimit ∧ membersDepth members ≤ depthLimit - (n + 1) := by omega
  rw [Fits, WellFormed, depth, wellFormedMembers_iff, hdepth, membersDepth_le_iff]
  constructor
  · rintro ⟨⟨hkeys, hwell⟩, hlt, hle⟩
    refine ⟨hlt, hkeys, fun member hmember => ⟨hwell member hmember, ?_⟩⟩
    have := hle member hmember
    omega
  · rintro ⟨hlt, hkeys, hall⟩
    refine ⟨⟨hkeys, fun member hmember => (hall member hmember).1⟩, hlt, fun member hmember => ?_⟩
    have := (hall member hmember).2
    omega

/-- What fits below containers fits below fewer of them. -/
lemma Fits.le {m : Nat} {value : Json} (h : Fits n value) (hle : m ≤ n) : Fits m value :=
  ⟨h.1, Nat.le_trans (Nat.add_le_add_right hle _) h.2⟩

lemma hereditary_fits (n : Nat) : Hereditary (Fits n) := by
  intro value h child hchild
  cases value with
  | array elements => exact ((fits_array_iff.1 h).2 child hchild).le (Nat.le_succ n)
  | object members =>
    obtain ⟨member, hmember, rfl⟩ := List.mem_map.1 hchild
    exact ((fits_object_iff.1 h).2.2 member hmember).le (Nat.le_succ n)
  | _ => exact absurd hchild List.not_mem_nil

/-! ## Elements and members one after another -/

lemma Fits.cons {elements : List Json} {x : Json} (h : Fits n (.array elements))
    (hx : Fits (n + 1) x) : Fits n (.array (x :: elements)) := by
  obtain ⟨hlt, hall⟩ := fits_array_iff.1 h
  exact fits_array_iff.2 ⟨hlt, List.forall_mem_cons.2 ⟨hx, hall⟩⟩

lemma Fits.reverse {elements : List Json} (h : Fits n (.array elements)) :
    Fits n (.array elements.reverse) := by
  obtain ⟨hlt, hall⟩ := fits_array_iff.1 h
  exact fits_array_iff.2 ⟨hlt, fun x hx => hall x (List.mem_reverse.1 hx)⟩

lemma map_fst_putMember (members : List (String × Json)) (key : String) (value : Json) :
    (putMember members key value).map (·.1)
      = if key ∈ members.map (·.1) then members.map (·.1) else members.map (·.1) ++ [key] := by
  induction members with
  | nil => rfl
  | cons member rest ih =>
    rw [putMember]
    by_cases hkey : member.1 = key
    · simp [hkey]
    · rw [if_neg hkey, List.map_cons, ih]
      simp only [List.map_cons, List.mem_cons, Ne.symm hkey, false_or, List.cons_append]
      split <;> rfl

lemma mem_putMember {members : List (String × Json)} {key : String} {value : Json}
    {member : String × Json} (h : member ∈ putMember members key value) :
    member = (key, value) ∨ member ∈ members := by
  induction members with
  | nil => exact Or.inl (List.mem_singleton.1 h)
  | cons first rest ih =>
    rw [putMember] at h
    split at h
    · rcases List.mem_cons.1 h with rfl | h
      · exact Or.inl rfl
      · exact Or.inr (List.mem_cons_of_mem _ h)
    · rcases List.mem_cons.1 h with rfl | h
      · exact Or.inr List.mem_cons_self
      · exact (ih h).imp_right (List.mem_cons_of_mem _)

lemma putMember_of_not_mem {members : List (String × Json)} {key : String} (value : Json)
    (h : key ∉ members.map (·.1)) : putMember members key value = members ++ [(key, value)] := by
  induction members with
  | nil => rfl
  | cons member rest ih =>
    rw [List.map_cons, List.mem_cons, not_or] at h
    rw [putMember, if_neg (Ne.symm h.1), ih h.2, List.cons_append]

lemma putMember_of_nodup {before rest : List (String × Json)} {key : String} {value : Json}
    (h : ((before ++ (key, value) :: rest).map (·.1)).Nodup) :
    putMember before key value = before ++ [(key, value)] := by
  rw [List.map_append, List.nodup_append] at h
  exact putMember_of_not_mem value fun hkey => h.2.2 key hkey key List.mem_cons_self rfl

lemma Fits.putMember {members : List (String × Json)} {value : Json}
    (h : Fits n (.object members)) (key : String) (hvalue : Fits (n + 1) value) :
    Fits n (.object (putMember members key value)) := by
  obtain ⟨hlt, hkeys, hmembers⟩ := fits_object_iff.1 h
  refine fits_object_iff.2 ⟨hlt, ?_, ?_⟩
  · rw [map_fst_putMember]
    split
    · exact hkeys
    · next hnew =>
      exact (List.perm_append_singleton _ _).symm.nodup (List.nodup_cons.2 ⟨hnew, hkeys⟩)
  · intro member hmember
    rcases mem_putMember hmember with rfl | hmember
    · exact hvalue
    · exact hmembers member hmember

/-! ## Tokens of a text -/

/-- A scalar is no container. -/
def Token.Proper : Token → Prop
  | .scalar value => value.isContainer = false
  | _ => True

lemma isContainer_of_ofWord? {word : List Char} {value : Json} (h : ofWord? word = some value) :
    value.isContainer = false := by
  unfold ofWord? at h
  split_ifs at h
  · cases h
    rfl
  · cases h
    rfl
  · cases h
    rfl
  · obtain ⟨n, -, rfl⟩ := Option.map_eq_some_iff.1 h
    rfl

lemma proper_of_mark? {c : Char} {token : Token} (h : mark? c = some token) : token.Proper := by
  unfold mark? at h
  split at h <;> cases h <;> trivial

lemma Token.proper_of_read? {text : List Char} {tokens : List Token}
    (h : Token.read? text = some tokens) : ∀ token ∈ tokens, token.Proper := by
  fun_induction Token.read? text generalizing tokens with
  | case1 =>
    cases h
    exact List.forall_mem_nil _
  | case2 c rest hspace ih => exact ih h
  | case3 => cases h
  | case4 rest content after taken this hspace ih =>
    obtain ⟨value, -, h⟩ := Option.bind_eq_some_iff.1 h
    obtain ⟨others, hothers, h⟩ := Option.bind_eq_some_iff.1 h
    cases h
    exact List.forall_mem_cons.2 ⟨trivial, ih hothers⟩
  | case5 c rest hspace hquote token hmark ih =>
    obtain ⟨others, hothers, rfl⟩ := Option.map_eq_some_iff.1 h
    exact List.forall_mem_cons.2 ⟨proper_of_mark? hmark, ih hothers⟩
  | case6 c rest hspace hquote hmark this ih =>
    obtain ⟨value, hvalue, h⟩ := Option.bind_eq_some_iff.1 h
    obtain ⟨others, hothers, h⟩ := Option.bind_eq_some_iff.1 h
    cases h
    exact List.forall_mem_cons.2 ⟨isContainer_of_ofWord? hvalue, ih hothers⟩

/-! ## The invariant of the reader -/

/-- What is there of an open container. -/
def Frame.soFar : Frame → Json
  | .array before => .array before
  | .object before _ => .object before

/-- What is there of each open container fits below those around it. -/
def FramesFit : List Frame → Prop
  | [] => True
  | frame :: opened => Fits opened.length frame.soFar ∧ FramesFit opened

lemma FramesFit.length_le {opened : List Frame} (h : FramesFit opened) :
    opened.length ≤ depthLimit := by
  cases opened with
  | nil => exact Nat.zero_le _
  | cons frame opened =>
    cases frame with
    | array => exact (fits_array_iff.1 h.1).1
    | object => exact (fits_object_iff.1 h.1).1

namespace Progress

/-- Everything that has been read fits where it stands. -/
def Fits : Progress → Prop
  | .wantValue opened => FramesFit opened
  | .wantElement opened => Json.Fits opened.length (.array []) ∧ FramesFit opened
  | .wantMember opened => Json.Fits opened.length (.object []) ∧ FramesFit opened
  | .wantKey before opened => Json.Fits opened.length (.object before) ∧ FramesFit opened
  | .wantColon before _ opened => Json.Fits opened.length (.object before) ∧ FramesFit opened
  | .complete value opened => Json.Fits opened.length value ∧ FramesFit opened

variable {token : Token} {progress next : Progress}

lemma fits_of_start {opened : List Frame} (h : FramesFit opened)
    (htoken : token.Proper)
    (hnext : start opened token = some next) : next.Fits := by
  have hlength := h.length_le
  unfold start at hnext
  split at hnext
  · obtain rfl := Option.some.inj hnext
    exact ⟨(fits_scalar_iff rfl).2 hlength, h⟩
  · obtain rfl := Option.some.inj hnext
    exact ⟨(fits_scalar_iff htoken).2 hlength, h⟩
  · obtain ⟨hlt, hnext⟩ := Option.ite_none_right_eq_some.1 hnext
    obtain rfl := Option.some.inj hnext
    exact ⟨fits_array_iff.2 ⟨hlt, List.forall_mem_nil _⟩, h⟩
  · obtain ⟨hlt, hnext⟩ := Option.ite_none_right_eq_some.1 hnext
    obtain rfl := Option.some.inj hnext
    exact ⟨fits_object_iff.2 ⟨hlt, List.nodup_nil, List.forall_mem_nil _⟩, h⟩
  · cases hnext

/-- Every token leaves what has been read in its bounds. -/
lemma Fits.step (h : progress.Fits)
    (htoken : token.Proper)
    (hnext : progress.step token = some next) : next.Fits := by
  unfold Progress.step at hnext
  split at hnext
  · exact fits_of_start h htoken hnext
  · cases hnext
    exact h
  · next opened _ =>
    -- the first element stands below one more container
    have hopened : FramesFit (.array [] :: opened) := h
    exact fits_of_start hopened htoken hnext
  · cases hnext
    exact h
  · cases hnext
    exact h
  · cases hnext
    exact h
  · cases hnext
    exact h
  -- a value is complete, and the container around it takes it in
  · cases hnext
    obtain ⟨hvalue, hbefore, hopened⟩ := h
    exact ⟨hbefore.cons hvalue, hopened⟩
  · cases hnext
    obtain ⟨hvalue, hbefore, hopened⟩ := h
    exact ⟨(hbefore.cons hvalue).reverse, hopened⟩
  · next value before key opened =>
    cases hnext
    obtain ⟨hvalue, hbefore, hopened⟩ := h
    exact ⟨hbefore.putMember key hvalue, hopened⟩
  · next value before key opened =>
    cases hnext
    obtain ⟨hvalue, hbefore, hopened⟩ := h
    exact ⟨hbefore.putMember key hvalue, hopened⟩
  · cases hnext

lemma Fits.run {tokens : List Token} (h : progress.Fits)
    (htokens : ∀ token ∈ tokens, token.Proper)
    (hrun : tokens.foldlM Progress.step progress = some next) : next.Fits := by
  induction tokens generalizing progress with
  | nil =>
    cases hrun
    exact h
  | cons token tokens ih =>
    obtain ⟨middle, hstep, hrun⟩ := Option.bind_eq_some_iff.1 hrun
    rw [List.forall_mem_cons] at htokens
    exact ih (h.step htokens.1 hstep) htokens.2 hrun

end Progress

/-- **The reader builds well-formed values with no more than `depthLimit` containers in each
other.** -/
lemma fits_of_read? {text : String} {value : Json} (h : read? text = some value) :
    Fits 0 value := by
  obtain ⟨tokens, htokens, hvalue⟩ := Option.bind_eq_some_iff.1 h
  obtain ⟨progress, hrun, hfinish⟩ := Option.bind_eq_some_iff.1 hvalue
  have hstart : (Progress.wantValue []).Fits := trivial
  have hfits : progress.Fits := hstart.run (Token.proper_of_read? htokens) hrun
  unfold Progress.finish? at hfinish
  split at hfinish
  · cases hfinish
    exact hfits.1
  · cases hfinish

end PathQuery.Json
