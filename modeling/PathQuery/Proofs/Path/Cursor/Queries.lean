/-
# Steps in a query

Before and behind a side of a comparison the cursor stands where a move of the reading starts, up to
spaces, which a move passes over one by one and the cursor at once.
-/
import PathQuery.Proofs.Path.Cursor.Tracking

namespace PathQuery.Path.Cursor

variable {text : String} {after tail : List Char} {c : Char} {opened : List OpenQuery}

lemma run_closing (filter : Expression) (chain : Chain) (opened : List OpenQuery)
    (after : List Char) :
    (Progress.closing filter chain opened).run after
      = closeAnswer (chain.addQuery filter) opened after := by
  rw [run_skipSpaces fun _ => rfl, closeAnswer]
  rcases hgap : skipSpaces after with _ | ⟨c, gap⟩
  · rw [Progress.run_nil]
    rfl
  · rw [Progress.run_cons, Progress.advance, if_neg (ne_space_of_skipSpaces hgap)]
    by_cases hclosed : c = ']'
    · subst hclosed
      rfl
    · rw [if_neg hclosed]
      simp only
      rfl

lemma follows_concludeSide {state : State} {gap : List Char} (h : c :: gap <:+ text.toList)
    (hpos : state.pos ≤ offset text (c :: gap)) (hopened : state.opened = opened)
    (comparison : Expression) (query : OpenQuery) :
    Follows text state (Progress.resume (Progress.conclude comparison query opened c gap))
      (concludeSide text (offset text (c :: gap)) opened comparison query) := by
  have hforward {later : List Char} {phase : Phase} (hlater : later <:+ gap) :
      Forward state ⟨offset text later, phase, opened⟩ :=
    .turn (String.Pos.Raw.lt_of_le_of_lt hpos (offset_lt_cons h hlater)) (hopened ▸ Nat.le_succ _)
  have hgap := (List.suffix_cons c gap).trans h
  unfold Progress.conclude
  rw [concludeSide, current_offset_cons h, ok_bind, rest_offset h, ok_bind, bump_offset_cons h]
  split
  · exact follows_ok (.closing hgap _ _ _) (hforward List.suffix_rfl) rfl
  · next tail =>
    have htail := List.suffix_cons '&' tail
    simp only [before_eq (htail.trans hgap)]
    exact follows_ok (.side (htail.trans hgap) _ _) (hforward htail) rfl
  · next tail =>
    have htail := List.suffix_cons '|' tail
    simp only [before_eq (htail.trans hgap)]
    exact follows_ok (.side (htail.trans hgap) _ _) (hforward htail) rfl
  · next hclosed hand hor =>
    split
    · next hsame => exact absurd (List.cons.inj hsame).1 (by simpa using hclosed)
    · next hsame => exact absurd hsame (by simpa using hand _)
    · next hsame => exact absurd hsame (by simpa using hor _)
    · exact follows_rejected rfl

lemma follows_stepSideRead (h : after <:+ text.toList) (side : Operand) (query : OpenQuery)
    (opened : List OpenQuery) :
    Follows text ⟨offset text after, .sideRead side query, opened⟩
      ((Progress.operandRead side query opened).run after)
      (stepSideRead text (offset text after) opened side query) := by
  rw [run_skipSpaces fun _ => rfl]
  refine follows_skip h (fun hgap => by rw [hgap, Progress.run_nil]; rfl) fun c gap hgap hskip => ?_
  have hgap' := hskip.trans h
  have hconclude (comparison : Expression) :
      Follows text ⟨offset text after, .sideRead side query, opened⟩
        (Progress.resume (Progress.conclude comparison query opened c gap))
        (concludeSide text (offset text (c :: gap)) opened comparison query) :=
    follows_concludeSide hgap' (offset_le h hskip) rfl comparison query
  rw [hgap, Progress.run_cons, Progress.advance, Progress.compare,
    if_neg (ne_space_of_skipSpaces hgap)]
  rcases query.pending with _ | ⟨left, comparator⟩
  · by_cases hc : c = ')' ∨ c = '|' ∨ c = '&'
    · simp only [if_pos hc]
      exact hconclude _
    · simp only [if_neg hc, rest_offset hgap', ok_bind]
      rcases htake : Comparator.take (c :: gap) with cause | ⟨comparator, later⟩
      · exact follows_rejected rfl
      · have hlater := (Comparator.suffix_of_take htake).trans hskip
        have hlength := Nat.lt_of_lt_of_le (Comparator.length_of_take_eq_ok htake) hskip.length_le
        simp only [judge, ok_bind, before_eq (hlater.trans h)]
        exact follows_ok (.side (hlater.trans h) _ _)
          (.turn (offset_lt h hlater hlength) (Nat.le_succ _)) rfl
  · exact hconclude _

lemma follows_stepSide (h : after <:+ text.toList) (query : OpenQuery) (opened : List OpenQuery) :
    Follows text ⟨offset text after, .side query, opened⟩
      ((Progress.operand query opened).run after)
      (stepSide text (offset text after) opened query) := by
  rw [run_skipSpaces fun _ => rfl]
  refine follows_current_skip h (fun hgap => by rw [hgap, Progress.run_nil]; rfl)
    fun c gap hgap hskip => ?_
  have hgap' := hskip.trans h
  have htail := (List.suffix_cons c gap).trans hgap'
  have hforward {later : List Char} {phase : Phase} {opened' : List OpenQuery}
      (hlater : later <:+ gap)
      (hopened : opened'.length ≤ opened.length + 1) :
      Forward ⟨offset text after, .side query, opened⟩ ⟨offset text later, phase, opened'⟩ :=
    .turn (String.Pos.Raw.lt_of_le_of_lt (offset_le h hskip) (offset_lt_cons hgap' hlater)) hopened
  rw [hgap, Progress.run_cons, Progress.advance, if_neg (ne_space_of_skipSpaces hgap),
    bump_offset_cons hgap']
  by_cases hroot : c = '$'
  · subst hroot
    exact follows_ok (.chain htail (.fresh gap)) (hforward List.suffix_rfl (Nat.le_refl _))
      rfl
  rw [if_neg hroot]
  by_cases hnode : c = '@'
  · subst hnode
    exact follows_ok (.chain htail (.fresh gap)) (hforward List.suffix_rfl (Nat.le_refl _))
      rfl
  rw [if_neg hnode]
  by_cases hquote : c = '\''
  · subst hquote
    refine follows_ok (.quoted htail _ _ _) (hforward List.suffix_rfl (Nat.le_succ _)) ?_
    rw [quotedAnswer, Literal.take]
    rcases Quoted.take gap with cause | found <;> rfl
  by_cases hslash : c = '/'
  · subst hslash
    refine follows_ok (@Tracks.pattern text [] gap hgap' (passesBody_nil gap) _ _)
      (hforward List.suffix_rfl (Nat.le_succ _)) ?_
    rw [patternAnswer, Literal.take, List.nil_append]
    rcases Literal.takePattern gap with cause | found <;> rfl
  rw [Literal.take_cons_of_ne hquote hslash]
  simp only [rest_offset hgap', ok_bind]
  rcases htake : Literal.takeScalar? (c :: gap) with _ | ⟨value, later⟩
  · exact follows_rejected rfl
  · have hlater := Literal.suffix_of_takeScalar? htake
    have hlength := Literal.length_of_takeScalar?_eq_some htake
    simp only [before_eq (hlater.trans hgap'), ok_bind]
    exact follows_ok (.sideRead (hlater.trans hgap') _ _ _)
      (.turn (offset_lt h (hlater.trans hskip) (Nat.lt_of_lt_of_le hlength hskip.length_le))
        (Nat.le_succ _)) rfl

end PathQuery.Path.Cursor
