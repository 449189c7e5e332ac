/-
# Everything that is read is shaped

Whatever the text, a path that is read from it has the shape that the evaluation and the round trip
rely on: no list of names with a single one, no connective that joins a single part, no comparison
without a right side, no step to the root but at the front of an operand, no literal that is a
container.

The shape is an invariant of the reading.  Every token has it (`Literal.isLiteral_of_take`,
`Indexer.shaped_of_take`, `Comparator.ne_exists_of_take`), and every move keeps it for the chain and
for all the queries that are open (`Move.shaped`).
-/
import PathQuery.Proofs.Path.Inversion
import PathQuery.Proofs.Path.RoundTrip

namespace PathQuery

/-! ## Tokens -/

lemma isSignedWord_of_signedWord? {negative : Bool} {digits : List Char} {i : Int}
    (h : signedWord? negative digits = some i) : IsSignedWord i := by
  obtain ⟨hfits, hi⟩ := Option.ite_none_right_eq_some.1 h
  obtain rfl := Option.some.inj hi
  exact hfits

namespace Literal

lemma isLiteral_of_takeInteger? {text rest : List Char} {value : Json}
    (h : takeInteger? text = some (value, rest)) : value.IsLiteral := by
  obtain ⟨-, h⟩ := Option.ite_none_left_eq_some.1 h
  obtain ⟨n, hn, hsame⟩ := Option.map_eq_some_iff.1 h
  obtain ⟨rfl, -⟩ := Prod.mk.inj hsame
  obtain ⟨i, hi, hword⟩ := Option.bind_eq_some_iff.1 hn
  obtain ⟨hfits, hvalue⟩ := Option.dite_none_right_eq_some.1 hword
  obtain rfl := Option.some.inj hvalue
  exact isSignedWord_of_signedWord? hi

lemma isLiteral_ofExtended (x : Extended) : (ofExtended x).IsLiteral := by
  cases x <;> trivial

lemma isLiteral_of_takeFloat? {text rest : List Char} {value : Json}
    (h : takeFloat? text = some (value, rest)) : value.IsLiteral := by
  obtain ⟨⟨decimal, after⟩, -, hsame⟩ := Option.map_eq_some_iff.1 h
  obtain ⟨rfl, -⟩ := Prod.mk.inj hsame
  exact isLiteral_ofExtended _

lemma isLiteral_of_takeWord? {text rest : List Char} {value : Json}
    (h : takeWord? text = some (value, rest)) : value.IsLiteral := by
  unfold takeWord? at h
  split at h
  all_goals simp only [Option.some.injEq, Prod.mk.injEq, reduceCtorEq] at h
  all_goals obtain ⟨rfl, -⟩ := h
  all_goals trivial

lemma isLiteral_of_takeScalar? {text rest : List Char} {value : Json}
    (h : takeScalar? text = some (value, rest)) : value.IsLiteral := by
  rcases Option.or_eq_some_iff.1 h with hinteger | ⟨-, h⟩
  · exact isLiteral_of_takeInteger? hinteger
  · rcases Option.or_eq_some_iff.1 h with hfloat | ⟨-, hword⟩
    · exact isLiteral_of_takeFloat? hfloat
    · exact isLiteral_of_takeWord? hword

theorem isLiteral_of_take {text rest : List Char} {value : Json}
    (h : take text = .ok (value, rest)) : value.IsLiteral := by
  unfold take at h
  split at h
  · simp at h
  · obtain ⟨⟨content, after⟩, -, hsame⟩ := map_eq_ok.1 h
    obtain ⟨rfl, -⟩ := Prod.mk.inj hsame
    trivial
  · obtain ⟨⟨body, after⟩, -, hsame⟩ := map_eq_ok.1 h
    obtain ⟨rfl, -⟩ := Prod.mk.inj hsame
    trivial
  · split at h
    · next hscalar =>
      obtain rfl := Except.ok.inj h
      exact isLiteral_of_takeScalar? hscalar
    · simp at h

end Literal

lemma Comparator.ne_exists_of_take {text rest : List Char} {comparator : Comparator}
    (h : Comparator.take text = .ok (comparator, rest)) : comparator ≠ .exists := by
  rintro rfl
  unfold Comparator.take at h
  split at h <;> simp at h

namespace Indexer

/-- The indexer has a name at least, or a step of the form of one that is read. -/
def Shaped : Indexer → Prop
  | .names found => found ≠ []
  | .elements step => step.Shaped Json.IsLiteral
  | .query => True

lemma ne_nil_of_takeNames {text rest : List Char} {names : List String}
    (h : takeNames text = .ok (names, rest)) : names ≠ [] := by
  rintro rfl
  unfold takeNames at h
  split at h
  · simp at h
  · split at h
    · simp at h
    · simp at h
    · split at h
      · simp at h
      · obtain ⟨⟨others, last⟩, -, hsame⟩ := bind_eq_ok.1 h
        simp at hsame
      · simp at h
    · simp at h

lemma isSignedWord_of_readIndex {slot : List Char} {i : Int} (h : readIndex slot = .ok i) :
    IsSignedWord i := by
  unfold readIndex at h
  split at h
  · simp at h
  · split at h
    · next hi =>
      obtain rfl := Except.ok.inj h
      exact isSignedWord_of_signedWord? (Option.ite_none_right_eq_some.1 hi).2
    · simp at h

lemma isSignedWord_of_readBound {slot : List Char} {bound : Option Int}
    (h : readBound slot = .ok bound) : ∀ n ∈ bound, IsSignedWord n := by
  intro n hn
  unfold readBound at h
  split at h
  · obtain rfl := Except.ok.inj h
    simp at hn
  · obtain ⟨i, hi, hsome⟩ := map_eq_ok.1 h
    subst hsome
    obtain rfl := Option.some.inj hn
    exact isSignedWord_of_readIndex hi

/-- A list of indexes has one at least, and all of them fit. -/
lemma isSignedWord_of_takeIndexes {text rest : List Char} {is : List Int}
    (h : takeIndexes text = .ok (is, rest)) : is ≠ [] ∧ ∀ i ∈ is, IsSignedWord i := by
  fun_induction takeIndexes text generalizing is rest with
  | case2 text after hafter =>
    obtain ⟨i, hi, hsame⟩ := bind_eq_ok.1 h
    obtain ⟨rfl, -⟩ := Prod.mk.inj (Except.ok.inj hsame)
    refine ⟨List.cons_ne_nil _ _, ?_⟩
    rw [List.forall_mem_singleton]
    exact isSignedWord_of_readIndex hi
  | case3 text after hafter _ _ ih =>
    obtain ⟨i, hi, h⟩ := bind_eq_ok.1 h
    obtain ⟨⟨others, last⟩, hothers, hsame⟩ := bind_eq_ok.1 h
    obtain ⟨rfl, -⟩ := Prod.mk.inj (Except.ok.inj hsame)
    refine ⟨List.cons_ne_nil _ _, ?_⟩
    rw [List.forall_mem_cons]
    exact ⟨isSignedWord_of_readIndex hi, (ih hothers).2⟩
  | _ => simp_all

lemma shaped_of_takeStride {start stop : Option Int} {text rest : List Char} {step : Step}
    (hstart : ∀ n ∈ start, IsSignedWord n) (hstop : ∀ n ∈ stop, IsSignedWord n)
    (h : takeStride start stop text = .ok (step, rest)) : step.Shaped Json.IsLiteral := by
  unfold takeStride at h
  split at h
  · simp at h
  · obtain ⟨stride, hstride, hsame⟩ := bind_eq_ok.1 h
    obtain ⟨rfl, -⟩ := Prod.mk.inj (Except.ok.inj hsame)
    exact .slice hstart hstop (isSignedWord_of_readBound hstride)
  · simp at h

lemma shaped_of_takeStop {start : Option Int} {text rest : List Char} {step : Step}
    (hstart : ∀ n ∈ start, IsSignedWord n) (h : takeStop start text = .ok (step, rest)) :
    step.Shaped Json.IsLiteral := by
  unfold takeStop at h
  split at h
  · simp at h
  · obtain ⟨stop, hstop, hsame⟩ := bind_eq_ok.1 h
    obtain ⟨rfl, -⟩ := Prod.mk.inj (Except.ok.inj hsame)
    exact .slice hstart (isSignedWord_of_readBound hstop) (by simp)
  · obtain ⟨stop, hstop, h⟩ := bind_eq_ok.1 h
    exact shaped_of_takeStride hstart (isSignedWord_of_readBound hstop) h
  · simp at h

lemma shaped_of_takeElements {text rest : List Char} {step : Step}
    (h : takeElements text = .ok (step, rest)) : step.Shaped Json.IsLiteral := by
  unfold takeElements at h
  split at h
  · simp at h
  · obtain ⟨i, hi, hsame⟩ := bind_eq_ok.1 h
    obtain ⟨rfl, -⟩ := Prod.mk.inj (Except.ok.inj hsame)
    refine .index fun n hn => ?_
    obtain rfl := Option.some.inj hn
    exact isSignedWord_of_readIndex hi
  · obtain ⟨i, hi, h⟩ := bind_eq_ok.1 h
    obtain ⟨⟨others, last⟩, hothers, hsame⟩ := bind_eq_ok.1 h
    obtain ⟨rfl, -⟩ := Prod.mk.inj (Except.ok.inj hsame)
    obtain ⟨hne, hwords⟩ := isSignedWord_of_takeIndexes hothers
    have hlength := List.length_pos_iff.2 hne
    refine .indexes (by rw [List.length_cons]; omega) ?_
    rw [List.forall_mem_cons]
    exact ⟨isSignedWord_of_readIndex hi, hwords⟩
  · obtain ⟨start, hstart, h⟩ := bind_eq_ok.1 h
    exact shaped_of_takeStop (isSignedWord_of_readBound hstart) h
  · split at h
    · simp at h
    · obtain ⟨rfl, -⟩ := Prod.mk.inj (Except.ok.inj h)
      exact .index (by simp)
    · simp at h
  · simp at h

theorem shaped_of_take {text rest : List Char} {indexer : Indexer}
    (h : take text = .ok (indexer, rest)) : indexer.Shaped := by
  unfold take at h
  split at h
  · simp at h
  · obtain ⟨⟨names, after⟩, hnames, hsame⟩ := bind_eq_ok.1 h
    obtain ⟨rfl, -⟩ := Prod.mk.inj (Except.ok.inj hsame)
    exact ne_nil_of_takeNames hnames
  · split at h
    · simp at h
    · obtain ⟨rfl, -⟩ := Prod.mk.inj (Except.ok.inj h)
      trivial
    · simp at h
  · obtain ⟨⟨step, after⟩, hstep, hsame⟩ := bind_eq_ok.1 h
    obtain ⟨rfl, -⟩ := Prod.mk.inj (Except.ok.inj hsame)
    exact shaped_of_takeElements hstep

end Indexer

namespace Path

/-! ## Connectives -/

section Combine

variable {literal : Json → Prop} {parts : List Expression} {last : Expression}

/-- A part behind others is joined to them; by itself it stays as it is. -/
lemma combine_append (connective : Connective) (parts : List Expression) (last : Expression) :
    combine connective (parts ++ [last]) = last ∨
      2 ≤ (parts ++ [last]).length ∧
        combine connective (parts ++ [last]) = .composite connective (parts ++ [last]) := by
  cases parts with
  | nil => exact Or.inl rfl
  | cons part parts =>
    have hlength : 2 ≤ (part :: parts ++ [last]).length := by simp
    exact Or.inr ⟨hlength, Progress.combine_of_length hlength connective⟩

lemma isConjunction_combine (hparts : ∀ part ∈ parts, part.IsComparison literal)
    (hlast : last.IsComparison literal) :
    (combine .and (parts ++ [last])).IsConjunction literal := by
  rcases combine_append .and parts last with hsame | ⟨hlength, hsame⟩
  · rw [hsame]
    exact .comparison hlast
  · rw [hsame]
    refine .and hlength ?_
    rw [List.forall_mem_append, List.forall_mem_singleton]
    exact ⟨hparts, hlast⟩

lemma shaped_combine (hparts : ∀ part ∈ parts, part.IsConjunction literal)
    (hlast : last.IsConjunction literal) : (combine .or (parts ++ [last])).Shaped literal := by
  rcases combine_append .or parts last with hsame | ⟨hlength, hsame⟩
  · rw [hsame]
    exact .conjunction hlast
  · rw [hsame]
    refine .or hlength ?_
    rw [List.forall_mem_append, List.forall_mem_singleton]
    exact ⟨hparts, hlast⟩

end Combine

/-! ## The invariant -/

/-- The chain is one of steps of the path, or within a query one of an operand, which may start at
the root. -/
def Chain.ShapedIn (chain : Chain) : List OpenQuery → Prop
  | [] => Path.Shaped Json.IsLiteral chain.steps
  | _ :: _ => Operand.Shaped Json.IsLiteral (.path chain.steps)

/-- The parts of the query that are complete have the form of ones that are read. -/
structure OpenQuery.Shaped (query : OpenQuery) : Prop where
  alternatives : ∀ part ∈ query.alternatives, part.IsConjunction Json.IsLiteral
  conjunction : ∀ part ∈ query.conjunction, part.IsComparison Json.IsLiteral
  pending : ∀ side ∈ query.pending, side.1.Shaped Json.IsLiteral ∧ side.2 ≠ .exists

/-- So have those of all queries that are open, and the chains around them. -/
def OpenedShaped : List OpenQuery → Prop
  | [] => True
  | query :: opened => query.chain.ShapedIn opened ∧ query.Shaped ∧ OpenedShaped opened

/-- All that has been read has the form of what is read. -/
def Progress.Shaped : Progress → Prop
  | .steps chain opened => chain.ShapedIn opened ∧ OpenedShaped opened
  | .operand query opened => OpenedShaped (query :: opened)
  | .operandRead side query opened =>
    side.Shaped Json.IsLiteral ∧ OpenedShaped (query :: opened)
  | .closing filter chain opened =>
    filter.Shaped Json.IsLiteral ∧ chain.ShapedIn opened ∧ OpenedShaped opened

/-! ### Chains -/

namespace Chain

variable {chain : Chain} {opened : List OpenQuery}

lemma operandShaped_append {steps more : List Step}
    (h : Operand.Shaped Json.IsLiteral (.path steps)) (hmore : Path.Shaped Json.IsLiteral more) :
    Operand.Shaped Json.IsLiteral (.path (steps ++ more)) := by
  cases h with
  | relative hsteps =>
    refine .relative ?_
    rw [List.forall_mem_append]
    exact ⟨hsteps, hmore⟩
  | absolute hsteps =>
    rw [List.cons_append]
    refine .absolute ?_
    rw [List.forall_mem_append]
    exact ⟨hsteps, hmore⟩

lemma ShapedIn.append {more : Path} (h : chain.ShapedIn opened)
    (hmore : Path.Shaped Json.IsLiteral more) (scanning : Bool) (place : Place) :
    ShapedIn ⟨chain.steps ++ more, scanning, place⟩ opened := by
  cases opened with
  | nil =>
    intro step hstep
    rcases List.mem_append.1 hstep with hstep | hstep
    · exact h step hstep
    · exact hmore step hstep
  | cons query opened => exact operandShaped_append h hmore

lemma ShapedIn.addDots (h : chain.ShapedIn opened) (two : Bool) :
    (chain.addDots two).ShapedIn opened := by
  cases opened with
  | nil => exact h
  | cons query opened => exact h

lemma ShapedIn.addName (h : chain.ShapedIn opened) (word : List Char) :
    (chain.addName word).ShapedIn opened := by
  refine h.append ?_ _ _
  rw [Path.Shaped, List.forall_mem_singleton]
  split
  · exact .scan _
  · exact .field _

lemma shaped_namesStep {names : List String} (h : names ≠ []) (scanning : Bool) :
    (namesStep scanning names).Shaped Json.IsLiteral := by
  match names, h with
  | [name], _ =>
    cases scanning with
    | false => exact .field _
    | true => exact .scan _
  | first :: second :: names, _ =>
    have hlength : 2 ≤ (first :: second :: names).length := by simp
    cases scanning with
    | false => exact .fields hlength
    | true => exact .scanFields hlength

lemma ShapedIn.addNames {names : List String} (h : chain.ShapedIn opened) (hnames : names ≠ []) :
    (chain.addNames names).ShapedIn opened := by
  refine h.append ?_ _ _
  rw [Path.Shaped, List.forall_mem_singleton]
  exact shaped_namesStep hnames _

lemma ShapedIn.addElements {step : Step} (h : chain.ShapedIn opened)
    (hstep : step.Shaped Json.IsLiteral) : (chain.addElements step).ShapedIn opened := by
  refine h.append ?_ _ _
  split
  · rw [Path.Shaped, List.forall_mem_cons, List.forall_mem_singleton]
    exact ⟨.scan none, hstep⟩
  · rw [Path.Shaped, List.forall_mem_singleton]
    exact hstep

lemma ShapedIn.addQuery {filter : Expression} (h : chain.ShapedIn opened)
    (hfilter : filter.Shaped Json.IsLiteral) : (chain.addQuery filter).ShapedIn opened := by
  refine h.append ?_ _ _
  rw [Path.Shaped, List.forall_mem_singleton]
  split
  · exact .queryScan hfilter
  · exact .query hfilter

end Chain

/-! ### Queries -/

namespace OpenQuery.Shaped

variable {query : OpenQuery} {side : Operand} {comparison : Expression}

lemma start (chain : Chain) : (OpenQuery.start chain).Shaped where
  alternatives := List.forall_mem_nil _
  conjunction := List.forall_mem_nil _
  pending := by simp [OpenQuery.start]

lemma isComparison_completed (h : query.Shaped) (hside : side.Shaped Json.IsLiteral) :
    (Progress.completed side query).IsComparison Json.IsLiteral := by
  unfold Progress.completed
  split
  · next left comparator hpending =>
    obtain ⟨hleft, hcomparator⟩ := h.pending (left, comparator) hpending
    exact .pair hcomparator hleft hside
  · exact .exists hside

lemma isConjunction_last (h : query.Shaped) (hcomparison : comparison.IsComparison Json.IsLiteral) :
    (combine .and (query.conjunction ++ [comparison])).IsConjunction Json.IsLiteral :=
  isConjunction_combine h.conjunction hcomparison

lemma compare (h : query.Shaped) (hside : side.Shaped Json.IsLiteral) {comparator : Comparator}
    (hcomparator : comparator ≠ .exists) :
    OpenQuery.Shaped { query with pending := some (side, comparator) } where
  alternatives := h.alternatives
  conjunction := h.conjunction
  pending := by
    rintro left hleft
    obtain rfl := Option.some.inj hleft
    exact ⟨hside, hcomparator⟩

lemma joinAnd (h : query.Shaped) (hcomparison : comparison.IsComparison Json.IsLiteral) :
    (query.joinAnd comparison).Shaped where
  alternatives := h.alternatives
  conjunction := by
    rw [OpenQuery.joinAnd, List.forall_mem_append, List.forall_mem_singleton]
    exact ⟨h.conjunction, hcomparison⟩
  pending := by simp [OpenQuery.joinAnd]

lemma joinOr (h : query.Shaped) (hcomparison : comparison.IsComparison Json.IsLiteral) :
    (query.joinOr comparison).Shaped where
  alternatives := by
    rw [OpenQuery.joinOr, List.forall_mem_append, List.forall_mem_singleton]
    exact ⟨h.alternatives, h.isConjunction_last hcomparison⟩
  conjunction := List.forall_mem_nil _
  pending := by simp [OpenQuery.joinOr]

lemma close (h : query.Shaped) (hcomparison : comparison.IsComparison Json.IsLiteral) :
    (query.close comparison).Shaped Json.IsLiteral :=
  shaped_combine h.alternatives (h.isConjunction_last hcomparison)

end OpenQuery.Shaped

/-! ### Moves -/

namespace Progress

variable {next : Progress} {text after : List Char}

lemma OperandMove.shaped {side : Operand} {query : OpenQuery} {opened : List OpenQuery}
    (h : OperandMove side query opened text next after) (hside : side.Shaped Json.IsLiteral)
    (hopened : OpenedShaped (query :: opened)) : next.Shaped := by
  obtain ⟨hchain, hquery, houter⟩ := hopened
  have hcompleted := hquery.isComparison_completed hside
  cases h with
  | space => exact ⟨hside, hchain, hquery, houter⟩
  | comparator hc hpending htake =>
    exact ⟨hchain, hquery.compare hside (Comparator.ne_exists_of_take htake), houter⟩
  | close => exact ⟨hquery.close hcompleted, hchain, houter⟩
  | and => exact ⟨hchain, hquery.joinAnd hcompleted, houter⟩
  | or => exact ⟨hchain, hquery.joinOr hcompleted, houter⟩

/-- Every move keeps the shape of what has been read. -/
lemma Move.shaped {progress : Progress} (h : Move progress text next after)
    (hshaped : progress.Shaped) : next.Shaped := by
  cases h with
  | names htake =>
    exact ⟨hshaped.1.addNames (Indexer.shaped_of_take htake), hshaped.2⟩
  | elements htake =>
    exact ⟨hshaped.1.addElements (Indexer.shaped_of_take htake), hshaped.2⟩
  | query htake => exact ⟨hshaped.1, .start _, hshaped.2⟩
  | dots => exact ⟨hshaped.1.addDots true, hshaped.2⟩
  | dot => exact ⟨hshaped.1.addDots false, hshaped.2⟩
  | word => exact ⟨hshaped.1.addName _, hshaped.2⟩
  -- within a query a chain is the operand that it spells
  | pathEnd hc hplace hmove => exact hmove.shaped hshaped.1 hshaped.2
  | space => exact hshaped
  | root => exact ⟨.absolute (List.forall_mem_nil _), hshaped⟩
  | node => exact ⟨.relative (List.forall_mem_nil _), hshaped⟩
  | literal hc htake => exact ⟨.literal (Literal.isLiteral_of_take htake), hshaped⟩
  | operandEnd hmove => exact hmove.shaped hshaped.1 hshaped.2
  | closingSpace => exact hshaped
  | close => exact ⟨hshaped.2.1.addQuery hshaped.1, hshaped.2.2⟩

lemma shaped_of_run {progress : Progress} {path : Path} (h : progress.run text = .ok path)
    (hshaped : progress.Shaped) : path.Shaped Json.IsLiteral := by
  revert hshaped
  refine run_induction (motive := fun progress _ =>
    progress.Shaped → path.Shaped Json.IsLiteral) ?_ ?_ h
  · rintro chain - rfl hshaped
    exact hshaped.1
  · intro progress next text after hmove _ ih hshaped
    exact ih (hmove.shaped hshaped)

end Progress

/-- **Everything that is read is shaped.**  In a path that is read, and in every query and operand
within, lists of names and of indexes have two entries or more, connectives join two parts or more,
conjunctions within disjunctions, a comparison lacks its right side exactly if it is a test of
existence, a step to the root stands only at the front of an operand, and literals are no
containers. -/
theorem shaped_of_read {text : String} {path : Path} (h : read text = .ok path) :
    path.Shaped Json.IsLiteral :=
  Progress.shaped_of_run h ⟨List.forall_mem_nil _, trivial⟩

theorem shaped_of_read_sample :
    read "$..['it\\'s'][?(@.a == -7 && $ || @ =~ /x/)][ 1, 02 ]" = .ok sample ∧
      sample.Shaped Json.IsLiteral :=
  ⟨read_of_spells spells_sample, shaped_of_read (read_of_spells spells_sample)⟩

end Path

end PathQuery
