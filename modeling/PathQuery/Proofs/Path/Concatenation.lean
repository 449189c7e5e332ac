/-
# Texts behind one another

A path can be continued with a text that starts with a dot or a bracket, and what is read then are
the steps of the path and behind them the steps of the text.  Two facts lead there.

The first text is read as it would be without the second one (`run_append`): no token reaches beyond
the place where the first text ends, and there the chain is complete.

From there the second text is read as it would be by itself (`run_behind`): the moves are the same,
and only the steps at the front of the outermost chain differ.  That chain may have ended in an
indexer where a fresh one is still open, but this matters to a name alone, and what comes next is a
dot or a bracket.
-/
import PathQuery.Proofs.Path.Extension
import PathQuery.Proofs.Path.Inversion
import PathQuery.Proofs.Path.RoundTrip

namespace PathQuery.Path

/-- The text starts as a step does behind another one: with a dot or a bracket. -/
def StartsStep (text : List Char) : Prop := ∃ c tail, text = c :: tail ∧ (c = '.' ∨ c = '[')

lemma StartsStep.isNameChar_head {text : List Char} (h : StartsStep text) (inQuery : Bool) :
    ∀ c ∈ text.head?, isNameChar inQuery c = false := by
  obtain ⟨c, tail, rfl, hc⟩ := h
  rintro d hd
  obtain rfl : c = d := Option.some.inj hd
  rcases hc with rfl | rfl <;> rfl

namespace Progress

/-! ## The first text -/

/-- Dots make the next step a scan only while nothing has come behind them. -/
def IsSettled : Progress → Prop
  | .steps chain _ => chain.scanning = true → chain.place = .dot
  | _ => True

/-- Every move settles the reading. -/
lemma Move.isSettled {progress next : Progress} {text after : List Char}
    (h : Move progress text next after) : next.IsSettled := by
  have hoperand {side : Operand} {query : OpenQuery} {opened : List OpenQuery}
      (h : OperandMove side query opened text next after) : next.IsSettled := by
    cases h <;> trivial
  cases h with
  | names | elements | word | root | node | close => exact fun h => absurd h Bool.false_ne_true
  | dots | dot => exact fun _ => rfl
  | pathEnd hc hplace hmove => exact hoperand hmove
  | operandEnd hmove => exact hoperand hmove
  | query | space | literal | closingSpace => trivial

/-- A move is the same with more text behind, unless the text ends with it and the path does not. -/
lemma Move.append {progress next : Progress} {text after more : List Char}
    (h : Move progress text next after) (hmore : StartsStep more)
    (hend : after ≠ [] ∨ ∃ path, next.finish = .ok path) :
    Move progress (text ++ more) next (after ++ more) := by
  have hoperand {side : Operand} {query : OpenQuery} {opened : List OpenQuery}
      (h : OperandMove side query opened text next after) :
      OperandMove side query opened (text ++ more) next (after ++ more) := by
    cases h with
    | space => exact .space _
    | comparator hc hpending htake =>
      have hne : after ≠ [] := by simpa [finish] using hend
      exact .comparator hc hpending (Comparator.take_append htake hne more)
    | close => exact .close _
    | and => exact .and _
    | or => exact .or _
  cases h with
  | names htake => exact .names (Indexer.take_append htake more)
  | elements htake => exact .elements (Indexer.take_append htake more)
  | query htake => exact .query (Indexer.take_append htake more)
  | dots chain opened => exact .dots chain opened _
  | dot chain opened hrest =>
    -- a path does not end in a dot
    have hne : after ≠ [] := by simpa [finish, Chain.addDots] using hend
    have hhead : ∀ c ∈ (after ++ more).head?, c ≠ '.' := by
      rwa [List.head?_append_of_ne_nil _ hne]
    exact .dot chain opened hhead
  | @word chain opened c tail rest hplace hword hrest =>
    rw [List.cons_append, List.append_assoc]
    refine .word hplace hword ?_
    cases after with
    | nil => exact hmore.isNameChar_head _
    | cons d after => exact hrest
  | pathEnd hc hplace hmove => exact .pathEnd hc hplace (hoperand hmove)
  | space query opened => exact .space query opened _
  | root query opened => exact .root query opened _
  | node query opened => exact .node query opened _
  | literal hc htake =>
    have hne : after ≠ [] := by simpa [finish] using hend
    exact .literal hc (Literal.take_append htake hne more)
  | operandEnd hmove => exact .operandEnd (hoperand hmove)
  | closingSpace filter chain opened => exact .closingSpace filter chain opened _
  | close filter chain opened => exact .close filter chain opened _

/-- A text that is a path by itself is read to its end before more text matters, and leaves a chain
that is ready for more. -/
lemma run_append {progress : Progress} {text more : List Char} {path : Path}
    (h : progress.run text = .ok path) (hsettled : progress.IsSettled) (hmore : StartsStep more) :
    ∃ chain : Chain, chain.IsReady ∧ chain.steps = path ∧
      progress.run (text ++ more) = (steps chain []).run more := by
  revert hsettled
  refine run_induction (motive := fun progress text => progress.IsSettled →
    ∃ chain : Chain, chain.IsReady ∧ chain.steps = path ∧
      progress.run (text ++ more) = (steps chain []).run more) ?_ ?_ h
  · intro chain hplace hsteps hsettled
    have hscanning : chain.scanning = false := by
      by_contra hscanning
      exact hplace (hsettled (by simpa using hscanning))
    exact ⟨chain, ⟨hscanning, hplace⟩, hsteps, rfl⟩
  · intro progress next text after hmove hrun ih _
    obtain ⟨chain, hready, hsteps, hmore'⟩ := ih hmove.isSettled
    refine ⟨chain, hready, hsteps, ?_⟩
    rw [(hmove.append hmore ?_).run_eq, hmore']
    cases after with
    | nil => exact Or.inr ⟨path, by rwa [run_nil] at hrun⟩
    | cons => exact Or.inl (List.cons_ne_nil _ _)

end Progress

/-! ## The second text -/

namespace Chain

/-- Nothing has been read for the chain yet. -/
def IsFresh (chain : Chain) : Prop := chain.steps = [] ∧ chain.place = .open

instance (chain : Chain) : Decidable chain.IsFresh :=
  inferInstanceAs (Decidable (chain.steps = [] ∧ chain.place = .open))

/-- The chain that goes on behind `front` as `chain` goes on by itself. -/
def behind (front chain : Chain) : Chain where
  steps := front.steps ++ chain.steps
  scanning := chain.scanning
  place := if chain.IsFresh then front.place else chain.place

variable {front chain : Chain}

lemma behind_start (h : front.scanning = false) : front.behind (start []) = front := by
  have hfresh : (start []).IsFresh := ⟨rfl, rfl⟩
  cases front
  simp_all [behind, start]

lemma place_behind (h : ¬chain.IsFresh) : (front.behind chain).place = chain.place := if_neg h

lemma behind_mk {path more : Path} {scanning : Bool} {place : Place}
    (h : more ≠ [] ∨ place ≠ .open) :
    front.behind ⟨path ++ more, scanning, place⟩
      = ⟨front.steps ++ path ++ more, scanning, place⟩ := by
  have hfresh : ¬(⟨path ++ more, scanning, place⟩ : Chain).IsFresh := by
    rintro ⟨hsteps, hplace⟩
    rcases h with h | h
    · exact h (List.append_eq_nil_iff.1 hsteps).2
    · exact h hplace
  rw [behind, if_neg hfresh, List.append_assoc]

/-! What is added to a chain is added to the longer chain as well. -/

lemma behind_addDots (two : Bool) :
    front.behind (chain.addDots two) = (front.behind chain).addDots two := by
  simp [behind, addDots, IsFresh]

lemma behind_addName (word : List Char) :
    front.behind (chain.addName word) = (front.behind chain).addName word :=
  behind_mk (Or.inl (List.cons_ne_nil _ _))

lemma behind_addNames (names : List String) :
    front.behind (chain.addNames names) = (front.behind chain).addNames names :=
  behind_mk (Or.inl (List.cons_ne_nil _ _))

lemma behind_addElements (step : Step) :
    front.behind (chain.addElements step) = (front.behind chain).addElements step :=
  behind_mk (Or.inr (by decide))

lemma behind_addQuery (filter : Expression) :
    front.behind (chain.addQuery filter) = (front.behind chain).addQuery filter :=
  behind_mk (Or.inl (List.cons_ne_nil _ _))

/-- The chain behind another one, if no query is open around it; a chain within a query stays as it
is. -/
def behindIn (front : Chain) : List OpenQuery → Chain → Chain
  | [], chain => front.behind chain
  | _ :: _, chain => chain

lemma place_behindIn {opened : List OpenQuery} (h : opened = [] → ¬chain.IsFresh) :
    (front.behindIn opened chain).place = chain.place := by
  cases opened with
  | nil => exact place_behind (h rfl)
  | cons => rfl

end Chain

namespace Progress

open Chain (behindIn)

/-- Open queries whose outermost chain comes behind another one. -/
def openedBehind (front : Chain) : List OpenQuery → List OpenQuery
  | [] => []
  | query :: opened =>
    { query with chain := front.behindIn opened query.chain } :: openedBehind front opened

/-- The reading whose outermost chain comes behind another one. -/
def behind (front : Chain) : Progress → Progress
  | .steps chain opened => .steps (front.behindIn opened chain) (openedBehind front opened)
  | .operand query opened =>
    .operand { query with chain := front.behindIn opened query.chain } (openedBehind front opened)
  | .operandRead side query opened =>
    .operandRead side { query with chain := front.behindIn opened query.chain }
      (openedBehind front opened)
  | .closing filter chain opened =>
    .closing filter (front.behindIn opened chain) (openedBehind front opened)

/-- What a move gives, with the outermost chain behind another one. -/
def movedBehind (front : Chain) (moved : Except SyntaxError (Progress × List Char)) :
    Except SyntaxError (Progress × List Char) :=
  moved.map fun (next, after) => (next.behind front, after)

variable {front : Chain} {opened : List OpenQuery} {c : Char}

@[simp] lemma isEmpty_openedBehind : (openedBehind front opened).isEmpty = opened.isEmpty := by
  cases opened <;> rfl

lemma conclude_behind (comparison : Expression) (query : OpenQuery) (rest : List Char) :
    conclude comparison { query with chain := front.behindIn opened query.chain }
        (openedBehind front opened) c rest
      = movedBehind front (conclude comparison query opened c rest) := by
  unfold conclude
  split <;> rfl

lemma compare_behind (side : Operand) (query : OpenQuery) (rest : List Char) :
    compare side { query with chain := front.behindIn opened query.chain }
        (openedBehind front opened) c rest
      = movedBehind front (compare side query opened c rest) := by
  obtain ⟨chain, alternatives, conjunction, _ | ⟨left, comparator⟩⟩ := query
  · unfold compare
    dsimp only
    split
    · rfl
    · split
      · exact conclude_behind _ ⟨chain, alternatives, conjunction, none⟩ rest
      · rcases Comparator.take (c :: rest) with cause | ⟨comparator, after⟩ <;> rfl
  · unfold compare
    dsimp only
    split
    · rfl
    · exact conclude_behind _ ⟨chain, alternatives, conjunction, some (left, comparator)⟩ rest

/-- A move that adds to a chain does so behind another one as well. -/
lemma ok_steps_behind (add : Chain → Chain)
    (hadd : ∀ chain, front.behind (add chain) = add (front.behind chain)) (chain : Chain)
    (after : List Char) :
    .ok (steps (add (front.behindIn opened chain)) (openedBehind front opened), after)
      = movedBehind front (.ok (steps (add chain) opened, after)) := by
  cases opened with
  | nil => exact congrArg (fun chain => Except.ok (steps chain [], after)) (hadd chain).symm
  | cons => rfl

/-- A chain goes on alike behind another one.  Only a name can tell a fresh chain from one that has
ended in an indexer. -/
lemma extend_behind {chain : Chain} (h : opened = [] → chain.IsFresh → c = '.' ∨ c = '[')
    (rest : List Char) :
    extend (front.behindIn opened chain) (openedBehind front opened) c rest
      = movedBehind front (extend chain opened c rest) := by
  unfold extend
  split
  · rcases Indexer.take rest with cause | ⟨names | step | _, after⟩
    · rfl
    · exact ok_steps_behind (·.addNames names) (fun _ => Chain.behind_addNames names) chain after
    · exact ok_steps_behind (·.addElements step) (fun _ => Chain.behind_addElements step) chain
        after
    · rfl
  · next hbracket =>
    split
    · split
      · exact ok_steps_behind (·.addDots true) (fun _ => Chain.behind_addDots true) chain _
      · exact ok_steps_behind (·.addDots false) (fun _ => Chain.behind_addDots false) chain _
    · next hdot =>
      have hplace : (front.behindIn opened chain).place = chain.place :=
        Chain.place_behindIn fun hopened hfresh => (h hopened hfresh).elim hdot hbracket
      rw [hplace, isEmpty_openedBehind]
      split
      · rfl
      · exact ok_steps_behind (·.addName _) (fun _ => Chain.behind_addName _) chain _

/-- The outermost chain is not the one being read, or something has been read for it. -/
def HasBegun : Progress → Prop
  | .steps chain [] => ¬chain.IsFresh
  | _ => True

lemma advance_behind {progress : Progress} (h : progress.HasBegun ∨ c = '.' ∨ c = '[')
    (rest : List Char) :
    (progress.behind front).advance c rest = movedBehind front (progress.advance c rest) := by
  cases progress with
  | steps chain opened =>
    cases opened with
    | nil =>
      show (if _ then _ else extend _ _ c rest) = movedBehind front (if _ then _ else _)
      split
      · rfl
      · have hhead : [] = ([] : List OpenQuery) → chain.IsFresh → c = '.' ∨ c = '[' :=
          fun _ hfresh => h.resolve_left fun hbegun => hbegun hfresh
        exact extend_behind hhead rest
    | cons query opened =>
      show (if _ then (if chain.place = Place.dot then _ else _) else extend _ _ c rest)
        = movedBehind front (if _ then (if chain.place = Place.dot then _ else _) else _)
      split
      · split
        · rfl
        · exact compare_behind (.path chain.steps) query rest
      · have hhead : query :: opened = [] → chain.IsFresh → c = '.' ∨ c = '[' :=
          fun hnil => absurd hnil (List.cons_ne_nil _ _)
        exact extend_behind hhead rest
  | operand query opened =>
    show (if _ then _ else _) = movedBehind front (if _ then _ else _)
    split
    · rfl
    · split
      · rfl
      · split
        · rfl
        · rcases Literal.take (c :: rest) with cause | ⟨value, after⟩ <;> rfl
  | operandRead side query opened => exact compare_behind side query rest
  | closing filter chain opened =>
    show (if _ then _ else _) = movedBehind front (if _ then _ else _)
    split
    · rfl
    · split
      · exact ok_steps_behind (·.addQuery filter) (fun _ => Chain.behind_addQuery filter) chain rest
      · rfl

/-- Every move reads something for the outermost chain or for a query within. -/
lemma Move.hasBegun {progress next : Progress} {text after : List Char}
    (h : Move progress text next after) : next.HasBegun := by
  have hsteps {chain : Chain} {opened : List OpenQuery}
      (h : chain.steps ≠ [] ∨ chain.place ≠ .open) : (steps chain opened).HasBegun := by
    cases opened with
    | nil => exact fun hfresh => h.elim (· hfresh.1) (· hfresh.2)
    | cons => trivial
  have hoperand {side : Operand} {query : OpenQuery} {opened : List OpenQuery}
      (h : OperandMove side query opened text next after) : next.HasBegun := by
    cases h <;> trivial
  cases h with
  | names | elements | dots | dot | close => exact hsteps (Or.inr (by simp [Chain.addNames,
      Chain.addElements, Chain.addDots, Chain.addQuery]))
  | word => exact hsteps (Or.inl (by simp [Chain.addName]))
  | pathEnd hc hplace hmove => exact hoperand hmove
  | operandEnd hmove => exact hoperand hmove
  | query | space | root | node | literal | closingSpace => trivial

lemma finish_behind (hplace : front.place ≠ .dot) (progress : Progress) :
    (progress.behind front).finish = progress.finish.map (front.steps ++ ·) := by
  cases progress with
  | steps chain opened =>
    cases opened with
    | nil =>
      have hdot : (front.behind chain).place = .dot ↔ chain.place = .dot := by
        by_cases hfresh : chain.IsFresh
        · have hchain : chain.place ≠ .dot := by simp [hfresh.2]
          simp [Chain.behind, hfresh, hplace, hchain]
        · rw [Chain.place_behind hfresh]
      show (if (front.behind chain).place = Place.dot then _ else _)
        = Except.map _ (if _ then _ else _)
      simp only [hdot]
      split <;> rfl
    | cons query opened =>
      show (if chain.place = Place.dot then _ else _)
        = Except.map _ (if chain.place = Place.dot then _ else _)
      split <;> rfl
  | operand => rfl
  | operandRead => rfl
  | closing => rfl

/-- A text is read behind a path as it is read by itself. -/
lemma run_behind (hplace : front.place ≠ .dot) {progress : Progress} {text : List Char}
    (h : progress.HasBegun ∨ StartsStep text) :
    (progress.behind front).run text = (progress.run text).map (front.steps ++ ·) := by
  have hhead {progress : Progress} {c : Char} {rest : List Char}
      (h : progress.HasBegun ∨ StartsStep (c :: rest)) :
      progress.HasBegun ∨ c = '.' ∨ c = '[' := by
    refine h.imp_right ?_
    rintro ⟨d, tail, hsame, hd⟩
    rwa [(List.cons.inj hsame).1]
  fun_induction run progress text with
  | case1 progress => rw [run_nil, finish_behind hplace]
  | case2 progress c rest cause hcause =>
    rw [run_cons, advance_behind (hhead h), hcause]
    rfl
  | case3 progress c rest next after hmove _ ih =>
    have hbegun : next.HasBegun := (advance_eq_ok_iff.1 hmove).hasBegun
    rw [run_cons, advance_behind (hhead h), hmove, ← ih (Or.inl hbegun)]
    rfl

end Progress

/-! ## Whole texts -/

lemma trimBlanks_of_getLast? {text : List Char} (h : ∀ c ∈ text.getLast?, isBlank c = false) :
    trimBlanks text = text.dropWhile isBlank := by
  have hhead : ∀ c ∈ (text.dropWhile isBlank).reverse.head?, isBlank c = false := by
    intro c hc
    rw [List.head?_reverse] at hc
    refine h c ?_
    rw [← List.takeWhile_append_dropWhile (p := isBlank) (l := text), List.getLast?_append, hc]
    rfl
  have hdrop : (text.dropWhile isBlank).reverse.dropWhile isBlank
      = (text.dropWhile isBlank).reverse :=
    dropWhile_append_of_head (List.forall_mem_nil _) hhead
  rw [trimBlanks, hdrop, List.reverse_reverse]

lemma StartsStep.isBlank_head {c : Char} {tail : List Char} (h : StartsStep (c :: tail)) :
    isBlank c = false := by
  obtain ⟨d, rest, hsame, hd⟩ := h
  rw [(List.cons.inj hsame).1]
  rcases hd with rfl | rfl <;> decide

/-- White space is trimmed in front of the first text and behind the second one. -/
lemma trimBlanks_append_of_startsStep {p q : List Char}
    (hp : ∀ c ∈ p.getLast?, isBlank c = false) (hq : StartsStep q) :
    trimBlanks (p ++ q) = trimBlanks p ++ trimBlanks q := by
  obtain ⟨c, tail, rfl, hc⟩ := hq
  have hblank : isBlank c = false := StartsStep.isBlank_head ⟨c, tail, rfl, hc⟩
  have hdrop : (c :: tail).dropWhile isBlank = c :: tail :=
    List.dropWhile_cons_of_neg (by simp [hblank])
  -- a first text that is all white space is empty
  have hfront : (p ++ c :: tail).dropWhile isBlank = p.dropWhile isBlank ++ c :: tail := by
    by_cases hnil : p.dropWhile isBlank = []
    · have hall := List.dropWhile_eq_nil_iff.1 hnil
      rcases List.eq_nil_or_concat p with rfl | ⟨init, d, rfl⟩
      · exact hdrop
      · exact absurd (hall d (by simp)) (by simp [hp d (by simp)])
    · exact dropWhile_append_of_ne_nil hnil _
  have hback : (c :: tail).reverse.dropWhile isBlank ≠ [] := by
    intro hnil
    have hall := List.dropWhile_eq_nil_iff.1 hnil c (by simp)
    simp [hblank] at hall
  rw [trimBlanks_of_getLast? hp, trimBlanks, trimBlanks, hfront, hdrop, List.reverse_append,
    dropWhile_append_of_ne_nil hback, List.reverse_append, List.reverse_reverse]

lemma dropAnchor_append {q : List Char} (hq : StartsStep q) (p : List Char) :
    dropAnchor (p ++ q) = dropAnchor p ++ q := by
  obtain ⟨c, tail, rfl, hc⟩ := hq
  cases p with
  | nil => rcases hc with rfl | rfl <;> rfl
  | cons d p =>
    by_cases hd : d = '$'
    · subst hd
      cases p with
      | nil => rcases hc with rfl | rfl <;> rfl
      | cons e p =>
        by_cases hdot : e = '.'
        · subst hdot
          rfl
        · by_cases hbracket : e = '['
          · subst hbracket
            rfl
          · simp [dropAnchor, hdot, hbracket]
    · simp [dropAnchor, hd]

lemma dropAnchor_of_startsStep {q : List Char} (hq : StartsStep q) : dropAnchor q = q :=
  dropAnchor_append hq []

lemma StartsStep.trimBlanks {text : List Char} (h : StartsStep text) :
    StartsStep (trimBlanks text) := by
  obtain ⟨c, tail, rfl, hc⟩ := h
  have hblank : isBlank c = false := StartsStep.isBlank_head ⟨c, tail, rfl, hc⟩
  have hback : (tail.reverse ++ [c]).dropWhile isBlank = tail.reverse.dropWhile isBlank ++ [c] := by
    by_cases hnil : tail.reverse.dropWhile isBlank = []
    · rw [List.dropWhile_append, hnil, List.isEmpty_nil, if_pos rfl, List.nil_append]
      exact List.dropWhile_cons_of_neg (by simp [hblank])
    · exact dropWhile_append_of_ne_nil hnil _
  refine ⟨c, (tail.reverse.dropWhile isBlank).reverse, ?_, hc⟩
  rw [PathQuery.trimBlanks, List.dropWhile_cons_of_neg (by simp [hblank]), List.reverse_cons, hback,
    List.reverse_append]
  rfl

/-- **A path goes on with another text.**  If a text that does not end in white space is a path, and
a dot or a bracket comes behind it, then what is read of both is what is read of each, or what is
wrong with the second one. -/
theorem read_append {p q : String} {path : Path} (hp : read p = .ok path)
    (hlast : ∀ c ∈ p.toList.getLast?, isBlank c = false) (hq : StartsStep q.toList) :
    read (p ++ q) = (read q).map (path ++ ·) := by
  have htrim := hq.trimBlanks
  have hsettled : (Progress.steps (.start []) []).IsSettled := fun h => absurd h Bool.false_ne_true
  obtain ⟨front, hready, rfl, hrun⟩ := Progress.run_append hp hsettled htrim
  have hbehind : ((Progress.steps (.start []) []).behind front).run (trimBlanks q.toList)
      = ((Progress.steps (.start []) []).run (trimBlanks q.toList)).map (front.steps ++ ·) :=
    Progress.run_behind hready.place (Or.inr htrim)
  calc read (p ++ q)
      = Progress.run (.steps (.start []) [])
          (dropAnchor (trimBlanks p.toList) ++ trimBlanks q.toList) := by
        rw [read, String.toList_append, trimBlanks_append_of_startsStep hlast hq,
          dropAnchor_append htrim]
    _ = Progress.run (.steps front []) (trimBlanks q.toList) := hrun
    _ = ((Progress.steps (.start []) []).behind front).run (trimBlanks q.toList) := by
        rw [Progress.behind, Chain.behindIn, Chain.behind_start hready.scanning]
        rfl
    _ = (read q).map (front.steps ++ ·) := by
        rw [hbehind, read, dropAnchor_of_startsStep htrim]

/-- A path that ends in a query, with an indexer and a name behind it, and with an indexer that is
left open. -/
theorem read_append_query :
    read ("$..a[?(@.b || $.c)]" ++ "[*].d ")
        = .ok [.scan (some "a"),
            .query (.composite .or [.comparison .exists (.path [.field (some "b")]) none,
              .comparison .exists (.path [.root, .field (some "c")]) none]),
            .index none, .field (some "d")] ∧
      read ("$..a[?(@.b || $.c)]" ++ ".d[*") = .error .openIndexer := by
  have hp : read "$..a[?(@.b || $.c)]"
      = .ok [.scan (some "a"),
          .query (.composite .or [.comparison .exists (.path [.field (some "b")]) none,
            .comparison .exists (.path [.root, .field (some "c")]) none])] := by cbv
  have hlast : ∀ c ∈ "$..a[?(@.b || $.c)]".toList.getLast?, isBlank c = false := by
    intro c hc
    obtain rfl : ']' = c := Option.some.inj hc
    decide
  have hq : read "[*].d " = .ok [.index none, .field (some "d")] := by cbv
  have hopen : read ".d[*" = .error .openIndexer := by cbv
  constructor
  · rw [read_append hp hlast ⟨'[', _, rfl, Or.inr rfl⟩, hq]
    rfl
  · rw [read_append hp hlast ⟨'.', _, rfl, Or.inl rfl⟩, hopen]
    rfl

end PathQuery.Path
