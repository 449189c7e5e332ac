/-
# Reading undoes spelling

A text that spells a path is read as that path, whichever of the many spellings of the path it is.
The proof follows the derivation of the spelling; the moves over each form of syntax are lemmas of
their own.
-/
import PathQuery.Proofs.Path.QueryMoves
import PathQuery.Proofs.Path.Spellable

namespace PathQuery

open PathQuery.Path PathQuery.Path.Progress

namespace Spelling

/-! ## Names and heads -/

lemma IsPlainName.isNameChar {inQuery : Bool} {name : List Char} (h : IsPlainName inQuery name) :
    ∀ c ∈ name, Path.isNameChar inQuery c := by
  intro c hc
  have hmem := h.not_mem c hc
  cases inQuery with
  | false => exact isNameChar_of_notMem hmem
  | true =>
    have hquery := h.not_mem_of_inQuery rfl c hc
    simp only [List.mem_cons, List.not_mem_nil, or_false, not_or] at hmem hquery
    simp [Path.isNameChar, endsChain, hmem, hquery]

/-- A part starts with a dot or a bracket. -/
lemma SpellsPart.head {inQuery : Bool} {steps : List Step} {text : List Char}
    (h : SpellsPart inQuery steps text) : ∃ c tail, text = c :: tail ∧ (c = '.' ∨ c = '[') := by
  have hdots {n : Nat} (hn : 1 ≤ n) (text : List Char) :
      ∃ c tail, dots n ++ text = c :: tail ∧ (c = '.' ∨ c = '[') := by
    obtain ⟨n, rfl⟩ := Nat.exists_eq_add_of_le' hn
    exact ⟨'.', dots n ++ text, rfl, Or.inl rfl⟩
  have hbracketed (n a b : Nat) (text : List Char) :
      ∃ c tail, dots n ++ bracketed a text b = c :: tail ∧ (c = '.' ∨ c = '[') := by
    cases n with
    | zero => exact ⟨'[', _, rfl, Or.inr rfl⟩
    | succ n => exact hdots (Nat.le_add_left 1 n) _
  cases h with
  | name _ hn => exact hdots hn _
  | star _ hn => exact hdots hn _
  | quoted => exact hbracketed _ _ _ _
  | names => exact hbracketed _ _ _ _
  | elements => exact hbracketed _ _ _ _
  | query => exact hbracketed _ _ _ _

lemma SpellsSteps.head {inQuery : Bool} {steps : List Step} {text : List Char}
    (h : SpellsSteps inQuery steps text) : ∀ c ∈ text.head?, c = '.' ∨ c = '[' := by
  cases h with
  | nil => simp
  | cons hpart hrest =>
    obtain ⟨c, tail, rfl, hc⟩ := hpart.head
    simpa using hc

/-! ## Reading -/

mutual

lemma SpellsPart.reads {inQuery : Bool} {steps : List Step} {text : List Char} :
    SpellsPart inQuery steps text → ReadsSteps inQuery steps text
  | .name inQuery hdots hname => by
    refine readsSteps_word hdots hname.ne_nil hname.isNameChar ?_
    rw [if_neg hname.ne_star, String.ofList_toList]
  | .star inQuery hdots => by
    refine readsSteps_word hdots (List.cons_ne_nil _ _) ?_ (if_pos rfl).symm
    rw [List.forall_mem_singleton]
    cases inQuery <;> decide
  | .quoted inQuery n a b name => by
    simpa [Chain.namesStep] using readsSteps_names (.single name) inQuery n a b
  | .names inQuery n a b hlength hnames => by
    simpa [Chain.namesStep_of_length hlength] using readsSteps_names hnames inQuery n a b
  | .elements inQuery n a b hstep => readsSteps_elements hstep inQuery n a b
  | .query inQuery n a b c hfilter => readsSteps_query hfilter.reads inQuery n a b c

lemma SpellsSteps.reads {inQuery : Bool} {steps : List Step} {text : List Char} :
    SpellsSteps inQuery steps text → ReadsSteps inQuery steps text
  | .nil inQuery => readsSteps_nil inQuery
  | .cons hsteps hrest => by
    refine hsteps.reads.append hrest.reads fun c hc => ?_
    rcases hrest.head c hc with rfl | rfl <;> cases inQuery <;> rfl

lemma SpellsOperand.reads {side : Operand} {text : List Char} :
    SpellsOperand side text → ReadsOperand side text
  | .literal hvalue => readsOperand_literal hvalue
  | .relative hsteps => readsOperand_relative hsteps.reads
  | .absolute hsteps => readsOperand_absolute hsteps.reads

lemma SpellsComparison.reads {part : Expression} {text : List Char} :
    SpellsComparison part text → ReadsComparison part text
  | .exists a b hleft => readsComparison_exists hleft.reads a b
  | .pair a b c d hleft hsymbol hright =>
    readsComparison_pair hleft.reads hsymbol hright hright.reads a b c d

lemma SpellsComparisons.reads {parts : List Expression} {text : List Char} :
    SpellsComparisons parts text → ReadsComparisons parts text
  | .single hpart => hpart.reads.single
  | .cons hpart hparts => hparts.reads.cons hpart.reads

lemma SpellsConjunction.reads {part : Expression} {text : List Char} :
    SpellsConjunction part text → ReadsConjunction part text
  | .comparison hpart => hpart.reads.conjunction
  | .and hlength hparts => hparts.reads.conjunction hlength

lemma SpellsConjunctions.reads {parts : List Expression} {text : List Char} :
    SpellsConjunctions parts text → ReadsConjunctions parts text
  | .single hpart => hpart.reads.single
  | .cons hpart hparts => hparts.reads.cons hpart.reads

lemma SpellsExpression.reads {filter : Expression} {text : List Char} :
    SpellsExpression filter text → ReadsExpression filter text
  | .conjunction hpart => hpart.reads.expression
  | .or hlength hparts => hparts.reads.expression hlength

end

end Spelling

/-! ## Whole texts -/

lemma trimBlanks_append {before text after : List Char} (hbefore : ∀ c ∈ before, isBlank c)
    (hafter : ∀ c ∈ after, isBlank c) (hhead : ∀ c ∈ text.head?, isBlank c = false)
    (hlast : ∀ c ∈ text.getLast?, isBlank c = false) (hne : text ≠ []) :
    trimBlanks (before ++ text ++ after) = text := by
  have hstart : ∀ c ∈ (text ++ after).head?, isBlank c = false := by
    rwa [List.head?_append, Option.or_of_isSome (List.isSome_head?.2 hne)]
  have hend : ∀ c ∈ text.reverse.head?, isBlank c = false := by
    rwa [List.head?_reverse]
  have hreverse : ∀ c ∈ after.reverse, isBlank c := fun c hc => hafter c (List.mem_reverse.1 hc)
  rw [trimBlanks, List.append_assoc, dropWhile_append_of_head hbefore hstart, List.reverse_append,
    dropWhile_append_of_head hreverse hend, List.reverse_reverse]

namespace Path

open Spelling

lemma dropAnchor_of_head {text : List Char} (h : ∀ c ∈ text.head?, c = '.' ∨ c = '[') :
    dropAnchor ('$' :: text) = text := by
  cases text with
  | nil => rfl
  | cons c text => rcases h c rfl with rfl | rfl <;> rfl

/-- A text that spells a path is read as the path. -/
lemma read_of_spells {path : Path} {text : String} (h : SpellsPath path text.toList) :
    read text = .ok path := by
  generalize htext : text.toList = chars at h
  obtain @⟨before, inner, after, hpath, hbefore, hafter, hlast⟩ := h
  have htrim : trimBlanks (before ++ '$' :: inner ++ after) = '$' :: inner := by
    refine trimBlanks_append hbefore hafter ?_ ?_ (List.cons_ne_nil _ _)
    · rintro c hc
      obtain rfl : '$' = c := Option.some.inj hc
      decide
    -- without steps the dollar sign is the last character as well
    · intro c hc
      cases inner with
      | nil =>
        obtain rfl : '$' = c := Option.some.inj hc
        decide
      | cons d inner => exact hlast c (by simpa using hc)
  obtain ⟨next, hready, hsteps, hrun⟩ :=
    hpath.reads (.start []) [] [] ⟨rfl, by simp [Chain.start]⟩ rfl (by simp)
  rw [List.append_nil] at hrun
  rw [read, htext, htrim, dropAnchor_of_head hpath.head, hrun, run_nil, finish,
    if_neg hready.place, if_pos List.isEmpty_nil, hsteps]
  rfl

/-- **Reading undoes spelling.**  A path of the form of one that is read, with literals that are
spelled exactly, has a spelling, and it is read from every spelling that it has. -/
theorem read_spelling {path : Path} (hshape : path.Shaped Json.IsExactLiteral) :
    (∃ text : String, SpellsPath path text.toList) ∧
      ∀ text : String, SpellsPath path text.toList → read text = .ok path :=
  ⟨exists_spellsPath hshape, fun _ => read_of_spells⟩

/-! ### A sample -/

/-- A scan, a query of two alternatives, one of them a conjunction, and a list of indexes. -/
def sample : Path :=
  [.scan (some "it's"),
    .query (.composite .or
      [.composite .and
        [.comparison .equal (.path [.field (some "a")])
          (some (.literal (.number (.integer ⟨-7, by decide⟩)))),
          .comparison .exists (.path [.root]) none],
        .comparison .matchesPattern (.path []) (some (.literal (.string "/x/")))]),
    .indexes [1, 2]]

lemma shaped_sample : sample.Shaped Json.IsExactLiteral := by
  have hword : IsSignedWord (-7) := by decide
  have hand : Expression.IsConjunction Json.IsExactLiteral
      (.composite .and
        [.comparison .equal (.path [.field (some "a")])
          (some (.literal (.number (.integer ⟨-7, by decide⟩)))),
          .comparison .exists (.path [.root]) none]) := by
    refine .and (by decide) ?_
    simp only [List.forall_mem_cons]
    refine ⟨.pair (by decide) (.relative ?_) (.literal hword), .exists (.absolute (by simp)),
      by simp⟩
    simpa using Step.Shaped.field (some "a")
  have hpattern : Expression.IsConjunction Json.IsExactLiteral
      (.comparison .matchesPattern (.path []) (some (.literal (.string "/x/")))) :=
    .comparison (.pair (by decide) (.relative (by simp)) (.literal trivial))
  unfold Path.Shaped sample
  simp only [List.forall_mem_cons]
  refine ⟨.scan _, .query (.or (by decide) ?_), .indexes (by decide) (by decide), by simp⟩
  simpa using ⟨hand, hpattern⟩

lemma spells_sample :
    SpellsPath sample "$..['it\\'s'][?(@.a == -7 && $ || @ =~ /x/)][ 1, 02 ]".toList := by
  have hname : IsPlainName true "a".toList := ⟨by decide, by decide, by simp, by simp⟩
  have hfield : SpellsSteps true [.field (some "a")] _ :=
    .cons (.name true (n := 1) (by decide) hname) (.nil true)
  have hequal : SpellsComparison (.comparison .equal (.path [.field (some "a")])
      (some (.literal (.number (.integer ⟨-7, by decide⟩))))) _ :=
    .pair 0 1 1 1 (.relative hfield) (List.mem_singleton_self _)
      (.literal (.integer (spellsInteger_integerText (by decide))))
  have hroot : SpellsComparison (.comparison .exists (.path [.root]) none) _ :=
    .exists 1 1 (.absolute (.nil true))
  have hbody : IsPatternBody ['x'] := .plain (by decide) (by decide) .nil
  have hpattern : SpellsComparison
      (.comparison .matchesPattern (.path []) (some (.literal (.string "/x/")))) _ :=
    .pair 1 1 1 0 (.relative (.nil true)) (List.mem_singleton_self _)
      (.literal (.pattern hbody (List.forall_mem_nil _)))
  have hfilter := SpellsExpression.or (by decide)
    (.cons (.and (by decide) (.cons hequal (.single hroot))) (.single (.comparison hpattern)))
  -- the second index has a leading zero
  have htwo : SpellsInteger (digitsValue ['0', '2']) ['0', '2'] :=
    .unsigned (by decide) (List.forall_iff_forall_mem.1 (by decide)) (by decide)
  have hindexes : SpellsIntegers [1, 2] _ :=
    .cons 0 1 (spellsInteger_integerText (by decide)) (.single htwo)
  have hsteps : SpellsSteps false sample _ :=
    .cons (.quoted false 2 0 0 "it's") (.cons (.query false 0 0 0 0 hfilter)
      (.cons (.elements false 0 1 1 (.indexes (by decide) hindexes)) (.nil false)))
  refine spellsPath_of_spellsSteps hsteps fun c hc => ?_
  obtain rfl : ']' = c := Option.some.inj hc
  decide

theorem read_sample :
    sample.Shaped Json.IsExactLiteral ∧
      read "$..['it\\'s'][?(@.a == -7 && $ || @ =~ /x/)][ 1, 02 ]" = .ok sample :=
  ⟨shaped_sample, (read_spelling shaped_sample).2 _ spells_sample⟩

end Path

end PathQuery
