/-
# Every shaped path is spelled by a text

A path of the form of one that is read, with literals that are spelled exactly, has a spelling.  The
one built here puts names between quotes, so that any name can stand in it, writes integers in
decimal and all bounds of a slice, and has no spaces.
-/
import Mathlib.Data.List.Induction
import PathQuery.Proofs.Number.Numeral
import PathQuery.Proofs.Path.Spelling

namespace PathQuery.Spelling

/-! ## Tokens -/

lemma spellsInteger_integerText {i : Int} (hi : IsSignedWord i) :
    SpellsInteger i (integerText i) := by
  have hne := decimalText_ne_nil i.natAbs
  have hvalue := digitsValue_decimalText i.natAbs
  unfold integerText
  split
  · have hneg : -(digitsValue (decimalText i.natAbs) : Int) = i := by omega
    have hspells := SpellsInteger.negative hne isDigit_of_mem_decimalText (hneg.symm ▸ hi)
    rwa [hneg] at hspells
  · have hpos : (digitsValue (decimalText i.natAbs) : Int) = i := by omega
    have hspells := SpellsInteger.unsigned hne isDigit_of_mem_decimalText (hpos.symm ▸ hi)
    rwa [hpos] at hspells

/-- A list is spelled if its entries are and if one more entry can be spelled in front. -/
lemma exists_spells_of_forall {α : Type} {P : α → List Char → Prop} {Q : List α → List Char → Prop}
    (hsingle : ∀ a text, P a text → Q [a] text)
    (hcons : ∀ a text as text', P a text → Q as text' → ∃ joined, Q (a :: as) joined) :
    ∀ {as : List α}, as ≠ [] → (∀ a ∈ as, ∃ text, P a text) → ∃ text, Q as text
  | [], hne, _ => absurd rfl hne
  | [a], _, h => by
    obtain ⟨text, htext⟩ := h a (by simp)
    exact ⟨text, hsingle a text htext⟩
  | a :: a' :: as, _, h => by
    obtain ⟨text, htext⟩ := h a (by simp)
    obtain ⟨text', htext'⟩ := exists_spells_of_forall hsingle hcons (List.cons_ne_nil a' as)
      fun other hother => h other (List.mem_cons_of_mem a hother)
    exact hcons a text (a' :: as) text' htext htext'

lemma exists_spellsNames {names : List String} (hne : names ≠ []) :
    ∃ text, SpellsNames names text := by
  refine exists_spells_of_forall (P := fun name text => text = quoted name) ?_ ?_ hne
    fun name _ => ⟨quoted name, rfl⟩
  · rintro name _ rfl
    exact .single name
  · intro name _ names text _ hnames
    exact ⟨_, .cons name 0 0 hnames⟩

lemma exists_spellsIntegers {is : List Int} (hne : is ≠ []) (hword : ∀ i ∈ is, IsSignedWord i) :
    ∃ text, SpellsIntegers is text :=
  exists_spells_of_forall (fun _ _ => .single) (fun _ _ _ _ hi his => ⟨_, .cons 0 0 hi his⟩) hne
    fun i hi => ⟨_, spellsInteger_integerText (hword i hi)⟩

lemma exists_spellsBound {bound : Option Int} (hword : ∀ i ∈ bound, IsSignedWord i) :
    ∃ text, SpellsBound bound text := by
  cases bound with
  | none => exact ⟨_, .absent⟩
  | some i => exact ⟨_, .present (spellsInteger_integerText (hword i rfl))⟩

lemma exists_spellsLiteral {value : Json} (h : value.IsExactLiteral) :
    ∃ text, SpellsLiteral value text := by
  cases value with
  | null => exact ⟨_, .null⟩
  | bool b =>
    cases b with
    | true => exact ⟨_, .true⟩
    | false => exact ⟨_, .false⟩
  | string s => exact ⟨_, .string s⟩
  | number n =>
    cases n with
    | integer n => exact ⟨_, .integer (spellsInteger_integerText h)⟩
    | float => exact False.elim h
  | array => exact False.elim h
  | object => exact False.elim h

lemma exists_mem_symbols {comparator : Comparator} (h : comparator ≠ .exists) :
    ∃ symbol, symbol ∈ symbols comparator := by
  cases comparator <;> first | exact absurd rfl h | exact ⟨_, List.mem_cons_self⟩

/-! ## Lists -/

lemma ne_nil_of_two_le_length {α : Type} {l : List α} (h : 2 ≤ l.length) : l ≠ [] := by
  rintro rfl
  simp at h

/-- The last character of a part is never white space. -/
lemma exists_spellsSteps {inQuery : Bool} : ∀ {steps : List Step},
    (∀ step ∈ steps, ∃ text last,
      SpellsPart inQuery [step] (text ++ [last]) ∧ isBlank last = false) →
    ∃ text, SpellsSteps inQuery steps text ∧ ∀ c ∈ text.getLast?, isBlank c = false
  | [], _ => ⟨[], .nil inQuery, by simp⟩
  | step :: steps, h => by
    obtain ⟨text, last, hpart, hlast⟩ := h step (by simp)
    obtain ⟨text', hsteps, hlast'⟩ := exists_spellsSteps fun step' hstep' =>
      h step' (List.mem_cons_of_mem step hstep')
    refine ⟨_, .cons hpart hsteps, ?_⟩
    intro c hc
    cases text' using List.reverseRecOn with
    | nil =>
      obtain rfl : last = c := by simpa using hc
      exact hlast
    | append_singleton text' c' =>
      rw [← List.append_assoc, List.getLast?_concat] at hc
      obtain rfl : c' = c := Option.some.inj hc
      exact hlast' c' (by simp)

lemma exists_spellsComparisons {parts : List Expression} (hne : parts ≠ [])
    (h : ∀ part ∈ parts, ∃ text, SpellsComparison part text) :
    ∃ text, SpellsComparisons parts text :=
  exists_spells_of_forall (fun _ _ => .single)
    (fun _ _ _ _ hpart hparts => ⟨_, .cons hpart hparts⟩) hne h

lemma exists_spellsConjunctions {parts : List Expression} (hne : parts ≠ [])
    (h : ∀ part ∈ parts, ∃ text, SpellsConjunction part text) :
    ∃ text, SpellsConjunctions parts text :=
  exists_spells_of_forall (fun _ _ => .single)
    (fun _ _ _ _ hpart hparts => ⟨_, .cons hpart hparts⟩) hne h

/-! ## Steps, operands and expressions -/

/-- Indexers with no spaces end in a bracket. -/
lemma exists_spellsPart_of_bracketed {inQuery : Bool} {step : Step} {n : Nat} {text : List Char}
    (h : SpellsPart inQuery [step] (dots n ++ bracketed 0 text 0)) :
    ∃ text last, SpellsPart inQuery [step] (text ++ [last]) ∧ isBlank last = false :=
  ⟨dots n ++ ('[' :: spaces 0 ++ text ++ spaces 0), ']', by simpa [bracketed] using h, by decide⟩

lemma exists_spellsPart_of_elements {inQuery : Bool} {step : Step} {text : List Char}
    (h : SpellsElements step text) :
    ∃ text last, SpellsPart inQuery [step] (text ++ [last]) ∧ isBlank last = false :=
  exists_spellsPart_of_bracketed (.elements inQuery 0 0 0 h)

mutual

lemma exists_spellsPart (inQuery : Bool) {step : Step} : step.Shaped Json.IsExactLiteral →
    ∃ text last, SpellsPart inQuery [step] (text ++ [last]) ∧ isBlank last = false
  | .field none => ⟨dots 1, '*', .star inQuery (n := 1) (by decide), by decide⟩
  | .field (some name) => exists_spellsPart_of_bracketed (.quoted inQuery 0 0 0 name)
  | .fields hlength => by
    obtain ⟨text, htext⟩ := exists_spellsNames (ne_nil_of_two_le_length hlength)
    exact exists_spellsPart_of_bracketed (.names inQuery 0 0 0 hlength htext)
  | .index (i := none) hword => exists_spellsPart_of_elements .all
  | .index (i := some i) hword =>
    exists_spellsPart_of_elements (.index (spellsInteger_integerText (hword i rfl)))
  | .indexes hlength hword => by
    obtain ⟨text, htext⟩ := exists_spellsIntegers (ne_nil_of_two_le_length hlength) hword
    exact exists_spellsPart_of_elements (.indexes hlength htext)
  | .slice hstart hstop hstride => by
    obtain ⟨text, htext⟩ := exists_spellsBound hstart
    obtain ⟨text', htext'⟩ := exists_spellsBound hstop
    obtain ⟨text'', htext''⟩ := exists_spellsBound hstride
    exact exists_spellsPart_of_elements (.slices 0 0 0 0 htext htext' htext'')
  | .scan none => ⟨dots 2, '*', .star inQuery (n := 2) (by decide), by decide⟩
  | .scan (some name) => exists_spellsPart_of_bracketed (.quoted inQuery 2 0 0 name)
  | .scanFields hlength => by
    obtain ⟨text, htext⟩ := exists_spellsNames (ne_nil_of_two_le_length hlength)
    exact exists_spellsPart_of_bracketed (.names inQuery 2 0 0 hlength htext)
  | .query hfilter => by
    obtain ⟨text, htext⟩ := exists_spellsExpression hfilter
    exact exists_spellsPart_of_bracketed (.query inQuery 0 0 0 0 htext)
  | .queryScan hfilter => by
    obtain ⟨text, htext⟩ := exists_spellsExpression hfilter
    exact exists_spellsPart_of_bracketed (.query inQuery 2 0 0 0 htext)

lemma exists_spellsOperand {side : Operand} : side.Shaped Json.IsExactLiteral →
    ∃ text, SpellsOperand side text
  | .literal hvalue => by
    obtain ⟨text, htext⟩ := exists_spellsLiteral hvalue
    exact ⟨text, .literal htext⟩
  | .relative hsteps => by
    obtain ⟨text, htext, -⟩ := exists_spellsSteps fun step hstep =>
      exists_spellsPart true (hsteps step hstep)
    exact ⟨_, .relative htext⟩
  | .absolute hsteps => by
    obtain ⟨text, htext, -⟩ := exists_spellsSteps fun step hstep =>
      exists_spellsPart true (hsteps step hstep)
    exact ⟨_, .absolute htext⟩

lemma exists_spellsComparison {part : Expression} : part.IsComparison Json.IsExactLiteral →
    ∃ text, SpellsComparison part text
  | .exists hleft => by
    obtain ⟨text, htext⟩ := exists_spellsOperand hleft
    exact ⟨_, .exists 0 0 htext⟩
  | .pair hcomparator hleft hright => by
    obtain ⟨symbol, hsymbol⟩ := exists_mem_symbols hcomparator
    obtain ⟨text, htext⟩ := exists_spellsOperand hleft
    obtain ⟨text', htext'⟩ := exists_spellsOperand hright
    exact ⟨_, .pair 0 0 0 0 htext hsymbol htext'⟩

lemma exists_spellsConjunction {part : Expression} : part.IsConjunction Json.IsExactLiteral →
    ∃ text, SpellsConjunction part text
  | .comparison hpart => by
    obtain ⟨text, htext⟩ := exists_spellsComparison hpart
    exact ⟨text, .comparison htext⟩
  | .and hlength hparts => by
    obtain ⟨text, htext⟩ := exists_spellsComparisons (ne_nil_of_two_le_length hlength)
      fun part hpart => exists_spellsComparison (hparts part hpart)
    exact ⟨text, .and hlength htext⟩

lemma exists_spellsExpression {filter : Expression} : filter.Shaped Json.IsExactLiteral →
    ∃ text, SpellsExpression filter text
  | .conjunction hpart => by
    obtain ⟨text, htext⟩ := exists_spellsConjunction hpart
    exact ⟨text, .conjunction htext⟩
  | .or hlength hparts => by
    obtain ⟨text, htext⟩ := exists_spellsConjunctions (ne_nil_of_two_le_length hlength)
      fun part hpart => exists_spellsConjunction (hparts part hpart)
    exact ⟨text, .or hlength htext⟩

end

/-! ## Paths -/

/-- White space around a text can be left out. -/
lemma spellsPath_of_spellsSteps {path : Path} {text : List Char}
    (hpath : SpellsSteps false path text) (hlast : ∀ c ∈ text.getLast?, isBlank c = false) :
    SpellsPath path ('$' :: text) := by
  have hspells : SpellsPath path ([] ++ '$' :: text ++ []) := .mk hpath (by simp) (by simp) hlast
  rwa [List.append_nil] at hspells

/-- Every path of the form of one that is read is spelled by some text. -/
theorem exists_spellsPath {path : Path} (h : path.Shaped Json.IsExactLiteral) :
    ∃ text : String, SpellsPath path text.toList := by
  obtain ⟨text, htext, hlast⟩ := exists_spellsSteps fun step hstep =>
    exists_spellsPart false (h step hstep)
  refine ⟨String.ofList ('$' :: text), ?_⟩
  rw [String.toList_ofList]
  exact spellsPath_of_spellsSteps htext hlast

end PathQuery.Spelling
