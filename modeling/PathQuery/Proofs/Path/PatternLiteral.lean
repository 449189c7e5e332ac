/-
# Where a pattern ends

Two readers find the end of the body of a pattern, each in its own way.  The one that reads the text
of a path goes forward to the first slash without a backslash, and keeps body and flags as one
string.  The one that makes an expression ready looks in that string for the last slash.

They find the same slash.  In front of it every slash has a backslash, so the first reader does not
stop earlier (`Literal.takeBody_eq_ok_iff`).  Behind it there are letters only, so the second one
does not find another (`Pattern.ofText?_text`).
-/
import PathQuery.Pattern.Basic
import PathQuery.Proofs.Path.ElementIndexer

namespace PathQuery

open Spelling

/-! ## Reading forward -/

namespace Literal

lemma isPatternBody_of_takeBody {text body rest : List Char}
    (h : takeBody text = .ok (body, rest)) : IsPatternBody body ∧ text = body ++ '/' :: rest := by
  fun_induction takeBody text generalizing body with
  | case1 => simp at h
  | case2 tail =>
    obtain ⟨rfl, rfl⟩ := Prod.mk.inj (Except.ok.inj h)
    exact ⟨.nil, rfl⟩
  | case3 c tail ih =>
    obtain ⟨⟨inner, after⟩, hinner, hsame⟩ := map_eq_ok.1 h
    obtain ⟨rfl, rfl⟩ := Prod.mk.inj hsame
    obtain ⟨hbody, rfl⟩ := ih hinner
    exact ⟨.escaped c hbody, rfl⟩
  | case4 c tail hslash hescape ih =>
    obtain ⟨⟨inner, after⟩, hinner, hsame⟩ := map_eq_ok.1 h
    obtain ⟨rfl, rfl⟩ := Prod.mk.inj hsame
    obtain ⟨hbody, rfl⟩ := ih hinner
    refine ⟨.plain hslash ?_ hbody, rfl⟩
    -- a backslash in this place would have taken the next character with it
    rintro rfl
    cases inner with
    | nil => exact hescape '/' after rfl rfl
    | cons d inner => exact hescape d (inner ++ '/' :: after) rfl rfl

/-- The body of a pattern is what is read up to its closing slash. -/
lemma takeBody_eq_ok_iff {text body rest : List Char} :
    takeBody text = .ok (body, rest) ↔ IsPatternBody body ∧ text = body ++ '/' :: rest := by
  refine ⟨isPatternBody_of_takeBody, ?_⟩
  rintro ⟨hbody, rfl⟩
  exact takeBody_append hbody rest

end Literal

/-! ## Searching backward -/

namespace Pattern

lemma splitLast?_eq_none {text : List Char} (h : '/' ∉ text) : splitLast? text = none := by
  induction text with
  | nil => rfl
  | cons c rest ih =>
    rw [List.mem_cons, not_or] at h
    simp only [splitLast?, ih h.2, if_neg (Ne.symm h.1)]

lemma splitLast?_append {after : List Char} (h : '/' ∉ after) (before : List Char) :
    splitLast? (before ++ '/' :: after) = some (before, after) := by
  induction before with
  | nil => simp [splitLast?, splitLast?_eq_none h]
  | cons c rest ih => simp only [List.cons_append, splitLast?, ih]

/-- The pattern can be written in a path. -/
structure IsLiteral (pattern : Pattern) : Prop where
  body : IsPatternBody pattern.body
  flags : ∀ c ∈ pattern.flags, isAlphabetic c = true

variable {pattern : Pattern}

lemma ofText?_text (h : pattern.IsLiteral) : ofText? pattern.text = some pattern := by
  have hflags : '/' ∉ pattern.flags := fun hslash => absurd (h.flags '/' hslash) (by decide)
  show (splitLast? (pattern.body ++ '/' :: pattern.flags)).map _ = _
  rw [splitLast?_append hflags]
  rfl

/-! ## The text of the regular expression -/

/-- The marks for those of `i`, `m` and `s` that are among the flags. -/
def marks (flags : List Char) : List Char :=
  (['i', 'm', 's'].filter flags.contains).flatMap fun flag => ['(', '?', flag, ')']

lemma flagText_eq_marks (flags : List Char) : flagText flags = marks flags := by
  by_cases hi : 'i' ∈ flags <;> by_cases hm : 'm' ∈ flags <;> by_cases hs : 's' ∈ flags <;>
  simp [flagText, marks, hi, hm, hs]

lemma marks_congr {flags flags' : List Char} (h : ∀ c ∈ ['i', 'm', 's'], c ∈ flags ↔ c ∈ flags') :
    marks flags = marks flags' := by
  have hfilter : ['i', 'm', 's'].filter flags.contains =
      ['i', 'm', 's'].filter flags'.contains := by
    refine List.filter_congr fun c hc => ?_
    rw [Bool.eq_iff_iff, List.contains_iff_mem, List.contains_iff_mem]
    exact h c hc
  rw [marks, marks, hfilter]

lemma compile_text (h : pattern.IsLiteral) :
    compile (String.ofList pattern.text)
      = (Regex.read (marks pattern.flags ++ pattern.body)).map fun expression =>
          some (.ofRegex expression) := by
  rw [compile, String.toList_ofList, ofText?_text h]
  show (Regex.read pattern.expressionText).map _ = _
  rw [expressionText, flagText_eq_marks]

end Pattern

/-! ## Patterns in a path -/

namespace Literal

/-- A literal that starts with a slash is a pattern with all the letters behind its body. -/
lemma take_slash_eq_ok_iff {text rest : List Char} {value : Json} :
    take ('/' :: text) = .ok (value, rest) ↔ ∃ pattern : Pattern, pattern.IsLiteral ∧
      '/' :: text = pattern.text ++ rest ∧ (∀ c ∈ rest.head?, isAlphabetic c = false) ∧
      value = .string (String.ofList pattern.text) := by
  show takePattern text = _ ↔ _
  rw [takePattern, map_eq_ok]
  constructor
  · rintro ⟨⟨body, after⟩, hbody, hsame⟩
    obtain ⟨hisBody, rfl⟩ := takeBody_eq_ok_iff.1 hbody
    obtain ⟨rfl, rfl⟩ := Prod.mk.inj hsame
    refine ⟨⟨body, after.takeWhile isAlphabetic⟩, ⟨hisBody, ?_⟩, ?_, ?_, rfl⟩
    · intro c hc
      exact List.mem_takeWhile_imp hc
    · simp [Pattern.text, List.takeWhile_append_dropWhile]
    · intro c hc
      have hhead := List.head?_dropWhile_not isAlphabetic after
      rw [Option.mem_def.1 hc] at hhead
      exact hhead
  · rintro ⟨⟨body, flags⟩, ⟨hbody, hflags⟩, htext, hrest, rfl⟩
    obtain rfl : text = body ++ '/' :: (flags ++ rest) := by
      simpa [Pattern.text] using htext
    refine ⟨(body, flags ++ rest), takeBody_eq_ok_iff.2 ⟨hbody, rfl⟩, ?_⟩
    simp only [takeWhile_append_of_head hflags hrest, dropWhile_append_of_head hflags hrest]
    rfl

end Literal

namespace Pattern

variable {pattern : Pattern}

lemma spellsComparison_text (h : pattern.IsLiteral) :
    SpellsComparison (.comparison .matchesPattern (.path [])
        (some (.literal (.string (String.ofList pattern.text)))))
      (['@', ' ', '=', '~', ' '] ++ pattern.text) := by
  have hnode : SpellsOperand (.path []) ['@'] := .relative (.nil true)
  have hliteral : SpellsOperand (.literal (.string (String.ofList pattern.text))) pattern.text :=
    .literal (.pattern h.body h.flags)
  have hsymbol : ['=', '~'] ∈ symbols .matchesPattern := List.mem_singleton.2 rfl
  simpa [spaces] using SpellsComparison.pair 0 1 1 0 hnode hsymbol hliteral

/-- A query that compares the node under test with a pattern is read as such. -/
lemma read_query_text (h : pattern.IsLiteral) :
    Path.read ("[?(@ =~ " ++ String.ofList pattern.text ++ ")]")
      = .ok [.query (.comparison .matchesPattern (.path [])
          (some (.literal (.string (String.ofList pattern.text)))))] := by
  have hreads := (SpellsExpression.conjunction (.comparison (spellsComparison_text h))).reads
  let comparison := ['@', ' ', '=', '~', ' '] ++ pattern.text
  have htext : "[?(@ =~ " ++ String.ofList pattern.text ++ ")]"
      = String.ofList ('[' :: ('?' :: '(' :: comparison ++ [')']) ++ [']']) := by
    rw [← String.toList_inj]
    simp [comparison]
  have htake : Indexer.take ('?' :: '(' :: comparison ++ [')'] ++ [']'])
      = .ok (.query, comparison ++ [')', ']']) := by
    have hquery := Indexer.take_query 0 0 (comparison ++ [')', ']'])
    simpa [spaces] using hquery
  rw [htext, Path.read_bracketed, htake]
  show Path.Progress.run (.operand (.start (.start [])) []) (comparison ++ [')', ']']) = _
  rw [hreads, Path.Progress.run_cons]
  exact Path.Progress.run_nil _

/-- **Both readers of a pattern find the same end.**  In a path a pattern reaches over its body, in
which every slash has a backslash, and all the letters behind it; whatever the body holds, a query
with it is read as a comparison with its text.  Of that text the other reader finds the same body
and flags, and what it reads as a regular expression is the body behind the marks for those of `i`,
`m` and `s` that are among the flags. -/
theorem boundaries_agree :
    (∀ text rest value, Literal.take ('/' :: text) = .ok (value, rest) ↔
      ∃ pattern : Pattern, pattern.IsLiteral ∧ '/' :: text = pattern.text ++ rest ∧
        (∀ c ∈ rest.head?, isAlphabetic c = false) ∧
        value = .string (String.ofList pattern.text)) ∧
      ∀ pattern : Pattern, pattern.IsLiteral →
        ofText? pattern.text = some pattern ∧
          Path.read ("[?(@ =~ " ++ String.ofList pattern.text ++ ")]")
            = .ok [.query (.comparison .matchesPattern (.path [])
                (some (.literal (.string (String.ofList pattern.text)))))] ∧
          compile (String.ofList pattern.text)
            = (Regex.read (marks pattern.flags ++ pattern.body)).map (fun expression =>
                some (.ofRegex expression)) ∧
          ∀ flags, (∀ c ∈ ['i', 'm', 's'], c ∈ pattern.flags ↔ c ∈ flags) →
            marks pattern.flags = marks flags :=
  ⟨fun _ _ _ => Literal.take_slash_eq_ok_iff, fun _ h =>
    ⟨ofText?_text h, read_query_text h, compile_text h, fun _ => marks_congr⟩⟩

/-- A body with a slash, brackets and a quote, and with two backslashes at its end, and flags among
which there is a letter that means nothing. -/
theorem boundaries_agree_sample :
    let pattern : Pattern := ⟨['\\', '/', ')', ']', ' ', '\'', '\\', '\\'], ['s', 'x', 'i']⟩
    pattern.IsLiteral ∧ ofText? "/\\/)] '\\\\/sxi".toList = some pattern ∧
      Path.read "[?(@ =~ /\\/)] '\\\\/sxi)]"
        = .ok [.query (.comparison .matchesPattern (.path [])
            (some (.literal (.string "/\\/)] '\\\\/sxi"))))] := by
  intro pattern
  have hbody : IsPatternBody pattern.body :=
    .escaped _ (.plain (by decide) (by decide) (.plain (by decide) (by decide)
      (.plain (by decide) (by decide) (.plain (by decide) (by decide) (.escaped _ .nil)))))
  have hflags : ∀ c ∈ pattern.flags, isAlphabetic c = true :=
    List.forall_iff_forall_mem.1 (by decide)
  have hliteral : pattern.IsLiteral := ⟨hbody, hflags⟩
  obtain ⟨hparts, hread, -⟩ := boundaries_agree.2 pattern hliteral
  exact ⟨hliteral, hparts, hread⟩

end Pattern

end PathQuery
