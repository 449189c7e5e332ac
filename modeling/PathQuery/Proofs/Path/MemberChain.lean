/-
# Chains of names

A text without brackets, closing parentheses and spaces is a chain of names with dots between them.
`SplitsAtDots` cuts such a text into its names, the longest pieces without a dot, and counts the
dots before each of them.  Every text that does not end in a dot can be cut in this way.

Reading follows the cut.  The chain keeps no memory of a name that it has taken, so each name is
read like the first one (`Progress.run_members`): the dots before it alone decide whether it is
scanned for.  Dots at the end of the text lead to the only failure there is.
-/
import Mathlib.Data.List.Infix
import PathQuery.Proofs.Path.Moves

namespace PathQuery.Path

open Spelling

/-! ## Names and the dots before them -/

/-- A name and how many dots stand before it. -/
structure Member where
  dots : Nat
  name : List Char

namespace Member

/-- The dots and the name. -/
def text (member : Member) : List Char := Spelling.dots member.dots ++ member.name

/-- The step to a name: a scan behind two dots or more, and to all names for a star. -/
def step (member : Member) : Step :=
  let name := if member.name = ['*'] then none else some (String.ofList member.name)
  if 2 ≤ member.dots then .scan name else .field name

end Member

/-- The names are the longest pieces of the text without a dot, one behind the other, and nothing is
left behind the last one.  Only the first name may stand without a dot before it. -/
structure SplitsAtDots (text : List Char) (members : List Member) : Prop where
  text_eq : text = members.flatMap Member.text
  name : ∀ member ∈ members, member.name ≠ [] ∧ '.' ∉ member.name
  dots : ∀ member ∈ members.tail, 1 ≤ member.dots

/-- The text without a dollar sign at its front that is all of the text or comes before a dot. -/
def withoutDollar (text : List Char) : List Char :=
  if text.head? = some '$' ∧ text.tail.head?.all (· == '.') then text.tail else text

namespace SplitsAtDots

lemma nil : SplitsAtDots [] [] :=
  ⟨rfl, List.forall_mem_nil _, List.forall_mem_nil _⟩

variable {text : List Char} {member : Member} {members : List Member}

lemma singleton {c : Char} (hc : c ≠ '.') : SplitsAtDots [c] [⟨0, [c]⟩] :=
  ⟨rfl, by simpa using hc.symm, List.forall_mem_nil _⟩

/-- One more dot at the front stands before the first name. -/
lemma cons_dot (h : SplitsAtDots text (member :: members)) :
    SplitsAtDots ('.' :: text) (⟨member.dots + 1, member.name⟩ :: members) where
  text_eq := by
    rw [h.text_eq]
    rfl
  name := List.forall_mem_cons.2 (List.forall_mem_cons.1 h.name)
  dots := h.dots

/-- Another character at the front belongs to the first name if no dot stands before that. -/
lemma cons_char {c : Char} (hc : c ≠ '.') {name : List Char}
    (h : SplitsAtDots text (⟨0, name⟩ :: members)) :
    SplitsAtDots (c :: text) (⟨0, c :: name⟩ :: members) where
  text_eq := by
    rw [h.text_eq]
    rfl
  name := by
    obtain ⟨⟨-, hname⟩, hnames⟩ := List.forall_mem_cons.1 h.name
    exact List.forall_mem_cons.2 ⟨⟨List.cons_ne_nil _ _, by simp [hc.symm, hname]⟩, hnames⟩
  dots := h.dots

/-- If a dot stands before the first name, another character at the front is a name by itself. -/
lemma cons_name {c : Char} (hc : c ≠ '.') (h : SplitsAtDots text (member :: members))
    (hdots : 1 ≤ member.dots) : SplitsAtDots (c :: text) (⟨0, [c]⟩ :: member :: members) where
  text_eq := by
    rw [h.text_eq]
    rfl
  name := List.forall_mem_cons.2 ⟨⟨List.cons_ne_nil _ _, by simpa using hc.symm⟩, h.name⟩
  dots := List.forall_mem_cons.2 ⟨hdots, h.dots⟩

lemma eq_nil (h : SplitsAtDots text []) : text = [] := h.text_eq

end SplitsAtDots

/-- A text that does not end in a dot can be cut. -/
lemma exists_splitsAtDots {text : List Char} (h : text.getLast? ≠ some '.') :
    ∃ members, SplitsAtDots text members := by
  induction text with
  | nil => exact ⟨[], .nil⟩
  | cons c text ih =>
    by_cases hnil : text = []
    · subst hnil
      exact ⟨_, .singleton fun hc => h (congrArg some hc)⟩
    · rw [List.getLast?_cons_of_ne_nil hnil] at h
      obtain ⟨_ | ⟨⟨n, name⟩, members⟩, hsplit⟩ := ih h
      · exact absurd hsplit.eq_nil hnil
      · by_cases hc : c = '.'
        · subst hc
          exact ⟨_, hsplit.cons_dot⟩
        · cases n with
          | zero => exact ⟨_, hsplit.cons_char hc⟩
          | succ n => exact ⟨_, hsplit.cons_name hc (Nat.le_add_left 1 n)⟩

/-- Any text is one that does not end in a dot with dots behind it. -/
lemma exists_append_dots (text : List Char) :
    ∃ front n, front.getLast? ≠ some '.' ∧ text = front ++ dots n := by
  induction text using List.reverseRecOn with
  | nil => exact ⟨[], 0, by simp, rfl⟩
  | append_singleton text c ih =>
    by_cases hc : c = '.'
    · obtain ⟨front, n, hfront, rfl⟩ := ih
      refine ⟨front, n + 1, hfront, ?_⟩
      rw [hc, dots, dots, List.replicate_succ', List.append_assoc]
    · exact ⟨text ++ [c], 0, by simpa using hc, by simp [dots]⟩

lemma getLast?_append_dots_eq {front : List Char} (hfront : front.getLast? ≠ some '.') (n : Nat) :
    (front ++ dots n).getLast? = some '.' ↔ n ≠ 0 := by
  cases n with
  | zero => simpa [dots] using hfront
  | succ n => simp [dots, List.replicate_succ']

/-! ## Reading a chain of names -/

namespace Progress

/-- Dots at the end of a text are not behind any name. -/
lemma run_dots_nil (chain : Chain) : ∀ n, 1 ≤ n →
    (steps chain []).run (dots n) = .error .unexpectedEnd
  | 1, _ => by
    show (steps chain []).run ['.'] = _
    rw [run_cons, advance_steps rfl]
    exact run_nil _
  | 2, _ => by
    show (steps chain []).run ['.', '.'] = _
    rw [run_cons, advance_steps rfl]
    exact run_nil _
  | n + 3, _ => by
    show (steps chain []).run ('.' :: '.' :: dots (n + 1)) = _
    rw [run_cons, advance_steps rfl]
    exact run_dots_nil _ (n + 1) (Nat.le_add_left 1 n)

/-- A name is read to the next dot, and leaves the chain as it was but for the step. -/
lemma run_member {member : Member} (hne : member.name ≠ [])
    (hname : ∀ c ∈ member.name, isNameChar false c) (path : Path) {rest : List Char}
    (hrest : ∀ c ∈ rest.head?, c = '.') :
    (steps (.start path) []).run (member.text ++ rest)
      = (steps (.start (path ++ [member.step])) []).run rest := by
  have hready : (Chain.start path).IsReady := ⟨rfl, by simp [Chain.start]⟩
  have hplace : ((Chain.start path).afterDots member.dots).place ≠ .indexer := by
    cases member.dots <;> simp [Chain.start, Chain.afterDots]
  have hend : ∀ c ∈ rest.head?, isNameChar false c = false := by
    intro c hc
    rw [hrest c hc]
    rfl
  have hword : (steps (.start path) []).run (dots member.dots ++ (member.name ++ rest))
      = (steps (((Chain.start path).afterDots member.dots).addName member.name) []).run rest :=
    run_dots_word hplace hne hname hend
  have hchain : ((Chain.start path).afterDots member.dots).addName member.name
      = .start (path ++ [member.step]) := by
    simp only [Chain.addName, hready.scanning_afterDots, Chain.steps_afterDots, decide_eq_true_eq]
    rfl
  rw [Member.text, List.append_assoc, hword, hchain]

/-- All names are read one after the other; what is behind them is read with their steps at the
front. -/
lemma run_members {members : List Member}
    (hne : ∀ member ∈ members, member.name ≠ [])
    (hname : ∀ member ∈ members, ∀ c ∈ member.name, isNameChar false c)
    (hdots : ∀ member ∈ members.tail, 1 ≤ member.dots) {rest : List Char}
    (hrest : ∀ c ∈ rest.head?, c = '.') (path : Path) :
    (steps (.start path) []).run (members.flatMap Member.text ++ rest)
      = (steps (.start (path ++ members.map Member.step)) []).run rest := by
  induction members generalizing path with
  | nil => simp
  | cons member members ih =>
    rw [List.forall_mem_cons] at hne hname
    have hhead : ∀ c ∈ (members.flatMap Member.text ++ rest).head?, c = '.' := by
      cases members with
      | nil => exact hrest
      | cons next members =>
        obtain ⟨n, hn⟩ := Nat.exists_eq_add_of_le' (hdots next List.mem_cons_self)
        simp [Member.text, hn, dots, List.replicate_succ]
    rw [List.flatMap_cons, List.append_assoc, run_member hne.1 hname.1 path hhead,
      ih hne.2 hname.2 (fun next hnext => hdots next (List.mem_of_mem_tail hnext)), List.map_cons,
      List.append_assoc, List.singleton_append]

end Progress

/-! ## Whole texts -/

/-- Of the characters that end a name the text has only dots. -/
def IsChain (text : List Char) : Prop := ∀ c ∈ text, c ∉ ['[', ']', ')', ' ']

lemma withoutDollar_subset (text : List Char) : withoutDollar text ⊆ text := by
  unfold withoutDollar
  split
  · exact List.tail_subset text
  · exact List.Subset.refl _

/-- Without brackets, the dollar sign for the root is the only one that comes before a dot. -/
lemma dropAnchor_eq_withoutDollar {text : List Char} (h : '[' ∉ text) :
    dropAnchor text = withoutDollar text := by
  unfold dropAnchor withoutDollar
  split
  · rfl
  · simp
  · simp at h
  · next hall hdot _ =>
    rw [if_neg]
    rintro ⟨hhead, htail⟩
    obtain ⟨rest, rfl⟩ := List.head?_eq_some_iff.1 hhead
    cases rest with
    | nil => exact hall rfl
    | cons c rest =>
      obtain rfl : c = '.' := by simpa using htail
      exact hdot rest rfl

lemma getLast?_withoutDollar (text : List Char) :
    (withoutDollar text).getLast? = some '.' ↔ text.getLast? = some '.' := by
  unfold withoutDollar
  split
  · next h =>
    obtain ⟨rest, rfl⟩ := List.head?_eq_some_iff.1 h.1
    cases rest with
    | nil => simp
    | cons c rest => rw [List.tail_cons, List.getLast?_cons_cons]
  · rfl

/-- Reading a chain of names that has been cut, with dots behind it. -/
lemma run_of_splitsAtDots {text : List Char} {members : List Member}
    (hsplit : SplitsAtDots text members) (hchain : IsChain text) (n : Nat) :
    Progress.run (.steps (.start []) []) (text ++ dots n)
      = if n = 0 then .ok (members.map Member.step) else .error .unexpectedEnd := by
  have hname : ∀ member ∈ members, ∀ c ∈ member.name, isNameChar false c := by
    intro member hmember c hc
    have hmem : c ∈ text := by
      rw [hsplit.text_eq]
      exact List.mem_flatMap_of_mem hmember (List.mem_append_right _ hc)
    have hdot : c ≠ '.' := by
      rintro rfl
      exact (hsplit.name member hmember).2 hc
    exact Progress.isNameChar_of_notMem (List.not_mem_cons_of_ne_of_not_mem hdot (hchain c hmem))
  have hrest : ∀ c ∈ (dots n).head?, c = '.' := by
    cases n <;> simp [dots, List.replicate_succ]
  rw [hsplit.text_eq, Progress.run_members (fun member hmember => (hsplit.name member hmember).1)
    hname hsplit.dots hrest, List.nil_append]
  split
  · next hn =>
    subst hn
    rw [dots, List.replicate_zero, Progress.run_nil]
    rfl
  · next hn => exact Progress.run_dots_nil _ n (Nat.one_le_iff_ne_zero.2 hn)

/-- **Chains of names are accepted exactly.**  A text that has, white space at its ends aside, no
bracket, closing parenthesis or space is refused if and only if it ends in a dot, and always for the
same reason.  Every other one can be cut into names, and reading gives one step for each of them, in
their order: a scan behind two dots or more, else a step to a member. -/
theorem read_chain_iff (text : String) (hchain : IsChain (trimBlanks text.toList)) :
    ((∃ cause : SyntaxError, read text = .error cause)
        ↔ (trimBlanks text.toList).getLast? = some '.') ∧
      (∀ cause : SyntaxError, read text = .error cause →
        cause.message = "Unexpected end while parsing path.") ∧
      ((trimBlanks text.toList).getLast? ≠ some '.' →
        ∃ members, SplitsAtDots (withoutDollar (trimBlanks text.toList)) members) ∧
      ∀ members, SplitsAtDots (withoutDollar (trimBlanks text.toList)) members →
        read text = .ok (members.map Member.step) := by
  have hbracket : '[' ∉ trimBlanks text.toList := fun h => hchain '[' h (by decide)
  have hread : read text
      = Progress.run (.steps (.start []) []) (withoutDollar (trimBlanks text.toList)) := by
    rw [read, dropAnchor_eq_withoutDollar hbracket]
  have hbody : IsChain (withoutDollar (trimBlanks text.toList)) :=
    fun c hc => hchain c (withoutDollar_subset _ hc)
  rw [hread, ne_eq, ← getLast?_withoutDollar]
  generalize withoutDollar (trimBlanks text.toList) = body at hbody ⊢
  refine ⟨?_, ?_, exists_splitsAtDots, fun members hsplit => ?_⟩
  · obtain ⟨front, n, hfront, rfl⟩ := exists_append_dots body
    obtain ⟨members, hsplit⟩ := exists_splitsAtDots hfront
    rw [run_of_splitsAtDots hsplit (fun c hc => hbody c (List.mem_append_left _ hc)),
      getLast?_append_dots_eq hfront]
    split <;> simp_all
  · intro cause
    obtain ⟨front, n, hfront, rfl⟩ := exists_append_dots body
    obtain ⟨members, hsplit⟩ := exists_splitsAtDots hfront
    rw [run_of_splitsAtDots hsplit fun c hc => hbody c (List.mem_append_left _ hc)]
    split
    · exact nofun
    · rintro ⟨⟩
      rfl
  · simpa [dots] using run_of_splitsAtDots hsplit hbody 0

/-- Runs of dots of several lengths, a dollar sign within a name, a star, and a tab as a name. -/
theorem read_chain_sample :
    IsChain (trimBlanks " $.a$..*...\t.'é' ".toList) ∧
      read " $.a$..*...\t.'é' " = .ok [.field (some "a$"), .scan none, .scan (some "\t"),
        .field (some "'é'")] := by
  have htrim : trimBlanks " $.a$..*...\t.'é' ".toList
      = ['$', '.', 'a', '$', '.', '.', '*', '.', '.', '.', '\t', '.', '\'', 'é', '\''] := by cbv
  have hchain : IsChain (trimBlanks " $.a$..*...\t.'é' ".toList) := by
    rw [htrim]
    simp [IsChain]
  have hsplit : SplitsAtDots (withoutDollar (trimBlanks " $.a$..*...\t.'é' ".toList))
      [⟨1, ['a', '$']⟩, ⟨2, ['*']⟩, ⟨3, ['\t']⟩, ⟨1, ['\'', 'é', '\'']⟩] := by
    rw [htrim]
    exact ⟨by decide, by decide, by decide⟩
  exact ⟨hchain, (read_chain_iff _ hchain).2.2.2 _ hsplit⟩

end PathQuery.Path
