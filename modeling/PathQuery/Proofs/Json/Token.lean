/-
# The tokens of what is written

The two texts of a value, compact and indented, are read as the same tokens, `Json.tokens`.  Marks
are tokens by themselves, white space is passed over, and strings are read back from between their
quotes.  A plain word is the only token without an end of its own.  So a text is compared with
tokens in front of any text that does not start with a character of a word (`Spells`); what the
writers put behind a value, a comma, a closing bracket or the end of a line, never does.

Floats are left out: the text of a float is as long as needed to tell it from its neighbours, and
that is a matter of rounding and not of tokens.
-/
import PathQuery.Proofs.Json.Below
import PathQuery.Proofs.Json.Escape
import PathQuery.Proofs.Number.Numeral

namespace PathQuery.Json

/-! ## Tokens -/

mutual

/-- The tokens of a value. -/
def tokens : Json → List Token
  | null => [.scalar null]
  | bool value => [.scalar (bool value)]
  | number n => [.scalar (number n)]
  | string s => [.string s]
  | array [] => [.openArray, .closeArray]
  | array (x :: xs) => .openArray :: tokens x ++ elementTokens xs
  | object [] => [.openObject, .closeObject]
  | object ((key, value) :: rest) =>
    .openObject :: .string key :: .colon :: tokens value ++ memberTokens rest

/-- The tokens of the elements after the first, with the closing bracket. -/
def elementTokens : List Json → List Token
  | [] => [.closeArray]
  | x :: xs => .comma :: tokens x ++ elementTokens xs

/-- The tokens of the members after the first, with the closing brace. -/
def memberTokens : List (String × Json) → List Token
  | [] => [.closeObject]
  | (key, value) :: rest => .comma :: .string key :: .colon :: tokens value ++ memberTokens rest

end

/-- The text is read as the tokens, in front of anything that does not go on with its last word. -/
def Spells (text : List Char) (tokens : List Token) : Prop :=
  ∀ rest, (∀ c ∈ rest.head?, isPlain c = false) →
    Token.read? (text ++ rest) = (Token.read? rest).map (tokens ++ ·)

namespace Spells

variable {text more : List Char} {tokens others : List Token}

lemma read? (h : Spells text tokens) : Token.read? text = some tokens := by
  have hread := h [] (by simp)
  rw [List.append_nil, Token.read?] at hread
  rw [hread, Option.map_some, List.append_nil]

lemma nil : Spells [] [] := by
  intro rest _
  rw [List.nil_append]
  cases Token.read? rest <;> rfl

lemma append (h : Spells text tokens) (hmore : Spells more others)
    (hhead : ∀ c ∈ more.head?, isPlain c = false) : Spells (text ++ more) (tokens ++ others) := by
  intro rest hrest
  have hbehind : ∀ c ∈ (more ++ rest).head?, isPlain c = false := by
    cases more with
    | nil => exact hrest
    | cons c more => exact hhead
  rw [List.append_assoc, h _ hbehind, hmore rest hrest, Option.map_map]
  simp only [Function.comp_def, List.append_assoc]

lemma space {c : Char} (hc : isSpace c) (h : Spells text tokens) : Spells (c :: text) tokens := by
  intro rest hrest
  rw [List.cons_append, Token.read?, if_pos hc]
  exact h rest hrest

lemma newLine (level : Nat) (h : Spells text tokens) :
    Spells (Json.newLine level ++ text) tokens := by
  have hspaces (n : Nat) : Spells (List.replicate n ' ' ++ text) tokens := by
    induction n with
    | zero => exact h
    | succ n ih => exact ih.space rfl
  exact (hspaces _).space rfl

lemma mark {c : Char} {token : Token} (hc : mark? c = some token) (h : Spells text tokens) :
    Spells (c :: text) (token :: tokens) := by
  have hspace : ¬isSpace c ∧ c ≠ '"' := by
    unfold mark? at hc
    split at hc <;> first | decide | cases hc
  intro rest hrest
  rw [List.cons_append, Token.read?, if_neg hspace.1, if_neg hspace.2, h rest hrest]
  simp only [hc, Option.map_map]
  rfl

lemma quote (content : String) (h : Spells text tokens) :
    Spells (Json.quote content ++ text) (.string content :: tokens) := by
  intro rest hrest
  have hquoted := takeQuoted?_quoted content.toList (text ++ rest)
  have hshape : Json.quote content ++ text ++ rest
      = '"' :: (content.toList.flatMap escape ++ '"' :: (text ++ rest)) := by simp [Json.quote]
  rw [hshape, Token.read?, if_neg (by decide), if_pos rfl]
  split
  · next htaken => exact absurd (hquoted.symm.trans htaken) (Option.some_ne_none _)
  · next written after htaken =>
    obtain ⟨rfl, rfl⟩ := Prod.mk.inj (Option.some.inj (hquoted.symm.trans htaken))
    rw [unescape?_flatMap_escape, h rest hrest]
    simp only [Option.bind_eq_bind, Option.bind_some, String.ofList_toList]
    cases Token.read? rest <;> rfl

/-- A key and the value behind its colon. -/
lemma member (key : String) (h : Spells text tokens) :
    Spells (Json.quote key ++ ':' :: text) (.string key :: .colon :: tokens) :=
  (h.mark rfl).quote key

lemma word {word : List Char} {value : Json} (hne : word ≠ []) (hplain : ∀ c ∈ word, isPlain c)
    (hvalue : ofWord? word = some value) : Spells word [.scalar value] := by
  obtain ⟨c, word, rfl⟩ := List.exists_cons_of_ne_nil hne
  rw [List.forall_mem_cons] at hplain
  have hspace : ¬isSpace c ∧ c ≠ '"' ∧ mark? c = none := by
    simpa [isPlain, and_assoc] using hplain.1
  intro rest hrest
  rw [List.cons_append, Token.read?, if_neg hspace.1, if_neg hspace.2.1]
  simp only [hspace.2.2, takeWhile_append_of_head hplain.2 hrest,
    dropWhile_append_of_head hplain.2 hrest, hvalue]
  cases Token.read? rest <;> rfl

end Spells

/-! ## Integers -/

lemma isDigit_of_mem_integerText {n : Int} {c : Char} (hc : c ∈ integerText n) :
    c = '-' ∨ c.isDigit := by
  unfold integerText at hc
  split at hc
  · rcases List.mem_cons.1 hc with rfl | hc
    · exact Or.inl rfl
    · exact Or.inr (isDigit_of_mem_decimalText c hc)
  · exact Or.inr (isDigit_of_mem_decimalText c hc)

lemma integerText_ne_nil (n : Int) : integerText n ≠ [] := by
  unfold integerText
  split
  · exact List.cons_ne_nil _ _
  · exact decimalText_ne_nil _

lemma isPlain_of_isDigit {c : Char} (hc : c.isDigit) : isPlain c := by
  have hne {other : Char} (hother : other.isDigit = false) : c ≠ other := by
    rintro rfl
    exact absurd hc (by simp [hother])
  have hspace : isSpace c = false := by
    simp [isSpace, hne]
  have hmark : mark? c = none := by
    unfold mark?
    split <;> first | rfl | exact absurd hc (by decide)
  simp [isPlain, hspace, hmark, hne]

lemma spells_integer (n : WordInt) :
    Spells (integerText n.value) [.scalar (.number (.integer n))] := by
  have hletter {c : Char} (hc : c ≠ '-') (hdigit : c.isDigit = false) :
      c ∉ integerText n.value := by
    intro hmem
    rcases isDigit_of_mem_integerText hmem with h | h
    · exact hc h
    · exact absurd h (by simp [hdigit])
  have hword : ofWord? (integerText n.value) = some (.number (.integer n)) := by
    have hl := hletter (c := 'l') (by decide) rfl
    have he := hletter (c := 'e') (by decide) rfl
    rw [ofWord?, if_neg, if_neg, if_neg, Number.ofText?_integerText]
    · rfl
    · intro h
      exact he (by simp [h])
    · intro h
      exact he (by simp [h])
    · intro h
      exact hl (by simp [h])
  refine Spells.word (integerText_ne_nil _) (fun c hc => ?_) hword
  rcases isDigit_of_mem_integerText hc with rfl | hdigit
  · rfl
  · exact isPlain_of_isDigit hdigit

/-! ## The texts of a value -/

/-- What follows an element or a member does not go on with its last word. -/
lemma head?_compactElements (xs : List Json) :
    ∀ c ∈ (compactElements xs).head?, isPlain c = false := by
  cases xs <;> simp [compactElements] <;> decide

lemma head?_compactMembers (rest : List (String × Json)) :
    ∀ c ∈ (compactMembers rest).head?, isPlain c = false := by
  cases rest <;> simp [compactMembers] <;> decide

lemma head?_indentedElements (level : Nat) (xs : List Json) :
    ∀ c ∈ (indentedElements level xs).head?, isPlain c = false := by
  cases xs <;> simp [indentedElements, newLine] <;> decide

lemma head?_indentedMembers (level : Nat) (rest : List (String × Json)) :
    ∀ c ∈ (indentedMembers level rest).head?, isPlain c = false := by
  cases rest <;> simp [indentedMembers, newLine] <;> decide

lemma spells_compactElements {xs : List Json} (h : ∀ x ∈ xs, Spells x.compact x.tokens) :
    Spells (compactElements xs) (elementTokens xs) := by
  induction xs with
  | nil => exact Spells.nil.mark rfl
  | cons x xs ih =>
    rw [List.forall_mem_cons] at h
    exact (h.1.append (ih h.2) (head?_compactElements xs)).mark rfl

lemma spells_compactMembers {rest : List (String × Json)}
    (h : ∀ member ∈ rest, Spells member.2.compact member.2.tokens) :
    Spells (compactMembers rest) (memberTokens rest) := by
  induction rest with
  | nil => exact Spells.nil.mark rfl
  | cons member rest ih =>
    rw [List.forall_mem_cons] at h
    exact ((h.1.member member.1).append (ih h.2) (head?_compactMembers rest)).mark rfl

lemma spells_indentedElements {level : Nat} {xs : List Json}
    (h : ∀ x ∈ xs, Spells (x.indented (level + 1)) x.tokens) :
    Spells (indentedElements level xs) (elementTokens xs) := by
  induction xs with
  | nil => exact (Spells.nil.mark rfl).newLine level
  | cons x xs ih =>
    rw [List.forall_mem_cons] at h
    exact ((h.1.newLine _).append (ih h.2) (head?_indentedElements level xs)).mark rfl

lemma spells_indentedMembers {level : Nat} {rest : List (String × Json)}
    (h : ∀ member ∈ rest, Spells (member.2.indented (level + 1)) member.2.tokens) :
    Spells (indentedMembers level rest) (memberTokens rest) := by
  induction rest with
  | nil => exact (Spells.nil.mark rfl).newLine level
  | cons member rest ih =>
    rw [List.forall_mem_cons] at h
    have hmember := ((h.1.space (c := ' ') rfl).member member.1).newLine (level + 1)
    rw [← List.append_assoc] at hmember
    exact (hmember.append (ih h.2) (head?_indentedMembers level rest)).mark rfl

/-- A value that is no container has one text. -/
lemma indented_eq_compact {value : Json} (h : value.isContainer = false) (level : Nat) :
    value.indented level = value.compact := by
  cases value with
  | bool value => cases value <;> rfl
  | array | object => cases h
  | _ => rfl

lemma spells_scalar {value : Json} (hscalar : value.isContainer = false) (h : value.IntegersOnly) :
    Spells value.compact value.tokens := by
  cases value with
  | null => exact Spells.word (List.cons_ne_nil _ _) (List.all_eq_true.1 rfl) rfl
  | bool value =>
    cases value <;> exact Spells.word (List.cons_ne_nil _ _) (List.all_eq_true.1 rfl) rfl
  | number n =>
    cases n with
    | integer n => exact spells_integer n
    | float x => exact absurd rfl ((integersOnly_iff.1 h).1 x)
  | string s =>
    have hquote := Spells.nil.quote s
    rwa [List.append_nil] at hquote
  | array | object => cases hscalar

/-- The compact text of a value is read as its tokens. -/
lemma spells_compact (value : Json) (h : value.IntegersOnly) :
    Spells value.compact value.tokens := by
  induction value using induction_children with
  | step value ih =>
    have hchildren (child : Json) (hchild : child ∈ value.children) :
        Spells child.compact child.tokens :=
      ih child hchild (hereditary_integersOnly value h child hchild)
    cases value with
    | array elements =>
      cases elements with
      | nil => exact (Spells.nil.mark rfl).mark rfl
      | cons x xs =>
        have hall := List.forall_mem_cons.1 hchildren
        exact (hall.1.append (spells_compactElements hall.2) (head?_compactElements xs)).mark rfl
    | object members =>
      cases members with
      | nil => exact (Spells.nil.mark rfl).mark rfl
      | cons member rest =>
        have hall := List.forall_mem_cons.1 (List.forall_mem_map.1 hchildren)
        exact ((hall.1.member member.1).append (spells_compactMembers hall.2)
          (head?_compactMembers rest)).mark rfl
    | _ => exact spells_scalar rfl h

/-- The indented text of a value is read as its tokens, at whatever level it stands. -/
lemma spells_indented (value : Json) (h : value.IntegersOnly) (level : Nat) :
    Spells (value.indented level) value.tokens := by
  induction value using induction_children generalizing level with
  | step value ih =>
    have hchildren (child : Json) (hchild : child ∈ value.children) :
        Spells (child.indented (level + 1)) child.tokens :=
      ih child hchild (hereditary_integersOnly value h child hchild) (level + 1)
    cases value with
    | array elements =>
      cases elements with
      | nil => exact (Spells.nil.mark rfl).mark rfl
      | cons x xs =>
        have hall := List.forall_mem_cons.1 hchildren
        have hfirst := hall.1.newLine (level + 1)
        have hrest := spells_indentedElements hall.2
        exact (hfirst.append hrest (head?_indentedElements level xs)).mark rfl
    | object members =>
      cases members with
      | nil => exact (Spells.nil.mark rfl).mark rfl
      | cons member rest =>
        have hall := List.forall_mem_cons.1 (List.forall_mem_map.1 hchildren)
        have hfirst := ((hall.1.space (c := ' ') rfl).member member.1).newLine (level + 1)
        rw [← List.append_assoc] at hfirst
        have hrest := spells_indentedMembers hall.2
        exact (hfirst.append hrest (head?_indentedMembers level rest)).mark rfl
    | _ =>
      rw [indented_eq_compact rfl]
      exact spells_scalar rfl h

/-! ## One line -/

/-- There is no control character in the text, and so no end of a line. -/
def Printable (text : List Char) : Prop := ∀ c ∈ text, 0x20 ≤ c.toNat

instance (text : List Char) : Decidable (Printable text) :=
  decidable_of_iff (text.all fun c => 0x20 ≤ c.toNat) (by simp [Printable])

section Printable

variable {text more : List Char}

lemma Printable.cons {c : Char} (hc : 0x20 ≤ c.toNat) (h : Printable text) :
    Printable (c :: text) :=
  List.forall_mem_cons.2 ⟨hc, h⟩

lemma Printable.append (h : Printable text) (hmore : Printable more) : Printable (text ++ more) :=
  List.forall_mem_append.2 ⟨h, hmore⟩

end Printable

lemma printable_integerText (n : Int) : Printable (integerText n) := by
  intro c hc
  rcases isDigit_of_mem_integerText hc with rfl | hdigit
  · decide
  · simp only [Char.isDigit, Bool.and_eq_true, decide_eq_true_eq] at hdigit
    have hzero : '0'.toNat ≤ c.toNat := hdigit.1
    exact Nat.le_trans (by decide) hzero

lemma printable_quote (content : String) : Printable (quote content) := by
  have hcontent : Printable (content.toList.flatMap escape) := by
    intro c hc
    obtain ⟨x, -, hc⟩ := List.mem_flatMap.1 hc
    exact le_toNat_of_mem_escape hc
  exact (hcontent.cons (by decide)).append (by decide)

lemma Printable.member {text : List Char} (key : String) (h : Printable text) :
    Printable (quote key ++ ':' :: text) :=
  (printable_quote key).append (h.cons (by decide))

lemma printable_compactElements {xs : List Json} (h : ∀ x ∈ xs, Printable x.compact) :
    Printable (compactElements xs) := by
  induction xs with
  | nil => decide
  | cons x xs ih =>
    rw [List.forall_mem_cons] at h
    exact (h.1.append (ih h.2)).cons (by decide)

lemma printable_compactMembers {rest : List (String × Json)}
    (h : ∀ member ∈ rest, Printable member.2.compact) : Printable (compactMembers rest) := by
  induction rest with
  | nil => decide
  | cons member rest ih =>
    rw [List.forall_mem_cons] at h
    exact ((h.1.member member.1).append (ih h.2)).cons (by decide)

/-- The compact text of a value is one line. -/
lemma printable_compact (value : Json) (h : value.IntegersOnly) : Printable value.compact := by
  induction value using induction_children with
  | step value ih =>
    have hchildren (child : Json) (hchild : child ∈ value.children) : Printable child.compact :=
      ih child hchild (hereditary_integersOnly value h child hchild)
    cases value with
    | null => decide
    | bool value => cases value <;> decide
    | number n =>
      cases n with
      | integer n => exact printable_integerText n.value
      | float x => exact absurd rfl ((integersOnly_iff.1 h).1 x)
    | string s => exact printable_quote s
    | array elements =>
      cases elements with
      | nil => decide
      | cons x xs =>
        have hall := List.forall_mem_cons.1 hchildren
        exact (hall.1.append (printable_compactElements hall.2)).cons (by decide)
    | object members =>
      cases members with
      | nil => decide
      | cons member rest =>
        have hall := List.forall_mem_cons.1 (List.forall_mem_map.1 hchildren)
        exact ((hall.1.member member.1).append (printable_compactMembers hall.2)).cons (by decide)

end PathQuery.Json
