/-
# What is written is read

The tokens of a value that fits lead the reader to that value, from wherever it waits for one
(`foldlM_tokens`).  Elements pile up in reverse order until their array is closed; members keep
their order, as long as no key comes twice.  Both texts of a value are read as its tokens, and so
the value is read from either of them.
-/
import PathQuery.Proofs.Json.Nesting
import PathQuery.Proofs.Json.Token

namespace PathQuery.Json

/-! ## Runs of the reader -/

section Run

variable {progress next : Progress} {token : Token} {tokens others : List Token}

lemma foldlM_step_cons (h : progress.step token = some next) :
    (token :: tokens).foldlM Progress.step progress = tokens.foldlM Progress.step next := by
  rw [List.foldlM_cons, h]
  rfl

lemma foldlM_step_append (h : tokens.foldlM Progress.step progress = some next) :
    (tokens ++ others).foldlM Progress.step progress = others.foldlM Progress.step next := by
  rw [List.foldlM_append, h]
  rfl

end Run

/-- The reader waits for a value below the open containers.  An array that has just been opened may
also be closed. -/
def Progress.Awaits (progress : Progress) (opened : List Frame) : Prop :=
  ∀ token, token ≠ .closeArray → progress.step token = Progress.start opened token

lemma awaits_wantValue (opened : List Frame) : (Progress.wantValue opened).Awaits opened :=
  fun _ _ => rfl

lemma awaits_wantElement (opened : List Frame) :
    (Progress.wantElement opened).Awaits (.array [] :: opened) := by
  intro token htoken
  cases token with
  | closeArray => exact absurd rfl htoken
  | _ => rfl

/-- The tokens of the value lead the reader to it, wherever it waits for a value that fits. -/
def IsReadBack (value : Json) : Prop :=
  ∀ (progress : Progress) (opened : List Frame), progress.Awaits opened →
    Fits opened.length value →
      value.tokens.foldlM Progress.step progress = some (.complete value opened)

/-! ## Elements and members -/

variable {opened : List Frame}

lemma foldlM_elementTokens {xs : List Json} (hread : ∀ x ∈ xs, IsReadBack x)
    (hfits : ∀ x ∈ xs, Fits (opened.length + 1) x) (x : Json) (before : List Json) :
    (elementTokens xs).foldlM Progress.step (.complete x (.array before :: opened))
      = some (.complete (.array (before.reverse ++ x :: xs)) opened) := by
  induction xs generalizing x before with
  | nil =>
    show some (Progress.complete (.array (x :: before).reverse) opened) = _
    rw [List.reverse_cons]
  | cons y ys ih =>
    rw [List.forall_mem_cons] at hread hfits
    calc (elementTokens (y :: ys)).foldlM Progress.step (.complete x (.array before :: opened))
      _ = (y.tokens ++ elementTokens ys).foldlM Progress.step
            (.wantValue (.array (x :: before) :: opened)) := foldlM_step_cons rfl
      _ = (elementTokens ys).foldlM Progress.step
            (.complete y (.array (x :: before) :: opened)) :=
          foldlM_step_append (hread.1 _ _ (awaits_wantValue _) hfits.1)
      _ = some (.complete (.array ((x :: before).reverse ++ y :: ys)) opened) :=
          ih hread.2 hfits.2 y (x :: before)
      _ = some (.complete (.array (before.reverse ++ x :: y :: ys)) opened) := by
          rw [List.reverse_cons, List.append_assoc]
          rfl

lemma foldlM_memberTokens {rest : List (String × Json)}
    (hread : ∀ member ∈ rest, IsReadBack member.2)
    (hfits : ∀ member ∈ rest, Fits (opened.length + 1) member.2) (key : String) (value : Json)
    (before : List (String × Json))
    (hkeys : ((before ++ (key, value) :: rest).map (·.1)).Nodup) :
    (memberTokens rest).foldlM Progress.step (.complete value (.object before key :: opened))
      = some (.complete (.object (before ++ (key, value) :: rest)) opened) := by
  have hput := putMember_of_nodup hkeys
  induction rest generalizing key value before with
  | nil =>
    show some (Progress.complete (.object (putMember before key value)) opened) = _
    rw [hput]
  | cons member rest ih =>
    rw [List.forall_mem_cons] at hread hfits
    have hcomma : Progress.step (.complete value (.object before key :: opened)) .comma
        = some (.wantKey (before ++ [(key, value)]) opened) := by
      rw [← hput]
      rfl
    have hshift : before ++ (key, value) :: member :: rest
        = (before ++ [(key, value)]) ++ member :: rest := by
      rw [List.append_assoc]
      rfl
    rw [hshift] at hkeys ⊢
    calc (memberTokens (member :: rest)).foldlM Progress.step
            (.complete value (.object before key :: opened))
      _ = (.string member.1 :: .colon :: member.2.tokens ++ memberTokens rest).foldlM
            Progress.step (.wantKey (before ++ [(key, value)]) opened) := foldlM_step_cons hcomma
      _ = (.colon :: member.2.tokens ++ memberTokens rest).foldlM Progress.step
            (.wantColon (before ++ [(key, value)]) member.1 opened) := foldlM_step_cons rfl
      _ = (member.2.tokens ++ memberTokens rest).foldlM Progress.step
            (.wantValue (.object (before ++ [(key, value)]) member.1 :: opened)) :=
          foldlM_step_cons rfl
      _ = (memberTokens rest).foldlM Progress.step
            (.complete member.2 (.object (before ++ [(key, value)]) member.1 :: opened)) :=
          foldlM_step_append (hread.1 _ _ (awaits_wantValue _) hfits.1)
      _ = some (.complete (.object ((before ++ [(key, value)]) ++ member :: rest)) opened) :=
          ih hread.2 hfits.2 member.1 member.2 _ hkeys (putMember_of_nodup hkeys)

/-! ## Values -/

/-- The tokens of any value lead the reader to it. -/
lemma foldlM_tokens (value : Json) : IsReadBack value := by
  induction value using induction_children with
  | step value ih =>
    intro progress opened hawaits hfits
    cases value with
    | array elements =>
      obtain ⟨hlt, hall⟩ := fits_array_iff.1 hfits
      have hopen : progress.step .openArray = some (.wantElement opened) := by
        rw [hawaits _ Token.noConfusion]
        exact if_pos hlt
      cases elements with
      | nil => exact foldlM_step_cons hopen
      | cons x xs =>
        rw [children, List.forall_mem_cons] at ih
        rw [List.forall_mem_cons] at hall
        calc (array (x :: xs)).tokens.foldlM Progress.step progress
          _ = (x.tokens ++ elementTokens xs).foldlM Progress.step (.wantElement opened) :=
              foldlM_step_cons hopen
          _ = (elementTokens xs).foldlM Progress.step (.complete x (.array [] :: opened)) :=
              foldlM_step_append (ih.1 _ _ (awaits_wantElement _) hall.1)
          _ = some (.complete (.array (x :: xs)) opened) :=
              foldlM_elementTokens ih.2 hall.2 x []
    | object members =>
      obtain ⟨hlt, hkeys, hall⟩ := fits_object_iff.1 hfits
      have hopen : progress.step .openObject = some (.wantMember opened) := by
        rw [hawaits _ Token.noConfusion]
        exact if_pos hlt
      cases members with
      | nil => exact foldlM_step_cons hopen
      | cons member rest =>
        rw [children, List.forall_mem_map, List.forall_mem_cons] at ih
        rw [List.forall_mem_cons] at hall
        calc (object (member :: rest)).tokens.foldlM Progress.step progress
          _ = (.string member.1 :: .colon :: member.2.tokens ++ memberTokens rest).foldlM
                Progress.step (.wantMember opened) := foldlM_step_cons hopen
          _ = (.colon :: member.2.tokens ++ memberTokens rest).foldlM Progress.step
                (.wantColon [] member.1 opened) := foldlM_step_cons rfl
          _ = (member.2.tokens ++ memberTokens rest).foldlM Progress.step
                (.wantValue (.object [] member.1 :: opened)) := foldlM_step_cons rfl
          _ = (memberTokens rest).foldlM Progress.step
                (.complete member.2 (.object [] member.1 :: opened)) :=
              foldlM_step_append (ih.1 _ _ (awaits_wantValue _) hall.1)
          _ = some (.complete (.object (member :: rest)) opened) :=
              foldlM_memberTokens ih.2 hall.2 member.1 member.2 [] hkeys
    | _ => exact foldlM_step_cons (hawaits _ Token.noConfusion)

/-- The tokens of a value that fits spell it. -/
lemma ofTokens?_tokens {value : Json} (h : Fits 0 value) : ofTokens? value.tokens = some value := by
  rw [ofTokens?, foldlM_tokens value _ [] (awaits_wantValue []) h]
  rfl

lemma read?_toCompact {value : Json} (h : Fits 0 value) (hintegers : value.IntegersOnly) :
    read? value.toCompact = some value := by
  rw [read?, toCompact, String.toList_ofList, (spells_compact value hintegers).read?,
    Option.bind_some, ofTokens?_tokens h]

lemma read?_toIndented {value : Json} (h : Fits 0 value) (hintegers : value.IntegersOnly) :
    read? value.toIndented = some value := by
  rw [read?, toIndented, String.toList_ofList, (spells_indented value hintegers 0).read?,
    Option.bind_some, ofTokens?_tokens h]

end PathQuery.Json
