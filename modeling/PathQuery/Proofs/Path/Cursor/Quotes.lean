/-
# Steps in quoted text and patterns

Reading by moves takes quoted text and the body of a pattern as a whole.  The cursor passes over
them character by character: what it has passed over is put in front of what the rest is read as.
-/
import PathQuery.Proofs.Path.Cursor.Tracking

namespace PathQuery.Path.Cursor

variable {text : String} {after tail : List Char} {c : Char} {opened : List OpenQuery}

/-! ## Quoted names and text -/

lemma namesAnswer_quote (chain : Chain) (names : List String) (opened : List OpenQuery)
    (after : List Char) :
    namesAnswer chain names opened ('\'' :: after)
      = quotedAnswer [] (.name chain names) opened after := by
  show (Indexer.takeNames after).bind _ = _
  rw [Indexer.takeNames_eq, quotedAnswer]
  rcases Quoted.take after with cause | ⟨name, tail⟩
  · rfl
  · simp only [Except.bind, List.nil_append, useAnswer]
    rcases hgap : skipSpaces tail with _ | ⟨c, gap⟩
    · rfl
    · by_cases hclosed : c = ']'
      · subst hclosed
        rfl
      · by_cases hcomma : c = ','
        · subst hcomma
          rcases hnext : skipSpaces gap with _ | ⟨d, more⟩
          · simp [namesAnswer, hnext]
          · by_cases hquote : d = '\''
            · subst hquote
              rcases htake : Indexer.takeNames more with cause | ⟨others, last⟩ <;>
                simp [namesAnswer, hnext, htake, Except.map, Except.bind]
            · simp [namesAnswer, hnext]
        · simp

lemma follows_stepNames (h : after <:+ text.toList) (chain : Chain) (names : List String)
    (opened : List OpenQuery) :
    Follows text ⟨offset text after, .names chain names, opened⟩
      (namesAnswer chain names opened after)
      (stepNames text (offset text after) opened chain names) := by
  cases after with
  | nil =>
    rw [stepNames, current_offset_nil]
    exact follows_rejected rfl
  | cons c tail =>
    rw [stepNames, current_offset_cons h, ok_bind]
    split
    · rw [bump_offset_cons h]
      exact follows_ok (.quoted ((List.suffix_cons _ _).trans h) _ _ _)
        (forward_cons h List.suffix_rfl) (namesAnswer_quote ..)
    · next hc =>
      refine follows_rejected ?_
      unfold namesAnswer
      split <;> simp_all

lemma follows_closeQuote (h : '\'' :: after <:+ text.toList) (content : List Char) (use : Use)
    (opened : List OpenQuery) :
    Follows text ⟨offset text ('\'' :: after), .quoted content use, opened⟩
      (useAnswer content opened after use)
      (closeQuote text (offset text after) opened content use) := by
  have hafter := (List.suffix_cons '\'' after).trans h
  cases use with
  | literal query =>
    exact follows_ok (.sideRead hafter _ _ _) (forward_cons h List.suffix_rfl) rfl
  | name chain names =>
    refine follows_skip hafter (fun hgap => by simp [useAnswer, hgap]) fun c gap hgap hskip => ?_
    have hgap' := (List.suffix_cons c gap).trans hskip
    rw [useAnswer, hgap, bump_offset_cons (hskip.trans hafter)]
    by_cases hclosed : c = ']'
    · subst hclosed
      exact follows_ok (.chain (hgap'.trans hafter) (.fresh gap)) (forward_cons h hgap') rfl
    by_cases hcomma : c = ','
    · subst hcomma
      have hnext := (skipSpaces_suffix gap).trans hgap'
      simp only [ok_bind, skip_offset (hgap'.trans hafter)]
      exact follows_ok (.names (hnext.trans hafter) _ _ _) (forward_cons h hnext) rfl
    · simp only
      exact follows_rejected rfl

section Quoted

variable (content : List Char) (use : Use) (opened : List OpenQuery) (after : List Char)

lemma quotedAnswer_quote :
    quotedAnswer content use opened ('\'' :: after) = useAnswer content opened after use := by
  simp [quotedAnswer, Quoted.take, Except.bind]

lemma quotedAnswer_escape (hc : c = '\'' ∨ c = '\\') :
    quotedAnswer content use opened ('\\' :: c :: after)
      = quotedAnswer (content ++ [c]) use opened after := by
  rw [quotedAnswer, quotedAnswer, Quoted.take, if_pos hc]
  rcases Quoted.take after with cause | ⟨more, last⟩
  · rfl
  · simp [Except.map, Except.bind]

lemma quotedAnswer_char (hescape : c ≠ '\\') (hquote : c ≠ '\'') :
    quotedAnswer content use opened (c :: after)
      = quotedAnswer (content ++ [c]) use opened after := by
  rw [quotedAnswer, quotedAnswer, Quoted.take]
  · rcases Quoted.take after with cause | ⟨more, last⟩
    · rfl
    · simp [Except.map, Except.bind]
  · exact hquote
  · exact fun d rest hsame => absurd hsame hescape

end Quoted

lemma follows_stepQuoted (h : after <:+ text.toList) (content : List Char) (use : Use)
    (opened : List OpenQuery) :
    Follows text ⟨offset text after, .quoted content use, opened⟩
      (quotedAnswer content use opened after)
      (stepQuoted text (offset text after) opened content use) := by
  cases after with
  | nil =>
    rw [stepQuoted, peek_offset h]
    exact follows_rejected rfl
  | cons c tail =>
    have htail := (List.suffix_cons c tail).trans h
    simp only [stepQuoted, peek_offset h, ok_bind, List.head?_cons, bump_offset_cons h]
    by_cases hescape : c = '\\'
    · subst hescape
      rw [if_pos rfl]
      cases tail with
      | nil =>
        rw [peek_offset htail]
        exact follows_rejected rfl
      | cons d rest =>
        simp only [peek_offset htail, ok_bind, List.head?_cons]
        split
        · next hd =>
          rw [bump_offset_cons htail]
          exact follows_ok (.quoted ((List.suffix_cons _ _).trans htail) _ _ _)
            (forward_cons h (List.suffix_cons _ _)) (quotedAnswer_escape _ _ _ _ hd)
        · next hd =>
          refine follows_rejected ?_
          rw [quotedAnswer, Quoted.take, if_neg hd]
          rfl
    rw [if_neg hescape]
    by_cases hquote : c = '\''
    · subst hquote
      rw [if_pos rfl, quotedAnswer_quote]
      exact follows_closeQuote h content use opened
    · rw [if_neg hquote]
      exact follows_ok (.quoted htail _ _ _) (forward_cons h List.suffix_rfl)
        (quotedAnswer_char _ _ _ _ hescape hquote)

/-! ## Patterns -/

lemma PassesBody.append {body more after : List Char} (h : PassesBody body (more ++ after))
    (hmore : PassesBody more after) : PassesBody (body ++ more) after := by
  unfold PassesBody at h hmore ⊢
  rw [List.append_assoc, h, hmore]
  rcases Literal.takeBody after with cause | found
  · rfl
  · simp [Except.map]

lemma passesBody_escape (c : Char) (after : List Char) : PassesBody ['\\', c] after := by
  simp [PassesBody, Literal.takeBody]

lemma passesBody_char {c : Char} {after : List Char} (hslash : c ≠ '/')
    (hescape : c = '\\' → after = []) : PassesBody [c] after := by
  unfold PassesBody
  rw [List.cons_append, List.nil_append, Literal.takeBody]
  · rfl
  · exact hslash
  · rintro d rest rfl hsame
    exact absurd (hescape rfl) (by simp [hsame])

/-- What is passed over lies between the mark and the cursor. -/
lemma follows_passBody (more : List Char) {body rest : List Char}
    (h : '/' :: (body ++ (more ++ rest)) <:+ text.toList) (hbody : PassesBody body (more ++ rest))
    (hmore : PassesBody more rest) (hne : more ≠ []) (query : OpenQuery)
    (opened : List OpenQuery) :
    Follows text ⟨offset text (more ++ rest),
        .pattern (offset text ('/' :: (body ++ (more ++ rest)))) query, opened⟩
      (patternAnswer query opened (Literal.takePattern (body ++ (more ++ rest))))
      (.ok ⟨offset text rest, .pattern (offset text ('/' :: (body ++ (more ++ rest)))) query,
        opened⟩) := by
  have hpos : offset text (more ++ rest) < offset text rest :=
    offset_lt_append ((List.suffix_append ('/' :: body) _).trans h) hne
  rw [← List.append_assoc] at h ⊢
  exact follows_ok (.pattern h (hbody.append hmore) query opened)
    (.turn hpos (Nat.le_succ _)) rfl

lemma follows_closePattern {body : List Char} (h : '/' :: (body ++ '/' :: tail) <:+ text.toList)
    (hbody : PassesBody body ('/' :: tail)) (query : OpenQuery) (opened : List OpenQuery) :
    Follows text ⟨offset text ('/' :: tail),
        .pattern (offset text ('/' :: (body ++ '/' :: tail))) query, opened⟩
      (patternAnswer query opened (Literal.takePattern (body ++ '/' :: tail)))
      (do
        let pos ← before text ((← rest text (offset text tail)).dropWhile isAlphabetic)
        let literal := String.ofList (← cut text (offset text ('/' :: (body ++ '/' :: tail))) pos)
        return ⟨pos, .sideRead (.literal (.string literal)) query, opened⟩) := by
  have hslash : '/' :: tail <:+ text.toList := (List.suffix_append ('/' :: body) _).trans h
  have htail := (List.suffix_cons '/' tail).trans hslash
  have hflags : tail.dropWhile isAlphabetic <:+ tail := List.dropWhile_suffix _
  have hsplit : '/' :: (body ++ '/' :: tail)
      = ('/' :: body ++ '/' :: tail.takeWhile isAlphabetic) ++ tail.dropWhile isAlphabetic := by
    simp [List.takeWhile_append_dropWhile]
  rw [rest_offset htail, ok_bind, before_eq (hflags.trans htail), ok_bind, hsplit,
    cut_offset (hsplit ▸ h), ok_bind]
  refine follows_ok (.sideRead (hflags.trans htail) _ _ _) (forward_cons hslash hflags) ?_
  rw [Literal.takePattern, hbody]
  simp [patternAnswer, Literal.takeBody, Except.map, Except.bind]

lemma follows_stepPattern {body : List Char} (h : '/' :: (body ++ after) <:+ text.toList)
    (hbody : PassesBody body after) (query : OpenQuery) (opened : List OpenQuery) :
    Follows text ⟨offset text after, .pattern (offset text ('/' :: (body ++ after))) query, opened⟩
      (patternAnswer query opened (Literal.takePattern (body ++ after)))
      (stepPattern text (offset text after) opened (offset text ('/' :: (body ++ after)))
        query) := by
  have hafter : after <:+ text.toList := (List.suffix_append ('/' :: body) after).trans h
  cases after with
  | nil =>
    rw [stepPattern, peek_offset hafter]
    refine follows_rejected ?_
    rw [Literal.takePattern, hbody]
    rfl
  | cons c tail =>
    have htail := (List.suffix_cons c tail).trans hafter
    simp only [stepPattern, peek_offset hafter, ok_bind, List.head?_cons, bump_offset_cons hafter]
    by_cases hescape : c = '\\'
    · subst hescape
      rw [if_pos rfl]
      cases tail with
      | nil =>
        -- a backslash at the end of the text escapes nothing
        rw [bump_offset_nil]
        exact follows_passBody ['\\'] h hbody (passesBody_char (by decide) fun _ => rfl)
          (List.cons_ne_nil _ _) query opened
      | cons d rest =>
        rw [bump_offset_cons htail]
        exact follows_passBody ['\\', d] h hbody (passesBody_escape d rest)
          (List.cons_ne_nil _ _) query opened
    rw [if_neg hescape]
    by_cases hslash : c = '/'
    · subst hslash
      exact follows_closePattern h hbody query opened
    · rw [if_neg hslash]
      exact follows_passBody [c] h hbody
        (passesBody_char hslash fun hc => absurd hc hescape) (List.cons_ne_nil _ _) query opened

end PathQuery.Path.Cursor
