/-
The search for a label, said of the characters of a line.

A token of a text is a run of characters that are not blank, with blanks or the ends of the text on both sides
(`RunAt`). A label is searched for character by character, and what is found is such a run: not a part of one, however
often the label stands in it, but the first run that is the label as a whole. A label may be anything that can be built
into a grammar, and that is any token.
- `RunAt.mem_before`: of two runs the one that begins first is among the tokens before the other.
- `firstAt_iff`: the first token that equals a label is the run of it that begins first.
- `exists_checkToken_iff`: what can be a label.
- `label_search_goes_by_tokens`: what a search finds, and what consuming the label leaves.
-/
import LineGrammar.Proofs.Built
import LineGrammar.Proofs.Label

namespace LineGrammar

/-! ## Runs -/

/-- The text has this token there, as a run of characters that goes on neither to the left nor to the right. -/
structure RunAt (text before token after : List Char) : Prop where
  split : text = before ++ (token ++ after)
  solid : isToken token = true
  starts : atBoundary before.reverse = true
  stops : atBoundary after = true

/-- a text that ends with a token does not end where another token could begin -/
theorem not_atBoundary_reverse {front token : List Char} (h : isToken token = true) :
    atBoundary (front ++ token).reverse = false := by
  obtain ⟨hne, hsolid⟩ := isToken_iff.1 h
  have hreverse : isToken token.reverse = true := by
    refine isToken_iff.2 ⟨List.reverse_ne_nil_iff.2 hne, fun c hc => ?_⟩
    exact hsolid c (List.mem_reverse.1 hc)
  rw [List.reverse_append]
  exact not_atBoundary_of_isToken hreverse

namespace RunAt

variable {text before token after before' token' after' : List Char}

theorem tokens_eq (h : RunAt text before token after) : tokens text = tokens before ++ token :: tokens after := by
  rw [h.split, tokens_append_of_ends _ h.starts, tokens_token_append h.solid h.stops]

/-- a run of a text is a run of every text that goes on behind a boundary -/
theorem append (h : RunAt text before token after) {more : List Char} (hmore : atBoundary (after ++ more) = true) :
    RunAt (text ++ more) before token (after ++ more) := by
  refine ⟨?_, h.solid, h.starts, hmore⟩
  rw [h.split, List.append_assoc, List.append_assoc]

/-- **Of two runs the one that begins first is among the tokens before the other.** -/
theorem mem_before (h : RunAt text before token after) (h' : RunAt text before' token' after')
    (hlt : before'.length < before.length) : token' ∈ tokens before := by
  have hsplit : before' ++ (token' ++ after') = before ++ (token ++ after) := h'.split.symm.trans h.split
  obtain ⟨middle, hbefore, hmiddle⟩ : ∃ middle, before = before' ++ middle ∧
      token' ++ after' = middle ++ (token ++ after) := by
    rcases List.append_eq_append_iff.1 hsplit with ⟨m, hm, hrest⟩ | ⟨m, hm, -⟩
    · exact ⟨m, hm, hrest⟩
    · rw [hm, List.length_append] at hlt
      omega
  have hmiddle_ne : middle ≠ [] := by
    rintro rfl
    rw [hbefore, List.append_nil] at hlt
    exact absurd hlt (Nat.lt_irrefl _)
  rcases List.append_eq_append_iff.1 hmiddle with ⟨gap, hgap, hafter⟩ | ⟨part, hpart, -⟩
  · -- the earlier run ends before the later one begins
    have hbound : atBoundary gap = true := by
      cases gap with
      | nil => rfl
      | cons c gap =>
        have hstops := h'.stops
        rw [hafter] at hstops
        exact hstops
    rw [hbefore, hgap, tokens_append_of_ends _ h'.starts, tokens_token_append h'.solid hbound]
    exact List.mem_append_right _ List.mem_cons_self
  · -- the later run would begin within the earlier one
    have hpiece : isToken middle = true := by
      refine isToken_iff.2 ⟨hmiddle_ne, fun c hc => ?_⟩
      exact (isToken_iff.1 h'.solid).2 c (hpart ▸ List.mem_append_left part hc)
    have hstarts := h.starts
    rw [hbefore, not_atBoundary_reverse hpiece] at hstarts
    cases hstarts

end RunAt

/-- **The tokens of a text are its runs.** -/
theorem mem_tokens_iff {text token : List Char} :
    token ∈ tokens text ↔ ∃ before after, RunAt text before token after := by
  constructor
  · intro h
    have hsolid := isToken_of_mem_tokens h
    cases hk : labelOffset? token true text with
    | none => exact absurd h ((labelOffset?_eq_none_iff hsolid text).1 hk)
    | some k =>
      obtain ⟨before, after, hat, -⟩ := firstAt_of_labelOffset? hsolid hk
      exact ⟨before, after, hat.split, hsolid, hat.starts, hat.stops⟩
  · rintro ⟨before, after, h⟩
    rw [h.tokens_eq]
    exact List.mem_append_right _ List.mem_cons_self

/-- **The first token that equals a label is the run of the label that begins first.** -/
theorem firstAt_iff {label text before after : List Char} (hl : isToken label = true) :
    FirstAt label text before after ↔ RunAt text before label after ∧
      ∀ before' after', RunAt text before' label after' → before.length ≤ before'.length := by
  constructor
  · intro h
    have hrun : RunAt text before label after := ⟨h.split, hl, h.starts, h.stops⟩
    refine ⟨hrun, fun before' after' h' => ?_⟩
    by_contra hlt
    exact h.first (hrun.mem_before h' (Nat.lt_of_not_le hlt))
  · rintro ⟨hrun, hleast⟩
    refine ⟨hrun.split, hrun.starts, hrun.stops, fun hmem => ?_⟩
    obtain ⟨before', gap, hrun'⟩ := mem_tokens_iff.1 hmem
    have hshorter : before'.length < before.length := by
      have hpos := List.length_pos_iff.2 (ne_nil_of_isToken hl)
      have hlength := congrArg List.length hrun'.split
      simp only [List.length_append] at hlength
      omega
    have hbound : atBoundary (gap ++ (label ++ after)) = true := by
      cases gap with
      | nil =>
        -- the label would end right where the other one begins
        have hstarts := hrun.starts
        rw [hrun'.split, List.append_nil, not_atBoundary_reverse hl] at hstarts
        cases hstarts
      | cons c gap => exact hrun'.stops
    have hearlier := hrun'.append hbound
    rw [← hrun.split] at hearlier
    exact absurd (hleast _ _ hearlier) (Nat.not_le.2 hshorter)

/-! ## Labels of a grammar -/

/-- **What can be a label:** any text that is not empty and has no blank in it. -/
theorem exists_checkToken_iff {what s : String} : (∃ label, checkToken what (.text s) = .ok label) ↔
    s ≠ "" ∧ ∀ ch ∈ s.toList, isBlank ch = false := by
  have hempty : s ≠ "" ↔ s.toList ≠ [] := by simp
  rw [hempty]
  constructor
  · rintro ⟨label, h⟩
    rw [checkToken_eq_ok_iff, Datum.text.injEq] at h
    rw [h, Token.text, String.toList_ofList]
    exact ⟨label.nonempty, label.solid⟩
  · rintro ⟨hne, hsolid⟩
    refine ⟨⟨s.toList, hne, hsolid⟩, checkToken_eq_ok_iff.2 ?_⟩
    rw [Token.text, String.ofList_toList]

/-- What searching a line for a label comes to, wherever the cursor stands. -/
structure Cursor.Searches (c : Cursor) (label : List Char) : Prop where
  /-- found is the place where the first token that equals the label begins -/
  found : ∀ k, c.find? label = some k ↔ ∃ before after, RunAt c.line before label after ∧ before.length = k ∧
    ∀ before' after', RunAt c.line before' label after' → k ≤ before'.length
  /-- nothing is found exactly if no token equals the label -/
  absent : c.find? label = none ↔ label ∉ tokens c.line
  /-- The label that is found is cut out of the line, and the first token that equals it from the tokens. The cursor
  stands where the label was, with a blank or an end of the line on each side. -/
  consumed : ∀ k, c.find? label = some k → ∀ optional field context, ∃ after : Cursor,
    c.consumeLabel label optional field context = (after, .ok true) ∧ after.position = k ∧
      after.line = c.line.take k ++ c.line.drop (k + label.length) ∧ after.line.take k = c.line.take k ∧
      tokens after.line = (tokens c.line).erase label ∧
      atBoundary (after.line.take k).reverse = true ∧ atBoundary after.rest = true

theorem searches_of_isToken {label : List Char} (hl : isToken label = true) (c : Cursor) : c.Searches label where
  found k := by
    constructor
    · intro h
      obtain ⟨before, after, hat, rfl⟩ := firstAt_of_labelOffset? hl h
      obtain ⟨hrun, hleast⟩ := (firstAt_iff hl).1 hat
      exact ⟨before, after, hrun, rfl, hleast⟩
    · rintro ⟨before, after, hrun, rfl, hleast⟩
      cases h : c.find? label with
      | none => exact absurd (mem_tokens_iff.2 ⟨before, after, hrun⟩) ((labelOffset?_eq_none_iff hl c.line).1 h)
      | some k =>
        obtain ⟨front, behind, hat, rfl⟩ := firstAt_of_labelOffset? hl h
        obtain ⟨hfirst, hfirst_least⟩ := (firstAt_iff hl).1 hat
        exact congrArg some (Nat.le_antisymm (hfirst_least _ _ hrun) (hleast _ _ hfirst))
  absent := labelOffset?_eq_none_iff hl c.line
  consumed k h optional field context := by
    obtain ⟨before, after, hat, rfl⟩ := firstAt_of_labelOffset? hl h
    have htake : c.line.take before.length = before := by
      rw [hat.split]
      exact List.take_left
    have hdrop : c.line.drop (before.length + label.length) = after := by
      rw [hat.split, ← List.append_assoc, ← List.length_append]
      exact List.drop_left
    have hleft : (before ++ after).take before.length = before := List.take_left
    have hrest : (⟨before ++ after, before.length⟩ : Cursor).rest = after := List.drop_left
    refine ⟨⟨before ++ after, before.length⟩, ?_, rfl, ?_, ?_, hat.tokens_around hl, ?_, ?_⟩
    · simp only [Cursor.consumeLabel, h, Cursor.removeAt_of_split hat.split]
    · rw [htake, hdrop]
    · rw [htake, hleft]
    · rw [hleft]
      exact hat.starts
    · rw [hrest]
      exact hat.stops

/-- **The search for a label is the search for the first token that equals it.** What can be a label of a grammar is a
text with a character in it and no blank; for each such text the search and the cut go by the tokens of the line. -/
theorem label_search_goes_by_tokens (what s : String) :
    ((∃ label, checkToken what (.text s) = .ok label) ↔ s ≠ "" ∧ ∀ ch ∈ s.toList, isBlank ch = false) ∧
      ∀ label, checkToken what (.text s) = .ok label → ∀ c : Cursor, c.Searches s.toList := by
  refine ⟨exists_checkToken_iff, fun label h c => searches_of_isToken ?_ c⟩
  obtain ⟨hne, hsolid⟩ := exists_checkToken_iff.1 ⟨label, h⟩
  exact isToken_iff.2 ⟨by simpa using hne, hsolid⟩

/-- a label that overlaps itself, behind two tokens that it is only a part of, and once more at the end -/
theorem label_search_goes_by_tokens_overlapping :
    ∃ label, checkToken "separator label" (.text "E-E-") = .ok label ∧
      (Cursor.ofLine "E-E-E- XE-E- E-E- 1 E-E-".toList).find? "E-E-".toList = some 13 ∧
      ∃ after : Cursor, (Cursor.ofLine "E-E-E- XE-E- E-E- 1 E-E-".toList).consumeLabel "E-E-".toList false
          (.text "E-E-") (.text "DESIGN") = (after, .ok true) ∧ after.position = 13 ∧
        tokens after.line = ["E-E-E-".toList, "XE-E-".toList, "1".toList, "E-E-".toList] := by
  have htoken : isToken "E-E-".toList = true := by decide
  obtain ⟨label, h⟩ :=
    (label_search_goes_by_tokens "separator label" "E-E-").1.2 ⟨by decide, (isToken_iff.1 htoken).2⟩
  have hsearches := (label_search_goes_by_tokens "separator label" "E-E-").2 label h
    (.ofLine "E-E-E- XE-E- E-E- 1 E-E-".toList)
  have hfound : (Cursor.ofLine "E-E-E- XE-E- E-E- 1 E-E-".toList).find? "E-E-".toList = some 13 := by decide
  obtain ⟨after, hcut, hposition, -, -, htokens, -⟩ :=
    hsearches.consumed 13 hfound false (.text "E-E-") (.text "DESIGN")
  exact ⟨label, h, hfound, after, hcut, hposition, htokens⟩

end LineGrammar
