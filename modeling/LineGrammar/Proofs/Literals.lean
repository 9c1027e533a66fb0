/-
Which literal a selection takes.

The literals are tried in the order in which they are declared, each of them on the whole line: where the cursor stands,
and which literal comes first on the line, plays no part. So the value depends on nothing but which tokens the line has.
- `selected?_eq_some_iff`, `selected?_congr`: the first declared literal among some tokens, and that their order and
  number do not matter.
- `selection_decodes`: what a selection stores, what it cuts out, and where it leaves the cursor.
-/
import LineGrammar.Proofs.Anchor
import LineGrammar.Manifold

namespace LineGrammar

/-! ## The first declared literal -/

theorem selected?_eq_some_iff {s : Selection} {ts : List (List Char)} {l : Literal} :
    s.selected? ts = some l ↔ l.token.chars ∈ ts ∧
      ∃ done rest, s.literals = done ++ l :: rest ∧ ∀ k ∈ done, k.token.chars ∉ ts := by
  simp [Selection.selected?, List.find?_eq_some_iff_append]

theorem selected?_eq_none_iff {s : Selection} {ts : List (List Char)} :
    s.selected? ts = none ↔ ∀ l ∈ s.literals, l.token.chars ∉ ts := by
  simp [Selection.selected?]

/-- **The order of the tokens, and how often each one stands there, does not matter.** -/
theorem selected?_congr (s : Selection) {ts ts' : List (List Char)} (h : ∀ t, t ∈ ts ↔ t ∈ ts') :
    s.selected? ts = s.selected? ts' := by
  cases hl : s.selected? ts' with
  | none =>
    rw [selected?_eq_none_iff] at hl ⊢
    intro l hmem
    rw [h]
    exact hl l hmem
  | some l =>
    obtain ⟨hmem, done, rest, hsplit, hdone⟩ := selected?_eq_some_iff.1 hl
    refine selected?_eq_some_iff.2 ⟨(h _).2 hmem, done, rest, hsplit, fun k hk => ?_⟩
    rw [h]
    exact hdone k hk

/-! ## What a selection does -/

/-- reading succeeds, leaves the cursor there, and adds one entry -/
structure Outcome.Adds (o : Outcome Container) (sink : Container) (after : Cursor) (name : String) (value : Datum) :
    Prop where
  cursor_eq : o.cursor = after
  error_eq : o.error = none
  entries_eq : o.sink.entries = sink.entries ++ [(name, value)]

theorem write_adds {sink : Container} {name : String} (c : Cursor) (value : Datum) (h : name ∉ sink.names) :
    (write c sink name value).Adds sink c name value := by
  obtain ⟨after, hentries, hwrite⟩ := write_of_free c value h
  rw [hwrite]
  exact ⟨rfl, rfl, hentries⟩

/-- the value that a selection stores where a line has these tokens -/
def Selection.decoded (s : Selection) (ts : List (List Char)) : Datum :=
  ((s.selected? ts).getD s.default).value.datum

/-- what a selection stores, whatever it cuts out -/
theorem readSelection_adds (s : Selection) (context : Datum) (c : Cursor) {sink : Container}
    (hname : s.info.name ∉ sink.names) :
    ∃ after, (read context (.selection s) c sink).Adds sink after s.info.name (s.decoded (tokens c.line)) := by
  rw [read]
  rcases readSelection_selected s c sink with ⟨l, before, after, hl, -, h⟩ | ⟨hnone, h⟩
  · have hvalue : s.decoded (tokens c.line) = l.value.datum := by rw [Selection.decoded, hl, Option.getD_some]
    rw [h, hvalue]
    exact ⟨_, write_adds _ _ hname⟩
  · have hvalue : s.decoded (tokens c.line) = s.default.value.datum := by
      rw [Selection.decoded, hnone, Option.getD_none]
    rw [h, hvalue]
    exact ⟨_, write_adds _ _ hname⟩

/-- What a selection does at a cursor, its name not taken. -/
structure Selection.Decodes (s : Selection) (context : Datum) (c : Cursor) (sink : Container) : Prop where
  /-- The first declared literal that is a token of the line is stored. The first token that equals it is cut out, and
  the cursor is where it was. -/
  found : ∀ done l rest, s.literals = done ++ l :: rest → (∀ k ∈ done, k.token.chars ∉ tokens c.line) →
    l.token.chars ∈ tokens c.line →
      ∃ before after, FirstAt l.token.chars c.line before after ∧
        tokens (before ++ after) = (tokens c.line).erase l.token.chars ∧
        (read context (.selection s) c sink).Adds sink ⟨before ++ after, before.length⟩ s.info.name l.value.datum
  /-- without any literal the default is stored, and the cursor stays as it is -/
  absent : (∀ l ∈ s.literals, l.token.chars ∉ tokens c.line) →
    (read context (.selection s) c sink).Adds sink c s.info.name s.default.value.datum
  /-- the same value is stored wherever the line has the same tokens, in any order and at any position -/
  regardless : ∀ (context' : Datum) (c' : Cursor) (sink' : Container), s.info.name ∉ sink'.names →
    (∀ t, t ∈ tokens c'.line ↔ t ∈ tokens c.line) →
      ∃ value after after', (read context (.selection s) c sink).Adds sink after s.info.name value ∧
        (read context' (.selection s) c' sink').Adds sink' after' s.info.name value

/-- **A selection takes the first declared literal that is on the line, wherever it is.** -/
theorem selection_decodes (s : Selection) (context : Datum) (c : Cursor) (sink : Container)
    (hname : s.info.name ∉ sink.names) : s.Decodes context c sink where
  found done l rest hsplit hdone hl := by
    have hselected := selected?_eq_some_iff.2 ⟨hl, done, rest, hsplit, hdone⟩
    rcases readSelection_selected s c sink with ⟨l', before, after, hl', hat, h⟩ | ⟨hnone, -⟩
    · rw [hselected, Option.some.injEq] at hl'
      subst hl'
      rw [read, h]
      exact ⟨before, after, hat, hat.tokens_around (isToken_chars l.token), write_adds _ _ hname⟩
    · rw [hselected] at hnone
      cases hnone
  absent habsent := by
    have hselected := selected?_eq_none_iff.2 habsent
    rcases readSelection_selected s c sink with ⟨l, before, after, hl, -, -⟩ | ⟨-, h⟩
    · rw [hselected] at hl
      cases hl
    · rw [read, h]
      exact write_adds _ _ hname
  regardless context' c' sink' hname' htokens := by
    obtain ⟨after, hadds⟩ := readSelection_adds s context c hname
    obtain ⟨after', hadds'⟩ := readSelection_adds s context' c' hname'
    rw [Selection.decoded, selected?_congr s htokens, ← Selection.decoded] at hadds'
    exact ⟨_, after, after', hadds, hadds'⟩

/-- of two literals on the line the one declared first is taken, although the other one stands before it -/
theorem implementationType_decodes :
    ∃ before after, FirstAt "Standard".toList "7 ElchDiffCond Standard Standards".toList before after ∧
      tokens (before ++ after) = ["7".toList, "ElchDiffCond".toList, "Standards".toList] ∧
      (read (.text "DESIGN") (.selection Manifold.implementationType)
        ⟨"7 ElchDiffCond Standard Standards".toList, 1⟩ .empty).Adds .empty
          ⟨before ++ after, before.length⟩ "ImplType" (.int 1) := by
  have hdecodes := selection_decodes Manifold.implementationType (.text "DESIGN")
    ⟨"7 ElchDiffCond Standard Standards".toList, 1⟩ .empty (by decide)
  exact hdecodes.found [⟨Manifold.token "Undefined", .int 0⟩] ⟨Manifold.token "Standard", .int 1⟩ _ rfl
    (by decide) (by decide)

end LineGrammar
