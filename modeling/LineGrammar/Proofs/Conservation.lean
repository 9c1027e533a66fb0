/-
What reading takes away from a line.

Reading cuts whole tokens out of a line and nothing else: the blanks stay, in their order, and no token is split,
joined with another, doubled or moved. Which tokens go is told by the component (`Component.Removes`): a label, the
literal that is selected, the first token ahead of the cursor, or as many of those as a vector is long. This holds of a
component that fails as well, and of every component that is come to, inside switches too.
- `read_removes`: the step, one case for each kind of component.
- `readAll_keeps`: the run, by induction on the branch.
- `reading_conserves_tokens`: every component that reading comes to.
-/
import LineGrammar.Proofs.Anchor
import LineGrammar.Proofs.Route

namespace LineGrammar

/-- the literal whose value a selection takes where these tokens are left -/
def Selection.selected (s : Selection) (ts : List (List Char)) : Literal :=
  (s.selected? ts).getD s.default

/-- Which tokens are `left` on the line when the component has been read, `bs` having been behind the cursor and `as`
ahead of it; `o` is what reading has ended in. -/
def Component.Removes (context : Datum) (sink : Container) (bs as left : List (List Char)) (o : Outcome Container) :
    Component → Prop
  | .separator label _ _ => left = (bs ++ as).erase label.chars
  | .selection s =>
    left = (bs ++ as).erase (s.selected (bs ++ as)).token.chars ∧
      (o.error = none → o.sink.get? s.info.name = some (s.selected (bs ++ as)).value.datum)
  | .scalar _ _ | .processed _ _ => ∃ k ≤ 1, left = bs ++ as.drop k
  | .vector info length _ =>
    left = bs ++ as ∨ ∃ n, resolveLength length sink info.label context = .ok n ∧ ∃ k ≤ n, left = bs ++ as.drop k
  | .switch .. | .unsupported .. => left = bs ++ as

theorem sublist_of_drop (bs as : List (List Char)) (k : Nat) : (bs ++ as.drop k).Sublist (bs ++ as) :=
  (List.drop_sublist k as).append_left bs

/-- what is left are some of the tokens that were there, in their order -/
theorem Component.Removes.sublist {x : Component} {context : Datum} {sink : Container} {bs as left : List (List Char)}
    {o : Outcome Container} (h : x.Removes context sink bs as left o) : left.Sublist (bs ++ as) := by
  cases x with
  | separator label optional description =>
    rw [h]
    exact List.erase_sublist
  | selection s =>
    rw [h.1]
    exact List.erase_sublist
  | scalar info default =>
    obtain ⟨k, -, rfl⟩ := h
    exact sublist_of_drop bs as k
  | processed info insertion =>
    obtain ⟨k, -, rfl⟩ := h
    exact sublist_of_drop bs as k
  | vector info length default =>
    rcases h with rfl | ⟨n, -, k, -, rfl⟩
    · exact List.Sublist.refl _
    · exact sublist_of_drop bs as k
  | switch s key choices =>
    rw [h]
  | unsupported info kind =>
    rw [h]

/-- what a step does to the line: its blanks stay, and the cursor stands between the tokens that are left -/
structure Keeps (before after : Cursor) (left : List (List Char)) : Prop where
  blanks_eq : blanks after.line = blanks before.line
  stands : ∃ bs as, after.Stands bs as ∧ bs ++ as = left

theorem Keeps.tokens_eq {before after : Cursor} {left : List (List Char)} (h : Keeps before after left) :
    tokens after.line = left := by
  obtain ⟨bs, as, hs, rfl⟩ := h.stands
  exact hs.tokens_line

section

variable {c : Cursor} {bs as : List (List Char)} (context : Datum) (sink : Container)

/-- a component that cuts nothing out -/
theorem Keeps.of_stands (h : c.Stands bs as) : Keeps c c (bs ++ as) :=
  ⟨rfl, bs, as, h, rfl⟩

theorem readSeparator_keeps (label : Token) (optional : Bool) (h : c.Stands bs as) :
    Keeps c (readSeparator label optional context c sink).cursor ((bs ++ as).erase label.chars) := by
  by_cases hl : label.chars ∈ tokens c.line
  · obtain ⟨after, hstands, hblanks, hread⟩ := readSeparator_found context sink optional hl
    rw [hread]
    refine ⟨hblanks, _, _, hstands, ?_⟩
    rw [around_eq_erase hl, h.tokens_line]
  · have herase : (bs ++ as).erase label.chars = bs ++ as := by
      rw [← h.tokens_line]
      exact List.erase_of_not_mem hl
    rw [readSeparator_absent context sink optional hl, herase]
    cases optional with
    | true => exact ⟨rfl, bs ++ as, [], h.seekEnd, List.append_nil _⟩
    | false => exact Keeps.of_stands h

theorem readScalar_keeps (info : Info) (default : Scalar) (h : c.Stands bs as) :
    ∃ k ≤ 1, Keeps c (readScalar info default context c sink).cursor (bs ++ as.drop k) := by
  cases as with
  | nil =>
    refine ⟨0, Nat.zero_le 1, ?_⟩
    have hread := readScalar_of_none context sink info default h
    rw [hread]
    split
    · rw [write_cursor]
      exact Keeps.of_stands h
    · exact Keeps.of_stands h
  | cons t as =>
    refine ⟨1, Nat.le_refl 1, ?_⟩
    obtain ⟨after, hafter, hblanks, hread⟩ := readScalar_of_token context sink info default h
    rw [hread]
    cases convertScalar default info context t with
    | error e => exact ⟨hblanks, bs, as, hafter, rfl⟩
    | ok value =>
      simp only [write_cursor]
      exact ⟨hblanks, bs, as, hafter, rfl⟩

theorem readProcessed_keeps (info : Info) (insertion : Insertion) (h : c.Stands bs as) :
    ∃ k ≤ 1, Keeps c (readProcessed info insertion context c sink).cursor (bs ++ as.drop k) := by
  cases as with
  | nil =>
    refine ⟨0, Nat.zero_le 1, ?_⟩
    rw [readProcessed_of_none context sink info insertion h]
    exact Keeps.of_stands h
  | cons t as =>
    refine ⟨1, Nat.le_refl 1, ?_⟩
    obtain ⟨after, hafter, hblanks, hread⟩ := readProcessed_of_token context sink info insertion h
    have hcursor : (readProcessed info insertion context c sink).cursor = after := by
      rw [hread]
      cases he : (writeAll after sink (insertion t (Sink.get? sink)).1).error with
      | none => simp [Outcome.andThen, he]
      | some e => simp [Outcome.andThen, he]
    rw [hcursor]
    exact ⟨hblanks, bs, as, hafter, rfl⟩

theorem readVector_keeps (info : Info) (length : Length) (default : Number) (h : c.Stands bs as) :
    Keeps c (readVector info length default context c sink).cursor (bs ++ as) ∨
      ∃ n, resolveLength length sink info.label context = .ok n ∧
        ∃ k ≤ n, Keeps c (readVector info length default context c sink).cursor (bs ++ as.drop k) := by
  cases hcount : resolveLength length sink info.label context with
  | error e =>
    left
    simp only [readVector, hcount]
    exact Keeps.of_stands h
  | ok n =>
    rcases readVector_stands context sink default h hcount with ⟨after, hafter, hblanks, hread⟩ | ⟨-, -, -, hread⟩
    · obtain ⟨k, hk, hleft⟩ := numbersAhead_left context info default.kind n n as
      rw [hleft] at hafter
      refine Or.inr ⟨n, rfl, k, hk, ?_⟩
      rw [hread]
      cases (numbersAhead info default.kind n context n as).2 with
      | error e => exact ⟨hblanks, bs, _, hafter, rfl⟩
      | ok numbers =>
        simp only [write_cursor]
        exact ⟨hblanks, bs, _, hafter, rfl⟩
    · rw [hread]
      exact Or.inl (Keeps.of_stands h)

theorem readSelection_keeps (s : Selection) (h : c.Stands bs as) :
    Keeps c (readSelection s c sink).cursor ((bs ++ as).erase (s.selected (bs ++ as)).token.chars) ∧
      ((readSelection s c sink).error = none →
        (readSelection s c sink).sink.get? s.info.name = some (s.selected (bs ++ as)).value.datum) := by
  have hwritten : ∀ (after : Cursor) (value : Datum), (write after sink s.info.name value).error = none →
      (write after sink s.info.name value).sink.get? s.info.name = some value := by
    intro after value hn
    rcases write_cases after sink s.info.name value with ⟨-, hw⟩ | ⟨written, ha, hw⟩
    · rw [hw] at hn
      simp at hn
    · rw [hw]
      exact Container.get?_of_added ha
  rw [← h.tokens_line, Selection.selected]
  rcases readSelection_stands s c sink with ⟨l, hl, after, hstands, hblanks, hread⟩ | ⟨hnone, hread⟩
  · rw [hread, hl, Option.getD_some, write_cursor]
    refine ⟨⟨hblanks, _, _, hstands, ?_⟩, hwritten after _⟩
    exact around_eq_erase (mem_of_selected? hl).2
  · have habs : s.default.token.chars ∉ tokens c.line := by
      have hfind := List.find?_eq_none.1 hnone s.default s.default_mem
      simpa using hfind
    rw [hread, hnone, Option.getD_none, write_cursor, List.erase_of_not_mem habs, h.tokens_line]
    exact ⟨Keeps.of_stands h, hwritten c _⟩

/-- **A component takes away the tokens of its kind,** and leaves the rest of the line as it is. -/
theorem read_removes {x : Component} (hx : x.isSwitch = false) (h : c.Stands bs as) :
    ∃ left, Keeps c (read context x c sink).cursor left ∧
      x.Removes context sink bs as left (read context x c sink) := by
  cases x with
  | separator label optional description => exact ⟨_, readSeparator_keeps context sink label optional h, rfl⟩
  | scalar info default =>
    obtain ⟨k, hk, hkeeps⟩ := readScalar_keeps context sink info default h
    exact ⟨_, hkeeps, k, hk, rfl⟩
  | processed info insertion =>
    obtain ⟨k, hk, hkeeps⟩ := readProcessed_keeps context sink info insertion h
    exact ⟨_, hkeeps, k, hk, rfl⟩
  | vector info length default =>
    rcases readVector_keeps context sink info length default h with hkeeps | ⟨n, hn, k, hk, hkeeps⟩
    · exact ⟨_, hkeeps, Or.inl rfl⟩
    · exact ⟨_, hkeeps, Or.inr ⟨n, hn, k, hk, rfl⟩⟩
  | selection s =>
    obtain ⟨hkeeps, hheld⟩ := readSelection_keeps sink s h
    exact ⟨_, hkeeps, rfl, hheld⟩
  | switch s key choices => simp [Component.isSwitch] at hx
  | unsupported info kind => exact ⟨_, Keeps.of_stands h, rfl⟩

/-- **A branch keeps the blanks of a line and some of its tokens, in their order.** -/
theorem readAll_keeps {b : List Component} (hb : ∀ x ∈ b, x.isSwitch = false) (h : c.Stands bs as) :
    ∃ left, Keeps c (readAll context b c sink).cursor left ∧ left.Sublist (bs ++ as) := by
  induction b generalizing c bs as sink with
  | nil => exact ⟨_, Keeps.of_stands h, List.Sublist.refl _⟩
  | cons x b ih =>
    obtain ⟨left, hkeeps, hremoves⟩ := read_removes context sink (hb x List.mem_cons_self) h
    cases he : (read context x c sink).error with
    | some e =>
      rw [readAll_cons_of_some he]
      exact ⟨left, hkeeps, hremoves.sublist⟩
    | none =>
      rw [readAll_cons_of_none he]
      obtain ⟨bs', as', hstands, rfl⟩ := hkeeps.stands
      obtain ⟨left', hkeeps', hsub⟩ :=
        ih (read context x c sink).sink (fun y hy => hb y (List.mem_cons_of_mem x hy)) hstands
      exact ⟨left', ⟨hkeeps'.blanks_eq.trans hkeeps.blanks_eq, hkeeps'.stands⟩, hsub.trans hremoves.sublist⟩

end

/-- What the component does to the line, wherever reading comes to it: the blanks are those of the whole line, the
tokens are some of its tokens, and those that the component has taken away are tokens of its kind. -/
structure Conserved (context : Datum) (line : List Char) (x : Component) (start : Outcome Container) : Prop where
  blanks_eq : blanks (read context x start.cursor start.sink).cursor.line = blanks line
  sublist : (tokens (read context x start.cursor start.sink).cursor.line).Sublist (tokens line)
  removes : ∃ bs as, start.cursor.Stands bs as ∧ x.Removes context start.sink bs as
    (tokens (read context x start.cursor start.sink).cursor.line) (read context x start.cursor start.sink)

/-- **Reading a line takes whole tokens away and nothing else.** Every reading goes along a branch; whichever component
of the branch it comes to, and whether that one goes well or fails, the line then has all its blanks and some of its
tokens, and the component has taken away what its kind says. -/
theorem reading_conserves_tokens {cs : List Component} (hw : ∀ x ∈ cs, x.WellFormed) (context : Datum)
    (line : List Char) (sink : Container) :
    ∃ r, Route cs r ∧ LeadsAlong context r (.ofLine line) sink ∧
      readLine context cs line sink = readLine context (r.map Stage.component) line sink ∧
      ∀ done x rest, r.map Stage.component = done ++ x :: rest → (readLine context done line sink).error = none →
        Conserved context line x (readLine context done line sink) := by
  obtain ⟨r, hr, hleads⟩ := exists_leadsAlong_of_each (fun x hx c s => exists_leadsAlong (hw x hx) context c s)
    (.ofLine line) sink
  refine ⟨r, hr, hleads, readAll_of_leadsAlong hr hw hleads, fun done x rest hsplit _ => ?_⟩
  have hplain := hr.isSwitch_eq_false
  rw [hsplit] at hplain
  -- the components before have kept the line, so the cursor stands between tokens again
  obtain ⟨left, hkeeps, hsub⟩ := readAll_keeps context sink
    (fun y hy => hplain y (List.mem_append_left _ hy)) (Cursor.Stands.ofLine line)
  obtain ⟨bs, as, hstands, rfl⟩ := hkeeps.stands
  obtain ⟨left', hkeeps', hremoves⟩ := read_removes context (readLine context done line sink).sink
    (hplain x (List.mem_append_right _ List.mem_cons_self)) hstands
  have htokens := hkeeps'.tokens_eq
  refine ⟨hkeeps'.blanks_eq.trans hkeeps.blanks_eq, ?_, bs, as, hstands, ?_⟩
  · rw [readLine] at htokens ⊢
    rw [htokens]
    exact hremoves.sublist.trans hsub
  · rw [readLine] at htokens ⊢
    rw [htokens]
    exact hremoves

/-- a line on which the second number of a vector inside a switch is none -/
def badVectorLine : List Char :=
  "KINETIC_MODEL  Butler-VolmerReduced NUMSCAL 3 STOICHIOMETRIES 1 x\t2 ConditionID 5 ManifoldConditionID 2".toList

/-- the vector fails at its second token and takes two; the third stays on the line with all the blanks -/
theorem reading_conserves_tokens_badVector :
    (∀ x ∈ Manifold.kinetics.components, x.WellFormed) ∧
      (readLine .null Manifold.kinetics.components badVectorLine Container.empty).error.isSome = true ∧
      tokens (readLine .null Manifold.kinetics.components badVectorLine Container.empty).cursor.line = ["2".toList] ∧
      ∃ r, Route Manifold.kinetics.components r ∧
        ∀ done x rest, r.map Stage.component = done ++ x :: rest →
          (readLine .null done badVectorLine Container.empty).error = none →
          Conserved .null badVectorLine x (readLine .null done badVectorLine Container.empty) := by
  obtain ⟨r, hr, -, -, hconserved⟩ :=
    reading_conserves_tokens Manifold.kinetics_wellFormed .null badVectorLine Container.empty
  exact ⟨Manifold.kinetics_wellFormed, by decide +kernel, by decide +kernel, r, hr, hconserved⟩

end LineGrammar
