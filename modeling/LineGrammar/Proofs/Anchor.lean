/-
Where a cursor stands among the tokens of its line.

A cursor that has read tokens and cut labels out stands between two tokens or at an end of its line (`Cursor.Stands`).
What a component does there is told by the tokens behind the cursor and the tokens ahead of it; the blanks between them
count in one place only: a mandatory field that finds no token may ask whether the line has come to its end.
- `Stands.next`, `Stands.cut`, `Stands.seekEnd`: every move of a cursor leaves it between two tokens.
- `readScalar_of_token`, `readScalar_of_none`, `readProcessed_of_token`, `readProcessed_of_none`: fields of one token.
- `readNumbers_stands`, `readVector_stands`: vectors, which read as `numbersAhead` does.
- `readSelection_stands`, `readSeparator_found`, `readSeparator_absent`: labels and literals.
-/
import LineGrammar.Proofs.Step

namespace LineGrammar

/-- the blanks of a text, in order -/
def blanks (text : List Char) : List Char :=
  text.filter isBlank

/-- a token that is cut out takes no blank with it -/
theorem blanks_of_split {text token before after : List Char} (h : text = before ++ (token ++ after))
    (ht : isToken token = true) : blanks (before ++ after) = blanks text := by
  have hnone : token.filter isBlank = [] := by
    rw [List.filter_eq_nil_iff]
    intro c hc
    simp [(isToken_iff.1 ht).2 c hc]
  simp [blanks, h, hnone]

/-! ## Between two tokens -/

/-- The cursor stands between two tokens of its line, or at one of its ends: these tokens are behind it and ahead. -/
structure Cursor.Stands (c : Cursor) (behind ahead : List (List Char)) : Prop where
  inside : c.position ≤ c.line.length
  apart : atBoundary (c.line.take c.position).reverse = true ∨ atBoundary c.rest = true
  behind_eq : tokens (c.line.take c.position) = behind
  ahead_eq : c.ahead = ahead

namespace Cursor.Stands

variable {c : Cursor} {t : List Char} {bs as : List (List Char)}

theorem ofLine (line : List Char) : (Cursor.ofLine line).Stands [] (tokens line) :=
  ⟨Nat.zero_le _, Or.inl rfl, rfl, rfl⟩

theorem tokens_line (h : c.Stands bs as) : tokens c.line = bs ++ as := by
  have hsplit : tokens (c.line.take c.position ++ c.rest) = tokens (c.line.take c.position) ++ tokens c.rest := by
    rcases h.apart with ha | ha
    · exact tokens_append_of_ends _ ha
    · exact tokens_append ha
  have hline : c.line.take c.position ++ c.rest = c.line := List.take_append_drop c.position c.line
  rw [hline, h.behind_eq] at hsplit
  rw [hsplit, ← h.ahead_eq, Cursor.ahead]

/-- a cursor at the end has no tokens ahead -/
theorem atEnd_eq_false (h : c.Stands bs (t :: as)) : c.atEnd = false := by
  by_contra hend
  have hle : c.line.length ≤ c.position := by simpa [Cursor.atEnd] using hend
  have hahead := h.ahead_eq
  rw [Cursor.ahead, Cursor.rest, List.drop_of_length_le hle] at hahead
  simp [tokens] at hahead

theorem next_of_none (h : c.Stands bs []) : c.next = (none, c) :=
  Cursor.next_of_blank (tokens_eq_nil_iff.1 h.ahead_eq)

/-- **The next token is the first one ahead,** and the cursor stands before the others. -/
theorem next (h : c.Stands bs (t :: as)) :
    ∃ after, c.next = (some t, after) ∧ after.Stands bs as ∧ blanks after.line = blanks c.line := by
  have hahead : tokens c.rest = t :: as := h.ahead_eq
  rcases blank_or_token c.rest with hb | ⟨b, u, r, hsplit, hb, hu, hr⟩
  · rw [tokens_eq_nil_of_blank hb] at hahead
    simp at hahead
  · rw [hsplit, tokens_blank_append _ hb, tokens_token_append hu hr, List.cons.injEq] at hahead
    obtain ⟨rfl, has⟩ := hahead
    have hlen : (c.line.take c.position).length = c.position := by
      have hin := h.inside
      rw [List.length_take]
      omega
    have htake : (c.line.take c.position ++ (b ++ r)).take c.position = c.line.take c.position := List.take_left' hlen
    have hrest : (c.line.take c.position ++ (b ++ r)).drop c.position = b ++ r := List.drop_left' hlen
    have hline : c.line = (c.line.take c.position ++ b) ++ (u ++ r) := by
      rw [List.append_assoc, ← hsplit]
      exact (List.take_append_drop c.position c.line).symm
    refine ⟨_, Cursor.next_of_token hsplit hb hu hr, ⟨?_, ?_, ?_, ?_⟩, ?_⟩
    · simp [hlen]
    · rw [htake, Cursor.rest, hrest]
      refine h.apart.imp_right (fun ha => ?_)
      -- the rest did not begin with the token, so there are blanks before it
      cases b with
      | nil =>
        rw [hsplit, List.nil_append, not_atBoundary_of_isToken hu] at ha
        exact absurd ha (by decide)
      | cons d b => exact hb d List.mem_cons_self
    · rw [htake]
      exact h.behind_eq
    · rw [Cursor.ahead, Cursor.rest, hrest, tokens_blank_append _ hb]
      exact has
    · have hcut := blanks_of_split hline hu
      rwa [List.append_assoc] at hcut

/-- a cursor that goes to the end has all tokens behind it -/
theorem ofEnd (c : Cursor) : c.seekEnd.Stands (tokens c.line) [] := by
  have hrest : c.seekEnd.rest = [] := List.drop_length
  refine ⟨Nat.le_refl _, Or.inr ?_, ?_, ?_⟩
  · rw [hrest]
    rfl
  · exact congrArg tokens List.take_length
  · rw [Cursor.ahead, hrest, tokens]

theorem seekEnd (h : c.Stands bs as) : c.seekEnd.Stands (bs ++ as) [] := by
  rw [← h.tokens_line]
  exact ofEnd c

/-- **A cursor that cuts a label out stands where the label was.** -/
theorem cut {label line before after : List Char} (hl : isToken label = true) (hat : FirstAt label line before after) :
    (⟨before ++ after, before.length⟩ : Cursor).Stands (around label (tokens line)).1 (around label (tokens line)).2 ∧
      blanks (before ++ after) = blanks line := by
  have htake : (before ++ after).take before.length = before := List.take_left
  have hrest : (⟨before ++ after, before.length⟩ : Cursor).rest = after := List.drop_left
  rw [hat.around_eq hl]
  refine ⟨⟨by simp, Or.inl ?_, ?_, ?_⟩, blanks_of_split hat.split hl⟩
  · rw [htake]
    exact hat.starts
  · rw [htake]
  · rw [Cursor.ahead, hrest]

end Cursor.Stands

section

variable {c : Cursor} {bs as : List (List Char)} {t : List Char} (context : Datum) (sink : Container)

/-! ## Fields of one token -/

theorem takeToken_of_token (info : Info) (h : c.Stands bs (t :: as)) :
    ∃ after, takeToken info context c = .ok (some t, after) ∧ after.Stands bs as ∧
      blanks after.line = blanks c.line := by
  obtain ⟨after, hnext, hafter, hblanks⟩ := h.next
  refine ⟨after, ?_, hafter, hblanks⟩
  simp [takeToken, h.atEnd_eq_false, hnext]

/-- a field that finds its token -/
theorem readScalar_of_token (info : Info) (default : Scalar) (h : c.Stands bs (t :: as)) :
    ∃ after, after.Stands bs as ∧ blanks after.line = blanks c.line ∧
      readScalar info default context c sink =
        match convertScalar default info context t with
        | .error e => ⟨after, sink, some e⟩
        | .ok value => write after sink info.name value := by
  obtain ⟨after, htake, hafter, hblanks⟩ := takeToken_of_token context info h
  refine ⟨after, hafter, hblanks, ?_⟩
  cases hv : convertScalar default info context t with
  | error e => simp only [readScalar, htake, hv]
  | ok value => simp only [readScalar, htake, hv]

/-- a field that finds no token -/
theorem readScalar_of_none (info : Info) (default : Scalar) (h : c.Stands bs []) :
    readScalar info default context c sink =
      if info.optional then write c sink info.name default.datum
      else
        ⟨c, sink, some (if c.atEnd then .valueMissing info.label context else missingScalar default info context)⟩ := by
  cases ho : info.optional with
  | true => simp [readScalar, takeToken, ho, h.next_of_none]
  | false => cases hend : c.atEnd <;> simp [readScalar, takeToken, ho, hend, h.next_of_none]

theorem readProcessed_of_token (info : Info) (insertion : Insertion) (h : c.Stands bs (t :: as)) :
    ∃ after, after.Stands bs as ∧ blanks after.line = blanks c.line ∧
      readProcessed info insertion context c sink =
        (writeAll after sink (insertion t (Sink.get? sink)).1).andThen
          (fun c s => ⟨c, s, (insertion t (Sink.get? sink)).2⟩) := by
  obtain ⟨after, htake, hafter, hblanks⟩ := takeToken_of_token context info h
  refine ⟨after, hafter, hblanks, ?_⟩
  simp only [readProcessed, htake]

theorem readProcessed_of_none (info : Info) (insertion : Insertion) (h : c.Stands bs []) :
    readProcessed info insertion context c sink =
      ⟨c, sink, if info.optional then none else some (.valueMissing info.label context)⟩ := by
  cases ho : info.optional with
  | true => simp [readProcessed, takeToken, ho, h.next_of_none]
  | false => cases hend : c.atEnd <;> simp [readProcessed, takeToken, ho, hend, h.next_of_none]

/-! ## Vectors -/

/-- the numbers of a vector as the tokens ahead give them, and the tokens that are left -/
def numbersAhead (info : Info) (kind : NumberKind) (expected : Nat) (context : Datum) :
    Nat → List (List Char) → List (List Char) × Except ReadError (List Datum)
  | 0, ts => (ts, .ok [])
  | _ + 1, [] => ([], if info.optional then .ok [] else .error (.numberMissing info.label context (.int expected)))
  | count + 1, t :: ts =>
    match convert kind t info.label context (.int expected) info.optional with
    | .error e => (ts, .error e)
    | .ok n =>
      let (left, numbers) := numbersAhead info kind expected context count ts
      (left, numbers.map (n.datum :: ·))

/-- **Reading numbers reads the tokens ahead.** -/
theorem readNumbers_stands (info : Info) (kind : NumberKind) (expected count : Nat) (h : c.Stands bs as) :
    ∃ after, readNumbers info kind expected context count c =
        (after, (numbersAhead info kind expected context count as).2) ∧
      after.Stands bs (numbersAhead info kind expected context count as).1 ∧ blanks after.line = blanks c.line := by
  induction count generalizing c as with
  | zero => exact ⟨c, rfl, h, rfl⟩
  | succ count ih =>
    cases as with
    | nil => exact ⟨c, by simp only [readNumbers, h.next_of_none, numbersAhead], h, rfl⟩
    | cons t as =>
      obtain ⟨between, hnext, hbetween, hblanks⟩ := h.next
      cases hc : convert kind t info.label context (.int expected) info.optional with
      | error e =>
        refine ⟨between, ?_, ?_, hblanks⟩
        · simp only [readNumbers, hnext, hc, numbersAhead]
        · simpa only [numbersAhead, hc] using hbetween
      | ok n =>
        obtain ⟨after, hrest, hafter, hblanks'⟩ := ih hbetween
        refine ⟨after, ?_, ?_, hblanks'.trans hblanks⟩
        · simp only [readNumbers, hnext, hc, numbersAhead, hrest]
        · simpa only [numbersAhead, hc] using hafter

/-- numbers are read from the front, one token each -/
theorem numbersAhead_left (info : Info) (kind : NumberKind) (expected count : Nat) (ts : List (List Char)) :
    ∃ k ≤ count, (numbersAhead info kind expected context count ts).1 = ts.drop k := by
  induction count generalizing ts with
  | zero => exact ⟨0, Nat.le_refl 0, rfl⟩
  | succ count ih =>
    cases ts with
    | nil => exact ⟨0, Nat.zero_le _, rfl⟩
    | cons t ts =>
      cases hc : convert kind t info.label context (.int expected) info.optional with
      | error e => exact ⟨1, by omega, by simp only [numbersAhead, hc, List.drop_succ_cons, List.drop_zero]⟩
      | ok n =>
        obtain ⟨k, hk, hleft⟩ := ih ts
        exact ⟨k + 1, by omega, by simp only [numbersAhead, hc, hleft, List.drop_succ_cons]⟩

/-- where no token is ahead none is left -/
theorem numbersAhead_nil (info : Info) (kind : NumberKind) (expected count : Nat) :
    (numbersAhead info kind expected context count []).1 = [] := by
  cases count <;> rfl

/-- where no token is ahead the first mandatory number is missing -/
theorem numbersAhead_lacking {info : Info} (ho : info.optional = false) (kind : NumberKind) (expected : Nat)
    {count : Nat} (hcount : count ≠ 0) : numbersAhead info kind expected context count [] =
      ([], .error (.numberMissing info.label context (.int expected))) := by
  obtain ⟨k, rfl⟩ := Nat.exists_eq_succ_of_ne_zero hcount
  simp [numbersAhead, ho]

/-- a vector whose length is known -/
theorem readVector_stands {info : Info} {length : Length} (default : Number) {count : Nat} (h : c.Stands bs as)
    (hcount : resolveLength length sink info.label context = .ok count) :
    (∃ after, after.Stands bs (numbersAhead info default.kind count context count as).1 ∧
      blanks after.line = blanks c.line ∧
      readVector info length default context c sink =
        match (numbersAhead info default.kind count context count as).2 with
        | .error e => ⟨after, sink, some e⟩
        | .ok numbers => write after sink info.name (fillUp count default numbers)) ∨
      (as = [] ∧ count ≠ 0 ∧ info.optional = false ∧
        readVector info length default context c sink = ⟨c, sink, some (.valueMissing info.label context)⟩) := by
  have hadmits : Sink.admits sink count = true := rfl
  cases hlack : (count != 0 && c.atEnd && !info.optional) with
  | true =>
    have hlack' := hlack
    simp only [Bool.and_eq_true, bne_iff_ne, Bool.not_eq_true'] at hlack'
    refine Or.inr ⟨?_, hlack'.1.1, hlack'.2, ?_⟩
    · cases as with
      | nil => rfl
      | cons t as => exact absurd hlack'.1.2 (by simp [h.atEnd_eq_false])
    · simp only [readVector, hcount, hadmits, hlack, Bool.not_true, Bool.false_eq_true, if_false, if_true]
  | false =>
    obtain ⟨after, hread, hafter, hblanks⟩ := readNumbers_stands context info default.kind count count h
    refine Or.inl ⟨after, hafter, hblanks, ?_⟩
    simp only [readVector, hcount, hadmits, hlack, Bool.not_true, Bool.false_eq_true, if_false, hread]
    cases (numbersAhead info default.kind count context count as).2 <;> rfl

/-! ## Labels and literals -/

/-- a separator whose label is on the line -/
theorem readSeparator_found {label : Token} (optional : Bool) (hl : label.chars ∈ tokens c.line) :
    ∃ after : Cursor, after.Stands (around label.chars (tokens c.line)).1 (around label.chars (tokens c.line)).2 ∧
      blanks after.line = blanks c.line ∧ readSeparator label optional context c sink = ⟨after, sink, none⟩ := by
  rcases readSeparator_cases label optional context c sink with ⟨before, after, hat, h⟩ | ⟨habs, -⟩
  · obtain ⟨hstands, hblanks⟩ := Cursor.Stands.cut (isToken_chars label) hat
    exact ⟨_, hstands, hblanks, h⟩
  · exact absurd hl habs

/-- a separator whose label is not on the line -/
theorem readSeparator_absent {label : Token} (optional : Bool) (hl : label.chars ∉ tokens c.line) :
    readSeparator label optional context c sink =
      if optional then ⟨c.seekEnd, sink, none⟩
      else ⟨c, sink, some (.labelMissing label.text (.text label.text) context)⟩ := by
  rcases readSeparator_cases label optional context c sink with ⟨before, after, hat, -⟩ | ⟨-, h⟩
  · refine absurd ?_ hl
    rw [hat.tokens_eq (isToken_chars label)]
    simp
  · exact h

/-- the literal that a selection reads where these tokens are left: the first one declared that is among them -/
def Selection.selected? (s : Selection) (ts : List (List Char)) : Option Literal :=
  s.literals.find? (fun l => ts.contains l.token.chars)

theorem map_fst_findLiteral? (s : Selection) (c : Cursor) :
    (findLiteral? s c).map Prod.fst = s.selected? (tokens c.line) := by
  unfold findLiteral? Selection.selected?
  induction s.literals with
  | nil => rfl
  | cons l ls ih =>
    rw [List.findSome?_cons, List.find?_cons]
    cases hk : c.find? l.token.chars with
    | none =>
      have habs := (labelOffset?_eq_none_iff (isToken_chars l.token) c.line).1 hk
      have hnot : (tokens c.line).contains l.token.chars = false := by simpa using habs
      rw [hnot]
      exact ih
    | some k =>
      have hmem : l.token.chars ∈ tokens c.line := by
        by_contra habs
        have hnone := (labelOffset?_eq_none_iff (isToken_chars l.token) c.line).2 habs
        rw [Cursor.find?, hnone] at hk
        simp at hk
      simp [hmem]

/-- **A selection cuts out the first of its declared literals that is on the line, or writes its default.** -/
theorem readSelection_selected (s : Selection) (c : Cursor) (sink : Container) :
    (∃ l before after, s.selected? (tokens c.line) = some l ∧ FirstAt l.token.chars c.line before after ∧
      readSelection s c sink = write ⟨before ++ after, before.length⟩ sink s.info.name l.value.datum) ∨
      (s.selected? (tokens c.line) = none ∧
        readSelection s c sink = write c sink s.info.name s.default.value.datum) := by
  have hfst := map_fst_findLiteral? s c
  rcases findLiteral?_cases s c with ⟨l, -, before, after, hat, hf⟩ | ⟨hf, -⟩
  · refine Or.inl ⟨l, before, after, by rw [← hfst, hf]; rfl, hat, ?_⟩
    simp only [readSelection, hf, Cursor.removeAt_of_split hat.split]
  · refine Or.inr ⟨by rw [← hfst, hf]; rfl, ?_⟩
    simp only [readSelection, hf]

/-- where the cursor stands when the literal is cut out -/
theorem readSelection_stands (s : Selection) (c : Cursor) (sink : Container) :
    (∃ l, s.selected? (tokens c.line) = some l ∧ ∃ after : Cursor,
      after.Stands (around l.token.chars (tokens c.line)).1 (around l.token.chars (tokens c.line)).2 ∧
        blanks after.line = blanks c.line ∧ readSelection s c sink = write after sink s.info.name l.value.datum) ∨
      (s.selected? (tokens c.line) = none ∧
        readSelection s c sink = write c sink s.info.name s.default.value.datum) := by
  rcases readSelection_selected s c sink with ⟨l, before, after, hl, hat, h⟩ | habsent
  · obtain ⟨hstands, hblanks⟩ := Cursor.Stands.cut (isToken_chars l.token) hat
    exact Or.inl ⟨l, hl, _, hstands, hblanks, h⟩
  · exact Or.inr habsent

theorem mem_of_selected? {s : Selection} {ts : List (List Char)} {l : Literal} (h : s.selected? ts = some l) :
    l ∈ s.literals ∧ l.token.chars ∈ ts := by
  refine ⟨List.mem_of_find?_eq_some h, ?_⟩
  simpa using List.find?_some h

end

end LineGrammar
