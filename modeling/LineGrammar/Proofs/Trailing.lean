/-
Tokens at the end of a line that nobody looks for.

A label and the literals of a selection are looked for on the whole line; values are taken from after the cursor, as
many as are asked for. So tokens at the end of a line that are no label and no literal of the grammar are not touched by
a reading that goes well without them, unless a value may be left out: an optional field would take them. Both readings
go side by side (`Extended`): the further tokens are ahead of the second cursor, behind all that the first one has ahead,
or both cursors are at the end of their lines.
- `Component.sought`: what a component looks for.
- `read_prolonged`: the step, one case for each kind of component.
- `readAll_prolonged`: the run, by induction on the branch.
- `trailing_tokens_are_left`: whole lines.
-/
import LineGrammar.Proofs.Absent
import LineGrammar.Proofs.Literals

namespace LineGrammar

/-- the tokens that a component looks for on the whole line: its label, or the literals of its choices -/
def Component.sought : Component → List (List Char)
  | .separator label _ _ => [label.chars]
  | .selection s | .switch s _ _ => s.literals.map (fun l => l.token.chars)
  | _ => []

/-- what a component is on a route looks for the same tokens -/
theorem Component.StandsAs.sought_eq {y : Component} {stage : Stage} (h : y.StandsAs stage) :
    stage.component.sought = y.sought := by
  cases h with
  | plain => rfl
  | chosen => rfl

/-- and takes tokens from after the cursor only if the component itself does, for a discriminator takes none -/
theorem Component.StandsAs.mandatory {y : Component} {stage : Stage} (h : y.StandsAs stage)
    (hy : y.takesTokens = true → y.optional = false) :
    stage.component.takesTokens = true → stage.component.optional = false := by
  cases h with
  | plain => exact hy
  | chosen => nofun

/-! ## Two cursors side by side -/

/-- The second cursor stands where the first one does, on a line with `extra` tokens more at its end: they are ahead of
it, or both cursors are at the end. -/
inductive Extended (extra : List (List Char)) (c₁ c₂ : Cursor) : Prop where
  | ahead (bs as : List (List Char)) (h₁ : c₁.Stands bs as) (h₂ : c₂.Stands bs (as ++ extra))
  | behind (bs : List (List Char)) (h₁ : c₁.Stands bs []) (h₂ : c₂.Stands (bs ++ extra) [])

/-- the second outcome is a good one with the same sink, and the extra tokens are still there -/
structure Prolonged (extra : List (List Char)) (o₁ o₂ : Outcome Container) : Prop where
  fine : o₂.error = none
  sink_eq : o₂.sink = o₁.sink
  cursors : Extended extra o₁.cursor o₂.cursor

theorem Extended.tokens_line {extra : List (List Char)} {c₁ c₂ : Cursor} (h : Extended extra c₁ c₂) :
    tokens c₂.line = tokens c₁.line ++ extra := by
  cases h with
  | ahead bs as h₁ h₂ => rw [h₁.tokens_line, h₂.tokens_line, List.append_assoc]
  | behind bs h₁ h₂ => rw [h₁.tokens_line, h₂.tokens_line, List.append_nil, List.append_nil]

/-- where the first cursor has a token ahead, the second one has the same token ahead -/
theorem Extended.token_ahead {extra : List (List Char)} {c₁ c₂ : Cursor} (h : Extended extra c₁ c₂)
    (hstuck : ∀ bs, ¬ c₁.Stands bs []) :
    ∃ bs t as, c₁.Stands bs (t :: as) ∧ c₂.Stands bs (t :: (as ++ extra)) := by
  cases h with
  | behind bs h₁ h₂ => exact absurd h₁ (hstuck bs)
  | ahead bs as h₁ h₂ =>
    cases as with
    | nil => exact absurd h₁ (hstuck bs)
    | cons t as => exact ⟨bs, t, as, h₁, h₂⟩

/-- further tokens behind the others do not move the place of a label -/
theorem around_prolonged {label : List Char} {ts : List (List Char)} (h : label ∈ ts) (extra : List (List Char)) :
    around label (ts ++ extra) = ((around label ts).1, (around label ts).2 ++ extra) := by
  obtain ⟨a, b, ha, rfl, -⟩ := List.exists_erase_eq h
  rw [List.append_assoc, List.cons_append, around_append _ ha, around_append _ ha]

/-- further tokens that are no literals of a selection do not change what it selects -/
theorem selected?_prolonged {s : Selection} {extra : List (List Char)} (ts : List (List Char))
    (h : ∀ l ∈ s.literals, l.token.chars ∉ extra) : s.selected? (ts ++ extra) = s.selected? ts := by
  cases hl : s.selected? ts with
  | none =>
    rw [selected?_eq_none_iff] at hl ⊢
    intro l hm
    rw [List.mem_append, not_or]
    exact ⟨hl l hm, h l hm⟩
  | some l =>
    obtain ⟨hmem, done, rest, hsplit, hdone⟩ := selected?_eq_some_iff.1 hl
    refine selected?_eq_some_iff.2 ⟨List.mem_append_left _ hmem, done, rest, hsplit, fun k hk => ?_⟩
    rw [List.mem_append, not_or]
    refine ⟨hdone k hk, h k ?_⟩
    rw [hsplit]
    exact List.mem_append_left _ hk

/-- a row of mandatory numbers that are there takes nothing of what comes behind them -/
theorem numbersAhead_prolonged {info : Info} (ho : info.optional = false) {kind : NumberKind} {expected : Nat}
    {context : Datum} {count : Nat} {as : List (List Char)} {numbers : List Datum} (extra : List (List Char))
    (h : (numbersAhead info kind expected context count as).2 = .ok numbers) :
    numbersAhead info kind expected context count (as ++ extra) =
      ((numbersAhead info kind expected context count as).1 ++ extra, .ok numbers) := by
  induction count generalizing as numbers with
  | zero =>
    cases h
    rfl
  | succ count ih =>
    cases as with
    | nil => simp [numbersAhead, ho] at h
    | cons t as =>
      cases hc : convert kind t info.label context (.int expected) info.optional with
      | error e => simp [numbersAhead, hc] at h
      | ok n =>
        cases hr : (numbersAhead info kind expected context count as).2 with
        | error e => simp [numbersAhead, hc, hr, Except.map] at h
        | ok more =>
          have hnumbers : n.datum :: more = numbers := by simpa [numbersAhead, hc, hr, Except.map] using h
          rw [List.cons_append]
          simp only [numbersAhead, hc, ih hr, Except.map, hnumbers]

section

variable {extra : List (List Char)} {c₁ c₂ : Cursor} {context : Datum} {sink : Container}

theorem write_prolonged {name : String} {value : Datum} (h : Extended extra c₁ c₂)
    (hfine : (write c₁ sink name value).error = none) :
    Prolonged extra (write c₁ sink name value) (write c₂ sink name value) := by
  rw [write_apart c₂ c₁]
  refine ⟨hfine, rfl, ?_⟩
  rw [write_cursor]
  exact h

/-! ## One component -/

theorem readSeparator_prolonged {label : Token} {optional : Bool} (h : Extended extra c₁ c₂)
    (hsought : label.chars ∉ extra) (hfine : (readSeparator label optional context c₁ sink).error = none) :
    Prolonged extra (readSeparator label optional context c₁ sink) (readSeparator label optional context c₂ sink) := by
  have hline := h.tokens_line
  by_cases hl : label.chars ∈ tokens c₁.line
  · have hl₂ : label.chars ∈ tokens c₂.line := by
      rw [hline]
      exact List.mem_append_left _ hl
    obtain ⟨after₁, hs₁, -, hr₁⟩ := readSeparator_found context sink optional hl
    obtain ⟨after₂, hs₂, -, hr₂⟩ := readSeparator_found context sink optional hl₂
    rw [hline, around_prolonged hl] at hs₂
    rw [hr₁, hr₂]
    exact ⟨rfl, rfl, .ahead _ _ hs₁ hs₂⟩
  · have hl₂ : label.chars ∉ tokens c₂.line := by
      rw [hline, List.mem_append, not_or]
      exact ⟨hl, hsought⟩
    rw [readSeparator_absent context sink optional hl] at hfine ⊢
    rw [readSeparator_absent context sink optional hl₂]
    cases optional with
    | false => cases hfine
    | true =>
      have hend := Cursor.Stands.ofEnd c₂
      rw [hline] at hend
      exact ⟨rfl, rfl, .behind _ (Cursor.Stands.ofEnd c₁) hend⟩

theorem readSelection_prolonged {s : Selection} (h : Extended extra c₁ c₂)
    (hsought : ∀ l ∈ s.literals, l.token.chars ∉ extra) (hfine : (readSelection s c₁ sink).error = none) :
    Prolonged extra (readSelection s c₁ sink) (readSelection s c₂ sink) := by
  have hline := h.tokens_line
  have hselected : s.selected? (tokens c₂.line) = s.selected? (tokens c₁.line) := by
    rw [hline]
    exact selected?_prolonged _ hsought
  rcases readSelection_stands s c₁ sink with ⟨l₁, hl₁, after₁, hs₁, -, hr₁⟩ | ⟨hl₁, hr₁⟩ <;>
    rcases readSelection_stands s c₂ sink with ⟨l₂, hl₂, after₂, hs₂, -, hr₂⟩ | ⟨hl₂, hr₂⟩ <;>
    rw [hselected, hl₁] at hl₂ <;> cases hl₂ <;> rw [hr₁] at hfine ⊢ <;> rw [hr₂]
  · rw [hline, around_prolonged (mem_of_selected? hl₁).2] at hs₂
    exact write_prolonged (.ahead _ _ hs₁ hs₂) hfine
  · exact write_prolonged h hfine

theorem readScalar_prolonged {info : Info} {default : Scalar} (ho : info.optional = false)
    (h : Extended extra c₁ c₂) (hfine : (readScalar info default context c₁ sink).error = none) :
    Prolonged extra (readScalar info default context c₁ sink) (readScalar info default context c₂ sink) := by
  -- without a token the shorter reading fails
  have hstuck : ∀ bs, ¬ c₁.Stands bs [] := by
    intro bs h₁
    rw [readScalar_of_none context sink info default h₁, ho, if_neg Bool.false_ne_true] at hfine
    cases hfine
  obtain ⟨bs, t, as, h₁, h₂⟩ := h.token_ahead hstuck
  obtain ⟨after₁, hs₁, -, hr₁⟩ := readScalar_of_token context sink info default h₁
  obtain ⟨after₂, hs₂, -, hr₂⟩ := readScalar_of_token context sink info default h₂
  rw [hr₁] at hfine ⊢
  rw [hr₂]
  cases hv : convertScalar default info context t with
  | error e =>
    rw [hv] at hfine
    cases hfine
  | ok value =>
    rw [hv] at hfine
    exact write_prolonged (.ahead bs as hs₁ hs₂) hfine

/-- a vector that goes well finds its numbers ahead -/
theorem numbersAhead_of_fine {info : Info} {length : Length} {default : Number} {count : Nat}
    {bs as : List (List Char)} (h : c₁.Stands bs as) (hcount : resolveLength length sink info.label context = .ok count)
    (hfine : (readVector info length default context c₁ sink).error = none) :
    ∃ numbers, (numbersAhead info default.kind count context count as).2 = .ok numbers := by
  rcases readVector_stands context sink default h hcount with ⟨after, -, -, hread⟩ | ⟨-, -, -, hread⟩
  · cases hn : (numbersAhead info default.kind count context count as).2 with
    | ok numbers => exact ⟨numbers, rfl⟩
    | error e =>
      rw [hread, hn] at hfine
      cases hfine
  · rw [hread] at hfine
    cases hfine

/-- a mandatory vector whose numbers are ahead takes them -/
theorem readVector_of_numbersAhead {info : Info} {length : Length} {default : Number} {count : Nat}
    {bs as : List (List Char)} {numbers : List Datum} (ho : info.optional = false) (h : c₁.Stands bs as)
    (hcount : resolveLength length sink info.label context = .ok count)
    (hn : (numbersAhead info default.kind count context count as).2 = .ok numbers) :
    ∃ after : Cursor, after.Stands bs (numbersAhead info default.kind count context count as).1 ∧
      readVector info length default context c₁ sink = write after sink info.name (fillUp count default numbers) := by
  rcases readVector_stands context sink default h hcount with ⟨after, hafter, -, hread⟩ | ⟨rfl, hne, -, -⟩
  · rw [hn] at hread
    exact ⟨after, hafter, hread⟩
  · rw [numbersAhead_lacking context ho default.kind count hne] at hn
    cases hn

theorem readVector_prolonged {info : Info} {length : Length} {default : Number} (ho : info.optional = false)
    (h : Extended extra c₁ c₂) (hfine : (readVector info length default context c₁ sink).error = none) :
    Prolonged extra (readVector info length default context c₁ sink)
      (readVector info length default context c₂ sink) := by
  cases hcount : resolveLength length sink info.label context with
  | error e =>
    simp only [readVector, hcount] at hfine
    cases hfine
  | ok count =>
    cases h with
    | ahead bs as h₁ h₂ =>
      obtain ⟨numbers, hn⟩ := numbersAhead_of_fine h₁ hcount hfine
      have hlonger := numbersAhead_prolonged ho extra hn
      obtain ⟨after₁, hs₁, hr₁⟩ := readVector_of_numbersAhead ho h₁ hcount hn
      obtain ⟨after₂, hs₂, hr₂⟩ := readVector_of_numbersAhead ho h₂ hcount (congrArg Prod.snd hlonger)
      rw [hlonger] at hs₂
      rw [hr₁] at hfine ⊢
      rw [hr₂]
      exact write_prolonged (.ahead bs _ hs₁ hs₂) hfine
    | behind bs h₁ h₂ =>
      obtain ⟨numbers, hn⟩ := numbersAhead_of_fine h₁ hcount hfine
      obtain ⟨after₁, hs₁, hr₁⟩ := readVector_of_numbersAhead ho h₁ hcount hn
      obtain ⟨after₂, hs₂, hr₂⟩ := readVector_of_numbersAhead ho h₂ hcount hn
      rw [numbersAhead_nil] at hs₁ hs₂
      rw [hr₁] at hfine ⊢
      rw [hr₂]
      exact write_prolonged (.behind bs hs₁ hs₂) hfine

theorem readProcessed_prolonged {info : Info} {insertion : Insertion} (ho : info.optional = false)
    (h : Extended extra c₁ c₂) (hfine : (readProcessed info insertion context c₁ sink).error = none) :
    Prolonged extra (readProcessed info insertion context c₁ sink)
      (readProcessed info insertion context c₂ sink) := by
  have hstuck : ∀ bs, ¬ c₁.Stands bs [] := by
    intro bs h₁
    rw [readProcessed_of_none context sink info insertion h₁, ho, if_neg Bool.false_ne_true] at hfine
    cases hfine
  obtain ⟨bs, t, as, h₁, h₂⟩ := h.token_ahead hstuck
  obtain ⟨after₁, hs₁, -, hr₁⟩ := readProcessed_of_token context sink info insertion h₁
  obtain ⟨after₂, hs₂, -, hr₂⟩ := readProcessed_of_token context sink info insertion h₂
  rw [hr₁] at hfine ⊢
  rw [hr₂, writeAll_apart after₂ after₁]
  obtain ⟨hwritten, hdone⟩ := Outcome.andThen_of_fine hfine
  rw [hdone] at hfine ⊢
  have hwritten₂ : ({ writeAll after₁ sink (insertion t (Sink.get? sink)).1 with cursor := after₂ } :
      Outcome Container).error = none := hwritten
  rw [Outcome.andThen_of_none hwritten₂, writeAll_cursor]
  exact ⟨hfine, rfl, .ahead bs as hs₁ hs₂⟩

/-- **A component that finds what it needs does not touch the tokens behind,** if it does not look for them. -/
theorem read_prolonged {x : Component} (hx : x.isSwitch = false)
    (hmandatory : x.takesTokens = true → x.optional = false) (hsought : ∀ t ∈ extra, t ∉ x.sought)
    (h : Extended extra c₁ c₂) (hfine : (read context x c₁ sink).error = none) :
    Prolonged extra (read context x c₁ sink) (read context x c₂ sink) := by
  cases x with
  | separator label optional description =>
    exact readSeparator_prolonged h (fun hm => hsought _ hm (List.mem_singleton_self _)) hfine
  | scalar info default => exact readScalar_prolonged (hmandatory rfl) h hfine
  | vector info length default => exact readVector_prolonged (hmandatory rfl) h hfine
  | selection s =>
    exact readSelection_prolonged h (fun l hl hm => hsought _ hm (List.mem_map_of_mem hl)) hfine
  | switch s key choices => simp [Component.isSwitch] at hx
  | processed info insertion => exact readProcessed_prolonged (hmandatory rfl) h hfine
  | unsupported info kind => cases hfine

end

/-! ## Whole lines -/

/-- **A branch that is read without the further tokens is read with them,** and leaves them where they were. -/
theorem readAll_prolonged {b : List Component} {extra : List (List Char)} (hb : ∀ x ∈ b, x.isSwitch = false)
    (hmandatory : ∀ x ∈ b, x.takesTokens = true → x.optional = false) (hsought : ∀ x ∈ b, ∀ t ∈ extra, t ∉ x.sought)
    {context : Datum} {c₁ c₂ : Cursor} {sink : Container} (h : Extended extra c₁ c₂)
    (hfine : (readAll context b c₁ sink).error = none) :
    Prolonged extra (readAll context b c₁ sink) (readAll context b c₂ sink) := by
  induction b generalizing c₁ c₂ sink with
  | nil => exact ⟨rfl, rfl, h⟩
  | cons x b ih =>
    obtain ⟨hx, hb⟩ := List.forall_mem_cons.1 hb
    obtain ⟨hxm, hmandatory⟩ := List.forall_mem_cons.1 hmandatory
    obtain ⟨hxs, hsought⟩ := List.forall_mem_cons.1 hsought
    rw [readAll] at hfine
    obtain ⟨hfirst, hrest⟩ := Outcome.andThen_of_fine hfine
    rw [hrest] at hfine
    obtain ⟨hfirst₂, hsink, hcursors⟩ := read_prolonged hx hxm hxs h hfirst
    rw [readAll_cons_of_none hfirst, readAll_cons_of_none hfirst₂, hsink]
    exact ih hb hmandatory hsought hcursors hfine

theorem tokens_append_joinTokens (line : List Char) (extra : List Token) :
    tokens (line ++ ' ' :: joinTokens (extra.map Token.chars)) = tokens line ++ extra.map Token.chars := by
  have hextra : ∀ t ∈ extra.map Token.chars, isToken t = true := by
    intro t ht
    obtain ⟨token, -, rfl⟩ := List.mem_map.1 ht
    exact isToken_chars token
  rw [tokens_append rfl, tokens_cons_blank _ rfl, tokens_joinTokens hextra]

/-- **Unknown tokens at the end of a line are left there.** Where no value may be left out, a line that is read is also
read with further tokens behind it, unless one of them is a label or a literal of the grammar: the same entries are
stored, and the tokens that are left are those that were left before and the further ones behind them. -/
theorem trailing_tokens_are_left {cs : List Component} (hw : ∀ x ∈ cs, x.WellFormed)
    (hmandatory : ∀ x ∈ everyComponentOfAll cs, x.takesTokens = true → x.optional = false) {extra : List Token}
    (hunknown : ∀ t ∈ extra, ∀ x ∈ everyComponentOfAll cs, t.chars ∉ x.sought) (context : Datum) {line : List Char}
    {sink : Container} (hfine : (readLine context cs line sink).error = none) :
    (readLine context cs (line ++ ' ' :: joinTokens (extra.map Token.chars)) sink).error = none ∧
      (readLine context cs (line ++ ' ' :: joinTokens (extra.map Token.chars)) sink).sink =
        (readLine context cs line sink).sink ∧
      tokens (readLine context cs (line ++ ' ' :: joinTokens (extra.map Token.chars)) sink).cursor.line =
        tokens (readLine context cs line sink).cursor.line ++ extra.map Token.chars := by
  obtain ⟨r, hr⟩ := exists_follows_all hw context (.ofLine line) sink
  have hcursors : Extended (extra.map Token.chars) (.ofLine line)
      (.ofLine (line ++ ' ' :: joinTokens (extra.map Token.chars))) := by
    refine .ahead [] (tokens line) (Cursor.Stands.ofLine line) ?_
    rw [← tokens_append_joinTokens]
    exact Cursor.Stands.ofLine _
  have hstage : ∀ x ∈ r.map Stage.component, (x.takesTokens = true → x.optional = false) ∧
      ∀ t ∈ extra.map Token.chars, t ∉ x.sought := by
    intro x hx
    obtain ⟨stage, hs, rfl⟩ := List.mem_map.1 hx
    obtain ⟨y, hy, hstands⟩ := hr.route.exists_standsAs hs
    refine ⟨hstands.mandatory (hmandatory y hy), fun t ht => ?_⟩
    obtain ⟨token, htoken, rfl⟩ := List.mem_map.1 ht
    rw [hstands.sought_eq]
    exact hunknown token htoken y hy
  have hagrees : readLine context cs line sink = readAll context (r.map Stage.component) (.ofLine line) sink :=
    hr.agrees
  have htells : Tells (readLine context cs line sink).sink r := hr.tells hfine
  rw [hagrees] at hfine htells
  obtain ⟨hlonger, hsink, hends⟩ := readAll_prolonged hr.route.isSwitch_eq_false (fun x hx => (hstage x hx).1)
    (fun x hx => (hstage x hx).2) hcursors hfine
  -- the longer reading makes the same choices, for it leaves the same keys
  have hlong : readLine context cs (line ++ ' ' :: joinTokens (extra.map Token.chars)) sink =
      readAll context (r.map Stage.component) (.ofLine (line ++ ' ' :: joinTokens (extra.map Token.chars))) sink := by
    exact readAll_eq_of_tells hr.route hw context _ sink (hsink ▸ List.prefix_rfl) htells
  rw [hlong, hagrees]
  exact ⟨hlonger, hsink, hends.tokens_line⟩

/-- a line of the kinetics that is read; two numbers of a vector are its last tokens -/
def resistanceLine : List Char :=
  "ConditionID 5 ManifoldConditionID 2 KINETIC_MODEL ConstantInterfaceResistance RESISTANCE 1 E- 0 ONOFF 1 1".toList

/-- tokens that are no labels and no literals of the kinetics; the first one is a number -/
def unknownTokens : List Token :=
  [Manifold.token "7" rfl, Manifold.token "TAG" rfl]

/-- the number is not taken for one of the vector, and both tokens are left -/
theorem trailing_tokens_are_left_resistance :
    (∀ x ∈ Manifold.kinetics.components, x.WellFormed) ∧
      (∀ x ∈ everyComponentOfAll Manifold.kinetics.components, x.takesTokens = true → x.optional = false) ∧
      (∀ t ∈ unknownTokens, ∀ x ∈ everyComponentOfAll Manifold.kinetics.components, t.chars ∉ x.sought) ∧
      (readLine .null Manifold.kinetics.components resistanceLine Container.empty).error = none ∧
      (readLine .null Manifold.kinetics.components
        (resistanceLine ++ ' ' :: joinTokens (unknownTokens.map Token.chars)) Container.empty).error = none ∧
      tokens (readLine .null Manifold.kinetics.components
        (resistanceLine ++ ' ' :: joinTokens (unknownTokens.map Token.chars)) Container.empty).cursor.line =
          ["7".toList, "TAG".toList] := by
  have hmandatory : ∀ x ∈ everyComponentOfAll Manifold.kinetics.components,
      x.takesTokens = true → x.optional = false := by decide +kernel
  have hunknown : ∀ t ∈ unknownTokens, ∀ x ∈ everyComponentOfAll Manifold.kinetics.components,
      t.chars ∉ x.sought := by decide +kernel
  have hfine : (readLine .null Manifold.kinetics.components resistanceLine Container.empty).error = none := by
    decide +kernel
  have hleft : tokens (readLine .null Manifold.kinetics.components resistanceLine Container.empty).cursor.line = [] := by
    decide +kernel
  obtain ⟨hlonger, -, htokens⟩ := trailing_tokens_are_left Manifold.kinetics_wellFormed hmandatory hunknown .null hfine
  rw [hleft] at htokens
  exact ⟨Manifold.kinetics_wellFormed, hmandatory, hunknown, hfine, hlonger, htokens⟩

end LineGrammar
