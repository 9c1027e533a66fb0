/-
Blanks between tokens do not count.

Two lines with the same tokens are read alike, however the tokens are set apart: the same entries are written, the same
tokens are left, and both readings go well or fail at the same component for the same reason. In one case the reason is
worded in two ways: where no token is left for a mandatory number, a line that ends there lacks a value, and a line that
goes on with blanks lacks a number (`SameFault`).
- `read_alike`: the step, for two cursors between the same tokens.
- `readAll_alike`: the run along one branch, by induction on it.
- `leadsAlong_alike`: both readings make the same choices.
- `reading_ignores_spacing`: whole lines.
-/
import LineGrammar.Proofs.Conservation

namespace LineGrammar

/-- whether a component is a number, or a vector of them, that has to be on the line -/
def Component.needsNumber : Component → Bool
  | .scalar info (.number _) | .vector info _ _ => !info.optional
  | _ => false

/-- Two reasons to fail at a component are the same, or they are the two ways to say that a mandatory number is not
there, `ahead` being the tokens that are left for it. -/
inductive SameFault (context : Datum) (x : Component) (ahead : List (List Char)) : ReadError → ReadError → Prop where
  | same (e : ReadError) : SameFault context x ahead e e
  | valueThenNumber (expected : Datum) (h : ahead = []) (hx : x.needsNumber = true) :
      SameFault context x ahead (.valueMissing x.info.label context) (.numberMissing x.info.label context expected)
  | numberThenValue (expected : Datum) (h : ahead = []) (hx : x.needsNumber = true) :
      SameFault context x ahead (.numberMissing x.info.label context expected) (.valueMissing x.info.label context)

/-- two outcomes with the same tokens and the same sink, and errors that are the same reason to fail at `x` -/
structure EndAlike (context : Datum) (x : Component) (ahead : List (List Char)) (o₁ o₂ : Outcome Container) :
    Prop where
  cursors : ∃ bs as, o₁.cursor.Stands bs as ∧ o₂.cursor.Stands bs as
  sink_eq : o₁.sink = o₂.sink
  errors : Option.Rel (SameFault context x ahead) o₁.error o₂.error

namespace EndAlike

variable {context : Datum} {x : Component} {ahead : List (List Char)} {o₁ o₂ : Outcome Container}

theorem error_eq_none_iff (h : EndAlike context x ahead o₁ o₂) : o₁.error = none ↔ o₂.error = none := by
  have herrors := h.errors
  cases h₁ : o₁.error with
  | none =>
    rw [h₁] at herrors
    cases h₂ : o₂.error with
    | none => simp
    | some e => rw [h₂] at herrors; cases herrors
  | some e =>
    rw [h₁] at herrors
    cases h₂ : o₂.error with
    | none => rw [h₂] at herrors; cases herrors
    | some e' => simp

theorem exists_error (h : EndAlike context x ahead o₁ o₂) {e₁ : ReadError} (he : o₁.error = some e₁) :
    ∃ e₂, o₂.error = some e₂ ∧ SameFault context x ahead e₁ e₂ := by
  have herrors := h.errors
  rw [he] at herrors
  cases h₂ : o₂.error with
  | none => rw [h₂] at herrors; cases herrors
  | some e =>
    rw [h₂] at herrors
    cases herrors with
    | some fault => exact ⟨e, rfl, fault⟩

end EndAlike

section

variable {c₁ c₂ : Cursor} {bs as : List (List Char)} (context : Datum) (sink : Container)

/-- outcomes that differ in the cursor only -/
theorem EndAlike.of_eq {x : Component} {ahead : List (List Char)} {o : Outcome Container} (h₁ : c₁.Stands bs as)
    (h₂ : c₂.Stands bs as) : EndAlike context x ahead { o with cursor := c₁ } { o with cursor := c₂ } := by
  refine ⟨⟨bs, as, h₁, h₂⟩, rfl, ?_⟩
  cases o.error with
  | none => exact .none
  | some e => exact .some (.same e)

theorem write_alike {x : Component} {ahead : List (List Char)} (name : String) (value : Datum)
    (h₁ : c₁.Stands bs as) (h₂ : c₂.Stands bs as) :
    EndAlike context x ahead (write c₁ sink name value) (write c₂ sink name value) := by
  rw [write_apart c₁ c₂, write_apart c₂ c₂]
  exact .of_eq context h₁ h₂

theorem readSeparator_alike (label : Token) (optional : Bool) (description : Datum) (h₁ : c₁.Stands bs as)
    (h₂ : c₂.Stands bs as) :
    EndAlike context (.separator label optional description) as (readSeparator label optional context c₁ sink)
      (readSeparator label optional context c₂ sink) := by
  have hline : tokens c₁.line = tokens c₂.line := h₁.tokens_line.trans h₂.tokens_line.symm
  by_cases hl : label.chars ∈ tokens c₁.line
  · obtain ⟨after₁, hs₁, -, hr₁⟩ := readSeparator_found context sink optional hl
    obtain ⟨after₂, hs₂, -, hr₂⟩ := readSeparator_found context sink optional (hline ▸ hl)
    rw [hline] at hs₁
    rw [hr₁, hr₂]
    exact .of_eq (o := ⟨c₁, sink, none⟩) context hs₁ hs₂
  · rw [readSeparator_absent context sink optional hl, readSeparator_absent context sink optional (hline ▸ hl)]
    cases optional with
    | true => exact .of_eq (o := ⟨c₁, sink, none⟩) context h₁.seekEnd h₂.seekEnd
    | false => exact .of_eq (o := ⟨c₁, sink, some _⟩) context h₁ h₂

/-- a mandatory field says what it lacks in a way that only the kind of field and the end of the line decide -/
theorem sameFault_missing {info : Info} (default : Scalar) (ho : info.optional = false) (end₁ end₂ : Bool) :
    SameFault context (.scalar info default) []
      (if end₁ then .valueMissing info.label context else missingScalar default info context)
      (if end₂ then .valueMissing info.label context else missingScalar default info context) := by
  cases default with
  | number n =>
    have hx : (Component.scalar info (.number n)).needsNumber = true := by simp [Component.needsNumber, ho]
    cases end₁ <;> cases end₂
    · exact .same _
    · exact .numberThenValue _ rfl hx
    · exact .valueThenNumber _ rfl hx
    · exact .same _
  | text t => cases end₁ <;> cases end₂ <;> exact .same _
  | flag b => cases end₁ <;> cases end₂ <;> exact .same _

theorem readScalar_alike (info : Info) (default : Scalar) (h₁ : c₁.Stands bs as) (h₂ : c₂.Stands bs as) :
    EndAlike context (.scalar info default) as (readScalar info default context c₁ sink)
      (readScalar info default context c₂ sink) := by
  cases as with
  | nil =>
    rw [readScalar_of_none context sink info default h₁, readScalar_of_none context sink info default h₂]
    cases ho : info.optional with
    | true => exact write_alike context sink info.name default.datum h₁ h₂
    | false => exact ⟨⟨bs, [], h₁, h₂⟩, rfl, .some (sameFault_missing context default ho _ _)⟩
  | cons t as =>
    obtain ⟨after₁, hs₁, -, hr₁⟩ := readScalar_of_token context sink info default h₁
    obtain ⟨after₂, hs₂, -, hr₂⟩ := readScalar_of_token context sink info default h₂
    rw [hr₁, hr₂]
    cases convertScalar default info context t with
    | error e => exact .of_eq (o := ⟨c₁, sink, some e⟩) context hs₁ hs₂
    | ok value => exact write_alike context sink info.name value hs₁ hs₂

theorem readVector_alike (info : Info) (length : Length) (default : Number) (h₁ : c₁.Stands bs as)
    (h₂ : c₂.Stands bs as) :
    EndAlike context (.vector info length default) as (readVector info length default context c₁ sink)
      (readVector info length default context c₂ sink) := by
  cases hcount : resolveLength length sink info.label context with
  | error e =>
    simp only [readVector, hcount]
    exact .of_eq (o := ⟨c₁, sink, some e⟩) context h₁ h₂
  | ok count =>
    -- without a token the first number is missing, unless the vector is empty or may be left out
    have hnone : as = [] → count ≠ 0 → info.optional = false →
        numbersAhead info default.kind count context count as =
          ([], .error (.numberMissing info.label context (.int count))) := by
      rintro rfl hne ho
      exact numbersAhead_lacking context ho default.kind count hne
    rcases readVector_stands context sink default h₁ hcount with ⟨after₁, hs₁, -, hr₁⟩ | ⟨hnil, hne, ho, hr₁⟩ <;>
      rcases readVector_stands context sink default h₂ hcount with ⟨after₂, hs₂, -, hr₂⟩ | ⟨hnil', hne', ho', hr₂⟩ <;>
      rw [hr₁, hr₂]
    · cases (numbersAhead info default.kind count context count as).2 with
      | error e => exact .of_eq (o := ⟨c₁, sink, some e⟩) context hs₁ hs₂
      | ok numbers => exact write_alike context sink info.name _ hs₁ hs₂
    · rw [hnone hnil' hne' ho'] at hs₁ ⊢
      rw [hnil'] at h₂ ⊢
      exact ⟨⟨bs, [], hs₁, h₂⟩, rfl, .some (.numberThenValue _ rfl (by simp [Component.needsNumber, ho']))⟩
    · rw [hnone hnil hne ho] at hs₂ ⊢
      rw [hnil] at h₁ ⊢
      exact ⟨⟨bs, [], h₁, hs₂⟩, rfl, .some (.valueThenNumber _ rfl (by simp [Component.needsNumber, ho]))⟩
    · exact .of_eq (o := ⟨c₁, sink, some _⟩) context h₁ h₂

theorem readSelection_alike (s : Selection) (h₁ : c₁.Stands bs as) (h₂ : c₂.Stands bs as) :
    EndAlike context (.selection s) as (readSelection s c₁ sink) (readSelection s c₂ sink) := by
  have hline : tokens c₁.line = tokens c₂.line := h₁.tokens_line.trans h₂.tokens_line.symm
  rcases readSelection_stands s c₁ sink with ⟨l₁, hl₁, after₁, hs₁, -, hr₁⟩ | ⟨hl₁, hr₁⟩ <;>
    rcases readSelection_stands s c₂ sink with ⟨l₂, hl₂, after₂, hs₂, -, hr₂⟩ | ⟨hl₂, hr₂⟩ <;>
    rw [hline, hl₂] at hl₁ <;> cases hl₁ <;> rw [hr₁, hr₂]
  · rw [hline] at hs₁
    exact write_alike context sink s.info.name _ hs₁ hs₂
  · exact write_alike context sink s.info.name _ h₁ h₂

theorem readProcessed_alike (info : Info) (insertion : Insertion) (h₁ : c₁.Stands bs as) (h₂ : c₂.Stands bs as) :
    EndAlike context (.processed info insertion) as (readProcessed info insertion context c₁ sink)
      (readProcessed info insertion context c₂ sink) := by
  cases as with
  | nil =>
    rw [readProcessed_of_none context sink info insertion h₁, readProcessed_of_none context sink info insertion h₂]
    exact .of_eq (o := ⟨c₁, sink, _⟩) context h₁ h₂
  | cons t as =>
    obtain ⟨after₁, hs₁, -, hr₁⟩ := readProcessed_of_token context sink info insertion h₁
    obtain ⟨after₂, hs₂, -, hr₂⟩ := readProcessed_of_token context sink info insertion h₂
    rw [hr₁, hr₂, writeAll_apart after₁ after₂]
    cases he : (writeAll after₂ sink (insertion t (Sink.get? sink)).1).error with
    | none =>
      simp only [Outcome.andThen, he, writeAll_cursor]
      exact .of_eq (o := ⟨after₁, _, _⟩) context hs₁ hs₂
    | some e =>
      simp only [Outcome.andThen, he]
      refine ⟨⟨bs, as, hs₁, ?_⟩, rfl, ?_⟩
      · rwa [writeAll_cursor]
      · rw [he]
        exact .some (.same e)

/-- **Between the same tokens a component does the same,** whatever blanks lie there. -/
theorem read_alike {x : Component} (hx : x.isSwitch = false) (h₁ : c₁.Stands bs as) (h₂ : c₂.Stands bs as) :
    EndAlike context x as (read context x c₁ sink) (read context x c₂ sink) := by
  cases x with
  | separator label optional description => exact readSeparator_alike context sink label optional description h₁ h₂
  | scalar info default => exact readScalar_alike context sink info default h₁ h₂
  | vector info length default => exact readVector_alike context sink info length default h₁ h₂
  | selection s => exact readSelection_alike context sink s h₁ h₂
  | switch s key choices => simp [Component.isSwitch] at hx
  | processed info insertion => exact readProcessed_alike context sink info insertion h₁ h₂
  | unsupported info kind => exact .of_eq (o := ⟨c₁, sink, some (.unsupported kind)⟩) context h₁ h₂

end

/-! ## Readings that end together -/

/-- reading a branch goes well up to the component `x`, and ends with its failure -/
structure FailsAt (context : Datum) (c : Cursor) (sink : Container) (b done : List Component) (x : Component)
    (e : ReadError) : Prop where
  split : ∃ rest, b = done ++ x :: rest
  before : (readAll context done c sink).error = none
  ends : readAll context b c sink =
    read context x (readAll context done c sink).cursor (readAll context done c sink).sink
  error_eq : (readAll context b c sink).error = some e

/-- two readings of a branch go well, or they fail at the same component for the same reason -/
inductive EndTogether (context : Datum) (b : List Component) (c₁ c₂ : Cursor) (sink : Container) : Prop where
  | fine (h₁ : (readAll context b c₁ sink).error = none) (h₂ : (readAll context b c₂ sink).error = none)
  | failed (done : List Component) (x : Component) (e₁ e₂ : ReadError) (h₁ : FailsAt context c₁ sink b done x e₁)
      (h₂ : FailsAt context c₂ sink b done x e₂)
      (fault : SameFault context x (readAll context done c₁ sink).cursor.ahead e₁ e₂)

theorem FailsAt.head {context : Datum} {c : Cursor} {sink : Container} {x : Component} (b : List Component)
    {e : ReadError} (he : (read context x c sink).error = some e) : FailsAt context c sink (x :: b) [] x e := by
  have hread := readAll_cons_of_some he b
  exact ⟨⟨b, rfl⟩, rfl, hread, hread ▸ he⟩

theorem FailsAt.cons {context : Datum} {c : Cursor} {sink : Container} {x y : Component} {b done : List Component}
    {e : ReadError} (he : (read context x c sink).error = none)
    (h : FailsAt context (read context x c sink).cursor (read context x c sink).sink b done y e) :
    FailsAt context c sink (x :: b) (x :: done) y e := by
  obtain ⟨⟨rest, hsplit⟩, hbefore, hends, herror⟩ := h
  refine ⟨⟨rest, by rw [hsplit]; rfl⟩, ?_, ?_, ?_⟩
  · rw [readAll_cons_of_none he]
    exact hbefore
  · rw [readAll_cons_of_none he, readAll_cons_of_none he]
    exact hends
  · rw [readAll_cons_of_none he]
    exact herror

/-- **Two readings of a branch from between the same tokens end together,** with the same sink and the same tokens. -/
theorem readAll_alike {b : List Component} (hb : ∀ x ∈ b, x.isSwitch = false) (context : Datum) {c₁ c₂ : Cursor}
    {bs as : List (List Char)} (h₁ : c₁.Stands bs as) (h₂ : c₂.Stands bs as) (sink : Container) :
    (∃ bs' as', (readAll context b c₁ sink).cursor.Stands bs' as' ∧ (readAll context b c₂ sink).cursor.Stands bs' as') ∧
      (readAll context b c₁ sink).sink = (readAll context b c₂ sink).sink ∧ EndTogether context b c₁ c₂ sink := by
  induction b generalizing c₁ c₂ bs as sink with
  | nil => exact ⟨⟨bs, as, h₁, h₂⟩, rfl, .fine rfl rfl⟩
  | cons x b ih =>
    have halike := read_alike context sink (hb x List.mem_cons_self) h₁ h₂
    obtain ⟨bs', as', hs₁, hs₂⟩ := halike.cursors
    have hsink := halike.sink_eq
    cases he₁ : (read context x c₁ sink).error with
    | none =>
      have he₂ := halike.error_eq_none_iff.1 he₁
      obtain ⟨hcursors, hsinks, htogether⟩ :=
        ih (fun y hy => hb y (List.mem_cons_of_mem x hy)) hs₁ hs₂ (read context x c₁ sink).sink
      have hread₁ := readAll_cons_of_none he₁ b
      have hread₂ : readAll context (x :: b) c₂ sink =
          readAll context b (read context x c₂ sink).cursor (read context x c₁ sink).sink := by
        rw [readAll_cons_of_none he₂, hsink]
      rw [hread₁, hread₂]
      refine ⟨hcursors, hsinks, ?_⟩
      cases htogether with
      | fine hf₁ hf₂ => exact .fine (hread₁ ▸ hf₁) (hread₂ ▸ hf₂)
      | failed done y e₁ e₂ hf₁ hf₂ fault =>
        refine .failed (x :: done) y e₁ e₂ (hf₁.cons he₁) (.cons he₂ (hsink ▸ hf₂)) ?_
        rwa [readAll_cons_of_none he₁]
    | some e₁ =>
      obtain ⟨e₂, he₂, fault⟩ := halike.exists_error he₁
      rw [readAll_cons_of_some he₁, readAll_cons_of_some he₂]
      refine ⟨⟨bs', as', hs₁, hs₂⟩, hsink, .failed [] x e₁ e₂ (.head b he₁) (.head b he₂) ?_⟩
      rw [readAll, h₁.ahead_eq]
      exact fault

/-- two readings from between the same tokens make the same choices -/
theorem leadsAlong_alike {context : Datum} {r : List Stage} (hr : ∀ x ∈ r.map Stage.component, x.isSwitch = false)
    {c₁ c₂ : Cursor} {bs as : List (List Char)} (h₁ : c₁.Stands bs as) (h₂ : c₂.Stands bs as) {sink : Container}
    (h : LeadsAlong context r c₁ sink) : LeadsAlong context r c₂ sink := by
  induction r generalizing c₁ c₂ bs as sink with
  | nil => trivial
  | cons stage r ih =>
    intro he₂
    have halike := read_alike context sink (hr _ List.mem_cons_self) h₁ h₂
    obtain ⟨bs', as', hs₁, hs₂⟩ := halike.cursors
    have hsink := halike.sink_eq
    obtain ⟨hheld, hleads⟩ := h (halike.error_eq_none_iff.2 he₂)
    rw [← hsink]
    exact ⟨hheld, ih (fun x hx => hr x (List.mem_cons_of_mem _ hx)) hs₁ hs₂ hleads⟩

/-- **Reading does not depend on the blanks between tokens.** Two lines with the same tokens leave the same entries and
the same tokens. Their readings go along one branch, and both go well or both fail at the same component of it, with the
same error unless a mandatory number finds no token at all. -/
theorem reading_ignores_spacing {cs : List Component} (hw : ∀ x ∈ cs, x.WellFormed) (context : Datum)
    {l₁ l₂ : List Char} (h : tokens l₁ = tokens l₂) (sink : Container) :
    (readLine context cs l₁ sink).sink = (readLine context cs l₂ sink).sink ∧
      tokens (readLine context cs l₁ sink).cursor.line = tokens (readLine context cs l₂ sink).cursor.line ∧
      ∃ r, Route cs r ∧ LeadsAlong context r (.ofLine l₁) sink ∧ LeadsAlong context r (.ofLine l₂) sink ∧
        readLine context cs l₁ sink = readLine context (r.map Stage.component) l₁ sink ∧
        readLine context cs l₂ sink = readLine context (r.map Stage.component) l₂ sink ∧
        EndTogether context (r.map Stage.component) (.ofLine l₁) (.ofLine l₂) sink := by
  obtain ⟨r, hr, hleads₁⟩ := exists_leadsAlong_of_each (fun x hx c s => exists_leadsAlong (hw x hx) context c s)
    (.ofLine l₁) sink
  have hs₁ := Cursor.Stands.ofLine l₁
  have hs₂ : (Cursor.ofLine l₂).Stands [] (tokens l₁) := h ▸ Cursor.Stands.ofLine l₂
  have hleads₂ := leadsAlong_alike hr.isSwitch_eq_false hs₁ hs₂ hleads₁
  have hread₁ : readLine context cs l₁ sink = readLine context (r.map Stage.component) l₁ sink :=
    readAll_of_leadsAlong hr hw hleads₁
  have hread₂ : readLine context cs l₂ sink = readLine context (r.map Stage.component) l₂ sink :=
    readAll_of_leadsAlong hr hw hleads₂
  obtain ⟨⟨bs, as, he₁, he₂⟩, hsink, htogether⟩ := readAll_alike hr.isSwitch_eq_false context hs₁ hs₂ sink
  refine ⟨?_, ?_, r, hr, hleads₁, hleads₂, hread₁, hread₂, htogether⟩
  · rw [hread₁, hread₂]
    exact hsink
  · rw [hread₁, hread₂]
    exact he₁.tokens_line.trans he₂.tokens_line.symm

/-- a line that ends before a mandatory number -/
def unfinishedLine : List Char :=
  "ConditionID 5 ManifoldConditionID".toList

/-- the same tokens, with other blanks between them and some at the end -/
def unfinishedLineWithBlanks : List Char :=
  " ConditionID\t5  ManifoldConditionID \n".toList

/-- both readings fail at the number, the first for lack of a value and the second for lack of a number -/
theorem reading_ignores_spacing_unfinished :
    (∀ x ∈ Manifold.kinetics.components, x.WellFormed) ∧ tokens unfinishedLine = tokens unfinishedLineWithBlanks ∧
      (readLine .null Manifold.kinetics.components unfinishedLine Container.empty).error.map ReadError.errorClass =
        some .requiredFieldMissing ∧
      (readLine .null Manifold.kinetics.components unfinishedLineWithBlanks Container.empty).error.map
        ReadError.errorClass = some .missingRequiredValue ∧
      (readLine .null Manifold.kinetics.components unfinishedLine Container.empty).sink =
        (readLine .null Manifold.kinetics.components unfinishedLineWithBlanks Container.empty).sink := by
  have htokens : tokens unfinishedLine = tokens unfinishedLineWithBlanks := by decide +kernel
  have halike := reading_ignores_spacing Manifold.kinetics_wellFormed .null htokens Container.empty
  exact ⟨Manifold.kinetics_wellFormed, htokens, by decide +kernel, by decide +kernel, halike.1⟩

end LineGrammar
