/-
Errors point at the field that failed.

An error about a line names a section, a field and a value. The field is the component that could not be read, and the
value is nothing, no text at all, or a token of the line. There is one exception: a vector whose length is negative
blames the field that the length is taken from, and shows the count that is held there. The component that fails has
written nothing, so the container has the entries of the components before it and no others.
- `numbersAhead_error`: which token of a row of numbers is at fault.
- `read_pointsAt`: the step, one case for each kind of component.
- `exists_failsAt`: the run; a branch that fails has a first component that fails.
- `error_points_at_component`: whole lines.
-/
import LineGrammar.Proofs.Shape
import LineGrammar.Proofs.Spacing
import LineGrammar.Proofs.Values

namespace LineGrammar

/-- What is at fault on the line where the value of the error is given: nothing is, or an empty text, or a token of
those that were there. -/
inductive ReadError.Shows (ts : List (List Char)) (e : ReadError) : Prop where
  | nothing (h : e.value? = none)
  | noText (h : e.value? = some (.text ""))
  | token {t : List Char} (mem : t ∈ ts) (h : e.value? = some (.text (String.ofList t)))

/-- Where an error points when a component fails, `ts` being the tokens that were on the line: at the component itself,
or at the field with the negative count that is the length of the component. -/
inductive PointsAt (sink : Container) (ts : List (List Char)) (e : ReadError) : Component → Prop where
  | itself {x : Component} (field_eq : e.field = .text x.name) (shows : e.Shows ts) : PointsAt sink ts e x
  | source {info : Info} {name : String} {default : Number} (n : Int) (negative : n < 0)
      (held : sink.get? name = some (.int n)) (field_eq : e.field = .text name) (value_eq : e.value? = some (.int n)) :
      PointsAt sink ts e (.vector info (.takenFrom (.text name)) default)

theorem ReadError.Shows.mono {ts us : List (List Char)} {e : ReadError} (h : e.Shows ts) (hsub : ts ⊆ us) :
    e.Shows us := by
  cases h with
  | nothing h => exact .nothing h
  | noText h => exact .noText h
  | token mem h => exact .token (hsub mem) h

theorem PointsAt.mono {sink : Container} {ts us : List (List Char)} {e : ReadError} {x : Component}
    (h : PointsAt sink ts e x) (hsub : ts ⊆ us) : PointsAt sink us e x := by
  cases h with
  | itself field_eq shows => exact .itself field_eq (shows.mono hsub)
  | source n negative held field_eq value_eq => exact .source n negative held field_eq value_eq

/-! ## One component -/

/-- an error of writing is not about the line -/
theorem not_aboutLine_of_write {c : Cursor} {sink : Container} {name : String} {value : Datum} {e : ReadError}
    (h : (write c sink name value).error = some e) : e.causeClass.aboutLine = false := by
  rw [error_of_write h]
  rfl

/-- a length that a line is to blame for is a negative count -/
theorem negative_of_resolveLength {length : Length} {sink : Container} {field context : Datum} {e : ReadError}
    (h : resolveLength length sink field context = .error e) (ha : e.causeClass.aboutLine = true) :
    ∃ name n, length = .takenFrom (.text name) ∧ n < 0 ∧ sink.get? name = some (.int n) ∧
      e = .negativeLength (.text name) context n field := by
  rcases resolveLength_cases length sink field context with ⟨n, hn, -⟩ | ⟨e', he', hnegative | ⟨-, hnot, -⟩⟩
  · rw [h] at hn
    cases hn
  · rw [h] at he'
    cases he'
    exact hnegative
  · rw [h] at he'
    cases he'
    rw [hnot] at ha
    cases ha

/-- a row of numbers fails at a token that does not convert, or for lack of a token -/
theorem numbersAhead_error {info : Info} {kind : NumberKind} {expected : Nat} {context : Datum} {count : Nat}
    {as : List (List Char)} {e : ReadError} (h : (numbersAhead info kind expected context count as).2 = .error e) :
    (∃ t ∈ as, convert kind t info.label context (.int expected) info.optional = .error e) ∨
      e = .numberMissing info.label context (.int expected) := by
  induction count generalizing as with
  | zero => cases h
  | succ count ih =>
    cases as with
    | nil =>
      cases ho : info.optional with
      | true => simp [numbersAhead, ho] at h
      | false =>
        right
        simpa [numbersAhead, ho, eq_comm] using h
    | cons t as =>
      cases hc : convert kind t info.label context (.int expected) info.optional with
      | error e' =>
        simp only [numbersAhead, hc] at h
        cases h
        exact Or.inl ⟨t, List.mem_cons_self, hc⟩
      | ok n =>
        have hrest : (numbersAhead info kind expected context count as).2 = .error e := by
          cases hr : (numbersAhead info kind expected context count as).2 with
          | error e' => simpa [numbersAhead, hc, hr, Except.map] using h
          | ok numbers => simp [numbersAhead, hc, hr, Except.map] at h
        rcases ih hrest with ⟨u, hu, hbad⟩ | hmissing
        · exact Or.inl ⟨u, List.mem_cons_of_mem t hu, hbad⟩
        · exact Or.inr hmissing

section

variable {c : Cursor} {bs as : List (List Char)} {context : Datum} {sink : Container} {e : ReadError}

/-- a token ahead of the cursor is not empty -/
theorem Cursor.Stands.ne_nil (h : c.Stands bs as) {t : List Char} (ht : t ∈ as) : t ≠ [] := by
  refine ne_nil_of_isToken (isToken_of_mem_tokens (s := c.line) ?_)
  rw [h.tokens_line]
  exact List.mem_append_right bs ht

theorem readScalar_pointsAt {info : Info} {default : Scalar} (h : c.Stands bs as)
    (he : (readScalar info default context c sink).error = some e) (ha : e.causeClass.aboutLine = true) :
    e.context = context ∧ PointsAt sink as e (.scalar info default) := by
  cases as with
  | nil =>
    rw [readScalar_of_none context sink info default h] at he
    cases ho : info.optional with
    | true =>
      rw [ho, if_pos rfl] at he
      simp [not_aboutLine_of_write he] at ha
    | false =>
      rw [ho, if_neg Bool.false_ne_true] at he
      cases Option.some.inj he
      cases c.atEnd with
      | true => exact ⟨rfl, .itself rfl (.nothing rfl)⟩
      | false =>
        cases default with
        | number n => exact ⟨rfl, .itself rfl (.noText rfl)⟩
        | text t => exact ⟨rfl, .itself rfl (.nothing rfl)⟩
        | flag b => exact ⟨rfl, .itself rfl (.nothing rfl)⟩
  | cons t as =>
    obtain ⟨after, -, -, hread⟩ := readScalar_of_token context sink info default h
    rw [hread] at he
    cases hv : convertScalar default info context t with
    | ok value =>
      rw [hv] at he
      simp [not_aboutLine_of_write he] at ha
    | error e' =>
      rw [hv] at he
      cases he
      have hfault : (Field.scalar info default).convert context 1 t = .error e := hv
      obtain ⟨-, ⟨hfield, hcontext⟩, hvalue⟩ := fault_of_field (h.ne_nil List.mem_cons_self) hfault
      exact ⟨hcontext, .itself hfield (.token List.mem_cons_self hvalue)⟩

theorem readVector_pointsAt {info : Info} {length : Length} {default : Number} (h : c.Stands bs as)
    (he : (readVector info length default context c sink).error = some e) (ha : e.causeClass.aboutLine = true) :
    e.context = context ∧ PointsAt sink as e (.vector info length default) := by
  cases hcount : resolveLength length sink info.label context with
  | error e' =>
    simp only [readVector, hcount] at he
    cases he
    obtain ⟨name, n, rfl, hneg, hheld, rfl⟩ := negative_of_resolveLength hcount ha
    exact ⟨rfl, .source n hneg hheld rfl rfl⟩
  | ok count =>
    rcases readVector_stands context sink default h hcount with ⟨after, -, -, hread⟩ | ⟨-, -, -, hread⟩
    · rw [hread] at he
      cases hn : (numbersAhead info default.kind count context count as).2 with
      | ok numbers =>
        rw [hn] at he
        simp [not_aboutLine_of_write he] at ha
      | error e' =>
        rw [hn] at he
        cases he
        rcases numbersAhead_error hn with ⟨t, ht, hbad⟩ | rfl
        · obtain ⟨-, hfield, hcontext, hvalue⟩ := fault_of_convert (h.ne_nil ht) hbad
          exact ⟨hcontext, .itself hfield (.token ht hvalue)⟩
        · exact ⟨rfl, .itself rfl (.noText rfl)⟩
    · rw [hread] at he
      cases he
      exact ⟨rfl, .itself rfl (.nothing rfl)⟩

/-- **A component that fails is what the error points at,** or the field that its length is taken from is. -/
theorem read_pointsAt {x : Component} (hs : x.isSwitch = false) (hp : x.isProcessed = false) (h : c.Stands bs as)
    (he : (read context x c sink).error = some e) (ha : e.causeClass.aboutLine = true) :
    e.context = context ∧ PointsAt sink as e x := by
  cases x with
  | separator label optional description =>
    rw [read] at he
    rcases readSeparator_cases label optional context c sink with ⟨before, after, -, hread⟩ | ⟨-, hread⟩
    · rw [hread] at he
      cases he
    · rw [hread] at he
      cases optional with
      | true => cases he
      | false =>
        cases he
        exact ⟨rfl, .itself rfl (.nothing rfl)⟩
  | scalar info default => exact readScalar_pointsAt h he ha
  | vector info length default => exact readVector_pointsAt h he ha
  | selection s =>
    rw [read] at he
    rcases readSelection_cases s c sink with ⟨l, -, before, after, -, hread⟩ | ⟨-, hread⟩ <;>
      rw [hread] at he <;> simp [not_aboutLine_of_write he] at ha
  | switch s key choices => simp [Component.isSwitch] at hs
  | processed info insertion => simp [Component.isProcessed] at hp
  | unsupported info kind =>
    cases he
    cases ha

/-- a component that fails leaves the container as it was -/
theorem sink_eq_of_error {x : Component} (hs : x.isSwitch = false) (hp : x.isProcessed = false)
    (he : (read context x c sink).error = some e) : (read context x c sink).sink = sink := by
  rcases read_cases hs hp context c sink with ⟨-, -, hsame, -⟩ | ⟨hnone, -⟩
  · exact hsame
  · rw [he] at hnone
    cases hnone

end

/-! ## Whole lines -/

/-- **A branch that is not read to its end has a first component that fails.** -/
theorem exists_failsAt {b : List Component} {context : Datum} {c : Cursor} {sink : Container} {e : ReadError}
    (h : (readAll context b c sink).error = some e) : ∃ done x, FailsAt context c sink b done x e := by
  induction b generalizing c sink with
  | nil => cases h
  | cons x b ih =>
    cases hx : (read context x c sink).error with
    | some e' =>
      rw [readAll_cons_of_some hx, hx] at h
      cases h
      exact ⟨[], x, .head b hx⟩
    | none =>
      rw [readAll_cons_of_none hx] at h
      obtain ⟨done, y, hfails⟩ := ih h
      exact ⟨x :: done, y, hfails.cons hx⟩

/-- Where the error of a line points: the branch that reading goes along and the first component of it that fails, the
components of it that are `done` before, and what they have left in the container. -/
structure Pointed (d : LineDefinition) (line : List Char) (before after : Container) (e : ReadError) (r : List Stage)
    (done : List Component) (x : Component) : Prop where
  route : Route d.components r
  leads : LeadsAlong d.sectionName r (.ofLine line) before
  agrees : d.read line before = readAll d.sectionName (r.map Stage.component) (.ofLine line) before
  fails : FailsAt d.sectionName (.ofLine line) before (r.map Stage.component) done x e
  context_eq : e.context = d.sectionName
  points : PointsAt after (tokens line) e x
  sources : ∀ source, x.lengthSource? = some source → ∃ y ∈ done, y.writesInt = true ∧ source = .text y.name
  filled : Filled done before after

/-- **An error about a line points at the field that failed.** It names the section of the definition and the first
component of the branch that could not be read, or the count before it that is negative; its value is nothing, no text, a
token of the line, or that count. The container has the entries of the components before the failing one. -/
theorem error_points_at_component (d : LineDefinition) (hw : ∀ x ∈ d.components, x.WellFormed)
    (hp : ∀ x ∈ everyComponentOfAll d.components, x.isProcessed = false) (line : List Char) (before : Container)
    {e : ReadError} (he : (d.read line before).error = some e) (ha : e.aboutLine = true) :
    ∃ r done x, Pointed d line before (d.read line before).sink e r done x := by
  obtain ⟨r, hr, hleads⟩ := exists_leadsAlong_of_each (fun x hx c s => exists_leadsAlong (hw x hx) d.sectionName c s)
    (.ofLine line) before
  have hread : d.read line before = readAll d.sectionName (r.map Stage.component) (.ofLine line) before :=
    readAll_of_leadsAlong hr hw hleads
  rw [hread] at he ⊢
  obtain ⟨done, x, hfails⟩ := exists_failsAt he
  obtain ⟨rest, hsplit⟩ := hfails.split
  have hstandard : ∀ y ∈ done ++ x :: rest, y.isSwitch = false ∧ y.isProcessed = false := by
    intro y hy
    rw [← hsplit] at hy
    exact ⟨hr.isSwitch_eq_false y hy, hr.forall_component hp (fun _ _ _ _ => rfl) y hy⟩
  have hx := hstandard x (List.mem_append_right _ List.mem_cons_self)
  have hdone : ∀ y ∈ done, y.isSwitch = false ∧ y.isProcessed = false :=
    fun y hy => hstandard y (List.mem_append_left _ hy)
  -- before the component that fails the cursor stands between tokens of the line
  obtain ⟨left, hkeeps, hsub⟩ := readAll_keeps d.sectionName before (fun y hy => (hdone y hy).1) (.ofLine line)
  obtain ⟨bs, as, hstands, rfl⟩ := hkeeps.stands
  have herror := hfails.error_eq
  rw [hfails.ends] at herror
  obtain ⟨hcontext, hpoints⟩ := read_pointsAt hx.1 hx.2 hstands herror (ReadError.aboutLine_causeClass ha)
  have hsink : (readAll d.sectionName (r.map Stage.component) (.ofLine line) before).sink =
      (readAll d.sectionName done (.ofLine line) before).sink := by
    rw [hfails.ends]
    exact sink_eq_of_error hx.1 hx.2 herror
  refine ⟨r, done, x, hr, hleads, hread, hfails, hcontext, ?_, ?_, ?_⟩
  · rw [hsink]
    refine hpoints.mono (fun t ht => hsub.subset (List.mem_append_right bs ht))
  · intro source hs
    have hbranch := hr.mem_branchesOfAll
    rw [hsplit] at hbranch
    exact d.source_written_before hbranch hs
  · rw [hsink]
    rcases readAll_branch_cases (fun y hy => (hdone y hy).1) (fun y hy => (hdone y hy).2) d.sectionName (.ofLine line)
      before with ⟨-, hfilled⟩ | ⟨-, -, -, -, -, -, hfailed, -⟩
    · exact hfilled
    · exact absurd hfails.before hfailed

/-- a line on which the count of a vector inside a switch is negative -/
def negativeCountLine : List Char :=
  "KINETIC_MODEL Butler-VolmerReduced STOICHIOMETRIES 1 NUMSCAL -2 ConditionID 5 ManifoldConditionID 2".toList

/-- the error points at the count, which is the second component inside the switch -/
theorem error_points_at_count :
    (∀ x ∈ Manifold.kinetics.components, x.WellFormed) ∧
      (∀ x ∈ everyComponentOfAll Manifold.kinetics.components, x.isProcessed = false) ∧
      ∃ e, (Manifold.kinetics.read negativeCountLine Container.empty).error = some e ∧ e.aboutLine = true ∧
        e.message = "Variable 'NUMSCAL' in 'DESIGN SSI MANIFOLD KINETICS SURF CONDITIONS' gives a negative length " ++
          "(-2) for 'STOICHIOMETRIES'." ∧
        ∃ r done x, Pointed Manifold.kinetics negativeCountLine .empty
          (Manifold.kinetics.read negativeCountLine Container.empty).sink e r done x := by
  have hp : ∀ x ∈ everyComponentOfAll Manifold.kinetics.components, x.isProcessed = false := by decide +kernel
  have hshown : (Manifold.kinetics.read negativeCountLine Container.empty).error.map
      (fun e => (e.aboutLine, e.message)) = some (true, "Variable 'NUMSCAL' in 'DESIGN SSI MANIFOLD KINETICS SURF " ++
        "CONDITIONS' gives a negative length (-2) for 'STOICHIOMETRIES'.") := by decide +kernel
  obtain ⟨e, he, hshown⟩ := Option.map_eq_some_iff.1 hshown
  rw [Prod.mk.injEq] at hshown
  exact ⟨Manifold.kinetics_wellFormed, hp, e, he, hshown.1, hshown.2,
    error_points_at_component Manifold.kinetics Manifold.kinetics_wellFormed hp negativeCountLine .empty he hshown.1⟩

end LineGrammar
