/-
A grammar that is rejected fails on a line of its own.

A report finds fault with a branch for two reasons: it writes a name twice, or it takes a length from what it has not
written as an integer before. Neither reason is idle. The default line of the branch is read without a fault up to the
first component that is at fault, and this one fails for just that reason. So a grammar is rejected only if one of its
own default lines shows why.
- `exists_first_defect`: the verdict, said of the first component at fault on a branch.
- `read_defective`: the step, such a component fails where all before it have been read.
- `rejected_grammar_fails_on_default_line`: the whole grammar.
-/
import LineGrammar.Proofs.RoundTrip

namespace LineGrammar

/-! ## Components at fault -/

/-- A component that is at fault behind others on its branch: its name is written before, or its length is taken from
what none of the others writes as an integer. -/
inductive Component.Defective (done : List Component) (x : Component) : Prop where
  | taken (h : x.writesKey = true) (written : x.name ∈ keysOf done)
  | unresolved (source : Datum) (h : x.lengthSource? = some source)
      (unwritten : ∀ y ∈ done, y.writesInt = true → source ≠ .text y.name)

theorem repeatedIn_eq_nil_of_not_defective {b : List Component}
    (h : ∀ done x rest, b = done ++ x :: rest → ¬ x.Defective done) : repeatedIn [] b = [] := by
  refine repeatedIn_eq_nil (fun done x rest hsplit hx => ⟨List.not_mem_nil, fun hm => ?_⟩)
  exact h done x rest hsplit (.taken hx hm)

theorem unresolvedIn_eq_nil_of_not_defective {b : List Component}
    (h : ∀ done x rest, b = done ++ x :: rest → ¬ x.Defective done) : unresolvedIn [] b = [] := by
  refine unresolvedIn_eq_nil (fun done x rest hsplit source hs => Or.inr ?_)
  by_contra hnone
  push Not at hnone
  exact h done x rest hsplit (.unresolved source hs hnone)

/-- a grammar that is rejected has a component at fault on one of its branches -/
theorem exists_defective {cs : List Component} {name : Datum} (h : (analyze name cs).valid = false) :
    ∃ b ∈ branchesOfAll cs, ∃ done x rest, b = done ++ x :: rest ∧ x.Defective done := by
  by_contra hnone
  push Not at hnone
  have hrepeated : (branchesOfAll cs).flatMap (repeatedIn []) = [] :=
    List.flatMap_eq_nil_iff.2 (fun b hb => repeatedIn_eq_nil_of_not_defective (hnone b hb))
  have hunresolved : (branchesOfAll cs).flatMap (unresolvedIn []) = [] :=
    List.flatMap_eq_nil_iff.2 (fun b hb => unresolvedIn_eq_nil_of_not_defective (hnone b hb))
  simp [analyze, Report.valid, hrepeated, hunresolved, sortedDistinct, distinct] at h

/-- where something holds on the way along a list, there is the first place where it does -/
theorem exists_first {α : Type} {P : List α → α → Prop} {l : List α}
    (h : ∃ done x rest, l = done ++ x :: rest ∧ P done x) :
    ∃ done x rest, l = done ++ x :: rest ∧ P done x ∧ ∀ d y t, done = d ++ y :: t → ¬ P d y := by
  obtain ⟨done, x, rest, hsplit, hx⟩ := h
  induction hn : done.length using Nat.strongRecOn generalizing done x rest with
  | _ n ih =>
    by_cases hearlier : ∃ d y t, done = d ++ y :: t ∧ P d y
    · obtain ⟨d, y, t, rfl, hy⟩ := hearlier
      refine ih d.length ?_ d y (t ++ x :: rest) (by rw [hsplit]; simp) hy rfl
      rw [← hn, List.length_append, List.length_cons]
      omega
    · exact ⟨done, x, rest, hsplit, hx, fun d y t hd hy => hearlier ⟨d, y, t, hd, hy⟩⟩

/-- **On a branch of a rejected grammar there is a first component at fault.** -/
theorem exists_first_defect {cs : List Component} (hw : ∀ x ∈ cs, x.WellFormed) {name : Datum}
    (h : (analyze name cs).valid = false) :
    ∃ done stage rest, Route cs (done ++ stage :: rest) ∧ stage.component.Defective (done.map Stage.component) ∧
      ∀ d other t, done = d ++ other :: t → ¬ other.component.Defective (d.map Stage.component) := by
  obtain ⟨b, hb, done, x, rest, rfl, hx⟩ := exists_defective h
  obtain ⟨r, hr, hmap⟩ := (mem_branchesOfAll_iff hw).1 hb
  obtain ⟨before, behind, rfl, rfl, hbehind⟩ := List.map_eq_append_iff.1 hmap
  obtain ⟨stage, after, rfl, rfl, -⟩ := List.map_eq_cons_iff.1 hbehind
  obtain ⟨done, first, rest, hsplit, hfirst, hnone⟩ :=
    exists_first (P := fun done stage => stage.component.Defective (done.map Stage.component))
      ⟨before, stage, after, rfl, hx⟩
  rw [hsplit] at hr
  exact ⟨done, first, rest, hr, hfirst, hnone⟩

/-! ## What is known of integers -/

/-- the integers that a component can write -/
def Component.integers : Component → List Int
  | .scalar _ (.number (.int n)) => [n]
  | .selection s => s.literals.filterMap (fun l => match l.value with | .int n => some n | .text _ => none)
  | _ => []

theorem integers_of_literal {s : Selection} {l : Literal} (hl : l ∈ s.literals) {n : Int}
    (hn : l.value.datum = .int n) :
    (Component.selection s).writesInt = true ∧ n ∈ (Component.selection s).integers := by
  have hv : l.value = .int n := Key.datum_injective hn
  constructor
  · rw [Component.writesInt, List.all_eq_true]
    intro k hk
    rw [s.uniform k hk, ← s.uniform l hl, hv]
    rfl
  · refine List.mem_filterMap.2 ⟨l, hl, ?_⟩
    rw [hv]

/-- an integer that is known behind a stage was known before, or the stage writes it -/
theorem int_of_render {stage : Stage} (hp : stage.Plain) {known : Known} {name : String} {n : Int}
    (h : (name, Datum.int n) ∈ (stage.render known).known) :
    (name, Datum.int n) ∈ known ∨
      (stage.component.writesInt = true ∧ stage.component.name = name ∧ n ∈ stage.component.integers) := by
  cases stage with
  | chosen s l =>
    rcases List.mem_cons.1 h with heq | h
    · rw [Prod.mk.injEq] at heq
      obtain ⟨hint, hn⟩ := integers_of_literal (hp.own (s, l) rfl) heq.2.symm
      exact Or.inr ⟨hint, heq.1.symm, hn⟩
    · exact Or.inl h
  | plain x =>
    cases x with
    | separator label optional description => exact Or.inl h
    | scalar info default =>
      rcases List.mem_cons.1 h with heq | h
      · rw [Prod.mk.injEq] at heq
        cases default with
        | number m =>
          cases m with
          | int m =>
            cases heq.2
            exact Or.inr ⟨rfl, heq.1.symm, List.mem_cons_self⟩
          | real x => cases heq.2
        | text token => cases heq.2
        | flag b => cases heq.2
      · exact Or.inl h
    | vector info length default =>
      rcases List.mem_cons.1 h with heq | h
      · cases heq
      · exact Or.inl h
    | selection s =>
      rcases List.mem_cons.1 h with heq | h
      · rw [Prod.mk.injEq] at heq
        obtain ⟨hint, hn⟩ := integers_of_literal s.default_mem heq.2.symm
        exact Or.inr ⟨hint, heq.1.symm, hn⟩
      · exact Or.inl h
    | switch s key choices => exact Or.inl h
    | processed info insertion => exact Or.inl h
    | unsupported info kind => exact Or.inl h

/-- an integer that is known behind a route is written by one of its stages -/
theorem int_of_renderRoute {r : List Stage} (hp : ∀ stage ∈ r, stage.Plain) {known : Known} {name : String} {n : Int}
    (h : (name, Datum.int n) ∈ (renderRoute known r).known) :
    (name, Datum.int n) ∈ known ∨ ∃ stage ∈ r, stage.component.writesInt = true ∧ stage.component.name = name ∧
      n ∈ stage.component.integers := by
  induction r generalizing known with
  | nil => exact Or.inl h
  | cons stage r ih =>
    rcases ih (fun other ho => hp other (List.mem_cons_of_mem stage ho)) h with hbefore | ⟨writer, hw, hwrites⟩
    · refine (int_of_render (hp stage List.mem_cons_self) hbefore).imp_right (fun hwrites => ?_)
      exact ⟨stage, List.mem_cons_self, hwrites⟩
    · exact Or.inr ⟨writer, List.mem_cons_of_mem stage hw, hwrites⟩

/-! ## A component at fault fails -/

/-- the classes of errors that tell of a fault of the grammar -/
def grammarFaults : List ErrorClass :=
  [.duplicateKey, .internalInconsistency]

/-- a length under whose source no integer is held cannot be resolved -/
theorem resolveLength_unheld {sink : Container} {source : Datum} (hashable : source.hashable = true)
    (h : ∀ name, source = .text name → ∀ n, (name, Datum.int n) ∉ sink.entries) (info : Info) (context : Datum) :
    ∃ e, resolveLength (.takenFrom source) sink info.label context = .error e ∧
      e.IsOf grammarFaults [context, source] := by
  have hask : Sink.ask sink source = sink.ask source := rfl
  cases hv : sink.ask source with
  | absent =>
    simp only [resolveLength, hask, hv]
    refine ⟨_, rfl, ReadError.isOf_of_shownData (List.mem_cons_of_mem _ List.mem_cons_self) ?_⟩
    simp [ReadError.shownData, Info.label]
  | unfit =>
    exfalso
    cases source with
    | text name =>
      simp only [Container.ask] at hv
      split at hv <;> simp at hv
    | _ =>
      simp only [Container.ask, hashable, if_true] at hv
      simp at hv
  | value d =>
    obtain ⟨name, rfl, hheld⟩ := Container.text_of_ask hv
    simp only [resolveLength, hask, hv]
    cases d with
    | int n => exact absurd (Container.get?_eq_some_iff.1 hheld) (h name rfl n)
    | _ =>
      refine ⟨_, rfl, ReadError.isOf_of_shownData (List.mem_cons_of_mem _ List.mem_cons_self) ?_⟩
      simp [ReadError.shownData, Info.label]

theorem writeAll_taken {c : Cursor} {sink : Container} {added : List (String × Datum)} {name : String}
    (hadded : added.map Prod.fst = [name]) (h : name ∈ sink.names) :
    (writeAll c sink added).error = some (.duplicateKey name) := by
  obtain ⟨entry, rest, rfl, rfl, hrest⟩ := List.map_eq_cons_iff.1 hadded
  obtain rfl := List.map_eq_nil_iff.1 hrest
  rcases write_cases c sink entry.1 entry.2 with ⟨-, hw⟩ | ⟨after, ha, -⟩
  · rw [writeAll, hw, Outcome.andThen_of_some rfl]
  · have hnodup := after.nodup
    rw [ha, List.map_append, List.nodup_append] at hnodup
    exact absurd rfl (hnodup.2.2 entry.1 h entry.1 List.mem_cons_self)

/-- a length whose source is written as an integer before is held, if no such integer is negative -/
theorem sized_of_source {done : List Stage} {stage : Stage} {sink : Container} (hdone : ∀ other ∈ done, other.Plain)
    (hknown : sink.Mirrors (renderRoute [] done).known)
    (hcount : ∀ source ∈ stage.component.lengthSource?, ∀ y ∈ done.map Stage.component,
      isAmong [y.name] source = true → ∀ n ∈ y.integers, 0 ≤ n)
    (hsource : ∀ source, stage.component.lengthSource? = some source →
      ∃ writer ∈ done, writer.component.writesInt = true ∧ source = .text writer.component.name) :
    stage.Sized sink := by
  refine sized_of_written hdone hsource (fun name hs n hn => ?_) hknown
  rcases int_of_renderRoute hdone hn with hnil | ⟨writer, hw, -, rfl, hm⟩
  · simp at hnil
  · exact hcount _ hs _ (List.mem_map_of_mem hw) (by simp [isAmong]) n hm

/-- a component that is not at fault has its length -/
theorem sized_of_not_defective {done : List Stage} {stage : Stage} {sink : Container}
    (hdone : ∀ other ∈ done, other.Plain) (hknown : sink.Mirrors (renderRoute [] done).known)
    (hcount : ∀ source ∈ stage.component.lengthSource?, ∀ y ∈ done.map Stage.component,
      isAmong [y.name] source = true → ∀ n ∈ y.integers, 0 ≤ n)
    (hd : ¬ stage.component.Defective (done.map Stage.component)) : stage.Sized sink := by
  refine sized_of_source hdone hknown hcount fun source hs => ?_
  by_contra hnone
  push Not at hnone
  refine hd (.unresolved source hs fun y hy hint => ?_)
  obtain ⟨writer, hm, rfl⟩ := List.mem_map.1 hy
  exact hnone writer hm hint

/-- a component fails where the container has no integer for its length -/
theorem read_unheld {stage : Stage} {sink : Container} {source : Datum} (context : Datum) (c : Cursor)
    (hs : stage.component.lengthSource? = some source) (hhashable : source.hashable = true)
    (hunheld : ∀ name, source = .text name → ∀ n, (name, Datum.int n) ∉ sink.entries) :
    ∃ e, (read context stage.component c sink).error = some e ∧ e.IsOf grammarFaults [context, source] := by
  cases stage with
  | chosen s l => simp [Stage.component, Component.lengthSource?] at hs
  | plain x =>
    cases x with
    | vector info length default =>
      cases length with
      | fixed count => simp [Stage.component, Component.lengthSource?] at hs
      | takenFrom other =>
        obtain rfl : other = source := Option.some.inj hs
        obtain ⟨e, he, hclass⟩ := resolveLength_unheld hhashable hunheld info context
        refine ⟨e, ?_, hclass⟩
        simp only [Stage.component, read, readVector, he]
    | _ => simp [Stage.component, Component.lengthSource?] at hs

/-- **A component at fault fails for its fault,** where all before it have been read. -/
theorem read_defective {done : List Stage} {stage : Stage} {c : Cursor} {sink : Container} {ts : List (List Char)}
    (context : Datum) (hdone : ∀ other ∈ done, other.Plain) (hp : stage.Plain)
    (hclear : stage.Clear ((stage.render (renderRoute [] done).known).tokens ++ ts))
    (hknown : sink.Mirrors (renderRoute [] done).known)
    (hnames : sink.names = keysOf (done.map Stage.component))
    (h : c.Stands [] ((stage.render (renderRoute [] done).known).tokens ++ ts))
    (hhashable : ∀ source, stage.component.lengthSource? = some source → source.hashable = true)
    (hcount : ∀ source ∈ stage.component.lengthSource?, ∀ y ∈ done.map Stage.component,
      isAmong [y.name] source = true → ∀ n ∈ y.integers, 0 ≤ n)
    (hd : stage.component.Defective (done.map Stage.component)) :
    ∃ e, (read context stage.component c sink).error = some e ∧
      e.IsOf grammarFaults (context :: stage.component.lengthSource?.toList) := by
  by_cases hsource : ∀ source, stage.component.lengthSource? = some source →
      ∃ writer ∈ done, writer.component.writesInt = true ∧ source = .text writer.component.name
  · -- if there is a length it is held, so the fault is that the name is taken
    have hsized := sized_of_source hdone hknown hcount hsource
    obtain ⟨after, -, hread⟩ := read_stage context hp hsized hclear hknown h
    cases hd with
    | taken hkey written =>
      have hadded : (stage.reread.declared sink).map Prod.fst = [stage.component.name] := by
        rw [map_fst_declared hp, keysOf_cons, if_pos hkey]
        rfl
      rw [← hnames] at written
      rw [hread, writeAll_taken hadded written]
      exact ⟨_, rfl, ReadError.isOf_of_shownData List.mem_cons_self nofun⟩
    | unresolved source hs unwritten =>
      obtain ⟨writer, hw, hint, heq⟩ := hsource source hs
      exact absurd heq (unwritten _ (List.mem_map_of_mem hw) hint)
  · push Not at hsource
    obtain ⟨source, hs, hunwritten⟩ := hsource
    rw [hs]
    refine read_unheld context c hs (hhashable source hs) ?_
    rintro name rfl n hm
    rw [hknown.ints] at hm
    rcases int_of_renderRoute hdone hm with hnil | ⟨writer, hw, hint, rfl, -⟩
    · simp at hnil
    · exact hunwritten writer hw hint rfl

/-! ## Rejected grammars -/

theorem keysOf_eq_declared {r : List Stage} (hp : ∀ stage ∈ r, stage.Plain) (sink : Container) :
    (r.flatMap (fun stage => stage.reread.declared sink)).map Prod.fst = keysOf (r.map Stage.component) := by
  induction r with
  | nil => rfl
  | cons stage r ih =>
    rw [List.flatMap_cons, List.map_append, map_fst_declared (hp stage List.mem_cons_self),
      ih (fun other ho => hp other (List.mem_cons_of_mem stage ho)), ← keysOf_append]
    rfl

/-- the stages of a route can be written and read where the components of the grammar can -/
theorem Route.plain_of_standard {cs : List Component} (hw : ∀ x ∈ cs, x.WellFormed)
    (hs : ∀ x ∈ everyComponentOfAll cs, x.standard = true) (hl : ∀ x ∈ everyComponentOfAll cs, x.legible = true)
    {r : List Stage} (hr : Route cs r) : ∀ stage ∈ r, stage.Plain := by
  intro stage hm
  have hc := List.mem_map_of_mem (f := Stage.component) hm
  have hstandard : stage.component.standard = true := hr.forall_component hs (fun _ _ _ _ => rfl) _ hc
  have hlegible : stage.component.legible = true := hr.forall_component hl (fun _ _ _ _ => rfl) _ hc
  exact ⟨hstandard, hr.isSwitch_eq_false _ hc, hlegible, hr.own hw stage hm⟩

theorem not_defective_map {done : List Stage}
    (h : ∀ d other t, done = d ++ other :: t → ¬ other.component.Defective (d.map Stage.component)) :
    ∀ d x t, done.map Stage.component = d ++ x :: t → ¬ x.Defective d := by
  intro d x t hsplit
  obtain ⟨before, behind, rfl, rfl, hbehind⟩ := List.map_eq_append_iff.1 hsplit
  obtain ⟨other, after, rfl, rfl, -⟩ := List.map_eq_cons_iff.1 hbehind
  exact h before other after rfl

/-- the default line of a route is read up to the first component at fault, and there it fails -/
theorem readLine_branchLine_of_defective {cs : List Component} (hw : ∀ x ∈ cs, x.WellFormed) (context : Datum)
    {done rest : List Stage} {stage : Stage} (hr : Route cs (done ++ stage :: rest))
    (hp : ∀ other ∈ done ++ stage :: rest, other.Plain)
    (hclear : ∀ other ∈ done ++ stage :: rest, other.Clear (renderRoute [] (done ++ stage :: rest)).tokens)
    (hhashable : ∀ source, stage.component.lengthSource? = some source → source.hashable = true)
    (hcount : ∀ x ∈ (done ++ stage :: rest).map Stage.component, ∀ source ∈ x.lengthSource?,
      ∀ y ∈ (done ++ stage :: rest).map Stage.component, isAmong [y.name] source = true → ∀ n ∈ y.integers, 0 ≤ n)
    (hd : stage.component.Defective (done.map Stage.component))
    (hfirst : ∀ d other t, done = d ++ other :: t → ¬ other.component.Defective (d.map Stage.component)) :
    ∃ e, (readLine context cs (branchLine (done ++ stage :: rest)) Container.empty).error = some e ∧
      e.IsOf grammarFaults (context :: stage.component.lengthSource?.toList) := by
  have hdone : ∀ other ∈ done, other.Plain := fun other ho => hp other (List.mem_append_left _ ho)
  have hstage : stage ∈ done ++ stage :: rest := List.mem_append_right _ List.mem_cons_self
  -- the tokens of the line are those of the stages before, of the stage at fault, and of the others
  have htokens : (renderRoute [] (done ++ stage :: rest)).tokens = (renderRoute [] done).tokens ++
      ((stage.render (renderRoute [] done).known).tokens ++
        (renderRoute (stage.render (renderRoute [] done).known).known rest).tokens) := by
    rw [renderRoute_append]
    rfl
  have hstart : (Cursor.ofLine (branchLine (done ++ stage :: rest))).Stands []
      (renderRoute [] (done ++ stage :: rest)).tokens := .ofJoin isToken_of_mem_renderRoute
  rw [htokens] at hclear hstart
  have hsized : ∀ d other t, done = d ++ other :: t → ∀ after : Container,
      after.Mirrors (renderRoute [] d).known → other.Sized after := by
    rintro d other t rfl after ha
    refine sized_of_not_defective (fun x hx => hdone x (List.mem_append_left _ hx)) ha (fun source hs y hy => ?_)
      (hfirst d other t rfl)
    refine hcount _ (List.mem_map_of_mem (by simp)) source hs y ?_
    obtain ⟨writer, hm, rfl⟩ := List.mem_map.1 hy
    exact List.mem_map_of_mem (by simp [hm])
  have hnodup : (Container.empty.names ++ keysOf (done.map Stage.component)).Nodup :=
    (nodup_of_repeatedIn (repeatedIn_eq_nil_of_not_defective (not_defective_map hfirst))).1
  obtain ⟨⟨hfine, hstands, hentries⟩, hmirrors, -⟩ := replay_route context hdone
    (fun other ho => hclear other (List.mem_append_left _ ho)) hsized hnodup .empty hstart
  have hnames : (readAll context (done.map Stage.component) (.ofLine (branchLine (done ++ stage :: rest)))
      Container.empty).sink.names = keysOf (done.map Stage.component) := by
    rw [Container.names, hentries]
    exact keysOf_eq_declared hdone _
  obtain ⟨e, he, hclass⟩ := read_defective context hdone (hp stage hstage)
    ((hclear stage hstage).of_subset (List.subset_append_right _ _)) hmirrors hnames hstands hhashable
    (fun source hs y hy => hcount _ (List.mem_map_of_mem hstage) source hs y
      (by rw [List.map_append]; exact List.mem_append_left _ hy)) hd
  -- the keys of the choices before are held, and behind the stage at fault there is nothing to follow
  have hleads : LeadsAlong context (done ++ stage :: rest) (.ofLine (branchLine (done ++ stage :: rest)))
      Container.empty := by
    refine leadsAlong_append.2 ⟨leadsAlong_of_tells ?_ List.prefix_rfl (fun s l hm => ?_), fun _ hfine' => ?_⟩
    · intro x hx
      obtain ⟨other, ho, rfl⟩ := List.mem_map.1 hx
      exact (hdone other ho).isSwitch
    · rw [Container.get?_eq_some_iff, hentries]
      exact List.mem_append_right _ (List.mem_flatMap.2 ⟨.chosen s l, hm, List.mem_singleton_self _⟩)
    · rw [he] at hfine'
      simp at hfine'
  refine ⟨e, ?_, hclass⟩
  rw [readLine, readAll_of_leadsAlong hr hw hleads, List.map_append, List.map_cons, readAll_append,
    Outcome.andThen_of_none hfine, readAll_cons_of_some he]
  exact he

/-- **A rejected grammar fails on one of its default lines.** If the literals of the grammar can be told apart on every
branch, and no length is taken from a field that writes a negative integer, then a grammar whose report is not valid has
a default line on which reading fails for a fault of the grammar: a name is taken, or a length cannot be resolved. The
error says so as long as the section and the sources of the lengths can be shown, which texts always can. -/
theorem rejected_grammar_fails_on_default_line {cs : List Component} (hw : ∀ x ∈ cs, x.WellFormed)
    (hs : ∀ x ∈ everyComponentOfAll cs, x.standard = true) (hl : ∀ x ∈ everyComponentOfAll cs, x.legible = true)
    (hclear : ∀ r, Route cs r → ∀ stage ∈ r, stage.Clear (renderRoute [] r).tokens)
    (hcount : ∀ b ∈ branchesOfAll cs, ∀ x ∈ b, ∀ source ∈ x.lengthSource?, ∀ y ∈ b,
      isAmong [y.name] source = true → ∀ n ∈ y.integers, 0 ≤ n)
    {name : Datum} {report : Report} (hbuild : Report.build name cs = .ok report) (hinvalid : report.valid = false)
    (context : Datum) :
    ∃ lines, defaultLines cs = .ok lines ∧ ∃ line ∈ lines, ∃ e,
      (readLine context cs line Container.empty).error = some e ∧
        e.IsOf grammarFaults (context :: (everyComponentOfAll cs).filterMap Component.lengthSource?) := by
  obtain ⟨hhashable, rfl⟩ : sourcesHashable cs = true ∧ analyze name cs = report := by
    unfold Report.build at hbuild
    split at hbuild
    · rename_i hh
      exact ⟨hh, Except.ok.inj hbuild⟩
    · simp at hbuild
  obtain ⟨done, stage, rest, hr, hd, hfirst⟩ := exists_first_defect hw hinvalid
  have hp := hr.plain_of_standard hw hs hl
  have hsources : ∀ y ∈ everyComponentOfAll cs, ∀ source, y.lengthSource? = some source → source.hashable = true := by
    intro y hy source hsource
    have hall := List.all_eq_true.1 hhashable y hy
    simpa [hsource] using hall
  have hamong : ∀ source, stage.component.lengthSource? = some source →
      ∃ y ∈ everyComponentOfAll cs, y.lengthSource? = some source := by
    intro source hsource
    have hm : stage.component ∈ (done ++ stage :: rest).map Stage.component := List.mem_map_of_mem (by simp)
    rcases hr.mem_everyComponent _ hm with hm | ⟨s, -, -, -, hm⟩
    · exact ⟨_, hm, hsource⟩
    · rw [hm] at hsource
      simp [Component.lengthSource?] at hsource
  have hhash : ∀ source, stage.component.lengthSource? = some source → source.hashable = true := by
    intro source hsource
    obtain ⟨y, hy, hs⟩ := hamong source hsource
    exact hsources y hy source hs
  obtain ⟨e, he, hclass⟩ := readLine_branchLine_of_defective hw context hr hp (hclear _ hr) hhash
    (hcount _ hr.mem_branchesOfAll) hd hfirst
  have hwritable : ∀ y ∈ everyComponentOfAll cs, y.isSwitch = false → y.Writable := by
    refine fun y hy _ => ⟨?_, hsources y hy, hl y hy⟩
    rintro info kind rfl
    simpa [Component.standard] using hs _ hy
  have hlines := (defaultLines_of_writable hw hwritable).1
  have hmem := branchLine_mem_defaultLines hr hlines
  refine ⟨_, hlines, _, hmem, e, he, hclass.mono (List.Subset.refl _) (List.cons_subset_cons _ fun source hs => ?_)⟩
  obtain ⟨y, hy, hs⟩ := hamong source (Option.mem_toList.1 hs)
  exact List.mem_filterMap.2 ⟨y, hy, hs⟩

/-- the fields of a kinetic model that sizes a vector by a count which it does not have -/
def uncountedFields : List Component :=
  [Manifold.label (Manifold.token "STOICHIOMETRIES" rfl),
    .vector (Manifold.field "STOICHIOMETRIES") (.takenFrom (.text "NUMSCAL")) (.int 0)]

/-- kinetic models of which the second one is at fault -/
def uncountedKinetics : List Component :=
  [Manifold.label (Manifold.token "KINETIC_MODEL" (Eq.refl true)),
    .switch Manifold.kineticModel (.int 1)
      [⟨Manifold.constantInterfaceResistance, []⟩, ⟨Manifold.butlerVolmerReduced, uncountedFields⟩,
        ⟨Manifold.noInterfaceFlux, []⟩]]

theorem uncountedKinetics_wellFormed : ∀ x ∈ uncountedKinetics, x.WellFormed := by
  intro x hx
  rcases List.mem_cons.1 hx with rfl | hx
  · exact Component.wellFormed_of_plain rfl
  · rw [List.mem_singleton.1 hx]
    refine .switch Manifold.kineticModel (.int 1) _ rfl ((Key.same_datum_iff (j := .int 1)).2 rfl) ?_
    intro choice hc
    simp only [List.mem_cons, List.not_mem_nil, or_false] at hc
    rcases hc with rfl | rfl | rfl
    · exact Manifold.wellFormed_of_plain_fields rfl
    · exact Manifold.wellFormed_of_plain_fields rfl
    · exact Manifold.wellFormed_of_plain_fields rfl

theorem uncountedKinetics_clear :
    ∀ r, Route uncountedKinetics r → ∀ stage ∈ r, stage.Clear (renderRoute [] r).tokens := by
  intro r hr
  cases hr with
  | plain _ hr =>
    cases hr with
    | plain h => simp [Component.isSwitch] at h
    | switch hc inner hr =>
      cases hr
      simp only [List.mem_cons, List.not_mem_nil, or_false] at hc
      rcases hc with rfl | rfl | rfl <;> obtain rfl := inner.eq_of_plain rfl <;> decide +kernel

/-- the default line of the second model shows that the count is missing -/
theorem rejected_grammar_fails_on_default_line_uncounted :
    (analyze .null uncountedKinetics).valid = false ∧
      ∃ lines, defaultLines uncountedKinetics = .ok lines ∧ ∃ line ∈ lines, ∃ e,
        (readLine .null uncountedKinetics line Container.empty).error = some e ∧
          (e.errorClass = .duplicateKey ∨ e.errorClass = .internalInconsistency) := by
  have hbuild : Report.build .null uncountedKinetics = .ok (analyze .null uncountedKinetics) := rfl
  have hinvalid : (analyze .null uncountedKinetics).valid = false := by decide +kernel
  obtain ⟨lines, hlines, line, hmem, e, he, hclass⟩ := rejected_grammar_fails_on_default_line
    uncountedKinetics_wellFormed (by decide +kernel) (by decide +kernel) uncountedKinetics_clear (by decide +kernel)
    hbuild hinvalid .null
  have hmade := hclass.made (by decide +kernel)
  exact ⟨hinvalid, lines, hlines, line, hmem, e, he, by simpa [grammarFaults] using hmade⟩

end LineGrammar
