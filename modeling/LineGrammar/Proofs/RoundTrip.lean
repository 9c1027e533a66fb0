/-
The default line of a branch is read back.

Writing puts the tokens of a branch in a row; reading searches the whole line for labels, cuts them out and goes back to
where it was. On a default line the two meet at every stage: the cursor stands before all the tokens that are left, and
they begin with those of the stage (`Cursor.Stands [] ts`). So each stage finds its own tokens first, and what it leaves
in the container is what writing holds as known, but for the payload of what is not a number.
- `read_stage`: one stage reads what it has written, and goes on to write its entries.
- `replay_route`: a route reads what it has written, whatever tokens come behind, by induction on its stages.
- `read_defaultLine`: the round trip.
-/
import LineGrammar.Proofs.Anchor
import LineGrammar.Proofs.BranchLine
import LineGrammar.Proofs.Readback

namespace LineGrammar

/-- at the beginning of a line that is put together from tokens all of them are ahead -/
theorem Cursor.Stands.ofJoin {ts : List (List Char)} (h : ∀ t ∈ ts, isToken t = true) :
    (Cursor.ofLine (joinTokens ts)).Stands [] ts := by
  have hstands := Cursor.Stands.ofLine (joinTokens ts)
  rwa [tokens_joinTokens h] at hstands

/-! ## What the stages of a route declare -/

/-- what a length comes to -/
def Length.resolved (sink : Container) : Length → Nat
  | .fixed count => count
  | .takenFrom source =>
    match sink.ask source with
    | .value (.int n) => n.toNat
    | _ => 0

/-- the entries that a stage declares: the default of a field, the default of a vector as often as its length says, the
value of a selection's default, and the key of the choice that was made -/
def Stage.declared (sink : Container) : Stage → List (String × Datum)
  | .plain (.scalar info default) => [(info.name, default.datum)]
  | .plain (.vector info length default) =>
    [(info.name, .list (List.replicate (length.resolved sink) default.datum))]
  | .plain (.selection s) => [(s.info.name, s.default.value.datum)]
  | .plain _ => []
  | .chosen s l => [(s.info.name, l.value.datum)]

/-- the selection of a stage with the literal that is written for it -/
def Stage.literal? : Stage → Option (Selection × Literal)
  | .plain (.selection s) => some (s, s.default)
  | .plain _ => none
  | .chosen s l => some (s, l)

/-- no literal of the stage's selection is among the tokens, but the one that is written -/
def Stage.Clear (ts : List (List Char)) (stage : Stage) : Prop :=
  ∀ p ∈ stage.literal?, ∀ k ∈ p.1.literals, k ≠ p.2 → k.token.chars ∉ ts

instance (ts : List (List Char)) (stage : Stage) : Decidable (stage.Clear ts) :=
  inferInstanceAs (Decidable (∀ p ∈ stage.literal?, ∀ k ∈ p.1.literals, k ≠ p.2 → k.token.chars ∉ ts))

/-- whether the default of the stage can be read back from what is written for it -/
def Stage.readable : Stage → Bool
  | .plain (.scalar _ (.number n)) | .plain (.vector _ _ n) => n.readable
  | _ => true

theorem Length.Counts.resolved_eq {sink : Container} {length : Length} {n : Nat} (h : length.Counts sink n) :
    length.resolved sink = n := by
  cases length with
  | fixed count => exact h.symm
  | takenFrom source =>
    obtain ⟨name, rfl, hv⟩ := h
    simp [Length.resolved, Container.ask_text hv]

theorem Length.Counts.resolveLength_eq {sink : Container} {length : Length} {n : Nat} (h : length.Counts sink n)
    (field context : Datum) : resolveLength length sink field context = .ok n := by
  cases length with
  | fixed count => rw [resolveLength, h]
  | takenFrom source =>
    obtain ⟨name, rfl, hv⟩ := h
    have hask : Sink.ask sink (.text name) = .value (.int n) := Container.ask_text hv
    simp only [resolveLength, hask]
    rw [if_neg (by omega), Int.toNat_natCast]

/-! ## What is read for what was written -/

/-- the default that is read where the default of a field was written -/
def Scalar.reread : Scalar → Scalar
  | .number n => .number n.reread
  | default => default

/-- the stage with the default that is read where its own was written -/
def Stage.reread : Stage → Stage
  | .plain (.scalar info default) => .plain (.scalar info default.reread)
  | .plain (.vector info length default) => .plain (.vector info length default.reread)
  | stage => stage

/-- a stage that can be written and read -/
structure Stage.Plain (stage : Stage) : Prop where
  standard : stage.component.standard = true
  isSwitch : stage.component.isSwitch = false
  legible : stage.component.legible = true
  own : ∀ p ∈ stage.literal?, p.2 ∈ p.1.literals

/-- what is readable is read as it was written -/
theorem reread_of_readable {stage : Stage} (h : stage.readable = true) : stage.reread = stage := by
  cases stage with
  | chosen s l => rfl
  | plain x =>
    cases x with
    | scalar info default =>
      cases default with
      | number n => rw [Stage.reread, Scalar.reread, Number.reread_of_readable h]
      | _ => rfl
    | vector info length default => rw [Stage.reread, Number.reread_of_readable h]
    | _ => rfl

theorem legible_of_readable {stage : Stage} (h : stage.readable = true) : stage.component.legible = true := by
  cases stage with
  | chosen s l => rfl
  | plain x =>
    cases x with
    | scalar info default =>
      cases default with
      | number n => exact Number.legible_of_readable h
      | _ => rfl
    | vector info length default => exact Number.legible_of_readable h
    | _ => rfl

/-- a number that is read is an integer only if the same integer was written -/
theorem datum_reread_eq_int_iff (n : Number) (k : Int) : n.reread.datum = .int k ↔ n.datum = .int k := by
  cases n with
  | int n => rfl
  | real x => cases x <;> simp [Number.reread, Number.datum]

/-- what writing holds as known and what reading has left: the same names, and the same integers under them -/
structure Container.Mirrors (sink : Container) (known : Known) : Prop where
  names_eq : sink.names = (known.map Prod.fst).reverse
  ints : ∀ name n, (name, Datum.int n) ∈ sink.entries ↔ (name, Datum.int n) ∈ known

namespace Container.Mirrors

variable {sink after : Container} {known : Known}

theorem empty : Container.empty.Mirrors [] :=
  ⟨rfl, fun _ _ => Iff.rfl⟩

theorem same (h : sink.Mirrors known) (ha : after.entries = sink.entries) : after.Mirrors known := by
  refine ⟨?_, fun name n => ?_⟩
  · rw [Container.names, ha]
    exact h.names_eq
  · rw [ha]
    exact h.ints name n

theorem cons (h : sink.Mirrors known) {name : String} {read written : Datum}
    (ha : after.entries = sink.entries ++ [(name, read)]) (hints : ∀ n, read = .int n ↔ written = .int n) :
    after.Mirrors ((name, written) :: known) := by
  refine ⟨?_, fun other n => ?_⟩
  · have hnames : sink.entries.map Prod.fst = (known.map Prod.fst).reverse := h.names_eq
    simp [Container.names, ha, hnames]
  · have hthis : Datum.int n = read ↔ Datum.int n = written := by
      rw [eq_comm, hints, eq_comm]
    simp only [ha, List.mem_append, h.ints, List.mem_cons, List.not_mem_nil, or_false, Prod.mk.injEq, hthis]
    exact or_comm

end Container.Mirrors

/-- what writing knows is what the container holds -/
theorem Length.Counts.defaultCount_eq {sink : Container} {known : Known} (hknown : sink.Mirrors known)
    {length : Length} {n : Nat} (h : length.Counts sink n) : defaultCount length known = n := by
  cases length with
  | fixed count => exact h.symm
  | takenFrom source =>
    obtain ⟨name, rfl, hv⟩ := h
    have hnodup : (known.map Prod.fst).Nodup := by
      have hn : sink.names.Nodup := sink.nodup
      rwa [hknown.names_eq, List.nodup_reverse] at hn
    have hlookup : known.lookup name = some (.int n) := by
      rw [Container.lookup_eq_some_iff_mem hnodup, ← hknown.ints]
      exact Container.get?_eq_some_iff.1 hv
    simp only [defaultCount, knownCount, hlookup]
    rw [if_neg (by omega), Int.toNat_natCast]

/-! ## Components that read what was written for them -/

section

variable {c : Cursor} {ts : List (List Char)} (context : Datum) (sink : Container)

theorem readSeparator_written {label : Token} (optional : Bool) (h : c.Stands [] (label.chars :: ts)) :
    ∃ after : Cursor, after.Stands [] ts ∧ readSeparator label optional context c sink = ⟨after, sink, none⟩ := by
  have htokens : tokens c.line = label.chars :: ts := h.tokens_line
  have hmem : label.chars ∈ tokens c.line := by
    rw [htokens]
    exact List.mem_cons_self
  obtain ⟨after, hafter, -, hread⟩ := readSeparator_found context sink optional hmem
  rw [htokens, around_cons] at hafter
  exact ⟨after, hafter, hread⟩

theorem convertScalar_chars {info : Info} {default : Scalar} (h : (Component.scalar info default).legible = true) :
    convertScalar default info context default.chars = .ok default.reread.datum := by
  cases default with
  | text token => rfl
  | number n =>
    simp only [convertScalar, Scalar.chars, convert_chars h]
    rfl
  | flag b => cases b <;> rfl

theorem readScalar_written {info : Info} {default : Scalar} (hlegible : (Component.scalar info default).legible = true)
    (h : c.Stands [] (default.chars :: ts)) :
    ∃ after : Cursor, after.Stands [] ts ∧
      readScalar info default context c sink = write after sink info.name default.reread.datum := by
  obtain ⟨after, hafter, -, hread⟩ := readScalar_of_token context sink info default h
  rw [convertScalar_chars context hlegible] at hread
  exact ⟨after, hafter, hread⟩

theorem numbersAhead_replicate (info : Info) {n : Number} (h : n.legible = true) (expected count : Nat)
    (ts : List (List Char)) : numbersAhead info n.kind expected context count (List.replicate count n.chars ++ ts) =
      (ts, .ok (List.replicate count n.reread.datum)) := by
  induction count with
  | zero => rfl
  | succ count ih =>
    simp only [List.replicate_succ, List.cons_append, numbersAhead, convert_chars h, ih]
    rfl

theorem readVector_written {info : Info} {length : Length} {default : Number} {count : Nat}
    (hlegible : default.legible = true) (hcount : length.Counts sink count)
    (h : c.Stands [] (List.replicate count default.chars ++ ts)) :
    ∃ after : Cursor, after.Stands [] ts ∧ readVector info length default context c sink =
      write after sink info.name (.list (List.replicate count default.reread.datum)) := by
  have hnumbers := numbersAhead_replicate context info hlegible count count ts
  rcases readVector_stands context sink default h (hcount.resolveLength_eq info.label context) with
    ⟨after, hafter, -, hread⟩ | ⟨hnil, hne, -, -⟩
  · rw [hnumbers] at hafter hread
    refine ⟨after, hafter, ?_⟩
    simpa [fillUp] using hread
  · refine absurd ?_ hne
    simpa using congrArg List.length (List.append_eq_nil_iff.1 hnil).1

/-- a selection finds the literal that was written for it, for no other of its literals is left -/
theorem readSelection_written {s : Selection} {l : Literal} (hl : l ∈ s.literals)
    (hclear : ∀ k ∈ s.literals, k ≠ l → k.token.chars ∉ l.token.chars :: ts) (h : c.Stands [] (l.token.chars :: ts)) :
    ∃ after : Cursor, after.Stands [] ts ∧ readSelection s c sink = write after sink s.info.name l.value.datum := by
  have htokens : tokens c.line = l.token.chars :: ts := h.tokens_line
  rcases readSelection_stands s c sink with ⟨k, hk, after, hafter, -, hread⟩ | ⟨hnone, -⟩
  · rw [htokens] at hk hafter
    obtain ⟨hmem, hleft⟩ := mem_of_selected? hk
    have hkl : k = l := by
      by_contra hne
      exact hclear k hmem hne hleft
    subst hkl
    rw [around_cons] at hafter
    exact ⟨after, hafter, hread⟩
  · have hnot := List.find?_eq_none.1 hnone l hl
    rw [htokens] at hnot
    simp at hnot

end

/-! ## Stages that read what was written for them -/

/-- the length of the stage, if it has one, is held -/
def Stage.Sized (sink : Container) (stage : Stage) : Prop :=
  ∀ info length default, stage = .plain (.vector info length default) → ∃ n, length.Counts sink n

theorem Stage.Sized.of_grows {before after : Container} {stage : Stage} (h : before.entries <+: after.entries)
    (hs : stage.Sized before) : stage.Sized after := by
  intro info length default hv
  obtain ⟨n, hn⟩ := hs info length default hv
  exact ⟨n, hn.of_grows h⟩

/-- what is read of a stage does not change while the container grows -/
theorem Stage.Sized.declared_eq {before after : Container} {stage : Stage} (h : before.entries <+: after.entries)
    (hs : stage.Sized before) : stage.reread.declared after = stage.reread.declared before := by
  cases stage with
  | chosen s l => rfl
  | plain x =>
    cases x with
    | vector info length default =>
      obtain ⟨n, hn⟩ := hs info length default rfl
      simp only [reread, declared, hn.resolved_eq, (hn.of_grows h).resolved_eq]
    | _ => rfl

/-- what is read of a stage is one entry under its key, if it writes one -/
theorem map_fst_declared {stage : Stage} (hp : stage.Plain) (sink : Container) :
    (stage.reread.declared sink).map Prod.fst = keysOf [stage.component] := by
  cases stage with
  | chosen s l => rfl
  | plain x =>
    cases x with
    | switch s key choices => exact absurd hp.isSwitch (by simp [Stage.component, Component.isSwitch])
    | unsupported info kind => exact absurd hp.standard (by simp [Stage.component, Component.standard])
    | _ => rfl

/-- behind a stage reading still mirrors writing -/
theorem Container.Mirrors.render {stage : Stage} {sink after : Container} {known : Known} (h : sink.Mirrors known)
    (hp : stage.Plain) (ha : after.entries = sink.entries ++ stage.reread.declared sink) :
    after.Mirrors (stage.render known).known := by
  cases stage with
  | chosen s l => exact h.cons ha (fun _ => Iff.rfl)
  | plain x =>
    cases x with
    | separator label optional description => exact h.same (ha.trans (List.append_nil _))
    | scalar info default =>
      refine h.cons ha (fun n => ?_)
      cases default with
      | number m => exact datum_reread_eq_int_iff m n
      | _ => exact Iff.rfl
    | vector info length default => exact h.cons ha (fun n => by simp)
    | selection s => exact h.cons ha (fun _ => Iff.rfl)
    | switch s key choices => exact absurd hp.isSwitch (by simp [Stage.component, Component.isSwitch])
    | processed info insertion => exact absurd hp.standard (by simp [Stage.component, Component.standard])
    | unsupported info kind => exact absurd hp.standard (by simp [Stage.component, Component.standard])

theorem Stage.Clear.of_subset {ts us : List (List Char)} {stage : Stage} (h : stage.Clear ts) (hsub : us ⊆ ts) :
    stage.Clear us :=
  fun p hp k hk hne hm => h p hp k hk hne (hsub hm)

theorem writeAll_singleton (c : Cursor) (sink : Container) (name : String) (value : Datum) :
    writeAll c sink [(name, value)] = write c sink name value :=
  Outcome.andThen_done _

/-- **A stage reads what was written for it,** and goes on to write what it has read. -/
theorem read_stage {stage : Stage} {c : Cursor} {sink : Container} {known : Known} {ts : List (List Char)}
    (context : Datum) (hp : stage.Plain) (hs : stage.Sized sink)
    (hclear : stage.Clear ((stage.render known).tokens ++ ts)) (hknown : sink.Mirrors known)
    (h : c.Stands [] ((stage.render known).tokens ++ ts)) :
    ∃ after : Cursor, after.Stands [] ts ∧
      read context stage.component c sink = writeAll after sink (stage.reread.declared sink) := by
  cases stage with
  | chosen s l =>
    simp only [Stage.reread, Stage.declared, writeAll_singleton]
    exact readSelection_written sink (hp.own (s, l) rfl) (hclear (s, l) rfl) h
  | plain x =>
    cases x with
    | separator label optional description => exact readSeparator_written context sink optional h
    | scalar info default =>
      simp only [Stage.reread, Stage.declared, writeAll_singleton]
      exact readScalar_written context sink hp.legible h
    | vector info length default =>
      obtain ⟨n, hn⟩ := hs info length default rfl
      simp only [Stage.render, renderLeaf, hn.defaultCount_eq hknown] at h
      simp only [Stage.reread, Stage.declared, writeAll_singleton, hn.resolved_eq]
      exact readVector_written context sink hp.legible hn h
    | selection s =>
      simp only [Stage.reread, Stage.declared, writeAll_singleton]
      exact readSelection_written sink s.default_mem (hclear (s, s.default) rfl) h
    | switch s key choices => exact absurd hp.isSwitch (by simp [Stage.component, Component.isSwitch])
    | processed info insertion => exact absurd hp.standard (by simp [Stage.component, Component.standard])
    | unsupported info kind => exact absurd hp.standard (by simp [Stage.component, Component.standard])

/-! ## Routes that read what was written for them -/

/-- a reading goes well, leaves the given tokens and adds the given entries -/
structure Reads (o : Outcome Container) (sink : Container) (ts : List (List Char)) (added : List (String × Datum)) :
    Prop where
  fine : o.error = none
  stands : o.cursor.Stands [] ts
  entries : o.sink.entries = sink.entries ++ added

/-- entries under new names are written -/
theorem writeAll_reads {c : Cursor} {sink : Container} {ts : List (List Char)} {added : List (String × Datum)}
    (h : c.Stands [] ts) (hnew : (sink.names ++ added.map Prod.fst).Nodup) :
    Reads (writeAll c sink added) sink ts added := by
  induction added generalizing sink with
  | nil => exact ⟨rfl, h, (List.append_nil _).symm⟩
  | cons entry added ih =>
    obtain ⟨name, value⟩ := entry
    rcases write_cases c sink name value with ⟨hm, -⟩ | ⟨after, ha, hw⟩
    · rw [List.nodup_append] at hnew
      exact absurd rfl (hnew.2.2 name hm name List.mem_cons_self)
    · have hnames : after.names ++ added.map Prod.fst = sink.names ++ ((name, value) :: added).map Prod.fst := by
        rw [Container.names, ha, List.map_append, List.append_assoc]
        rfl
      rw [← hnames] at hnew
      obtain ⟨hfine, hstands, hentries⟩ := ih hnew
      rw [writeAll, hw, Outcome.andThen_of_none rfl]
      refine ⟨hfine, hstands, ?_⟩
      rw [hentries, ha, List.append_assoc]
      rfl

/-- **A route reads what was written for it,** whatever tokens come behind. -/
theorem replay_route (context : Datum) {r : List Stage} {known : Known} {c : Cursor} {sink : Container}
    {ts : List (List Char)} (hp : ∀ stage ∈ r, stage.Plain)
    (hclear : ∀ stage ∈ r, stage.Clear ((renderRoute known r).tokens ++ ts))
    (hsized : ∀ done stage rest, r = done ++ stage :: rest → ∀ after : Container,
      after.Mirrors (renderRoute known done).known → stage.Sized after)
    (hnodup : (sink.names ++ keysOf (r.map Stage.component)).Nodup) (hknown : sink.Mirrors known)
    (h : c.Stands [] ((renderRoute known r).tokens ++ ts)) :
    Reads (readAll context (r.map Stage.component) c sink) sink ts
        (r.flatMap (fun stage => stage.reread.declared (readAll context (r.map Stage.component) c sink).sink)) ∧
      (readAll context (r.map Stage.component) c sink).sink.Mirrors (renderRoute known r).known ∧
      ∀ stage ∈ r, stage.Sized (readAll context (r.map Stage.component) c sink).sink := by
  induction r generalizing known c sink with
  | nil => exact ⟨⟨rfl, h, (List.append_nil _).symm⟩, hknown, by simp⟩
  | cons stage r ih =>
    have hplain := hp stage List.mem_cons_self
    have hsize := hsized [] stage r rfl sink hknown
    rw [renderRoute, List.append_assoc] at h
    have hread : Reads (read context stage.component c sink) sink
        ((renderRoute (stage.render known).known r).tokens ++ ts) (stage.reread.declared sink) := by
      have hclears := hclear stage List.mem_cons_self
      rw [renderRoute, List.append_assoc] at hclears
      obtain ⟨after, hafter, hwrites⟩ := read_stage context hplain hsize hclears hknown h
      rw [hwrites]
      refine writeAll_reads hafter ?_
      rw [map_fst_declared hplain]
      rw [List.map_cons, ← List.singleton_append, keysOf_append, ← List.append_assoc] at hnodup
      exact (List.nodup_append.1 hnodup).1
    have hnext := hknown.render hplain hread.entries
    have hnames : (read context stage.component c sink).sink.names = sink.names ++ keysOf [stage.component] := by
      rw [Container.names, hread.entries, List.map_append, map_fst_declared hplain]
      rfl
    obtain ⟨hrest, hmirrors, hsizes⟩ := @ih (stage.render known).known (read context stage.component c sink).cursor
      (read context stage.component c sink).sink
      (fun other ho => hp other (List.mem_cons_of_mem stage ho))
      (fun other ho => (hclear other (List.mem_cons_of_mem stage ho)).of_subset
        (by rw [renderRoute, List.append_assoc]; exact List.subset_append_right _ _))
      (fun done other rest hr after ha => hsized (stage :: done) other rest (by rw [hr]; rfl) after ha)
      (by rw [hnames, List.append_assoc, ← keysOf_append]; exact hnodup) hnext hread.stands
    have hstep : sink.entries <+: (read context stage.component c sink).sink.entries := ⟨_, hread.entries.symm⟩
    have hplains : ∀ x ∈ r.map Stage.component, x.isSwitch = false := by
      intro x hx
      obtain ⟨other, ho, rfl⟩ := List.mem_map.1 hx
      exact (hp other (List.mem_cons_of_mem stage ho)).isSwitch
    -- what is read of the stage is still held when the others have been read
    have hgrows := hstep.trans (readAll_grows hplains context (read context stage.component c sink).cursor
      (read context stage.component c sink).sink)
    rw [List.map_cons, readAll_cons_of_none hread.fine]
    refine ⟨⟨hrest.fine, hrest.stands, ?_⟩, hmirrors, fun other ho => ?_⟩
    · rw [hrest.entries, hread.entries, List.flatMap_cons, List.append_assoc, hsize.declared_eq hgrows]
    · rcases List.mem_cons.1 ho with rfl | ho
      · exact hsize.of_grows hgrows
      · exact hsizes other ho

/-! ## The default line of a branch -/

/-- the literal chosen on a route is one of its discriminator's -/
theorem Route.own {cs : List Component} {r : List Stage} (h : Route cs r) (hw : ∀ x ∈ cs, x.WellFormed) :
    ∀ stage ∈ r, ∀ p ∈ stage.literal?, p.2 ∈ p.1.literals := by
  induction h with
  | nil => simp
  | @plain x xs r hx _ ih =>
    intro stage hm p hp
    rcases List.mem_cons.1 hm with rfl | hm
    · cases x with
      | selection s =>
        obtain rfl := Option.some.inj hp
        exact s.default_mem
      | _ => simp [Stage.literal?] at hp
    · exact ih (fun y hy => hw y (List.mem_cons_of_mem x hy)) stage hm p hp
  | @switch s key choices choice xs below r hc _ _ ihInner ihRest =>
    intro stage hm p hp
    cases hw _ List.mem_cons_self with
    | switch _ _ _ aligned _ wf =>
      rcases List.mem_cons.1 hm with rfl | hm
      · obtain rfl := Option.some.inj hp
        show choice.literal ∈ s.literals
        rw [← aligned]
        exact List.mem_map_of_mem hc
      · rcases List.mem_append.1 hm with hm | hm
        · exact ihInner (wf choice hc) stage hm p hp
        · exact ihRest (fun y hy => hw y (List.mem_cons_of_mem _ hy)) stage hm p hp

theorem isToken_scalar_chars (default : Scalar) : isToken default.chars = true := by
  cases default with
  | text token => exact isToken_chars token
  | number n => exact n.isToken_chars
  | flag b => cases b <;> rfl

theorem isToken_of_mem_render {stage : Stage} {known : Known} :
    ∀ t ∈ (stage.render known).tokens, isToken t = true := by
  intro t ht
  cases stage with
  | chosen s l =>
    rw [List.mem_singleton.1 ht]
    exact isToken_chars l.token
  | plain x =>
    cases x with
    | separator label optional description =>
      rw [List.mem_singleton.1 ht]
      exact isToken_chars label
    | scalar info default =>
      rw [List.mem_singleton.1 ht]
      exact isToken_scalar_chars default
    | vector info length default =>
      rw [List.eq_of_mem_replicate ht]
      exact default.isToken_chars
    | selection s =>
      rw [List.mem_singleton.1 ht]
      exact isToken_chars s.default.token
    | processed info insertion =>
      rw [List.mem_singleton.1 ht]
      rfl
    | _ => simp [Stage.render, renderLeaf] at ht

theorem isToken_of_mem_renderRoute {r : List Stage} {known : Known} :
    ∀ t ∈ (renderRoute known r).tokens, isToken t = true := by
  induction r generalizing known with
  | nil => simp [renderRoute]
  | cons stage r ih =>
    intro t ht
    rcases List.mem_append.1 ht with ht | ht
    · exact isToken_of_mem_render t ht
    · exact ih t ht

/-- what is known stays known -/
theorem known_suffix (known : Known) (r : List Stage) : known <:+ (renderRoute known r).known := by
  induction r generalizing known with
  | nil => exact List.suffix_rfl
  | cons stage r ih =>
    refine List.IsSuffix.trans ?_ (ih (stage.render known).known)
    cases stage with
    | chosen s l => exact ⟨[_], rfl⟩
    | plain x =>
      cases x with
      | scalar | vector | selection => exact ⟨[_], rfl⟩
      | _ => exact List.suffix_rfl

/-- a stage that can be a length is written as an integer, and known as one behind it -/
theorem exists_int_known {stage : Stage} (hown : ∀ p ∈ stage.literal?, p.2 ∈ p.1.literals)
    (hint : stage.component.writesInt = true) (known : Known) :
    ∃ n, (stage.component.name, Datum.int n) ∈ (stage.render known).known := by
  cases stage with
  | chosen s l =>
    obtain ⟨n, hn⟩ := exists_int_of_mem_literals hint (hown (s, l) rfl)
    exact ⟨n, by rw [← hn]; exact List.mem_cons_self⟩
  | plain x =>
    cases x with
    | scalar info default =>
      cases default with
      | number n =>
        cases n with
        | int n => exact ⟨n, List.mem_cons_self⟩
        | real x => simp [Stage.component, Component.writesInt] at hint
      | _ => simp [Stage.component, Component.writesInt] at hint
    | selection s =>
      obtain ⟨n, hn⟩ := exists_int_of_mem_literals hint s.default_mem
      exact ⟨n, by rw [← hn]; exact List.mem_cons_self⟩
    | _ => simp [Stage.component, Component.writesInt] at hint

/-- the integer that a stage writes is known behind all the stages after it -/
theorem exists_int_known_behind {done : List Stage} {writer : Stage} (hm : writer ∈ done)
    (hown : ∀ p ∈ writer.literal?, p.2 ∈ p.1.literals) (hint : writer.component.writesInt = true) (known : Known) :
    ∃ n, (writer.component.name, Datum.int n) ∈ (renderRoute known done).known := by
  obtain ⟨before, between, rfl⟩ := List.append_of_mem hm
  obtain ⟨n, hn⟩ := exists_int_known hown hint (renderRoute known before).known
  refine ⟨n, ?_⟩
  rw [renderRoute_append]
  exact (known_suffix _ between).subset hn

/-- a length that is written as an integer before is held, once what comes before it is read -/
theorem sized_of_written {done : List Stage} {stage : Stage} (hp : ∀ other ∈ done, other.Plain)
    (hsource : ∀ source, stage.component.lengthSource? = some source →
      ∃ writer ∈ done, writer.component.writesInt = true ∧ source = .text writer.component.name)
    (hcount : ∀ name, stage.component.lengthSource? = some (.text name) →
      ∀ n, (name, Datum.int n) ∈ (renderRoute [] done).known → 0 ≤ n)
    {after : Container} (ha : after.Mirrors (renderRoute [] done).known) : stage.Sized after := by
  rintro info (count | source) default rfl
  · exact ⟨count, rfl⟩
  · obtain ⟨writer, hm, hint, rfl⟩ := hsource source rfl
    obtain ⟨n, hn⟩ := exists_int_known_behind hm (hp writer hm).own hint []
    have hpos : 0 ≤ n := hcount writer.component.name rfl n hn
    refine ⟨n.toNat, _, rfl, Container.get?_eq_some_iff.2 ?_⟩
    rw [Int.toNat_of_nonneg hpos, ha.ints]
    exact hn

/-- on the route of a definition every length is held, once what comes before it is read -/
theorem sized_of_route (d : LineDefinition) {r : List Stage} (hr : Route d.components r) (hp : ∀ stage ∈ r, stage.Plain)
    (hcount : ∀ stage ∈ r, ∀ name, stage.component.lengthSource? = some (.text name) →
      ∀ n, (name, Datum.int n) ∈ (renderRoute [] r).known → 0 ≤ n)
    {done rest : List Stage} {stage : Stage} (hsplit : r = done ++ stage :: rest) {after : Container}
    (ha : after.Mirrors (renderRoute [] done).known) : stage.Sized after := by
  refine sized_of_written (fun other ho => hp other (by rw [hsplit]; exact List.mem_append_left _ ho))
    (fun source hs => ?_) (fun name hs n hn => ?_) ha
  · have hbranch := hr.mem_branchesOfAll
    rw [hsplit, List.map_append, List.map_cons] at hbranch
    obtain ⟨y, hy, hint, rfl⟩ := d.source_written_before hbranch hs
    obtain ⟨writer, hm, rfl⟩ := List.mem_map.1 hy
    exact ⟨writer, hm, hint, rfl⟩
  · refine hcount stage (by rw [hsplit]; simp) name hs n ?_
    rw [hsplit, renderRoute_append]
    exact (known_suffix _ _).subset hn

/-- a route whose defaults are readable reads what its stages declare -/
theorem readAll_renderRoute (context : Datum) {r : List Stage} {c : Cursor} (hp : ∀ stage ∈ r, stage.Plain)
    (hreadable : ∀ stage ∈ r, stage.readable = true) (hclear : ∀ stage ∈ r, stage.Clear (renderRoute [] r).tokens)
    (hsized : ∀ done stage rest, r = done ++ stage :: rest → ∀ after : Container,
      after.Mirrors (renderRoute [] done).known → stage.Sized after)
    (hnodup : (Container.empty.names ++ keysOf (r.map Stage.component)).Nodup)
    (h : c.Stands [] (renderRoute [] r).tokens) :
    Reads (readAll context (r.map Stage.component) c .empty) .empty []
        (r.flatMap (Stage.declared (readAll context (r.map Stage.component) c .empty).sink)) ∧
      ∀ stage ∈ r, stage.Sized (readAll context (r.map Stage.component) c .empty).sink := by
  rw [← List.append_nil (renderRoute [] r).tokens] at hclear h
  obtain ⟨hreads, -, hsizes⟩ := replay_route context hp hclear hsized hnodup .empty h
  refine ⟨?_, hsizes⟩
  rwa [List.flatMap_congr (fun stage hm => by rw [reread_of_readable (hreadable stage hm)])] at hreads

/-- **The default line of a branch is read back.** There are default lines unless some default has too many digits, and
the line is one of them; reading it goes well, leaves no token on the line, and fills the container with what the stages
of the branch declare, in their order. A label may come
more than once, since the first one left is always the right one; a literal must not be taken for that of another
selection, and a length must not be negative. -/
theorem read_defaultLine (d : LineDefinition) (hw : ∀ x ∈ d.components, x.WellFormed)
    (hs : ∀ x ∈ everyComponentOfAll d.components, x.standard = true) {r : List Stage} (hr : Route d.components r)
    (hreadable : ∀ stage ∈ r, stage.readable = true)
    (hclear : ∀ stage ∈ r, stage.Clear (renderRoute [] r).tokens)
    (hcount : ∀ stage ∈ r, ∀ name, stage.component.lengthSource? = some (.text name) →
      ∀ n, (name, Datum.int n) ∈ (renderRoute [] r).known → 0 ≤ n) :
    ((∀ x ∈ everyComponentOfAll d.components, x.legible = true) → ∃ lines, defaultLines d.components = .ok lines) ∧
      (∀ lines, defaultLines d.components = .ok lines → branchLine r ∈ lines) ∧
      (d.read (branchLine r) Container.empty).error = none ∧
      tokens (d.read (branchLine r) Container.empty).cursor.line = [] ∧
      (d.read (branchLine r) Container.empty).sink.entries =
        r.flatMap (Stage.declared (d.read (branchLine r) Container.empty).sink) ∧
      ∀ stage ∈ r, stage.Sized (d.read (branchLine r) Container.empty).sink := by
  have hplain : ∀ stage ∈ r, stage.Plain := by
    intro stage hm
    have hc := List.mem_map_of_mem (f := Stage.component) hm
    exact ⟨hr.forall_component hs (fun _ _ _ _ => rfl) _ hc, hr.isSwitch_eq_false _ hc,
      legible_of_readable (hreadable stage hm), hr.own hw stage hm⟩
  have hnodup : (Container.empty.names ++ keysOf (r.map Stage.component)).Nodup := d.keysOf_nodup hr.mem_branchesOfAll
  obtain ⟨⟨hfine, hstands, hentries⟩, hsized⟩ := readAll_renderRoute d.sectionName hplain hreadable hclear
    (fun done stage rest hsplit after ha => sized_of_route d hr hplain hcount hsplit ha) hnodup
    (Cursor.Stands.ofJoin isToken_of_mem_renderRoute)
  -- the keys of the choices are among the entries, so the grammar is read along this route
  have hread : d.read (branchLine r) Container.empty =
      readAll d.sectionName (r.map Stage.component) (.ofLine (branchLine r)) Container.empty := by
    refine readAll_eq_of_tells hr hw d.sectionName _ _ List.prefix_rfl (fun s l hm => ?_)
    rw [Container.get?_eq_some_iff]
    rw [branchLine, hentries]
    exact List.mem_append_right _ (List.mem_flatMap.2 ⟨.chosen s l, hm, List.mem_singleton_self _⟩)
  rw [hread]
  refine ⟨fun hl => ⟨_, (defaultLines_of_writable hw (writable_of_standard d hw hs hl)).1⟩, fun lines hlines => ?_, hfine,
    hstands.tokens_line, hentries, hsized⟩
  exact branchLine_mem_defaultLines hr hlines

/-- the route of the kinetic models that takes the reduced Butler-Volmer model -/
def reducedRoute : List Stage :=
  (Manifold.labelledInt (Manifold.token "ConditionID" rfl) ++
      Manifold.labelledInt (Manifold.token "ManifoldConditionID" rfl)).map .plain ++
    .plain (Manifold.label (Manifold.token "KINETIC_MODEL" rfl)) ::
      .chosen Manifold.kineticModel Manifold.butlerVolmerReduced ::
        (Manifold.butlerVolmerReducedFields.map .plain ++ [])

theorem route_reducedRoute : Route Manifold.kinetics.components reducedRoute := by
  have hmem : (⟨Manifold.butlerVolmerReduced, Manifold.butlerVolmerReducedFields⟩ : Choice Component) ∈
      [⟨Manifold.constantInterfaceResistance, Manifold.constantInterfaceResistanceFields⟩,
        ⟨Manifold.butlerVolmerReduced, Manifold.butlerVolmerReducedFields⟩, ⟨Manifold.noInterfaceFlux, []⟩] :=
    List.mem_cons_of_mem _ List.mem_cons_self
  exact (Route.of_plain rfl).append (.plain rfl (.switch hmem (Route.of_plain rfl) .nil))

/-- whether no integer that is known is negative -/
def noneNegative (known : Known) : Bool :=
  known.all (fun entry => match entry.2 with | .int n => 0 ≤ n | _ => true)

/-- the default line of the reduced Butler-Volmer model is read back -/
theorem read_defaultLine_reduced :
    (∀ stage ∈ reducedRoute, stage.readable = true) ∧
      (∀ stage ∈ reducedRoute, stage.Clear (renderRoute [] reducedRoute).tokens) ∧
      noneNegative (renderRoute [] reducedRoute).known = true ∧
      (∃ lines, defaultLines Manifold.kinetics.components = .ok lines ∧ branchLine reducedRoute ∈ lines) ∧
      (Manifold.kinetics.read (branchLine reducedRoute) Container.empty).error = none ∧
      tokens (Manifold.kinetics.read (branchLine reducedRoute) Container.empty).cursor.line = [] := by
  have hs : ∀ x ∈ everyComponentOfAll Manifold.kinetics.components, x.standard = true := by decide +kernel
  have hreadable : ∀ stage ∈ reducedRoute, stage.readable = true := by decide +kernel
  have hclear : ∀ stage ∈ reducedRoute, stage.Clear (renderRoute [] reducedRoute).tokens := by decide +kernel
  have hcount : noneNegative (renderRoute [] reducedRoute).known = true := by decide +kernel
  have hback := read_defaultLine Manifold.kinetics Manifold.kinetics_wellFormed hs route_reducedRoute hreadable hclear
    (fun _ _ name _ n hn => by simpa using List.all_eq_true.1 hcount (name, .int n) hn)
  have hl : ∀ x ∈ everyComponentOfAll Manifold.kinetics.components, x.legible = true := by decide +kernel
  obtain ⟨hlines, hmem, hfine, htokens, -⟩ := hback
  obtain ⟨lines, hlines⟩ := hlines hl
  exact ⟨hreadable, hclear, hcount, ⟨lines, hlines, hmem lines hlines⟩, hfine, htokens⟩

end LineGrammar
