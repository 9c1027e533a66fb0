/-
Reading into a container that holds entries already.

What a component reads depends on the container in two places: the length of a vector is looked up in it, and a name
that is taken is not written. A checked definition writes every length before it is needed, so the lookup finds what
this very line has written, and the entries that were there before count by their names alone. Reading into a supplied
container is then reading into a fresh one, up to the first component that is about to write a name that is taken.
- `readUntaken`: a reading that ends at such a component.
- `read_uniform`: what a component does with two containers that know the same length.
- `read_behind`: the step, one component; `readAll_behind`: the run along one branch, by induction on it.
- `leadsAlong_behind`: both readings make the same choices.
- `read_supplied`: whole lines.
-/
import LineGrammar.Proofs.Soundness

namespace LineGrammar

/-! ## Entries in front -/

/-- One outcome is the other with the entries of `front` before its own. -/
structure Behind (front : Container) (fresh o : Outcome Container) : Prop where
  cursor_eq : o.cursor = fresh.cursor
  entries_eq : o.sink.entries = front.entries ++ fresh.sink.entries
  error_eq : o.error = fresh.error

/-- what stands behind other entries has none of their names -/
theorem Behind.disjoint {front : Container} {fresh o : Outcome Container} (h : Behind front fresh o) :
    ∀ name ∈ fresh.sink.names, name ∉ front.names := by
  have hnodup := o.sink.nodup
  rw [h.entries_eq, List.map_append, List.nodup_append] at hnodup
  intro name hfresh hfront
  exact hnodup.2.2 name hfront name hfresh rfl

/-- every length on the branch is taken from a name in the container, or from one written before it on the branch -/
def Sourced (sink : Container) (b : List Component) : Prop :=
  ∀ done x rest source, b = done ++ x :: rest → x.lengthSource? = some source →
    ∃ name, source = .text name ∧ (name ∈ sink.names ∨ name ∈ keysOf done)

namespace Sourced

variable {x : Component} {b : List Component} {sink after : Container}

theorem head (h : Sourced sink (x :: b)) {source : Datum} (hs : x.lengthSource? = some source) :
    ∃ name, source = .text name ∧ name ∈ sink.names := by
  obtain ⟨name, rfl, hname⟩ := h [] x b source rfl hs
  exact ⟨name, rfl, hname.resolve_right (by simp [keysOf])⟩

theorem tail (h : Sourced sink (x :: b)) (hleaves : x.Leaves sink after) : Sourced after b := by
  intro done y rest source hsplit hs
  obtain ⟨name, rfl, hname⟩ := h (x :: done) y rest source (by rw [hsplit]; rfl) hs
  refine ⟨name, rfl, ?_⟩
  rw [hleaves.names]
  rw [← List.singleton_append, keysOf_append] at hname
  rcases hname with hname | hname
  · exact Or.inl (List.mem_append_left _ hname)
  · rcases List.mem_append.1 hname with hname | hname
    · exact Or.inl (List.mem_append_right _ hname)
    · exact Or.inr hname

end Sourced

/-- a branch of a definition takes its lengths from what it has written itself -/
theorem LineDefinition.sourced (d : LineDefinition) {b : List Component} (hb : b ∈ branchesOfAll d.components)
    (sink : Container) : Sourced sink b := by
  rintro done x rest source rfl hs
  obtain ⟨y, hy, hint, rfl⟩ := d.source_written_before hb hs
  refine ⟨y.name, rfl, Or.inr ?_⟩
  exact List.mem_map_of_mem (List.mem_filter.2 ⟨hy, Component.writesKey_of_writesInt hint⟩)

/-! ## One component and two containers -/

section

variable {x : Component} {front s s' : Container}

theorem ask_behind (h : s'.entries = front.entries ++ s.entries) {name : String} (hname : name ∈ s.names) :
    Sink.ask s' (.text name) = Sink.ask s (.text name) := by
  obtain ⟨⟨held, value⟩, hmem, heq⟩ := List.mem_map.1 hname
  obtain rfl : held = name := heq
  have hs : s.get? held = some value := Container.get?_eq_some_iff.2 hmem
  have hs' : s'.get? held = some value := by
    rw [Container.get?_eq_some_iff, h]
    exact List.mem_append_right _ hmem
  exact (Container.ask_text hs').trans (Container.ask_text hs).symm

/-- **What a component reads does not depend on the container but for its length.** It ends without writing, or comes to
write the same value. -/
theorem read_uniform (hs : x.isSwitch = false) (hp : x.isProcessed = false) (context : Datum) (c : Cursor)
    (hask : ∀ source, x.lengthSource? = some source → Sink.ask s' source = Sink.ask s source) :
    (∃ after e, read context x c s = ⟨after, s, e⟩ ∧ read context x c s' = ⟨after, s', e⟩ ∧
      (x.writesKey = true → e ≠ none)) ∨
      ∃ after value, x.writesKey = true ∧ read context x c s = write after s x.name value ∧
        read context x c s' = write after s' x.name value := by
  cases x with
  | separator label optional description =>
    left
    simp only [read, readSeparator]
    cases c.consumeLabel label.chars optional (.text label.text) context with
    | mk after result => cases result <;> exact ⟨_, _, rfl, rfl, by simp [Component.writesKey]⟩
  | scalar info default =>
    simp only [read, readScalar]
    split
    · exact Or.inl ⟨_, _, rfl, rfl, by simp⟩
    · split
      · exact Or.inr ⟨_, _, rfl, rfl, rfl⟩
      · exact Or.inl ⟨_, _, rfl, rfl, by simp⟩
    · split
      · exact Or.inl ⟨_, _, rfl, rfl, by simp⟩
      · exact Or.inr ⟨_, _, rfl, rfl, rfl⟩
  | vector info length default =>
    have hlength : resolveLength length s' info.label context = resolveLength length s info.label context := by
      cases length with
      | fixed count => rfl
      | takenFrom source => simp only [resolveLength, hask source rfl]
    have hadmits : ∀ (sink : Container) (count : Nat), Sink.admits sink count = true := fun _ _ => rfl
    simp only [read, readVector, hlength, hadmits]
    split
    · exact Or.inl ⟨_, _, rfl, rfl, by simp⟩
    · simp only [Bool.not_true, Bool.false_eq_true, if_false]
      split
      · exact Or.inl ⟨_, _, rfl, rfl, by simp⟩
      · split
        · exact Or.inl ⟨_, _, rfl, rfl, by simp⟩
        · exact Or.inr ⟨_, _, rfl, rfl, rfl⟩
  | selection discriminator =>
    simp only [read, readSelection]
    split
    · split
      · exact Or.inr ⟨_, _, rfl, rfl, rfl⟩
      · exact Or.inl ⟨_, _, rfl, rfl, by simp⟩
    · exact Or.inr ⟨_, _, rfl, rfl, rfl⟩
  | switch discriminator key choices => simp [Component.isSwitch] at hs
  | processed info insertion => simp [Component.isProcessed] at hp
  | unsupported info kind => exact Or.inl ⟨_, _, rfl, rfl, by simp⟩

end

/-! ## Reading up to a name that is taken -/

/-- the component is read, and what is left to do is to write a name that is taken -/
def Stopped (context : Datum) (taken : List String) (x : Component) (c : Cursor) (sink : Container) : Prop :=
  x.writesKey = true ∧ x.name ∈ taken ∧ (read context x c sink).error = none

instance (context : Datum) (taken : List String) (x : Component) (c : Cursor) (sink : Container) :
    Decidable (Stopped context taken x c sink) :=
  inferInstanceAs (Decidable (_ ∧ _ ∧ _))

/-- reads components in order, up to the first error or the first that is about to write a name that is taken -/
def readUntaken (taken : List String) (context : Datum) : List Component → Cursor → Container → Outcome Container
  | [], c, sink => ⟨c, sink, none⟩
  | x :: xs, c, sink =>
    if Stopped context taken x c sink then ⟨(read context x c sink).cursor, sink, some (.duplicateKey x.name)⟩
    else (read context x c sink).andThen (fun c sink => readUntaken taken context xs c sink)

section

variable {x : Component} {b : List Component} {front s s' : Container} {context : Datum} {c : Cursor}

/-- **One component, read behind other entries,** does what it does without them, unless it writes a name of theirs. -/
theorem read_behind (context : Datum) (c : Cursor) (hs : x.isSwitch = false) (hp : x.isProcessed = false)
    (hsourced : Sourced s (x :: b)) (h : s'.entries = front.entries ++ s.entries) :
    (¬ Stopped context front.names x c s ∧ Behind front (read context x c s) (read context x c s')) ∨
      (Stopped context front.names x c s ∧
        read context x c s' = ⟨(read context x c s).cursor, s', some (.duplicateKey x.name)⟩) := by
  have hask : ∀ source, x.lengthSource? = some source → Sink.ask s' source = Sink.ask s source := by
    intro source hsource
    obtain ⟨name, rfl, hname⟩ := hsourced.head hsource
    exact ask_behind h hname
  rcases read_uniform hs hp context c hask with ⟨after, e, hfresh, hread, he⟩ | ⟨after, value, hwrites, hfresh, hread⟩
  · left
    rw [Stopped, hfresh, hread]
    exact ⟨fun hstop => he hstop.1 hstop.2.2, rfl, h, rfl⟩
  · rw [Stopped, hfresh, hread]
    have hnames : s'.names = front.names ++ s.names := by
      rw [Container.names, h, List.map_append]
      rfl
    by_cases hheld : x.name ∈ s.names
    · -- the name is taken even without the other entries
      have hheld' : x.name ∈ s'.names := hnames ▸ List.mem_append_right _ hheld
      rw [write_of_taken after value hheld, write_of_taken after value hheld']
      exact Or.inl ⟨fun hstop => absurd hstop.2.2 (by simp), rfl, h, rfl⟩
    · obtain ⟨written, hwritten, hw⟩ := write_of_free after value hheld
      rw [hw]
      by_cases htaken : x.name ∈ front.names
      · have hheld' : x.name ∈ s'.names := hnames ▸ List.mem_append_left _ htaken
        rw [write_of_taken after value hheld']
        exact Or.inr ⟨⟨hwrites, htaken, rfl⟩, rfl⟩
      · have hfree : x.name ∉ s'.names := by
          rw [hnames, List.mem_append]
          exact not_or.2 ⟨htaken, hheld⟩
        obtain ⟨written', hwritten', hw'⟩ := write_of_free after value hfree
        rw [hw']
        refine Or.inl ⟨fun hstop => htaken hstop.2.1, rfl, ?_, rfl⟩
        rw [hwritten', hwritten, h, List.append_assoc]

/-- a component that goes well has left its entry, or nothing -/
theorem leaves_of_fine (hs : x.isSwitch = false) (hp : x.isProcessed = false)
    (he : (read context x c s).error = none) : x.Leaves s (read context x c s).sink := by
  rcases read_cases hs hp context c s with ⟨e, herror, -⟩ | ⟨-, hleaves⟩
  · rw [he] at herror
    cases herror
  · exact hleaves

/-- **A branch, read behind other entries,** is read as it is without them, up to the first name of theirs. -/
theorem readAll_behind (hs : ∀ x ∈ b, x.isSwitch = false) (hp : ∀ x ∈ b, x.isProcessed = false)
    (hsourced : Sourced s b) (h : s'.entries = front.entries ++ s.entries) :
    Behind front (readUntaken front.names context b c s) (readAll context b c s') := by
  induction b generalizing c s s' with
  | nil => exact ⟨rfl, h, rfl⟩
  | cons x b ih =>
    have hxs := hs x List.mem_cons_self
    have hxp := hp x List.mem_cons_self
    rw [readAll, readUntaken]
    rcases read_behind context c hxs hxp hsourced h with ⟨hgo, hbehind⟩ | ⟨hstop, hread⟩
    · rw [if_neg hgo]
      cases he : (read context x c s).error with
      | some e =>
        rw [Outcome.andThen_of_some he, Outcome.andThen_of_some (hbehind.error_eq.trans he)]
        exact hbehind
      | none =>
        rw [Outcome.andThen_of_none he, Outcome.andThen_of_none (hbehind.error_eq.trans he), hbehind.cursor_eq]
        apply ih
        · exact fun y hy => hs y (List.mem_cons_of_mem x hy)
        · exact fun y hy => hp y (List.mem_cons_of_mem x hy)
        · exact hsourced.tail (leaves_of_fine hxs hxp he)
        · exact hbehind.entries_eq
    · rw [if_pos hstop, hread, Outcome.andThen_of_some rfl]
      exact ⟨rfl, h, rfl⟩

/-- behind other entries the same choices are made -/
theorem leadsAlong_behind {r : List Stage} (hs : ∀ x ∈ r.map Stage.component, x.isSwitch = false)
    (hp : ∀ x ∈ r.map Stage.component, x.isProcessed = false) (hsourced : Sourced s (r.map Stage.component))
    (h : s'.entries = front.entries ++ s.entries) (hleads : LeadsAlong context r c s) : LeadsAlong context r c s' := by
  induction r generalizing c s s' with
  | nil => trivial
  | cons stage r ih =>
    have hxs := hs _ List.mem_cons_self
    have hxp := hp _ List.mem_cons_self
    intro he'
    rcases read_behind context c hxs hxp hsourced h with ⟨-, hbehind⟩ | ⟨-, hread⟩
    · have he : (read context stage.component c s).error = none := hbehind.error_eq.symm.trans he'
      obtain ⟨htells, hrest⟩ := hleads he
      constructor
      · intro discriminator l hm
        rw [Container.get?_eq_some_iff, hbehind.entries_eq]
        exact List.mem_append_right _ (Container.get?_eq_some_iff.1 (htells discriminator l hm))
      · rw [hbehind.cursor_eq]
        apply ih
        · exact fun y hy => hs y (List.mem_cons_of_mem _ hy)
        · exact fun y hy => hp y (List.mem_cons_of_mem _ hy)
        · exact hsourced.tail (leaves_of_fine hxs hxp he)
        · exact hbehind.entries_eq
        · exact hrest
    · rw [hread] at he'
      cases he'

/-- a reading up to a taken name is the whole reading, or ends at the component that is about to write one -/
theorem readUntaken_cases (taken : List String) (context : Datum) (b : List Component) (c : Cursor) (s : Container) :
    readUntaken taken context b c s = readAll context b c s ∨
      ∃ done x rest, b = done ++ x :: rest ∧ (readAll context done c s).error = none ∧
        Stopped context taken x (readAll context done c s).cursor (readAll context done c s).sink ∧
        readUntaken taken context b c s =
          ⟨(read context x (readAll context done c s).cursor (readAll context done c s).sink).cursor,
            (readAll context done c s).sink, some (.duplicateKey x.name)⟩ := by
  induction b generalizing c s with
  | nil => exact Or.inl rfl
  | cons x b ih =>
    by_cases hstop : Stopped context taken x c s
    · refine Or.inr ⟨[], x, b, rfl, rfl, hstop, ?_⟩
      rw [readUntaken, if_pos hstop]
      rfl
    · rw [readUntaken, if_neg hstop, readAll]
      cases he : (read context x c s).error with
      | some e =>
        rw [Outcome.andThen_of_some he, Outcome.andThen_of_some he]
        exact Or.inl rfl
      | none =>
        rw [Outcome.andThen_of_none he, Outcome.andThen_of_none he]
        rcases ih (read context x c s).cursor (read context x c s).sink with
          hall | ⟨done, y, rest, rfl, hdone, hy, hread⟩
        · exact Or.inl hall
        · refine Or.inr ⟨x :: done, y, rest, rfl, ?_⟩
          rw [readAll_cons_of_none he]
          exact ⟨hdone, hy, hread⟩

/-- the name that stops a reading is written by the reading that nothing stops -/
theorem name_mem_of_stopped {taken : List String} {done rest : List Component}
    (hs : ∀ y ∈ done ++ x :: rest, y.isSwitch = false) (hp : x.isProcessed = false)
    (hdone : (readAll context done c s).error = none)
    (hstop : Stopped context taken x (readAll context done c s).cursor (readAll context done c s).sink) :
    x.name ∈ (readAll context (done ++ x :: rest) c s).sink.names := by
  obtain ⟨hwrites, -, hfine⟩ := hstop
  have hx : x.isSwitch = false := hs x (List.mem_append_right done List.mem_cons_self)
  have hrest : ∀ y ∈ rest, y.isSwitch = false :=
    fun y hy => hs y (List.mem_append_right done (List.mem_cons_of_mem x hy))
  rw [readAll_append, Outcome.andThen_of_none hdone, readAll_cons_of_none hfine]
  have hgrows := readAll_grows hrest context
    (read context x (readAll context done c s).cursor (readAll context done c s).sink).cursor
    (read context x (readAll context done c s).cursor (readAll context done c s).sink).sink
  have hleft : x.name ∈
      (read context x (readAll context done c s).cursor (readAll context done c s).sink).sink.names := by
    rw [(leaves_of_fine hx hp hfine).names, keysOf_cons, if_pos hwrites]
    exact List.mem_append_right _ List.mem_cons_self
  exact (hgrows.map Prod.fst).subset hleft

end

/-! ## Whole lines -/

/-- Reading the line into `front` goes as reading it into a fresh container does, past the components of `done` and up
to `x`, whose name is one of `front`. -/
structure StopsAt (d : LineDefinition) (line : List Char) (front : Container) (done : List Component) (x : Component)
    (rest : List Component) : Prop where
  branch : done ++ x :: rest ∈ branchesOfAll d.components
  fresh_eq : d.read line Container.empty = readAll d.sectionName (done ++ x :: rest) (.ofLine line) .empty
  fine : (readAll d.sectionName done (.ofLine line) Container.empty).error = none
  untaken : ∀ name ∈ (readAll d.sectionName done (.ofLine line) Container.empty).sink.names, name ∉ front.names
  stopped : Stopped d.sectionName front.names x (readAll d.sectionName done (.ofLine line) Container.empty).cursor
    (readAll d.sectionName done (.ofLine line) Container.empty).sink
  outcome : Behind front
    ⟨(read d.sectionName x (readAll d.sectionName done (.ofLine line) Container.empty).cursor
        (readAll d.sectionName done (.ofLine line) Container.empty).sink).cursor,
      (readAll d.sectionName done (.ofLine line) Container.empty).sink, some (.duplicateKey x.name)⟩
    (d.read line front)

section

variable (d : LineDefinition) (hw : ∀ x ∈ d.components, x.WellFormed)
  (hp : ∀ x ∈ everyComponentOfAll d.components, x.isProcessed = false) (line : List Char)

include hw hp

/-- there is one branch that the line is read along into whatever container, up to the first name that is taken -/
theorem exists_branch_behind : ∃ b ∈ branchesOfAll d.components,
    (∀ x ∈ b, x.isSwitch = false ∧ x.isProcessed = false) ∧
    d.read line Container.empty = readAll d.sectionName b (.ofLine line) .empty ∧
    ∀ front : Container, Behind front (readUntaken front.names d.sectionName b (.ofLine line) .empty)
      (d.read line front) := by
  obtain ⟨r, hr, hleads⟩ := exists_leadsAlong_of_each
    (fun x hx c s => exists_leadsAlong (hw x hx) d.sectionName c s) (.ofLine line) Container.empty
  have hs := hr.isSwitch_eq_false
  have hplain : ∀ x ∈ r.map Stage.component, x.isProcessed = false := hr.forall_component hp fun _ _ _ _ => rfl
  have hsourced := d.sourced hr.mem_branchesOfAll Container.empty
  refine ⟨_, hr.mem_branchesOfAll, fun x hx => ⟨hs x hx, hplain x hx⟩, readAll_of_leadsAlong hr hw hleads, ?_⟩
  intro front
  have hfront : front.entries = front.entries ++ Container.empty.entries := (List.append_nil _).symm
  have hread : d.read line front = readAll d.sectionName (r.map Stage.component) (.ofLine line) front :=
    readAll_of_leadsAlong hr hw (leadsAlong_behind hs hplain hsourced hfront hleads)
  rw [hread]
  exact readAll_behind hs hplain hsourced hfront

/-- a line is read into a supplied container as into a fresh one, unless a name stops it that both know -/
theorem read_supplied_cases (front : Container) :
    Behind front (d.read line .empty) (d.read line front) ∨
      ∃ done x rest, StopsAt d line front done x rest ∧ x.name ∈ d.keys ∧
        x.name ∈ (d.read line Container.empty).sink.names := by
  obtain ⟨b, hb, hplain, hfresh, hbehind⟩ := exists_branch_behind d hw hp line
  have hfront := hbehind front
  rcases readUntaken_cases front.names d.sectionName b (.ofLine line) .empty with
    hall | ⟨done, x, rest, rfl, hdone, hstop, hread⟩
  · left
    rwa [hall, ← hfresh] at hfront
  · right
    rw [hread] at hfront
    refine ⟨done, x, rest, ⟨hb, hfresh, hdone, hfront.disjoint, hstop, hfront⟩, ?_, ?_⟩
    · apply d.mem_keys hb
      rw [keysOf_append, keysOf_cons, if_pos hstop.1]
      exact List.mem_append_right _ List.mem_cons_self
    · rw [hfresh]
      have hx := hplain x (List.mem_append_right done List.mem_cons_self)
      exact name_mem_of_stopped (fun y hy => (hplain y hy).1) hx.2 hdone hstop

/-- **Reading into a supplied container is reading into a fresh one, behind the entries that are there.** These stay as
they are. The line adds the same entries and ends the same, error included, if the definition writes none of their
names, and even if this line comes to write none; otherwise it stops at the first component that is about to. Of the
entries that are there only the names count: no length and no choice depends on their values. -/
theorem read_supplied (front : Container) :
    front.entries <+: (d.read line front).sink.entries ∧
    ((∀ name ∈ front.names, name ∉ d.keys) → Behind front (d.read line .empty) (d.read line front)) ∧
    ((∀ name ∈ (d.read line Container.empty).sink.names, name ∉ front.names) →
      Behind front (d.read line .empty) (d.read line front)) ∧
    ((∃ name ∈ (d.read line Container.empty).sink.names, name ∈ front.names) →
      ∃ done x rest, StopsAt d line front done x rest) ∧
    ∀ other : Container, other.names = front.names →
      ∃ fresh, Behind front fresh (d.read line front) ∧ Behind other fresh (d.read line other) := by
  refine ⟨?_, ?_, ?_, ?_, ?_⟩
  · obtain ⟨b, -, -, -, hbehind⟩ := exists_branch_behind d hw hp line
    exact ⟨_, (hbehind front).entries_eq.symm⟩
  · intro hdisjoint
    rcases read_supplied_cases d hw hp line front with hbehind | ⟨done, x, rest, hstops, hkey, -⟩
    · exact hbehind
    · exact absurd hkey (hdisjoint x.name hstops.stopped.2.1)
  · intro hdisjoint
    rcases read_supplied_cases d hw hp line front with hbehind | ⟨done, x, rest, hstops, -, hname⟩
    · exact hbehind
    · exact absurd hstops.stopped.2.1 (hdisjoint x.name hname)
  · rintro ⟨name, hfresh, hfront⟩
    rcases read_supplied_cases d hw hp line front with hbehind | ⟨done, x, rest, hstops, -⟩
    · exact absurd hfront (hbehind.disjoint name hfresh)
    · exact ⟨done, x, rest, hstops⟩
  · intro other hnames
    obtain ⟨b, -, -, -, hbehind⟩ := exists_branch_behind d hw hp line
    have hother := hbehind other
    rw [hnames] at hother
    exact ⟨_, hbehind front, hother⟩

end

/-- a line without interface flux -/
def noFluxLine : List Char :=
  "ConditionID 1 KINETIC_MODEL NoInterfaceFlux ManifoldConditionID 7".toList

/-- a container that holds an entry which the kinetics do not know -/
def remarked : Container :=
  ⟨[("REMARK", .text "kept")], by decide⟩

/-- a container that holds the kinetic model already -/
def modelled : Container :=
  ⟨[("KINETIC_MODEL", .int 3)], by decide⟩

/-- The entry that is unknown stands in front of those of the line; the model that is there already stops the line. -/
theorem read_supplied_noFlux :
    Behind remarked (Manifold.kinetics.read noFluxLine .empty) (Manifold.kinetics.read noFluxLine remarked) ∧
      ∃ done x rest, StopsAt Manifold.kinetics noFluxLine modelled done x rest := by
  have hp : ∀ x ∈ everyComponentOfAll Manifold.kinetics.components, x.isProcessed = false := by decide +kernel
  have hunknown : ∀ name ∈ remarked.names, name ∉ Manifold.kinetics.keys := by decide +kernel
  have htaken : ∃ name ∈ (Manifold.kinetics.read noFluxLine Container.empty).sink.names, name ∈ modelled.names := by
    decide +kernel
  obtain ⟨-, hbehind, -, -, -⟩ := read_supplied Manifold.kinetics Manifold.kinetics_wellFormed hp noFluxLine remarked
  obtain ⟨-, -, -, hstops, -⟩ := read_supplied Manifold.kinetics Manifold.kinetics_wellFormed hp noFluxLine modelled
  exact ⟨hbehind hunknown, hstops htaken⟩

end LineGrammar
