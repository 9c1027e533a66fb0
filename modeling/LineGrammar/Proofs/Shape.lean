/-
What a line leaves in a container.

Reading a branch goes on until one of its components fails. The components before it have each left what they stand for
(`Filled`), the failing one has left nothing. Read from the start of a fresh container, the entries are then the keys of
the components before the failure, each with a value of its component's own kind.
- `readAll_branch_cases`: how far the reading of a branch gets, by induction on the branch.
- `read_shape`: the entries of a container after a line, whether it was read to its end or not.
-/
import LineGrammar.Proofs.Route
import LineGrammar.Proofs.Verdict

namespace LineGrammar

/-! ## Components that have been read -/

/-- `after` is `before` with what each component of the branch leaves, in order -/
inductive Filled : List Component → Container → Container → Prop where
  | nil (sink : Container) : Filled [] sink sink
  | cons {x : Component} {b : List Component} {before between after : Container} (first : x.Leaves before between)
      (rest : Filled b between after) : Filled (x :: b) before after

theorem Component.Leaves.names {x : Component} {before after : Container} (h : x.Leaves before after) :
    after.names = before.names ++ keysOf [x] := by
  cases h with
  | nothing hw => simp [keysOf, hw]
  | entry value hw added => simp [keysOf, hw, Container.names, added]

theorem Length.Counts.of_grows {before after : Container} (h : before.entries <+: after.entries) {length : Length}
    {n : Nat} (hc : length.Counts before n) : length.Counts after n := by
  cases length with
  | fixed count => exact hc
  | takenFrom source =>
    obtain ⟨name, rfl, hv⟩ := hc
    exact ⟨name, rfl, get?_of_grows h hv⟩

theorem Component.Fits.of_grows {before after : Container} (h : before.entries <+: after.entries) {x : Component}
    {value : Datum} (hf : x.Fits before value) : x.Fits after value := by
  cases x with
  | vector info length default =>
    obtain ⟨items, rfl, hall, hcount⟩ := hf
    exact ⟨items, rfl, hall, hcount.of_grows h⟩
  | _ => exact hf

namespace Filled

theorem grows {b : List Component} {before after : Container} (h : Filled b before after) :
    before.entries <+: after.entries := by
  induction h with
  | nil => exact List.prefix_rfl
  | cons first _ ih => exact first.grows.trans ih

/-- the names are the keys of the branch, behind those that were there -/
theorem names {b : List Component} {before after : Container} (h : Filled b before after) :
    after.names = before.names ++ keysOf b := by
  induction h with
  | nil => simp [keysOf]
  | @cons x b _ _ _ first _ ih => rw [ih, first.names, List.append_assoc, ← keysOf_append, List.singleton_append]

/-- every component of the branch that writes has left a value of its own kind -/
theorem fits {b : List Component} {before after : Container} (h : Filled b before after) {x : Component}
    (hx : x ∈ b) (hw : x.writesKey = true) : ∃ value, after.get? x.name = some value ∧ x.Fits after value := by
  induction h with
  | nil => simp at hx
  | cons first rest ih =>
    rcases List.mem_cons.1 hx with rfl | hx
    · cases first with
      | nothing hn => rw [hn] at hw; simp at hw
      | entry value _ added fits =>
        -- what is added stays, and stays of its kind, while the other components are read
        exact ⟨value, get?_of_grows rest.grows (Container.get?_of_added added),
          (fits.of_grows ⟨_, added.symm⟩).of_grows rest.grows⟩
    · exact ih hx

end Filled

/-! ## Reading a branch -/

/-- **Reading a branch leaves what its components leave, up to the first one that fails.** The outcome is then that of
reading this one component. -/
theorem readAll_branch_cases {b : List Component} (hs : ∀ x ∈ b, x.isSwitch = false)
    (hp : ∀ x ∈ b, x.isProcessed = false) (context : Datum) (c : Cursor) (sink : Container) :
    ((readAll context b c sink).error = none ∧ Filled b sink (readAll context b c sink).sink) ∨
      ∃ done x rest start, b = done ++ x :: rest ∧ Filled done sink (readAll context b c sink).sink ∧
        (readAll context b c sink).error ≠ none ∧
        readAll context b c sink = read context x start (readAll context b c sink).sink := by
  induction b generalizing c sink with
  | nil => exact Or.inl ⟨rfl, .nil sink⟩
  | cons x b ih =>
    rw [readAll]
    rcases read_cases (hs x List.mem_cons_self) (hp x List.mem_cons_self) context c sink with
      ⟨e, he, hsink, -⟩ | ⟨he, hleaves⟩
    · rw [Outcome.andThen_of_some he]
      refine Or.inr ⟨[], x, b, c, rfl, ?_, by simp [he], ?_⟩
      · rw [hsink]
        exact .nil sink
      · rw [hsink]
    · rw [Outcome.andThen_of_none he]
      rcases ih (fun y hy => hs y (List.mem_cons_of_mem x hy)) (fun y hy => hp y (List.mem_cons_of_mem x hy))
        (read context x c sink).cursor (read context x c sink).sink with
        ⟨hn, hfilled⟩ | ⟨done, y, rest, start, rfl, hfilled, hfails⟩
      · exact Or.inl ⟨hn, .cons hleaves hfilled⟩
      · exact Or.inr ⟨x :: done, y, rest, start, rfl, .cons hleaves hfilled, hfails⟩

/-- **Reading a line leaves what the components of one branch leave, up to the first one that fails.** -/
theorem read_branch_cases (d : LineDefinition) (hw : ∀ x ∈ d.components, x.WellFormed)
    (hp : ∀ x ∈ everyComponentOfAll d.components, x.isProcessed = false) (line : List Char) :
    ∃ r, Route d.components r ∧
      d.read line Container.empty =
        readAll d.sectionName (r.map Stage.component) (.ofLine line) Container.empty ∧
      (((d.read line Container.empty).error = none ∧
          Filled (r.map Stage.component) .empty (d.read line Container.empty).sink) ∨
        ∃ done x rest start, r.map Stage.component = done ++ x :: rest ∧
          Filled done .empty (d.read line Container.empty).sink ∧ (d.read line Container.empty).error ≠ none ∧
          d.read line Container.empty = read d.sectionName x start (d.read line Container.empty).sink) := by
  obtain ⟨r, hr⟩ := exists_follows_all hw d.sectionName (.ofLine line) Container.empty
  have hread : d.read line Container.empty =
      readAll d.sectionName (r.map Stage.component) (.ofLine line) Container.empty := hr.agrees
  refine ⟨r, hr.route, hread, ?_⟩
  rw [hread]
  exact readAll_branch_cases hr.route.isSwitch_eq_false (hr.route.forall_component hp fun _ _ _ _ => rfl)
    d.sectionName (.ofLine line) Container.empty

/-- what a line leaves: the entries of the components before `rest`, which begins with the component that failed -/
structure LeftBy (d : LineDefinition) (o : Outcome Container) (done rest : List Component) : Prop where
  branch : done ++ rest ∈ branchesOfAll d.components
  names : o.sink.names = keysOf done
  declared : ∀ name ∈ o.sink.names, name ∈ d.keys
  kinds : ∀ x ∈ done, x.writesKey = true → ∃ value, o.sink.get? x.name = some value ∧ x.Fits o.sink value
  ended : (o.error = none ∧ rest = []) ∨
    (o.error ≠ none ∧ ∃ x later start, rest = x :: later ∧ o = read d.sectionName x start o.sink)

/-- **The shape of what a line leaves.** The names are the keys of a beginning of some branch, each with a value of its
component's own kind; they are those of a whole branch unless a component fails, and this one writes nothing. -/
theorem read_shape (d : LineDefinition) (hw : ∀ x ∈ d.components, x.WellFormed)
    (hp : ∀ x ∈ everyComponentOfAll d.components, x.isProcessed = false) (line : List Char) :
    ∃ done rest, LeftBy d (d.read line Container.empty) done rest := by
  obtain ⟨r, hr, -, ⟨hn, hfilled⟩ | ⟨done, x, rest, start, hsplit, hfilled, hfails, hlast⟩⟩ :=
    read_branch_cases d hw hp line
  · refine ⟨_, [], by rw [List.append_nil]; exact hr.mem_branchesOfAll, hfilled.names, fun name hname => ?_,
      fun y hy => hfilled.fits hy, Or.inl ⟨hn, rfl⟩⟩
    rw [hfilled.names] at hname
    exact d.mem_keys hr.mem_branchesOfAll hname
  · have hb : done ++ x :: rest ∈ branchesOfAll d.components := hsplit ▸ hr.mem_branchesOfAll
    refine ⟨done, x :: rest, hb, hfilled.names, fun name hname => ?_, fun y hy => hfilled.fits hy,
      Or.inr ⟨hfails, x, rest, start, rfl, hlast⟩⟩
    rw [hfilled.names] at hname
    refine d.mem_keys hb ?_
    rw [keysOf_append]
    exact List.mem_append_left _ hname

/-- what a line without interface flux leaves -/
theorem read_shape_noFlux :
    (∀ x ∈ Manifold.kinetics.components, x.WellFormed) ∧
      (∀ x ∈ everyComponentOfAll Manifold.kinetics.components, x.isProcessed = false) ∧
      ∃ done rest, LeftBy Manifold.kinetics noFluxOutcome done rest := by
  have hp : ∀ x ∈ everyComponentOfAll Manifold.kinetics.components, x.isProcessed = false := by decide +kernel
  exact ⟨Manifold.kinetics_wellFormed, hp, read_shape Manifold.kinetics Manifold.kinetics_wellFormed hp _⟩

end LineGrammar
