/-
The length of a vector, as writing and as reading take it.

Writing looks a length up among the defaults it has put down so far and falls back to one where it finds no count;
reading looks it up in the container and fails where it finds no count. On a branch of a definition the field that the
length is taken from comes before the vector and is an integer, so both find it, whether it is a field, a selection or
the choice of a switch. They differ in a single point: a default below zero counts as one value for writing, and for
reading it is an error, so that a line of defaults is not read back.
- `names_known_sublist`: what is known on a branch has the names of its keys.
- `exists_count_known`: on a branch of a definition a length is known before it is needed.
- `lengths_agree`: both lengths are the same where the count is not negative.
- `not_lengthsAgree_debt`: where it is negative they are not.
-/
import LineGrammar.Proofs.Enumeration

namespace LineGrammar

/-! ## What is known on a branch -/

/-- the names that are known behind one stage are those known before and its key -/
theorem names_render_sublist (known : Known) (stage : Stage) :
    ((stage.render known).known.map Prod.fst).Sublist ((keysOf [stage.component]).reverse ++ known.map Prod.fst) := by
  cases stage with
  | chosen s l => exact List.Sublist.refl _
  | plain x =>
    cases x with
    | switch | unsupported => exact List.sublist_append_right _ _
    | _ => exact List.Sublist.refl _

/-- **The names that are known on a branch are keys of its components,** the latest first. -/
theorem names_known_sublist (known : Known) (r : List Stage) :
    ((renderRoute known r).known.map Prod.fst).Sublist
      ((keysOf (r.map Stage.component)).reverse ++ known.map Prod.fst) := by
  induction r generalizing known with
  | nil => exact List.Sublist.refl _
  | cons stage r ih =>
    have hkeys : keysOf ((stage :: r).map Stage.component) =
        keysOf [stage.component] ++ keysOf (r.map Stage.component) := by
      rw [List.map_cons, ← List.singleton_append, keysOf_append]
    rw [hkeys, List.reverse_append, List.append_assoc]
    exact (ih (stage.render known).known).trans ((names_render_sublist known stage).append_left _)

/-- on a branch of a definition no name is known twice -/
theorem nodup_known (d : LineDefinition) {done rest : List Stage} (hr : Route d.components (done ++ rest)) :
    ((renderRoute [] done).known.map Prod.fst).Nodup := by
  have hkeys := d.keysOf_nodup hr.mem_branchesOfAll
  rw [List.map_append, keysOf_append] at hkeys
  have hnodup := (List.nodup_append.1 hkeys).1
  refine List.Nodup.sublist (names_known_sublist [] done) ?_
  simpa using hnodup

/-- **On a branch of a definition a length is known as an integer where it is needed.** -/
theorem exists_count_known (d : LineDefinition) (hw : ∀ x ∈ d.components, x.WellFormed) {done rest : List Stage}
    {info : Info} {source : Datum} {default : Number}
    (hr : Route d.components (done ++ .plain (.vector info (.takenFrom source) default) :: rest)) :
    ∃ name n, source = .text name ∧ (name, Datum.int n) ∈ (renderRoute [] done).known := by
  have hbranch := hr.mem_branchesOfAll
  rw [List.map_append, List.map_cons] at hbranch
  obtain ⟨y, hy, hint, rfl⟩ := d.source_written_before hbranch rfl
  obtain ⟨writer, hm, rfl⟩ := List.mem_map.1 hy
  obtain ⟨n, hn⟩ := exists_int_known_behind hm (hr.own hw writer (List.mem_append_left _ hm)) hint []
  exact ⟨_, n, rfl, hn⟩

/-! ## Both lengths -/

/-- the container has every value that is known -/
def Container.Holds (sink : Container) (known : Known) : Prop :=
  ∀ name value, (name, value) ∈ known → sink.get? name = some value

/-- where no name is known twice, there is a container that holds what is known, in the order of writing -/
theorem exists_holds {known : Known} (h : (known.map Prod.fst).Nodup) :
    ∃ sink : Container, sink.entries = known.reverse ∧ sink.Holds known := by
  have hnodup : (known.reverse.map Prod.fst).Nodup := by rwa [List.map_reverse, List.nodup_reverse]
  refine ⟨⟨known.reverse, hnodup⟩, rfl, fun name value hm => ?_⟩
  exact Container.get?_eq_some_iff.2 (List.mem_reverse.2 hm)

/-- The vector stands for so many values on the default line of its branch: the line is one of the default lines, and
between the tokens of what comes before and those of what comes behind the default is written that often. -/
structure VectorWritten (components : List Component) (done rest : List Stage) (info : Info) (length : Length)
    (default : Number) (count : Nat) : Prop where
  listed : ∀ lines, defaultLines components = .ok lines →
    branchLine (done ++ .plain (.vector info length default) :: rest) ∈ lines
  tokens_eq : tokens (branchLine (done ++ .plain (.vector info length default) :: rest)) =
    (renderRoute [] done).tokens ++ (List.replicate count default.chars ++
      (renderRoute ((info.name, .list (List.replicate count default.datum)) :: (renderRoute [] done).known) rest).tokens)

/-- Writing and reading agree on the length of the vector: the default is written as often as the length comes to in any
container that holds the defaults written before it. -/
def LengthsAgree (components : List Component) (done rest : List Stage) (info : Info) (source : Datum)
    (default : Number) : Prop :=
  ∃ count, VectorWritten components done rest info (.takenFrom source) default count ∧
    ∀ sink : Container, sink.Holds (renderRoute [] done).known → ∀ field context,
      resolveLength (.takenFrom source) sink field context = .ok count

theorem vectorWritten {components : List Component} {done rest : List Stage} {info : Info} {length : Length}
    {default : Number} (hr : Route components (done ++ .plain (.vector info length default) :: rest)) :
    VectorWritten components done rest info length default (defaultCount length (renderRoute [] done).known) := by
  refine ⟨fun lines hlines => branchLine_mem_defaultLines hr hlines, ?_⟩
  rw [tokens_branchLine, renderRoute_append]
  rfl

theorem knownCount_of_mem {known : Known} {name : String} {n : Int} (h : (known.map Prod.fst).Nodup)
    (hn : (name, Datum.int n) ∈ known) : knownCount known (.text name) = if n < 0 then 1 else n.toNat := by
  simp only [knownCount, (Container.lookup_eq_some_iff_mem h).2 hn]

/-- **Writing and reading agree on every length that is not negative.** On every branch of a definition the length of a
vector is known as an integer before the vector, and a container can hold all that is known there. Unless the integer is
negative, the default of the vector is written as often as reading resolves its length. If it is, the default is written
once, and reading has an error: it points at the field that the length is taken from, if the integer can be written. -/
theorem lengths_agree (d : LineDefinition) (hw : ∀ x ∈ d.components, x.WellFormed) {done rest : List Stage}
    {info : Info} {source : Datum} {default : Number}
    (hr : Route d.components (done ++ .plain (.vector info (.takenFrom source) default) :: rest)) :
    (∃ sink : Container, sink.entries = (renderRoute [] done).known.reverse ∧ sink.Holds (renderRoute [] done).known) ∧
      ((∀ x ∈ everyComponentOfAll d.components, ∀ info kind, x ≠ .unsupported info kind) →
        (∀ x ∈ everyComponentOfAll d.components, x.legible = true) →
        ∃ lines, defaultLines d.components = .ok lines) ∧
      ∃ name n, source = .text name ∧ (name, Datum.int n) ∈ (renderRoute [] done).known ∧
        (0 ≤ n → LengthsAgree d.components done rest info source default) ∧
        (n < 0 → VectorWritten d.components done rest info (.takenFrom source) default 1 ∧
          (∀ sink : Container, sink.Holds (renderRoute [] done).known → ∀ field context,
            resolveLength (.takenFrom source) sink field context =
              .error (.negativeLength source context n field)) ∧
          ∀ context, context.showable = true → (ReadError.negativeLength source context n info.label).errorClass =
            if isWritable n then .malformedNumber else .runtime .value) := by
  have hnodup := nodup_known d hr
  obtain ⟨name, n, rfl, hn⟩ := exists_count_known d hw hr
  have hwritten := vectorWritten hr
  rw [defaultCount, knownCount_of_mem hnodup hn] at hwritten
  refine ⟨exists_holds hnodup, fun hs hl => ?_, name, n, rfl, hn, fun hpos => ?_, fun hneg => ?_⟩
  · exact ⟨_, (defaultLines_of_writable hw (writable_of_supported d hw hs hl)).1⟩
  · rw [if_neg (Int.not_lt.2 hpos)] at hwritten
    refine ⟨n.toNat, hwritten, fun sink hsink field context => ?_⟩
    rw [resolveLength_of_get? (hsink name _ hn), if_neg (Int.not_lt.2 hpos)]
  · rw [if_pos hneg] at hwritten
    refine ⟨hwritten, fun sink hsink field context => ?_, fun context hcontext => ?_⟩
    · rw [resolveLength_of_get? (hsink name _ hn), if_pos hneg]
    · exact ReadError.errorClass_negativeLength hcontext name n info

/-- numbers of which the kinetic model says how many there are -/
def fluxes : LineDefinition where
  sectionName := .text "DESIGN SSI MANIFOLD KINETICS SURF CONDITIONS"
  components :=
    [.switch Manifold.kineticModel (.int 1)
        [⟨Manifold.constantInterfaceResistance, []⟩, ⟨Manifold.butlerVolmerReduced, []⟩,
          ⟨Manifold.noInterfaceFlux, []⟩],
      .vector (Manifold.field "FLUX") (.takenFrom (.text "KINETIC_MODEL")) (.real .zero)]
  description := .text ""
  resolved := by decide
  written_once := by decide

/-- with the model that is stored as three there are three numbers, for writing as for reading -/
theorem lengthsAgree_fluxes :
    (∀ x ∈ fluxes.components, x.WellFormed) ∧
      Route fluxes.components
        ([.chosen Manifold.kineticModel Manifold.noInterfaceFlux] ++
          .plain (.vector (Manifold.field "FLUX") (.takenFrom (.text "KINETIC_MODEL")) (.real .zero)) :: []) ∧
      LengthsAgree fluxes.components [.chosen Manifold.kineticModel Manifold.noInterfaceFlux] []
        (Manifold.field "FLUX") (.text "KINETIC_MODEL") (.real .zero) ∧
      "NoInterfaceFlux 0.0 0.0 0.0".toList ∈ (defaultLines fluxes.components).toOption.getD [] := by
  have hw : ∀ x ∈ fluxes.components, x.WellFormed := by
    refine List.forall_mem_cons.2 ⟨?_, List.forall_mem_cons.2 ⟨.vector .., nofun⟩⟩
    exact .switch _ _ _ rfl ((Key.same_datum_iff (j := .int 1)).2 rfl) (by simp)
  have hmem : (⟨Manifold.noInterfaceFlux, []⟩ : Choice Component) ∈
      [⟨Manifold.constantInterfaceResistance, []⟩, ⟨Manifold.butlerVolmerReduced, []⟩,
        ⟨Manifold.noInterfaceFlux, []⟩] := by simp
  have hr : Route fluxes.components
      ([.chosen Manifold.kineticModel Manifold.noInterfaceFlux] ++
        .plain (.vector (Manifold.field "FLUX") (.takenFrom (.text "KINETIC_MODEL")) (.real .zero)) :: []) :=
    .switch hmem .nil (.plain rfl .nil)
  obtain ⟨-, -, name, n, hsource, hn, hagree, -⟩ := lengths_agree fluxes hw hr
  have hthree : n = 3 := by
    cases List.mem_singleton.1 hn
    rfl
  exact ⟨hw, hr, hagree (by omega), by decide +kernel⟩

/-- a count that is minus one where nothing else is given -/
def debt : LineDefinition where
  sectionName := .text "S"
  components :=
    [.scalar (Manifold.field "N") (.number (.int (-1))),
      .vector (Manifold.field "V") (.takenFrom (.text "N")) (.int 0)]
  description := .text ""
  resolved := by decide
  written_once := by decide

/-- one number is written for a count of minus one, and for reading it is no count: the default line is not read back -/
theorem not_lengthsAgree_debt :
    Route debt.components ([.plain (.scalar (Manifold.field "N") (.number (.int (-1))))] ++
        .plain (.vector (Manifold.field "V") (.takenFrom (.text "N")) (.int 0)) :: []) ∧
      (defaultLines debt.components).toOption = some ["-1 0".toList] ∧
      (debt.read "-1 0".toList Container.empty).error.map ReadError.errorClass = some .malformedNumber ∧
      ¬ LengthsAgree debt.components [.plain (.scalar (Manifold.field "N") (.number (.int (-1))))] []
        (Manifold.field "V") (.text "N") (.int 0) := by
  refine ⟨.plain rfl (.plain rfl .nil), by decide +kernel, by decide +kernel, ?_⟩
  rintro ⟨count, -, hresolved⟩
  have hnodup : (([("N", .int (-1))] : Known).map Prod.fst).Nodup := by simp
  obtain ⟨sink, -, hsink⟩ := exists_holds hnodup
  have hcount := hresolved sink hsink (.text "V") (.text "S")
  rw [resolveLength_of_get? (hsink "N" _ List.mem_cons_self), if_pos (by decide)] at hcount
  cases hcount

end LineGrammar
