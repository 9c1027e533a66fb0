/-
The default line of one branch.

Default lines are written for all branches at once. The line of one branch is written along its route, stage by stage,
and it is one of them: a choice that is moved to the front stays a choice. Nothing keeps the lines from being written
where every component can be written and every length is resolved.
- `exists_route_through`: every component stands on a route, and every choice is made on one.
- `renderRoute_mem`: the rendering along a route is one of the renderings.
- `branchLine_mem_defaultLines`: the line of a route is one of the default lines.
-/
import LineGrammar.Grammar.Obstacle
import LineGrammar.Proofs.Soundness

namespace LineGrammar

/-! ## Writing along a route -/

/-- the default tokens of one stage -/
def Stage.render (known : Known) : Stage → Rendering
  | .plain x => renderLeaf known x
  | .chosen s l => ⟨[l.token.chars], (s.info.name, l.value.datum) :: known⟩

/-- the default tokens of a route -/
def renderRoute : Known → List Stage → Rendering
  | known, [] => ⟨[], known⟩
  | known, stage :: r =>
    let first := stage.render known
    let others := renderRoute first.known r
    ⟨first.tokens ++ others.tokens, others.known⟩

/-- the default line of a route -/
def branchLine (r : List Stage) : List Char :=
  joinTokens (renderRoute [] r).tokens

theorem renderRoute_append (known : Known) (p r : List Stage) :
    renderRoute known (p ++ r) = ⟨(renderRoute known p).tokens ++ (renderRoute (renderRoute known p).known r).tokens,
      (renderRoute (renderRoute known p).known r).known⟩ := by
  induction p generalizing known with
  | nil => rfl
  | cons stage p ih => simp only [List.cons_append, renderRoute, ih, List.append_assoc]

theorem mem_defaultFirst {α : Type} {key : Datum} {groups : List (Literal × α)} {g : Literal × α}
    (h : g ∈ groups) : g ∈ defaultFirst key groups := by
  simp only [defaultFirst, List.mem_append, List.mem_filter]
  cases g.1.value.datum.same key with
  | true => exact Or.inl ⟨h, rfl⟩
  | false => exact Or.inr ⟨h, rfl⟩

theorem mem_renderChoices {s : Selection} {choices : List (Choice Component)} {choice : Choice Component}
    (known : Known) (h : choice ∈ choices) :
    (choice.literal, (renderAll choice.components ((s.info.name, choice.literal.value.datum) :: known)).map
      (fun r => (⟨choice.literal.token.chars :: r.tokens, r.known⟩ : Rendering))) ∈
      renderChoices s choices known := by
  induction choices with
  | nil => simp at h
  | cons first rest ih =>
    rcases List.mem_cons.1 h with rfl | h
    · exact List.mem_cons_self
    · exact List.mem_cons_of_mem _ (ih h)

theorem render_of_plain {x : Component} (h : x.isSwitch = false) (known : Known) :
    render x known = [renderLeaf known x] := by
  cases x with
  | switch => simp [Component.isSwitch] at h
  | _ => rfl

theorem mem_renderAll_cons {x : Component} {xs : List Component} {known : Known} {a b : Rendering}
    (ha : a ∈ render x known) (hb : b ∈ renderAll xs a.known) :
    ⟨a.tokens ++ b.tokens, b.known⟩ ∈ renderAll (x :: xs) known := by
  simp only [renderAll, List.mem_flatMap, List.mem_map]
  exact ⟨a, ha, b, hb, rfl⟩

/-- **What is written along a route is one of the renderings of the grammar.** -/
theorem renderRoute_mem {cs : List Component} {r : List Stage} (h : Route cs r) (known : Known) :
    renderRoute known r ∈ renderAll cs known := by
  induction h generalizing known with
  | nil => simp [renderAll, renderRoute]
  | @plain x xs r hx _ ih =>
    refine mem_renderAll_cons ?_ (ih (renderLeaf known x).known)
    rw [render_of_plain hx]
    exact List.mem_singleton_self _
  | @switch s key choices choice xs below r hc _ _ ihInner ihRest =>
    have hinner := ihInner ((s.info.name, choice.literal.value.datum) :: known)
    have hswitch : ⟨choice.literal.token.chars :: (renderRoute ((s.info.name, choice.literal.value.datum) :: known)
        below).tokens, (renderRoute ((s.info.name, choice.literal.value.datum) :: known) below).known⟩ ∈
        render (.switch s key choices) known := by
      simp only [render, List.mem_flatMap]
      exact ⟨_, mem_defaultFirst (mem_renderChoices known hc), List.mem_map.2 ⟨_, hinner, rfl⟩⟩
    have hall := mem_renderAll_cons hswitch (ihRest _)
    rw [renderRoute, renderRoute_append]
    exact hall

/-! ## Every component stands on a branch -/

/-- what a component is on a route: itself, or the discriminator of a switch with the literal of one of its choices -/
inductive Component.StandsAs : Component → Stage → Prop where
  | plain {x : Component} (h : x.isSwitch = false) : StandsAs x (.plain x)
  | chosen {s : Selection} {key : Datum} {choices : List (Choice Component)} {choice : Choice Component}
      (h : choice ∈ choices) : StandsAs (.switch s key choices) (.chosen s choice.literal)

theorem exists_route {cs : List Component} (hw : ∀ x ∈ cs, x.WellFormed) : ∃ r, Route cs r := by
  obtain ⟨r, hr⟩ := exists_follows_all hw .null (.ofLine []) .empty
  exact ⟨r, hr.route⟩

/-- **Every component, at any depth, stands on a route, and every choice of a switch is made on one.** -/
theorem exists_route_through {cs : List Component} (hw : ∀ x ∈ cs, x.WellFormed) {y : Component} {stage : Stage}
    (hy : y ∈ everyComponentOfAll cs) (hstage : y.StandsAs stage) : ∃ r, Route cs r ∧ stage ∈ r := by
  refine Along.sequence
    (P := fun cs => (∀ x ∈ cs, x.WellFormed) → y ∈ everyComponentOfAll cs → ∃ r, Route cs r ∧ stage ∈ r)
    (Q := fun x => x.WellFormed → y ∈ everyComponent x → ∃ p, Route [x] p ∧ stage ∈ p)
    ⟨?plain, ?switch, ?nil, ?cons⟩ cs hw hy
  case plain =>
    intro x hx _ hmem
    rw [everyComponent_of_plain hx, List.mem_singleton] at hmem
    subst hmem
    cases hstage with
    | plain => exact ⟨_, .plain hx .nil, List.mem_cons_self⟩
    | chosen => simp [Component.isSwitch] at hx
  case switch =>
    intro s key choices ih hw hmem
    cases hw with
    | switch _ _ _ _ _ inner =>
      rcases List.mem_cons.1 hmem with rfl | hmem
      · cases hstage with
        | plain h => simp [Component.isSwitch] at h
        | chosen hc =>
          obtain ⟨below, hbelow⟩ := exists_route (inner _ hc)
          exact ⟨_, .switch hc hbelow .nil, List.mem_cons_self⟩
      · obtain ⟨outer, ho, hmem⟩ := mem_everyComponentOfChoices.1 hmem
        obtain ⟨below, hbelow, hin⟩ := ih outer ho (inner outer ho) hmem
        exact ⟨_, .switch ho hbelow .nil, List.mem_cons_of_mem _ (List.mem_append_left _ hin)⟩
  case nil =>
    intro _ hmem
    cases hmem
  case cons =>
    intro x xs hx hxs hw hmem
    obtain ⟨hwx, hwxs⟩ := List.forall_mem_cons.1 hw
    rcases List.mem_append.1 hmem with hmem | hmem
    · obtain ⟨p, hp, hin⟩ := hx hwx hmem
      obtain ⟨r, hr⟩ := exists_route hwxs
      exact ⟨p ++ r, hp.cons_append hr, List.mem_append_left _ hin⟩
    · have hwell : ∀ z ∈ [x], z.WellFormed := by simpa using hwx
      obtain ⟨p, hp⟩ := exists_route hwell
      obtain ⟨r, hr, hin⟩ := hxs hwxs hmem
      exact ⟨p ++ r, hp.cons_append hr, List.mem_append_right _ hin⟩

/-- every stage of a route is what some component of the grammar is on it -/
theorem Route.exists_standsAs {cs : List Component} {r : List Stage} (h : Route cs r) {stage : Stage}
    (hs : stage ∈ r) : ∃ y ∈ everyComponentOfAll cs, y.StandsAs stage := by
  induction h with
  | nil => cases hs
  | plain hx _ ih =>
    rcases List.mem_cons.1 hs with rfl | hs
    · exact ⟨_, List.mem_append_left _ (mem_everyComponent_self _), .plain hx⟩
    · obtain ⟨y, hy, hstands⟩ := ih hs
      exact ⟨y, List.mem_append_right _ hy, hstands⟩
  | switch hc _ _ ihInner ihRest =>
    rcases List.mem_cons.1 hs with rfl | hs
    · exact ⟨_, List.mem_append_left _ (mem_everyComponent_self _), .chosen hc⟩
    rcases List.mem_append.1 hs with hs | hs
    · obtain ⟨y, hy, hstands⟩ := ihInner hs
      refine ⟨y, List.mem_append_left _ ?_, hstands⟩
      exact List.mem_cons_of_mem _ (mem_everyComponentOfChoices.2 ⟨_, hc, hy⟩)
    · obtain ⟨y, hy, hstands⟩ := ihRest hs
      exact ⟨y, List.mem_append_right _ hy, hstands⟩

/-- every component that is no switch stands on a branch -/
theorem exists_branch_of_mem {cs : List Component} (hw : ∀ x ∈ cs, x.WellFormed) {y : Component}
    (hy : y ∈ everyComponentOfAll cs) (hplain : y.isSwitch = false) : ∃ b ∈ branchesOfAll cs, y ∈ b := by
  obtain ⟨r, hr, hmem⟩ := exists_route_through hw hy (.plain hplain)
  exact ⟨_, hr.mem_branchesOfAll, List.mem_map_of_mem (f := Stage.component) hmem⟩

/-! ## Nothing keeps the lines from being written -/

theorem exists_flatMapM_ok {α β ε : Type} {f : α → Except ε (List β)} {xs : List α} (h : ∀ x ∈ xs, ∃ ys, f x = .ok ys) :
    ∃ ys, xs.flatMapM f = .ok ys := by
  induction xs with
  | nil => exact ⟨[], rfl⟩
  | cons x xs ih =>
    obtain ⟨ys, hy⟩ := h x List.mem_cons_self
    obtain ⟨zs, hz⟩ := ih (fun y hy => h y (List.mem_cons_of_mem x hy))
    exact ⟨ys ++ zs, by rw [List.flatMapM_cons, hy, hz]; rfl⟩

/-- whether a component can be written, whatever is known -/
structure Component.Writable (x : Component) : Prop where
  supported : ∀ info kind, x ≠ .unsupported info kind
  sourced : ∀ source, x.lengthSource? = some source → source.hashable = true
  legible : x.legible = true

/-- the default of a component that is legible can be written -/
theorem Component.written_default {info : Info} {default : Scalar} (h : (Component.scalar info default).legible = true) :
    default.datum.written = .ok default.datum.shown := by
  refine Datum.written_eq_ok_iff.2 ⟨?_, rfl⟩
  cases default with
  | text token => exact Datum.showable_text _
  | flag b => simp [Scalar.datum, Datum.showable]
  | number n => exact (Number.showable_datum n).trans h

theorem knownAfter_ok {x : Component} (h : x.Writable) (known : Known) :
    ∃ after, knownAfter none known x = .ok after := by
  cases x with
  | scalar info default =>
    rw [knownAfter, Component.written_default h.legible]
    exact ⟨_, rfl⟩
  | vector info length default =>
    have hwritten : default.datum.written = .ok default.datum.shown :=
      Datum.written_eq_ok_iff.2 ⟨(Number.showable_datum default).trans h.legible, rfl⟩
    cases length with
    | fixed count =>
      rw [knownAfter, hwritten]
      exact ⟨_, rfl⟩
    | takenFrom source =>
      rw [knownAfter, hwritten, if_pos (h.sourced source rfl)]
      exact ⟨_, rfl⟩
  | unsupported info kind => exact absurd rfl (h.supported info kind)
  | _ => exact ⟨_, rfl⟩

theorem passedAll_ok {all : Bool} {cs : List Component}
    (h : ∀ x ∈ cs, ∀ known, ∃ after, passed none all x known = .ok after) (known : List Known) :
    ∃ after, passedAll none all cs known = .ok after := by
  induction cs generalizing known with
  | nil => exact ⟨known, rfl⟩
  | cons x xs ih =>
    have hx : ∃ between, known.flatMapM (passed none all x) = .ok between :=
      exists_flatMapM_ok (fun k _ => h x List.mem_cons_self k)
    obtain ⟨between, hb⟩ := hx
    obtain ⟨after, ha⟩ := ih (fun y hy => h y (List.mem_cons_of_mem x hy)) between
    exact ⟨after, by rw [passedAll, hb]; exact ha⟩

theorem mem_passedChoices {s : Selection} {choices : List (Choice Component)} {known : Known}
    {g : Literal × Except Obstacle (List Known)} (h : g ∈ passedChoices none s choices known) :
    ∃ choice ∈ choices,
      g.2 = passedAll none true choice.components [(s.info.name, choice.literal.value.datum) :: known] := by
  induction choices with
  | nil => simp [passedChoices] at h
  | cons choice rest ih =>
    rcases List.mem_cons.1 h with rfl | h
    · exact ⟨choice, List.mem_cons_self, rfl⟩
    · obtain ⟨other, ho, he⟩ := ih h
      exact ⟨other, List.mem_cons_of_mem _ ho, he⟩

theorem passedDefault_ok {s : Selection} {key : Datum} {choices : List (Choice Component)}
    (h : ∀ choice ∈ choices, ∀ known, ∃ after, passedAll none false choice.components known = .ok after)
    (known : Known) : ∃ after, passedDefault none s key choices known = .ok after := by
  induction choices with
  | nil => exact ⟨[known], rfl⟩
  | cons choice rest ih =>
    rw [passedDefault]
    split
    · exact h choice List.mem_cons_self _
    · exact ih (fun other ho => h other (List.mem_cons_of_mem choice ho))

theorem mem_of_mem_defaultFirst {α : Type} {key : Datum} {groups : List (Literal × α)} {g : Literal × α}
    (h : g ∈ defaultFirst key groups) : g ∈ groups := by
  simp only [defaultFirst, List.mem_append, List.mem_filter] at h
  rcases h with h | h
  · exact h.1
  · exact h.1

theorem passed_ok {x : Component} (hw : x.WellFormed) (h : ∀ y ∈ everyComponent x, y.isSwitch = false → y.Writable)
    (all : Bool) (known : Known) : ∃ after, passed none all x known = .ok after := by
  induction hw generalizing known with
  | switch s key choices _ _ _ ih =>
    have hinner : ∀ choice ∈ choices, ∀ known, ∃ after, passedAll none all choice.components known = .ok after := by
      intro choice hc
      refine passedAll_ok (fun y hy k => ih choice hc y hy (fun z hz => h z ?_) k)
      exact List.mem_cons_of_mem _ (mem_everyComponentOfChoices.2 ⟨choice, hc, mem_everyComponentOfAll.2 ⟨y, hy, hz⟩⟩)
    rw [passed]
    cases all with
    | true =>
      refine exists_flatMapM_ok (fun g hg => ?_)
      obtain ⟨choice, hc, he⟩ := mem_passedChoices (mem_of_mem_defaultFirst hg)
      rw [he]
      exact hinner choice hc _
    | false => exact passedDefault_ok hinner known
  | _ =>
    obtain ⟨after, ha⟩ := knownAfter_ok (h _ (mem_everyComponent_self _) rfl) known
    refine ⟨[after], ?_⟩
    rw [passed, ha]
    · rfl
    · simp

section

variable {cs : List Component} (hw : ∀ x ∈ cs, x.WellFormed)
  (hwritable : ∀ y ∈ everyComponentOfAll cs, y.isSwitch = false → y.Writable)

include hw hwritable

theorem passedAll_of_writable (all : Bool) (known : List Known) : ∃ after, passedAll none all cs known = .ok after :=
  passedAll_ok (fun x hx =>
    passed_ok (hw x hx) (fun y hy => hwritable y (mem_everyComponentOfAll.2 ⟨x, hx, hy⟩)) all) known

/-- **All default lines can be written, and the default line,** if all components can be written. -/
theorem defaultLines_of_writable :
    defaultLines cs = .ok ((renderAll cs []).map (fun r => joinTokens r.tokens)) ∧
      defaultLine cs = .ok (joinTokens (renderDefaultAll cs []).tokens) := by
  obtain ⟨after, ha⟩ := passedAll_of_writable hw hwritable true [[]]
  obtain ⟨after', ha'⟩ := passedAll_of_writable hw hwritable false [[]]
  exact ⟨by rw [defaultLines, ha]; rfl, by rw [defaultLine, ha']; rfl⟩

end

/-- **The line of a route is one of the default lines,** if these can be written. -/
theorem branchLine_mem_defaultLines {cs : List Component} {r : List Stage} (hr : Route cs r) {lines : List (List Char)}
    (h : defaultLines cs = .ok lines) : branchLine r ∈ lines := by
  cases hp : passedAll none true cs [[]] with
  | error e =>
    rw [defaultLines, hp] at h
    cases h
  | ok after =>
    rw [defaultLines, hp] at h
    cases h
    exact List.mem_map.2 ⟨_, renderRoute_mem hr [], rfl⟩

/-- the components of a definition can all be written if they are of some kind and their defaults can, for the sources
of its lengths are fields -/
theorem writable_of_supported (d : LineDefinition) (hw : ∀ x ∈ d.components, x.WellFormed)
    (hs : ∀ x ∈ everyComponentOfAll d.components, ∀ info kind, x ≠ .unsupported info kind)
    (hl : ∀ x ∈ everyComponentOfAll d.components, x.legible = true) :
    ∀ y ∈ everyComponentOfAll d.components, y.isSwitch = false → y.Writable := by
  refine fun y hy hplain => ⟨hs y hy, fun source hsource => ?_, hl y hy⟩
  obtain ⟨b, hb, hm⟩ := exists_branch_of_mem hw hy hplain
  obtain ⟨done, rest, rfl⟩ := List.append_of_mem hm
  obtain ⟨z, -, -, rfl⟩ := d.source_written_before hb hsource
  rfl

/-- the components of a definition of standard components can all be written if their defaults can -/
theorem writable_of_standard (d : LineDefinition) (hw : ∀ x ∈ d.components, x.WellFormed)
    (hs : ∀ x ∈ everyComponentOfAll d.components, x.standard = true)
    (hl : ∀ x ∈ everyComponentOfAll d.components, x.legible = true) :
    ∀ y ∈ everyComponentOfAll d.components, y.isSwitch = false → y.Writable := by
  refine writable_of_supported d hw ?_ hl
  rintro x hx info kind rfl
  simpa [Component.standard] using hs _ hx

end LineGrammar
