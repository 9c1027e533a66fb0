/-
Every branch has its default line.

Default lines and branches are written by recursions of their own: the one moves the default choice of every switch to
the front and carries along what is known, the other keeps the order of the declarations. Both list the routes of the
grammar, each route once, and `routesOfAll` lists them in either order.
- `mem_routesOfAll_iff`, `nodup_routesOfAll`: all routes, each once.
- `renderAll_eq`, `map_component_routesOfAll`: the renderings and the branches in terms of routes.
- `default_lines_enumerate`: the default lines, one for every branch.
-/
import Mathlib
import LineGrammar.Grammar.Report
import LineGrammar.Proofs.RoundTrip

namespace LineGrammar

/-! ## The routes, listed -/

mutual

/-- the routes through one component, the default choice of every switch in front or all choices in their order -/
def routes (inFront : Bool) : Component → List (List Stage)
  | .switch s key choices =>
    let groups := routesOfChoices inFront s choices
    (if inFront then defaultFirst key groups else groups).flatMap Prod.snd
  | x => [[.plain x]]

def routesOfAll (inFront : Bool) : List Component → List (List Stage)
  | [] => [[]]
  | x :: xs => (routes inFront x).flatMap (fun p => (routesOfAll inFront xs).map (p ++ ·))

/-- the routes of every choice, each beginning with its literal -/
def routesOfChoices (inFront : Bool) (s : Selection) :
    List (Choice Component) → List (Literal × List (List Stage))
  | [] => []
  | ⟨literal, components⟩ :: rest =>
    (literal, (routesOfAll inFront components).map (.chosen s literal :: ·)) :: routesOfChoices inFront s rest

end

theorem routes_of_plain {x : Component} (h : x.isSwitch = false) (inFront : Bool) :
    routes inFront x = [[.plain x]] := by
  cases x with
  | switch => simp [Component.isSwitch] at h
  | _ => rfl

theorem mem_routesOfChoices {inFront : Bool} {s : Selection} {choices : List (Choice Component)} {p : List Stage} :
    p ∈ (routesOfChoices inFront s choices).flatMap Prod.snd ↔
      ∃ choice ∈ choices, ∃ below ∈ routesOfAll inFront choice.components, p = .chosen s choice.literal :: below := by
  induction choices with
  | nil => simp [routesOfChoices]
  | cons choice rest ih => simp [routesOfChoices, ih, eq_comm]

theorem mem_routes_switch {inFront : Bool} {s : Selection} {key : Datum} {choices : List (Choice Component)}
    {p : List Stage} :
    p ∈ routes inFront (.switch s key choices) ↔
      ∃ choice ∈ choices, ∃ below ∈ routesOfAll inFront choice.components, p = .chosen s choice.literal :: below := by
  have hgroups : ∀ g, g ∈ (if inFront = true then defaultFirst key (routesOfChoices inFront s choices)
      else routesOfChoices inFront s choices) ↔ g ∈ routesOfChoices inFront s choices := by
    intro g
    cases inFront with
    | true => exact ⟨mem_of_mem_defaultFirst, mem_defaultFirst⟩
    | false => rfl
  rw [← mem_routesOfChoices, routes]
  simp only [List.mem_flatMap, hgroups]

theorem mem_routesOfAll_cons {inFront : Bool} {x : Component} {xs : List Component} {r : List Stage} :
    r ∈ routesOfAll inFront (x :: xs) ↔ ∃ p ∈ routes inFront x, ∃ q ∈ routesOfAll inFront xs, r = p ++ q := by
  simp only [routesOfAll, List.mem_flatMap, List.mem_map, eq_comm]

/-- a route through a sequence is one through its first component and one through the others -/
theorem Route.exists_of_cons {x : Component} {xs : List Component} {r : List Stage} (h : Route (x :: xs) r) :
    ∃ p q, Route [x] p ∧ Route xs q ∧ r = p ++ q := by
  cases h with
  | plain hx rest => exact ⟨_, _, .plain hx .nil, rest, rfl⟩
  | @switch s key choices choice _ below q hc inner rest =>
    exact ⟨.chosen s choice.literal :: (below ++ []), q, .switch hc inner .nil, rest, by simp⟩

/-- **All routes are listed, and nothing else.** -/
theorem mem_routesOfAll_iff (inFront : Bool) {cs : List Component} {r : List Stage} :
    r ∈ routesOfAll inFront cs ↔ Route cs r := by
  refine Along.sequence (P := fun cs => ∀ r, r ∈ routesOfAll inFront cs ↔ Route cs r)
    (Q := fun x => ∀ p, p ∈ routes inFront x ↔ Route [x] p) ⟨?plain, ?switch, ?nil, ?cons⟩ cs r
  case plain =>
    intro x hx p
    rw [routes_of_plain hx, List.mem_singleton]
    constructor
    · rintro rfl
      exact .plain hx .nil
    · intro h
      simpa using h.eq_of_plain (by simp [hx])
  case switch =>
    intro s key choices ih p
    rw [mem_routes_switch]
    constructor
    · rintro ⟨choice, hc, below, hbelow, rfl⟩
      have hroute : Route [.switch s key choices] (.chosen s choice.literal :: (below ++ [])) :=
        .switch hc ((ih choice hc below).1 hbelow) .nil
      rwa [List.append_nil] at hroute
    · intro h
      cases h with
      | plain hx => simp [Component.isSwitch] at hx
      | @switch _ _ _ choice _ below _ hc inner rest =>
        cases rest
        rw [List.append_nil]
        exact ⟨choice, hc, below, (ih choice hc below).2 inner, rfl⟩
  case nil =>
    intro r
    rw [routesOfAll, List.mem_singleton]
    constructor
    · rintro rfl
      exact .nil
    · intro h
      cases h
      rfl
  case cons =>
    intro x xs hx hxs r
    rw [mem_routesOfAll_cons]
    constructor
    · rintro ⟨p, hp, q, hq, rfl⟩
      exact ((hx p).1 hp).cons_append ((hxs q).1 hq)
    · intro h
      obtain ⟨p, q, hp, hq, rfl⟩ := h.exists_of_cons
      exact ⟨p, (hx p).2 hp, q, (hxs q).2 hq, rfl⟩

theorem mem_routes_iff {inFront : Bool} {x : Component} {p : List Stage} :
    p ∈ routes inFront x ↔ Route [x] p := by
  rw [← mem_routesOfAll_iff inFront, mem_routesOfAll_cons]
  simp [routesOfAll]

/-! ## Each route once -/

/-- no route goes on where another one has ended -/
theorem Route.append_cancel {cs : List Component} (hw : ∀ x ∈ cs, x.WellFormed) {p p' q q' : List Stage}
    (hp : Route cs p) (hp' : Route cs p') (h : p ++ q = p' ++ q') : p = p' := by
  induction hp generalizing p' q q' with
  | nil =>
    cases hp'
    rfl
  | plain hx _ ih =>
    cases hp' with
    | plain _ rest =>
      rw [List.cons_append, List.cons_append, List.cons.injEq] at h
      rw [ih (fun y hy => hw y (List.mem_cons_of_mem _ hy)) rest h.2]
    | switch => simp [Component.isSwitch] at hx
  | switch hc _ _ ihInner ihRest =>
    cases hp' with
    | plain hx => simp [Component.isSwitch] at hx
    | switch hc' inner rest =>
      cases hw _ List.mem_cons_self with
      | switch s key choices aligned _ wf =>
        simp only [List.cons_append, List.append_assoc, List.cons.injEq, Stage.chosen.injEq, true_and] at h
        obtain ⟨hl, htail⟩ := h
        obtain rfl := eq_of_value_eq aligned hc hc' (congrArg Literal.value hl)
        obtain rfl := ihInner (wf _ hc) inner htail
        rw [ihRest (fun y hy => hw y (List.mem_cons_of_mem _ hy)) rest (List.append_cancel_left htail)]

/-- the choices of a switch have different routes, for they begin with different literals -/
theorem nodup_routesOfChoices {s : Selection} {choices : List (Choice Component)}
    (hliterals : (choices.map Choice.literal).Nodup)
    (h : ∀ choice ∈ choices, (routesOfAll false choice.components).Nodup) :
    ((routesOfChoices false s choices).flatMap Prod.snd).Nodup := by
  induction choices with
  | nil => exact List.nodup_nil
  | cons choice rest ih =>
    obtain ⟨hfirst, hrest⟩ := List.forall_mem_cons.1 h
    rw [List.map_cons, List.nodup_cons] at hliterals
    rw [routesOfChoices, List.flatMap_cons, List.nodup_append]
    refine ⟨?_, ih hliterals.2 hrest, ?_⟩
    · exact hfirst.map (fun _ _ heq => (List.cons.inj heq).2)
    · intro p hp p' hp' heq
      obtain ⟨below, -, rfl⟩ := List.mem_map.1 hp
      obtain ⟨other, ho, below', -, rfl⟩ := mem_routesOfChoices.1 hp'
      have hl : choice.literal = other.literal := by simpa using (List.cons.inj heq).1
      exact hliterals.1 (hl ▸ List.mem_map_of_mem ho)

/-- **No route is listed twice.** -/
theorem nodup_routesOfAll {cs : List Component} (hw : ∀ x ∈ cs, x.WellFormed) : (routesOfAll false cs).Nodup := by
  refine Along.sequence (P := fun cs => (∀ x ∈ cs, x.WellFormed) → (routesOfAll false cs).Nodup)
    (Q := fun x => x.WellFormed → (routes false x).Nodup) ⟨?plain, ?switch, ?nil, ?cons⟩ cs hw
  case plain =>
    intro x hx _
    rw [routes_of_plain hx]
    exact List.nodup_singleton _
  case switch =>
    intro s key choices ih hw
    cases hw with
    | switch _ _ _ aligned _ inner =>
      refine nodup_routesOfChoices ?_ (fun choice hc => ih choice hc (inner choice hc))
      rw [aligned]
      exact s.values_nodup.of_map _
  case nil => exact fun _ => List.nodup_singleton _
  case cons =>
    intro x xs hx hxs hw
    obtain ⟨hwx, hwxs⟩ := List.forall_mem_cons.1 hw
    rw [routesOfAll, List.nodup_flatMap]
    refine ⟨fun p _ => (hxs hwxs).map (fun _ _ heq => List.append_cancel_left heq), ?_⟩
    refine (hx hwx).imp_of_mem (fun {p p'} hp hp' hne r hr hr' => hne ?_)
    obtain ⟨q, -, rfl⟩ := List.mem_map.1 hr
    obtain ⟨q', -, heq⟩ := List.mem_map.1 hr'
    have hwell : ∀ y ∈ [x], y.WellFormed := by simpa using hwx
    exact Route.append_cancel hwell (mem_routes_iff.1 hp) (mem_routes_iff.1 hp') heq.symm

/-! ## Renderings, branches and routes -/

theorem defaultFirst_map {α β : Type} (key : Datum) (f : α → β) (groups : List (Literal × α)) :
    defaultFirst key (groups.map (fun g => (g.1, f g.2))) = (defaultFirst key groups).map (fun g => (g.1, f g.2)) := by
  simp only [defaultFirst, List.filter_map, List.map_append, Function.comp_def]

theorem renderChoices_eq {s : Selection} {choices : List (Choice Component)}
    (h : ∀ choice ∈ choices, ∀ known,
      renderAll choice.components known = (routesOfAll true choice.components).map (renderRoute known))
    (known : Known) :
    renderChoices s choices known =
      (routesOfChoices true s choices).map (fun g => (g.1, g.2.map (renderRoute known))) := by
  induction choices with
  | nil => rfl
  | cons choice rest ih =>
    obtain ⟨hfirst, hrest⟩ := List.forall_mem_cons.1 h
    rw [renderChoices, routesOfChoices, List.map_cons, ih hrest, hfirst, List.map_map, List.map_map]
    rfl

/-- **Rendering writes along every route, the default choices first.** -/
theorem renderAll_eq (cs : List Component) (known : Known) :
    renderAll cs known = (routesOfAll true cs).map (renderRoute known) := by
  refine Along.sequence (P := fun cs => ∀ known, renderAll cs known = (routesOfAll true cs).map (renderRoute known))
    (Q := fun x => ∀ known, render x known = (routes true x).map (renderRoute known))
    ⟨?plain, ?switch, ?nil, ?cons⟩ cs known
  case plain =>
    intro x hx known
    rw [render_of_plain hx, routes_of_plain hx]
    simp [renderRoute, Stage.render]
  case switch =>
    intro s key choices ih known
    rw [render, renderChoices_eq ih, defaultFirst_map, routes, List.flatMap_map, if_pos rfl, List.map_flatMap]
  case nil => exact fun known => rfl
  case cons =>
    intro x xs hx hxs known
    rw [renderAll, routesOfAll, hx, List.flatMap_map, List.map_flatMap]
    simp only [hxs, List.map_map, Function.comp_def, renderRoute_append]

theorem map_component_routesOfChoices {s : Selection} {choices : List (Choice Component)}
    (h : ∀ choice ∈ choices,
      (routesOfAll false choice.components).map (List.map Stage.component) = branchesOfAll choice.components) :
    ((routesOfChoices false s choices).flatMap Prod.snd).map (List.map Stage.component) =
      (branchesOfChoices choices).map (.selection s :: ·) := by
  induction choices with
  | nil => rfl
  | cons choice rest ih =>
    obtain ⟨hfirst, hrest⟩ := List.forall_mem_cons.1 h
    rw [routesOfChoices, List.flatMap_cons, List.map_append, ih hrest, branchesOfChoices, List.map_append, ← hfirst,
      List.map_map, List.map_map]
    rfl

/-- **The branches are the routes without the literals, in the order of the declarations.** -/
theorem map_component_routesOfAll (cs : List Component) :
    (routesOfAll false cs).map (List.map Stage.component) = branchesOfAll cs := by
  refine Along.sequence
    (P := fun cs => (routesOfAll false cs).map (List.map Stage.component) = branchesOfAll cs)
    (Q := fun x => (routes false x).map (List.map Stage.component) = branches x)
    ⟨?plain, ?switch, ?nil, ?cons⟩ cs
  case plain =>
    intro x hx
    rw [routes_of_plain hx, branches_of_plain hx]
    rfl
  case switch =>
    intro s key choices ih
    rw [routes, branches]
    exact map_component_routesOfChoices ih
  case nil => rfl
  case cons =>
    intro x xs hx hxs
    rw [routesOfAll, branchesOfAll, ← hx, ← hxs, List.map_flatMap, List.flatMap_map]
    simp only [List.map_map, Function.comp_def, List.map_append]

theorem routesOfChoices_perm {s : Selection} {choices : List (Choice Component)}
    (h : ∀ choice ∈ choices, (routesOfAll true choice.components).Perm (routesOfAll false choice.components)) :
    ((routesOfChoices true s choices).flatMap Prod.snd).Perm ((routesOfChoices false s choices).flatMap Prod.snd) := by
  induction choices with
  | nil => exact List.Perm.refl _
  | cons choice rest ih =>
    obtain ⟨hfirst, hrest⟩ := List.forall_mem_cons.1 h
    rw [routesOfChoices, routesOfChoices, List.flatMap_cons, List.flatMap_cons]
    exact (hfirst.map _).append (ih hrest)

/-- **Both orders list the same routes.** -/
theorem routesOfAll_perm (cs : List Component) : (routesOfAll true cs).Perm (routesOfAll false cs) := by
  refine Along.sequence (P := fun cs => (routesOfAll true cs).Perm (routesOfAll false cs))
    (Q := fun x => (routes true x).Perm (routes false x)) ⟨?plain, ?switch, ?nil, ?cons⟩ cs
  case plain =>
    intro x hx
    rw [routes_of_plain hx, routes_of_plain hx]
  case switch =>
    intro s key choices ih
    rw [routes, routes, if_pos rfl, if_neg Bool.false_ne_true]
    have hfront : (defaultFirst key (routesOfChoices true s choices)).Perm (routesOfChoices true s choices) :=
      List.filter_append_perm _ _
    exact (hfront.flatMap_right Prod.snd).trans (routesOfChoices_perm ih)
  case nil => exact List.Perm.refl _
  case cons =>
    intro x xs hx hxs
    rw [routesOfAll, routesOfAll]
    exact hx.flatMap (fun p _ => hxs.map (p ++ ·))

/-! ## How many there are -/

theorem length_branchesOfAll_cons (x : Component) (xs : List Component) :
    (branchesOfAll (x :: xs)).length = (branches x).length * (branchesOfAll xs).length := by
  rw [branchesOfAll, List.length_flatMap]
  simp

theorem length_branchesOfChoices (choices : List (Choice Component)) :
    (branchesOfChoices choices).length =
      (choices.map (fun choice => (branchesOfAll choice.components).length)).sum := by
  induction choices with
  | nil => rfl
  | cons choice rest ih => rw [branchesOfChoices, List.length_append, ih, List.map_cons, List.sum_cons]

/-- how many branches a component opens: a switch as many as its choices have together, any other component one -/
def opened (name : Datum) : Component → Nat
  | .switch _ _ choices => (choices.map (fun choice => (analyze name choice.components).branches)).sum
  | _ => 1

theorem length_branches (name : Datum) (x : Component) : (branches x).length = opened name x := by
  cases x with
  | switch s key choices =>
    rw [branches, List.length_map, length_branchesOfChoices]
    rfl
  | _ => rfl

/-- **The number of branches is the product of what the components open.** -/
theorem branches_eq_prod (name : Datum) (cs : List Component) :
    (analyze name cs).branches = (cs.map (opened name)).prod := by
  show (branchesOfAll cs).length = _
  induction cs with
  | nil => rfl
  | cons x xs ih => rw [length_branchesOfAll_cons, ih, length_branches name, List.map_cons, List.prod_cons]

/-! ## The first line -/

/-- the first rendering of the choices with the default key is the one of the default choice -/
theorem head?_renderChoices {s : Selection} {key : Datum} {choices : List (Choice Component)}
    (h : ∀ choice ∈ choices, ∀ known,
      (renderAll choice.components known).head? = some (renderDefaultAll choice.components known))
    (hdefault : ∃ choice ∈ choices, choice.literal.value.datum.same key = true) (known : Known) :
    (((renderChoices s choices known).filter (fun g => g.1.value.datum.same key)).flatMap Prod.snd).head? =
      some (renderDefaultChoice s key choices known) := by
  induction choices with
  | nil => simp at hdefault
  | cons choice rest ih =>
    obtain ⟨hfirst, hrest⟩ := List.forall_mem_cons.1 h
    rw [renderChoices, renderDefaultChoice]
    by_cases hkey : choice.literal.value.datum.same key = true
    · rw [List.filter_cons, if_pos hkey, if_pos hkey, List.flatMap_cons, List.head?_append, List.head?_map, hfirst]
      rfl
    · have hdefault' : ∃ other ∈ rest, other.literal.value.datum.same key = true := by
        simpa [hkey] using hdefault
      rw [List.filter_cons, if_neg hkey, if_neg hkey, ih hrest hdefault']

/-- **The first rendering is the one with the default choice of every switch.** -/
theorem head?_renderAll {cs : List Component} (hw : ∀ x ∈ cs, x.WellFormed) (known : Known) :
    (renderAll cs known).head? = some (renderDefaultAll cs known) := by
  refine Along.sequence
    (P := fun cs => (∀ x ∈ cs, x.WellFormed) → ∀ known,
      (renderAll cs known).head? = some (renderDefaultAll cs known))
    (Q := fun x => x.WellFormed → ∀ known, (render x known).head? = some (renderDefault x known))
    ⟨?plain, ?switch, ?nil, ?cons⟩ cs hw known
  case plain =>
    intro x hx _ known
    rw [render_of_plain hx]
    cases x with
    | switch => simp [Component.isSwitch] at hx
    | _ => rfl
  case switch =>
    intro s key choices ih hw known
    cases hw with
    | switch _ _ _ aligned keyed inner =>
      have hdefault : ∃ choice ∈ choices, choice.literal.value.datum.same key = true := by
        have hmem := s.default_mem
        rw [← aligned] at hmem
        obtain ⟨choice, hc, hl⟩ := List.mem_map.1 hmem
        exact ⟨choice, hc, by rw [hl, Key.same_comm, keyed]⟩
      have hhead := head?_renderChoices (s := s) (fun choice hc => ih choice hc (inner choice hc)) hdefault known
      rw [render, defaultFirst, List.flatMap_append, List.head?_append, hhead, renderDefault]
      rfl
  case nil => exact fun _ _ => rfl
  case cons =>
    intro x xs hx hxs hw known
    obtain ⟨hwx, hwxs⟩ := List.forall_mem_cons.1 hw
    obtain ⟨others, hothers⟩ := List.head?_eq_some_iff.1 (hx hwx known)
    rw [renderAll, hothers, List.flatMap_cons, List.head?_append, List.head?_map, hxs hwxs]
    rfl

/-! ## The default lines of a grammar -/

/-- The default lines of a grammar and its branches, both told by the routes through the grammar. -/
structure Enumerates (name : Datum) (cs : List Component) (rs : List (List Stage)) : Prop where
  /-- every way through the grammar, each once -/
  all : ∀ r, r ∈ rs ↔ Route cs r
  once : rs.Nodup
  /-- one branch for each of them: the branch that the route goes along -/
  branches : (rs.map (List.map Stage.component)).Perm (branchesOfAll cs)
  /-- and one line, written along the route: the default tokens of its stages in order -/
  lines : defaultLines cs = .ok (rs.map branchLine)
  split : ∀ r ∈ rs, tokens (branchLine r) = (renderRoute [] r).tokens
  /-- the default line comes first -/
  first : ∃ r, rs.head? = some r ∧ defaultLine cs = .ok (branchLine r)
  count : rs.length = (analyze name cs).branches
  product : (analyze name cs).branches = (cs.map (opened name)).prod
  /-- every choice is made somewhere, and its literal stands on the line -/
  chosen : ∀ s key choices, .switch s key choices ∈ everyComponentOfAll cs → ∀ choice ∈ choices,
    ∃ r ∈ rs, .chosen s choice.literal ∈ r ∧ choice.literal.token.chars ∈ tokens (branchLine r)

theorem tokens_branchLine (r : List Stage) : tokens (branchLine r) = (renderRoute [] r).tokens :=
  tokens_joinTokens isToken_of_mem_renderRoute

/-- the literal of a choice is written on its route -/
theorem mem_renderRoute_of_chosen {s : Selection} {l : Literal} {r : List Stage} (h : .chosen s l ∈ r)
    (known : Known) : l.token.chars ∈ (renderRoute known r).tokens := by
  obtain ⟨p, q, rfl⟩ := List.append_of_mem h
  rw [renderRoute_append]
  exact List.mem_append_right _ List.mem_cons_self

/-- **There is one default line for every branch.** -/
theorem default_lines_enumerate (name : Datum) {cs : List Component} (hw : ∀ x ∈ cs, x.WellFormed)
    (hwritable : ∀ y ∈ everyComponentOfAll cs, y.isSwitch = false → y.Writable) :
    Enumerates name cs (routesOfAll true cs) := by
  obtain ⟨hlines, hline⟩ := defaultLines_of_writable hw hwritable
  have hperm := (routesOfAll_perm cs).map (List.map Stage.component)
  rw [map_component_routesOfAll] at hperm
  refine ⟨fun r => mem_routesOfAll_iff true, (routesOfAll_perm cs).nodup_iff.2 (nodup_routesOfAll hw), hperm, ?lines,
    fun r _ => tokens_branchLine r, ?first, ?count, branches_eq_prod name cs, ?chosen⟩
  case lines =>
    rw [hlines, renderAll_eq, List.map_map]
    rfl
  case first =>
    have hhead := head?_renderAll hw []
    rw [renderAll_eq, List.head?_map] at hhead
    obtain ⟨r, hr, hrender⟩ := Option.map_eq_some_iff.1 hhead
    exact ⟨r, hr, by rw [hline, ← hrender, branchLine]⟩
  case count =>
    have hlength := hperm.length_eq
    rwa [List.length_map] at hlength
  case chosen =>
    intro s key choices hs choice hc
    obtain ⟨r, hr, hchosen⟩ := exists_route_through hw hs (.chosen hc)
    refine ⟨r, (mem_routesOfAll_iff true).2 hr, hchosen, ?_⟩
    rw [tokens_branchLine]
    exact mem_renderRoute_of_chosen hchosen []

/-- the kinetics have a switch over three choices, and three default lines -/
theorem kinetics_enumerated :
    Enumerates (.text "KINETICS") Manifold.kinetics.components (routesOfAll true Manifold.kinetics.components) ∧
      (routesOfAll true Manifold.kinetics.components).length = 3 := by
  have hs : ∀ x ∈ everyComponentOfAll Manifold.kinetics.components, x.standard = true := by decide +kernel
  have hl : ∀ x ∈ everyComponentOfAll Manifold.kinetics.components, x.legible = true := by decide +kernel
  have hwritable := writable_of_standard Manifold.kinetics Manifold.kinetics_wellFormed hs hl
  exact ⟨default_lines_enumerate _ Manifold.kinetics_wellFormed hwritable, by decide +kernel⟩

end LineGrammar
