/-
The branch that reading takes.

A `Route` goes through the components of a grammar and settles for one choice at every switch it meets. What is left of
it without the literals is a branch, and every branch comes from a route. Reading a grammar does exactly what reading
the branch of one route does: the same tokens are cut out, the same entries written, the same error raised. Where it
goes well, it is the one route whose choices the container holds.
- `Along.sequence`: the induction along a grammar, into the choices of every switch.
- `mem_branchesOfAll_iff`: branches and routes.
- `exists_leadsAlong`: reading one component leads along a route through it.
- `readAll_of_leadsAlong`: where reading leads along a route, it does what reading the branch does; the simulation.
- `readAll_eq_of_tells`: a route whose choices end up in the container is the one that is followed.
- `readAll_follows_one_branch`: reading any sequence follows a branch, the one that the container tells.
-/
import LineGrammar.Proofs.Built
import LineGrammar.Proofs.Step

namespace LineGrammar

/-! ## The induction along a grammar -/

/-- the cases of an induction over a component and the sequences inside it -/
structure Along (P : List Component → Prop) (Q : Component → Prop) : Prop where
  plain : ∀ x : Component, x.isSwitch = false → Q x
  switch : ∀ s key (choices : List (Choice Component)), (∀ choice ∈ choices, P choice.components) →
    Q (.switch s key choices)
  nil : P []
  cons : ∀ x xs, Q x → P xs → P (x :: xs)

section

variable {P : List Component → Prop} {Q : Component → Prop}

mutual

theorem Along.component (h : Along P Q) (x : Component) : Q x := by
  cases x with
  | switch s key choices => exact h.switch s key choices (h.choices choices)
  | _ => exact h.plain _ rfl
  termination_by sizeOf x

theorem Along.sequence (h : Along P Q) (cs : List Component) : P cs := by
  cases cs with
  | nil => exact h.nil
  | cons x xs => exact h.cons x xs (h.component x) (h.sequence xs)
  termination_by sizeOf cs

theorem Along.choices (h : Along P Q) (choices : List (Choice Component)) :
    ∀ choice ∈ choices, P choice.components := by
  cases choices with
  | nil => nofun
  | cons first rest =>
    obtain ⟨literal, components⟩ := first
    exact List.forall_mem_cons.2 ⟨h.sequence components, h.choices rest⟩
  termination_by sizeOf choices

end

end

/-! ## Routes and branches -/

/-- One stage of a route: a component that is no switch, or the discriminator of a switch with the chosen literal. -/
inductive Stage where
  | plain (x : Component)
  | chosen (s : Selection) (l : Literal)

/-- the stage as it stands on a branch -/
def Stage.component : Stage → Component
  | .plain x => x
  | .chosen s _ => .selection s

/-- a way through a sequence of components, with one choice for every switch met -/
inductive Route : List Component → List Stage → Prop where
  | nil : Route [] []
  | plain {x : Component} {xs : List Component} {r : List Stage} (h : x.isSwitch = false) (rest : Route xs r) :
      Route (x :: xs) (.plain x :: r)
  | switch {s : Selection} {key : Datum} {choices : List (Choice Component)} {choice : Choice Component}
      {xs : List Component} {below r : List Stage} (h : choice ∈ choices) (inner : Route choice.components below)
      (rest : Route xs r) : Route (.switch s key choices :: xs) (.chosen s choice.literal :: (below ++ r))

theorem branches_of_plain {x : Component} (h : x.isSwitch = false) : branches x = [[x]] := by
  cases x with
  | switch => simp [Component.isSwitch] at h
  | _ => rfl

theorem mem_branchesOfChoices {choices : List (Choice Component)} {b : List Component} :
    b ∈ branchesOfChoices choices ↔ ∃ choice ∈ choices, b ∈ branchesOfAll choice.components := by
  induction choices with
  | nil => simp [branchesOfChoices]
  | cons choice rest ih => simp [branchesOfChoices, ih]

theorem mem_branches_switch {s : Selection} {key : Datum} {choices : List (Choice Component)} {b : List Component} :
    b ∈ branches (.switch s key choices) ↔
      ∃ choice ∈ choices, ∃ below ∈ branchesOfAll choice.components, b = .selection s :: below := by
  simp only [branches, List.mem_map, mem_branchesOfChoices]
  constructor
  · rintro ⟨below, ⟨choice, hc, hb⟩, rfl⟩
    exact ⟨choice, hc, below, hb, rfl⟩
  · rintro ⟨choice, hc, below, hb, rfl⟩
    exact ⟨below, ⟨choice, hc, hb⟩, rfl⟩

theorem mem_branchesOfAll_cons {x : Component} {xs b : List Component} :
    b ∈ branchesOfAll (x :: xs) ↔ ∃ b₁ ∈ branches x, ∃ b₂ ∈ branchesOfAll xs, b = b₁ ++ b₂ := by
  simp only [branchesOfAll, List.mem_flatMap, List.mem_map, eq_comm]

theorem mem_everyComponent_self (x : Component) : x ∈ everyComponent x := by
  cases x <;> simp [everyComponent]

theorem everyComponent_of_plain {x : Component} (h : x.isSwitch = false) : everyComponent x = [x] := by
  cases x with
  | switch => simp [Component.isSwitch] at h
  | _ => rfl

theorem mem_everyComponentOfAll {cs : List Component} {x : Component} :
    x ∈ everyComponentOfAll cs ↔ ∃ c ∈ cs, x ∈ everyComponent c := by
  induction cs with
  | nil => simp [everyComponentOfAll]
  | cons c rest ih => simp [everyComponentOfAll, ih]

theorem mem_everyComponentOfChoices {choices : List (Choice Component)} {x : Component} :
    x ∈ everyComponentOfChoices choices ↔ ∃ choice ∈ choices, x ∈ everyComponentOfAll choice.components := by
  induction choices with
  | nil => simp [everyComponentOfChoices]
  | cons choice rest ih => simp [everyComponentOfChoices, ih]

namespace Route

/-- **The stages of a route are a branch.** -/
theorem mem_branchesOfAll {cs : List Component} {r : List Stage} (h : Route cs r) :
    r.map Stage.component ∈ branchesOfAll cs := by
  induction h with
  | nil => simp [branchesOfAll]
  | plain hx _ ih =>
    rw [mem_branchesOfAll_cons, branches_of_plain hx]
    exact ⟨_, List.mem_singleton_self _, _, ih, rfl⟩
  | switch hc _ _ ihInner ihRest =>
    rw [mem_branchesOfAll_cons]
    exact ⟨_, mem_branches_switch.2 ⟨_, hc, _, ihInner, rfl⟩, _, ihRest, by simp [Stage.component]⟩

theorem isSwitch_eq_false {cs : List Component} {r : List Stage} (h : Route cs r) :
    ∀ x ∈ r.map Stage.component, x.isSwitch = false := by
  induction h with
  | nil => simp
  | plain hx _ ih => simpa [Stage.component, hx] using ih
  | switch _ _ _ ihInner ihRest =>
    intro x hx
    rw [List.map_cons, List.map_append, List.mem_cons, List.mem_append] at hx
    rcases hx with rfl | hx | hx
    · rfl
    · exact ihInner x hx
    · exact ihRest x hx

/-- what stands on a route stands in the grammar, by itself or as the discriminator of a switch -/
theorem mem_everyComponent {cs : List Component} {r : List Stage} (h : Route cs r) :
    ∀ x ∈ r.map Stage.component, x ∈ everyComponentOfAll cs ∨
      ∃ s key choices, .switch s key choices ∈ everyComponentOfAll cs ∧ x = .selection s := by
  induction h with
  | nil => simp
  | plain _ _ ih =>
    intro x hx
    rcases List.mem_cons.1 hx with rfl | hx
    · exact Or.inl (List.mem_append_left _ (mem_everyComponent_self _))
    · refine (ih x hx).imp (List.mem_append_right _) ?_
      rintro ⟨s, key, choices, hm, rfl⟩
      exact ⟨s, key, choices, List.mem_append_right _ hm, rfl⟩
  | @switch s key choices choice xs below r hc _ _ ihInner ihRest =>
    intro x hx
    rw [List.map_cons, List.map_append, List.mem_cons, List.mem_append] at hx
    have hinside : ∀ y ∈ everyComponentOfAll choice.components,
        y ∈ everyComponentOfAll (.switch s key choices :: xs) := fun y hm =>
      List.mem_append_left _ (List.mem_cons_of_mem _ (mem_everyComponentOfChoices.2 ⟨_, hc, hm⟩))
    rcases hx with rfl | hx | hx
    · exact Or.inr ⟨s, key, choices, List.mem_append_left _ (mem_everyComponent_self _), rfl⟩
    · refine (ihInner x hx).imp (hinside x) ?_
      rintro ⟨s, key, choices, hm, rfl⟩
      exact ⟨s, key, choices, hinside _ hm, rfl⟩
    · refine (ihRest x hx).imp (List.mem_append_right _) ?_
      rintro ⟨s, key, choices, hm, rfl⟩
      exact ⟨s, key, choices, List.mem_append_right _ hm, rfl⟩

/-- what holds of every component of the grammar holds along a route, if it holds of the discriminators of switches -/
theorem forall_component {cs : List Component} {r : List Stage} (h : Route cs r) {p : Component → Prop}
    (hp : ∀ x ∈ everyComponentOfAll cs, p x) (hs : ∀ s key choices, p (.switch s key choices) → p (.selection s)) :
    ∀ x ∈ r.map Stage.component, p x := by
  intro x hx
  rcases h.mem_everyComponent x hx with hm | ⟨s, key, choices, hm, rfl⟩
  · exact hp x hm
  · exact hs s key choices (hp _ hm)

/-- a route through the first component and one through the others make one through all of them -/
theorem cons_append {x : Component} {xs : List Component} {p r : List Stage} (hp : Route [x] p) (hr : Route xs r) :
    Route (x :: xs) (p ++ r) := by
  cases hp with
  | plain h rest =>
    cases rest
    exact .plain h hr
  | switch h inner rest =>
    cases rest
    rw [List.append_nil, List.cons_append]
    exact .switch h inner hr

theorem append {xs ys : List Component} {p r : List Stage} (hp : Route xs p) (hr : Route ys r) :
    Route (xs ++ ys) (p ++ r) := by
  induction hp with
  | nil => exact hr
  | plain h _ ih => exact .plain h ih
  | switch h inner _ _ ih =>
    rw [List.cons_append, List.cons_append, List.append_assoc]
    exact .switch h inner ih

/-- components without switches are their own route -/
theorem of_plain {xs : List Component} (h : xs.all (fun x => !x.isSwitch) = true) : Route xs (xs.map .plain) := by
  induction xs with
  | nil => exact .nil
  | cons x xs ih =>
    rw [List.all_cons, Bool.and_eq_true] at h
    exact .plain (by simpa using h.1) (ih h.2)

/-- and they have no other one -/
theorem eq_of_plain {xs : List Component} {r : List Stage} (h : Route xs r)
    (hx : xs.all (fun x => !x.isSwitch) = true) : r = xs.map .plain := by
  induction h with
  | nil => rfl
  | plain _ _ ih =>
    rw [List.all_cons, Bool.and_eq_true] at hx
    rw [List.map_cons, ih hx.2]
  | switch => simp [Component.isSwitch] at hx

end Route

/-- if every branch of each component comes from a route, every branch of the sequence does -/
theorem route_of_each {cs : List Component}
    (h : ∀ x ∈ cs, ∀ b ∈ branches x, ∃ p, Route [x] p ∧ p.map Stage.component = b) {b : List Component}
    (hb : b ∈ branchesOfAll cs) : ∃ r, Route cs r ∧ r.map Stage.component = b := by
  induction cs generalizing b with
  | nil =>
    rw [branchesOfAll, List.mem_singleton] at hb
    exact ⟨[], .nil, hb.symm⟩
  | cons x xs ih =>
    obtain ⟨b₁, h₁, b₂, h₂, rfl⟩ := mem_branchesOfAll_cons.1 hb
    obtain ⟨p, hp, rfl⟩ := h x List.mem_cons_self b₁ h₁
    obtain ⟨r, hr, rfl⟩ := ih (fun y hy => h y (List.mem_cons_of_mem x hy)) h₂
    exact ⟨p ++ r, hp.cons_append hr, List.map_append⟩

theorem route_of_mem_branches {x : Component} (hw : x.WellFormed) {b : List Component} (hb : b ∈ branches x) :
    ∃ p, Route [x] p ∧ p.map Stage.component = b := by
  induction hw generalizing b with
  | switch s key choices _ _ _ ih =>
    obtain ⟨choice, hc, below, hbelow, rfl⟩ := mem_branches_switch.1 hb
    obtain ⟨r, hr, rfl⟩ := route_of_each (fun y hy b hb => ih choice hc y hy hb) hbelow
    exact ⟨_, .switch hc hr .nil, by simp [Stage.component]⟩
  | _ =>
    rw [branches_of_plain rfl, List.mem_singleton] at hb
    exact ⟨_, .plain rfl .nil, hb.symm⟩

/-- **The branches of a grammar are what its routes go through.** -/
theorem mem_branchesOfAll_iff {cs : List Component} (hw : ∀ x ∈ cs, x.WellFormed) {b : List Component} :
    b ∈ branchesOfAll cs ↔ ∃ r, Route cs r ∧ r.map Stage.component = b := by
  constructor
  · exact route_of_each (fun x hx _ hb => route_of_mem_branches (hw x hx) hb)
  · rintro ⟨r, hr, rfl⟩
    exact hr.mem_branchesOfAll

/-! ## What the choices of a route leave in a container -/

/-- the container holds the key of every choice that the route has made, under the name of the switch -/
def Tells (sink : Container) (r : List Stage) : Prop :=
  ∀ s l, Stage.chosen s l ∈ r → sink.get? s.info.name = some l.value.datum

theorem Tells.left {sink : Container} {p r : List Stage} (h : Tells sink (p ++ r)) : Tells sink p :=
  fun s l hm => h s l (List.mem_append_left r hm)

theorem Tells.right {sink : Container} {p r : List Stage} (h : Tells sink (p ++ r)) : Tells sink r :=
  fun s l hm => h s l (List.mem_append_right p hm)

theorem Tells.tail {sink : Container} {stage : Stage} {r : List Stage} (h : Tells sink (stage :: r)) : Tells sink r :=
  fun s l hm => h s l (List.mem_cons_of_mem stage hm)

theorem Tells.append {sink : Container} {p r : List Stage} (hp : Tells sink p) (hr : Tells sink r) :
    Tells sink (p ++ r) := by
  intro s l hm
  rcases List.mem_append.1 hm with hm | hm
  · exact hp s l hm
  · exact hr s l hm

/-- what is held stays held while a container grows -/
theorem get?_of_grows {before after : Container} (h : before.entries <+: after.entries) {name : String}
    {value : Datum} (hv : before.get? name = some value) : after.get? name = some value :=
  Container.get?_eq_some_iff.2 (h.subset (Container.get?_eq_some_iff.1 hv))

theorem Tells.of_grows {before after : Container} {r : List Stage} (h : before.entries <+: after.entries)
    (hr : Tells before r) : Tells after r :=
  fun s l hm => get?_of_grows h (hr s l hm)

theorem values_nodup_of_aligned {s : Selection} {choices : List (Choice Component)}
    (aligned : choices.map Choice.literal = s.literals) :
    (choices.map (fun choice => choice.literal.value)).Nodup := by
  have h := s.values_nodup
  rwa [← aligned, List.map_map] at h

theorem eq_of_value_eq {s : Selection} {choices : List (Choice Component)}
    (aligned : choices.map Choice.literal = s.literals) {x y : Choice Component} (hx : x ∈ choices)
    (hy : y ∈ choices) (h : x.literal.value = y.literal.value) : x = y :=
  List.inj_on_of_nodup_map (values_nodup_of_aligned aligned) hx hy h

/-- a choice is found for its own key, compared as loosely as data are, and for no other -/
theorem choiceFor?_eq_some_iff {s : Selection} {choices : List (Choice Component)}
    (aligned : choices.map Choice.literal = s.literals) {key : Datum} {choice : Choice Component} :
    Component.choiceFor? choices key = some choice ↔
      choice ∈ choices ∧ key.same choice.literal.value.datum = true := by
  unfold Component.choiceFor?
  constructor
  · intro h
    have hsame := List.find?_some h
    rw [Key.same_comm] at hsame
    exact ⟨List.mem_of_find?_eq_some h, hsame⟩
  · rintro ⟨hc, hsame⟩
    refine find?_eq_some_of_unique hc ((Key.same_comm ..).trans hsame) fun other hother hkey => ?_
    -- whatever is the same as the key, loosely, is the same as no other choice's key
    rw [Key.same_comm] at hkey
    exact eq_of_value_eq aligned hother hc (Key.eq_of_same hkey hsame)

/-- **A container tells one route at most.** -/
theorem Route.unique {cs : List Component} (hw : ∀ x ∈ cs, x.WellFormed) {sink : Container} {p r : List Stage}
    (hp : Route cs p) (hr : Route cs r) (tellsP : Tells sink p) (tellsR : Tells sink r) : p = r := by
  induction hp generalizing r with
  | nil =>
    cases hr
    rfl
  | plain hx _ ih =>
    cases hr with
    | plain _ rest =>
      rw [ih (fun y hy => hw y (List.mem_cons_of_mem _ hy)) rest tellsP.tail tellsR.tail]
    | switch => simp [Component.isSwitch] at hx
  | switch hc _ _ ihInner ihRest =>
    cases hr with
    | plain hx => simp [Component.isSwitch] at hx
    | switch hc' inner rest =>
      cases hw _ List.mem_cons_self with
      | switch s key choices aligned _ wf =>
        -- both choices have the key that the container holds under the name of the switch
        have hkey := (tellsP _ _ List.mem_cons_self).symm.trans (tellsR _ _ List.mem_cons_self)
        have he := eq_of_value_eq aligned hc hc' (Key.datum_injective (Option.some.inj hkey))
        subst he
        rw [ihInner (wf _ hc) inner tellsP.tail.left tellsR.tail.left,
          ihRest (fun y hy => hw y (List.mem_cons_of_mem _ hy)) rest tellsP.tail.right tellsR.tail.right]

/-! ## Reading along a route -/

theorem readAll_cons_of_none {context : Datum} {x : Component} {c : Cursor} {sink : Container}
    (h : (read context x c sink).error = none) (b : List Component) :
    readAll context (x :: b) c sink =
      readAll context b (read context x c sink).cursor (read context x c sink).sink := by
  rw [readAll, Outcome.andThen_of_none h]

theorem readAll_cons_of_some {context : Datum} {x : Component} {c : Cursor} {sink : Container} {e : ReadError}
    (h : (read context x c sink).error = some e) (b : List Component) :
    readAll context (x :: b) c sink = read context x c sink := by
  rw [readAll, Outcome.andThen_of_some h]

theorem readAll_append (context : Datum) (a b : List Component) (c : Cursor) (sink : Container) :
    readAll context (a ++ b) c sink =
      (readAll context a c sink).andThen (fun c sink => readAll context b c sink) := by
  induction a generalizing c sink with
  | nil => rw [List.nil_append, readAll, Outcome.andThen_of_none rfl]
  | cons x a ih => simp only [List.cons_append, readAll, ih, Outcome.andThen_assoc]

theorem readAll_grows {b : List Component} (hb : ∀ x ∈ b, x.isSwitch = false) (context : Datum) (c : Cursor)
    (sink : Container) : sink.entries <+: (readAll context b c sink).sink.entries := by
  induction b generalizing c sink with
  | nil => exact List.prefix_rfl
  | cons x b ih =>
    have hx := read_grows (hb x List.mem_cons_self) context c sink
    cases he : (read context x c sink).error with
    | none =>
      rw [readAll_cons_of_none he]
      exact hx.trans (ih (fun y hy => hb y (List.mem_cons_of_mem x hy)) _ _)
    | some e =>
      rw [readAll_cons_of_some he]
      exact hx

/-- a discriminator that is read leaves the key of one of its literals -/
theorem readSelection_held {s : Selection} {c : Cursor} {sink : Container}
    (h : (readSelection s c sink).error = none) :
    ∃ l ∈ s.literals, (readSelection s c sink).sink.get? s.info.name = some l.value.datum := by
  rcases read_cases (x := .selection s) rfl rfl .null c sink with ⟨e, he, -⟩ | ⟨-, hl⟩
  · rw [read, h] at he
    simp at he
  · rw [read] at hl
    generalize (readSelection s c sink).sink = after at hl ⊢
    cases hl with
    | nothing hk => simp [Component.writesKey] at hk
    | entry value _ added fits =>
      obtain ⟨l, hl, rfl⟩ := fits
      exact ⟨l, hl, Container.get?_of_added added⟩

/-- behind a discriminator the components of the first choice with the key are read -/
theorem readChosen_of_found {choices : List (Choice Component)} {key : Datum} {choice : Choice Component}
    (h : Component.choiceFor? choices key = some choice) (context : Datum) (s : Selection) (c : Cursor)
    (sink : Container) : readChosen context s key choices c sink = readAll context choice.components c sink := by
  unfold Component.choiceFor? at h
  induction choices with
  | nil => cases h
  | cons first rest ih =>
    rw [readChosen]
    rw [List.find?_cons] at h
    by_cases hkey : first.literal.value.datum.same key = true
    · rw [hkey] at h
      rw [if_pos hkey, Option.some.inj h]
    · rw [Bool.not_eq_true] at hkey
      rw [hkey] at h
      rw [if_neg (by rw [hkey]; exact Bool.false_ne_true), ih h]

theorem readChosen_of_mem (context : Datum) {s : Selection} {choices : List (Choice Component)}
    (aligned : choices.map Choice.literal = s.literals) {choice : Choice Component} (hc : choice ∈ choices) (c : Cursor)
    (sink : Container) :
    readChosen context s choice.literal.value.datum choices c sink = readAll context choice.components c sink :=
  readChosen_of_found ((choiceFor?_eq_some_iff aligned).2 ⟨hc, Key.same_datum_iff.2 rfl⟩) context s c sink

/-- As far as it gets, reading from here makes the choices of the route: behind every choice that is passed the
container holds its key. -/
def LeadsAlong (context : Datum) : List Stage → Cursor → Container → Prop
  | [], _, _ => True
  | stage :: r, c, sink =>
    (read context stage.component c sink).error = none →
      Tells (read context stage.component c sink).sink [stage] ∧
        LeadsAlong context r (read context stage.component c sink).cursor (read context stage.component c sink).sink

theorem leadsAlong_append {context : Datum} {p r : List Stage} {c : Cursor} {sink : Container} :
    LeadsAlong context (p ++ r) c sink ↔ LeadsAlong context p c sink ∧
      ((readAll context (p.map Stage.component) c sink).error = none →
        LeadsAlong context r (readAll context (p.map Stage.component) c sink).cursor
          (readAll context (p.map Stage.component) c sink).sink) := by
  induction p generalizing c sink with
  | nil => simp [LeadsAlong, readAll]
  | cons stage p ih =>
    simp only [List.cons_append, LeadsAlong, List.map_cons, readAll]
    cases he : (read context stage.component c sink).error with
    | none =>
      rw [Outcome.andThen_of_none he]
      simp [ih, and_assoc]
    | some e =>
      rw [Outcome.andThen_of_some he]
      simp [he]

/-- if reading each component leads along a route through it, reading the sequence does -/
theorem exists_leadsAlong_of_each {context : Datum} {cs : List Component}
    (h : ∀ x ∈ cs, ∀ c sink, ∃ p, Route [x] p ∧ LeadsAlong context p c sink) (c : Cursor) (sink : Container) :
    ∃ r, Route cs r ∧ LeadsAlong context r c sink := by
  induction cs generalizing c sink with
  | nil => exact ⟨[], .nil, trivial⟩
  | cons x xs ih =>
    obtain ⟨p, hp, hleads⟩ := h x List.mem_cons_self c sink
    obtain ⟨r, hr, hrest⟩ := ih (fun y hy => h y (List.mem_cons_of_mem x hy))
      (readAll context (p.map Stage.component) c sink).cursor (readAll context (p.map Stage.component) c sink).sink
    exact ⟨p ++ r, hp.cons_append hr, leadsAlong_append.2 ⟨hleads, fun _ => hrest⟩⟩

/-- reading a component leads along a route through it -/
theorem exists_leadsAlong {x : Component} (hw : x.WellFormed) (context : Datum) (c : Cursor) (sink : Container) :
    ∃ p, Route [x] p ∧ LeadsAlong context p c sink := by
  induction hw generalizing c sink with
  | switch s key choices aligned _ _ ih =>
    cases he : (readSelection s c sink).error with
    | some e =>
      -- the discriminator fails, and any route will do
      obtain ⟨choice, hc, -⟩ := List.mem_map.1 (aligned ▸ s.default_mem)
      obtain ⟨below, hbelow, -⟩ := exists_leadsAlong_of_each (fun y hy => ih choice hc y hy) c sink
      refine ⟨_, .switch hc hbelow .nil, ?_⟩
      intro hfine
      rw [Stage.component, read, he] at hfine
      simp at hfine
    | none =>
      obtain ⟨l, hl, hheld⟩ := readSelection_held he
      obtain ⟨choice, hc, rfl⟩ := List.mem_map.1 (aligned ▸ hl)
      obtain ⟨below, hbelow, hleads⟩ := exists_leadsAlong_of_each (fun y hy => ih choice hc y hy)
        (readSelection s c sink).cursor (readSelection s c sink).sink
      refine ⟨_, .switch hc hbelow .nil, ?_⟩
      intro _
      rw [List.append_nil, Stage.component, read]
      refine ⟨fun s' l' hm => ?_, hleads⟩
      obtain ⟨rfl, rfl⟩ : s' = s ∧ l' = choice.literal := by simpa using hm
      exact hheld
  | _ => exact ⟨_, .plain rfl .nil, fun _ => ⟨fun s' l' hm => by simp at hm, trivial⟩⟩

/-- **Reading the components does what reading the stages of the route does,** if it leads along the route. -/
theorem readAll_of_leadsAlong {cs : List Component} {r : List Stage} (hr : Route cs r) (hw : ∀ x ∈ cs, x.WellFormed)
    {context : Datum} {c : Cursor} {sink : Container} (h : LeadsAlong context r c sink) :
    readAll context cs c sink = readAll context (r.map Stage.component) c sink := by
  induction hr generalizing c sink with
  | nil => rfl
  | @plain x xs r _ _ ih =>
    rw [List.map_cons, readAll, readAll, Stage.component]
    cases he : (read context x c sink).error with
    | none =>
      rw [Outcome.andThen_of_none he, Outcome.andThen_of_none he]
      exact ih (fun y hy => hw y (List.mem_cons_of_mem x hy)) (h he).2
    | some e => rw [Outcome.andThen_of_some he, Outcome.andThen_of_some he]
  | @switch s key choices choice xs below r hc _ _ ihInner ihRest =>
    cases hw _ List.mem_cons_self with
    | switch _ _ _ aligned _ wf =>
      rw [List.map_cons, List.map_append, readAll, readAll, Stage.component, read, read]
      cases he : (readSelection s c sink).error with
      | some e => rw [Outcome.andThen_of_some he, Outcome.andThen_of_some he, Outcome.andThen_of_some he]
      | none =>
        obtain ⟨hheld, hrest⟩ := h (by rw [Stage.component, read, he])
        rw [Stage.component, read] at hheld hrest
        obtain ⟨hbelow, hrest⟩ := leadsAlong_append.1 hrest
        have hkey : decodedKey s (readSelection s c sink).sink = choice.literal.value.datum := by
          rw [decodedKey, get?_container, hheld s choice.literal List.mem_cons_self, Option.getD_some]
        rw [Outcome.andThen_of_none he, Outcome.andThen_of_none he, hkey,
          readChosen_of_mem context aligned hc, readAll_append,
          ihInner (wf choice hc) hbelow]
        cases hb : (readAll context (below.map Stage.component) (readSelection s c sink).cursor
            (readSelection s c sink).sink).error with
        | some e => rw [Outcome.andThen_of_some hb, Outcome.andThen_of_some hb]
        | none =>
          rw [Outcome.andThen_of_none hb, Outcome.andThen_of_none hb]
          exact ihRest (fun y hy => hw y (List.mem_cons_of_mem _ hy)) (hrest hb)

/-- a reading that goes well holds all the keys of the route that it leads along -/
theorem tells_of_leadsAlong {context : Datum} {r : List Stage} {c : Cursor} {sink : Container}
    (hplain : ∀ x ∈ r.map Stage.component, x.isSwitch = false) (h : LeadsAlong context r c sink)
    (hn : (readAll context (r.map Stage.component) c sink).error = none) :
    Tells (readAll context (r.map Stage.component) c sink).sink r := by
  induction r generalizing c sink with
  | nil => simp [Tells]
  | cons stage r ih =>
    rw [List.map_cons, readAll] at hn ⊢
    obtain ⟨he, hrest⟩ := Outcome.andThen_of_fine hn
    rw [hrest] at hn ⊢
    have hplains : ∀ x ∈ r.map Stage.component, x.isSwitch = false :=
      fun x hx => hplain x (List.mem_cons_of_mem _ hx)
    obtain ⟨hheld, hleads⟩ := h he
    -- what the stage has left is still held after the others
    exact (hheld.of_grows (readAll_grows hplains context _ _)).append (ih hplains hleads hn)

/-- a route whose choices end up in the container is the one that reading leads along -/
theorem leadsAlong_of_tells {context : Datum} {r : List Stage} {c : Cursor} {sink after : Container}
    (hplain : ∀ x ∈ r.map Stage.component, x.isSwitch = false)
    (hafter : (readAll context (r.map Stage.component) c sink).sink.entries <+: after.entries)
    (htells : Tells after r) : LeadsAlong context r c sink := by
  induction r generalizing c sink with
  | nil => trivial
  | cons stage r ih =>
    intro he
    have hplains : ∀ x ∈ r.map Stage.component, x.isSwitch = false :=
      fun x hx => hplain x (List.mem_cons_of_mem _ hx)
    rw [List.map_cons, readAll_cons_of_none he] at hafter
    refine ⟨?_, ih hplains hafter htells.tail⟩
    intro s l hm
    obtain rfl := (List.mem_singleton.1 hm).symm
    -- the key that is held behind the discriminator is the one that is held at the end
    rw [Stage.component, read] at he hafter ⊢
    obtain ⟨l', -, hheld⟩ := readSelection_held he
    have hend := htells s l List.mem_cons_self
    rw [get?_of_grows ((readAll_grows hplains context _ _).trans hafter) hheld] at hend
    rw [hheld, hend]

/-- reading the components goes along the route: it does what reading the stages does, and leaves the chosen keys -/
structure Follows (context : Datum) (c : Cursor) (sink : Container) (cs : List Component) (r : List Stage) :
    Prop where
  route : Route cs r
  agrees : readAll context cs c sink = readAll context (r.map Stage.component) c sink
  tells : (readAll context cs c sink).error = none → Tells (readAll context cs c sink).sink r

/-- **Reading a sequence follows a route through it.** -/
theorem exists_follows_all {cs : List Component} (hw : ∀ x ∈ cs, x.WellFormed) (context : Datum) (c : Cursor)
    (sink : Container) : ∃ r, Follows context c sink cs r := by
  obtain ⟨r, hr, hleads⟩ := exists_leadsAlong_of_each (fun x hx c s => exists_leadsAlong (hw x hx) context c s) c sink
  have hagrees := readAll_of_leadsAlong hr hw hleads
  refine ⟨r, hr, hagrees, fun hn => ?_⟩
  rw [hagrees] at hn ⊢
  exact tells_of_leadsAlong hr.isSwitch_eq_false hleads hn

/-- **A route whose choices end up in the container is the one that reading follows.** -/
theorem readAll_eq_of_tells {cs : List Component} {r : List Stage} (hr : Route cs r) (hw : ∀ x ∈ cs, x.WellFormed)
    (context : Datum) (c : Cursor) (sink : Container) {after : Container}
    (hafter : (readAll context (r.map Stage.component) c sink).sink.entries <+: after.entries)
    (htells : Tells after r) : readAll context cs c sink = readAll context (r.map Stage.component) c sink :=
  readAll_of_leadsAlong hr hw (leadsAlong_of_tells hr.isSwitch_eq_false hafter htells)

/-- **Reading a grammar is reading one of its branches.** From any cursor and any container, reading the components
and reading the branch end in the same outcome, error included. Where that is a success, the branch is the one that
takes at every switch the choice whose key the container holds. -/
theorem readAll_follows_one_branch {cs : List Component} (hw : ∀ x ∈ cs, x.WellFormed) (context : Datum) (c : Cursor)
    (sink : Container) :
    ∃ r, Route cs r ∧ r.map Stage.component ∈ branchesOfAll cs ∧
      readAll context cs c sink = readAll context (r.map Stage.component) c sink ∧
      ((readAll context cs c sink).error = none →
        ∀ p, Route cs p → (Tells (readAll context cs c sink).sink p ↔ p = r)) := by
  obtain ⟨r, hr⟩ := exists_follows_all hw context c sink
  refine ⟨r, hr.route, hr.route.mem_branchesOfAll, hr.agrees, fun hn p hp => ⟨fun htells => ?_, ?_⟩⟩
  · exact hp.unique hw hr.route htells (hr.tells hn)
  · rintro rfl
    exact hr.tells hn

/-- what reading a line without interface flux ends in -/
def noFluxOutcome : Outcome Container :=
  Manifold.kinetics.read "ConditionID 1 KINETIC_MODEL NoInterfaceFlux ManifoldConditionID 7".toList Container.empty

/-- a line without interface flux is read, and along one branch -/
theorem readAll_follows_one_branch_noFlux :
    (∀ x ∈ Manifold.kinetics.components, x.WellFormed) ∧ noFluxOutcome.error = none ∧
      ∃ r, r.map Stage.component ∈ branchesOfAll Manifold.kinetics.components ∧
        ∀ p, Route Manifold.kinetics.components p → (Tells noFluxOutcome.sink p ↔ p = r) := by
  have hn : noFluxOutcome.error = none := by decide +kernel
  obtain ⟨r, -, hb, -, hone⟩ := readAll_follows_one_branch Manifold.kinetics_wellFormed Manifold.kinetics.sectionName
    (.ofLine "ConditionID 1 KINETIC_MODEL NoInterfaceFlux ManifoldConditionID 7".toList) Container.empty
  exact ⟨Manifold.kinetics_wellFormed, hn, r, hb, hone hn⟩

end LineGrammar
