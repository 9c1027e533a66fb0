/-
The rows of a component in the table of a manual.

A component has a row of its own, and a switch one more for each of its choices, in their order. The row of a choice
begins with the literal, goes on with the placeholders of what follows it, and says which key the switch has then. A
switch that stands behind a choice is one of these placeholders and no more: no row tells of its choices, and exchanging
them changes nothing. An integer of too many digits has no placeholder, and is no key that a row can show.
- `rows_eq_ok_iff`: what the rows are, and that these are all.
- `exists_rows_iff`: when there are rows.
- `rows_outline`: what is inside the switches that follow a choice does not show.
- `rows_show_own_choices`: the choices of a switch are told of, and what is inside them is not.
- `inner_choice_untold`: a switch with a switch behind one of its choices.
-/
import LineGrammar.Manual.Placeholder
import LineGrammar.Proofs.Built
import LineGrammar.Proofs.Wording

namespace LineGrammar

namespace Component

/-- whether there is a placeholder for the component -/
def placeable : Component → Bool
  | .unsupported .. => false
  | .scalar _ (.number n) => n.legible
  | _ => true

/-- the choices of a switch; nothing else has any -/
def ownChoices : Component → List (Choice Component)
  | .switch _ _ choices => choices
  | _ => []

/-- the component without its choices -/
def closed : Component → Component
  | .switch s key _ => .switch s key []
  | c => c

/-- the component with its choices, but without the choices of what follows them -/
def outline : Component → Component
  | .switch s key choices =>
    .switch s key (choices.map (fun choice => ⟨choice.literal, choice.components.map closed⟩))
  | c => c

end Component

/-- The row of a component itself. -/
structure ShowsItself (c : Component) (row : Row) : Prop where
  token : placeholder c = .ok row.token
  optional : row.optional = if c.optional then "yes" else ""
  description : row.description = c.description

/-- The row of a choice of a switch with that name. -/
structure ShowsChoice (name : String) (choice : Choice Component) (row : Row) : Prop where
  token : ∃ parts, List.Forall₂ (fun x part => placeholder x = .ok part) choice.components parts ∧
    row.token = " ".intercalate (choice.literal.token.text :: parts)
  optional : row.optional = ""
  key : choice.literal.value.datum.showable = true
  description : row.description = .text s!"{name} = {choice.literal.value.datum.shown}"

/-- One of the rows tells of the choice: it begins with its literal and says which key the switch has then. -/
def Told (all : List Row) (s : Selection) (choice : Choice Component) : Prop :=
  ∃ row ∈ all, choice.literal.token.chars <+: row.token.toList ∧
    row.description = .text s!"{s.info.name} = {choice.literal.value.datum.shown}"

/-! ## Two lists side by side -/

section

variable {α β : Type} {R : α → β → Prop} {xs : List α} {ys : List β}

theorem exists_mem_of_forall₂ (h : List.Forall₂ R xs ys) {x : α} (hx : x ∈ xs) : ∃ y ∈ ys, R x y := by
  induction h with
  | nil => cases hx
  | @cons x' y xs ys hxy _ ih =>
    rcases List.mem_cons.1 hx with rfl | hx
    · exact ⟨y, List.mem_cons_self, hxy⟩
    · obtain ⟨z, hz, hxz⟩ := ih hx
      exact ⟨z, List.mem_cons_of_mem y hz, hxz⟩

theorem exists_forall₂ (h : ∀ x ∈ xs, ∃ y, R x y) : ∃ ys, List.Forall₂ R xs ys := by
  induction xs with
  | nil => exact ⟨[], .nil⟩
  | cons x xs ih =>
    obtain ⟨hx, hxs⟩ := List.forall_mem_cons.1 h
    obtain ⟨y, hy⟩ := hx
    obtain ⟨ys, hys⟩ := ih hxs
    exact ⟨y :: ys, .cons hy hys⟩

/-- a list between two others is one member for each pair of theirs -/
theorem exists_forall₂_zip_iff {γ : Type} {S : α × β → γ → Prop} {zs : List γ} :
    (∃ ys, List.Forall₂ R xs ys ∧ List.Forall₂ S (xs.zip ys) zs) ↔
      List.Forall₂ (fun x z => ∃ y, R x y ∧ S (x, y) z) xs zs := by
  induction xs generalizing zs with
  | nil =>
    constructor
    · rintro ⟨ys, hys, hzs⟩
      cases hys
      simpa using hzs
    · exact fun h => ⟨[], .nil, by simpa using h⟩
  | cons x xs ih =>
    constructor
    · rintro ⟨_, hys, hzs⟩
      cases hys with
      | cons hy hys =>
        cases hzs with
        | cons hz hzs => exact .cons ⟨_, hy, hz⟩ (ih.1 ⟨_, hys, hzs⟩)
    · intro h
      cases h with
      | cons hfirst hrest =>
        obtain ⟨y, hy, hz⟩ := hfirst
        obtain ⟨ys, hys, hzs⟩ := ih.2 hrest
        exact ⟨y :: ys, .cons hy hys, .cons hz hzs⟩

theorem map_eq_ok_iff {ε : Type} {f : α → β} {result : Except ε α} {b : β} :
    result.map f = .ok b ↔ ∃ a, result = .ok a ∧ b = f a := by
  cases result with
  | error e => simp [Except.map]
  | ok a => simp [Except.map, eq_comm]

end

/-! ## What the rows are -/

theorem exists_placeholder_iff {x : Component} : (∃ text, placeholder x = .ok text) ↔ x.placeable = true := by
  cases x with
  | scalar info default =>
    cases default with
    | number n => simp [placeholder, Component.placeable, Datum.written_eq_ok_iff, Number.showable_datum]
    | _ => simp [placeholder, Component.placeable]
  | vector info length default => cases default <;> simp [placeholder, Component.placeable]
  | _ => simp [placeholder, Component.placeable]

theorem choiceLine_eq_ok_iff {choice : Choice Component} {line : String} : choiceLine choice = .ok line ↔
    ∃ parts, List.Forall₂ (fun x part => placeholder x = .ok part) choice.components parts ∧
      line = " ".intercalate (choice.literal.token.text :: parts) := by
  constructor
  · intro h
    cases hparts : choice.components.mapM placeholder with
    | error e =>
      rw [choiceLine, hparts] at h
      cases h
    | ok parts =>
      rw [choiceLine, hparts] at h
      cases h
      exact ⟨parts, forall₂_of_mapM hparts, rfl⟩
  · rintro ⟨parts, hparts, rfl⟩
    rw [choiceLine, mapM_of_forall₂ hparts]
    rfl

theorem choiceRow_eq_ok_iff {s : Selection} {choice : Choice Component} {line : String} {row : Row} :
    choiceRow s choice line = .ok row ↔ choice.literal.value.datum.showable = true ∧
      row = ⟨line, "", .text s!"{s.info.name} = {choice.literal.value.datum.shown}"⟩ := by
  cases hkey : choice.literal.value.datum.written with
  | error o =>
    have hnot : ¬ choice.literal.value.datum.showable = true := by
      intro hshow
      rw [Datum.written_eq_ok_iff.2 ⟨hshow, rfl⟩] at hkey
      cases hkey
    rw [choiceRow, hkey]
    exact ⟨nofun, fun h => absurd h.1 hnot⟩
  | ok key =>
    obtain ⟨hshow, rfl⟩ := Datum.written_eq_ok_iff.1 hkey
    rw [choiceRow, hkey]
    exact ⟨fun h => ⟨hshow, (Except.ok.inj h).symm⟩, fun h => congrArg Except.ok h.2.symm⟩

theorem showsChoice_iff {name : String} {choice : Choice Component} {row : Row} : ShowsChoice name choice row ↔
    ∃ line, choiceLine choice = .ok line ∧ choice.literal.value.datum.showable = true ∧
      row = ⟨line, "", .text s!"{name} = {choice.literal.value.datum.shown}"⟩ := by
  simp only [choiceLine_eq_ok_iff]
  constructor
  · rintro ⟨htoken, hoptional, hkey, hdescription⟩
    obtain ⟨token, optional, description⟩ := row
    cases hoptional
    cases hdescription
    exact ⟨token, htoken, hkey, rfl⟩
  · rintro ⟨line, htoken, hkey, rfl⟩
    exact ⟨htoken, rfl, hkey, rfl⟩

/-- the rows of choices are one for each, although all their lines come before the first row -/
theorem choiceRows_eq_ok_iff {s : Selection} {choices : List (Choice Component)} {all : List Row} :
    choiceRows s choices = .ok all ↔ List.Forall₂ (ShowsChoice s.info.name) choices all := by
  have hshows : ∀ choice row, ShowsChoice s.info.name choice row ↔
      ∃ line, choiceLine choice = .ok line ∧ choiceRow s choice line = .ok row := by
    simp only [showsChoice_iff, choiceRow_eq_ok_iff, implies_true]
  simp only [funext₂ fun choice row => propext (hshows choice row)]
  rw [← exists_forall₂_zip_iff (S := fun p row => choiceRow s p.1 p.2 = .ok row)]
  constructor
  · intro h
    cases hlines : choices.mapM choiceLine with
    | error e =>
      rw [choiceRows, hlines] at h
      cases h
    | ok lines =>
      rw [choiceRows, hlines] at h
      exact ⟨lines, forall₂_of_mapM hlines, forall₂_of_mapM h⟩
  · rintro ⟨lines, hlines, hall⟩
    rw [choiceRows, mapM_of_forall₂ hlines]
    exact mapM_of_forall₂ hall

theorem rows_of_plain {c : Component} (h : c.isSwitch = false) :
    rows c = (placeholder c).map (fun token => [⟨token, if c.optional then "yes" else "", c.description⟩]) := by
  cases hplace : placeholder c with
  | error e =>
    rw [rows, hplace]
    rfl
  | ok token =>
    rw [rows, hplace]
    cases c with
    | switch => cases h
    | _ => rfl

theorem rows_of_switch (s : Selection) (key : Datum) (choices : List (Choice Component)) :
    rows (.switch s key choices) = (choiceRows s choices).map
      (⟨s!"<{s.info.name}> [further parameters]", if s.info.optional then "yes" else "", s.info.description⟩ :: ·) := by
  rw [rows, placeholder]
  cases hmore : choiceRows s choices with
  | error e =>
    simp only [bind, Except.bind, hmore]
    rfl
  | ok more =>
    simp only [bind, Except.bind, hmore]
    rfl

theorem showsItself_iff {c : Component} {own : Row} : ShowsItself c own ↔
    ∃ token, placeholder c = .ok token ∧ own = ⟨token, if c.optional then "yes" else "", c.description⟩ := by
  constructor
  · rintro ⟨htoken, hoptional, hdescription⟩
    obtain ⟨token, optional, description⟩ := own
    cases hoptional
    cases hdescription
    exact ⟨token, htoken, rfl⟩
  · rintro ⟨token, htoken, rfl⟩
    exact ⟨htoken, rfl, rfl⟩

/-- **The rows are the component's own and one for each of its choices, in order.** -/
theorem rows_eq_ok_iff {c : Component} {all : List Row} : rows c = .ok all ↔
    ∃ own rest, all = own :: rest ∧ ShowsItself c own ∧ List.Forall₂ (ShowsChoice c.name) c.ownChoices rest := by
  by_cases hc : c.isSwitch = true
  · cases c with
    | switch s key choices =>
      rw [rows_of_switch, map_eq_ok_iff]
      constructor
      · rintro ⟨rest, hmore, rfl⟩
        exact ⟨_, rest, rfl, showsItself_iff.2 ⟨_, rfl, rfl⟩, choiceRows_eq_ok_iff.1 hmore⟩
      · rintro ⟨own, rest, rfl, hown, hmore⟩
        obtain ⟨token, htoken, rfl⟩ := showsItself_iff.1 hown
        cases htoken
        exact ⟨rest, choiceRows_eq_ok_iff.2 hmore, rfl⟩
    | _ => cases hc
  · have hplain : c.isSwitch = false := by simpa using hc
    have hnone : c.ownChoices = [] := by
      cases c with
      | switch => cases hplain
      | _ => rfl
    rw [rows_of_plain hplain, hnone, map_eq_ok_iff]
    constructor
    · rintro ⟨token, htoken, rfl⟩
      exact ⟨_, [], rfl, showsItself_iff.2 ⟨token, htoken, rfl⟩, .nil⟩
    · rintro ⟨own, rest, rfl, hown, hmore⟩
      obtain ⟨token, htoken, rfl⟩ := showsItself_iff.1 hown
      cases hmore
      exact ⟨token, htoken, rfl⟩

/-- there are rows unless the component, or one that follows one of its choices, has no placeholder, or a key has too
many digits -/
theorem exists_rows_iff {c : Component} : (∃ all, rows c = .ok all) ↔
    c.placeable = true ∧ ∀ choice ∈ c.ownChoices, choice.literal.value.datum.showable = true ∧
      ∀ x ∈ choice.components, x.placeable = true := by
  simp only [← exists_placeholder_iff]
  constructor
  · rintro ⟨all, hall⟩
    obtain ⟨own, rest, rfl, hown, hmore⟩ := rows_eq_ok_iff.1 hall
    refine ⟨⟨own.token, hown.token⟩, fun choice hc => ?_⟩
    obtain ⟨row, -, hrow⟩ := exists_mem_of_forall₂ hmore hc
    refine ⟨hrow.key, fun x hx => ?_⟩
    obtain ⟨parts, hparts, -⟩ := hrow.token
    obtain ⟨part, -, hpart⟩ := exists_mem_of_forall₂ hparts hx
    exact ⟨part, hpart⟩
  · rintro ⟨⟨token, htoken⟩, hinner⟩
    have hparts : ∀ choice ∈ c.ownChoices, ∃ row, ShowsChoice c.name choice row := by
      intro choice hc
      obtain ⟨hkey, hcomponents⟩ := hinner choice hc
      obtain ⟨parts, hparts⟩ := exists_forall₂ hcomponents
      exact ⟨⟨_, _, _⟩, ⟨parts, hparts, rfl⟩, rfl, hkey, rfl⟩
    obtain ⟨rest, hrest⟩ := exists_forall₂ hparts
    exact ⟨_, rows_eq_ok_iff.2 ⟨_, rest, rfl, showsItself_iff.2 ⟨token, htoken, rfl⟩, hrest⟩⟩

/-! ## What does not show -/

theorem placeholder_closed (x : Component) : placeholder x.closed = placeholder x := by
  cases x <;> rfl

theorem choiceLine_closed (choice : Choice Component) :
    choiceLine ⟨choice.literal, choice.components.map Component.closed⟩ = choiceLine choice := by
  have hparts : (choice.components.map Component.closed).mapM placeholder = choice.components.mapM placeholder := by
    rw [List.mapM_map]
    exact congrArg (fun f => choice.components.mapM f) (funext placeholder_closed)
  rw [choiceLine, choiceLine, hparts]

theorem choiceRows_closed (s : Selection) (choices : List (Choice Component)) :
    choiceRows s (choices.map (fun choice => ⟨choice.literal, choice.components.map Component.closed⟩)) =
      choiceRows s choices := by
  have hlines : (choices.map (fun choice => (⟨choice.literal, choice.components.map Component.closed⟩ :
      Choice Component))).mapM choiceLine = choices.mapM choiceLine := by
    rw [List.mapM_map]
    exact congrArg (fun f => choices.mapM f) (funext choiceLine_closed)
  rw [choiceRows, choiceRows, hlines]
  -- a row takes no more from its choice than the key
  simp only [List.zip_map_left, List.mapM_map]
  rfl

/-- **The choices of what follows a choice do not show in the rows.** -/
theorem rows_outline (c : Component) : rows c.outline = rows c := by
  cases c with
  | switch s key choices => rw [Component.outline, rows_of_switch, rows_of_switch, choiceRows_closed]
  | _ => rfl

theorem ShowsChoice.begins {name : String} {choice : Choice Component} {row : Row} (h : ShowsChoice name choice row) :
    choice.literal.token.chars <+: row.token.toList := by
  obtain ⟨parts, -, htoken⟩ := h.token
  have hliteral : choice.literal.token.text.toList = choice.literal.token.chars := String.toList_ofList
  rw [htoken, String.toList_intercalate, List.map_cons, hliteral]
  cases parts with
  | nil => simp
  | cons part parts =>
    rw [List.map_cons, List.intercalate_cons_cons, List.append_assoc]
    exact List.prefix_append _ _

/-- **The rows tell of the choices of the component itself, and of no others.** There are rows unless some placeholder
is missing or some key cannot be written, and then they are the component's own and one for each of its choices, which
begins with the literal and says which key the switch has. The choices of a switch behind a choice add nothing to
them. -/
theorem rows_show_own_choices (c : Component) :
    ((∃ all, rows c = .ok all) ↔
        c.placeable = true ∧ ∀ choice ∈ c.ownChoices, choice.literal.value.datum.showable = true ∧
          ∀ x ∈ choice.components, x.placeable = true) ∧
      (∀ all, rows c = .ok all ↔
        ∃ own rest, all = own :: rest ∧ ShowsItself c own ∧ List.Forall₂ (ShowsChoice c.name) c.ownChoices rest) ∧
      (∀ all s key choices, rows c = .ok all → c = .switch s key choices → ∀ choice ∈ choices, Told all s choice) ∧
      rows c.outline = rows c := by
  refine ⟨exists_rows_iff, fun all => rows_eq_ok_iff, ?_, rows_outline c⟩
  rintro all s key choices hall rfl choice hc
  obtain ⟨own, rest, rfl, -, hmore⟩ := rows_eq_ok_iff.1 hall
  obtain ⟨row, hrow, hshows⟩ := exists_mem_of_forall₂ hmore hc
  exact ⟨row, List.mem_cons_of_mem own hrow, hshows.begins, hshows.description⟩

/-- whether there is a flux over the interface -/
def coupling : Selection where
  info := ⟨"COUPLING", false, .text ""⟩
  literals := [⟨Manifold.token "Coupled", .int 1⟩, ⟨Manifold.token "Apart", .int 0⟩]
  default := ⟨Manifold.token "Apart", .int 0⟩
  default_mem := by decide
  tokens_nodup := by decide
  values_nodup := by decide
  uniform := by decide

/-- the kinetic models with nothing behind them -/
def bareModels : List (Choice Component) :=
  [⟨Manifold.constantInterfaceResistance, []⟩, ⟨Manifold.butlerVolmerReduced, []⟩, ⟨Manifold.noInterfaceFlux, []⟩]

/-- a switch with the kinetic models behind one of its choices -/
def coupledKinetics : Component :=
  .switch coupling (.int 0)
    [⟨⟨Manifold.token "Coupled", .int 1⟩, [.switch Manifold.kineticModel (.int 1) bareModels]⟩,
      ⟨⟨Manifold.token "Apart", .int 0⟩, []⟩]

/-- there are three rows, and none of them tells of a kinetic model -/
theorem inner_choice_untold :
    coupledKinetics.WellFormed ∧
      (rows coupledKinetics).toOption.map (List.map Row.token) = some ["<COUPLING> [further parameters]",
        "Coupled <KINETIC_MODEL> [further parameters]", "Apart"] ∧
      ¬ ∀ s key choices, .switch s key choices ∈ everyComponent coupledKinetics → ∀ choice ∈ choices,
        ∃ all, rows coupledKinetics = .ok all ∧ Told all s choice := by
  have hrows : rows coupledKinetics = .ok
      [⟨"<COUPLING> [further parameters]", "", .text ""⟩,
        ⟨"Coupled <KINETIC_MODEL> [further parameters]", "", .text "COUPLING = 1"⟩,
        ⟨"Apart", "", .text "COUPLING = 0"⟩] := by rfl
  refine ⟨?_, by rw [hrows]; rfl, fun h => ?_⟩
  · refine .switch coupling (.int 0) _ rfl ((Key.same_datum_iff (j := .int 0)).2 rfl) ?_
    simp only [List.forall_mem_cons]
    refine ⟨⟨?_, nofun⟩, nofun, nofun⟩
    exact .switch Manifold.kineticModel (.int 1) _ rfl ((Key.same_datum_iff (j := .int 1)).2 rfl) (by simp [bareModels])
  · have hinside : Component.switch Manifold.kineticModel (.int 1) bareModels ∈ everyComponent coupledKinetics := by
      simp [coupledKinetics, everyComponent, everyComponentOfChoices, everyComponentOfAll]
    obtain ⟨all, hall, row, hrow, -, hdescription⟩ := h _ _ _ hinside ⟨Manifold.noInterfaceFlux, []⟩
      (by simp [bareModels])
    rw [hrows] at hall
    cases hall
    have hmodel : row.description = .text "KINETIC_MODEL = 3" := hdescription
    -- no row has this description
    simp only [List.mem_cons, List.not_mem_nil, or_false] at hrow
    rcases hrow with rfl | rfl | rfl <;> simp at hmodel

end LineGrammar
