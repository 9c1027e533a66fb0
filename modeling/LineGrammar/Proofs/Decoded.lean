/-
What is decoded from data is well formed, and made of components that data can be written for.

Data become components through the builders alone. So whatever the data are, a grammar that comes out of them has at
every depth what the builders give. `Gives` says what a computation gives if it gives anything.
- `decode_gives_all`: a property that the builders pass on from the components of choices to switches.
- `decode_gives_wellFormed`, `decode_gives_standard`: what a component has that data stand for.
-/
import LineGrammar.Document.Decode
import LineGrammar.Proofs.Route

namespace LineGrammar

/-- what the computation gives has the property, if it gives anything -/
def Gives {α ε : Type} (p : α → Prop) (result : Except ε α) : Prop :=
  ∀ a, result = .ok a → p a

namespace Gives

variable {α β ε : Type} {p : α → Prop} {q : β → Prop}

theorem ok {a : α} (h : p a) : Gives p (.ok a : Except ε α) := by
  intro b hb
  cases hb
  exact h

theorem error {e : ε} : Gives p (.error e : Except ε α) := by
  intro b hb
  cases hb

theorem bind {result : Except ε β} {next : β → Except ε α} (h : Gives q result) (hn : ∀ b, q b → Gives p (next b)) :
    Gives p (result >>= next) := by
  intro a ha
  cases result with
  | error e => cases ha
  | ok b => exact hn b (h b rfl) a ha

/-- whatever is given first does not matter -/
theorem bind_any {result : Except ε β} {next : β → Except ε α} (hn : ∀ b, Gives p (next b)) :
    Gives p (result >>= next) :=
  bind (q := fun _ => True) (fun _ _ => trivial) (fun b _ => hn b)

theorem lift {result : Except BuildError α} (h : Gives p result) : Gives p (LineGrammar.lift result) := by
  intro a ha
  cases result with
  | error e => cases ha
  | ok b =>
    cases ha
    exact h a rfl

end Gives

/-! ## Builders -/

namespace Component

/-- a component that holds no others and is of a kind that keeps to itself what it reads -/
def Leaf (x : Component) : Prop :=
  x.isSwitch = false ∧ x.standard = true

theorem buildFlag_gives {info : Info} {default : Datum} : Gives Leaf (buildFlag info default) := by
  unfold buildFlag
  split
  · exact .ok ⟨rfl, rfl⟩
  · exact .error

/-- the builders of components without choices -/
theorem decodeLeaf?_gives {tag : String} {entries : Entries} {result : Except DecodeError Component}
    (h : decodeLeaf? tag entries = some result) : Gives Leaf result := by
  unfold decodeLeaf? at h
  split at h
  · cases h
    exact .bind_any fun _ => .bind_any fun _ => .lift (.bind_any fun _ => .ok ⟨rfl, rfl⟩)
  · cases h
    exact .bind_any fun _ => .lift (.bind_any fun _ => .ok ⟨rfl, rfl⟩)
  · cases h
    exact .bind_any fun _ => .lift (.bind_any fun _ => .ok ⟨rfl, rfl⟩)
  · cases h
    exact .bind_any fun _ => .lift (.bind_any fun _ => .ok ⟨rfl, rfl⟩)
  · cases h
    exact .bind_any fun _ => .lift buildFlag_gives
  · cases h
    exact .bind_any fun _ => .bind_any fun _ => .lift (.bind_any fun _ => .ok ⟨rfl, rfl⟩)
  · cases h
    exact .bind_any fun _ => .bind_any fun _ => .lift (.bind_any fun _ => .ok ⟨rfl, rfl⟩)
  · cases h
    exact .bind_any fun _ => .bind_any fun _ => .bind_any fun _ => .bind_any fun _ =>
      .lift (.bind_any fun _ => .bind_any fun _ => .bind_any fun _ => .ok ⟨rfl, rfl⟩)
  · cases h

/-- what is no list has no members that could be wrong -/
theorem notList_gives {α : Type} {p : List α → Prop} (hp : p []) (member : DecodeError) (d : Datum) :
    Gives p (notList member d) := by
  fun_induction notList with
  | case9 whole ih => exact ih
  | case1 | case3 | case5 | case7 => exact .ok hp
  | _ => exact .error

section

variable {P : Component → Prop}

/-- choices all of whose components have the property -/
def AllChosen (P : Component → Prop) (specs : List ChoiceSpec) : Prop :=
  ∀ spec ∈ specs, ∀ c ∈ spec.components, P c

/-- what the builders pass on: leaves have it, and a switch has it if the components of its choices do -/
structure PassedOn (P : Component → Prop) : Prop where
  leaf : ∀ x, Leaf x → P x
  switch : ∀ info key specs x, buildSwitch info key specs = .ok x → AllChosen P specs → P x

theorem decodeFields_gives (hP : PassedOn P) {entries : Entries} {choices : Except DecodeError (List ChoiceSpec)}
    (h : Gives (AllChosen P) choices) : Gives P (decodeFields entries choices) := by
  unfold decodeFields
  split
  · exact .bind_any fun info => .bind_any fun key => h.bind fun specs hs => .lift fun x hx =>
      hP.switch info key specs x hx hs
  · rename_i tag _ _
    cases hl : decodeLeaf? tag entries with
    | none => exact .error
    | some result => exact fun x hx => hP.leaf x (decodeLeaf?_gives hl x hx)
  · split
    · exact .error
    · exact .error

/-- **Along the data, what the builders pass on reaches every component.** -/
theorem decode_gives_all (hP : PassedOn P) : (∀ d, Gives P (decode d)) ∧
    (∀ entries, Gives (AllChosen P) (choicesIn entries)) ∧ (∀ d, Gives (AllChosen P) (choicesOf d)) ∧
    (∀ ds, Gives (AllChosen P) (decodeChoices ds)) ∧
    (∀ d, Gives (fun spec => ∀ c ∈ spec.components, P c) (decodeChoice d)) ∧
    (∀ entries, Gives (fun items => ∀ c ∈ items, P c) (componentsIn entries)) ∧
    (∀ d, Gives (fun items => ∀ c ∈ items, P c) (componentsOf d)) ∧
    ∀ ds, Gives (fun items => ∀ c ∈ items, P c) (decodeAll ds) := by
  have noChoices : AllChosen P [] := fun spec hs => absurd hs List.not_mem_nil
  have noComponents : ∀ c ∈ ([] : List Component), P c := fun c hc => absurd hc List.not_mem_nil
  apply decode.mutual_induct
  -- a component
  · intro entries ih
    rw [decode]
    exact decodeFields_gives hP ih
  · rw [decode]
    exact .error
  · intro whole hne ih
    rw [decode] <;> assumption
  · intro d hmap hend hagain
    rw [decode]
    · exact .error
    all_goals assumption
  -- the choices under a field
  · intro items ih
    rw [choicesOf]
    exact ih
  · rw [choicesOf]
    exact .error
  · intro items hne ih
    rw [choicesOf] <;> assumption
  · intro d hlist hend hagain
    rw [choicesOf]
    · exact notList_gives noChoices _ d
    all_goals assumption
  -- a choice
  · intro entries ih
    rw [decodeChoice]
    exact .bind_any fun _ => .bind_any fun _ => ih.bind fun components hc => .ok hc
  · rw [decodeChoice]
    exact .error
  · intro whole hne ih
    rw [decodeChoice] <;> assumption
  · intro d hmap hend hagain
    rw [decodeChoice]
    · exact .error
    all_goals assumption
  -- the components under a field
  · intro items ih
    rw [componentsOf]
    exact ih
  · rw [componentsOf]
    exact .error
  · intro items hne ih
    rw [componentsOf] <;> assumption
  · intro d hlist hend hagain
    rw [componentsOf]
    · exact notList_gives noComponents _ d
    all_goals assumption
  -- choices and components one after the other
  · rw [decodeChoices]
    exact .ok noChoices
  · intro d ds ih ihs
    rw [decodeChoices]
    exact ih.bind fun spec hs => ihs.bind fun specs hss => .ok (List.forall_mem_cons.2 ⟨hs, hss⟩)
  · rw [decodeAll]
    exact .ok noComponents
  · intro d ds ih ihs
    rw [decodeAll]
    exact ih.bind fun c hc => ihs.bind fun cs hcs => .ok (List.forall_mem_cons.2 ⟨hc, hcs⟩)
  -- the fields in which choices and components are looked for
  · rw [choicesIn]
    exact .ok noChoices
  · intro d rest ih
    rw [choicesIn]
    exact ih
  · intro head rest hne ih
    rw [choicesIn] <;> assumption
  · rw [componentsIn]
    exact .ok noComponents
  · intro d rest ih
    rw [componentsIn]
    exact ih
  · intro head rest hne ih
    rw [componentsIn] <;> assumption

end

theorem passedOn_wellFormed : PassedOn WellFormed where
  leaf _ h := wellFormed_of_plain h.1
  switch _ _ _ _ h hs := wellFormed_of_buildSwitch h hs

theorem passedOn_standard : PassedOn (fun c => ∀ x ∈ everyComponent c, x.standard = true) where
  leaf c h := by
    intro x hx
    rw [everyComponent_of_plain h.1, List.mem_singleton] at hx
    rw [hx]
    exact h.2
  switch info key specs c h hs := by
    obtain ⟨s, choices, rfl, -, rfl, -, -⟩ := buildSwitch_cases h
    intro x hx
    rcases List.mem_cons.1 hx with rfl | hx
    · rfl
    · obtain ⟨choice, hc, hx⟩ := mem_everyComponentOfChoices.1 hx
      obtain ⟨c, hm, hx⟩ := mem_everyComponentOfAll.1 hx
      exact hs choice.spec (List.mem_map_of_mem hc) c hm x hx

/-- **Whatever the data are, a component they stand for is well formed.** -/
theorem decode_gives_wellFormed (d : Datum) : Gives WellFormed (decode d) :=
  (decode_gives_all passedOn_wellFormed).1 d

/-- **Whatever the data are, no component they stand for holds one that could not be written down.** -/
theorem decode_gives_standard (d : Datum) : Gives (fun c => ∀ x ∈ everyComponent c, x.standard = true) (decode d) :=
  (decode_gives_all passedOn_standard).1 d

end Component

end LineGrammar
