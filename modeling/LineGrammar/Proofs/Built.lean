/-
What is built is well formed.

Building a switch from choices with well-formed components makes a well-formed component: its choices are the literals
of its discriminator, one for one, and the default key names the default literal. Every other component is well formed
as it is, so a grammar that is built component by component is well formed at every depth.
- `madeOf_of_build`: what a built selection is made of.
- `buildSwitch_cases`: what a built switch is made of.
- `wellFormed_of_buildSwitch`: the step from the choices to the switch.
- `Manifold.kinetics_wellFormed`: a grammar with a switch.
-/
import Mathlib.Data.List.Nodup
import LineGrammar.Manifold

namespace LineGrammar

theorem forall₂_of_mapM {α β ε : Type} {f : α → Except ε β} {xs : List α} {ys : List β} (h : xs.mapM f = .ok ys) :
    List.Forall₂ (fun x y => f x = .ok y) xs ys := by
  induction xs generalizing ys with
  | nil =>
    cases h
    exact .nil
  | cons x xs ih =>
    rw [List.mapM_cons] at h
    cases hx : f x with
    | error e => rw [hx] at h; cases h
    | ok y =>
      cases hxs : xs.mapM f with
      | error e => rw [hx, hxs] at h; cases h
      | ok rest =>
        rw [hx, hxs] at h
        cases h
        exact .cons hx (ih hxs)

theorem mapM_of_forall₂ {α β ε : Type} {f : α → Except ε β} {xs : List α} {ys : List β}
    (h : List.Forall₂ (fun x y => f x = .ok y) xs ys) : xs.mapM f = .ok ys := by
  induction h with
  | nil => rfl
  | cons hx _ ih =>
    rw [List.mapM_cons, hx, ih]
    rfl

/-- the one member that a search can mean is found -/
theorem find?_eq_some_of_unique {α : Type} {p : α → Bool} {xs : List α} {x : α} (hx : x ∈ xs) (hp : p x = true)
    (h : ∀ y ∈ xs, p y = true → y = x) : xs.find? p = some x := by
  cases hf : xs.find? p with
  | none => exact absurd hp (List.find?_eq_none.1 hf x hx)
  | some y => rw [h y (List.mem_of_find?_eq_some hf) (List.find?_some hf)]

/-! ## Selections -/

/-- data that all have a key are given back by their keys -/
theorem map_datum_of_filterMap {f : Datum → Option Key} (hf : ∀ d k, f d = some k → k.datum = d)
    {values : List Datum} (h : (values.filterMap f).length = values.length) :
    (values.filterMap f).map Key.datum = values := by
  have hsome := List.filterMap_length_eq_length.1 h
  clear h
  induction values with
  | nil => rfl
  | cons d values ih =>
    obtain ⟨k, hk⟩ := Option.isSome_iff_exists.1 (hsome d List.mem_cons_self)
    rw [List.filterMap_cons_some hk, List.map_cons, hf d k hk,
      ih (fun e he => hsome e (List.mem_cons_of_mem d he))]

/-- the keys of a selection are its values, as they were given -/
theorem map_datum_of_uniformKeys? {values : List Datum} {keys : List Key} (h : uniformKeys? values = some keys) :
    keys.map Key.datum = values := by
  simp only [uniformKeys?, beq_iff_eq] at h
  split at h
  · rename_i hlen
    rw [← Option.some.inj h]
    exact map_datum_of_filterMap (fun d k hd => by cases d <;> cases hd; rfl) hlen
  · split at h
    · rename_i hlen
      rw [← Option.some.inj h]
      exact map_datum_of_filterMap (fun d k hd => by cases d <;> cases hd; rfl) hlen
    · simp at h

/-- **A check for a token passes on the text of that token,** and on nothing else. -/
theorem checkToken_eq_ok_iff {what : String} {value : Datum} {token : Token} :
    checkToken what value = .ok token ↔ value = .text token.text := by
  constructor
  · intro h
    unfold checkToken at h
    split at h
    · split at h
      · rename_i t ht
        cases h
        rw [Token.ofText?_eq_some_iff.1 ht]
      · cases h
    · cases h
  · rintro rfl
    simp [checkToken, Token.ofText?_text]

/-- data that all pass the check are the texts of the tokens -/
theorem mapM_checkToken_eq_ok_iff {what : String} {values : List Datum} {ts : List Token} :
    values.mapM (checkToken what) = .ok ts ↔ values = ts.map (fun t => .text t.text) := by
  have hforall : List.Forall₂ (fun d t => checkToken what d = .ok t) values ts ↔
      values = ts.map (fun t => .text t.text) := by
    simp only [checkToken_eq_ok_iff]
    rw [← List.forall₂_map_right_iff, List.forall₂_eq_eq_eq]
  exact ⟨fun h => hforall.1 (forall₂_of_mapM h), fun h => mapM_of_forall₂ (hforall.2 h)⟩

theorem ofLiterals?_cases {info : Info} {literals : List Literal} {token : Token} {s : Selection}
    (h : Selection.ofLiterals? info literals token = some s) :
    s.info = info ∧ s.literals = literals ∧ s.default.token = token := by
  unfold Selection.ofLiterals? at h
  split at h
  · simp at h
  · rename_i l hl
    split at h
    · rw [← Option.some.inj h]
      exact ⟨rfl, rfl, by simpa using List.find?_some hl⟩
    · simp at h

/-- what a selection is made of: its info, its default, its literals and their values -/
structure Selection.MadeOf (s : Selection) (info : Info) (default : Datum) (literals values : List Datum) : Prop where
  info_eq : s.info = info
  default_eq : default = .text s.default.token.text
  literals_eq : literals = s.literals.map (fun l => .text l.token.text)
  values_eq : values = s.literals.map (fun l => l.value.datum)

/-- **What a built selection is made of.** Its literals are the given ones, each with the given value. -/
theorem madeOf_of_build {info : Info} {default : Datum} {literals values : List Datum} {s : Selection}
    (h : Selection.build info default literals values = .ok s) : s.MadeOf info default literals values := by
  unfold Selection.build at h
  cases hm : literals.mapM (checkToken s!"literal of selection '{info.name}'") with
  | error e => rw [hm] at h; cases h
  | ok tokens =>
    simp only [hm, bind, Except.bind] at h
    split at h
    · simp at h
    · split at h
      · simp at h
      · rename_i hlen
        split at h
        · simp at h
        · split at h
          · simp at h
          · split at h
            · simp at h
            · cases ht : checkToken "default" default with
              | error e => simp [ht] at h
              | ok token =>
                simp only [ht] at h
                split at h
                · rename_i s' hs
                  cases h
                  obtain ⟨keys, hk, hs⟩ := Option.bind_eq_some_iff.1 hs
                  obtain ⟨hinfo, hlit, htoken⟩ := ofLiterals?_cases hs
                  obtain rfl := mapM_checkToken_eq_ok_iff.1 hm
                  obtain rfl := map_datum_of_uniformKeys? hk
                  have hcount : tokens.length = keys.length := by simpa using hlen
                  refine ⟨hinfo, htoken ▸ checkToken_eq_ok_iff.1 ht, ?_, ?_⟩
                  -- each token stands beside the key with its index
                  · rw [hlit, List.map_zipWith]
                    exact List.ext_getElem (by simp [hcount]) (by simp)
                  · rw [hlit, List.map_zipWith]
                    exact List.ext_getElem (by simp [hcount]) (by simp)
                · simp at h

/-! ## Switches -/

/-- a choice as it is given to the builder of a switch -/
def Choice.spec (choice : Choice Component) : Component.ChoiceSpec :=
  ⟨choice.literal.value.datum, .text choice.literal.token.text, choice.components⟩

/-- **What a built switch is made of.** Its choices are the given ones, in order, and the literals of its discriminator;
the key names the default literal. -/
theorem buildSwitch_cases {info : Info} {key : Datum} {specs : List Component.ChoiceSpec} {x : Component}
    (h : Component.buildSwitch info key specs = .ok x) :
    ∃ s choices, x = .switch s key choices ∧ s.info = info ∧ choices.map Choice.spec = specs ∧
      choices.map Choice.literal = s.literals ∧ key.same s.default.value.datum = true := by
  unfold Component.buildSwitch at h
  split at h
  · simp at h
  · split at h
    · simp at h
    · rename_i chosen hchosen
      cases hs : Selection.build info chosen.literal (specs.map Component.ChoiceSpec.literal)
          (specs.map Component.ChoiceSpec.key) with
      | error e => rw [hs] at h; cases h
      | ok s =>
        rw [hs] at h
        cases h
        obtain ⟨hinfo, hdefault, hliterals, hkeys⟩ := madeOf_of_build hs
        have hcount : specs.length = s.literals.length := by simpa using congrArg List.length hkeys
        have haligned : (s.literals.zipWith (fun l c => (⟨l, c.components⟩ : Choice Component)) specs).map
            Choice.literal = s.literals := by
          rw [List.map_zipWith]
          exact List.ext_getElem (by simp [hcount]) (by simp)
        have hspecs : (s.literals.zipWith (fun l c => (⟨l, c.components⟩ : Choice Component)) specs).map
            Choice.spec = specs := by
          rw [List.map_zipWith]
          refine List.ext_getElem (by simp [hcount]) fun i hi hi' => ?_
          have hkey := List.getElem_of_eq hkeys (i := i) (by simpa using hi')
          have hliteral := List.getElem_of_eq hliterals (i := i) (by simpa using hi')
          rw [List.getElem_map, List.getElem_map] at hkey hliteral
          rw [List.getElem_zipWith, Choice.spec, ← hkey, ← hliteral]
        refine ⟨s, _, rfl, hinfo, hspecs, haligned, ?_⟩
        -- the literal with the default's token is the one of the choice with the default key
        have hm : chosen ∈ specs := List.mem_of_find?_eq_some hchosen
        rw [← hspecs] at hm
        obtain ⟨choice, hc, rfl⟩ := List.mem_map.1 hm
        have hsame := List.find?_some hchosen
        have hl : choice.literal ∈ s.literals := by
          rw [← haligned]
          exact List.mem_map_of_mem hc
        have htoken : choice.literal.token = s.default.token := Token.text_injective (Datum.text.inj hdefault)
        rw [← List.inj_on_of_nodup_map s.tokens_nodup hl s.default_mem htoken, ← Key.same_comm]
        exact hsame

/-- **A switch built from well-formed components is well formed.** -/
theorem wellFormed_of_buildSwitch {info : Info} {key : Datum} {specs : List Component.ChoiceSpec} {x : Component}
    (h : Component.buildSwitch info key specs = .ok x)
    (hw : ∀ spec ∈ specs, ∀ c ∈ spec.components, c.WellFormed) : x.WellFormed := by
  obtain ⟨s, choices, rfl, -, rfl, aligned, keyed⟩ := buildSwitch_cases h
  refine .switch s key choices aligned keyed ?_
  intro choice hc c hcomp
  exact hw choice.spec (List.mem_map_of_mem hc) c hcomp

/-! ## Grammars on a manifold -/

namespace Manifold

theorem wellFormed_of_plain_fields {fields : List Component} (h : fields.all (fun x => !x.isSwitch) = true) :
    ∀ x ∈ fields, x.WellFormed := by
  intro x hx
  exact Component.wellFormed_of_plain (by simpa using List.all_eq_true.1 h x hx)

theorem kinetics_wellFormed : ∀ x ∈ kinetics.components, x.WellFormed := by
  intro x hx
  rcases List.mem_append.1 hx with hx | hx
  · exact wellFormed_of_plain_fields rfl x hx
  · rcases List.mem_cons.1 hx with rfl | hx
    · exact Component.wellFormed_of_plain rfl
    · rw [List.mem_singleton.1 hx]
      refine .switch kineticModel (.int 1) _ rfl ((Key.same_datum_iff (j := .int 1)).2 rfl) ?_
      intro choice hc
      rcases List.mem_cons.1 hc with rfl | hc
      · exact wellFormed_of_plain_fields rfl
      · rcases List.mem_cons.1 hc with rfl | hc
        · exact wellFormed_of_plain_fields rfl
        · rw [List.mem_singleton.1 hc]
          exact wellFormed_of_plain_fields rfl

end Manifold

end LineGrammar
