/-
Components and definitions are kept as data without loss.

What a component is written down as is decoded to the component itself, however deep its switches lie inside each other:
every check that its builder made passes once more, for what is checked is what is written down. Only components that
hand their token on and components of unsupported kinds have no form as data.
- `refusal_encode`: what stands in the way of writing a component down is the first component without a form as data.
- `build_of_selection`, `buildSwitch_of_choices`: a selection and a switch are built again from what they are made of.
- `decode_of_encode`: one component, along the proof that it is well formed.
- `data_lose_nothing`: components, definitions, and the data that components come from.
-/
import LineGrammar.Document.Encode
import LineGrammar.Proofs.BranchLine
import LineGrammar.Proofs.Decoded

namespace LineGrammar

/-! ## What cannot be written down -/

/-- the error that a computation ends in, if there is one -/
def errorOf {ε α : Type} : Except ε α → Option ε
  | .error e => some e
  | .ok _ => none

section

variable {α β γ ε : Type}

theorem errorOf_map (result : Except ε α) (f : α → β) : errorOf (do let a ← result; pure (f a)) = errorOf result := by
  cases result with
  | error e => rfl
  | ok a => rfl

/-- of two computations in a row, the first that fails decides -/
theorem errorOf_both (first : Except ε α) (second : Except ε β) (f : α → β → γ) :
    errorOf (do let a ← first; let b ← second; pure (f a b)) = (errorOf first).or (errorOf second) := by
  cases first with
  | error e => rfl
  | ok a => exact errorOf_map second (f a)

theorem errorOf_eq_none_iff {result : Except ε α} : errorOf result = none ↔ ∃ a, result = .ok a := by
  cases result <;> simp [errorOf]

theorem exists_error_iff {result : Except ε α} : (∃ e, result = .error e) ↔ ¬ ∃ a, result = .ok a := by
  cases result <;> simp

end

namespace Component

/-- why the component itself has no form as data, whatever it holds -/
def refusal? : Component → Option EncodeError
  | .processed info _ => some (.processed info.name)
  | .unsupported _ kind => some (.unsupported kind)
  | _ => none

theorem refusal?_eq_none_iff {x : Component} : x.refusal? = none ↔ x.standard = true := by
  cases x <;> simp [refusal?, standard]

/-- **A component is written down unless one inside it refuses; the first that does decides on the error.** -/
theorem refusal_encode : (∀ c, errorOf (encode c) = (everyComponent c).findSome? refusal?) ∧
    (∀ choices, errorOf (encodeChoices choices) = (everyComponentOfChoices choices).findSome? refusal?) ∧
    ∀ cs, errorOf (encodeAll cs) = (everyComponentOfAll cs).findSome? refusal? := by
  apply encode.mutual_induct
  case case5 =>
    intro s key choices ih
    have hself : refusal? (.switch s key choices) = none := rfl
    rw [encode, errorOf_map, everyComponent, List.findSome?_cons, hself, ih]
  case case8 => rfl
  case case9 =>
    intro literal components rest ih ihs
    rw [encodeChoices, errorOf_both, everyComponentOfChoices, List.findSome?_append, ih, ihs]
  case case10 => rfl
  case case11 =>
    intro x xs ih ihs
    rw [encodeAll, errorOf_both, everyComponentOfAll, List.findSome?_append, ih, ihs]
  -- the others hold no components
  all_goals
    intros
    rfl

/-- a component that holds none without a form as data is written down -/
theorem encode_ok_iff {c : Component} : (∃ y, encode c = .ok y) ↔ ∀ x ∈ everyComponent c, x.standard = true := by
  rw [← errorOf_eq_none_iff, refusal_encode.1, List.findSome?_eq_none_iff]
  simp only [refusal?_eq_none_iff]

theorem encodeAll_ok_iff {cs : List Component} :
    (∃ ys, encodeAll cs = .ok ys) ↔ ∀ x ∈ everyComponentOfAll cs, x.standard = true := by
  rw [← errorOf_eq_none_iff, refusal_encode.2.2, List.findSome?_eq_none_iff]
  simp only [refusal?_eq_none_iff]

end Component

/-! ## Selections built again -/

theorem checkToken_token (what : String) (t : Token) : checkToken what (.text t.text) = .ok t :=
  checkToken_eq_ok_iff.2 rfl

/-- data that come from distinct things, and differ where these do, are not repeated -/
theorem repeats_map_eq_false {α : Type} {f : α → Datum} (hf : ∀ a b, (f a).same (f b) = true → a = b) {xs : List α}
    (h : xs.Nodup) : repeats (xs.map f) = false := by
  induction xs with
  | nil => rfl
  | cons x xs ih =>
    obtain ⟨hx, hxs⟩ := List.nodup_cons.1 h
    rw [List.map_cons, repeats, ih hxs, Bool.or_false, List.any_map, List.any_eq_false]
    intro y hy hsame
    exact hx (hf y x hsame ▸ hy)

/-- values that are all integers or all texts are the keys they come from -/
theorem uniformKeys?_map_datum {keys : List Key} {ints : Bool} (h : ∀ k ∈ keys, k.isInt = ints) :
    uniformKeys? (keys.map Key.datum) = some keys := by
  cases hk : uniformKeys? (keys.map Key.datum) with
  | some others =>
    rw [List.map_injective_iff.2 (fun j k => Key.datum_injective) (map_datum_of_uniformKeys? hk)]
  | none =>
    -- neither the integers nor the texts among the data are all of them
    simp only [uniformKeys?] at hk
    split at hk
    · cases hk
    · rename_i htexts
      split at hk
      · cases hk
      · rename_i hints
        rw [beq_iff_eq, List.filterMap_length_eq_length] at htexts hints
        cases ints with
        | true =>
          refine absurd (List.forall_mem_map.2 fun k hk => ?_) hints
          cases k with
          | int n => rfl
          | text t => cases h _ hk
        | false =>
          refine absurd (List.forall_mem_map.2 fun k hk => ?_) htexts
          cases k with
          | int n => cases h _ hk
          | text t => rfl

/-- the default of a selection is the literal with its token -/
theorem ofLiterals?_default (s : Selection) : Selection.ofLiterals? s.info s.literals s.default.token = some s := by
  have hfind : s.literals.find? (fun l => l.token == s.default.token) = some s.default := by
    refine find?_eq_some_of_unique s.default_mem (by simp) fun l hl htoken => ?_
    exact List.inj_on_of_nodup_map s.tokens_nodup hl s.default_mem (by simpa using htoken)
  unfold Selection.ofLiterals?
  split
  · rename_i hnone
    rw [hfind] at hnone
    cases hnone
  · rename_i l hl
    obtain rfl : s.default = l := Option.some.inj (hfind.symm.trans hl)
    rw [dif_pos ⟨s.tokens_nodup, s.values_nodup, s.uniform⟩]

/-- **A selection is built again from its literals and their values.** -/
theorem build_of_selection (s : Selection) :
    Selection.build s.info (.text s.default.token.text) (s.literals.map (fun l => .text l.token.text))
      (s.literals.map (fun l => l.value.datum)) = .ok s := by
  have htokens : ∀ t u : Token, (Datum.text t.text).same (.text u.text) = true → t = u := by
    intro t u h
    rw [Datum.same, beq_iff_eq] at h
    exact Token.text_injective h
  have hdefault : (s.literals.map (fun l => Datum.text l.token.text)).any
      (fun l => l.same (.text s.default.token.text)) = true := by
    rw [List.any_map, List.any_eq_true]
    exact ⟨s.default, s.default_mem, by simp [Datum.same]⟩
  have hliterals : repeats (s.literals.map (fun l => Datum.text l.token.text)) = false := by
    have h := repeats_map_eq_false htokens s.tokens_nodup
    rwa [List.map_map] at h
  have hvalues : repeats (s.literals.map (fun l => l.value.datum)) = false := by
    have h := repeats_map_eq_false (fun j k => Key.same_datum_iff.1) s.values_nodup
    rwa [List.map_map] at h
  have hhashable : (s.literals.map (fun l => l.value.datum)).all Datum.hashable = true := by
    rw [List.all_map, List.all_eq_true]
    intro l _
    cases hv : l.value <;> simp [hv, Key.datum, Datum.hashable]
  have hkeys : uniformKeys? (s.literals.map (fun l => l.value.datum)) = some (s.literals.map Literal.value) := by
    have h := uniformKeys?_map_datum (List.forall_mem_map.2 s.uniform)
    rwa [List.map_map] at h
  have hzip : (s.literals.map Literal.token).zipWith Literal.mk (s.literals.map Literal.value) = s.literals := by
    simp [List.zipWith_map]
  have htokensOf : (s.literals.map (fun l => Datum.text l.token.text)).mapM
      (checkToken s!"literal of selection '{s.info.name}'") = .ok (s.literals.map Literal.token) :=
    mapM_checkToken_eq_ok_iff.2 (by simp)
  unfold Selection.build
  rw [htokensOf]
  simp [bind, Except.bind, pure, Except.pure, hdefault, hliterals, hvalues, hhashable, hkeys, hzip, checkToken_token,
    ofLiterals?_default]

/-! ## Switches built again -/

/-- the choice that the default key names has the default literal -/
theorem find?_spec {s : Selection} {key : Datum} {choices : List (Choice Component)}
    (aligned : choices.map Choice.literal = s.literals) (keyed : key.same s.default.value.datum = true) :
    ∃ chosen ∈ choices, chosen.literal = s.default ∧
      (choices.map Choice.spec).find? (fun c => c.key.same key) = some chosen.spec := by
  obtain ⟨choice, hc, hdefault⟩ := List.mem_map.1 (aligned ▸ s.default_mem)
  have hfound : Component.choiceFor? choices key = some choice :=
    (choiceFor?_eq_some_iff aligned).2 ⟨hc, hdefault ▸ keyed⟩
  refine ⟨choice, hc, hdefault, ?_⟩
  rw [List.find?_map]
  exact congrArg (Option.map Choice.spec) hfound

/-- **A well-formed switch is built again from its choices.** -/
theorem buildSwitch_of_choices {s : Selection} {key : Datum} {choices : List (Choice Component)}
    (aligned : choices.map Choice.literal = s.literals) (keyed : key.same s.default.value.datum = true) :
    Component.buildSwitch s.info key (choices.map Choice.spec) = .ok (.switch s key choices) := by
  obtain ⟨chosen, hchosen, hdefault, hfind⟩ := find?_spec aligned keyed
  have hsome : (choices.map Choice.spec).isEmpty = false := by
    rw [List.isEmpty_eq_false_iff]
    exact List.ne_nil_of_mem (List.mem_map_of_mem hchosen)
  have hbuilt : Selection.build s.info chosen.spec.literal ((choices.map Choice.spec).map Component.ChoiceSpec.literal)
      ((choices.map Choice.spec).map Component.ChoiceSpec.key) = .ok s := by
    have hselection := build_of_selection s
    rw [← aligned, List.map_map, List.map_map, ← hdefault] at hselection
    rw [List.map_map, List.map_map]
    exact hselection
  have hchoices : s.literals.zipWith (fun l c => (⟨l, c.components⟩ : Choice Component)) (choices.map Choice.spec) =
      choices := by
    rw [← aligned, List.zipWith_map, List.zipWith_self]
    exact List.map_id' choices
  unfold Component.buildSwitch
  rw [hsome, hfind]
  simp only [hbuilt, bind, Except.bind]
  rw [hchoices]
  rfl

/-! ## Decoding what was encoded -/

namespace Component

/-- what goes through the entries and stops at the first with the name stops where the field is found -/
theorem at_field {β : Type} {name : String} (f : Entries → β) (g : Datum → β)
    (here : ∀ d rest, f ((.text name, d) :: rest) = g d)
    (later : ∀ entry rest, (∀ d, entry = (.text name, d) → False) → f (entry :: rest) = f rest) {entries : Entries}
    {d : Datum} (h : Datum.field? name entries = some d) : f entries = g d := by
  induction entries with
  | nil => cases h
  | cons entry rest ih =>
    obtain ⟨key, value⟩ := entry
    by_cases hkey : key = .text name
    · subst hkey
      rw [Datum.field?, if_pos rfl] at h
      rw [here, Option.some.inj h]
    · have hrest : Datum.field? name rest = some d := by
        cases key with
        | text other =>
          have hother : other ≠ name := fun heq => hkey (congrArg Datum.text heq)
          rwa [Datum.field?, if_neg hother] at h
        | _ => simpa [Datum.field?] using h
      rw [later _ rest (fun d heq => hkey (congrArg Prod.fst heq)), ih hrest]

theorem componentsIn_of_field {entries : Entries} {items : List Datum}
    (h : Datum.field? "components" entries = some (.list items)) : componentsIn entries = decodeAll items := by
  rw [at_field componentsIn componentsOf (fun d rest => by rw [componentsIn])
    (fun entry rest hne => by rw [componentsIn]; exact hne) h, componentsOf]

theorem choicesIn_of_field {entries : Entries} {items : List Datum}
    (h : Datum.field? "choices" entries = some (.list items)) : choicesIn entries = decodeChoices items := by
  rw [at_field choicesIn choicesOf (fun d rest => by rw [choicesIn])
    (fun entry rest hne => by rw [choicesIn]; exact hne) h, choicesOf]

/-- a switch is built from its fields and its choices -/
theorem decode_of_switch {entries : Entries} {items : List Datum}
    (htag : Datum.field? "type" entries = some (.text "switch"))
    (h : Datum.field? "choices" entries = some (.list items)) :
    decode (.map entries) = decodeSwitch entries (decodeChoices items) := by
  rw [decode, decodeFields, htag, choicesIn_of_field h]
  rfl

/-- a component of a type without choices is built from its fields -/
theorem decode_of_leaf {entries : Entries} (tag : String) {result : Except DecodeError Component}
    (htag : Datum.field? "type" entries = some (.text tag)) (h : decodeLeaf? tag entries = some result) :
    decode (.map entries) = result := by
  have hswitch : tag ≠ "switch" := by
    rintro rfl
    simp [decodeLeaf?] at h
  rw [decode, decodeFields, htag, Option.getD_some]
  split
  · rename_i heq
    exact absurd (Datum.text.inj heq) hswitch
  · rename_i other _ heq
    rw [← Datum.text.inj heq, h, Option.getD_some]
  · rename_i hno
    exact absurd rfl (hno tag)

/-- what the component is written down as is decoded to the component -/
def Kept (c : Component) : Prop :=
  Gives (fun y => decode y = .ok c) (encode c)

theorem encodeAll_gives {cs : List Component} (h : ∀ c ∈ cs, Kept c) :
    Gives (fun ys => decodeAll ys = .ok cs) (encodeAll cs) := by
  induction cs with
  | nil => exact .ok rfl
  | cons c cs ih =>
    have hc := h c List.mem_cons_self
    have hcs := ih (fun x hx => h x (List.mem_cons_of_mem c hx))
    rw [encodeAll]
    refine hc.bind fun y hy => hcs.bind fun ys hys => .ok ?_
    rw [decodeAll, hy, hys]
    rfl

theorem encodeChoices_gives {choices : List (Choice Component)}
    (h : ∀ choice ∈ choices, ∀ c ∈ choice.components, Kept c) :
    Gives (fun ys => decodeChoices ys = .ok (choices.map Choice.spec)) (encodeChoices choices) := by
  induction choices with
  | nil => exact .ok rfl
  | cons choice rest ih =>
    have hchoice := encodeAll_gives (h choice List.mem_cons_self)
    have hrest := ih (fun x hx => h x (List.mem_cons_of_mem choice hx))
    rw [encodeChoices]
    refine hchoice.bind fun inner hinner => hrest.bind fun others hothers => .ok ?_
    have hdecoded : decodeChoice (.record [("key", choice.literal.value.datum),
        ("literal", .text choice.literal.token.text), ("components", .list inner)]) = .ok choice.spec := by
      rw [Datum.record, decodeChoice, componentsIn_of_field rfl, hinner]
      rfl
    rw [decodeChoices, hdecoded, hothers]
    rfl

/-! ### Fields -/

theorem optionalOf_of_field {entries : Entries} (optional : Bool)
    (h : Datum.field? "optional" entries = some (.bool optional)) : optionalOf entries = .ok optional := by
  rw [optionalOf, h]

theorem infoOf_of_fields {entries : Entries} (info : Info)
    (hname : Datum.field? "name" entries = some (.text info.name))
    (hoptional : Datum.field? "optional" entries = some (.bool info.optional))
    (hdescription : Datum.field? "description" entries = some info.description) : infoOf entries = .ok info := by
  have htext : requireText "name" entries = .ok info.name := by
    rw [requireText, require, hname]
    rfl
  rw [infoOf, htext, optionalOf_of_field info.optional hoptional, givenOf, hdescription]
  rfl

theorem lengthOf_of_field {entries : Entries} (length : Length)
    (h : Datum.field? "length" entries = some length.encode) : lengthOf entries = .ok length := by
  rw [lengthOf, h]
  cases length with
  | fixed count =>
    have hcount : ¬ (count : Int) < 0 := by omega
    have hbuilt : Length.build (.int count) = .ok (.fixed count) := by
      simp only [Length.build, checkInt, bind, Except.bind, if_neg hcount]
      rfl
    exact congrArg lift hbuilt
  | takenFrom source => rfl

/-- **What a well-formed component is written down as is decoded to the component.** -/
theorem decode_of_encode {c : Component} (hw : c.WellFormed) : Kept c := by
  induction hw with
  | separator label optional description =>
    refine .ok ?_
    rw [Datum.record, decode_of_leaf "separator" rfl rfl, optionalOf_of_field optional rfl]
    have hbuilt : buildSeparator (.text label.text) optional description =
        .ok (.separator label optional description) := by
      rw [buildSeparator, checkToken_token]
      rfl
    exact congrArg lift hbuilt
  | scalar info default =>
    refine .ok ?_
    cases default with
    | text token =>
      rw [Datum.record, decode_of_leaf "string" rfl rfl, infoOf_of_fields info rfl rfl rfl]
      have hbuilt : buildText info (.text token.text) = .ok (.scalar info (.text token)) := by
        rw [buildText, checkToken_token]
        rfl
      exact congrArg lift hbuilt
    | flag b =>
      rw [Datum.record, decode_of_leaf "bool" rfl rfl, infoOf_of_fields info rfl rfl rfl]
      rfl
    | number n =>
      cases n with
      | int n =>
        rw [Datum.record, decode_of_leaf "int" rfl rfl, infoOf_of_fields info rfl rfl rfl]
        rfl
      | real x =>
        rw [Datum.record, decode_of_leaf "real" rfl rfl, infoOf_of_fields info rfl rfl rfl]
        rfl
  | vector info length default =>
    refine .ok ?_
    cases default with
    | int n =>
      rw [Datum.record, decode_of_leaf "int_vector" rfl rfl, infoOf_of_fields info rfl rfl rfl,
        lengthOf_of_field length rfl]
      rfl
    | real x =>
      rw [Datum.record, decode_of_leaf "real_vector" rfl rfl, infoOf_of_fields info rfl rfl rfl,
        lengthOf_of_field length rfl]
      rfl
  | selection s =>
    refine .ok ?_
    rw [Selection.encode, Datum.record, decode_of_leaf "selection" rfl rfl,
      infoOf_of_fields s.info rfl rfl rfl]
    have hbuilt : buildSelection s.info (.text s.default.token.text)
        (.list (s.literals.map (fun l => .text l.token.text))) (.list (s.literals.map (fun l => l.value.datum))) =
        .ok (.selection s) := by
      rw [buildSelection, sequence, sequence]
      show (Selection.build s.info _ _ _ >>= fun s => (.ok (.selection s) : Except BuildError Component)) = _
      rw [build_of_selection]
      rfl
    exact congrArg lift hbuilt
  | switch s key choices aligned keyed _ ih =>
    rw [Kept, encode]
    refine (encodeChoices_gives ih).bind fun ys hys => .ok ?_
    rw [Datum.record, decode_of_switch rfl rfl, hys, decodeSwitch, infoOf_of_fields s.info rfl rfl rfl]
    exact congrArg lift (buildSwitch_of_choices aligned keyed)
  | processed | unsupported => exact .error

end Component

/-! ## Definitions -/

/-- a length of a definition is taken from a name -/
theorem LineDefinition.sourcesHashable (d : LineDefinition) (hw : ∀ x ∈ d.components, x.WellFormed) :
    LineGrammar.sourcesHashable d.components = true := by
  rw [LineGrammar.sourcesHashable, List.all_eq_true]
  intro x hx
  cases hs : x.lengthSource? with
  | none => rfl
  | some source =>
    have hplain : x.isSwitch = false := by
      cases x with
      | switch => cases hs
      | _ => rfl
    obtain ⟨b, hb, hm⟩ := exists_branch_of_mem hw hx hplain
    obtain ⟨done, rest, rfl⟩ := List.append_of_mem hm
    obtain ⟨y, -, -, rfl⟩ := d.source_written_before hb hs
    rfl

/-- **What a definition is written down as is decoded to the definition.** -/
theorem LineDefinition.decode_of_encode (d : LineDefinition) (hw : ∀ x ∈ d.components, x.WellFormed) :
    Gives (fun y => LineDefinition.decode y = .ok d) d.encode := by
  have hcomponents := Component.encodeAll_gives (fun c hc => Component.decode_of_encode (hw c hc))
  rw [encode]
  refine hcomponents.bind fun ys hys => .ok ?_
  have hbuilt : build d.sectionName d.components d.description = .ok d := by
    rw [build, d.sourcesHashable hw, dif_pos d.resolved, dif_pos d.written_once]
    rfl
  rw [Datum.record, LineDefinition.decode, Component.componentsIn_of_field rfl, hys]
  exact congrArg lift hbuilt

end LineGrammar
