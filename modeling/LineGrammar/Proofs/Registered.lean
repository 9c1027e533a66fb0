/-
The choices of a switch, and the discriminator that is made of them.

A switch is built from choices, its discriminator from their literals and their keys. Reading goes from the line back to
a choice: from a literal to the value that it stands for, from there to what the container holds under the name of the
switch, and from that to the choice with the key. Every hop takes the first that it finds, and each compares in its own
way, tokens by their characters and keys as loosely as data are. What is checked when a switch is built makes each hop
undo the one before, so that there is a choice for whatever a discriminator stores.
- `valueFor?_eq_some_iff`: what is found under a token; `choiceFor?_eq_some_iff` is the same for a key.
- `registers_of_buildSwitch`: what a built switch is known to have.
- `exists_readsChoice`: the hops from the line to the choice.
- `raises_of_wellFormed`: at any depth, only what a token is handed on to could say that a key has no choice.
- `switch_registers_choices`: all of it, for whatever a switch is built from.
-/
import LineGrammar.Proofs.Encoded
import LineGrammar.Proofs.Literals
import LineGrammar.Proofs.Pointing

namespace LineGrammar

/-! ## From literals to choices and back -/

/-- under a token stands the value of the literal that has it -/
theorem valueFor?_eq_some_iff {s : Selection} {token : List Char} {k : Key} :
    s.valueFor? token = some k ↔ ∃ l ∈ s.literals, l.token.chars = token ∧ l.value = k := by
  unfold Selection.valueFor?
  rw [Option.map_eq_some_iff]
  constructor
  · rintro ⟨l, hf, hvalue⟩
    have hchars : l.token.chars = token := by simpa using List.find?_some hf
    exact ⟨l, List.mem_of_find?_eq_some hf, hchars, hvalue⟩
  · rintro ⟨l, hl, rfl, hvalue⟩
    refine ⟨l, find?_eq_some_of_unique hl (by simp) fun other hother htoken => ?_, hvalue⟩
    have hchars : other.token.chars = l.token.chars := by simpa using htoken
    exact List.inj_on_of_nodup_map s.tokens_nodup hother hl (Token.chars_injective hchars)

namespace Component

/-- What a switch has of what it was built from: the choices with their keys and literals, and the default key. -/
structure Registers (info : Info) (key : Datum) (specs : List ChoiceSpec) (s : Selection)
    (choices : List (Choice Component)) : Prop where
  info_eq : s.info = info
  /-- the choices are the given ones, and the discriminator lists their literals in the same order -/
  given : choices.map Choice.spec = specs
  aligned : choices.map Choice.literal = s.literals
  keys_apart : specs.Pairwise (fun a b => a.key.same b.key = false)
  keys_alike : (∀ spec ∈ specs, ∃ n, spec.key = .int n) ∨ ∀ spec ∈ specs, ∃ t, spec.key = .text t
  literals_apart : specs.Pairwise (fun a b => a.literal ≠ b.literal)
  literals_solid : ∀ spec ∈ specs, ∃ t, spec.literal = .text t ∧ isToken t.toList = true
  /-- from the literal of a choice to its value and on to the choice -/
  decoded : ∀ choice ∈ choices, ∃ k, s.valueFor? choice.literal.token.chars = some k ∧
    choiceFor? choices k.datum = some choice
  /-- from a key to its choice and on to the value of the literal, which is that key -/
  encoded : ∀ k choice, choiceFor? choices k = some choice → ∃ k', s.valueFor? choice.literal.token.chars = some k' ∧
    k.same k'.datum = true
  default_eq : ∃ chosen, choiceFor? choices key = some chosen ∧ chosen.literal = s.default

section

variable {s : Selection} {key : Datum} {choices : List (Choice Component)}

theorem keys_apart_of_aligned (aligned : choices.map Choice.literal = s.literals) :
    (choices.map Choice.spec).Pairwise (fun a b => a.key.same b.key = false) := by
  have hnodup := values_nodup_of_aligned aligned
  rw [List.Nodup, List.pairwise_map] at hnodup
  rw [List.pairwise_map]
  refine hnodup.imp fun {a b} hne => ?_
  rw [← Bool.not_eq_true]
  intro hsame
  exact hne (Key.same_datum_iff.1 hsame)

theorem literals_apart_of_aligned (aligned : choices.map Choice.literal = s.literals) :
    (choices.map Choice.spec).Pairwise (fun a b => a.literal ≠ b.literal) := by
  have hnodup := s.tokens_nodup
  rw [← aligned, List.map_map, List.Nodup, List.pairwise_map] at hnodup
  rw [List.pairwise_map]
  refine hnodup.imp fun {a b} hne => ?_
  intro heq
  exact hne (Token.text_injective (Datum.text.inj heq))

theorem keys_alike_of_aligned (aligned : choices.map Choice.literal = s.literals) :
    (∀ spec ∈ choices.map Choice.spec, ∃ n, spec.key = .int n) ∨
      ∀ spec ∈ choices.map Choice.spec, ∃ t, spec.key = .text t := by
  have huniform : ∀ choice ∈ choices, choice.literal.value.isInt = s.default.value.isInt := by
    intro choice hc
    exact s.uniform _ (aligned ▸ List.mem_map_of_mem hc)
  simp only [List.forall_mem_map]
  cases hd : s.default.value.isInt with
  | true =>
    refine Or.inl fun choice hc => ?_
    have hint := (huniform choice hc).trans hd
    cases hv : choice.literal.value with
    | int n => exact ⟨n, congrArg Key.datum hv⟩
    | text t =>
      rw [hv] at hint
      cases hint
  | false =>
    refine Or.inr fun choice hc => ?_
    have hint := (huniform choice hc).trans hd
    cases hv : choice.literal.value with
    | text t => exact ⟨t, congrArg Key.datum hv⟩
    | int n =>
      rw [hv] at hint
      cases hint

/-- **What a built switch is known to have.** -/
theorem registers_of_buildSwitch {info : Info} {specs : List ChoiceSpec}
    (h : buildSwitch info key specs = .ok (.switch s key choices)) : Registers info key specs s choices := by
  obtain ⟨s', choices', heq, hinfo, rfl, aligned, keyed⟩ := buildSwitch_cases h
  cases heq
  refine ⟨hinfo, rfl, aligned, keys_apart_of_aligned aligned, keys_alike_of_aligned aligned,
    literals_apart_of_aligned aligned, ?_, ?_, ?_, ?_⟩
  · intro spec hspec
    obtain ⟨choice, -, rfl⟩ := List.mem_map.1 hspec
    refine ⟨choice.literal.token.text, rfl, ?_⟩
    rw [Token.text, String.toList_ofList]
    exact isToken_chars choice.literal.token
  · intro choice hc
    have hl : choice.literal ∈ s.literals := aligned ▸ List.mem_map_of_mem hc
    refine ⟨choice.literal.value, valueFor?_eq_some_iff.2 ⟨_, hl, rfl, rfl⟩, ?_⟩
    exact (choiceFor?_eq_some_iff aligned).2 ⟨hc, Key.same_datum_iff.2 rfl⟩
  · intro k choice hfound
    obtain ⟨hc, hsame⟩ := (choiceFor?_eq_some_iff aligned).1 hfound
    have hl : choice.literal ∈ s.literals := aligned ▸ List.mem_map_of_mem hc
    exact ⟨choice.literal.value, valueFor?_eq_some_iff.2 ⟨_, hl, rfl, rfl⟩, hsame⟩
  · obtain ⟨chosen, hc, hdefault⟩ := List.mem_map.1 (aligned ▸ s.default_mem)
    refine ⟨chosen, (choiceFor?_eq_some_iff aligned).2 ⟨hc, ?_⟩, hdefault⟩
    rw [hdefault]
    exact keyed

end

end Component

/-! ## From the line to the choice -/

/-- The hops that reading a switch makes: to a literal of the line, or the default; to its value, which is stored; from
what is held to a choice, the one with that literal; and on to the components of the choice. -/
structure ReadsChoice (context : Datum) (s : Selection) (key : Datum) (choices : List (Choice Component)) (c : Cursor)
    (sink : Container) (chosen : Choice Component) : Prop where
  mem : chosen ∈ choices
  literal_eq : chosen.literal = s.selected (tokens c.line)
  stored : (readSelection s c sink).Adds sink (readSelection s c sink).cursor s.info.name chosen.literal.value.datum
  found : Component.choiceFor? choices (decodedKey s (readSelection s c sink).sink) = some chosen
  read_eq : read context (.switch s key choices) c sink =
    readAll context chosen.components (readSelection s c sink).cursor (readSelection s c sink).sink

theorem selected_mem (s : Selection) (ts : List (List Char)) : s.selected ts ∈ s.literals := by
  unfold Selection.selected
  cases hl : s.selected? ts with
  | none => exact s.default_mem
  | some l => exact (mem_of_selected? hl).1

/-- **Reading a switch comes to the choice of the literal that is on the line.** -/
theorem exists_readsChoice {s : Selection} {choices : List (Choice Component)}
    (aligned : choices.map Choice.literal = s.literals) (context key : Datum) (c : Cursor) {sink : Container}
    (hname : s.info.name ∉ sink.names) : ∃ chosen, ReadsChoice context s key choices c sink chosen := by
  obtain ⟨chosen, hc, hliteral⟩ := List.mem_map.1 (aligned ▸ selected_mem s (tokens c.line))
  have hstored : (readSelection s c sink).Adds sink (readSelection s c sink).cursor s.info.name
      chosen.literal.value.datum := by
    obtain ⟨after, hcursor, herror, hentries⟩ := readSelection_adds s context c hname
    rw [Selection.decoded, ← Selection.selected, ← hliteral] at hentries
    exact ⟨rfl, herror, hentries⟩
  have hheld : decodedKey s (readSelection s c sink).sink = chosen.literal.value.datum := by
    rw [decodedKey, get?_container, Container.get?_of_added hstored.entries_eq, Option.getD_some]
  have hfound : Component.choiceFor? choices (decodedKey s (readSelection s c sink).sink) = some chosen := by
    rw [hheld]
    exact (choiceFor?_eq_some_iff aligned).2 ⟨hc, Key.same_datum_iff.2 rfl⟩
  refine ⟨chosen, hc, hliteral, hstored, hfound, ?_⟩
  rw [read, Outcome.andThen_of_none hstored.error_eq, readChosen_of_found hfound]

/-! ## Keys without a choice -/

/-- the component hands a token on to something that raises the error -/
def Component.Raises (e : ReadError) (x : Component) : Prop :=
  ∃ info insertion, x = .processed info insertion ∧ ∃ token held, (insertion token held).2 = some e

/-- a token that is missing is a fault of the line, and an entry that is not written has a name that is taken -/
theorem raises_of_readProcessed {info : Info} {insertion : Insertion} {context : Datum} {c : Cursor}
    {sink : Container} {e : ReadError} (h : (readProcessed info insertion context c sink).error = some e)
    (hswitch : e.fromSwitch = true) : Component.Raises e (.processed info insertion) := by
  unfold readProcessed at h
  split at h
  · rename_i e' htake
    unfold takeToken at htake
    split at htake
    · cases htake
      cases h
      cases hswitch
    · cases htake
  · cases hopt : info.optional with
    | true => simp [hopt] at h
    | false =>
      simp only [hopt, Bool.false_eq_true, if_false] at h
      cases h
      cases hswitch
  · rename_i token after _
    simp only at h
    cases hw : (writeAll after sink (insertion token (Sink.get? sink)).1).error with
    | some e' =>
      rw [Outcome.andThen_of_some hw] at h
      obtain ⟨name, rfl⟩ := error_of_writeAll h
      cases hswitch
    | none =>
      rw [Outcome.andThen_of_none hw] at h
      exact ⟨info, insertion, rfl, token, Sink.get? sink, h⟩

/-- a component that is no switch has the error of one only if it gets it from what it hands its token to -/
theorem raises_of_read {x : Component} (hs : x.isSwitch = false) {context : Datum} {c : Cursor} {sink : Container}
    {e : ReadError} (h : (read context x c sink).error = some e) (hswitch : e.fromSwitch = true) : x.Raises e := by
  cases hp : x.isProcessed with
  | true =>
    cases x with
    | processed info insertion => exact raises_of_readProcessed h hswitch
    | _ => cases hp
  | false =>
    rcases read_cases hs hp context c sink with ⟨e', he', -, hfault⟩ | ⟨hn, -⟩
    · rw [h, Option.some.injEq] at he'
      subst he'
      rcases hfault with hline | ⟨-, hother⟩
      · rw [hline.fromSwitch] at hswitch
        cases hswitch
      · rw [hother] at hswitch
        cases hswitch
    · rw [h] at hn
      cases hn

/-- **No switch inside a well-formed component is left without a choice,** whatever is read into whatever container. -/
theorem raises_of_wellFormed {x : Component} (hw : x.WellFormed) {context : Datum} {c : Cursor} {sink : Container}
    {e : ReadError} (h : (read context x c sink).error = some e) (hswitch : e.fromSwitch = true) :
    ∃ y ∈ everyComponent x, y.Raises e := by
  -- the reading goes along a branch, and no component of a branch is a switch
  have hone : ∀ y ∈ [x], y.WellFormed := by simpa using hw
  obtain ⟨r, hr⟩ := exists_follows_all hone context c sink
  have hbranch : (readAll context (r.map Stage.component) c sink).error = some e := by
    rw [← hr.agrees, readAll_cons_of_some h]
    exact h
  obtain ⟨done, y, hfails⟩ := exists_failsAt hbranch
  obtain ⟨rest, hsplit⟩ := hfails.split
  have hy : y ∈ r.map Stage.component := hsplit ▸ List.mem_append_right done List.mem_cons_self
  have herror := hfails.error_eq
  rw [hfails.ends] at herror
  have hraises := raises_of_read (hr.route.isSwitch_eq_false y hy) herror hswitch
  rcases hr.route.mem_everyComponent y hy with hm | ⟨s, -, -, -, rfl⟩
  · obtain ⟨x', hx', hm⟩ := mem_everyComponentOfAll.1 hm
    rw [List.mem_singleton.1 hx'] at hm
    exact ⟨y, hm, hraises⟩
  · obtain ⟨info, insertion, hno, -⟩ := hraises
    cases hno

/-! ## Switches that are built -/

/-- **The choices of a switch and its discriminator fit.** Whatever choices a switch is built from, given one by one or
as the entries of a map (`putChoice`), its keys and its literals are told apart, and its discriminator decodes the
literal of each choice to a key under which that choice is found. So every line, read into a container without the name
of the switch, comes to a choice. Where the components behind the choices are well formed, as what is built is, no
reading meets a key without a choice at any depth, unless something that a token is handed on to says so. -/
theorem switch_registers_choices {info : Info} {key : Datum} {specs : List Component.ChoiceSpec} {x : Component}
    (h : Component.buildSwitch info key specs = .ok x) :
    ∃ s choices, x = .switch s key choices ∧ Component.Registers info key specs s choices ∧
      (∀ context c (sink : Container), info.name ∉ sink.names →
        ∃ chosen, ReadsChoice context s key choices c sink chosen) ∧
      ((∀ spec ∈ specs, ∀ y ∈ spec.components, y.WellFormed) → ∀ context c (sink : Container) name k,
        (read context x c sink).error = some (.unregisteredKey name k) →
          ∃ y ∈ everyComponent x, y.Raises (.unregisteredKey name k)) := by
  obtain ⟨s, choices, rfl, -⟩ := buildSwitch_cases h
  have hregisters := Component.registers_of_buildSwitch h
  refine ⟨s, choices, rfl, hregisters, ?_, ?_⟩
  · intro context c sink hname
    rw [← hregisters.info_eq] at hname
    exact exists_readsChoice hregisters.aligned context key c hname
  · intro hw context c sink name k herror
    exact raises_of_wellFormed (wellFormed_of_buildSwitch h hw) herror rfl

namespace Manifold

/-- the kinetic models with the fields that follow each of them -/
def kineticChoices : List (Choice Component) :=
  [⟨constantInterfaceResistance, constantInterfaceResistanceFields⟩,
    ⟨butlerVolmerReduced, butlerVolmerReducedFields⟩, ⟨noInterfaceFlux, []⟩]

end Manifold

/-- the kinetic models, their default given as a truth value, which is loosely the key of the first one: a line with the
last model comes to its choice, and no line to a key without a model -/
theorem switch_registers_choices_kinetics :
    ∃ x, Component.buildSwitch Manifold.kineticModel.info (.bool true)
        (Manifold.kineticChoices.map Choice.spec) = .ok x ∧
      (∃ chosen, Component.choiceFor? Manifold.kineticChoices (.bool true) = some chosen ∧
        chosen.literal = Manifold.constantInterfaceResistance) ∧
      (∃ chosen, ReadsChoice (.text "KINETICS") Manifold.kineticModel (.bool true) Manifold.kineticChoices
        (.ofLine "7 NoInterfaceFlux".toList) .empty chosen ∧ chosen.literal = Manifold.noInterfaceFlux) ∧
      ∀ context c (sink : Container) name k, (read context x c sink).error ≠ some (.unregisteredKey name k) := by
  have hkey : (Datum.bool true).same Manifold.kineticModel.default.value.datum = true := by
    rw [Datum.same]
    rfl
  have hbuilt : Component.buildSwitch Manifold.kineticModel.info (.bool true)
      (Manifold.kineticChoices.map Choice.spec) =
      .ok (.switch Manifold.kineticModel (.bool true) Manifold.kineticChoices) :=
    buildSwitch_of_choices rfl hkey
  obtain ⟨s, choices, heq, hregisters, hreads, hnever⟩ := switch_registers_choices hbuilt
  cases heq
  refine ⟨_, hbuilt, hregisters.default_eq, ?_, ?_⟩
  · obtain ⟨chosen, hchosen⟩ := hreads (.text "KINETICS") (.ofLine "7 NoInterfaceFlux".toList) .empty (by decide)
    refine ⟨chosen, hchosen, hchosen.literal_eq.trans ?_⟩
    decide +kernel
  · intro context c sink name k herror
    have hinner : ∀ spec ∈ Manifold.kineticChoices.map Choice.spec, ∀ y ∈ spec.components, y.WellFormed := by
      intro spec hspec
      apply Manifold.wellFormed_of_plain_fields
      revert spec
      decide +kernel
    have hkinds : ∀ y ∈ everyComponent (.switch Manifold.kineticModel (.bool true) Manifold.kineticChoices),
        y.isProcessed = false := by decide +kernel
    obtain ⟨y, hy, info, insertion, rfl, -⟩ := hnever hinner context c sink name k herror
    cases hkinds _ hy

end LineGrammar
