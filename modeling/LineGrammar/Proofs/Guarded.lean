/-
Optional labels in front of mandatory values.

Without its label an optional separator puts the cursor at the end of the line, and there it stays until a component
looks for something on the whole line again. Every value up to there that cannot do without a token ends the reading:
the label guards it (`Guards`). A report warns of a label only where the component right behind it is such a value, and
not where that one hands its token on. So a warning is never missing for a value that stands next to its label, but a
value further behind, or one that is handed on, is guarded and no warning tells of it.
- `mem_separatorWarnings`: which warnings a branch has.
- `label_of_separatorWarning`: a warning tells its label.
- `readAll_fails_of_guards`: without the label no reading of the branch goes well.
- `warned_iff_right_before`: which labels are warned of, and what a label guards.
- `guarded_without_warning`: two labels that guard a value and are not warned of.
-/
import LineGrammar.Manifold
import LineGrammar.Proofs.Conservation
import LineGrammar.Proofs.Verdict

namespace LineGrammar

namespace Component

/-- whether the component looks for a label or a literal on the whole line -/
def searches : Component → Bool
  | .separator .. | .selection .. | .switch .. => true
  | _ => false

/-- whether the component cannot do without a token, whatever was read before -/
def demands : Component → Bool
  | .scalar info _ | .processed info _ => !info.optional
  | .vector info (.fixed count) _ => !info.optional && count != 0
  | _ => false

end Component

/-- The label stands on the branch, it is optional, and the component comes right behind it. -/
def RightBefore (label : Token) (x : Component) (b : List Component) : Prop :=
  ∃ done description rest, b = done ++ .separator label true description :: x :: rest

/-- An optional label guards a value of the branch behind a run of components: the value demands a token, and nothing in
the run looks for anything on the line. -/
structure Guards (label : Token) (b run : List Component) (x : Component) : Prop where
  split : ∃ done description rest, b = done ++ .separator label true description :: (run ++ x :: rest)
  unsearched : ∀ y ∈ run, y.searches = false
  demands : x.demands = true

/-! ## Which warnings there are -/

/-- **The warnings of a branch are those of its labels that come right before a mandatory value.** -/
theorem mem_separatorWarnings {b : List Component} {w : String} :
    w ∈ separatorWarnings b ↔ ∃ label x, RightBefore label x b ∧ needsLabel x = true ∧ w = separatorWarning label x := by
  fun_induction separatorWarnings b with
  | case1 label description x rest ih =>
    rw [List.mem_append, ih]
    constructor
    · rintro (hw | ⟨other, y, ⟨done, description', rest', hsplit⟩, hy, rfl⟩)
      · split at hw
        · rename_i hx
          exact ⟨label, x, ⟨[], description, rest, rfl⟩, hx, List.mem_singleton.1 hw⟩
        · cases hw
      · exact ⟨other, y, ⟨_ :: done, description', rest', by rw [hsplit, List.cons_append]⟩, hy, rfl⟩
    · rintro ⟨other, y, ⟨done, description', rest', hsplit⟩, hy, rfl⟩
      cases done with
      | nil =>
        cases hsplit
        left
        rw [if_pos hy]
        exact List.mem_singleton_self _
      | cons z done => exact Or.inr ⟨other, y, ⟨done, description', rest', (List.cons.inj hsplit).2⟩, hy, rfl⟩
  | case2 z rest hz ih =>
    rw [ih]
    constructor
    · rintro ⟨label, x, ⟨done, description, rest', hsplit⟩, hx, rfl⟩
      exact ⟨label, x, ⟨z :: done, description, rest', by rw [hsplit, List.cons_append]⟩, hx, rfl⟩
    · rintro ⟨label, x, ⟨done, description, rest', hsplit⟩, hx, rfl⟩
      cases done with
      | nil =>
        obtain ⟨rfl, rfl⟩ := List.cons.inj hsplit
        exact absurd rfl (hz label description x rest' rfl)
      | cons y done => exact ⟨label, x, ⟨done, description, rest', (List.cons.inj hsplit).2⟩, hx, rfl⟩
  | case3 =>
    constructor
    · nofun
    · rintro ⟨label, x, ⟨done, description, rest, hsplit⟩, -⟩
      cases done <;> cases hsplit

theorem toList_separatorWarning (label : Token) (x : Component) :
    (separatorWarning label x).toList = "Optional separator '".toList ++
      ((label.chars ++ "'".toList) ++ (" is followed by mandatory '".toList ++ (x.name.toList ++ "'".toList))) := by
  have hmiddle : "' is followed by mandatory '".toList = "'".toList ++ " is followed by mandatory '".toList := rfl
  have hshown : separatorWarning label x =
      "Optional separator '" ++ label.text ++ "' is followed by mandatory '" ++ x.name ++ "'" := rfl
  rw [hshown]
  simp only [String.toList_append, Token.text, String.toList_ofList, hmiddle, List.append_assoc]

/-- **A warning tells which label it is about,** for there are no blanks in a label. -/
theorem label_of_separatorWarning {label other : Token} {x y : Component}
    (h : separatorWarning label x = separatorWarning other y) : label = other := by
  have hquoted : ∀ t : Token, isToken (t.chars ++ "'".toList) = true := by
    intro t
    refine isToken_iff.2 ⟨by simp, fun c hc => ?_⟩
    rcases List.mem_append.1 hc with hc | hc
    · exact t.solid c hc
    · rw [List.mem_singleton.1 hc]
      rfl
  have hlists := congrArg String.toList h
  rw [toList_separatorWarning, toList_separatorWarning] at hlists
  have htokens := congrArg leadingToken (List.append_cancel_left hlists)
  rw [leadingToken_append (hquoted label) rfl, leadingToken_append (hquoted other) rfl] at htokens
  exact Token.chars_injective (List.append_cancel_right htokens)

/-- the summaries of defects are no warnings about labels -/
theorem separatorWarning_not_mem_summary {label : Token} {x : Component} {what : String} {c : Char}
    {text : List Char} (hwhat : what.toList = c :: text) (hc : c ≠ 'O') (names : List String) :
    separatorWarning label x ∉ Report.summary what names := by
  intro hm
  rw [Report.summary] at hm
  split at hm
  · cases hm
  · have hlists := congrArg String.toList (List.mem_singleton.1 hm)
    rw [toList_separatorWarning, String.toList_append, String.toList_append, hwhat] at hlists
    have hhead := congrArg List.head? hlists
    simp only [List.cons_append, List.head?_cons] at hhead
    exact hc (Option.some.inj hhead).symm

theorem mem_warnings_iff {name : Datum} {cs : List Component} {label : Token} {x : Component} :
    separatorWarning label x ∈ (analyze name cs).warnings ↔
      ∃ b ∈ branchesOfAll cs, separatorWarning label x ∈ separatorWarnings b := by
  have hunresolved : ∀ names, separatorWarning label x ∉ Report.summary "Unresolved vector lengths" names :=
    separatorWarning_not_mem_summary rfl (by decide)
  have hrepeated : ∀ names, separatorWarning label x ∉ Report.summary "Keys written twice" names :=
    separatorWarning_not_mem_summary rfl (by decide)
  simp only [analyze, mem_distinct, List.mem_append, List.mem_flatMap, hunresolved, hrepeated, or_false]

/-! ## What a label guards -/

section

variable {c : Cursor} {bs : List (List Char)} {context : Datum} {sink : Container}

/-- a mandatory vector of some values does not go well without a token -/
theorem readVector_fails_of_none {info : Info} {count : Nat} (default : Number) (ho : info.optional = false)
    (hcount : count ≠ 0) (h : c.Stands bs []) :
    (readVector info (.fixed count) default context c sink).error ≠ none := by
  have hlength : resolveLength (.fixed count) sink info.label context = .ok count := rfl
  rcases readVector_stands context sink default h hlength with ⟨after, -, -, hread⟩ | ⟨-, -, -, hread⟩
  · rw [hread, numbersAhead_lacking context ho default.kind count hcount]
    simp
  · rw [hread]
    simp

/-- what demands a token fails without one -/
theorem read_fails_of_demands {x : Component} (hx : x.demands = true) (h : c.Stands bs []) :
    (read context x c sink).error ≠ none := by
  cases x with
  | scalar info default =>
    have ho : info.optional = false := by simpa [Component.demands] using hx
    rw [read, readScalar_of_none context sink info default h, ho]
    simp
  | processed info insertion =>
    have ho : info.optional = false := by simpa [Component.demands] using hx
    rw [read, readProcessed_of_none context sink info insertion h, ho]
    simp
  | vector info length default =>
    cases length with
    | takenFrom source => cases hx
    | fixed count =>
      obtain ⟨ho, hcount⟩ : info.optional = false ∧ count ≠ 0 := by simpa [Component.demands] using hx
      exact readVector_fails_of_none default ho hcount h
  | _ => cases hx

/-- a component that looks for nothing leaves the cursor without tokens ahead where there were none -/
theorem read_stays_behind {x : Component} (hx : x.searches = false) (h : c.Stands bs []) :
    (read context x c sink).cursor.Stands bs [] := by
  cases x with
  | scalar info default =>
    rw [read, readScalar_of_none context sink info default h]
    split
    · rw [write_cursor]
      exact h
    · exact h
  | processed info insertion =>
    rw [read, readProcessed_of_none context sink info insertion h]
    exact h
  | vector info length default =>
    rw [read]
    cases hcount : resolveLength length sink info.label context with
    | error e =>
      simp only [readVector, hcount]
      exact h
    | ok count =>
      rcases readVector_stands context sink default h hcount with ⟨after, hafter, -, hread⟩ | ⟨-, -, -, hread⟩
      · rw [numbersAhead_nil] at hafter
        rw [hread]
        cases (numbersAhead info default.kind count context count []).2 with
        | error e => exact hafter
        | ok numbers =>
          simp only [write_cursor]
          exact hafter
      · rw [hread]
        exact h
  | unsupported info kind => exact h
  | _ => cases hx

/-- what demands a token is a mandatory value, or hands its token on -/
theorem needsLabel_of_demands {x : Component} (hx : x.demands = true) (hp : x.isProcessed = false) :
    needsLabel x = true := by
  cases x with
  | scalar info default => exact hx
  | vector info length default =>
    cases length with
    | takenFrom source => cases hx
    | fixed count =>
      obtain ⟨ho, -⟩ : info.optional = false ∧ count ≠ 0 := by simpa [Component.demands] using hx
      simp [needsLabel, Component.writesKey, Component.optional, Component.info, ho]
  | processed info insertion => cases hp
  | _ => cases hx

/-- **At the end of the line a run up to a value that demands a token fails.** -/
theorem readAll_fails_of_demands {run rest : List Component} {x : Component} (hrun : ∀ y ∈ run, y.searches = false)
    (hx : x.demands = true) (h : c.Stands bs []) : (readAll context (run ++ x :: rest) c sink).error ≠ none := by
  induction run generalizing c sink with
  | nil =>
    intro hfine
    rw [List.nil_append, readAll] at hfine
    exact read_fails_of_demands hx h (Outcome.andThen_of_fine hfine).1
  | cons y run ih =>
    obtain ⟨hy, hrun⟩ := List.forall_mem_cons.1 hrun
    intro hfine
    rw [List.cons_append, readAll] at hfine
    obtain ⟨-, hnext⟩ := Outcome.andThen_of_fine hfine
    rw [hnext] at hfine
    exact ih hrun (read_stays_behind hy h) hfine

/-- **Without the label a branch on which it guards a value is not read.** -/
theorem readAll_fails_of_guards {label : Token} {b run : List Component} {x : Component}
    (hb : ∀ y ∈ b, y.isSwitch = false) (hg : Guards label b run x) {line : List Char}
    (hl : label.chars ∉ tokens line) : (readLine context b line sink).error ≠ none := by
  obtain ⟨⟨done, description, rest, rfl⟩, hrun, hx⟩ := hg
  intro hfine
  rw [readLine, readAll_append] at hfine
  obtain ⟨-, hnext⟩ := Outcome.andThen_of_fine hfine
  rw [hnext] at hfine
  -- what comes before the label has not put it on the line
  obtain ⟨left, hkeeps, hsub⟩ := readAll_keeps context sink (fun y hy => hb y (List.mem_append_left _ hy)) (.ofLine line)
  have habsent : label.chars ∉ tokens (readAll context done (.ofLine line) sink).cursor.line := by
    rw [hkeeps.tokens_eq]
    exact fun hm => hl (hsub.subset hm)
  have hread : read context (.separator label true description) (readAll context done (.ofLine line) sink).cursor
      (readAll context done (.ofLine line) sink).sink =
        ⟨(readAll context done (.ofLine line) sink).cursor.seekEnd, (readAll context done (.ofLine line) sink).sink,
          none⟩ := by
    rw [read, readSeparator_absent context _ true habsent, if_pos rfl]
  have hnone : (read context (.separator label true description) (readAll context done (.ofLine line) sink).cursor
      (readAll context done (.ofLine line) sink).sink).error = none := by rw [hread]
  rw [readAll_cons_of_none hnone, hread] at hfine
  exact readAll_fails_of_demands hrun hx (Cursor.Stands.ofEnd _) hfine

end

/-- **Labels are warned of where a mandatory value comes right behind them,** selections and what hands its token on left
out. A branch on which an optional label guards a value is not read on any line without the label; the label is warned
of if the value comes right behind it and is not handed on. -/
theorem warned_iff_right_before (name : Datum) {cs : List Component} (hw : ∀ x ∈ cs, x.WellFormed) (label : Token) :
    ((∃ x, separatorWarning label x ∈ (analyze name cs).warnings) ↔
        ∃ b ∈ branchesOfAll cs, ∃ x, RightBefore label x b ∧ needsLabel x = true) ∧
      ∀ b ∈ branchesOfAll cs, ∀ run x, Guards label b run x →
        (∀ context line (sink : Container), label.chars ∉ tokens line → (readLine context b line sink).error ≠ none) ∧
          (run = [] → x.isProcessed = false → separatorWarning label x ∈ (analyze name cs).warnings) := by
  refine ⟨⟨?_, ?_⟩, fun b hb run x hg => ⟨fun context line sink hl => ?_, ?_⟩⟩
  · rintro ⟨x, hx⟩
    obtain ⟨b, hb, hm⟩ := mem_warnings_iff.1 hx
    obtain ⟨other, y, hbefore, hy, hwarning⟩ := mem_separatorWarnings.1 hm
    obtain rfl := label_of_separatorWarning hwarning
    exact ⟨b, hb, y, hbefore, hy⟩
  · rintro ⟨b, hb, x, hbefore, hx⟩
    exact ⟨x, mem_warnings_iff.2 ⟨b, hb, mem_separatorWarnings.2 ⟨label, x, hbefore, hx, rfl⟩⟩⟩
  · obtain ⟨r, hr, rfl⟩ := (mem_branchesOfAll_iff hw).1 hb
    exact readAll_fails_of_guards hr.isSwitch_eq_false hg hl
  · rintro rfl hx
    obtain ⟨⟨done, description, rest, hsplit⟩, -, hdemands⟩ := hg
    refine mem_warnings_iff.2 ⟨b, hb, mem_separatorWarnings.2 ⟨label, x, ⟨done, description, rest, hsplit⟩, ?_, rfl⟩⟩
    exact needsLabel_of_demands hdemands hx

/-- an optional label with an optional value behind it, and a mandatory one behind that -/
def laterValue : List Component :=
  [.separator (Manifold.token "S") true (.text ""), .scalar ⟨"A", true, .text ""⟩ (.number (.int 0)),
    .scalar (Manifold.field "B") (.number (.int 0))]

/-- the label guards the second value, so a line without it cannot be read; no label is warned of -/
theorem laterValue_guarded :
    (∀ x ∈ laterValue, x.WellFormed) ∧ laterValue ∈ branchesOfAll laterValue ∧
      Guards (Manifold.token "S") laterValue [.scalar ⟨"A", true, .text ""⟩ (.number (.int 0))]
        (.scalar (Manifold.field "B") (.number (.int 0))) ∧
      (readLine .null laterValue "1 2".toList Container.empty).error ≠ none ∧
      ¬ ∃ x, separatorWarning (Manifold.token "S") x ∈ (analyze .null laterValue).warnings := by
  have hw : ∀ x ∈ laterValue, x.WellFormed := Manifold.wellFormed_of_plain_fields rfl
  have hmem : laterValue ∈ branchesOfAll laterValue := List.mem_singleton_self _
  have hguards : Guards (Manifold.token "S") laterValue [.scalar ⟨"A", true, .text ""⟩ (.number (.int 0))]
      (.scalar (Manifold.field "B") (.number (.int 0))) :=
    ⟨⟨[], .text "", [], rfl⟩, by decide, rfl⟩
  obtain ⟨hwarned, hguarded⟩ := warned_iff_right_before .null hw (Manifold.token "S")
  refine ⟨hw, hmem, hguards, (hguarded laterValue hmem _ _ hguards).1 .null _ .empty (by decide +kernel), ?_⟩
  have hnone : (analyze .null laterValue).warnings = [] := by decide +kernel
  rintro ⟨x, hx⟩
  rw [hnone] at hx
  cases hx

/-- an optional label with a mandatory token behind it that is handed on -/
def handedOnValue : List Component :=
  [.separator (Manifold.token "S") true (.text ""),
    .processed (Manifold.field "P") (fun token _ => ([("P", .text (String.ofList token))], none))]

/-- both labels guard a value, the one further behind and the one handed on, and no warning tells of them -/
theorem guarded_without_warning :
    laterValue ∈ branchesOfAll laterValue ∧
      Guards (Manifold.token "S") laterValue [.scalar ⟨"A", true, .text ""⟩ (.number (.int 0))]
        (.scalar (Manifold.field "B") (.number (.int 0))) ∧
      (analyze .null laterValue).warnings = [] ∧
      handedOnValue ∈ branchesOfAll handedOnValue ∧
      Guards (Manifold.token "S") handedOnValue []
        (.processed (Manifold.field "P") (fun token _ => ([("P", .text (String.ofList token))], none))) ∧
      (analyze .null handedOnValue).warnings = [] :=
  ⟨List.mem_singleton_self _, ⟨⟨[], .text "", [], rfl⟩, by decide, rfl⟩, by decide +kernel, List.mem_singleton_self _,
    ⟨⟨[], .text "", [], rfl⟩, nofun, rfl⟩, by decide +kernel⟩

end LineGrammar
