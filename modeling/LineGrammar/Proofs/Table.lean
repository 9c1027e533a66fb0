/-
The table of a manual section, read line by line.

A manual section in detailed form ends with a table. Each of its rows is written on three lines: the token, the flag and
the description, of which the first and the last are escaped, so that taking the backslashes away gives them back. Only
marks inside a line are escaped. A text with a newline in it goes over several lines, and the table falls apart there:
the lines of the section end with three lines for every row exactly if no token and no description has a newline.
- `linesOf_intercalate`: the lines of joined lines are the lines of each.
- `manualLines_detailed_iff`, `exists_manual`: what a section in detailed form is made of, and when there is one.
- `endsWithTable_iff`: when the lines of a section end with the table of its rows.
- `table_read_back`: the section on a definition, its lines and its cells.
- `table_broken`: a description of two lines.
-/
import LineGrammar.Proofs.BranchLine
import LineGrammar.Proofs.Escape
import LineGrammar.Proofs.Rows

namespace LineGrammar

/-! ## Lines -/

/-- the lines of a text -/
def linesOf (text : List Char) : List (List Char) :=
  text.splitOn '\n'

theorem linesOf_of_not_mem {line : List Char} (h : '\n' ∉ line) : linesOf line = [line] :=
  List.splitOn_eq_singleton h

/-- no line has a newline in it -/
theorem newline_not_mem_linesOf {text line : List Char} (h : line ∈ linesOf text) : '\n' ∉ line := by
  induction text generalizing line with
  | nil =>
    rw [linesOf, List.splitOn_nil, List.mem_singleton] at h
    simp [h]
  | cons c rest ih =>
    rw [linesOf, List.splitOn_cons_eq_if_modifyHead] at h
    split at h
    · rcases List.mem_cons.1 h with rfl | h
      · simp
      · exact ih h
    · rename_i hc
      cases hrest : List.splitOn '\n' rest with
      | nil => exact absurd hrest (List.splitOn_ne_nil '\n' rest)
      | cons first others =>
        rw [hrest, List.modifyHead_cons] at h
        have hfirst : first ∈ linesOf rest := by simp [linesOf, hrest]
        rcases List.mem_cons.1 h with rfl | h
        · rw [List.mem_cons, not_or]
          exact ⟨fun heq => hc (by simp [← heq]), ih hfirst⟩
        · exact ih (by simp [linesOf, hrest, h])

/-- **The lines of joined lines are the lines of each.** -/
theorem linesOf_intercalate (ls : List String) (h : ls ≠ []) :
    linesOf ("\n".intercalate ls).toList = ls.flatMap (fun l => linesOf l.toList) := by
  induction ls with
  | nil => exact absurd rfl h
  | cons l rest ih =>
    cases rest with
    | nil => simp
    | cons next others =>
      rw [String.intercalate_cons_cons, String.toList_append, String.toList_append, List.flatMap_cons, ← ih (by simp)]
      have hnewline : "\n".toList = ['\n'] := rfl
      rw [hnewline, List.append_assoc, List.singleton_append]
      exact List.splitOn_append_cons_self _ _

/-! ## Rows -/

namespace Row

/-- the description of a row as a text, empty if it is none -/
def means (row : Row) : String :=
  match row.description with
  | .text s => s
  | _ => ""

/-- the lines of a row in the table, one for each of its cells -/
def written (row : Row) : List String :=
  ["   * - " ++ cellText row.token, "     - " ++ row.optional, "     - " ++ cellText row.means]

/-- The row has a text for its description, and a word or nothing for its flag. -/
structure Plain (row : Row) : Prop where
  optional : row.optional = "" ∨ row.optional = "yes"
  description : ∃ s, row.description = .text s

/-- No cell of the row goes over its line. -/
structure OnItsLines (row : Row) : Prop where
  token : '\n' ∉ row.token.toList
  means : '\n' ∉ row.means.toList

end Row

/-- the lines of the table with the given rows -/
def tableOf (all : List Row) : List String :=
  tableHeader ++ all.flatMap Row.written ++ [""]

/-- The lines of a text end with the table: its header, three lines for every row, and an empty line. -/
def EndsWithTable (all : List Row) (text : String) : Prop :=
  (tableOf all).map String.toList <:+ linesOf text.toList

section

variable {row : Row} {all : List Row}

theorem plain_of_rows {c : Component} (h : rows c = .ok all) (hc : ∃ s, c.description = .text s) :
    ∀ row ∈ all, row.Plain := by
  obtain ⟨own, rest, rfl, hown, hmore⟩ := rows_eq_ok_iff.1 h
  refine List.forall_mem_cons.2 ⟨⟨?_, ?_⟩, fun row hrow => ?_⟩
  · rw [hown.optional]
    split <;> simp
  · rw [hown.description]
    exact hc
  · obtain ⟨choice, -, hshows⟩ := exists_mem_of_forall₂ hmore.flip hrow
    exact ⟨Or.inl hshows.optional, ⟨_, hshows.description⟩⟩

theorem rowLines_of_plain (h : row.Plain) : rowLines row = .ok row.written := by
  obtain ⟨s, hs⟩ := h.description
  rw [rowLines, Row.written, Row.means, hs]
  rfl

/-- behind the marks of its line every cell can be read back -/
theorem unescape_written (h : row.Plain) :
    row.written.map (fun line => unescape (line.toList.drop 7)) =
      [row.token.toList, row.optional.toList, row.means.toList] := by
  have hflag : unescape row.optional.toList = row.optional.toList := by
    rcases h.optional with h | h <;> rw [h] <;> rfl
  have hfirst : "   * - ".toList = [' ', ' ', ' ', '*', ' ', '-', ' '] := rfl
  have hothers : "     - ".toList = [' ', ' ', ' ', ' ', ' ', '-', ' '] := rfl
  simp [Row.written, toList_cellText, hfirst, hothers, hflag, unescape_escapeCell]

/-- the lines of a row are on one line each exactly if its cells are -/
theorem newline_not_mem_written_iff (h : row.Plain) :
    (∀ line ∈ row.written, '\n' ∉ line.toList) ↔ row.OnItsLines := by
  have hflag : '\n' ∉ row.optional.toList := by
    rcases h.optional with h | h <;> rw [h] <;> decide
  have hfirst : '\n' ∉ "   * - ".toList := by decide
  have hothers : '\n' ∉ "     - ".toList := by decide
  simp only [Row.written, List.forall_mem_cons, String.toList_append, List.mem_append, toList_cellText,
    newline_mem_escapeCell, hfirst, hothers, hflag, false_or, not_false_eq_true, true_and, List.not_mem_nil,
    false_imp_iff, implies_true, and_true]
  exact ⟨fun ⟨ht, hm⟩ => ⟨ht, hm⟩, fun ⟨ht, hm⟩ => ⟨ht, hm⟩⟩

/-- **The lines of a text that is made with a table end with it exactly if every cell stays on its line.** -/
theorem endsWithTable_iff {head : List String} {text : String} (hplain : ∀ row ∈ all, row.Plain)
    (htext : linesOf text.toList = (head ++ tableOf all).flatMap (fun l => linesOf l.toList)) :
    EndsWithTable all text ↔ ∀ row ∈ all, row.OnItsLines := by
  constructor
  · intro h row hrow
    rw [← newline_not_mem_written_iff (hplain row hrow)]
    intro line hline
    -- the line is one of those that the text is split into
    have hmem : line ∈ tableOf all :=
      List.mem_append_left _ (List.mem_append_right _ (List.mem_flatMap.2 ⟨row, hrow, hline⟩))
    exact newline_not_mem_linesOf (h.subset (List.mem_map_of_mem hmem))
  · intro h
    have hheader : ∀ line ∈ tableHeader, '\n' ∉ line.toList := by decide
    have hsingle : ∀ line ∈ tableOf all, linesOf line.toList = [line.toList] := by
      intro line hline
      refine linesOf_of_not_mem ?_
      rcases List.mem_append.1 hline with hline | hline
      · rcases List.mem_append.1 hline with hline | hline
        · exact hheader line hline
        · obtain ⟨row, hrow, hline⟩ := List.mem_flatMap.1 hline
          exact (newline_not_mem_written_iff (hplain row hrow)).2 (h row hrow) line hline
      · rw [List.mem_singleton.1 hline]
        decide
    have htable : (tableOf all).flatMap (fun l => linesOf l.toList) = (tableOf all).map String.toList := by
      rw [List.map_eq_flatMap]
      exact List.flatMap_congr hsingle
    rw [EndsWithTable, htext, List.flatMap_append, htable]
    exact List.suffix_append _ _

end

/-! ## The section -/

theorem flatMapM_eq_ok {α β ε : Type} {f : α → Except ε (List β)} {g : α → List β} {xs : List α}
    (h : ∀ x ∈ xs, f x = .ok (g x)) : xs.flatMapM f = .ok (xs.flatMap g) := by
  induction xs with
  | nil => rfl
  | cons x xs ih =>
    obtain ⟨hx, hxs⟩ := List.forall_mem_cons.1 h
    rw [List.flatMapM_cons, hx, ih hxs]
    rfl

/-- computations that are changed in the same way, results and errors, and then joined -/
theorem flatMapM_mapError_map {α β γ ε δ : Type} {f : α → Except ε (List β)} {f' : α → Except δ (List γ)}
    (onError : ε → δ) (g : β → List γ) {xs : List α}
    (h : ∀ x ∈ xs, f' x = ((f x).mapError onError).map (List.flatMap g)) :
    xs.flatMapM f' = ((xs.flatMapM f).mapError onError).map (List.flatMap g) := by
  induction xs with
  | nil => rfl
  | cons x xs ih =>
    obtain ⟨hx, hxs⟩ := List.forall_mem_cons.1 h
    rw [List.flatMapM_cons, List.flatMapM_cons, hx, ih hxs]
    cases f x with
    | error e => rfl
    | ok ys =>
      cases hrest : xs.flatMapM f with
      | error e => simp [Except.mapError, Except.map, bind, Except.bind]
      | ok zs => simp [Except.mapError, Except.map, bind, Except.bind, pure, Except.pure, List.flatMap_append]

/-- the lines of a component whose description is a text are those of its rows -/
theorem componentLines_eq {c : Component} (h : ∃ s, c.description = .text s) :
    componentLines c = ((rows c).mapError .obstacle).map (List.flatMap Row.written) := by
  cases hrows : rows c with
  | error o =>
    rw [componentLines, hrows]
    rfl
  | ok all =>
    rw [componentLines, hrows]
    exact flatMapM_eq_ok (fun row hrow => rowLines_of_plain (plain_of_rows hrows h row hrow))

/-- where the descriptions are texts, the cells of the table are -/
theorem plain_of_allRows {cs : List Component} (htexts : ∀ c ∈ cs, ∃ s, c.description = .text s) {all : List Row}
    (h : cs.flatMapM rows = .ok all) : ∀ row ∈ all, row.Plain := by
  induction cs generalizing all with
  | nil =>
    cases h
    exact nofun
  | cons c cs ih =>
    obtain ⟨htext, htexts⟩ := List.forall_mem_cons.1 htexts
    rw [List.flatMapM_cons] at h
    cases hc : rows c with
    | error o =>
      rw [hc] at h
      cases h
    | ok own =>
      cases hrest : cs.flatMapM rows with
      | error o =>
        rw [hc, hrest] at h
        cases h
      | ok others =>
        rw [hc, hrest] at h
        cases h
        exact List.forall_mem_append.2 ⟨plain_of_rows hc htext, ih htexts hrest⟩

/-- a component is placeable unless it is of no kind, or its default has too many digits -/
theorem placeable_of_supported {x : Component} (h : ∀ info kind, x ≠ .unsupported info kind) (hl : x.legible = true) :
    x.placeable = true := by
  cases x with
  | unsupported info kind => exact absurd rfl (h info kind)
  | scalar info default =>
    cases default with
    | number n => exact hl
    | _ => rfl
  | _ => rfl

theorem exists_rows_of_supported {c : Component}
    (h : ∀ x ∈ everyComponent c, ∀ info kind, x ≠ .unsupported info kind)
    (hl : ∀ x ∈ everyComponent c, x.legible = true)
    (hkeys : ∀ choice ∈ c.ownChoices, choice.literal.value.datum.showable = true) : ∃ all, rows c = .ok all := by
  have hself := mem_everyComponent_self c
  refine exists_rows_iff.2 ⟨placeable_of_supported (h c hself) (hl c hself), fun choice hc => ⟨hkeys choice hc, ?_⟩⟩
  intro x hx
  have hmem : x ∈ everyComponent c := by
    cases c with
    | switch s key choices =>
      refine List.mem_cons_of_mem _ (mem_everyComponentOfChoices.2 ⟨choice, hc, ?_⟩)
      exact mem_everyComponentOfAll.2 ⟨x, hx, mem_everyComponent_self x⟩
    | _ => cases hc
  exact placeable_of_supported (h x hmem) (hl x hmem)

section

variable {d : LineDefinition} {title description : String}

/-- **What a section in detailed form is made of,** where all is text: the rows and the default lines, if there are
any. -/
theorem manualLines_detailed_iff (hsome : d.components ≠ []) (htitle : d.sectionName = .text title)
    (hdescription : d.description = .text description) (htexts : ∀ c ∈ d.components, ∃ s, c.description = .text s)
    {lines : List String} : manualLines d .detailed = .ok lines ↔
      ∃ all defaults, d.components.flatMapM rows = .ok all ∧ defaultLines d.components = .ok defaults ∧
        lines = headLines title (if description.isEmpty then [] else [description, ""]) defaults ++ tableOf all := by
  have hsection : titleOf d = .ok title := by rw [titleOf, htitle]
  have hdetailed : (Detail.detailed == Detail.detailed && !d.components.isEmpty) = true := by
    simpa using hsome
  have hcomponents := flatMapM_mapError_map ManualFault.obstacle Row.written (fun c hc => componentLines_eq (htexts c hc))
  rw [manualLines, hsection, hdetailed, hdescription, tableLines, hcomponents]
  cases defaultLines d.components with
  | error o => exact ⟨nofun, fun ⟨_, _, _, h, _⟩ => nomatch h⟩
  | ok defaults =>
    cases d.components.flatMapM rows with
    | error o => exact ⟨nofun, fun ⟨_, _, h, _, _⟩ => nomatch h⟩
    | ok all =>
      constructor
      · intro h
        exact ⟨all, defaults, rfl, rfl, (Except.ok.inj h).symm⟩
      · rintro ⟨all', defaults', hall, hdefaults, rfl⟩
        cases hall
        cases hdefaults
        rfl

/-- **There is a section in detailed form** where all components are of some kind, and where the defaults and the keys of
the choices that it shows can be written. -/
theorem exists_manual (hw : ∀ x ∈ d.components, x.WellFormed)
    (hs : ∀ x ∈ everyComponentOfAll d.components, ∀ info kind, x ≠ .unsupported info kind)
    (hl : ∀ x ∈ everyComponentOfAll d.components, x.legible = true)
    (hkeys : ∀ c ∈ d.components, ∀ choice ∈ c.ownChoices, choice.literal.value.datum.showable = true)
    (hsome : d.components ≠ []) (htitle : d.sectionName = .text title)
    (hdescription : d.description = .text description) (htexts : ∀ c ∈ d.components, ∃ s, c.description = .text s) :
    ∃ text, manual d .detailed = .ok text := by
  have hrows : ∀ c ∈ d.components, ∃ all, rows c = .ok all := fun c hc =>
    exists_rows_of_supported (fun x hx => hs x (mem_everyComponentOfAll.2 ⟨c, hc, hx⟩))
      (fun x hx => hl x (mem_everyComponentOfAll.2 ⟨c, hc, hx⟩)) (hkeys c hc)
  obtain ⟨all, hall⟩ := exists_flatMapM_ok hrows
  have hdefaults := (defaultLines_of_writable hw (writable_of_supported d hw hs hl)).1
  have hmanual := (manualLines_detailed_iff hsome htitle hdescription htexts).2 ⟨all, _, hall, hdefaults, rfl⟩
  exact ⟨_, by rw [manual, hmanual]; rfl⟩

end

/-- **The table can be read back line by line unless a cell has a newline in it.** Of a definition with components and
with texts for its names and descriptions there is a section in detailed form, unless some component is of no kind or
some integer that it shows has too many digits. The lines of the section are those of its parts, one part after the
other; they end with three lines for every row, and an empty one, exactly if no token and no description of a row goes
over its line. What is behind the marks of a row, with the backslashes taken away, is what the row says. -/
theorem table_read_back (d : LineDefinition) (hw : ∀ x ∈ d.components, x.WellFormed) (hsome : d.components ≠ [])
    {title description : String} (htitle : d.sectionName = .text title) (hdescription : d.description = .text description)
    (htexts : ∀ c ∈ d.components, ∃ s, c.description = .text s) :
    ((∀ x ∈ everyComponentOfAll d.components, ∀ info kind, x ≠ .unsupported info kind) →
      (∀ x ∈ everyComponentOfAll d.components, x.legible = true) →
      (∀ c ∈ d.components, ∀ choice ∈ c.ownChoices, choice.literal.value.datum.showable = true) →
      ∃ text, manual d .detailed = .ok text) ∧
    ∀ text, manual d .detailed = .ok text →
      ∃ all defaults, d.components.flatMapM rows = .ok all ∧ defaultLines d.components = .ok defaults ∧
        linesOf text.toList =
          (headLines title (if description.isEmpty then [] else [description, ""]) defaults ++ tableOf all).flatMap
            (fun l => linesOf l.toList) ∧
        (EndsWithTable all text ↔ ∀ row ∈ all, row.OnItsLines) ∧
        ∀ row ∈ all, row.written.map (fun line => unescape (line.toList.drop 7)) =
          [row.token.toList, row.optional.toList, row.means.toList] := by
  refine ⟨fun hs hl hkeys => exists_manual hw hs hl hkeys hsome htitle hdescription htexts, fun text htext => ?_⟩
  cases hmanual : manualLines d .detailed with
  | error fault =>
    rw [manual, hmanual] at htext
    cases htext
  | ok lines =>
    rw [manual, hmanual] at htext
    cases htext
    obtain ⟨all, defaults, hall, hdefaults, rfl⟩ :=
      (manualLines_detailed_iff hsome htitle hdescription htexts).1 hmanual
    have hplain := plain_of_allRows htexts hall
    have hlines := linesOf_intercalate
      (headLines title (if description.isEmpty then [] else [description, ""]) defaults ++ tableOf all)
      (by simp [tableOf])
    exact ⟨all, defaults, hall, hdefaults, hlines, endsWithTable_iff hplain hlines,
      fun row hrow => unescape_written (hplain row hrow)⟩

/-- the table of the kinetics, with a row for each of the three models -/
theorem table_read_back_kinetics :
    (∀ x ∈ everyComponentOfAll Manifold.kinetics.components, ∀ info kind, x ≠ .unsupported info kind) ∧
      ∃ all text, Manifold.kinetics.components.flatMapM rows = .ok all ∧
        manual Manifold.kinetics .detailed = .ok text ∧ EndsWithTable all text := by
  have hs : ∀ x ∈ everyComponentOfAll Manifold.kinetics.components, ∀ info kind, x ≠ .unsupported info kind := by
    have hstandard : ∀ x ∈ everyComponentOfAll Manifold.kinetics.components, x.standard = true := by decide +kernel
    rintro x hx info kind rfl
    cases hstandard _ hx
  have htexts : ∀ c ∈ Manifold.kinetics.components, ∃ s, c.description = .text s := by
    simp [Manifold.kinetics, Manifold.labelledInt, Manifold.label, Manifold.field, Manifold.kineticModel,
      Component.description, Component.info]
  have hl : ∀ x ∈ everyComponentOfAll Manifold.kinetics.components, x.legible = true := by decide +kernel
  have hkeys : ∀ c ∈ Manifold.kinetics.components, ∀ choice ∈ c.ownChoices,
      choice.literal.value.datum.showable = true := by decide +kernel
  obtain ⟨htotal, hback⟩ := table_read_back Manifold.kinetics Manifold.kinetics_wellFormed
    (by simp [Manifold.kinetics]) rfl rfl htexts
  obtain ⟨text, htext⟩ := htotal hs hl hkeys
  obtain ⟨all, -, hall, -, -, hends, -⟩ := hback text htext
  refine ⟨hs, all, text, hall, htext, hends.2 fun row hrow => ?_⟩
  have hlines : ∀ row ∈ (Manifold.kinetics.components.flatMapM rows).toOption.getD [],
      '\n' ∉ row.token.toList ∧ '\n' ∉ row.means.toList := by decide +kernel
  rw [hall] at hlines
  exact ⟨(hlines row hrow).1, (hlines row hrow).2⟩

/-- a labelled count whose label is described on two lines -/
def describedCount : LineDefinition where
  sectionName := .text "COUNTS"
  components := [.separator (Manifold.token "NUMSCAL" rfl) false (.text "number of scalars\nper field"),
    .scalar (Manifold.field "NUMSCAL") (.number (.int 0))]
  description := .text ""
  resolved := by decide
  written_once := by decide

/-- the description goes on at the beginning of a line, and the lines of the section do not end with the table -/
theorem table_broken :
    (∀ x ∈ describedCount.components, x.WellFormed) ∧
      ∃ all text, describedCount.components.flatMapM rows = .ok all ∧
        manual describedCount .detailed = .ok text ∧ "per field".toList ∈ linesOf text.toList ∧
        ¬ EndsWithTable all text := by
  have hw : ∀ x ∈ describedCount.components, x.WellFormed := Manifold.wellFormed_of_plain_fields rfl
  have hs : ∀ x ∈ everyComponentOfAll describedCount.components, ∀ info kind, x ≠ .unsupported info kind := by
    simp [describedCount, everyComponentOfAll, everyComponent]
  have htexts : ∀ c ∈ describedCount.components, ∃ s, c.description = .text s := by
    simp [describedCount, Manifold.field, Component.description, Component.info]
  have hrows : describedCount.components.flatMapM rows = .ok
      [⟨"NUMSCAL", "", .text "number of scalars\nper field"⟩, ⟨"0", "", .text ""⟩] := by
    simp only [describedCount, List.flatMapM_cons]
    rfl
  have hl : ∀ x ∈ everyComponentOfAll describedCount.components, x.legible = true := by decide +kernel
  have hdefaults := (defaultLines_of_writable hw (writable_of_supported describedCount hw hs hl)).1
  have hmanual := (manualLines_detailed_iff (by simp [describedCount]) rfl rfl htexts).2
    ⟨_, _, hrows, hdefaults, rfl⟩
  have hplain := plain_of_allRows htexts hrows
  refine ⟨hw, _, _, hrows, by rw [manual, hmanual]; rfl, ?_, fun hends => ?_⟩
  · rw [linesOf_intercalate _ (by simp [tableOf]), List.mem_flatMap]
    refine ⟨"     - " ++ cellText "number of scalars\nper field", ?_, by decide +kernel⟩
    simp [tableOf, Row.written, Row.means]
  · have hline := (endsWithTable_iff hplain (linesOf_intercalate _ (by simp [tableOf]))).1 hends _ List.mem_cons_self
    exact hline.means (by decide +kernel)

end LineGrammar
