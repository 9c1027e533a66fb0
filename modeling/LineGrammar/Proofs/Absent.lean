/-
Values behind an optional label that is not on the line.

Without its label the cursor goes to the end of the line, and no component behind it finds a token there, whatever else
the line holds. An optional one has its default, a vector as often as its length says; a mandatory one ends the reading,
unless it is a vector of no values. The line stays as it is.
- `read_atEnd`: one component at the end of the line.
- `readAll_atEnd`: a run of them, by induction.
- `absent_label`: the run behind its label.
-/
import LineGrammar.Manifold
import LineGrammar.Proofs.RoundTrip

namespace LineGrammar

/-- whether the component takes its values from the tokens after the cursor -/
def Component.takesTokens : Component → Bool
  | .scalar .. | .vector .. | .processed .. => true
  | _ => false

/-- whether the component cannot do without a token: it is mandatory, and no vector of no values -/
def Component.needsToken (sink : Container) : Component → Bool
  | .vector info length _ => !info.optional && length.resolved sink != 0
  | x => !x.optional

/-- what the component stores if it finds no token and needs none -/
def Component.standIn (sink : Container) (x : Component) : List (String × Datum) :=
  (Stage.plain x).declared sink

/-- what stands in for a value is stored under the key of the component, if it has one -/
theorem map_fst_standIn {x : Component} {sink : Container} (hx : x.takesTokens = true) :
    (x.standIn sink).map Prod.fst = keysOf [x] := by
  cases x with
  | scalar info default => rfl
  | vector info length default => rfl
  | processed info insertion => rfl
  | _ => cases hx

/-! ## One component at the end of the line -/

section

variable {c : Cursor} {sink : Container} (context : Datum)

/-- a vector that finds no token -/
theorem readVector_atEnd {info : Info} {length : Length} (default : Number) {count : Nat}
    (hend : c.Stands (tokens c.line) []) (hatEnd : c.atEnd = true) (hcount : length.Counts sink count) :
    readVector info length default context c sink =
      if !info.optional && count != 0 then ⟨c, sink, some (.valueMissing info.label context)⟩
      else write c sink info.name (.list (List.replicate count default.datum)) := by
  have hadmits : Sink.admits sink count = true := rfl
  simp only [readVector, hcount.resolveLength_eq, hadmits, hatEnd, Bool.not_true, Bool.false_eq_true, if_false,
    Bool.and_true]
  cases count with
  | zero => simp [readNumbers, fillUp]
  | succ count =>
    cases ho : info.optional with
    | true => simp [readNumbers, hend.next_of_none, ho, fillUp]
    | false => simp

/-- **At the end of the line a component has its default, or lacks its token.** -/
theorem read_atEnd {x : Component} (hend : c.Stands (tokens c.line) []) (hatEnd : c.atEnd = true)
    (hx : x.takesTokens = true) (hsized : (Stage.plain x).Sized sink)
    (hname : x.writesKey = true → x.name ∉ sink.names) :
    (x.needsToken sink = true ∧ read context x c sink = ⟨c, sink, some (.valueMissing x.info.label context)⟩) ∨
      (x.needsToken sink = false ∧ ∃ after : Container, after.entries = sink.entries ++ x.standIn sink ∧
        read context x c sink = ⟨c, after, none⟩) := by
  cases x with
  | scalar info default =>
    rw [read, readScalar_of_none context sink info default hend, hatEnd, if_pos rfl]
    cases ho : info.optional with
    | true =>
      obtain ⟨after, hafter, hwrite⟩ := write_of_free c default.datum (hname rfl)
      exact Or.inr ⟨by simp [Component.needsToken, Component.optional, Component.info, ho], after, hafter, hwrite⟩
    | false => exact Or.inl ⟨by simp [Component.needsToken, Component.optional, Component.info, ho], rfl⟩
  | vector info length default =>
    obtain ⟨count, hcount⟩ := hsized info length default rfl
    rw [read, readVector_atEnd context default hend hatEnd hcount]
    cases hneed : (!info.optional && count != 0) with
    | true => exact Or.inl ⟨by rw [Component.needsToken, hcount.resolved_eq, hneed], rfl⟩
    | false =>
      obtain ⟨after, hafter, hwrite⟩ := write_of_free c (.list (List.replicate count default.datum)) (hname rfl)
      refine Or.inr ⟨by rw [Component.needsToken, hcount.resolved_eq, hneed], after, ?_, hwrite⟩
      rw [hafter, Component.standIn, Stage.declared, hcount.resolved_eq]
      rfl
  | processed info insertion =>
    rw [read, readProcessed_of_none context sink info insertion hend]
    cases ho : info.optional with
    | true =>
      refine Or.inr ⟨by simp [Component.needsToken, Component.optional, Component.info, ho], sink, ?_, rfl⟩
      exact (List.append_nil _).symm
    | false => exact Or.inl ⟨by simp [Component.needsToken, Component.optional, Component.info, ho], rfl⟩
  | _ => cases hx

end

/-! ## A run of components -/

/-- The length of every vector among the components is held where reading comes to the vector. -/
def LengthsHeld (context : Datum) (components : List Component) (c : Cursor) (sink : Container) : Prop :=
  ∀ done x rest, components = done ++ x :: rest → (readAll context done c sink).error = none →
    (Stage.plain x).Sized (readAll context done c sink).sink

theorem lengthsHeld_nil (context : Datum) (c : Cursor) (sink : Container) : LengthsHeld context [] c sink := by
  intro done x rest hsplit
  cases done <;> cases hsplit

theorem lengthsHeld_cons {context : Datum} {x : Component} {run : List Component} {c : Cursor} {sink : Container} :
    LengthsHeld context (x :: run) c sink ↔ (Stage.plain x).Sized sink ∧
      ((read context x c sink).error = none →
        LengthsHeld context run (read context x c sink).cursor (read context x c sink).sink) := by
  constructor
  · intro h
    refine ⟨h [] x run rfl rfl, fun hx done y rest hrun => ?_⟩
    rw [← readAll_cons_of_none hx done]
    exact h (x :: done) y rest (by rw [hrun, List.cons_append])
  · rintro ⟨hsized, hrest⟩ done y rest hsplit hdone
    cases done with
    | nil =>
      obtain ⟨rfl, -⟩ := List.cons.inj hsplit
      exact hsized
    | cons z done =>
      obtain ⟨rfl, hrun⟩ := List.cons.inj hsplit
      have hx : (read context x c sink).error = none := by
        rw [readAll] at hdone
        exact (Outcome.andThen_of_fine hdone).1
      rw [readAll_cons_of_none hx done] at hdone ⊢
      exact hrest hx done y rest hrun hdone

/-- What is left behind a run of components that find no token: every one of them has stored what stands in for its
value, or the first one that needs a token has ended the reading. Lengths are taken from the container as it is left. -/
inductive LeftAbsent (context : Datum) (run : List Component) (sink : Container) (o : Outcome Container) : Prop where
  | stored (needless : ∀ x ∈ run, x.needsToken o.sink = false)
      (entries : o.sink.entries = sink.entries ++ run.flatMap (Component.standIn o.sink)) (fine : o.error = none)
  | missing {done : List Component} {x : Component} {rest : List Component} (split : run = done ++ x :: rest)
      (needless : ∀ y ∈ done, y.needsToken o.sink = false) (needs : x.needsToken o.sink = true)
      (entries : o.sink.entries = sink.entries ++ done.flatMap (Component.standIn o.sink))
      (failed : o.error = some (.valueMissing x.info.label context))

/-- what a component needs and what stands in for it do not change while the container grows -/
theorem standIn_of_grows {x : Component} {before after : Container} (hsized : (Stage.plain x).Sized before)
    (h : before.entries <+: after.entries) :
    x.needsToken after = x.needsToken before ∧ x.standIn after = x.standIn before := by
  cases x with
  | vector info length default =>
    obtain ⟨n, hn⟩ := hsized info length default rfl
    simp only [Component.needsToken, Component.standIn, Stage.declared, hn.resolved_eq, (hn.of_grows h).resolved_eq,
      and_self]
  | _ => exact ⟨rfl, rfl⟩

/-- one more component before the run, which has stored what stands in for its value -/
theorem LeftAbsent.cons {context : Datum} {x : Component} {run : List Component} {sink between : Container}
    {o : Outcome Container} (h : LeftAbsent context run between o) (hsized : (Stage.plain x).Sized sink)
    (hx : x.needsToken sink = false) (hbetween : between.entries = sink.entries ++ x.standIn sink) :
    LeftAbsent context (x :: run) sink o := by
  have hgrows : sink.entries <+: o.sink.entries := by
    cases h with
    | stored _ entries _ => exact ⟨_, by rw [entries, hbetween, List.append_assoc]⟩
    | missing _ _ _ entries _ => exact ⟨_, by rw [entries, hbetween, List.append_assoc]⟩
  obtain ⟨hneed, hstand⟩ := standIn_of_grows hsized hgrows
  rw [← hneed] at hx
  rw [← hstand] at hbetween
  cases h with
  | stored needless entries fine =>
    refine .stored (List.forall_mem_cons.2 ⟨hx, needless⟩) ?_ fine
    rw [entries, hbetween, List.flatMap_cons, List.append_assoc]
  | missing split needless needs entries failed =>
    rename_i done y rest
    have hsplit : x :: run = (x :: done) ++ y :: rest := by rw [split, List.cons_append]
    refine .missing hsplit (List.forall_mem_cons.2 ⟨hx, needless⟩) needs ?_ failed
    rw [entries, hbetween, List.flatMap_cons, List.append_assoc]

/-- **At the end of the line a run of components has its defaults, up to the first one that lacks a token.** -/
theorem readAll_atEnd (context : Datum) (run : List Component) {c : Cursor} {sink : Container}
    (hend : c.Stands (tokens c.line) []) (hatEnd : c.atEnd = true) (hrun : ∀ x ∈ run, x.takesTokens = true)
    (hheld : LengthsHeld context run c sink) (hnames : (sink.names ++ keysOf run).Nodup) :
    (readAll context run c sink).cursor = c ∧ LeftAbsent context run sink (readAll context run c sink) := by
  induction run generalizing sink with
  | nil => exact ⟨rfl, .stored (by simp) (List.append_nil _).symm rfl⟩
  | cons x run ih =>
    obtain ⟨hx, hrun⟩ := List.forall_mem_cons.1 hrun
    obtain ⟨hsized, hheld⟩ := lengthsHeld_cons.1 hheld
    have hfree : x.writesKey = true → x.name ∉ sink.names := by
      intro hw hmem
      rw [keysOf_cons, if_pos hw, List.nodup_append] at hnames
      exact hnames.2.2 x.name hmem x.name List.mem_cons_self rfl
    rcases read_atEnd context hend hatEnd hx hsized hfree with
      ⟨hneed, hread⟩ | ⟨hneed, after, hafter, hread⟩
    · have hfailed : (read context x c sink).error = some (.valueMissing x.info.label context) := by rw [hread]
      rw [readAll_cons_of_some hfailed, hread]
      have hsplit : x :: run = [] ++ x :: run := rfl
      exact ⟨rfl, .missing hsplit (by simp) hneed (List.append_nil _).symm rfl⟩
    · have hfine : (read context x c sink).error = none := by rw [hread]
      have hheld' := hheld hfine
      rw [hread] at hheld'
      have hnames' : (after.names ++ keysOf run).Nodup := by
        rw [Container.names, hafter, List.map_append, map_fst_standIn hx, List.append_assoc, ← keysOf_append]
        exact hnames
      obtain ⟨hcursor, hleft⟩ := ih hrun hheld' hnames'
      rw [readAll_cons_of_none hfine, hread]
      exact ⟨hcursor, hleft.cons hsized hneed hafter⟩

/-- **An optional label that is not on the line makes the values behind it absent.** -/
theorem absent_label (context : Datum) (label : Token) (description : Datum) (run : List Component) (c : Cursor)
    (sink : Container) (hlabel : label.chars ∉ tokens c.line) (hrun : ∀ x ∈ run, x.takesTokens = true)
    (hheld : LengthsHeld context (.separator label true description :: run) c sink)
    (hnames : (sink.names ++ keysOf run).Nodup) :
    (readAll context (.separator label true description :: run) c sink).cursor = ⟨c.line, c.line.length⟩ ∧
      LeftAbsent context run sink (readAll context (.separator label true description :: run) c sink) := by
  have hread : read context (.separator label true description) c sink = ⟨c.seekEnd, sink, none⟩ := by
    rw [read, readSeparator_absent context sink true hlabel, if_pos rfl]
  have hfine : (read context (.separator label true description) c sink).error = none := by rw [hread]
  have hheld' := (lengthsHeld_cons.1 hheld).2 hfine
  rw [hread] at hheld'
  rw [readAll_cons_of_none hfine, hread]
  exact readAll_atEnd context run (Cursor.Stands.ofEnd c) (by simp [Cursor.atEnd, Cursor.seekEnd]) hrun hheld' hnames

/-- a count, numbers as many as it says, a name that must be there, and a flag -/
def countedRun : List Component :=
  [.scalar ⟨"NUMDOF", true, .text ""⟩ (.number (.int 2)),
    .vector ⟨"FUNCT", true, .text ""⟩ Manifold.sharedCount (.int 7),
    .scalar (Manifold.field "TAG") (.text (Manifold.token "none")), .scalar ⟨"ONOFF", true, .text ""⟩ (.flag true)]

/-- the count stands in with its default, the numbers with theirs, and the name is missing -/
theorem countedRun_absent :
    (readAll (.text "DIRICH") (.separator (Manifold.token "NUMDOF") true (.text "") :: countedRun)
        ⟨"VAL 1 2".toList, 0⟩ Container.empty).cursor = ⟨"VAL 1 2".toList, 7⟩ ∧
      LeftAbsent (.text "DIRICH") countedRun .empty
        (readAll (.text "DIRICH") (.separator (Manifold.token "NUMDOF") true (.text "") :: countedRun)
          ⟨"VAL 1 2".toList, 0⟩ .empty) := by
  refine absent_label (.text "DIRICH") (Manifold.token "NUMDOF") (.text "") countedRun ⟨"VAL 1 2".toList, 0⟩ .empty
    (by decide) (by decide) ?_ (by decide)
  refine lengthsHeld_cons.2 ⟨nofun, fun _ => lengthsHeld_cons.2 ⟨nofun, fun _ => lengthsHeld_cons.2 ⟨?_, fun _ => ?_⟩⟩⟩
  · rintro - - - ⟨⟩
    exact ⟨2, "NUMDOF", rfl, rfl⟩
  · exact lengthsHeld_cons.2 ⟨nofun, fun _ => lengthsHeld_cons.2 ⟨nofun, fun _ => lengthsHeld_nil _ _ _⟩⟩

end LineGrammar
