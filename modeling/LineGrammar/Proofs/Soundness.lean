/-
What checking a definition is for.

A definition whose components are all of kinds that keep to themselves what they read fails on a line only through a
fault of the line. A name is never taken, since no branch writes one twice; a length is always there and an integer,
since every branch writes one before; and a cursor never leaves its line. So what a definition has been checked for is
what reading needs.

It has not been checked for integers that cannot be written. A count of too many digits is nothing that a line can give,
but a default, a literal or a fixed length can; where a message has to show it, the error that is made says nothing of
the line.
- `not_clashes`: where the checks meet the container.
- `read_countsWritable`: the counts in a container stay short enough to be shown.
- `exists_ofLine`: an error comes from a component of the branch, which the line does not suit.
- `read_error_aboutLine`: every error is about the line, if every count of the definition can be written.
-/
import LineGrammar.Proofs.Shape

namespace LineGrammar

theorem Component.writesKey_of_writesInt {x : Component} (h : x.writesInt = true) : x.writesKey = true := by
  cases x <;> simp_all [writesInt, writesKey]

/-- a selection that can be a length has integers as values -/
theorem exists_int_of_mem_literals {s : Selection} (hs : (Component.selection s).writesInt = true) {l : Literal}
    (hl : l ∈ s.literals) : ∃ n, l.value.datum = .int n := by
  have hint := List.all_eq_true.1 hs l hl
  cases hv : l.value with
  | int n => exact ⟨n, rfl⟩
  | text t => rw [hv] at hint; simp [Key.isInt] at hint

/-- what a component that can be a length leaves is an integer -/
theorem Component.Fits.exists_int {sink : Container} {x : Component} {value : Datum} (hf : x.Fits sink value)
    (hx : x.writesInt = true) : ∃ n, value = .int n := by
  cases x with
  | scalar info default =>
    cases default with
    | number n =>
      cases n with
      | int n =>
        cases value with
        | int m => exact ⟨m, rfl⟩
        | _ => simp [Fits, Scalar.valueKind, NumberKind.valueKind, Number.kind, ValueKind.holds] at hf
      | real r => simp [writesInt] at hx
    | _ => simp [writesInt] at hx
  | selection s =>
    obtain ⟨l, hl, rfl⟩ := hf
    exact exists_int_of_mem_literals hx hl
  | _ => simp [writesInt] at hx

/-- **On a branch of a definition no component clashes with what the components before it have left.** -/
theorem LineDefinition.not_clashes (d : LineDefinition) {done rest : List Component} {x : Component}
    {sink : Container} (hb : done ++ x :: rest ∈ branchesOfAll d.components) (hs : x.standard = true)
    (hf : Filled done .empty sink) : ¬ x.Clashes sink := by
  intro hc
  cases hc with
  | taken hw held =>
    have hnodup := d.keysOf_nodup hb
    rw [keysOf_append, keysOf_cons, if_pos hw, List.nodup_append] at hnodup
    have hnames : sink.names = keysOf done := hf.names
    rw [hnames] at held
    exact hnodup.2.2 _ held _ List.mem_cons_self rfl
  | unresolved info source default h =>
    obtain ⟨y, hy, hint, rfl⟩ := d.source_written_before hb rfl
    obtain ⟨value, hv, hfits⟩ := hf.fits hy (Component.writesKey_of_writesInt hint)
    obtain ⟨n, rfl⟩ := hfits.exists_int hint
    exact h y.name rfl n hv
  | unsupported info kind => simp [Component.standard] at hs

/-! ## Counts that can be written -/

/-- an integer that is read is short enough to be written again -/
theorem isWritable_of_leadingInt {text : List Char} {r : Leading Int} (h : leadingInt text = .ok r) :
    isWritable r.value = true := by
  simp only [leadingInt] at h
  split at h
  · cases h
  · split at h
    · cases h
    · rename_i hlimit
      rw [isWritable_iff, ← Except.ok.inj h]
      have habs : ∀ (negative : Bool) (n : Nat), (if negative then -(n : Int) else n).natAbs = n := by
        intro negative n
        cases negative <;> simp
      simp only [habs]
      exact digitsValue_lt_of_length_le (fun ch hch => List.mem_takeWhile_imp hch) (Nat.not_lt.1 hlimit)

theorem legible_of_leadingNumber {kind : NumberKind} {text : List Char} {r : Leading Number}
    (h : leadingNumber kind text = .ok r) : r.value.legible = true := by
  have hkind := kind_of_leadingNumber h
  cases kind with
  | int =>
    simp only [leadingNumber] at h
    cases hi : leadingInt text with
    | error e => rw [hi] at h; cases h
    | ok i =>
      rw [hi] at h
      rw [← Except.ok.inj h]
      exact isWritable_of_leadingInt hi
  | real =>
    cases hv : r.value with
    | int n => rw [hv] at hkind; cases hkind
    | real x => rfl

theorem legible_of_convert {kind : NumberKind} {token : List Char} {field context expected : Datum} {optional : Bool}
    {n : Number} (h : convert kind token field context expected optional = .ok n) : n.legible = true := by
  unfold convert at h
  split at h
  · split at h <;> cases h
  · rename_i r hr
    split at h
    · rw [← Except.ok.inj h]
      exact legible_of_leadingNumber hr
    · cases h

/-- what a token is converted to can be shown -/
theorem showable_of_convertScalar {default : Scalar} {info : Info} {context value : Datum} {token : List Char}
    (h : convertScalar default info context token = .ok value) : value.showable = true := by
  cases default with
  | text t =>
    rw [← Except.ok.inj h]
    exact Datum.showable_text _
  | flag b =>
    simp only [convertScalar] at h
    split at h
    · cases h
      simp [Datum.showable]
    · split at h <;> cases h
      simp [Datum.showable]
  | number n =>
    simp only [convertScalar] at h
    cases hc : convert n.kind token info.label context (.int 1) info.optional with
    | error e => rw [hc] at h; cases h
    | ok m =>
      rw [hc] at h
      rw [← Except.ok.inj h, Number.showable_datum]
      exact legible_of_convert hc

/-- whether the counts that a component gives by itself can be written: a default, the values of literals, or a length -/
def Component.countsWritable : Component → Bool
  | .scalar _ default => default.datum.showable
  | .vector _ (.fixed count) _ => isWritable count
  | .selection s | .switch s _ _ => s.literals.all (fun l => l.value.datum.showable)
  | _ => true

/-- every integer that is held can be written -/
def Container.CountsWritable (sink : Container) : Prop :=
  ∀ name (n : Int), sink.get? name = some (.int n) → isWritable n = true

namespace Container.CountsWritable

variable {sink : Container}

theorem empty : Container.empty.CountsWritable := by
  intro name n h
  cases h

/-- writing a value that is no integer, or one that can be written, adds no count that cannot -/
theorem write (h : sink.CountsWritable) (c : Cursor) (name : String) {value : Datum}
    (hv : ∀ n : Int, value = .int n → isWritable n = true) :
    (LineGrammar.write c sink name value).sink.CountsWritable := by
  rcases write_cases c sink name value with ⟨-, hw⟩ | ⟨after, hafter, hw⟩ <;> rw [hw]
  · exact h
  · intro other n hn
    rw [Container.get?_eq_some_iff, hafter, List.mem_append, List.mem_singleton] at hn
    rcases hn with hn | hn
    · exact h other n (Container.get?_eq_some_iff.2 hn)
    · exact hv n (Prod.mk.inj hn).2.symm

theorem write_of_showable (h : sink.CountsWritable) (c : Cursor) (name : String) {value : Datum}
    (hv : value.showable = true) : (LineGrammar.write c sink name value).sink.CountsWritable := by
  refine h.write c name ?_
  rintro n rfl
  rwa [Datum.showable_int] at hv

end Container.CountsWritable

/-- one component leaves no count that cannot be written -/
theorem read_countsWritable {x : Component} (hs : x.isSwitch = false) (hp : x.isProcessed = false)
    (hx : x.countsWritable = true) (context : Datum) (c : Cursor) {sink : Container} (h : sink.CountsWritable) :
    (read context x c sink).sink.CountsWritable := by
  cases x with
  | separator label optional description =>
    rw [read]
    rcases readSeparator_cases label optional context c sink with ⟨before, after, -, hr⟩ | ⟨-, hr⟩ <;> rw [hr]
    · exact h
    · cases optional <;> exact h
  | scalar info default =>
    rw [read, readScalar]
    split
    · exact h
    · split
      · exact h.write_of_showable _ _ hx
      · exact h
    · split
      · exact h
      · rename_i hv
        exact h.write_of_showable _ _ (showable_of_convertScalar hv)
  | vector info length default =>
    rw [read, readVector]
    split
    · exact h
    · split
      · exact h
      · split
        · exact h
        · split
          · exact h
          · refine h.write _ _ fun n hn => ?_
            cases hn
  | selection s =>
    have hall := List.all_eq_true.1 hx
    rw [read]
    rcases readSelection_cases s c sink with ⟨l, hl, before, after, -, hr⟩ | ⟨-, hr⟩ <;> rw [hr]
    · exact h.write_of_showable _ _ (hall l hl)
    · exact h.write_of_showable _ _ (hall s.default s.default_mem)
  | switch => cases hs
  | processed => cases hp
  | unsupported => exact h

/-- **A branch whose own counts can be written leaves none that cannot.** -/
theorem readAll_countsWritable {b : List Component}
    (hb : ∀ x ∈ b, x.isSwitch = false ∧ x.isProcessed = false ∧ x.countsWritable = true) (context : Datum) (c : Cursor)
    {sink : Container} (h : sink.CountsWritable) : (readAll context b c sink).sink.CountsWritable := by
  induction b generalizing c sink with
  | nil => exact h
  | cons x b ih =>
    obtain ⟨⟨hs, hp, hx⟩, hrest⟩ := List.forall_mem_cons.1 hb
    have hfirst := read_countsWritable hs hp hx context c h
    cases he : (read context x c sink).error with
    | some e =>
      rw [readAll_cons_of_some he]
      exact hfirst
    | none =>
      rw [readAll_cons_of_none he]
      exact ih hrest _ hfirst

/-- the count that a component asks for can be written if its own can and those in the container can -/
theorem Component.isWritable_of_asks {x : Component} {sink : Container} {count : Nat} (hasked : x.Asks sink count)
    (hx : x.countsWritable = true) (h : sink.CountsWritable) : isWritable count = true := by
  cases x with
  | vector info length default =>
    cases length with
    | fixed n =>
      obtain rfl : count = n := hasked
      exact hx
    | takenFrom source =>
      obtain ⟨name, rfl, hheld⟩ := hasked
      exact h name count hheld
  | _ =>
    obtain rfl : count = 1 := hasked
    rfl

/-! ## Every error -/

theorem Component.isProcessed_of_standard {x : Component} (h : x.standard = true) : x.isProcessed = false := by
  cases x <;> simp_all [standard, isProcessed]

/-- **An error that a definition has with a line is one that a component of its branch has with it.** The components
before have left what the container holds. -/
theorem exists_ofLine (d : LineDefinition) (hw : ∀ x ∈ d.components, x.WellFormed)
    (hs : ∀ x ∈ everyComponentOfAll d.components, x.standard = true) (line : List Char) {e : ReadError}
    (he : (d.read line Container.empty).error = some e) :
    ∃ r, Route d.components r ∧
      d.read line Container.empty = readAll d.sectionName (r.map Stage.component) (.ofLine line) Container.empty ∧
      ∃ x ∈ r.map Stage.component, e.OfLine x d.sectionName (d.read line Container.empty).sink := by
  have hp : ∀ x ∈ everyComponentOfAll d.components, x.isProcessed = false :=
    fun x hx => Component.isProcessed_of_standard (hs x hx)
  obtain ⟨r, hr, hread, ⟨hn, -⟩ | ⟨done, x, rest, start, hsplit, hfilled, -, hlast⟩⟩ := read_branch_cases d hw hp line
  · rw [hn] at he
    cases he
  · have hx : x ∈ r.map Stage.component := hsplit ▸ List.mem_append_right _ List.mem_cons_self
    have hstandard : x.standard = true := hr.forall_component hs (fun _ _ _ _ => rfl) x hx
    have hbranch := hr.mem_branchesOfAll
    rw [hsplit] at hbranch
    refine ⟨r, hr, hread, x, hx, ?_⟩
    rcases read_cases (hr.isSwitch_eq_false x hx) (Component.isProcessed_of_standard hstandard) d.sectionName start
      (d.read line Container.empty).sink with ⟨e', he', -, hfault⟩ | ⟨hn, -⟩
    · rw [← hlast, he] at he'
      rw [Option.some.inj he']
      exact hfault.resolve_right fun h => d.not_clashes hbranch hstandard hfilled h.1
    · rw [← hlast, he] at hn
      cases hn

/-- **Every error of a checked definition is about the line,** but for the errors that cannot be worded: there is none
of these if the section and every count of the definition can be written. -/
theorem read_error_aboutLine (d : LineDefinition) (hw : ∀ x ∈ d.components, x.WellFormed)
    (hs : ∀ x ∈ everyComponentOfAll d.components, x.standard = true) (line : List Char) :
    ∀ e, (d.read line Container.empty).error = some e →
      e.causeClass.aboutLine = true ∧ (e.aboutLine = true ∨ e.errorClass = .runtime .value) ∧
      (d.sectionName.showable = true → (∀ x ∈ everyComponentOfAll d.components, x.countsWritable = true) →
        e.aboutLine = true) := by
  intro e he
  obtain ⟨r, hr, hread, x, hx, hline⟩ := exists_ofLine d hw hs line he
  have hcause := hline.aboutLine_causeClass
  have habout : e.errorClass = e.causeClass → e.aboutLine = true := fun h => by rw [ReadError.aboutLine, h, hcause]
  refine ⟨hcause, e.errorClass_cases.imp (fun h => habout h.2) And.right, fun hsection hcounts => ?_⟩
  -- neither the component nor the container has a count that cannot be written
  have hbranch : ∀ y ∈ r.map Stage.component, y.isSwitch = false ∧ y.isProcessed = false ∧ y.countsWritable = true :=
    fun y hy => ⟨hr.isSwitch_eq_false y hy,
      Component.isProcessed_of_standard (hr.forall_component hs (fun _ _ _ _ => rfl) y hy),
      hr.forall_component hcounts (fun _ _ _ h => h) y hy⟩
  have hsink : (d.read line Container.empty).sink.CountsWritable := by
    rw [hread]
    exact readAll_countsWritable hbranch d.sectionName _ .empty
  refine habout (ReadError.errorClass_of_isWritable (hline.isWritable hsection (fun count hasked => ?_) hsink))
  exact Component.isWritable_of_asks hasked (hbranch x hx).2.2 hsink

/-- the kinetic models are of such kinds and their counts can be written: a text where an integer should stand is a fault
of the line -/
theorem read_error_aboutLine_kinetics :
    (∀ x ∈ Manifold.kinetics.components, x.WellFormed) ∧
      (∀ x ∈ everyComponentOfAll Manifold.kinetics.components, x.standard = true) ∧
      (Manifold.kinetics.read "ConditionID one".toList Container.empty).error.isSome = true ∧
      ∀ e, (Manifold.kinetics.read "ConditionID one".toList Container.empty).error = some e → e.aboutLine = true := by
  have hs : ∀ x ∈ everyComponentOfAll Manifold.kinetics.components, x.standard = true := by decide +kernel
  have hcounts : ∀ x ∈ everyComponentOfAll Manifold.kinetics.components, x.countsWritable = true := by decide +kernel
  refine ⟨Manifold.kinetics_wellFormed, hs, by decide +kernel, fun e he => ?_⟩
  obtain ⟨-, -, hall⟩ := read_error_aboutLine Manifold.kinetics Manifold.kinetics_wellFormed hs _ e he
  exact hall (Datum.showable_text _) hcounts

/-- a vector with its number of values, which may be left out and is then `n` -/
def counted (n : Int) : LineDefinition where
  sectionName := .text "S"
  components :=
    [.scalar ⟨"N", true, .text ""⟩ (.number (.int n)), .vector (Manifold.field "V") (.takenFrom (.text "N")) (.int 0)]
  description := .text ""
  resolved := rfl
  written_once := rfl

/-- a number of values that is negative where it is left out is at fault on the empty line -/
theorem read_counted {n : Int} (h : n < 0) : ((counted n).read [] Container.empty).error =
    some (.negativeLength (.text "N") (.text "S") n (.text "V")) := by
  have hscalar : read (.text "S") (.scalar ⟨"N", true, .text ""⟩ (.number (.int n))) (.ofLine []) Container.empty =
      ⟨.ofLine [], ⟨[("N", .int n)], by simp⟩, none⟩ := rfl
  have hheld : (⟨[("N", .int n)], by simp⟩ : Container).get? "N" = some (.int n) := rfl
  have hvector := read_vector_of_negative hheld h (Manifold.field "V") (.int 0) (.text "S") (.ofLine [])
  simp only [LineDefinition.read, readLine, counted, readAll, hscalar, hvector, Outcome.andThen]
  rfl

/-- the first negative number that has too many digits -/
def overdrawn : Int :=
  -(Nat.pow 10 digitLimit : Nat)

theorem isWritable_overdrawn : isWritable overdrawn = false := by
  refine Bool.eq_false_iff.2 fun h => ?_
  rw [isWritable_iff, overdrawn, Int.natAbs_neg, Int.natAbs_natCast] at h
  exact h.false

/-- by default there are so few values that the error on the empty line cannot say how many -/
theorem not_aboutLine_overdrawn :
    (∀ x ∈ (counted overdrawn).components, x.WellFormed) ∧
      (∀ x ∈ everyComponentOfAll (counted overdrawn).components, x.standard = true) ∧
      ∃ e, ((counted overdrawn).read [] Container.empty).error = some e ∧ e.causeClass = .malformedNumber ∧
        e.errorClass = .runtime .value ∧ e.aboutLine = false := by
  have hpower (digits : Nat) : 0 < Nat.pow 10 digits := Nat.pow_pos (by decide)
  have hnegative : overdrawn < 0 := Int.neg_neg_of_pos (Int.natCast_pos.2 (hpower digitLimit))
  have hclass : (ReadError.negativeLength (.text "N") (.text "S") overdrawn (.text "V")).errorClass =
      .runtime .value := by
    have h := ReadError.errorClass_negativeLength (Datum.showable_text "S") "N" overdrawn (Manifold.field "V")
    rwa [isWritable_overdrawn] at h
  refine ⟨Manifold.wellFormed_of_plain_fields rfl, ?_, _, read_counted hnegative, rfl, hclass, ?_⟩
  · simp [counted, everyComponentOfAll, everyComponent, Component.standard]
  · rw [ReadError.aboutLine, hclass]
    rfl

end LineGrammar
