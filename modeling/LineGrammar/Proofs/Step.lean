/-
What reading one component can do.

Reading a component that is no switch and hands nothing on ends in one of two ways: it fails and leaves the container as
it was, or it goes well and adds the one entry that the component stands for, of the component's own kind. A failure is
a fault of the line (`OfLine`), or of a container or a grammar that clash with the component (`Clashes`); checking a
grammar rules the second out.
- `read_cases`: the two ways.
- `read_grows`: whatever is read, a container only grows.
-/
import LineGrammar.Grammar.Branch
import LineGrammar.Proofs.Label
import LineGrammar.Proofs.Wording

namespace LineGrammar

/-! ## What a component leaves -/

namespace NumberKind

/-- the kind of the values that are numbers of this kind -/
def valueKind : NumberKind → ValueKind
  | .int => .int
  | .real => .real

end NumberKind

/-- the kind of the values of a field, as its default shows it -/
def Scalar.valueKind : Scalar → ValueKind
  | .text _ => .text
  | .number n => n.kind.valueKind
  | .flag _ => .bool

/-- what a length comes to, given what the container holds -/
def Length.Counts (sink : Container) (n : Nat) : Length → Prop
  | .fixed count => n = count
  | .takenFrom source => ∃ name, source = .text name ∧ sink.get? name = some (.int n)

namespace Component

/-- whether the component is of a kind that is read and keeps to itself what it reads -/
def standard : Component → Bool
  | .processed .. | .unsupported .. => false
  | _ => true

/-- whether the default of a component can be read at all where it was written -/
def legible : Component → Bool
  | .scalar _ (.number n) | .vector _ _ n => n.legible
  | _ => true

/-- how many values a component asks for, given what the container holds -/
def Asks (sink : Container) (count : Nat) : Component → Prop
  | .vector _ length _ => length.Counts sink count
  | _ => count = 1

/-- whether a value is of the component's own kind -/
def Fits (sink : Container) : Component → Datum → Prop
  | .scalar _ default, value => default.valueKind.holds value = true
  | .vector _ length default, value =>
    ∃ items, value = .list items ∧ (∀ item ∈ items, default.kind.valueKind.holds item = true) ∧
      length.Counts sink items.length
  | .selection s, value | .switch s _ _, value => ∃ l ∈ s.literals, value = l.value.datum
  | _, _ => False

/-- what a component leaves when it is read: one entry, or nothing if it writes none -/
inductive Leaves (x : Component) (before : Container) : Container → Prop where
  | nothing (h : x.writesKey = false) : Leaves x before before
  | entry {after : Container} (value : Datum) (h : x.writesKey = true)
      (added : after.entries = before.entries ++ [(x.name, value)]) (fits : x.Fits before value) :
      Leaves x before after

/-- how a component can clash with a container: its name is taken, its length is not there, or it cannot be read -/
inductive Clashes (sink : Container) : Component → Prop where
  | taken {x : Component} (h : x.writesKey = true) (held : x.name ∈ sink.names) : Clashes sink x
  | unresolved (info : Info) (source : Datum) (default : Number)
      (h : ∀ name, source = .text name → ∀ n : Int, sink.get? name ≠ some (.int n)) :
      Clashes sink (.vector info (.takenFrom source) default)
  | unsupported (info : Info) (kind : String) : Clashes sink (.unsupported info kind)

end Component

/-- whether the error is the one that only a switch raises: no choice is registered for the key -/
def ReadError.fromSwitch : ReadError → Bool
  | .unregisteredKey .. => true
  | _ => false

/-- The errors of reading a component that the line is to blame for. They name the component, except for a length that
is negative: that is the fault of the field it is taken from. -/
inductive ReadError.OfLine (x : Component) (context : Datum) (sink : Container) : ReadError → Prop where
  | labelMissing : OfLine x context sink (.labelMissing x.name x.info.label context)
  | valueMissing : OfLine x context sink (.valueMissing x.info.label context)
  | numberMissing (count : Nat) (asked : x.Asks sink count) :
      OfLine x context sink (.numberMissing x.info.label context (.int count))
  | notNumber (token : List Char) : OfLine x context sink (.notNumber x.info.label context token)
  | trailing (token rest : List Char) (number : Number) :
      OfLine x context sink (.trailing x.info.label context token rest number)
  | notYesNo (token : List Char) : OfLine x context sink (.notYesNo x.info.label context token)
  | negativeLength {name : String} {count : Int} (negative : count < 0) (held : sink.get? name = some (.int count)) :
      OfLine x context sink (.negativeLength (.text name) context count x.info.label)

namespace ReadError.OfLine

variable {x : Component} {context : Datum} {sink : Container} {e : ReadError}

theorem aboutLine_causeClass (h : e.OfLine x context sink) : e.causeClass.aboutLine = true := by
  cases h <;> rfl

theorem fromSwitch (h : e.OfLine x context sink) : e.fromSwitch = false := by
  cases h <;> rfl

/-- **What is at fault in a line can be worded,** unless the section or a count has too many digits. -/
theorem isWritable (h : e.OfLine x context sink) (hcontext : context.showable = true)
    (hasked : ∀ count, x.Asks sink count → LineGrammar.isWritable count = true)
    (hheld : ∀ name count, sink.get? name = some (.int count) → LineGrammar.isWritable count = true) :
    e.isWritable = true := by
  refine Datum.showableItems_iff.2 fun d hd => ?_
  cases h with
  | labelMissing => simp_all [shownData]
  | valueMissing | notNumber | trailing | notYesNo =>
    simp only [shownData, Info.label, List.mem_cons, List.not_mem_nil, or_false] at hd
    rcases hd with rfl | rfl
    · exact Datum.showable_text _
    · exact hcontext
  | numberMissing count asked =>
    simp only [shownData, Info.label, List.mem_cons, List.not_mem_nil, or_false] at hd
    rcases hd with rfl | rfl | rfl
    · exact Datum.showable_text _
    · exact hcontext
    · rw [Datum.showable_int, hasked _ asked]
  | negativeLength negative held =>
    simp only [shownData, Info.label, List.mem_cons, List.not_mem_nil, or_false] at hd
    rcases hd with rfl | rfl | rfl | rfl
    · exact Datum.showable_text _
    · exact hcontext
    · rw [Datum.showable_int, hheld _ _ held]
    · exact Datum.showable_text _

end ReadError.OfLine

/-! ## Writing -/

theorem get?_container (sink : Container) (name : String) : Sink.get? sink name = sink.get? name := by
  have hask : Sink.ask sink (.text name) = sink.ask (.text name) := rfl
  rw [Sink.get?, hask, Container.ask]
  cases sink.get? name <;> rfl

theorem write_cases (c : Cursor) (sink : Container) (name : String) (value : Datum) :
    (name ∈ sink.names ∧ write c sink name value = ⟨c, sink, some (.duplicateKey name)⟩) ∨
      ∃ after : Container, after.entries = sink.entries ++ [(name, value)] ∧
        write c sink name value = ⟨c, after, none⟩ := by
  unfold write
  cases h : Sink.insert? sink name value with
  | none => exact Or.inl ⟨Container.insert?_eq_none_iff.1 h, rfl⟩
  | some after => exact Or.inr ⟨after, Container.entries_insert h, rfl⟩

theorem write_of_taken {sink : Container} {name : String} (c : Cursor) (value : Datum) (h : name ∈ sink.names) :
    write c sink name value = ⟨c, sink, some (.duplicateKey name)⟩ := by
  have hnone : Sink.insert? sink name value = none := Container.insert?_eq_none_iff.2 h
  rw [write, hnone]

theorem write_of_free {sink : Container} {name : String} (c : Cursor) (value : Datum) (h : name ∉ sink.names) :
    ∃ after : Container, after.entries = sink.entries ++ [(name, value)] ∧
      write c sink name value = ⟨c, after, none⟩ := by
  rcases write_cases c sink name value with ⟨htaken, -⟩ | hwritten
  · exact absurd htaken h
  · exact hwritten

/-- writing fails at a name that is taken, and for no other reason -/
theorem error_of_write {c : Cursor} {sink : Container} {name : String} {value : Datum} {e : ReadError}
    (h : (write c sink name value).error = some e) : e = .duplicateKey name := by
  rcases write_cases c sink name value with ⟨-, hw⟩ | ⟨after, -, hw⟩
  · rw [hw] at h
    exact (Option.some.inj h).symm
  · rw [hw] at h
    cases h

theorem error_of_writeAll {c : Cursor} {sink : Container} {entries : List (String × Datum)} {e : ReadError}
    (h : (writeAll c sink entries).error = some e) : ∃ name, e = .duplicateKey name := by
  induction entries generalizing c sink with
  | nil => cases h
  | cons entry rest ih =>
    rw [writeAll] at h
    cases hw : (write c sink entry.1 entry.2).error with
    | some e' =>
      rw [Outcome.andThen_of_some hw] at h
      exact ⟨entry.1, error_of_write h⟩
    | none =>
      rw [Outcome.andThen_of_none hw] at h
      exact ih h

@[simp] theorem write_cursor (c : Cursor) (sink : Container) (name : String) (value : Datum) :
    (write c sink name value).cursor = c := by
  unfold write
  cases Sink.insert? sink name value <;> rfl

/-- what is written does not depend on the cursor -/
theorem write_apart (c c' : Cursor) (sink : Container) (name : String) (value : Datum) :
    write c sink name value = { write c' sink name value with cursor := c } := by
  unfold write
  cases Sink.insert? sink name value <;> rfl

theorem writeAll_apart (c c' : Cursor) (sink : Container) (entries : List (String × Datum)) :
    writeAll c sink entries = { writeAll c' sink entries with cursor := c } := by
  induction entries generalizing sink with
  | nil => rfl
  | cons entry rest ih =>
    rw [writeAll, writeAll, write_apart c c']
    cases he : (write c' sink entry.1 entry.2).error with
    | none => simp only [Outcome.andThen, he, write_cursor, ih]
    | some e => simp only [Outcome.andThen, he]

@[simp] theorem writeAll_cursor (c : Cursor) (sink : Container) (entries : List (String × Datum)) :
    (writeAll c sink entries).cursor = c := by
  rw [writeAll_apart c c]

/-- writing the entry of a component, seen from the component -/
theorem write_leaves {x : Component} {sink : Container} (c : Cursor) (value : Datum) (hw : x.writesKey = true)
    (hf : x.Fits sink value) :
    (∃ e, (write c sink x.name value).error = some e ∧ (write c sink x.name value).sink = sink ∧ x.Clashes sink ∧
      e.fromSwitch = false) ∨
      ((write c sink x.name value).error = none ∧ x.Leaves sink (write c sink x.name value).sink) := by
  rcases write_cases c sink x.name value with ⟨hm, h⟩ | ⟨after, ha, h⟩ <;> rw [h]
  · exact Or.inl ⟨_, rfl, rfl, .taken hw hm, rfl⟩
  · exact Or.inr ⟨rfl, .entry value hw ha hf⟩

/-! ## Converting and counting -/

theorem kind_of_leadingNumber {kind : NumberKind} {text : List Char} {r : Leading Number}
    (h : leadingNumber kind text = .ok r) : r.value.kind = kind := by
  cases kind with
  | int =>
    simp only [leadingNumber] at h
    cases hi : leadingInt text with
    | error e => rw [hi] at h; simp [Except.map] at h
    | ok i => rw [hi] at h; simp only [Except.map, Except.ok.injEq] at h; rw [← h]; rfl
  | real =>
    simp only [leadingNumber] at h
    cases hi : leadingReal? text with
    | none => rw [hi] at h; simp at h
    | some i => rw [hi] at h; simp only [Except.ok.injEq] at h; rw [← h]; rfl

theorem kind_of_convert {kind : NumberKind} {token : List Char} {field context expected : Datum} {optional : Bool}
    {n : Number} (h : convert kind token field context expected optional = .ok n) : n.kind = kind := by
  unfold convert at h
  split at h
  · split at h <;> simp at h
  · rename_i r hr
    split at h
    · rw [← Except.ok.inj h]; exact kind_of_leadingNumber hr
    · simp at h

/-- a token that is not converted is missing, is no number, or goes on behind one -/
theorem error_of_convert {kind : NumberKind} {token : List Char} {field context expected : Datum}
    {optional : Bool} {e : ReadError} (h : convert kind token field context expected optional = .error e) :
    (token = [] ∧ e = .numberMissing field context expected) ∨ e = .notNumber field context token ∨
      ∃ rest number, e = .trailing field context token rest number := by
  unfold convert at h
  split at h
  · split at h
    · rename_i hmissing
      refine Or.inl ⟨?_, (Except.error.inj h).symm⟩
      simpa using (Bool.and_eq_true_iff.1 hmissing).2
    · exact Or.inr (Or.inl (Except.error.inj h).symm)
  · split at h
    · cases h
    · exact Or.inr (Or.inr ⟨_, _, (Except.error.inj h).symm⟩)

theorem ofLine_of_convert {x : Component} {sink : Container} {count : Nat} (hasked : x.Asks sink count)
    {kind : NumberKind} {token : List Char} {context : Datum} {optional : Bool} {e : ReadError}
    (h : convert kind token x.info.label context (.int count) optional = .error e) : e.OfLine x context sink := by
  rcases error_of_convert h with ⟨-, rfl⟩ | rfl | ⟨rest, number, rfl⟩
  · exact .numberMissing count hasked
  · exact .notNumber token
  · exact .trailing token rest number

theorem holds_datum (n : Number) : n.kind.valueKind.holds n.datum = true := by
  cases n <;> rfl

theorem Scalar.holds_datum (v : Scalar) : v.valueKind.holds v.datum = true := by
  cases v with
  | number n => exact LineGrammar.holds_datum n
  | _ => rfl

theorem convertScalar_fits {default : Scalar} {info : Info} {context value : Datum} {token : List Char}
    (h : convertScalar default info context token = .ok value) : default.valueKind.holds value = true := by
  cases default with
  | text t => simp only [convertScalar, Except.ok.injEq] at h; rw [← h]; rfl
  | flag b =>
    simp only [convertScalar] at h
    split at h
    · rw [← Except.ok.inj h]; rfl
    · split at h
      · rw [← Except.ok.inj h]; rfl
      · simp at h
  | number n =>
    simp only [convertScalar] at h
    cases hc : convert n.kind token info.label context (.int 1) info.optional with
    | error e => rw [hc] at h; simp [Except.map] at h
    | ok m =>
      rw [hc] at h
      simp only [Except.map, Except.ok.injEq] at h
      rw [← h, Scalar.valueKind, ← kind_of_convert hc]
      exact holds_datum m

theorem ofLine_of_convertScalar {default : Scalar} {info : Info} {context : Datum} {token : List Char}
    {e : ReadError} (h : convertScalar default info context token = .error e) (sink : Container) :
    e.OfLine (.scalar info default) context sink := by
  cases default with
  | text t => simp [convertScalar] at h
  | flag b =>
    simp only [convertScalar] at h
    split at h
    · simp at h
    · split at h
      · simp at h
      · rw [← Except.error.inj h]
        exact .notYesNo token
  | number n =>
    simp only [convertScalar] at h
    cases hc : convert n.kind token info.label context (.int 1) info.optional with
    | error e' =>
      rw [hc] at h
      simp only [Except.map, Except.error.injEq] at h
      rw [← h]
      have hasked : (Component.scalar info (.number n)).Asks sink 1 := rfl
      exact ofLine_of_convert hasked hc
    | ok m => rw [hc] at h; simp [Except.map] at h

theorem resolveLength_of_get? {sink : Container} {name : String} {n : Int} (h : sink.get? name = some (.int n))
    (field context : Datum) : resolveLength (.takenFrom (.text name)) sink field context =
      if n < 0 then .error (.negativeLength (.text name) context n field) else .ok n.toNat := by
  have hask : Sink.ask sink (.text name) = .value (.int n) := Container.ask_text h
  simp only [resolveLength, hask]

/-- a vector whose length is a negative integer of the container is not read -/
theorem read_vector_of_negative {sink : Container} {name : String} {n : Int} (hheld : sink.get? name = some (.int n))
    (h : n < 0) (info : Info) (default : Number) (context : Datum) (c : Cursor) :
    read context (.vector info (.takenFrom (.text name)) default) c sink =
      ⟨c, sink, some (.negativeLength (.text name) context n info.label)⟩ := by
  rw [read, readVector, resolveLength_of_get? hheld, if_pos h]

/-- the length of a vector is an integer of the container, or its lack is a fault -/
theorem resolveLength_cases (length : Length) (sink : Container) (field context : Datum) :
    (∃ n, resolveLength length sink field context = .ok n ∧ length.Counts sink n) ∨
      ∃ e, resolveLength length sink field context = .error e ∧
        ((∃ name n, length = .takenFrom (.text name) ∧ n < 0 ∧ sink.get? name = some (.int n) ∧
          e = .negativeLength (.text name) context n field) ∨
        (∃ source, length = .takenFrom source ∧
          ∀ name, source = .text name → ∀ n : Int, sink.get? name ≠ some (.int n)) ∧
          e.causeClass.aboutLine = false ∧ e.fromSwitch = false) := by
  cases length with
  | fixed count => exact Or.inl ⟨count, rfl, rfl⟩
  | takenFrom source =>
    have hask : Sink.ask sink source = sink.ask source := rfl
    have hnot : (∀ n : Int, sink.ask source ≠ .value (.int n)) →
        ∀ name, source = .text name → ∀ n : Int, sink.get? name ≠ some (.int n) := by
      rintro h name rfl n hg
      exact h n (Container.ask_text hg)
    simp only [resolveLength, hask]
    cases hv : sink.ask source with
    | value d =>
      cases d with
      | int n =>
        obtain ⟨name, rfl, hg⟩ := Container.text_of_ask hv
        by_cases hn : n < 0
        · exact Or.inr ⟨_, if_pos hn, Or.inl ⟨name, n, rfl, hn, hg, rfl⟩⟩
        · refine Or.inl ⟨n.toNat, if_neg hn, name, rfl, ?_⟩
          rw [hg, Int.toNat_of_nonneg (Int.not_lt.1 hn)]
      | _ => exact Or.inr ⟨_, rfl, Or.inr ⟨⟨source, rfl, hnot (by simp [hv])⟩, rfl, rfl⟩⟩
    | _ => exact Or.inr ⟨_, rfl, Or.inr ⟨⟨source, rfl, hnot (by simp [hv])⟩, rfl, rfl⟩⟩

/-! ## Single components -/

/-- the literal that is read is the first one declared that is a token of the line, or there is none on the line -/
theorem findLiteral?_cases (s : Selection) (c : Cursor) :
    (∃ l ∈ s.literals, ∃ before after, FirstAt l.token.chars c.line before after ∧
      findLiteral? s c = some (l, before.length)) ∨
      (findLiteral? s c = none ∧ ∀ l ∈ s.literals, l.token.chars ∉ tokens c.line) := by
  unfold findLiteral?
  cases h : s.literals.findSome? (fun l => (c.find? l.token.chars).map (fun start => (l, start))) with
  | none =>
    refine Or.inr ⟨rfl, fun l hl => ?_⟩
    have hn := List.findSome?_eq_none_iff.1 h l hl
    exact (labelOffset?_eq_none_iff (isToken_chars l.token) c.line).1 (by simpa [Cursor.find?] using hn)
  | some found =>
    obtain ⟨l, hl, hf⟩ := List.exists_of_findSome?_eq_some h
    cases hk : c.find? l.token.chars with
    | none => rw [hk] at hf; simp at hf
    | some k =>
      rw [hk] at hf
      obtain ⟨before, after, hat, rfl⟩ := firstAt_of_labelOffset? (isToken_chars l.token) hk
      exact Or.inl ⟨l, hl, before, after, hat, congrArg some (by simpa using hf.symm)⟩

/-- **A selection cuts one of its literals out and writes its value, or writes the default's value.** -/
theorem readSelection_cases (s : Selection) (c : Cursor) (sink : Container) :
    (∃ l ∈ s.literals, ∃ before after, FirstAt l.token.chars c.line before after ∧
      readSelection s c sink = write ⟨before ++ after, before.length⟩ sink s.info.name l.value.datum) ∨
      ((∀ l ∈ s.literals, l.token.chars ∉ tokens c.line) ∧
        readSelection s c sink = write c sink s.info.name s.default.value.datum) := by
  rcases findLiteral?_cases s c with ⟨l, hl, before, after, hat, hf⟩ | ⟨hf, habs⟩
  · refine Or.inl ⟨l, hl, before, after, hat, ?_⟩
    simp only [readSelection, hf, Cursor.removeAt_of_split hat.split]
  · refine Or.inr ⟨habs, ?_⟩
    simp only [readSelection, hf]

/-- a separator cuts its label out; without the label it goes to the end of the line, or fails -/
theorem readSeparator_cases (label : Token) (optional : Bool) (context : Datum) (c : Cursor) (sink : Container) :
    (∃ before after, FirstAt label.chars c.line before after ∧
      readSeparator label optional context c sink = ⟨⟨before ++ after, before.length⟩, sink, none⟩) ∨
      (label.chars ∉ tokens c.line ∧ readSeparator label optional context c sink =
        if optional then ⟨c.seekEnd, sink, none⟩
        else ⟨c, sink, some (.labelMissing label.text (.text label.text) context)⟩) := by
  cases hk : c.find? label.chars with
  | none =>
    refine Or.inr ⟨(labelOffset?_eq_none_iff (isToken_chars label) c.line).1 hk, ?_⟩
    have hfield : (if (Datum.text label.text).falsy then Datum.text (String.ofList label.chars)
        else .text label.text) = .text label.text := ite_self _
    simp only [readSeparator, Cursor.consumeLabel, hk, hfield]
    cases optional <;> rfl
  | some k =>
    obtain ⟨before, after, hat, rfl⟩ := firstAt_of_labelOffset? (isToken_chars label) hk
    refine Or.inl ⟨before, after, hat, ?_⟩
    simp only [readSeparator, Cursor.consumeLabel, hk, Cursor.removeAt_of_split hat.split]

theorem readNumbers_cases {length : Length} {sink : Container} {expected : Nat} (hasked : length.Counts sink expected)
    (info : Info) (default : Number) (kind : NumberKind) (context : Datum) (count : Nat) (c : Cursor) :
    (∃ e, (readNumbers info kind expected context count c).2 = .error e ∧
      e.OfLine (.vector info length default) context sink) ∨
      ∃ items, (readNumbers info kind expected context count c).2 = .ok items ∧ items.length ≤ count ∧
        ∀ item ∈ items, kind.valueKind.holds item = true := by
  have hvector : (Component.vector info length default).Asks sink expected := hasked
  induction count generalizing c with
  | zero => exact Or.inr ⟨[], rfl, Nat.le_refl 0, by simp⟩
  | succ count ih =>
    rw [readNumbers]
    rcases c.next with ⟨_ | token, after⟩
    · cases info.optional with
      | true => exact Or.inr ⟨[], rfl, Nat.zero_le _, by simp⟩
      | false => exact Or.inl ⟨_, rfl, .numberMissing expected hvector⟩
    · simp only
      cases hc : convert kind token info.label context (.int expected) info.optional with
      | error e => exact Or.inl ⟨e, rfl, ofLine_of_convert hvector hc⟩
      | ok n =>
        rcases ih after with ⟨e, he, hl⟩ | ⟨items, hi, hlen, hall⟩
        · exact Or.inl ⟨e, by simp [he, Except.map], hl⟩
        · refine Or.inr ⟨n.datum :: items, by simp [hi, Except.map], by simpa using hlen, fun item hm => ?_⟩
          rcases List.mem_cons.1 hm with rfl | hm
          · rw [← kind_of_convert hc]; exact holds_datum n
          · exact hall item hm

/-- numbers filled up with the default are as many as wanted, all of one kind -/
theorem fillUp_fits {count : Nat} {default : Number} {items : List Datum} (hlen : items.length ≤ count)
    (hall : ∀ item ∈ items, default.kind.valueKind.holds item = true) :
    ∃ all, fillUp count default items = .list all ∧ all.length = count ∧
      ∀ item ∈ all, default.kind.valueKind.holds item = true := by
  refine ⟨_, rfl, by simp; omega, fun item hm => ?_⟩
  rcases List.mem_append.1 hm with hm | hm
  · exact hall item hm
  · rw [List.eq_of_mem_replicate hm]; exact holds_datum default

/-- **Reading a component fails and leaves the container as it was, or adds the component's entry.** A failure is a
fault of the line, unless the component clashes with the container; it is never one that only a switch has. -/
theorem read_cases {x : Component} (hs : x.isSwitch = false) (hp : x.isProcessed = false)
    (context : Datum) (c : Cursor) (sink : Container) :
    (∃ e, (read context x c sink).error = some e ∧ (read context x c sink).sink = sink ∧
      (e.OfLine x context sink ∨ x.Clashes sink ∧ e.fromSwitch = false)) ∨
      ((read context x c sink).error = none ∧ x.Leaves sink (read context x c sink).sink) := by
  have hwrite : ∀ (after : Cursor) (value : Datum), x.writesKey = true → x.Fits sink value →
      (∃ e, (write after sink x.name value).error = some e ∧ (write after sink x.name value).sink = sink ∧
        (e.OfLine x context sink ∨ x.Clashes sink ∧ e.fromSwitch = false)) ∨
        ((write after sink x.name value).error = none ∧ x.Leaves sink (write after sink x.name value).sink) := by
    intro after value hw hf
    rcases write_leaves after value hw hf with ⟨e, he, hk, hc⟩ | h
    · exact Or.inl ⟨e, he, hk, Or.inr hc⟩
    · exact Or.inr h
  cases x with
  | separator label optional description =>
    rw [read]
    rcases readSeparator_cases label optional context c sink with ⟨before, after, -, h⟩ | ⟨-, h⟩ <;> rw [h]
    · exact Or.inr ⟨rfl, .nothing rfl⟩
    · cases optional with
      | true => exact Or.inr ⟨rfl, .nothing rfl⟩
      | false => exact Or.inl ⟨_, rfl, rfl, Or.inl .labelMissing⟩
  | scalar info default =>
    rw [read, readScalar]
    split
    · rename_i e he
      unfold takeToken at he
      split at he
      · rw [← Except.error.inj he]; exact Or.inl ⟨_, rfl, rfl, Or.inl .valueMissing⟩
      · simp at he
    · split
      · exact hwrite _ _ rfl (Scalar.holds_datum default)
      · refine Or.inl ⟨_, rfl, rfl, Or.inl ?_⟩
        cases default with
        | number n => exact .numberMissing 1 rfl
        | _ => exact .valueMissing
    · split
      · rename_i he
        exact Or.inl ⟨_, rfl, rfl, Or.inl (ofLine_of_convertScalar he sink)⟩
      · rename_i hv
        exact hwrite _ _ rfl (convertScalar_fits hv)
  | vector info length default =>
    rw [read, readVector]
    rcases resolveLength_cases length sink info.label context with ⟨count, hr, hcount⟩ | ⟨e, hr, he⟩ <;> rw [hr]
    · have hadmits : Sink.admits sink count = true := rfl
      simp only [hadmits, Bool.not_true, Bool.false_eq_true, if_false]
      have hnumbers := readNumbers_cases hcount info default default.kind context count c
      split
      · exact Or.inl ⟨_, rfl, rfl, Or.inl .valueMissing⟩
      · split
        · rename_i after e hn
          rcases hnumbers with ⟨e', he', hl⟩ | ⟨items, hi, -, -⟩
          · rw [hn] at he'; cases he'; exact Or.inl ⟨_, rfl, rfl, Or.inl hl⟩
          · rw [hn] at hi; simp at hi
        · rename_i after items hn
          rcases hnumbers with ⟨e', he', -⟩ | ⟨items', hi, hlen, hall⟩
          · rw [hn] at he'; simp at he'
          · rw [hn] at hi
            cases hi
            obtain ⟨all, ha, hal, hk⟩ := fillUp_fits hlen hall
            exact hwrite _ _ rfl ⟨all, ha, hk, by rw [hal]; exact hcount⟩
    · refine Or.inl ⟨e, rfl, rfl, ?_⟩
      rcases he with ⟨name, n, rfl, hneg, hheld, rfl⟩ | ⟨⟨source, rfl, hun⟩, -, hother⟩
      · exact Or.inl (.negativeLength hneg hheld)
      · exact Or.inr ⟨.unresolved info source default hun, hother⟩
  | selection s =>
    rw [read]
    rcases readSelection_cases s c sink with ⟨l, hl, before, after, -, h⟩ | ⟨-, h⟩ <;> rw [h]
    · exact hwrite _ _ rfl ⟨l, hl, rfl⟩
    · exact hwrite _ _ rfl ⟨s.default, s.default_mem, rfl⟩
  | switch s key choices => simp [Component.isSwitch] at hs
  | processed info insertion => simp [Component.isProcessed] at hp
  | unsupported info kind => exact Or.inl ⟨_, rfl, rfl, Or.inr ⟨.unsupported info kind, rfl⟩⟩

/-! ## A container only grows -/

theorem write_grows (c : Cursor) (sink : Container) (name : String) (value : Datum) :
    sink.entries <+: (write c sink name value).sink.entries := by
  rcases write_cases c sink name value with ⟨-, h⟩ | ⟨after, ha, h⟩
  · exact ⟨[], by rw [h, List.append_nil]⟩
  · exact ⟨[(name, value)], by rw [h, ha]⟩

theorem writeAll_grows (c : Cursor) (sink : Container) (entries : List (String × Datum)) :
    sink.entries <+: (writeAll c sink entries).sink.entries := by
  induction entries generalizing c sink with
  | nil => exact List.prefix_rfl
  | cons entry rest ih =>
    rw [writeAll]
    cases he : (write c sink entry.1 entry.2).error with
    | none =>
      rw [Outcome.andThen_of_none he]
      exact (write_grows ..).trans (ih _ _)
    | some e =>
      rw [Outcome.andThen_of_some he]
      exact write_grows ..

theorem Component.Leaves.grows {x : Component} {before after : Container} (h : x.Leaves before after) :
    before.entries <+: after.entries := by
  cases h with
  | nothing => exact List.prefix_rfl
  | entry value _ added => exact ⟨_, added.symm⟩

theorem readProcessed_grows (info : Info) (insertion : Insertion) (context : Datum) (c : Cursor) (sink : Container) :
    sink.entries <+: (readProcessed info insertion context c sink).sink.entries := by
  unfold readProcessed
  split
  · exact List.prefix_rfl
  · exact List.prefix_rfl
  · rename_i token after _
    have hg := writeAll_grows after sink (insertion token (Sink.get? sink)).1
    simp only
    cases he : (writeAll after sink (insertion token (Sink.get? sink)).1).error with
    | none => rw [Outcome.andThen_of_none he]; exact hg
    | some e => rw [Outcome.andThen_of_some he]; exact hg

/-- **Whatever a component does, entries that are there stay there.** -/
theorem read_grows {x : Component} (hs : x.isSwitch = false) (context : Datum) (c : Cursor) (sink : Container) :
    sink.entries <+: (read context x c sink).sink.entries := by
  cases hp : x.isProcessed with
  | true =>
    cases x with
    | processed info insertion => exact readProcessed_grows info insertion context c sink
    | _ => simp [Component.isProcessed] at hp
  | false =>
    rcases read_cases hs hp context c sink with ⟨-, -, h, -⟩ | ⟨-, h⟩
    · exact ⟨[], by rw [h, List.append_nil]⟩
    · exact h.grows

end LineGrammar
