/-
Fields read exactly the tokens after the cursor.

A field asks for a number of values, one or as many as its length says, and takes as many tokens from after the cursor,
wherever the cursor stands. The tokens it takes are cut out and nothing else (`Cursor.cut`); the cursor stays where it
was. A mandatory field wants all its tokens, an optional one fills up with its default what the line lacks. The first
token that does not convert ends the reading.
- `readNumbers_converted`, `readNumbers_faulty`: a row of numbers, by induction on how many.
- `read_converted`, `read_faulty`: one field whose tokens convert, or do not.
- `read_field`: all that a field does, from any cursor.
-/
import LineGrammar.Proofs.Cut
import LineGrammar.Proofs.Groups

namespace LineGrammar

/-! ## What a field asks for -/

namespace Field

/-- how many values the field asks for: one, or as many as its length says -/
def count (context : Datum) (sink : Container) : Field → Except ReadError Nat
  | .scalar _ _ => .ok 1
  | .vector info length _ => resolveLength length sink info.label context

/-- what a token is converted to, if so many values are asked for -/
def convert (context : Datum) (count : Nat) (token : List Char) : Field → Except ReadError Datum
  | .scalar info default => convertScalar default info context token
  | .vector info _ default =>
    (LineGrammar.convert default.kind token info.label context (.int count) info.optional).map Number.datum

def default : Field → Datum
  | .scalar _ default => default.datum
  | .vector _ _ default => default.datum

/-- the values as they are written: one as it is, those of a vector as a list -/
def stored (values : List Datum) : Field → Datum
  | .scalar _ default => values.headD default.datum
  | .vector .. => .list values

/-- the errors a token of the field can have -/
def faults : Field → List ErrorClass
  | .scalar _ (.text _) => []
  | .scalar _ (.flag _) => [.invalidBooleanLiteral]
  | .scalar _ (.number _) | .vector .. => [.malformedNumber, .trailingGarbage]

end Field

/-- An error that names the field and its section. -/
structure ReadError.Names (e : ReadError) (f : Field) (context : Datum) : Prop where
  field_eq : e.field = f.info.label
  context_eq : e.context = context

/-- the tokens convert to the values, one each -/
def Field.Converts (f : Field) (context : Datum) (count : Nat) (ts : List (List Char)) (values : List Datum) : Prop :=
  List.Forall₂ (fun t v => f.convert context count t = .ok v) ts values

section

variable {f : Field} {context : Datum} {count : Nat} {token : List Char} {ts : List (List Char)}

/-- tokens convert, or there is a first one among them that does not -/
theorem converts_or_faulty (f : Field) (context : Datum) (count : Nat) (ts : List (List Char)) :
    (∃ values, f.Converts context count ts values) ∨
      ∃ good t rest values e, ts = good ++ t :: rest ∧ f.Converts context count good values ∧
        f.convert context count t = .error e := by
  induction ts with
  | nil => exact Or.inl ⟨[], .nil⟩
  | cons t ts ih =>
    cases ht : f.convert context count t with
    | error e => exact Or.inr ⟨[], t, ts, [], e, rfl, .nil, ht⟩
    | ok v =>
      rcases ih with ⟨values, h⟩ | ⟨good, u, rest, values, e, rfl, hgood, hu⟩
      · exact Or.inl ⟨v :: values, .cons ht h⟩
      · exact Or.inr ⟨t :: good, u, rest, v :: values, e, rfl, .cons ht hgood, hu⟩

theorem converts_iff : (∃ values, f.Converts context count ts values) ↔
    ∀ t ∈ ts, ∃ v, f.convert context count t = .ok v := by
  constructor
  · rintro ⟨values, h⟩
    induction h with
    | nil => simp
    | cons hv _ ih => exact List.forall_mem_cons.2 ⟨⟨_, hv⟩, ih⟩
  · intro h
    rcases converts_or_faulty f context count ts with hvalues | ⟨good, t, rest, values, e, rfl, -, ht⟩
    · exact hvalues
    · obtain ⟨v, hv⟩ := h t (by simp)
      rw [ht] at hv
      cases hv

/-- the error of a token that is no number names the field and the token -/
theorem fault_of_convert {kind : NumberKind} {info : Info} {context expected : Datum} {e : ReadError}
    (hne : token ≠ []) (h : LineGrammar.convert kind token info.label context expected info.optional = .error e) :
    e.IsOf [.malformedNumber, .trailingGarbage] [context] ∧ e.field = info.label ∧ e.context = context ∧
      e.value? = some (.text (String.ofList token)) := by
  rcases error_of_convert h with ⟨hempty, -⟩ | rfl | ⟨rest, number, rfl⟩
  · exact absurd hempty hne
  · exact ⟨ReadError.isOf_of_shownData (by simp [ReadError.causeClass]) (by simp [ReadError.shownData, Info.label]), rfl,
      rfl, rfl⟩
  · exact ⟨ReadError.isOf_of_shownData (by simp [ReadError.causeClass]) (by simp [ReadError.shownData, Info.label]), rfl,
      rfl, rfl⟩

/-- **The error of a token is one of those of the field's kind,** and names the field, its section and the token. -/
theorem fault_of_field {e : ReadError} (hne : token ≠ []) (h : f.convert context count token = .error e) :
    e.IsOf f.faults [context] ∧ e.Names f context ∧ e.value? = some (.text (String.ofList token)) := by
  have hnumber : ∀ {kind : NumberKind} {info : Info} {expected : Datum},
      (convert kind token info.label context expected info.optional).map Number.datum = .error e →
        e.IsOf [.malformedNumber, .trailingGarbage] [context] ∧ e.field = info.label ∧ e.context = context ∧
          e.value? = some (.text (String.ofList token)) := by
    intro kind info expected h
    cases hc : convert kind token info.label context expected info.optional with
    | ok n => rw [hc] at h; cases h
    | error e' =>
      rw [hc] at h
      cases h
      exact fault_of_convert hne hc
  cases f with
  | vector info length default =>
    obtain ⟨hclass, hfield, hcontext, hvalue⟩ := hnumber h
    exact ⟨hclass, ⟨hfield, hcontext⟩, hvalue⟩
  | scalar info default =>
    cases default with
    | text t => cases h
    | number n =>
      obtain ⟨hclass, hfield, hcontext, hvalue⟩ := hnumber h
      exact ⟨hclass, ⟨hfield, hcontext⟩, hvalue⟩
    | flag b =>
      simp only [Field.convert, convertScalar] at h
      split at h
      · cases h
      · split at h
        · cases h
        · cases h
          refine ⟨ReadError.isOf_of_shownData (List.mem_singleton_self _) ?_, ⟨rfl, rfl⟩, rfl⟩
          simp [ReadError.shownData, Info.label]

end

/-! ## A row of numbers -/

section

variable {info : Info} {length : Length} {default : Number} {context : Datum} {expected count : Nat} {c : Cursor}
  {numbers : List Datum}

/-- the next token ahead is the next number, if it converts -/
theorem readNumbers_succ {t : List Char} {ts : List (List Char)} (hahead : c.ahead = t :: ts) :
    readNumbers info default.kind expected context (count + 1) c =
      match (Field.vector info length default).convert context expected t with
      | .error e => (c.cut 1, .error e)
      | .ok v =>
        ((readNumbers info default.kind expected context count (c.cut 1)).1,
          (readNumbers info default.kind expected context count (c.cut 1)).2.map (v :: ·)) := by
  rw [readNumbers, Cursor.next_eq, hahead, List.head?_cons, Field.convert]
  simp only
  cases convert default.kind t info.label context (.int expected) info.optional with
  | error e => rfl
  | ok n => rfl

theorem ahead_cut_one {t : List Char} {ts : List (List Char)} (hahead : c.ahead = t :: ts) : (c.cut 1).ahead = ts := by
  rw [Cursor.ahead_cut, hahead, List.drop_succ_cons, List.drop_zero]

/-- **A row of numbers is read from the tokens ahead,** as many as there are up to the number of those wanted. -/
theorem readNumbers_converted
    (h : (Field.vector info length default).Converts context expected (c.ahead.take count) numbers) :
    readNumbers info default.kind expected context count c =
      (c.cut (min count c.ahead.length), if info.optional || decide (count ≤ c.ahead.length) then .ok numbers
        else .error (.numberMissing info.label context (.int expected))) := by
  induction count generalizing c numbers with
  | zero =>
    cases h
    rw [readNumbers, Nat.zero_min, Cursor.cut_zero]
    simp
  | succ count ih =>
    cases hahead : c.ahead with
    | nil =>
      rw [hahead] at h
      cases h
      rw [readNumbers, Cursor.next_eq, Cursor.cut_of_ahead_nil hahead, Cursor.cut_of_ahead_nil hahead, hahead]
      simp
    | cons t ts =>
      rw [hahead, List.take_succ_cons] at h
      cases h with
      | cons ht hts =>
        have hrest := ahead_cut_one hahead
        rw [readNumbers_succ hahead, ht, ih (hrest.symm ▸ hts), hrest, Cursor.cut_cut, List.length_cons,
          Nat.succ_min_succ]
        simp only [Nat.succ_le_succ_iff]
        cases info.optional || decide (count ≤ ts.length) with
        | true => rfl
        | false => rfl

/-- **The first token that is no number ends the row.** -/
theorem readNumbers_faulty {good rest : List (List Char)} {t : List Char} {e : ReadError}
    (hsplit : c.ahead.take count = good ++ t :: rest)
    (hgood : (Field.vector info length default).Converts context expected good numbers)
    (ht : (Field.vector info length default).convert context expected t = .error e) :
    readNumbers info default.kind expected context count c = (c.cut (good.length + 1), .error e) := by
  induction count generalizing c good numbers with
  | zero => simp at hsplit
  | succ count ih =>
    cases hahead : c.ahead with
    | nil => simp [hahead] at hsplit
    | cons u ts =>
      rw [hahead, List.take_succ_cons] at hsplit
      rw [readNumbers_succ hahead]
      cases good with
      | nil =>
        obtain ⟨rfl, -⟩ := List.cons.inj hsplit
        rw [ht]
        rfl
      | cons first good =>
        obtain ⟨rfl, hrest⟩ := List.cons.inj hsplit
        cases hgood with
        | cons hv hvs =>
          have hafter : (c.cut 1).ahead.take count = good ++ t :: rest := by
            rw [ahead_cut_one hahead]
            exact hrest
          rw [hv, ih hafter hvs, Cursor.cut_cut]
          rfl

end

/-! ## One field -/

section

variable {f : Field} {context : Datum} {count : Nat} {c : Cursor} {sink : Container} {values : List Datum}

/-- the error of a value that is not there, whatever else can be shown -/
theorem isOf_valueMissing (info : Info) (context more : Datum) : (ReadError.valueMissing info.label context).IsOf
    [.requiredFieldMissing, .missingRequiredValue] [context, more] := by
  refine ReadError.isOf_of_shownData (by simp [ReadError.causeClass]) ?_
  simp [ReadError.shownData, Info.label]

/-- the error of numbers that are not there says how many there should be -/
theorem isOf_numberMissing (info : Info) (context : Datum) (count : Nat) :
    (ReadError.numberMissing info.label context (.int count)).IsOf [.requiredFieldMissing, .missingRequiredValue]
      [context, .int count] := by
  refine ReadError.isOf_of_shownData (by simp [ReadError.causeClass]) ?_
  simp [ReadError.shownData, Info.label]

/-- a mandatory field of one token that finds none -/
theorem readScalar_lacking {info : Info} (default : Scalar) (hahead : c.ahead = []) (ho : info.optional = false) :
    ∃ e, readScalar info default context c sink = ⟨c, sink, some e⟩ ∧
      e.IsOf [.requiredFieldMissing, .missingRequiredValue] [context, .int 1] ∧ e.field = info.label ∧
      e.context = context := by
  cases hend : c.atEnd with
  | true =>
    refine ⟨.valueMissing info.label context, ?_, isOf_valueMissing info context _, rfl, rfl⟩
    simp [readScalar, takeToken, hend, ho]
  | false =>
    refine ⟨missingScalar default info context, ?_, ?_, ?_, ?_⟩
    · simp [readScalar, takeToken, hend, ho, Cursor.next_eq, hahead, Cursor.cut_of_ahead_nil hahead]
    · cases default with
      | number n => exact isOf_numberMissing info context 1
      | _ => exact isOf_valueMissing info context _
    all_goals
      cases default <;> simp [missingScalar, ReadError.field, ReadError.context]

theorem atEnd_of_ahead {t : List Char} {ts : List (List Char)} (hahead : c.ahead = t :: ts) : c.atEnd = false := by
  by_contra hend
  rw [Cursor.ahead_of_atEnd (by simpa using hend)] at hahead
  cases hahead

/-- a field of one token that finds one -/
theorem readScalar_ahead (info : Info) (default : Scalar) {t : List Char} {ts : List (List Char)}
    (hahead : c.ahead = t :: ts) :
    readScalar info default context c sink =
      match convertScalar default info context t with
      | .error e => ⟨c.cut 1, sink, some e⟩
      | .ok v => write (c.cut 1) sink info.name v := by
  rw [readScalar, takeToken, atEnd_of_ahead hahead, Cursor.next_eq, hahead]
  rfl

/-- a vector of known length, unless it is mandatory and at the end of the line -/
theorem readVector_ahead {info : Info} {length : Length} (default : Number)
    (hcount : resolveLength length sink info.label context = .ok count)
    (hgo : count = 0 ∨ c.atEnd = false ∨ info.optional = true) :
    readVector info length default context c sink =
      match readNumbers info default.kind count context count c with
      | (after, .error e) => ⟨after, sink, some e⟩
      | (after, .ok numbers) => write after sink info.name (fillUp count default numbers) := by
  have hadmits : ¬ (!Sink.admits sink count) = true := Bool.false_ne_true
  have hlack : ¬ (count != 0 && c.atEnd && !info.optional) = true := by
    rcases hgo with hzero | hend | ho
    · simp [hzero]
    · simp [hend]
    · simp [ho]
  rw [readVector, hcount]
  exact (if_neg hadmits).trans (if_neg hlack)

/-- **A field whose tokens convert** writes their values, with its default for the tokens that the line lacks. -/
theorem read_converted (hcount : f.count context sink = .ok count)
    (h : f.Converts context count (c.ahead.take count) values)
    (henough : f.info.optional = true ∨ count ≤ c.ahead.length) :
    read context f.component c sink = write (c.cut (min count c.ahead.length)) sink f.info.name
      (f.stored (values ++ List.replicate (count - c.ahead.length) f.default)) := by
  cases f with
  | scalar info default =>
    cases hcount
    rw [Field.component, read]
    cases hahead : c.ahead with
    | nil =>
      rw [hahead] at h henough
      cases h
      have ho : info.optional = true := henough.resolve_right (by simp)
      simp only [readScalar, takeToken, ho, Bool.not_true, Bool.and_false, Bool.false_eq_true, if_false,
        Cursor.next_eq, hahead, List.head?_nil, if_true, Cursor.cut_of_ahead_nil hahead]
      rfl
    | cons t ts =>
      rw [hahead] at h
      cases h with
      | cons hv hvs =>
        cases hvs
        rw [Field.convert] at hv
        have hone : min 1 (t :: ts).length = 1 := Nat.min_eq_left (Nat.le_add_left 1 ts.length)
        rw [readScalar_ahead info default hahead, hv, hone]
        rfl
  | vector info length default =>
    have hlength : values.length = min count c.ahead.length := by
      rw [← h.length_eq, List.length_take]
    have hgo : count = 0 ∨ c.atEnd = false ∨ info.optional = true := by
      rcases henough with ho | hle
      · exact Or.inr (Or.inr ho)
      · cases hahead : c.ahead with
        | nil =>
          rw [hahead] at hle
          exact Or.inl (Nat.le_zero.1 hle)
        | cons t ts => exact Or.inr (Or.inl (atEnd_of_ahead hahead))
    have hfine : (info.optional || decide (count ≤ c.ahead.length)) = true := by
      simpa [Field.info] using henough
    have hfill : fillUp count default values =
        .list (values ++ List.replicate (count - c.ahead.length) default.datum) := by
      have hrest : count - values.length = count - c.ahead.length := by omega
      rw [fillUp, hrest]
    rw [Field.component, read, readVector_ahead default hcount hgo, readNumbers_converted h, if_pos hfine]
    simp only [hfill]
    rfl

/-- **A mandatory field whose tokens convert, but are too few,** reports that one is missing. -/
theorem read_lacking (hcount : f.count context sink = .ok count)
    (h : f.Converts context count (c.ahead.take count) values) (hmandatory : f.info.optional = false)
    (hfew : c.ahead.length < count) :
    ∃ e, read context f.component c sink = ⟨c.cut c.ahead.length, sink, some e⟩ ∧
      e.IsOf [.requiredFieldMissing, .missingRequiredValue] [context, .int count] ∧ e.Names f context := by
  cases f with
  | scalar info default =>
    cases hcount
    have hahead : c.ahead = [] := List.length_eq_zero_iff.1 (Nat.lt_one_iff.1 hfew)
    obtain ⟨e, hread, hclass, hfield, hcontext⟩ := readScalar_lacking default hahead hmandatory
    refine ⟨e, ?_, hclass, hfield, hcontext⟩
    rw [Cursor.cut_of_ahead_nil hahead]
    exact hread
  | vector info length default =>
    have ho : info.optional = false := hmandatory
    cases hend : c.atEnd with
    | true =>
      have hahead := Cursor.ahead_of_atEnd hend
      have hsome : (count != 0) = true := by
        rw [bne_iff_ne]
        omega
      have hresolved : resolveLength length sink info.label context = .ok count := hcount
      have hadmits : Sink.admits sink count = true := rfl
      refine ⟨.valueMissing info.label context, ?_, isOf_valueMissing info context _, rfl, rfl⟩
      rw [Cursor.cut_of_ahead_nil hahead]
      simp [Field.component, read, readVector, hresolved, hadmits, hsome, hend, ho]
    | false =>
      have hlack : ¬ (info.optional || decide (count ≤ c.ahead.length)) = true := by
        simp [ho, Nat.not_le.2 hfew]
      refine ⟨.numberMissing info.label context (.int count), ?_, isOf_numberMissing info context count, rfl, rfl⟩
      rw [Field.component, read, readVector_ahead default hcount (Or.inr (Or.inl hend)), readNumbers_converted h,
        if_neg hlack, Nat.min_eq_right (Nat.le_of_lt hfew)]

/-- **A field with a token that does not convert** reports it, and leaves the tokens behind it. -/
theorem read_faulty (hcount : f.count context sink = .ok count) {good rest : List (List Char)} {t : List Char}
    {e : ReadError} (hsplit : c.ahead.take count = good ++ t :: rest) (hgood : f.Converts context count good values)
    (ht : f.convert context count t = .error e) :
    read context f.component c sink = ⟨c.cut (good.length + 1), sink, some e⟩ := by
  cases hahead : c.ahead with
  | nil => simp [hahead] at hsplit
  | cons u us =>
    cases f with
    | scalar info default =>
      cases hcount
      rw [hahead] at hsplit
      cases good with
      | nil =>
        obtain ⟨rfl, -⟩ := List.cons.inj hsplit
        rw [Field.convert] at ht
        rw [Field.component, read, readScalar_ahead info default hahead, ht]
        rfl
      | cons first good =>
        -- one token is all that such a field reads
        obtain ⟨-, hnil⟩ := List.cons.inj hsplit
        simp at hnil
    | vector info length default =>
      have hgo : count = 0 ∨ c.atEnd = false ∨ info.optional = true := Or.inr (Or.inl (atEnd_of_ahead hahead))
      rw [Field.component, read, readVector_ahead default hcount hgo, readNumbers_faulty hsplit hgood ht]

/-- a field that goes well finds tokens that convert, and enough of them unless it is optional -/
theorem values_of_fine (hcount : f.count context sink = .ok count)
    (hfine : (read context f.component c sink).error = none) :
    (f.info.optional = true ∨ count ≤ c.ahead.length) ∧
      ∃ values, f.Converts context count (c.ahead.take count) values := by
  rcases converts_or_faulty f context count (c.ahead.take count) with
    ⟨values, h⟩ | ⟨good, t, rest, _, e, hsplit, hgood, ht⟩
  · refine ⟨?_, values, h⟩
    by_contra hlack
    obtain ⟨hmandatory, hfew⟩ := not_or.1 hlack
    obtain ⟨e, hread, -⟩ := read_lacking hcount h (by simpa using hmandatory) (Nat.not_le.1 hfew)
    rw [hread] at hfine
    cases hfine
  · rw [read_faulty hcount hsplit hgood ht] at hfine
    cases hfine

/-- a field whose name is free goes well exactly if its tokens convert, and are enough unless it is optional -/
theorem read_fine_iff (hcount : f.count context sink = .ok count) (hfree : f.info.name ∉ sink.names) :
    (read context f.component c sink).error = none ↔
      (f.info.optional = true ∨ count ≤ c.ahead.length) ∧
        ∀ t ∈ c.ahead.take count, ∃ v, f.convert context count t = .ok v := by
  rw [← converts_iff]
  refine ⟨values_of_fine hcount, ?_⟩
  rintro ⟨henough, values, h⟩
  rw [read_converted hcount h henough]
  obtain ⟨after, -, hwrite⟩ := write_of_free (c.cut (min count c.ahead.length))
    (f.stored (values ++ List.replicate (count - c.ahead.length) f.default)) hfree
  rw [hwrite]

/-- a field that goes well has written the values of its tokens, and its default for those that the line lacks -/
theorem read_writes (hcount : f.count context sink = .ok count)
    (hfine : (read context f.component c sink).error = none) :
    ∃ values, f.Converts context count (c.ahead.take count) values ∧
      (read context f.component c sink).cursor = c.cut (min count c.ahead.length) ∧
      (read context f.component c sink).sink.entries = sink.entries ++
        [(f.info.name, f.stored (values ++ List.replicate (count - c.ahead.length) f.default))] := by
  obtain ⟨henough, values, h⟩ := values_of_fine hcount hfine
  refine ⟨values, h, ?_⟩
  rw [read_converted hcount h henough] at hfine ⊢
  rcases write_cases (c.cut (min count c.ahead.length)) sink f.info.name
    (f.stored (values ++ List.replicate (count - c.ahead.length) f.default)) with ⟨-, hwrite⟩ | ⟨after, hafter, hwrite⟩
  · rw [hwrite] at hfine
    cases hfine
  · rw [hwrite]
    exact ⟨rfl, hafter⟩

end

/-- What a field does with the tokens ahead of the cursor, `count` values being asked for. An error is of the class that
its cause is of if the section can be shown, and the count where it says how many values there should be. -/
structure Field.Contract (f : Field) (context : Datum) (count : Nat) (c : Cursor) (sink : Container)
    (o : Outcome Container) : Prop where
  /-- a mandatory field goes well exactly if all its tokens are there and convert -/
  mandatory_iff : f.info.optional = false → (o.error = none ↔
    count ≤ c.ahead.length ∧ ∀ t ∈ c.ahead.take count, ∃ v, f.convert context count t = .ok v)
  /-- then it has cut them out and written what they convert to -/
  mandatory_writes : f.info.optional = false → o.error = none →
    ∃ values, f.Converts context count (c.ahead.take count) values ∧ o.cursor = c.cut count ∧
      o.sink.entries = sink.entries ++ [(f.info.name, f.stored values)]
  /-- tokens that convert but are too few are reported as missing -/
  mandatory_lacks : f.info.optional = false → c.ahead.length < count →
    (∀ t ∈ c.ahead, ∃ v, f.convert context count t = .ok v) →
      ∃ e, o = ⟨c.cut c.ahead.length, sink, some e⟩ ∧
        e.IsOf [.requiredFieldMissing, .missingRequiredValue] [context, .int count] ∧ e.Names f context
  /-- an optional field goes well exactly if the tokens that are there convert, up to those it asks for -/
  optional_iff : f.info.optional = true → (o.error = none ↔
    ∀ t ∈ c.ahead.take (min count c.ahead.length), ∃ v, f.convert context count t = .ok v)
  /-- then it has cut them out and written what they convert to, with its default in the places that are left -/
  optional_writes : f.info.optional = true → o.error = none →
    ∃ values, f.Converts context count (c.ahead.take (min count c.ahead.length)) values ∧
      o.cursor = c.cut (min count c.ahead.length) ∧
      o.sink.entries = sink.entries ++ [(f.info.name,
        f.stored (values ++ List.replicate (count - min count c.ahead.length) f.default))]
  /-- the first token to be read that does not convert is reported; nothing is written -/
  faulty : ∀ good t rest e, c.ahead.take count = good ++ t :: rest →
    (∀ u ∈ good, ∃ v, f.convert context count u = .ok v) → f.convert context count t = .error e →
      o = ⟨c.cut (good.length + 1), sink, some e⟩ ∧ e.IsOf f.faults [context] ∧ e.Names f context ∧
        e.value? = some (.text (String.ofList t))

/-- three numbers that may be left out -/
def onOff : Field :=
  .vector ⟨"ONOFF", true, .text ""⟩ (.fixed 3) (.int 7)

/-- what reading them from within a token ends in -/
def onOffOutcome : Outcome Container :=
  read (.text "DESIGN") onOff.component ⟨"x12  4 ".toList, 1⟩ Container.empty

end LineGrammar
