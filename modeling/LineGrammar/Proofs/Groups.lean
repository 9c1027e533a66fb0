/-
Labelled groups in any order.

A grammar of labelled groups finds each group by its label, wherever on the line it stands. Take a line that is put
together from chunks, one for each group: the label with as many tokens behind it as the fields of the group want, or
nothing if the whole group is optional. Reading it goes in the order of the grammar, and every field gets the tokens of
its own chunk. So the order of the chunks does not count: it changes neither the entries nor the error.
- `fill`: what is written when every field takes its own tokens, whatever stands around them.
- `read_given`: the step, one field; `readAll_given`: the fields of one group, by induction on them.
- `readAll_chunks`: all groups, by induction in the order of the grammar; what is left of the line may be in any order.
- `read_groups_in_any_order`: whole lines.
-/
import LineGrammar.Proofs.Anchor
import LineGrammar.Proofs.Route
import LineGrammar.Proofs.Verdict

namespace LineGrammar

/-! ## Groups and chunks -/

/-- A field behind a label: one value, or a vector of numbers. -/
inductive Field where
  | scalar (info : Info) (default : Scalar)
  | vector (info : Info) (length : Length) (default : Number)

namespace Field

def info : Field → Info
  | .scalar info _ | .vector info _ _ => info

def component : Field → Component
  | .scalar info default => .scalar info default
  | .vector info length default => .vector info length default

end Field

/-- A label with the fields behind it. -/
structure Group where
  label : Token
  optional : Bool
  description : Datum
  fields : List Field

namespace Group

def components (g : Group) : List Component :=
  .separator g.label g.optional g.description :: g.fields.map Field.component

/-- whether the group may be left out as a whole -/
def omissible (g : Group) : Bool :=
  g.optional && g.fields.all (fun f => f.info.optional)

end Group

/-- A field with the tokens that a line has for it, or with nothing where its group is left out. -/
structure Given where
  field : Field
  tokens? : Option (List (List Char))

/-- What a line has of a group: the tokens for each of its fields, or nothing at all. -/
structure Chunk where
  group : Group
  parts? : Option (List (List (List Char)))
  fits : ∀ parts ∈ parts?, parts.length = group.fields.length
  complete : parts? = none → group.omissible = true

namespace Chunk

/-- the fields of the group with their tokens -/
def given (c : Chunk) : List Given :=
  match c.parts? with
  | none => c.group.fields.map (fun f => ⟨f, none⟩)
  | some parts => c.group.fields.zipWith (fun f ts => ⟨f, some ts⟩) parts

/-- the chunk as it stands on the line -/
def tokens (c : Chunk) : List (List Char) :=
  match c.parts? with
  | none => []
  | some parts => c.group.label.chars :: parts.flatten

end Chunk

/-! ## How many tokens a field wants -/

/-- the integer that a token is written for -/
def denotedInt? (token : List Char) : Option Int :=
  match leadingInt token with
  | .ok r => if r.length == token.length then some r.value else none
  | .error _ => none

namespace Given

/-- the tokens of the field, none where its group is left out -/
def all (g : Given) : List (List Char) :=
  g.tokens?.getD []

/-- the integer that the field stands for: the one its token denotes, or its default where its group is left out -/
def stated? (g : Given) : Option Int :=
  match g.field, g.tokens? with
  | .scalar _ (.number (.int _)), some [token] => denotedInt? token
  | .scalar _ (.number (.int default)), none => some default
  | _, _ => none

end Given

/-- The field wants so many tokens: one for a value, and for a vector as many as its length says. A length that is taken
from a field is the integer which that field stands for; if there is none, or a negative one, any number will do. -/
def Field.Wants (others : List Given) (count : Nat) : Field → Prop
  | .scalar _ _ => count = 1
  | .vector _ (.fixed fixed) _ => count = fixed
  | .vector _ (.takenFrom source) _ =>
    ∀ other ∈ others, isAmong [other.field.info.name] source = true → ∀ n ∈ other.stated?, 0 ≤ n → count = n.toNat

instance (others : List Given) (count : Nat) : (f : Field) → Decidable (f.Wants others count)
  | .scalar _ _ => inferInstanceAs (Decidable (count = 1))
  | .vector _ (.fixed fixed) _ => inferInstanceAs (Decidable (count = fixed))
  | .vector _ (.takenFrom source) _ => inferInstanceAs (Decidable (∀ other ∈ others,
      isAmong [other.field.info.name] source = true → ∀ n ∈ other.stated?, 0 ≤ n → count = n.toNat))

/-- A line of a definition that is a sequence of groups: one chunk for each group, here in the order of the grammar. The
labels are distinct, no value is one of them, and every field has exactly the tokens it wants. -/
structure Layout (d : LineDefinition) where
  chunks : List Chunk
  components_eq : d.components = chunks.flatMap (fun c => c.group.components)
  labels_nodup : (chunks.map (fun c => c.group.label)).Nodup
  apart : ∀ c ∈ chunks, ∀ parts ∈ c.parts?, ∀ t ∈ parts.flatten, ∀ other ∈ chunks, t ≠ other.group.label.chars
  exact : ∀ g ∈ chunks.flatMap Chunk.given, ∀ ts ∈ g.tokens?, g.field.Wants (chunks.flatMap Chunk.given) ts.length

/-! ## What the fields stand for -/

namespace Given

/-- the value of the field: what its own tokens stand for, or its default where its group is left out -/
def value (context : Datum) (sink : Container) (g : Given) : Except ReadError Datum :=
  match g.field with
  | .scalar info default =>
    match g.tokens? with
    | some (token :: _) => convertScalar default info context token
    | _ => .ok default.datum
  | .vector info length default =>
    match resolveLength length sink info.label context with
    | .error e => .error e
    | .ok count =>
      match g.tokens? with
      | none => .ok (.list (List.replicate count default.datum))
      | some ts =>
        (ts.mapM (fun t => convert default.kind t info.label context (.int count) info.optional)).map
          (fun numbers => .list (numbers.map Number.datum))

end Given

/-- what is written when every field takes its own tokens, in the order of the fields, up to the first error -/
def fill (context : Datum) : List Given → Container → Container × Option ReadError
  | [], sink => (sink, none)
  | g :: rest, sink =>
    match g.value context sink with
    | .error e => (sink, some e)
    | .ok value =>
      match sink.insert? g.field.info.name value with
      | none => (sink, some (.duplicateKey g.field.info.name))
      | some written => fill context rest written

section

variable {context : Datum} {g : Given} {rest : List Given} {sink written : Container} {value : Datum} {e : ReadError}

theorem fill_cons_of_error (h : g.value context sink = .error e) : fill context (g :: rest) sink = (sink, some e) := by
  simp only [fill, h]

theorem fill_cons_of_taken (h : g.value context sink = .ok value) (hw : sink.insert? g.field.info.name value = none) :
    fill context (g :: rest) sink = (sink, some (.duplicateKey g.field.info.name)) := by
  simp only [fill, h, hw]

theorem fill_cons_of_written (h : g.value context sink = .ok value)
    (hw : sink.insert? g.field.info.name value = some written) :
    fill context (g :: rest) sink = fill context rest written := by
  simp only [fill, h, hw]

end

theorem fill_append (context : Datum) (a b : List Given) (sink : Container) :
    fill context (a ++ b) sink =
      match (fill context a sink).2 with
      | none => fill context b (fill context a sink).1
      | some _ => fill context a sink := by
  induction a generalizing sink with
  | nil => rfl
  | cons g a ih =>
    rw [List.cons_append]
    cases hv : g.value context sink with
    | error e => rw [fill_cons_of_error hv, fill_cons_of_error hv]
    | ok value =>
      cases hw : sink.insert? g.field.info.name value with
      | none => rw [fill_cons_of_taken hv hw, fill_cons_of_taken hv hw]
      | some written => rw [fill_cons_of_written hv hw, fill_cons_of_written hv hw, ih]

/-! ## One field -/

/-- the field has just as many tokens as it will take from the line, given what is written before it -/
def Given.Takes (context : Datum) (sink : Container) (g : Given) : Prop :=
  ∀ ts ∈ g.tokens?, match g.field with
    | .scalar _ _ => ts.length = 1
    | .vector info length _ => ∀ n, resolveLength length sink info.label context = .ok n → ts.length = n

/-- a field has failed with its fault, or has written its value and left the given tokens -/
def Fulfils (value : Except ReadError Datum) (name : String) (sink : Container) (bs as : List (List Char))
    (o : Outcome Container) : Prop :=
  match value with
  | .error e => o.sink = sink ∧ o.error = some e
  | .ok d => ∃ after : Cursor, after.Stands bs as ∧ o = write after sink name d

section

variable {c : Cursor} {bs as : List (List Char)} (context : Datum) (sink : Container)

/-- a vector that wants all the tokens given converts each of them, and leaves the ones behind them -/
theorem numbersAhead_append (info : Info) (kind : NumberKind) (expected : Nat) (ts as : List (List Char)) :
    match ts.mapM (fun t => convert kind t info.label context (.int expected) info.optional) with
    | .ok numbers => numbersAhead info kind expected context ts.length (ts ++ as) = (as, .ok (numbers.map Number.datum))
    | .error e => (numbersAhead info kind expected context ts.length (ts ++ as)).2 = .error e := by
  induction ts with
  | nil => rfl
  | cons t ts ih =>
    rw [List.mapM_cons]
    simp only [List.length_cons, List.cons_append, numbersAhead]
    cases convert kind t info.label context (.int expected) info.optional with
    | error e => rfl
    | ok n =>
      cases hrest : ts.mapM (fun t => convert kind t info.label context (.int expected) info.optional) with
      | error e =>
        rw [hrest] at ih
        simp only [bind, Except.bind, ih, Except.map]
      | ok numbers =>
        rw [hrest] at ih
        simp only [bind, Except.bind, pure, Except.pure, ih, Except.map, List.map_cons]

theorem readScalar_given (info : Info) (default : Scalar) {token : List Char} (h : c.Stands bs (token :: as)) :
    Fulfils (convertScalar default info context token) info.name sink bs as
      (readScalar info default context c sink) := by
  obtain ⟨after, hafter, -, hread⟩ := readScalar_of_token context sink info default h
  rw [hread]
  cases convertScalar default info context token with
  | error e => exact ⟨rfl, rfl⟩
  | ok value => exact ⟨after, hafter, rfl⟩

theorem readVector_given (info : Info) (length : Length) (default : Number) {ts : List (List Char)}
    (h : c.Stands bs (ts ++ as)) (htakes : Given.Takes context sink ⟨.vector info length default, some ts⟩) :
    Fulfils (Given.value context sink ⟨.vector info length default, some ts⟩) info.name sink bs as
      (readVector info length default context c sink) := by
  cases hcount : resolveLength length sink info.label context with
  | error e =>
    simp only [Given.value, readVector, hcount]
    exact ⟨rfl, rfl⟩
  | ok count =>
    have hlen : ts.length = count := htakes ts rfl count hcount
    rcases readVector_stands context sink default h hcount with ⟨after, hafter, -, hread⟩ | ⟨hnil, hne, -, -⟩
    · have hnumbers := numbersAhead_append context info default.kind count ts as
      rw [hlen] at hnumbers
      rw [hread]
      cases hm : ts.mapM (fun t => convert default.kind t info.label context (.int count) info.optional) with
      | error e =>
        rw [hm] at hnumbers
        simp only [Given.value, hcount, hm, hnumbers]
        exact ⟨rfl, rfl⟩
      | ok numbers =>
        rw [hm] at hnumbers
        rw [hnumbers] at hafter
        have hall : (numbers.map Number.datum).length = count := by
          rw [List.length_map, ← (forall₂_of_mapM hm).length_eq, hlen]
        have hfill : fillUp count default (numbers.map Number.datum) = .list (numbers.map Number.datum) := by
          simp [fillUp, ← hall]
        simp only [Given.value, hcount, hm, hnumbers, hfill]
        exact ⟨after, hafter, rfl⟩
    · refine absurd ?_ hne
      rw [← hlen, (List.append_eq_nil_iff.1 hnil).1, List.length_nil]

/-- an optional vector that finds no tokens -/
theorem readVector_left_out {info : Info} (length : Length) (default : Number) (h : c.Stands bs [])
    (ho : info.optional = true) :
    Fulfils (Given.value context sink ⟨.vector info length default, none⟩) info.name sink bs []
      (readVector info length default context c sink) := by
  cases hcount : resolveLength length sink info.label context with
  | error e =>
    simp only [Given.value, readVector, hcount]
    exact ⟨rfl, rfl⟩
  | ok count =>
    have hnone : numbersAhead info default.kind count context count [] = ([], .ok []) := by
      cases count with
      | zero => rfl
      | succ count => simp [numbersAhead, ho]
    rcases readVector_stands context sink default h hcount with ⟨after, hafter, -, hread⟩ | ⟨-, -, hmandatory, -⟩
    · rw [hnone] at hafter hread
      rw [hread]
      simp only [Given.value, hcount]
      exact ⟨after, hafter, by simp [fillUp]⟩
    · rw [ho] at hmandatory
      simp at hmandatory

/-- **A field reads its own tokens,** or nothing where nothing is left for a field that may be left out. -/
theorem read_given {g : Given} (h : c.Stands bs (g.all ++ as)) (htakes : g.Takes context sink)
    (hleft : g.tokens? = none → g.field.info.optional = true ∧ as = []) :
    Fulfils (g.value context sink) g.field.info.name sink bs as (read context g.field.component c sink) := by
  obtain ⟨field, given⟩ := g
  cases given with
  | none =>
    obtain ⟨ho, rfl⟩ := hleft rfl
    cases field with
    | scalar info default =>
      refine ⟨c, h, ?_⟩
      have hread := readScalar_of_none context sink info default h
      rwa [if_pos (show info.optional = true from ho)] at hread
    | vector info length default => exact readVector_left_out context sink length default h ho
  | some ts =>
    cases field with
    | scalar info default =>
      obtain ⟨token, rfl⟩ := List.length_eq_one_iff.1 (htakes ts rfl)
      exact readScalar_given context sink info default h
    | vector info length default => exact readVector_given context sink info length default h htakes

/-! ## The fields of one group -/

/-- **The fields of a group read their own tokens one after the other,** and leave the tokens around them. -/
theorem readAll_given {gs : List Given} (h : c.Stands bs (gs.flatMap Given.all ++ as))
    (hleft : ∀ g ∈ gs, g.tokens? = none → g.field.info.optional = true ∧ gs.flatMap Given.all ++ as = [])
    (htakes : ∀ done g rest, gs = done ++ g :: rest → (fill context done sink).2 = none →
      g.Takes context (fill context done sink).1) :
    ((readAll context (gs.map (fun g => g.field.component)) c sink).sink,
        (readAll context (gs.map (fun g => g.field.component)) c sink).error) = fill context gs sink ∧
      ((fill context gs sink).2 = none →
        (readAll context (gs.map (fun g => g.field.component)) c sink).cursor.Stands bs as) := by
  induction gs generalizing c sink with
  | nil => exact ⟨rfl, fun _ => h⟩
  | cons g gs ih =>
    rw [List.flatMap_cons, List.append_assoc] at h
    have hstep : Fulfils (g.value context sink) g.field.info.name sink bs (gs.flatMap Given.all ++ as)
        (read context g.field.component c sink) := by
      refine read_given context sink h (htakes [] g gs rfl rfl) (fun hn => ?_)
      obtain ⟨ho, hnil⟩ := hleft g List.mem_cons_self hn
      rw [List.flatMap_cons, List.append_assoc] at hnil
      exact ⟨ho, (List.append_eq_nil_iff.1 hnil).2⟩
    rw [List.map_cons, readAll]
    cases hv : g.value context sink with
    | error e =>
      rw [hv] at hstep
      obtain ⟨hsink, herror⟩ := hstep
      rw [Outcome.andThen_of_some herror, hsink, herror, fill_cons_of_error hv]
      exact ⟨rfl, fun hn => by simp at hn⟩
    | ok value =>
      rw [hv] at hstep
      obtain ⟨after, hafter, hread⟩ := hstep
      rw [hread]
      cases hw : sink.insert? g.field.info.name value with
      | none =>
        have hwrite : write after sink g.field.info.name value =
            ⟨after, sink, some (.duplicateKey g.field.info.name)⟩ := by
          simp only [write, Sink.insert?, hw]
        rw [hwrite, Outcome.andThen_of_some rfl, fill_cons_of_taken hv hw]
        exact ⟨rfl, fun hn => by simp at hn⟩
      | some written =>
        have hwrite : write after sink g.field.info.name value = ⟨after, written, none⟩ := by
          simp only [write, Sink.insert?, hw]
        rw [hwrite, Outcome.andThen_of_none rfl, fill_cons_of_written hv hw]
        refine ih written hafter (fun g' hg' hn => ?_) (fun done g' rest hsplit hfine => ?_)
        · obtain ⟨ho, hnil⟩ := hleft g' (List.mem_cons_of_mem g hg') hn
          rw [List.flatMap_cons, List.append_assoc] at hnil
          exact ⟨ho, (List.append_eq_nil_iff.1 hnil).2⟩
        · have hdone : fill context (g :: done) sink = fill context done written := fill_cons_of_written hv hw
          rw [← hdone] at hfine ⊢
          exact htakes (g :: done) g' rest (by rw [hsplit]; rfl) hfine

/-! ## One chunk -/

theorem zipWith_given {fields : List Field} {parts : List (List (List Char))} (h : parts.length = fields.length) :
    (fields.zipWith (fun f ts => (⟨f, some ts⟩ : Given)) parts).map Given.field = fields ∧
      (fields.zipWith (fun f ts => (⟨f, some ts⟩ : Given)) parts).flatMap Given.all = parts.flatten := by
  induction fields generalizing parts with
  | nil =>
    rw [List.length_nil] at h
    rw [List.eq_nil_of_length_eq_zero h]
    exact ⟨rfl, rfl⟩
  | cons f fields ih =>
    cases parts with
    | nil => simp at h
    | cons ts parts =>
      obtain ⟨hfields, hparts⟩ := ih (by simpa using h)
      rw [List.zipWith_cons_cons, List.map_cons, hfields, List.flatMap_cons, hparts, List.flatten_cons]
      exact ⟨rfl, rfl⟩

namespace Chunk

theorem map_field_given (k : Chunk) : k.given.map Given.field = k.group.fields := by
  unfold given
  cases hp : k.parts? with
  | none => simp [Function.comp_def]
  | some parts => exact (zipWith_given (k.fits parts hp)).1

theorem components_eq (k : Chunk) : k.group.components =
    .separator k.group.label k.group.optional k.group.description :: k.given.map (fun g => g.field.component) := by
  rw [Group.components, ← k.map_field_given, List.map_map]
  rfl

theorem tokens_of_some {k : Chunk} {parts : List (List (List Char))} (h : k.parts? = some parts) :
    k.tokens = k.group.label.chars :: k.given.flatMap Given.all := by
  simp only [tokens, given, h, (zipWith_given (k.fits parts h)).2]

theorem tokens?_of_some {k : Chunk} {parts : List (List (List Char))} (h : k.parts? = some parts) :
    ∀ g ∈ k.given, g.tokens? ≠ none := by
  intro g hg
  simp only [given, h, List.mem_iff_getElem, List.getElem_zipWith] at hg
  obtain ⟨i, hi, rfl⟩ := hg
  simp

theorem given_of_none {k : Chunk} (h : k.parts? = none) :
    k.given.flatMap Given.all = [] ∧ ∀ g ∈ k.given, g.field.info.optional = true := by
  have hall := k.complete h
  simp only [Group.omissible, Bool.and_eq_true, List.all_eq_true] at hall
  simp only [given, h]
  constructor
  · simp [List.flatMap_eq_nil_iff, Given.all]
  · intro g hg
    obtain ⟨f, hf, rfl⟩ := List.mem_map.1 hg
    exact hall.2 f hf

/-- what stands on the line is a label or a value -/
theorem mem_tokens {k : Chunk} {t : List Char} (h : t ∈ k.tokens) :
    t = k.group.label.chars ∨ ∃ parts ∈ k.parts?, t ∈ parts.flatten := by
  unfold tokens at h
  cases hp : k.parts? with
  | none => simp [hp] at h
  | some parts =>
    rw [hp] at h
    exact (List.mem_cons.1 h).imp_right (fun hm => ⟨parts, rfl, hm⟩)

end Chunk

/-- **A group finds its chunk,** wherever the chunk stands, and leaves what stands around it. -/
theorem readAll_chunk {k : Chunk} {before after : List (List Char)}
    (hline : tokens c.line = before ++ (k.tokens ++ after)) (hfresh : k.group.label.chars ∉ before ++ after)
    (htakes : ∀ done g rest, k.given = done ++ g :: rest → (fill context done sink).2 = none →
      g.Takes context (fill context done sink).1) :
    ((readAll context k.group.components c sink).sink, (readAll context k.group.components c sink).error) =
        fill context k.given sink ∧
      ((fill context k.given sink).2 = none →
        tokens (readAll context k.group.components c sink).cursor.line = before ++ after) := by
  rw [k.components_eq, readAll, read]
  cases hp : k.parts? with
  | none =>
    obtain ⟨hnil, hoptional⟩ := Chunk.given_of_none hp
    have hall : tokens c.line = before ++ after := by simpa [Chunk.tokens, hp] using hline
    have ho : k.group.optional = true := by
      have hcomplete := k.complete hp
      simp only [Group.omissible, Bool.and_eq_true] at hcomplete
      exact hcomplete.1
    rw [← hall] at hfresh
    rw [readSeparator_absent context sink k.group.optional hfresh, if_pos ho, Outcome.andThen_of_none rfl]
    have hstands : c.seekEnd.Stands (before ++ after) (k.given.flatMap Given.all ++ []) := by
      rw [hnil, ← hall]
      exact .ofEnd c
    obtain ⟨hfill, hcursor⟩ :=
      readAll_given context sink hstands (fun g hg _ => ⟨hoptional g hg, by simpa using hnil⟩) htakes
    refine ⟨hfill, fun hn => ?_⟩
    rw [(hcursor hn).tokens_line, List.append_nil]
  | some parts =>
    rw [Chunk.tokens_of_some hp] at hline
    have hmem : k.group.label.chars ∈ tokens c.line := by
      rw [hline]
      simp
    obtain ⟨found, hfound, -, hread⟩ := readSeparator_found context sink k.group.optional hmem
    rw [hline, List.cons_append,
      around_append _ (fun hm => hfresh (List.mem_append_left _ hm))] at hfound
    rw [hread, Outcome.andThen_of_none rfl]
    obtain ⟨hfill, hcursor⟩ := readAll_given context sink hfound
      (fun g hg hn => absurd hn (Chunk.tokens?_of_some hp g hg)) htakes
    exact ⟨hfill, fun hn => (hcursor hn).tokens_line⟩

/-! ## All chunks -/

/-- no label stands in the chunk of another group -/
theorem label_not_mem_tokens {k : Chunk} {todo others : List Chunk}
    (hlabels : ((k :: todo).map (fun c => c.group.label)).Nodup)
    (hapart : ∀ c ∈ k :: todo, ∀ parts ∈ c.parts?, ∀ t ∈ parts.flatten, t ≠ k.group.label.chars)
    (hsub : others ⊆ todo) : k.group.label.chars ∉ others.flatMap Chunk.tokens := by
  intro hm
  obtain ⟨other, ho, ht⟩ := List.mem_flatMap.1 hm
  rcases Chunk.mem_tokens ht with hlabel | ⟨parts, hp, ht⟩
  · refine (List.nodup_cons.1 hlabels).1 (List.mem_map.2 ⟨other, hsub ho, ?_⟩)
    exact (Token.chars_injective hlabel).symm
  · exact hapart other (List.mem_cons_of_mem k (hsub ho)) parts hp _ ht rfl

/-- **The groups find their chunks one after the other,** in whatever order the chunks that are left stand. -/
theorem readAll_chunks {todo left : List Chunk} (hperm : left.Perm todo)
    (hline : tokens c.line = left.flatMap Chunk.tokens) (hlabels : (todo.map (fun c => c.group.label)).Nodup)
    (hapart : ∀ c ∈ todo, ∀ parts ∈ c.parts?, ∀ t ∈ parts.flatten, ∀ other ∈ todo, t ≠ other.group.label.chars)
    (htakes : ∀ done g rest, todo.flatMap Chunk.given = done ++ g :: rest → (fill context done sink).2 = none →
      g.Takes context (fill context done sink).1) :
    ((readAll context (todo.flatMap (fun c => c.group.components)) c sink).sink,
        (readAll context (todo.flatMap (fun c => c.group.components)) c sink).error) =
      fill context (todo.flatMap Chunk.given) sink := by
  induction todo generalizing left c sink with
  | nil => rfl
  | cons k todo ih =>
    obtain ⟨a, b, rfl⟩ := List.append_of_mem (hperm.symm.subset List.mem_cons_self)
    have hrest : (a ++ b).Perm todo := (List.perm_middle.symm.trans hperm).cons_inv
    rw [List.flatMap_append, List.flatMap_cons] at hline
    have hfresh : k.group.label.chars ∉ a.flatMap Chunk.tokens ++ b.flatMap Chunk.tokens := by
      rw [← List.flatMap_append]
      exact label_not_mem_tokens hlabels (fun c hc parts hp t ht => hapart c hc parts hp t ht k List.mem_cons_self)
        hrest.subset
    obtain ⟨hfill, hcursor⟩ := readAll_chunk context sink hline hfresh (fun done g rest hsplit =>
      htakes done g (rest ++ todo.flatMap Chunk.given) (by rw [List.flatMap_cons, hsplit]; simp))
    rw [Prod.ext_iff] at hfill
    obtain ⟨hsink, herror⟩ := hfill
    rw [List.flatMap_cons, List.flatMap_cons, readAll_append, fill_append]
    cases hf : (fill context k.given sink).2 with
    | some e =>
      rw [hf] at herror
      rw [Outcome.andThen_of_some herror]
      exact Prod.ext hsink (herror.trans hf.symm)
    | none =>
      rw [hf] at herror
      rw [Outcome.andThen_of_none herror]
      simp only at hsink
      rw [hsink]
      have hleft := hcursor hf
      rw [← List.flatMap_append] at hleft
      refine ih _ hrest hleft (List.nodup_cons.1 hlabels).2
        (fun c hc parts hp t ht other ho =>
          hapart c (List.mem_cons_of_mem k hc) parts hp t ht other (List.mem_cons_of_mem k ho))
        (fun done g rest hsplit hfine => ?_)
      have hdone : fill context (k.given ++ done) sink = fill context done (fill context k.given sink).1 := by
        rw [fill_append, hf]
      rw [← hdone] at hfine ⊢
      exact htakes (k.given ++ done) g rest (by rw [List.flatMap_cons, hsplit, List.append_assoc]) hfine

end

/-! ## Fields that state a length -/

theorem Field.name_component (f : Field) : f.component.name = f.info.name := by
  cases f <;> rfl

/-- an integer that is read is the one its token denotes -/
theorem denotedInt?_of_convert {token : List Char} {field context expected : Datum} {optional : Bool} {n : Number}
    (h : convert .int token field context expected optional = .ok n) :
    ∃ m, n = .int m ∧ denotedInt? token = some m := by
  unfold convert leadingNumber at h
  unfold denotedInt?
  cases hi : leadingInt token with
  | error e =>
    simp only [hi, Except.map] at h
    split at h <;> simp at h
  | ok r =>
    simp only [hi, Except.map] at h
    by_cases hlen : (r.length == token.length) = true
    · rw [if_pos hlen, Except.ok.injEq] at h
      exact ⟨r.value, h.symm, if_pos hlen⟩
    · rw [if_neg hlen] at h
      simp at h

/-- a field that can be a length has the value that it states -/
theorem Given.stated_of_value {context : Datum} {sink : Container} {others : List Given} {g : Given} {value : Datum}
    (hint : g.field.component.writesInt = true)
    (hexact : ∀ ts ∈ g.tokens?, g.field.Wants others ts.length) (hv : g.value context sink = .ok value) :
    ∃ n, value = .int n ∧ g.stated? = some n := by
  obtain ⟨field, given⟩ := g
  cases field with
  | vector info length default => simp [Field.component, Component.writesInt] at hint
  | scalar info default =>
    cases default with
    | text token => simp [Field.component, Component.writesInt] at hint
    | flag b => simp [Field.component, Component.writesInt] at hint
    | number default =>
      cases default with
      | real x => simp [Field.component, Component.writesInt] at hint
      | int n =>
        cases given with
        | none => exact ⟨n, (Except.ok.inj hv).symm, rfl⟩
        | some ts =>
          obtain ⟨token, rfl⟩ := List.length_eq_one_iff.1 (hexact ts rfl)
          simp only [Given.value, convertScalar, Number.kind] at hv
          cases hc : convert .int token info.label context (.int 1) info.optional with
          | error e => simp [hc, Except.map] at hv
          | ok m =>
            obtain ⟨k, rfl, hdenoted⟩ := denotedInt?_of_convert hc
            simp only [hc, Except.map, Except.ok.injEq] at hv
            exact ⟨k, hv.symm, hdenoted⟩

theorem fill_grows (context : Datum) (gs : List Given) (sink : Container) :
    sink.entries <+: (fill context gs sink).1.entries := by
  induction gs generalizing sink with
  | nil => exact List.prefix_rfl
  | cons g gs ih =>
    cases hv : g.value context sink with
    | error e => exact ⟨[], by rw [fill_cons_of_error hv, List.append_nil]⟩
    | ok value =>
      cases hw : sink.insert? g.field.info.name value with
      | none => exact ⟨[], by rw [fill_cons_of_taken hv hw, List.append_nil]⟩
      | some written =>
        rw [fill_cons_of_written hv hw]
        have hadded : sink.entries <+: written.entries := ⟨_, (Container.entries_insert hw).symm⟩
        exact hadded.trans (ih written)

/-- where all goes well, the value of every field is held at the end -/
theorem held_of_fill {context : Datum} {before after : List Given} {g : Given} {sink : Container}
    (h : (fill context (before ++ g :: after) sink).2 = none) :
    ∃ value, g.value context (fill context before sink).1 = .ok value ∧
      (fill context (before ++ g :: after) sink).1.get? g.field.info.name = some value := by
  rw [fill_append] at h ⊢
  cases hb : (fill context before sink).2 with
  | some e => simp [hb] at h
  | none =>
    simp only [hb] at h ⊢
    cases hv : g.value context (fill context before sink).1 with
    | error e => simp [fill_cons_of_error hv] at h
    | ok value =>
      cases hw : (fill context before sink).1.insert? g.field.info.name value with
      | none => simp [fill_cons_of_taken hv hw] at h
      | some written =>
        refine ⟨value, rfl, ?_⟩
        rw [fill_cons_of_written hv hw]
        exact get?_of_grows (fill_grows context after written) (Container.get?_of_added (Container.entries_insert hw))

/-! ## The layout of a line -/

def Component.isSeparator : Component → Bool
  | .separator .. => true
  | _ => false

namespace Layout

variable {d : LineDefinition}

/-- the fields of all groups, in the order of the grammar -/
def given (l : Layout d) : List Given :=
  l.chunks.flatMap Chunk.given

/-- the components of the grammar without the labels -/
theorem filter_components (l : Layout d) :
    d.components.filter (fun x => !x.isSeparator) = l.given.map (fun g => g.field.component) := by
  have hfields : ∀ gs : List Given, (gs.map (fun g => g.field.component)).filter (fun x => !x.isSeparator) =
      gs.map (fun g => g.field.component) := by
    intro gs
    refine List.filter_eq_self.2 (fun x hx => ?_)
    obtain ⟨g, -, rfl⟩ := List.mem_map.1 hx
    cases g.field <;> rfl
  rw [l.components_eq, given]
  induction l.chunks with
  | nil => rfl
  | cons k chunks ih =>
    have hlabel : ∀ fields : List Component, (Component.separator k.group.label k.group.optional k.group.description ::
        fields).filter (fun x => !x.isSeparator) = fields.filter (fun x => !x.isSeparator) := fun _ => rfl
    rw [List.flatMap_cons, List.filter_append, ih, k.components_eq, hlabel, hfields, List.flatMap_cons, List.map_append]

/-- the components are their own branch -/
theorem mem_branchesOfAll (l : Layout d) : d.components ∈ branchesOfAll d.components := by
  have hplain : d.components.all (fun x => !x.isSwitch) = true := by
    rw [l.components_eq, List.all_eq_true]
    intro x hx
    obtain ⟨k, -, hx⟩ := List.mem_flatMap.1 hx
    rcases List.mem_cons.1 hx with rfl | hx
    · rfl
    · obtain ⟨f, -, rfl⟩ := List.mem_map.1 hx
      cases f <;> rfl
  have hroute := (Route.of_plain hplain).mem_branchesOfAll
  rwa [List.map_map, show Stage.component ∘ Stage.plain = id from rfl, List.map_id] at hroute

/-- a length that is taken from a field is taken from an integer of a field before -/
theorem source_before (l : Layout d) {done rest : List Given} {g : Given} (hsplit : l.given = done ++ g :: rest)
    {source : Datum} (hs : g.field.component.lengthSource? = some source) :
    ∃ w ∈ done, w.field.component.writesInt = true ∧ source = .text w.field.info.name := by
  have hfilter := l.filter_components
  rw [hsplit, List.map_append, List.map_cons, List.filter_eq_append_iff] at hfilter
  obtain ⟨l₁, l₂, hcs, hdone, hrest⟩ := hfilter
  obtain ⟨m₁, m₂, rfl, hlabels, -, -⟩ := List.filter_eq_cons_iff.1 hrest
  have hbranch : (l₁ ++ m₁) ++ g.field.component :: m₂ ∈ branchesOfAll d.components := by
    rw [List.append_assoc, ← hcs]
    exact l.mem_branchesOfAll
  obtain ⟨y, hy, hint, rfl⟩ := d.source_written_before hbranch hs
  have hfield : (!y.isSeparator) = true := by
    cases y with
    | separator => simp [Component.writesInt] at hint
    | _ => rfl
  rcases List.mem_append.1 hy with hy | hy
  · have hmem : y ∈ done.map (fun w => w.field.component) := by
      rw [← hdone]
      exact List.mem_filter.2 ⟨hy, hfield⟩
    obtain ⟨w, hw, rfl⟩ := List.mem_map.1 hmem
    exact ⟨w, hw, hint, by rw [Field.name_component]⟩
  · exact absurd hfield (hlabels y hy)

/-- **Every field will take just the tokens that it has.** -/
theorem takes (l : Layout d) (context : Datum) {done rest : List Given} {g : Given}
    (hsplit : l.given = done ++ g :: rest) (hfine : (fill context done .empty).2 = none) :
    g.Takes context (fill context done .empty).1 := by
  have hmem : ∀ w, w ∈ done ∨ w = g → w ∈ l.given := by
    rintro w (hw | rfl)
    · rw [hsplit]
      exact List.mem_append_left _ hw
    · rw [hsplit]
      simp
  have hexact := l.exact g (hmem g (Or.inr rfl))
  intro ts hts
  have hcount := hexact ts hts
  obtain ⟨field, given⟩ := g
  cases field with
  | scalar info default => exact hcount
  | vector info length default =>
    intro n hn
    cases length with
    | fixed count => rw [hcount, Except.ok.inj hn]
    | takenFrom source =>
      obtain ⟨w, hw, hint, rfl⟩ := l.source_before hsplit rfl
      have hstates := l.exact w (hmem w (Or.inl hw))
      obtain ⟨before, after, rfl⟩ := List.append_of_mem hw
      -- the field before has been read, and what it states is what the length is resolved to
      obtain ⟨value, hvalue, hheld⟩ := held_of_fill hfine
      obtain ⟨m, rfl, hstated⟩ := Given.stated_of_value hint hstates hvalue
      have hask : Sink.ask (fill context (before ++ w :: after) .empty).1 (.text w.field.info.name) = .value (.int m) :=
        Container.ask_text hheld
      simp only [resolveLength, hask] at hn
      by_cases hm : m < 0
      · rw [if_pos hm] at hn
        simp at hn
      · rw [if_neg hm, Except.ok.injEq] at hn
        rw [← hn]
        exact hcount w (hmem w (Or.inl hw)) (by simp [isAmong]) m hstated (Int.not_lt.1 hm)

end Layout

/-- **The chunks of a line may stand in any order.** Whatever the order, every field of the grammar gets the tokens of
its own chunk, or its default where the chunk is left out, and the entries are written in the order of the grammar; if
one of them cannot be had, the reading fails for the reason that is the first in this order. -/
theorem read_groups_in_any_order (d : LineDefinition) (l : Layout d) {order : List Chunk} (h : order.Perm l.chunks)
    {line : List Char} (hline : tokens line = order.flatMap Chunk.tokens) :
    ((d.read line Container.empty).sink, (d.read line Container.empty).error) =
      fill d.sectionName l.given Container.empty := by
  have hread := readAll_chunks d.sectionName .empty h (c := .ofLine line) hline l.labels_nodup l.apart
    (fun done g rest hsplit hfine => l.takes d.sectionName hsplit hfine)
  rwa [← l.components_eq] at hread

/-- A line for Dirichlet conditions on two degrees of freedom, without functions. -/
def dirichletLayout : Layout Manifold.dirichlet where
  chunks :=
    [⟨⟨Manifold.token "NUMDOF" rfl, false, .text "", [.scalar (Manifold.field "NUMDOF") (.number (.int 0))]⟩,
        some [["2".toList]], by decide, by decide⟩,
      ⟨⟨Manifold.token "ONOFF" rfl, false, .text "", [.vector (Manifold.field "ONOFF") Manifold.sharedCount (.int 0)]⟩,
        some [["1".toList, "0".toList]], by decide, by decide⟩,
      ⟨⟨Manifold.token "VAL" rfl, false, .text "", [.vector (Manifold.field "VAL") Manifold.sharedCount (.real .zero)]⟩,
        some [["0.5".toList, "1.5".toList]], by decide, by decide⟩,
      ⟨⟨Manifold.token "FUNCT" rfl, true, .text "", [.vector ⟨"FUNCT", true, .text ""⟩ Manifold.sharedCount (.int 0)]⟩,
        none, by decide, by decide⟩]
  components_eq := rfl
  labels_nodup := by decide
  apart := by decide
  exact := by decide +kernel

/-- the count may stand behind the vectors that it sizes, and the functions have their defaults -/
theorem read_groups_in_any_order_dirichlet :
    dirichletLayout.chunks.reverse.Perm dirichletLayout.chunks ∧
      tokens "VAL 0.5 1.5 ONOFF 1 0 NUMDOF 2".toList = dirichletLayout.chunks.reverse.flatMap Chunk.tokens ∧
      ((Manifold.dirichlet.read "VAL 0.5 1.5 ONOFF 1 0 NUMDOF 2".toList Container.empty).sink,
          (Manifold.dirichlet.read "VAL 0.5 1.5 ONOFF 1 0 NUMDOF 2".toList Container.empty).error) =
        fill Manifold.dirichlet.sectionName dirichletLayout.given Container.empty ∧
      (fill Manifold.dirichlet.sectionName dirichletLayout.given Container.empty).2.isNone = true ∧
      (fill Manifold.dirichlet.sectionName dirichletLayout.given Container.empty).1.names =
        ["NUMDOF", "ONOFF", "VAL", "FUNCT"] := by
  have hperm : dirichletLayout.chunks.reverse.Perm dirichletLayout.chunks := List.reverse_perm _
  have hline : tokens "VAL 0.5 1.5 ONOFF 1 0 NUMDOF 2".toList =
      dirichletLayout.chunks.reverse.flatMap Chunk.tokens := by decide +kernel
  exact ⟨hperm, hline, read_groups_in_any_order Manifold.dirichlet dirichletLayout hperm hline, by decide +kernel,
    by decide +kernel⟩

end LineGrammar
