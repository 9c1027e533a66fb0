/-
Reading a line through a sequence of components.

Every component takes its tokens from the cursor and writes at most what it stands for into the sink. An error ends the
reading, and what was cut out and written before it stays so: an `Outcome` is the cursor and the sink after the last
step, with the error if there was one.
-/
import LineGrammar.Component.Basic
import LineGrammar.Container
import LineGrammar.Cursor

namespace LineGrammar

/-- Where reading has got to. -/
structure Outcome (σ : Type) where
  cursor : Cursor
  sink : σ
  error : Option ReadError

def Number.datum : Number → Datum
  | .int n => .int n
  | .real x => .real x

def Scalar.datum : Scalar → Datum
  | .text token => .text token.text
  | .number n => n.datum
  | .flag b => .bool b

namespace Outcome

variable {σ : Type}

/-- goes on with what is left, unless there was an error -/
def andThen (o : Outcome σ) (next : Cursor → σ → Outcome σ) : Outcome σ :=
  match o.error with
  | none => next o.cursor o.sink
  | some _ => o

theorem andThen_of_none {o : Outcome σ} (h : o.error = none) (next : Cursor → σ → Outcome σ) :
    o.andThen next = next o.cursor o.sink := by
  rw [andThen, h]

theorem andThen_of_some {o : Outcome σ} {e : ReadError} (h : o.error = some e) (next : Cursor → σ → Outcome σ) :
    o.andThen next = o := by
  rw [andThen, h]

theorem andThen_done (o : Outcome σ) : o.andThen (fun c s => ⟨c, s, none⟩) = o := by
  cases o with
  | mk c s error => cases error <;> rfl

theorem andThen_assoc (o : Outcome σ) (f g : Cursor → σ → Outcome σ) :
    (o.andThen f).andThen g = o.andThen (fun c s => (f c s).andThen g) := by
  cases h : o.error with
  | none => rw [andThen_of_none h, andThen_of_none h]
  | some e => rw [andThen_of_some h, andThen_of_some h, andThen_of_some h]

/-- what goes well as a whole goes well in both parts -/
theorem andThen_of_fine {o : Outcome σ} {next : Cursor → σ → Outcome σ} (h : (o.andThen next).error = none) :
    o.error = none ∧ o.andThen next = next o.cursor o.sink := by
  cases he : o.error with
  | none => exact ⟨rfl, andThen_of_none he next⟩
  | some e => rw [andThen_of_some he, he] at h; simp at h

end Outcome

section

variable {σ : Type} [Sink σ]

/-- writes one entry -/
def write (c : Cursor) (sink : σ) (name : String) (value : Datum) : Outcome σ :=
  match Sink.insert? sink name value with
  | some written => ⟨c, written, none⟩
  | none => ⟨c, sink, some (.duplicateKey name)⟩

/-- writes entries one after the other -/
def writeAll (c : Cursor) (sink : σ) : List (String × Datum) → Outcome σ
  | [] => ⟨c, sink, none⟩
  | (name, value) :: rest => (write c sink name value).andThen (fun c s => writeAll c s rest)

/-- The number of values of a vector. A length that is taken from a field has to be there, as an integer that is not
negative. The message about a negative one shows it, so a count of too many digits makes another error of the class that
`ReadError.errorClass` tells. -/
def resolveLength (length : Length) (sink : σ) (field context : Datum) : Except ReadError Nat :=
  match length with
  | .fixed count => .ok count
  | .takenFrom source =>
    match Sink.ask sink source with
    | .unfit => .error (.sourceUnfit source)
    | .absent => .error (.lengthUnread field source context)
    | .value (.int n) => if n < 0 then .error (.negativeLength source context n field) else .ok n.toNat
    | .value _ => .error (.lengthNotInteger field source)

/-! ## One component -/

/-- the token for a field of one token, nothing if an optional field is absent -/
def takeToken (info : Info) (context : Datum) (c : Cursor) : Except ReadError (Option (List Char) × Cursor) :=
  if c.atEnd && !info.optional then .error (.valueMissing info.label context) else .ok c.next

/-- the value of a token in a field of the kind that the default shows -/
def convertScalar (default : Scalar) (info : Info) (context : Datum) (token : List Char) : Except ReadError Datum :=
  match default with
  | .text _ => .ok (.text (String.ofList token))
  | .number n => (convert n.kind token info.label context (.int 1) info.optional).map Number.datum
  | .flag _ =>
    if yesTexts.contains (String.ofList token) then .ok (.bool true)
    else if noTexts.contains (String.ofList token) then .ok (.bool false)
    else .error (.notYesNo info.label context token)

/-- what a mandatory field lacks when only blanks are left -/
def missingScalar (default : Scalar) (info : Info) (context : Datum) : ReadError :=
  match default with
  | .number _ => .numberMissing info.label context (.int 1)
  | _ => .valueMissing info.label context

def readScalar (info : Info) (default : Scalar) (context : Datum) (c : Cursor) (sink : σ) : Outcome σ :=
  match takeToken info context c with
  | .error e => ⟨c, sink, some e⟩
  | .ok (none, after) =>
    if info.optional then write after sink info.name default.datum
    else ⟨after, sink, some (missingScalar default info context)⟩
  | .ok (some token, after) =>
    match convertScalar default info context token with
    | .error e => ⟨after, sink, some e⟩
    | .ok value => write after sink info.name value

/-- up to `count` numbers; an optional vector may have fewer of them on the line -/
def readNumbers (info : Info) (kind : NumberKind) (expected : Nat) (context : Datum) :
    Nat → Cursor → Cursor × Except ReadError (List Datum)
  | 0, c => (c, .ok [])
  | count + 1, c =>
    match c.next with
    | (none, after) =>
      (after, if info.optional then .ok [] else .error (.numberMissing info.label context (.int expected)))
    | (some token, after) =>
      match convert kind token info.label context (.int expected) info.optional with
      | .error e => (after, .error e)
      | .ok n =>
        let (last, numbers) := readNumbers info kind expected context count after
        (last, numbers.map (n.datum :: ·))

/-- the numbers read, filled up with the default -/
def fillUp (count : Nat) (default : Number) (numbers : List Datum) : Datum :=
  .list (numbers ++ List.replicate (count - numbers.length) default.datum)

def readVector (info : Info) (length : Length) (default : Number) (context : Datum) (c : Cursor) (sink : σ) :
    Outcome σ :=
  match resolveLength length sink info.label context with
  | .error e => ⟨c, sink, some e⟩
  | .ok count =>
    if !Sink.admits sink count then ⟨c, sink, some (.lengthTooLarge count)⟩
    else if count != 0 && c.atEnd && !info.optional then ⟨c, sink, some (.valueMissing info.label context)⟩
    else
      match readNumbers info default.kind count context count c with
      | (after, .error e) => ⟨after, sink, some e⟩
      | (after, .ok numbers) => write after sink info.name (fillUp count default numbers)

/-- the first literal that is on the line, in the order of declaration, with its offset -/
def findLiteral? (s : Selection) (c : Cursor) : Option (Literal × Nat) :=
  s.literals.findSome? (fun l => (c.find? l.token.chars).map (fun start => (l, start)))

/-- A selection searches the whole line; without any of its literals it has its default. -/
def readSelection (s : Selection) (c : Cursor) (sink : σ) : Outcome σ :=
  match findLiteral? s c with
  | some (l, start) =>
    match c.removeAt start l.token.chars.length with
    | (after, none) => write after sink s.info.name l.value.datum
    | (after, some fault) => ⟨after, sink, some (.positionOutside fault)⟩
  | none => write c sink s.info.name s.default.value.datum

def readSeparator (label : Token) (optional : Bool) (context : Datum) (c : Cursor) (sink : σ) : Outcome σ :=
  match c.consumeLabel label.chars optional (.text label.text) context with
  | (after, .ok _) => ⟨after, sink, none⟩
  | (after, .error e) => ⟨after, sink, some e⟩

def readProcessed (info : Info) (insertion : Insertion) (context : Datum) (c : Cursor) (sink : σ) : Outcome σ :=
  match takeToken info context c with
  | .error e => ⟨c, sink, some e⟩
  | .ok (none, after) => ⟨after, sink, if info.optional then none else some (.valueMissing info.label context)⟩
  | .ok (some token, after) =>
    let (entries, error) := insertion token (Sink.get? sink)
    (writeAll after sink entries).andThen (fun c s => ⟨c, s, error⟩)

/-- the key that a discriminator has left in the sink -/
def decodedKey (s : Selection) (sink : σ) : Datum :=
  (Sink.get? sink s.info.name).getD .null

/-! ## Sequences of components -/

mutual

/-- reads one component -/
def read (context : Datum) : Component → Cursor → σ → Outcome σ
  | .separator label optional _, c, sink => readSeparator label optional context c sink
  | .scalar info default, c, sink => readScalar info default context c sink
  | .vector info length default, c, sink => readVector info length default context c sink
  | .selection s, c, sink => readSelection s c sink
  | .switch s _ choices, c, sink =>
    (readSelection s c sink).andThen (fun c sink => readChosen context s (decodedKey s sink) choices c sink)
  | .processed info insertion, c, sink => readProcessed info insertion context c sink
  | .unsupported _ kind, c, sink => ⟨c, sink, some (.unsupported kind)⟩

/-- reads components in order, up to the first error -/
def readAll (context : Datum) : List Component → Cursor → σ → Outcome σ
  | [], c, sink => ⟨c, sink, none⟩
  | x :: xs, c, sink => (read context x c sink).andThen (fun c sink => readAll context xs c sink)

/-- reads the components of the choice with the given key -/
def readChosen (context : Datum) (s : Selection) (key : Datum) :
    List (Choice Component) → Cursor → σ → Outcome σ
  | [], c, sink => ⟨c, sink, some (.unregisteredKey s.info.name key)⟩
  | ⟨literal, components⟩ :: rest, c, sink =>
    if literal.value.datum.same key then readAll context components c sink
    else readChosen context s key rest c sink

end

/-- reads a whole line into a sink -/
def readLine (context : Datum) (components : List Component) (line : List Char) (sink : σ) : Outcome σ :=
  readAll context components (.ofLine line) sink

/-- the outcomes of components read one by one; reading ends with the first error unless it is to go on -/
def readSteps (context : Datum) (goOn : Bool) : List Component → Cursor → σ → List (Outcome σ)
  | [], _, _ => []
  | x :: xs, c, sink =>
    let o := read context x c sink
    if o.error.isSome && !goOn then [o] else o :: readSteps context goOn xs o.cursor o.sink

end

end LineGrammar
