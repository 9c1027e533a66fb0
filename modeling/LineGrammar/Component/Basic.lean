/-
The components a grammar of lines is made of.

Each component says how one field of a line is written: a label, a value, a vector of values, one of several literals,
a literal that decides which components follow, or a token that is handed on. What a component promises is part of its
type: a label is a token, a fixed length is a natural number, and the literals and values of a selection are distinct.

A switch keeps its discriminator next to its choices. `WellFormed` says that the two fit together at every depth; it is
what building a switch guarantees.
-/
import LineGrammar.ReadError

namespace LineGrammar

/-- A value a selection can have. -/
inductive Key where
  | int (n : Int)
  | text (s : String)
  deriving DecidableEq

namespace Key

def datum : Key → Datum
  | .int n => .int n
  | .text s => .text s

def isInt : Key → Bool
  | .int _ => true
  | .text _ => false

theorem datum_injective {j k : Key} (h : j.datum = k.datum) : j = k := by
  cases j <;> cases k <;> simp_all [datum]

/-- two keys are the same datum only if they are equal -/
theorem same_datum_iff {j k : Key} : j.datum.same k.datum = true ↔ j = k := by
  cases j <;> cases k <;> simp [datum, Datum.same, Datum.sameNumber, Datum.asInt?]

theorem same_comm (k : Key) (d : Datum) : k.datum.same d = d.same k.datum := by
  cases k with
  | int n =>
    cases d with
    | int m | bool b =>
      simp only [datum, Datum.same, Datum.sameNumber, Datum.asInt?]
      rw [Bool.eq_iff_iff, beq_iff_eq, beq_iff_eq, eq_comm]
    | _ => simp [datum, Datum.same, Datum.sameNumber, Datum.asInt?]
  | text s =>
    cases d with
    | text t =>
      rw [datum, Datum.same, Datum.same, Bool.eq_iff_iff, beq_iff_eq, beq_iff_eq, eq_comm]
    | _ => simp [datum, Datum.same, Datum.sameNumber, Datum.asInt?]

/-- a datum is the same as one key at most -/
theorem eq_of_same {d : Datum} {j k : Key} (hj : d.same j.datum = true) (hk : d.same k.datum = true) : j = k := by
  cases d with
  | int n => exact (same_datum_iff (j := .int n)).1 hj ▸ (same_datum_iff (j := .int n)).1 hk
  | text s => exact (same_datum_iff (j := .text s)).1 hj ▸ (same_datum_iff (j := .text s)).1 hk
  | bool b => cases j <;> cases k <;> simp_all [datum, Datum.same, Datum.sameNumber, Datum.asInt?]
  | real x =>
    cases j with
    | text s => simp [datum, Datum.same, Datum.sameNumber, Datum.asInt?] at hj
    | int m =>
      cases k with
      | text s => simp [datum, Datum.same, Datum.sameNumber, Datum.asInt?] at hk
      | int n =>
        have hm : x.sameInt m = true := by simpa [datum, Datum.same, Datum.sameNumber, Datum.asInt?] using hj
        have hn : x.sameInt n = true := by simpa [datum, Datum.same, Datum.sameNumber, Datum.asInt?] using hk
        rw [Binary64.eq_of_sameInt hm hn]
  | _ => cases j <;> simp [datum, Datum.same] at hj

end Key

/-- What every component has. -/
structure Info where
  name : String
  optional : Bool
  description : Datum

/-- the name as messages call it -/
def Info.label (info : Info) : Datum :=
  .text info.name

/-- How many values a vector has: a fixed count, or the integer read before under a name. A source that is no text names
nothing, and is kept as it was given. -/
inductive Length where
  | fixed (count : Nat)
  | takenFrom (source : Datum)

/-- The value of a field of one token, here as the default that tells the kind of field. -/
inductive Scalar where
  | text (token : Token)
  | number (n : Number)
  | flag (b : Bool)
  deriving DecidableEq

/-- A token of the line with the value it stands for. -/
structure Literal where
  token : Token
  value : Key
  deriving DecidableEq

/-- One of several literals, with distinct tokens and distinct values that are all integers or all texts. -/
structure Selection where
  info : Info
  literals : List Literal
  default : Literal
  default_mem : default ∈ literals
  tokens_nodup : (literals.map Literal.token).Nodup
  values_nodup : (literals.map Literal.value).Nodup
  uniform : ∀ l ∈ literals, l.value.isInt = default.value.isInt

/-- A literal with the components that follow it. -/
structure Choice (γ : Type) where
  literal : Literal
  components : List γ

/-- What becomes of a token that is handed on, given what has been written so far: the entries to write, and the error
that comes after them, if there is one. -/
abbrev Insertion := List Char → (String → Option Datum) → List (String × Datum) × Option ReadError

inductive Component where
  /-- a label that is looked for on the whole line and dropped -/
  | separator (label : Token) (optional : Bool) (description : Datum)
  /-- one token, one value -/
  | scalar (info : Info) (default : Scalar)
  /-- several tokens, a list of numbers -/
  | vector (info : Info) (length : Length) (default : Number)
  | selection (s : Selection)
  /-- a selection whose literal decides which components follow; the default key is kept as it was given -/
  | switch (discriminator : Selection) (defaultKey : Datum) (choices : List (Choice Component))
  /-- one token, handed on -/
  | processed (info : Info) (insertion : Insertion)
  /-- a component of a kind that cannot be read; messages call the kind by the given name -/
  | unsupported (info : Info) (kind : String)

namespace Component

def info : Component → Info
  | .separator label optional description => ⟨label.text, optional, description⟩
  | .scalar info _ | .vector info _ _ | .processed info _ | .unsupported info _ => info
  | .selection s | .switch s _ _ => s.info

def name (c : Component) : String :=
  c.info.name

def optional (c : Component) : Bool :=
  c.info.optional

def description (c : Component) : Datum :=
  c.info.description

/-- the name of the kind of component -/
def kindName : Component → String
  | .separator .. => "Separator"
  | .scalar _ (.text _) => "String"
  | .scalar _ (.number (.int _)) => "Integer"
  | .scalar _ (.number (.real _)) => "Real"
  | .scalar _ (.flag _) => "Boolean"
  | .vector _ _ (.int _) => "IntegerVector"
  | .vector _ _ (.real _) => "RealVector"
  | .selection _ => "Selection"
  | .switch .. => "Switch"
  | .processed .. => "Processed"
  | .unsupported .. => "Component"

/-- A switch is well formed when its choices are the literals of its discriminator and its default key names the
default literal; a component is, when every switch in it is. -/
inductive WellFormed : Component → Prop where
  | separator (label : Token) (optional : Bool) (description : Datum) :
      WellFormed (.separator label optional description)
  | scalar (info : Info) (default : Scalar) : WellFormed (.scalar info default)
  | vector (info : Info) (length : Length) (default : Number) : WellFormed (.vector info length default)
  | selection (s : Selection) : WellFormed (.selection s)
  | switch (discriminator : Selection) (defaultKey : Datum) (choices : List (Choice Component))
      (aligned : choices.map Choice.literal = discriminator.literals)
      (keyed : defaultKey.same discriminator.default.value.datum = true)
      (inner : ∀ choice ∈ choices, ∀ c ∈ choice.components, WellFormed c) :
      WellFormed (.switch discriminator defaultKey choices)
  | processed (info : Info) (insertion : Insertion) : WellFormed (.processed info insertion)
  | unsupported (info : Info) (kind : String) : WellFormed (.unsupported info kind)

def isSwitch : Component → Bool
  | .switch .. => true
  | _ => false

def isProcessed : Component → Bool
  | .processed .. => true
  | _ => false

theorem wellFormed_of_plain {x : Component} (h : x.isSwitch = false) : x.WellFormed := by
  cases x with
  | switch => simp [isSwitch] at h
  | _ => constructor

/-- the choice for a key, compared as loosely as data are -/
def choiceFor? (choices : List (Choice Component)) (key : Datum) : Option (Choice Component) :=
  choices.find? (fun choice => choice.literal.value.datum.same key)

end Component

/-- the value that a literal of a selection stands for -/
def Selection.valueFor? (s : Selection) (literal : List Char) : Option Key :=
  (s.literals.find? (fun l => l.token.chars == literal)).map Literal.value

end LineGrammar
