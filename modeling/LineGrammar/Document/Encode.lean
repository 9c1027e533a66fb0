/-
Components and definitions as data that a file can hold.

Everything about a component is written down, so that decoding gives it back; only a component that hands its token on
has no such form, and neither has a component of an unsupported kind. Data have a form as text unless an integer in them
has too many digits.
-/
import LineGrammar.Grammar.Definition

namespace LineGrammar

/-- Why a component has no form as data, or data have none as text. -/
inductive EncodeError where
  | processed (name : String)
  | unsupported (kind : String)
  | unsupportedLength (kind : String)
  /-- an integer in the data has too many digits to be written -/
  | unwritable

def EncodeError.errorClass : EncodeError → ErrorClass
  | .processed _ | .unsupported _ | .unsupportedLength _ => .runtime .type
  | .unwritable => .runtime .value

def EncodeError.message? : EncodeError → Option String
  | .processed name => some s!"Processed component '{name}' cannot be serialized"
  | .unsupported kind => some s!"Unsupported Component type: {kind}"
  | .unsupportedLength kind => some s!"Unsupported length type: {kind}"
  | .unwritable => none

def Length.encode : Length → Datum
  | .fixed count => .record [("fixed", .int count)]
  | .takenFrom source => .record [("from", source)]

/-- the fields every component ends with -/
def endFields (optional : Bool) (description : Datum) : List (String × Datum) :=
  [("optional", .bool optional), ("description", description)]

def Scalar.kindTag : Scalar → String
  | .text _ => "string"
  | .number (.int _) => "int"
  | .number (.real _) => "real"
  | .flag _ => "bool"

def Number.vectorTag : Number → String
  | .int _ => "int_vector"
  | .real _ => "real_vector"

def Selection.encode (s : Selection) : Datum :=
  .record ([("type", .text "selection"), ("name", .text s.info.name), ("default", .text s.default.token.text),
    ("literals", .list (s.literals.map (fun l => .text l.token.text))),
    ("values", .list (s.literals.map (fun l => l.value.datum)))] ++ endFields s.info.optional s.info.description)

namespace Component

mutual

def encode : Component → Except EncodeError Datum
  | .separator label optional description =>
    .ok (.record ([("type", .text "separator"), ("name", .text label.text)] ++ endFields optional description))
  | .scalar info default =>
    .ok (.record ([("type", .text default.kindTag), ("name", .text info.name), ("default", default.datum)] ++
      endFields info.optional info.description))
  | .vector info length default =>
    .ok (.record ([("type", .text default.vectorTag), ("name", .text info.name), ("length", length.encode),
      ("default", default.datum)] ++ endFields info.optional info.description))
  | .selection s => .ok s.encode
  | .switch s key choices => do
    let choices ← encodeChoices choices
    pure (.record ([("type", .text "switch"), ("name", .text s.info.name), ("default_key", key),
      ("choices", .list choices)] ++ endFields s.info.optional s.info.description))
  | .processed info _ => .error (.processed info.name)
  | .unsupported _ kind => .error (.unsupported kind)

def encodeAll : List Component → Except EncodeError (List Datum)
  | [] => .ok []
  | x :: xs => do
    let d ← encode x
    let ds ← encodeAll xs
    pure (d :: ds)

def encodeChoices : List (Choice Component) → Except EncodeError (List Datum)
  | [] => .ok []
  | ⟨literal, components⟩ :: rest => do
    let inner ← encodeAll components
    let others ← encodeChoices rest
    pure (.record [("key", literal.value.datum), ("literal", .text literal.token.text),
      ("components", .list inner)] :: others)

end

end Component

def LineDefinition.encode (d : LineDefinition) : Except EncodeError Datum := do
  let components ← Component.encodeAll d.components
  pure (.record [("section", d.sectionName), ("description", d.description), ("components", .list components)])

end LineGrammar
