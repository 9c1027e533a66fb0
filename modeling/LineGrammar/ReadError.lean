/-
What can go wrong while a line is read.

An error is its cause: the field that failed, the token at fault, the length a vector could not take. `message` words
it; `errorClass` says what it is. The errors about a line come from its text; the others come from a container that
already holds the name, or from a grammar that was not checked.

An error is made with its message. Where the message would show an integer of too many digits, it cannot be written, and
the error that is made is the runtime's: an unfit value, whatever the cause.

Fields and sections are called by data, nearly always texts: messages show them, and errors hand them back as they were
given.
-/
import LineGrammar.Datum.Display
import LineGrammar.Error
import LineGrammar.Number

namespace LineGrammar

/-- A position outside the line. -/
structure PositionFault where
  position : Int
  length : Nat
  deriving DecidableEq

def PositionFault.message (f : PositionFault) : String :=
  s!"Cursor position {intShown f.position} outside line of length {intShown f.length}"

inductive ReadError where
  /-- a mandatory label is not on the line -/
  | labelMissing (label : String) (field context : Datum)
  /-- a mandatory value is not on the line -/
  | valueMissing (field context : Datum)
  /-- a mandatory number has no token left -/
  | numberMissing (field context : Datum) (expected : Datum)
  | notNumber (field context : Datum) (token : List Char)
  /-- the token goes on after the number it begins with -/
  | trailing (field context : Datum) (token rest : List Char) (number : Number)
  | notYesNo (field context : Datum) (token : List Char)
  /-- the length of `field` is a negative count held under `source` -/
  | negativeLength (source context : Datum) (count : Int) (field : Datum)
  | duplicateKey (name : String)
  | lengthUnread (field source context : Datum)
  | lengthNotInteger (field source : Datum)
  /-- nothing can be held under the source of a length -/
  | sourceUnfit (source : Datum)
  /-- no list has that many members -/
  | lengthTooLarge (count : Nat)
  | unknownLength (kind : String)
  | unregisteredKey (switch : String) (key : Datum)
  | unsupported (kind : String)
  /-- no cursor can stay where a label was cut out -/
  | positionOutside (fault : PositionFault)
  /-- what a token is handed on to raises an error of its own -/
  | raised (errorClass : ErrorClass) (message : String) (field context : Datum) (value : Option Datum)

def yesTexts : List String := ["Yes", "YES", "yes", "True", "TRUE", "true"]

def noTexts : List String := ["No", "NO", "no", "False", "FALSE", "false"]

namespace ReadError

/-- the class of an error whose message can be written -/
def causeClass : ReadError → ErrorClass
  | .labelMissing .. | .valueMissing .. => .requiredFieldMissing
  | .numberMissing .. => .missingRequiredValue
  | .notNumber .. | .negativeLength .. => .malformedNumber
  | .trailing .. => .trailingGarbage
  | .notYesNo .. => .invalidBooleanLiteral
  | .duplicateKey .. => .duplicateKey
  | .lengthUnread .. | .lengthNotInteger .. | .unknownLength .. | .unregisteredKey .. | .unsupported .. =>
    .internalInconsistency
  | .sourceUnfit .. => .runtime .type
  | .lengthTooLarge count => .ofLength count
  | .positionOutside .. => .runtime .value
  | .raised errorClass .. => errorClass

/-- the data that the message shows -/
def shownData : ReadError → List Datum
  | .labelMissing _ _ context => [context]
  | .valueMissing field context | .notNumber field context _ | .notYesNo field context _ => [field, context]
  | .numberMissing field context expected => [field, context, expected]
  | .trailing field context _ _ _ => [field, context]
  | .negativeLength source context count field => [source, context, .int count, field]
  | .lengthUnread field source context => [field, source, context]
  | .lengthNotInteger field source => [field, source]
  | .unregisteredKey _ key => [key]
  | .duplicateKey _ | .sourceUnfit _ | .lengthTooLarge _ | .unknownLength _ | .unsupported _ | .positionOutside _
  | .raised .. => []

/-- whether the message can be written -/
def isWritable (e : ReadError) : Bool :=
  Datum.showableItems e.shownData

/-- the class of the error that is made -/
def errorClass (e : ReadError) : ErrorClass :=
  if e.isWritable then e.causeClass else .runtime .value

/-- whether the text of the line is at fault -/
def aboutLine (e : ReadError) : Bool :=
  e.errorClass.aboutLine

/-- the field an error about a line points at -/
def field : ReadError → Datum
  | .labelMissing _ field _ | .valueMissing field _ | .numberMissing field _ _ | .notNumber field _ _
  | .trailing field .. | .notYesNo field _ _ | .raised _ _ field _ _ => field
  | .negativeLength source .. => source
  | _ => .text ""

/-- the section an error about a line points at -/
def context : ReadError → Datum
  | .labelMissing _ _ context | .valueMissing _ context | .numberMissing _ context _ | .notNumber _ context _
  | .trailing _ context .. | .notYesNo _ context _ | .negativeLength _ context _ _
  | .raised _ _ _ context _ => context
  | _ => .text ""

/-- the value at fault, if there is one -/
def value? : ReadError → Option Datum
  | .numberMissing .. => some (.text "")
  | .notNumber _ _ token | .trailing _ _ token _ _ | .notYesNo _ _ token => some (.text (String.ofList token))
  | .negativeLength _ _ count _ => some (.int count)
  | .raised _ _ _ _ value => value
  | _ => none

def kindLabel : NumberKind → String
  | .int => "an integer"
  | .real => "a floating point"

def message : ReadError → String
  | .labelMissing label _ context =>
    s!"Required parameter '{label}' for section '{context.shown}' not specified in input file!"
  | .valueMissing field context =>
    s!"Value of parameter '{field.shown}' for section '{context.shown}' not properly specified in input file!"
  | .numberMissing field context expected =>
    s!"No value of variable '{field.shown}' in '{context.shown}' specified. Possibly you didn't give enough input " ++
      s!"values. The variable '{field.shown}' expects {expected.shown} input values."
  | .notNumber field context token =>
    s!"Failed to read the value '{String.ofList token}' of variable '{field.shown}' in '{context.shown}'."
  | .trailing field context _ rest number =>
    s!"Failed to read value '{String.ofList rest}' while reading variable '{field.shown}' in '{context.shown}'. " ++
      s!"Could only read '{number.text}', so the specified number format is probably not supported. " ++
      s!"The variable '{field.shown}' has to be {kindLabel number.kind}."
  | .notYesNo field context token =>
    s!"Value '{String.ofList token}' of parameter '{field.shown}' for section '{context.shown}' not properly " ++
      s!"specified in input file! Expected one of {bracketed ((yesTexts ++ noTexts).map Datum.text)}."
  | .negativeLength source context count field =>
    s!"Variable '{source.shown}' in '{context.shown}' gives a negative length ({intShown count}) for '{field.shown}'."
  | .duplicateKey name => s!"Parameter '{name}' has already been read for this line."
  | .lengthUnread field source context =>
    s!"Length of '{field.shown}' depends on '{source.shown}', which has not been read before it in section " ++
      s!"'{context.shown}'."
  | .lengthNotInteger field source =>
    s!"Length of '{field.shown}' depends on '{source.shown}', which is not an integer."
  | .sourceUnfit source => s!"Length depends on '{source.shown}', under which nothing can be held."
  | .lengthTooLarge count => s!"No list has {intShown count} members."
  | .unknownLength kind => s!"Unsupported length definition: {kind}"
  | .unregisteredKey switch key => s!"Switch '{switch}' has no choice registered for key '{key.shown}'."
  | .unsupported kind => s!"Unsupported component type: {kind}"
  | .positionOutside fault => fault.message
  | .raised _ message _ _ _ => message

/-- the message; the runtime has its own for what it refuses -/
def message? (e : ReadError) : Option String :=
  match e with
  | .sourceUnfit _ | .lengthTooLarge _ => none
  | e => if e.isWritable then some e.message else none

end ReadError

/-- the number a token stands for; a mandatory number of which no token is left counts as missing -/
def convert (kind : NumberKind) (token : List Char) (field context expected : Datum) (optional : Bool) :
    Except ReadError Number :=
  match leadingNumber kind token with
  | .error _ =>
    if !optional && token.isEmpty then .error (.numberMissing field context expected)
    else .error (.notNumber field context token)
  | .ok r =>
    if r.length == token.length then .ok r.value
    else .error (.trailing field context token (token.drop r.length) r.value)

end LineGrammar
