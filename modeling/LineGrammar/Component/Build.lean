/-
Building components from data that may be unfit.

Every check is made when a component is built, so that a built component needs none later. A `GrammarFault` is what is
wrong with a grammar; a `BuildError` is such a fault, or a datum that is not even of the shape a check could look at. As
with the errors of reading, a fault whose message cannot be written ends in an error of the runtime.
-/
import LineGrammar.Component.Basic
import LineGrammar.Datum.Display
import LineGrammar.Text.Case

namespace LineGrammar

/-- What can be wrong with a grammar. `what` names the part at fault. -/
inductive GrammarFault where
  | notToken (what : String) (value : Datum)
  | notInteger (what : String) (value : Datum)
  | notNumber (what : String) (value : Datum)
  | negativeLength (count : Int)
  | notFlag (name : String) (value : Datum)
  | unknownDefault (value : Datum)
  | countsDiffer
  | repeatedLiterals (name : String) (literals : List Datum)
  | repeatedValues (name : String) (values : List Datum)
  | mixedValues (name : String)
  | notCallable (name : String)
  | noChoice (name : String)
  | unknownDefaultKey (name : String) (key : Datum)
  | unresolvedLengths (vectors : List String) (context : Datum)
  | repeatedKeys (keys : List String) (context : Datum)

def GrammarFault.message : GrammarFault → String
  | .notToken what value => s!"Invalid {what} '{value.shown}': must be a non-empty token without whitespace."
  | .notInteger what value => s!"Invalid {what} '{value.shown}': must be an integer."
  | .notNumber what value => s!"Invalid {what} '{value.shown}': must be a number."
  | .negativeLength count => s!"Vector length must not be negative, got {intShown count}."
  | .notFlag name value => s!"Invalid default '{value.shown}' for boolean '{name}'."
  | .unknownDefault value => s!"Invalid default value '{value.shown}'."
  | .countsDiffer => "Input file values must match condition values."
  | .repeatedLiterals name literals => s!"Duplicate literals in selection '{name}': {bracketed literals}"
  | .repeatedValues name values => s!"Duplicate values in selection '{name}': {bracketed values}"
  | .mixedValues name => s!"Values of selection '{name}' must be all strings or all integers."
  | .notCallable name => s!"Insert operation of '{name}' is not callable."
  | .noChoice name => s!"Switch '{name}' needs at least one choice."
  | .unknownDefaultKey name key => s!"Default key '{key.shown}' of switch '{name}' has no registered choice."
  | .unresolvedLengths vectors context =>
    s!"Vectors {textsShown vectors} in '{context.shown}' take their length from fields not read before them."
  | .repeatedKeys keys context => s!"Keys {textsShown keys} are written twice in '{context.shown}'."

/-- the data that the message shows -/
def GrammarFault.shownData : GrammarFault → List Datum
  | .notToken _ value | .notInteger _ value | .notNumber _ value | .notFlag _ value | .unknownDefault value => [value]
  | .negativeLength count => [.int count]
  | .repeatedLiterals _ items | .repeatedValues _ items => items
  | .unknownDefaultKey _ key => [key]
  | .unresolvedLengths _ context | .repeatedKeys _ context => [context]
  | .countsDiffer | .mixedValues _ | .notCallable _ | .noChoice _ => []

/-- whether the message can be written -/
def GrammarFault.isWritable (f : GrammarFault) : Bool :=
  Datum.showableItems f.shownData

/-- Why a component is not built. -/
inductive BuildError where
  | fault (f : GrammarFault)
  /-- a sequence is wanted and the datum is none -/
  | notSequence
  /-- a list or a map stands where it would have to be a key -/
  | unhashable
  /-- an integer is too large for a number of double precision -/
  | outOfRange

def BuildError.errorClass : BuildError → ErrorClass
  | .fault f => if f.isWritable then .invalidGrammarDefinition else .runtime .value
  | .notSequence | .unhashable => .runtime .type
  | .outOfRange => .runtime .overflow

def BuildError.message? : BuildError → Option String
  | .fault f => if f.isWritable then some f.message else none
  | .notSequence | .unhashable | .outOfRange => none

/-! ## Checks -/

def checkToken (what : String) (value : Datum) : Except BuildError Token :=
  match value with
  | .text s =>
    match Token.ofText? s with
    | some token => .ok token
    | none => .error (.fault (.notToken what value))
  | _ => .error (.fault (.notToken what value))

def checkInt (what : String) (value : Datum) : Except BuildError Int :=
  match value with
  | .int n => .ok n
  | _ => .error (.fault (.notInteger what value))

def checkReal (what : String) (value : Datum) : Except BuildError Binary64 :=
  match value with
  | .real x => .ok x
  | .int n =>
    match Binary64.ofInt? n with
    | some x => .ok x
    | none => .error .outOfRange
  | _ => .error (.fault (.notNumber what value))

/-- the members of a sequence: a text has its characters, octets are integers, a map has its keys -/
def sequence : Datum → Except BuildError (List Datum)
  | .list items | .set items => .ok items
  | .text s => .ok (s.toList.map (fun c => .text (String.singleton c)))
  | .octets bytes => .ok (bytes.map (fun octet => .int octet.toNat))
  | .map entries => .ok (entries.map Prod.fst)
  | .pair a b => .ok [a, b]
  | .again whole => sequence whole
  | _ => .error .notSequence

/-- whether a datum equals one before it -/
def repeats : List Datum → Bool
  | [] => false
  | d :: rest => rest.any (fun e => e.same d) || repeats rest

/-- the data as values of a selection, if all are integers or all are texts -/
def uniformKeys? (values : List Datum) : Option (List Key) :=
  let ints := values.filterMap (fun d => match d with | .int n => some (Key.int n) | _ => none)
  let texts := values.filterMap (fun d => match d with | .text s => some (Key.text s) | _ => none)
  if texts.length == values.length then some texts
  else if ints.length == values.length then some ints
  else none

/-! ## Components -/

def Length.build (value : Datum) : Except BuildError Length := do
  let n ← checkInt "vector length" value
  if n < 0 then .error (.fault (.negativeLength n)) else pure (.fixed n.toNat)

/-- the selection of given literals, its default looked up by its token -/
def Selection.ofLiterals? (info : Info) (literals : List Literal) (token : Token) : Option Selection :=
  match hd : literals.find? (fun l => l.token == token) with
  | none => none
  | some l =>
    if h : (literals.map Literal.token).Nodup ∧ (literals.map Literal.value).Nodup ∧
        ∀ k ∈ literals, k.value.isInt = l.value.isInt then
      some ⟨info, literals, l, List.mem_of_find?_eq_some hd, h.1, h.2.1, h.2.2⟩
    else none

/-- A selection from its literals and their values. -/
def Selection.build (info : Info) (default : Datum) (literals values : List Datum) : Except BuildError Selection := do
  let tokens ← literals.mapM (checkToken s!"literal of selection '{info.name}'")
  if !literals.any (fun l => l.same default) then .error (.fault (.unknownDefault default))
  else if literals.length != values.length then .error (.fault .countsDiffer)
  else if repeats literals then .error (.fault (.repeatedLiterals info.name literals))
  else if !values.all Datum.hashable then .error .unhashable
  else if repeats values then .error (.fault (.repeatedValues info.name values))
  else
    let token ← checkToken "default" default
    match (uniformKeys? values).bind (fun keys => ofLiterals? info (tokens.zipWith Literal.mk keys) token) with
    | some s => pure s
    | none => .error (.fault (.mixedValues info.name))

namespace Component

def buildSeparator (name : Datum) (optional : Bool) (description : Datum) : Except BuildError Component := do
  let label ← checkToken "separator label" name
  pure (.separator label optional description)

def buildText (info : Info) (default : Datum) : Except BuildError Component := do
  let token ← checkToken s!"default of string '{info.name}'" default
  pure (.scalar info (.text token))

def buildInt (info : Info) (default : Datum) : Except BuildError Component := do
  let n ← checkInt s!"default of '{info.name}'" default
  pure (.scalar info (.number (.int n)))

def buildReal (info : Info) (default : Datum) : Except BuildError Component := do
  let x ← checkReal s!"default of '{info.name}'" default
  pure (.scalar info (.number (.real x)))

def buildFlag (info : Info) (default : Datum) : Except BuildError Component :=
  match default with
  | .bool b => .ok (.scalar info (.flag b))
  | _ => .error (.fault (.notFlag info.name default))

def buildIntVector (info : Info) (length : Length) (default : Datum) : Except BuildError Component := do
  let n ← checkInt s!"default of '{info.name}'" default
  pure (.vector info length (.int n))

def buildRealVector (info : Info) (length : Length) (default : Datum) : Except BuildError Component := do
  let x ← checkReal s!"default of '{info.name}'" default
  pure (.vector info length (.real x))

def buildSelection (info : Info) (default literals values : Datum) : Except BuildError Component := do
  let literals ← sequence literals
  let values ← sequence values
  let s ← Selection.build info default literals values
  pure (.selection s)

/-- A choice as it is given: its key and its literal are still to be checked. -/
structure ChoiceSpec where
  key : Datum
  literal : Datum
  components : List Component

def buildSwitch (info : Info) (defaultKey : Datum) (choices : List ChoiceSpec) : Except BuildError Component :=
  if choices.isEmpty then .error (.fault (.noChoice info.name))
  else
    match choices.find? (fun c => c.key.same defaultKey) with
    | none => .error (.fault (.unknownDefaultKey info.name defaultKey))
    | some chosen => do
      let s ← Selection.build info chosen.literal (choices.map ChoiceSpec.literal) (choices.map ChoiceSpec.key)
      pure (.switch s defaultKey (s.literals.zipWith (fun l c => ⟨l, c.components⟩) choices))

/-- the choices with one more: an equal key keeps its place and takes the new literal and components -/
def putChoice (choice : ChoiceSpec) : List ChoiceSpec → List ChoiceSpec
  | [] => [choice]
  | c :: rest => if c.key.same choice.key then { choice with key := c.key } :: rest else c :: putChoice choice rest

/-- a token handed on as `rule` says: stored, stored in upper case, only measured, stored twice, or dropped -/
def insertion? (rule name : String) : Option Insertion :=
  match rule with
  | "store" => some (fun token _ => ([(name, .text (String.ofList token))], none))
  | "upper" => some (fun token _ => ([(name, .text (String.ofList (upperCase token)))], none))
  | "length" => some (fun token _ => ([(name ++ "_LEN", .int token.length)], none))
  | "twice" => some (fun token _ => (List.replicate 2 (name, .text (String.ofList token)), none))
  | "nothing" => some (fun _ _ => ([], none))
  | _ => none

def buildProcessed (info : Info) (insertion : Option Insertion) : Except BuildError Component :=
  match insertion with
  | some f => .ok (.processed info f)
  | none => .error (.fault (.notCallable info.name))

end Component

end LineGrammar
