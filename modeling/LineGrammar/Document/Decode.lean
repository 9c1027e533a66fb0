/-
Components and definitions from data.

A field that is absent has the default of the component's constructor where there is one. Data of the wrong shape are
told apart by what is wrong with them: no map where a map is looked up in, or nothing to iterate over. A component that
is a component of itself would never end. Names are texts and `optional` is a truth value; anything else in their place
is refused.
-/
import LineGrammar.Grammar.Definition

namespace LineGrammar

/-- Why data are not a component or a definition. -/
inductive DecodeError where
  | build (e : BuildError)
  | missingField (name : String)
  /-- fields are looked up in something that is no map -/
  | notMap
  /-- something is iterated over, indexed or used as a key that cannot be -/
  | wrongShape
  | unknownType (type : Datum)
  | unknownLength (value : Datum)
  /-- the field holds something else than the text or the truth value it is for -/
  | unfitField (name : String) (value : Datum)
  /-- a component stands inside itself -/
  | endless

def DecodeError.errorClass : DecodeError → ErrorClass
  | .build e => e.errorClass
  | .missingField _ => .runtime .key
  | .notMap => .runtime .attribute
  | .wrongShape | .unfitField .. => .runtime .type
  | .unknownType shown | .unknownLength shown => .runtime (if shown.showable then .type else .value)
  | .endless => .runtime .recursion

def DecodeError.message? : DecodeError → Option String
  | .build e => e.message?
  | .missingField name => some (quoted name)
  | .unknownType type => if type.showable then some s!"Unsupported component dict type: {type.shown}" else none
  | .unknownLength value => if value.showable then some s!"Unsupported length dict: {value.shown}" else none
  | .notMap | .wrongShape | .unfitField .. | .endless => none

/-- The entries of a map, as fields are looked up in it. -/
abbrev Entries := List (Datum × Datum)

/-- a field that has to be there -/
def require (name : String) (entries : Entries) : Except DecodeError Datum :=
  match Datum.field? name entries with
  | some d => .ok d
  | none => .error (.missingField name)

/-- the text a name is given by -/
def requireText (name : String) (entries : Entries) : Except DecodeError String := do
  match ← require name entries with
  | .text s => pure s
  | value => .error (.unfitField name value)

/-- whether a component may be left out, which is not so where nothing is said of it -/
def optionalOf (entries : Entries) : Except DecodeError Bool :=
  match Datum.field? "optional" entries with
  | some (.bool b) => .ok b
  | some value => .error (.unfitField "optional" value)
  | none => .ok false

/-- a field as it is given, an empty text if there is none -/
def givenOf (name : String) (entries : Entries) : Datum :=
  (Datum.field? name entries).getD (.text "")

def infoOf (entries : Entries) : Except DecodeError Info := do
  let name ← requireText "name" entries
  let optional ← optionalOf entries
  pure ⟨name, optional, givenOf "description" entries⟩

def lift {α : Type} (result : Except BuildError α) : Except DecodeError α :=
  result.mapError .build

/-- the length that data stand for -/
def Length.decode (value : Datum) : Except DecodeError Length :=
  match value with
  | .map entries =>
    match Datum.field? "fixed" entries, Datum.field? "from" entries with
    | some count, _ => lift (Length.build count)
    | none, some source => .ok (.takenFrom source)
    | none, none => .error (.unknownLength value)
  | .list _ | .set _ | .pair .. | .text _ =>
    if value.mentions "fixed" || value.mentions "from" then .error .wrongShape else .error (.unknownLength value)
  | .again whole => Length.decode whole
  | _ => .error .wrongShape

/-- the length of a vector, one if it is not given -/
def lengthOf (entries : Entries) : Except DecodeError Length :=
  match Datum.field? "length" entries with
  | some value => Length.decode value
  | none => .ok (.fixed 1)

/-- the default that is given, or else the usual one -/
def defaultOf (usual : Datum) (entries : Entries) : Datum :=
  (Datum.field? "default" entries).getD usual

namespace Component

/-- a component of one token or none, or a vector, by the tag of its type; `none` for any other tag -/
def decodeLeaf? (tag : String) (entries : Entries) : Option (Except DecodeError Component) :=
  match tag with
  | "separator" => some do
    let name ← require "name" entries
    let optional ← optionalOf entries
    lift (buildSeparator name optional (givenOf "description" entries))
  | "string" => some do lift (buildText (← infoOf entries) (defaultOf (.text "none") entries))
  | "int" => some do lift (buildInt (← infoOf entries) (defaultOf (.int 0) entries))
  | "real" => some do lift (buildReal (← infoOf entries) (defaultOf (.real .zero) entries))
  | "bool" => some do lift (buildFlag (← infoOf entries) (defaultOf (.bool false) entries))
  | "int_vector" => some do
    let length ← lengthOf entries
    lift (buildIntVector (← infoOf entries) length (defaultOf (.int 0) entries))
  | "real_vector" => some do
    let length ← lengthOf entries
    lift (buildRealVector (← infoOf entries) length (defaultOf (.real .zero) entries))
  | "selection" => some do
    let info ← infoOf entries
    let default ← require "default" entries
    let literals ← require "literals" entries
    let values ← require "values" entries
    lift (buildSelection info default literals values)
  | _ => none

/-- a switch from its fields, its choices being decoded already -/
def decodeSwitch (entries : Entries) (choices : Except DecodeError (List ChoiceSpec)) :
    Except DecodeError Component := do
  let info ← infoOf entries
  let key ← require "default_key" entries
  let choices ← choices
  lift (buildSwitch info key choices)

/-- a component from its fields -/
def decodeFields (entries : Entries) (choices : Except DecodeError (List ChoiceSpec)) :
    Except DecodeError Component :=
  match (Datum.field? "type" entries).getD .null with
  | .text "switch" => decodeSwitch entries choices
  | .text tag => (decodeLeaf? tag entries).getD (.error (.unknownType (.text tag)))
  | type => if type.hashable then .error (.unknownType type) else .error .wrongShape

/-- the error of taking the members of a datum that is no list for components or choices, if it has a member -/
def notList {α : Type} (member : DecodeError) : Datum → Except DecodeError (List α)
  | .text s => if s.isEmpty then .ok [] else .error member
  | .octets bytes => if bytes.isEmpty then .ok [] else .error member
  | .map entries => if entries.isEmpty then .ok [] else .error member
  | .set members => if members.isEmpty then .ok [] else .error member
  | .again whole => notList member whole
  | _ => .error .wrongShape

mutual

/-- the component that data stand for -/
def decode : Datum → Except DecodeError Component
  | .map entries => decodeFields entries (choicesIn entries)
  | .again (.map []) => .error .endless
  | .again whole => decode whole
  | _ => .error .notMap

def decodeAll : List Datum → Except DecodeError (List Component)
  | [] => .ok []
  | d :: ds => do
    let c ← decode d
    let cs ← decodeAll ds
    pure (c :: cs)

/-- the components under the field of that name -/
def componentsIn : Entries → Except DecodeError (List Component)
  | [] => .ok []
  | (.text "components", d) :: _ => componentsOf d
  | _ :: rest => componentsIn rest

def componentsOf : Datum → Except DecodeError (List Component)
  | .list items => decodeAll items
  | .again (.list []) => .error .endless
  | .again (.list items) => decodeAll items
  | d => notList .notMap d

/-- the choices under the field of that name -/
def choicesIn : Entries → Except DecodeError (List ChoiceSpec)
  | [] => .ok []
  | (.text "choices", d) :: _ => choicesOf d
  | _ :: rest => choicesIn rest

def choicesOf : Datum → Except DecodeError (List ChoiceSpec)
  | .list items => decodeChoices items
  | .again (.list []) => .error .endless
  | .again (.list items) => decodeChoices items
  | d => notList .wrongShape d

def decodeChoices : List Datum → Except DecodeError (List ChoiceSpec)
  | [] => .ok []
  | d :: ds => do
    let c ← decodeChoice d
    let cs ← decodeChoices ds
    pure (c :: cs)

def decodeChoice : Datum → Except DecodeError ChoiceSpec
  | .map entries => do
    let key ← require "key" entries
    let literal ← require "literal" entries
    let components ← componentsIn entries
    pure ⟨key, literal, components⟩
  | .again (.map []) => .error .endless
  | .again whole => decodeChoice whole
  | _ => .error .wrongShape

end

end Component

/-- the definition that data stand for -/
def LineDefinition.decode : Datum → Except DecodeError LineDefinition
  | .map entries => do
    let components ← Component.componentsIn entries
    lift (LineDefinition.build (givenOf "section" entries) components (givenOf "description" entries))
  | .again whole => LineDefinition.decode whole
  | _ => .error .notMap

end LineGrammar
