/-
Catalogues: files that hold the definitions of several sections.

A catalogue is one map whose field `definitions` lists the definitions. Loading refuses a section that comes twice;
saving does not look for one, but it writes nothing at all unless every definition has a form as data. How the data are
kept in the file is left to a format.
-/
import LineGrammar.Document.Text

namespace LineGrammar

/-- Why a catalogue is not loaded. -/
inductive CatalogueError where
  | text (e : TextError)
  | repeatedSection (sectionName : Datum) (path : String)
  /-- the section of a definition could not be looked for in the catalogue -/
  | sectionUnfit (sectionName : Datum)

def CatalogueError.errorClass : CatalogueError → ErrorClass
  | .text e => e.errorClass
  | .repeatedSection .. => .runtime .value
  | .sectionUnfit _ => .runtime .type

def CatalogueError.message? : CatalogueError → Option String
  | .text e => e.message?
  | .repeatedSection sectionName path =>
    if sectionName.showable then some s!"Section '{sectionName.shown}' defined twice in {path}" else none
  | .sectionUnfit _ => none

namespace Catalogue

/-- the data of a catalogue -/
def encode (definitions : List LineDefinition) : Except EncodeError Datum := do
  let ds ← definitions.mapM LineDefinition.encode
  pure (.record [("definitions", .list ds)])

/-- the definitions that data stand for, the first error in their order coming first; `known` are those before -/
def decodeFrom (path : String) (known : List LineDefinition) : List Datum → Except CatalogueError (List LineDefinition)
  | [] => .ok known
  | d :: rest =>
    match LineDefinition.decode d with
    | .error e => .error (.text (.decode e))
    | .ok definition =>
      if !definition.sectionName.hashable then .error (.sectionUnfit definition.sectionName)
      else if known.any (fun k => k.sectionName.same definition.sectionName) then
        .error (.repeatedSection definition.sectionName path)
      else decodeFrom path (known ++ [definition]) rest

/-- the list under the field `definitions`; an empty document and a missing field have none -/
def members (data : Datum) : Except DecodeError (List Datum) :=
  if data.falsy then .ok []
  else
    match data with
    | .map entries =>
      match Datum.field? "definitions" entries with
      | none => .ok []
      | some (.list items) => .ok items
      | some d => Component.notList .notMap d
    | _ => .error .notMap

/-- the definitions of a catalogue, in the order of the file -/
def decode (path : String) (data : Datum) : Except CatalogueError (List LineDefinition) :=
  match members data with
  | .error e => .error (.text (.decode e))
  | .ok items => decodeFrom path [] items

/-- the definitions in the text of a file -/
def load (format : FileFormat) (path text : String) : Except CatalogueError (List LineDefinition) :=
  match format.read text with
  | .error e => .error (.text e)
  | .ok data => decode path data

/-- What saving does to a file: its content afterwards, and the error if there was one. -/
structure Saved where
  content : Option String
  error : Option EncodeError

/-- saves definitions to a file with the given content; the file is only opened once everything is encoded, and stays
empty if the data cannot be written then -/
def save (format : FileFormat) (definitions : List LineDefinition) (content : Option String) : Saved :=
  match encode definitions with
  | .error e => ⟨content, some e⟩
  | .ok data =>
    match format.write data with
    | .ok text => ⟨some text, none⟩
    | .error e => ⟨some "", some e⟩

end Catalogue

end LineGrammar
