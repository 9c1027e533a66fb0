/-
Definitions as texts.

A `FileFormat` is how data are kept in files: what is written for them, and what a text is read as. There are two,
JSON and YAML.
-/
import LineGrammar.Document.Decode
import LineGrammar.Document.Encode
import LineGrammar.Json.Reader
import LineGrammar.Json.Writer
import LineGrammar.Yaml.Reader
import LineGrammar.Yaml.Writer

namespace LineGrammar

/-- Why a text does not give a definition: it is no JSON, it is no YAML, or what it says is not a definition. -/
inductive TextError where
  | json (f : Json.Fault)
  | yaml (f : Yaml.Fault)
  | decode (e : DecodeError)

def TextError.errorClass : TextError → ErrorClass
  | .json f => f.errorClass
  | .yaml f => f.errorClass
  | .decode e => e.errorClass

def TextError.message? : TextError → Option String
  | .json _ => none
  | .yaml f => f.message?
  | .decode e => e.message?

/-- How data are kept in a file. -/
structure FileFormat where
  write : Datum → Except EncodeError String
  read : String → Except TextError Datum

namespace FileFormat

def json : FileFormat where
  write d := if d.showable then .ok (Json.write d) else .error .unwritable
  read text := (Json.read text.toList).mapError .json

def yaml : FileFormat where
  write d := if d.showable then .ok (Yaml.write d) else .error .unwritable
  read text := (Yaml.read text.toList).mapError .yaml

end FileFormat

namespace LineDefinition

def toText (format : FileFormat) (d : LineDefinition) : Except EncodeError String := do
  let data ← d.encode
  format.write data

def ofText (format : FileFormat) (text : String) : Except TextError LineDefinition := do
  let data ← format.read text
  (decode data).mapError .decode

end LineDefinition

end LineGrammar
