/-
Demonstrations on the manifold grammars: what each of them prints, and the files it leaves.
-/
import LineGrammar.Document.Catalogue
import LineGrammar.Grammar.ReportText
import LineGrammar.Manifold
import LineGrammar.Manual.Text

namespace LineGrammar

/-- What a demonstration prints, and the files it writes with their contents. -/
structure Demo where
  text : String
  files : List (String × String)

namespace Demo

/-- the text of a manual section, empty if there is none -/
def manualText (d : LineDefinition) (detail : Detail) : String :=
  match manual d detail with
  | .ok text => text
  | .error _ => ""

/-- the content of a catalogue of definitions -/
def catalogueText (definitions : List LineDefinition) : String :=
  ((Catalogue.save .yaml definitions none).content).getD ""

/-- Reports on all grammars, and their catalogue. -/
def reports : Demo where
  text := String.join (Manifold.definitions.map (fun d => d.report.text)) ++
    textOfLines ["✅ Definitions exported to example_catalog.yaml"]
  files := [("example_catalog.yaml", catalogueText Manifold.definitions)]

/-- The manual section on one grammar, in simple and in detailed form. -/
def manuals : Demo where
  text := textOfLines ([bar 80 '=', "RTD GENERATOR DEMO", bar 80 '='] ++
    [Detail.simple, .detailed].flatMap (fun detail =>
      ["", String.ofList (upperCase detail.name.toList) ++ " MODE:", bar 80 '-', manualText Manifold.kinetics detail]))
  files := []

/-- lines to read, by section -/
def sampleLines : List (String × List String) :=
  [("DESIGN SSI MANIFOLD SURF CONDITIONS", ["ConditionID 1 ImplType ElchElectrode thickness 1.5e-3"]),
    ("DESIGN SSI MANIFOLD KINETICS SURF CONDITIONS",
      ["ConditionID 1 ManifoldConditionID 2 KINETIC_MODEL Butler-VolmerReduced " ++
        "NUMSCAL 2 STOICHIOMETRIES -1 1 E- 1 K_R 1.0e-3 ALPHA_A 0.5 ALPHA_C 0.5",
        "ConditionID 2 ManifoldConditionID 1 KINETIC_MODEL NoInterfaceFlux"]),
    ("DESIGN SURF MANIFOLD DIRICH CONDITIONS",
      ["NUMDOF 2 ONOFF 1 0 VAL 0.0 1.0 FUNCT 1 0", "NUMDOF 2 ONOFF 1 VAL 0.0 1.0"])]

/-- a line and the entries it is read as, or the error it ends in -/
def readingLines (d : LineDefinition) (line : String) : List String :=
  let o := d.read line.toList Container.empty
  s!"   {line}" ::
    match o.error with
    | some e => ["      ✗ " ++ e.errorClass.name ++ ": " ++ e.message?.getD ""]
    | none => o.sink.entries.map (fun entry => s!"      {entry.1} = {entry.2.inner}")

def sampleReadings (catalogue : List LineDefinition) : List String :=
  sampleLines.flatMap (fun sample =>
    match catalogue.find? (fun d => d.sectionName.shown == sample.1) with
    | some d => sample.2.flatMap (readingLines d)
    | none => [])

/-- the name of the file with the manual section on a definition -/
def manualFile (d : LineDefinition) : String :=
  String.ofList ((lowerCase d.sectionName.shown.toList).map (fun c => if c == ' ' then '_' else c)) ++ ".rst"

/-- From a catalogue through lines to manual sections, all files in the directory `place`. -/
def pipeline (place : String) : Demo :=
  let stored := catalogueText Manifold.definitions
  let catalogue := (Catalogue.load .yaml s!"{place}/catalog.yaml" stored).toOption.getD []
  { text := textOfLines (
      [bar 80 '=', "COMPLETE PIPELINE DEMO: Catalogue → Lines → Documentation", bar 80 '=',
        "", "1. WRITING AND LOADING CATALOGUE..."] ++
      catalogue.map (fun d => s!"   ✓ {d.sectionName.shown}") ++
      ["", "2. READING LINES..."] ++ sampleReadings catalogue ++
      ["", "3. GENERATING DOCUMENTATION..."] ++
      catalogue.map (fun d => s!"   ✓ Saved {place}/{manualFile d}") ++
      ["", bar 80 '=', "PIPELINE COMPLETE!", bar 80 '='])
    files := ("catalog.yaml", stored) :: catalogue.map (fun d => (manualFile d, manualText d .detailed)) }

end Demo

end LineGrammar
