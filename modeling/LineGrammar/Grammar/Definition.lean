/-
The grammar of one kind of line.

A definition is checked once, when it is built: every length taken from a field is resolved on every branch, and no
branch writes a name twice. Both are part of the type. Its section and its description are kept as they were given,
nearly always as texts.
-/
import LineGrammar.Component.Build
import LineGrammar.Grammar.Report
import LineGrammar.Reading.Basic

namespace LineGrammar

structure LineDefinition where
  sectionName : Datum
  components : List Component
  description : Datum
  resolved : (analyze sectionName components).unresolved = []
  written_once : (analyze sectionName components).repeated = []

namespace LineDefinition

/-- the definition of given components, unless a check fails; unresolved lengths come before repeated names -/
def build (sectionName : Datum) (components : List Component) (description : Datum) :
    Except BuildError LineDefinition :=
  if !sourcesHashable components then .error .unhashable
  else if h : (analyze sectionName components).unresolved = [] then
    if h' : (analyze sectionName components).repeated = [] then
      .ok ⟨sectionName, components, description, h, h'⟩
    else .error (.fault (.repeatedKeys (analyze sectionName components).repeated sectionName))
  else .error (.fault (.unresolvedLengths (analyze sectionName components).unresolved sectionName))

def report (d : LineDefinition) : Report :=
  analyze d.sectionName d.components

/-- what is suspicious about the definition -/
def warnings (d : LineDefinition) : List String :=
  d.report.warnings.map (fun w => s!"{d.sectionName.shown}: {w}")

/-- the names that some branch writes, in the order in which they first come -/
def keys (d : LineDefinition) : List String :=
  d.report.keys

/-- reads one line into a sink -/
def read {σ : Type} [Sink σ] (d : LineDefinition) (line : List Char) (sink : σ) : Outcome σ :=
  readLine d.sectionName d.components line sink

end LineDefinition

end LineGrammar
