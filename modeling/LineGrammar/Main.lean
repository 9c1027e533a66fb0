/-
The command line: the name of a demonstration, and for the pipeline the directory its files go to.
-/
import LineGrammar.Demo

namespace LineGrammar

/-- the demonstration of a name, and the directory its files go to -/
def demoOf? : List String → Option (Demo × String)
  | ["reports"] => some (Demo.reports, ".")
  | ["manuals"] => some (Demo.manuals, ".")
  | ["pipeline", place] => some (Demo.pipeline place, place)
  | _ => none

end LineGrammar

open LineGrammar

def main (args : List String) : IO UInt32 := do
  match demoOf? args with
  | some (demo, place) =>
    for (name, content) in demo.files do
      IO.FS.writeFile s!"{place}/{name}" content
    IO.print demo.text
    pure 0
  | none =>
    IO.eprintln "usage: reports | manuals | pipeline DIRECTORY"
    pure 1
