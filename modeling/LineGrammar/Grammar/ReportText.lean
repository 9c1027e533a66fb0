/-
A report on a grammar as text for a reader.
-/
import LineGrammar.Grammar.Report

namespace LineGrammar

/-- lines, each with a line end -/
def textOfLines (lines : List String) : String :=
  String.join (lines.map (· ++ "\n"))

def bar (width : Nat) (c : Char) : String :=
  String.ofList (List.replicate width c)

namespace Report

/-- the counts in ascending order of the kinds -/
def sortedCounts (r : Report) : List (String × Nat) :=
  (sortedDistinct (r.counts.map Prod.fst)).map (fun kind => (kind, (r.counts.lookup kind).getD 0))

def countLines (r : Report) : List String :=
  r.sortedCounts.map (fun c => s!"    {c.1}: {intShown c.2}")

def dependencyLines (r : Report) : List String :=
  if r.dependencies.isEmpty then []
  else "  Dynamic Lengths:" :: r.dependencies.map (fun d => s!"    {d.1} <- {d.2.shown}")

def warningLines (r : Report) : List String :=
  if r.warnings.isEmpty then ["✨ NO WARNINGS - Grammar looks clean!"]
  else "⚠️  WARNINGS" :: r.warnings.mapIdx (fun i w => s!"  {intShown (i + 1)}. {w}")

/-- the lines of a report -/
def lines (r : Report) : List String :=
  ["", bar 70 '=', s!"GRAMMAR ANALYSIS REPORT: {r.name.shown}", bar 70 '=', "",
    "📊 COMPONENTS",
    s!"  Total Components:      {intShown r.total}",
    s!"  Optional Components:   {intShown r.optional}"] ++
  r.countLines ++
  ["",
    "🔀 SWITCHES",
    s!"  Branches:              {intShown r.branches}",
    s!"  Switch Depth:          {intShown r.depth}",
    "",
    "🔑 CONTAINER KEYS",
    "  Keys Written:          " ++ ", ".intercalate r.keys] ++
  r.dependencyLines ++ [""] ++ r.warningLines ++ [""]

def text (r : Report) : String :=
  textOfLines r.lines

end Report

end LineGrammar
