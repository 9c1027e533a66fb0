/-
A manual section in reStructuredText: an anchor, the title, the description, the default lines, and in detailed form a
table with the rows of every component.

In a cell of the table the characters that would mean markup are escaped by a backslash; `unescape` takes the
backslashes away again.

Only texts can be written into a section. A description that is empty in any other way is left out; of several parts
that are no texts the section's name comes first, then the cells in their order, and the description last.
-/
import LineGrammar.Grammar.Definition
import LineGrammar.Manual.Placeholder

namespace LineGrammar

/-- How much a manual section shows. -/
inductive Detail where
  | simple
  | detailed
  deriving DecidableEq

def Detail.name : Detail → String
  | .simple => "simple"
  | .detailed => "detailed"

def Detail.ofName? (name : String) : Option Detail :=
  [Detail.simple, .detailed].find? (fun d => d.name == name)

/-- the characters that mean markup in a cell -/
def isMarkup (c : Char) : Bool :=
  c == '\\' || c == '*' || c == '\x60' || c == '|'

/-- the text of a cell, with a backslash before every character that would mean markup -/
def escapeCell (text : List Char) : List Char :=
  text.flatMap (fun c => if isMarkup c then ['\\', c] else [c])

/-- the text with every backslash dropped and the character after it kept -/
def unescape : List Char → List Char
  | '\\' :: c :: rest => c :: unescape rest
  | c :: rest => c :: unescape rest
  | [] => []

def cellText (text : String) : String :=
  String.ofList (escapeCell text.toList)

/-- the name by which other sections refer to this one -/
def anchor (sectionName : String) : String :=
  String.ofList ((lowerCase sectionName.toList).filter (· != ' '))

/-- Why there is no manual section. -/
inductive ManualFault where
  | obstacle (o : Obstacle)
  | sectionNotText (sectionName : Datum)
  | cellNotText (description : Datum)
  | descriptionNotText (description : Datum)

/-- Parts that are no texts are asked for what only texts have. A moment has some of it, and fails where it is given two
texts; a description is joined with texts in the end. -/
def ManualFault.errorClass : ManualFault → ErrorClass
  | .obstacle o => o.errorClass
  | .cellNotText (.moment _) | .descriptionNotText _ => .runtime .type
  | .cellNotText _ | .sectionNotText _ => .runtime .attribute

def ManualFault.message? : ManualFault → Option String
  | .obstacle o => o.message?
  | .sectionNotText _ | .cellNotText _ | .descriptionNotText _ => none

/-- the cell for the description of a component -/
def descriptionCell (description : Datum) : Except ManualFault String :=
  match description with
  | .text s => .ok (cellText s)
  | _ => if description.falsy then .ok "" else .error (.cellNotText description)

/-- the three lines of a row -/
def rowLines (row : Row) : Except ManualFault (List String) := do
  let description ← descriptionCell row.description
  pure ["   * - " ++ cellText row.token, "     - " ++ row.optional, "     - " ++ description]

def tableHeader : List String :=
  [".. list-table::", "   :header-rows: 1", "", "   * - Parameter", "     - optional", "     - Description"]

/-- the lines of the table for one component -/
def componentLines (c : Component) : Except ManualFault (List String) := do
  let all ← (rows c).mapError .obstacle
  all.flatMapM rowLines

/-- the lines of the table -/
def tableLines (d : LineDefinition) : Except ManualFault (List String) := do
  let all ← d.components.flatMapM componentLines
  pure (tableHeader ++ all ++ [""])

/-- the lines before the table, given those for the description -/
def headLines (title : String) (description : List String) (lines : List (List Char)) : List String :=
  [".. _" ++ anchor title ++ ":", "", title, String.ofList (List.replicate title.length '^'), ""] ++ description ++
  [".. code-block:: none", "", "   --" ++ title] ++ lines.map (fun line => "   " ++ String.ofList line) ++ [""]

/-- the lines for the description of a section, none if it is empty -/
def descriptionLines (description : Datum) : Except ManualFault (List String) :=
  match description with
  | .text s => .ok (if s.isEmpty then [] else [s, ""])
  | _ => if description.falsy then .ok [] else .error (.descriptionNotText description)

/-- the title of a section -/
def titleOf (d : LineDefinition) : Except ManualFault String :=
  match d.sectionName with
  | .text s => .ok s
  | other => .error (.sectionNotText other)

/-- the lines of the manual section on a definition; without components there is no table -/
def manualLines (d : LineDefinition) (detail : Detail) (bound : Option Nat := none) :
    Except ManualFault (List String) := do
  let title ← titleOf d
  let lines ← (defaultLines d.components bound).mapError .obstacle
  let table ← if detail == .detailed && !d.components.isEmpty then tableLines d else pure []
  let description ← descriptionLines d.description
  pure (headLines title description lines ++ table)

/-- the manual section on a definition -/
def manual (d : LineDefinition) (detail : Detail) (bound : Option Nat := none) : Except ManualFault String := do
  let lines ← manualLines d detail bound
  pure ("\n".intercalate lines)

end LineGrammar
