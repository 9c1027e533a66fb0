/-
Components as they are shown in a manual: a placeholder for what is to be written, and the rows of a table.

A switch has a row of its own and one for each of its choices.
-/
import LineGrammar.Datum.Display
import LineGrammar.Grammar.Obstacle

namespace LineGrammar

/-- A row of a table: what is to be written, whether it may be left out, and what it means. -/
structure Row where
  token : String
  optional : String
  description : Datum

/-- a text filled with blanks to a width -/
def leftAligned (width : Nat) (text : String) : String :=
  text ++ String.ofList (List.replicate (width - text.length) ' ')

/-- the fixed-width description; only separators have one -/
def describe : Component → Except Obstacle String
  | .separator label optional description => do
    let meaning ← description.written
    pure ("    " ++ leftAligned 15 label.text ++ leftAligned 15 (if optional then "(optional)" else "") ++ meaning)
  | _ => .ok ""

/-- the placeholder of a component -/
def placeholder : Component → Except Obstacle String
  | .separator label _ _ => .ok label.text
  | .scalar info (.text _) => .ok s!"<{info.name}>"
  | .scalar _ (.number n) => n.datum.written
  | .scalar _ (.flag b) => .ok (String.ofList (flagChars b))
  | .vector info _ (.int _) => .ok s!"<int vec:{info.name}>"
  | .vector info _ (.real _) => .ok s!"<real vec:{info.name}>"
  | .selection s => .ok s!"<{s.info.name}>"
  | .switch s _ _ => .ok s!"<{s.info.name}> [further parameters]"
  | .processed info _ => .ok s!"<{info.name}>"
  | .unsupported _ kind => .error (.unsupported kind)

/-- the literal of a choice with the placeholders behind it -/
def choiceLine (choice : Choice Component) : Except Obstacle String := do
  let parts ← choice.components.mapM placeholder
  pure (" ".intercalate (choice.literal.token.text :: parts))

/-- the row of a choice with that line -/
def choiceRow (s : Selection) (choice : Choice Component) (line : String) : Except Obstacle Row := do
  let key ← choice.literal.value.datum.written
  pure ⟨line, "", .text s!"{s.info.name} = {key}"⟩

/-- the rows of choices, all lines being made before the first row -/
def choiceRows (s : Selection) (choices : List (Choice Component)) : Except Obstacle (List Row) := do
  let lines ← choices.mapM choiceLine
  (choices.zip lines).mapM (fun p => choiceRow s p.1 p.2)

/-- the rows of a component -/
def rows (c : Component) : Except Obstacle (List Row) := do
  let token ← placeholder c
  let own : Row := ⟨token, if c.optional then "yes" else "", c.description⟩
  match c with
  | .switch s _ choices => do
    let more ← choiceRows s choices
    pure (own :: more)
  | _ => pure [own]

/-- the literals that a component accepts -/
def literalTexts : Component → List String
  | .selection s | .switch s _ _ => s.literals.map (fun l => l.token.text)
  | _ => []

end LineGrammar
