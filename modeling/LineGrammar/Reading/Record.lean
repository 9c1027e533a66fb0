/-
What there is to tell about a line while it is read: every component that was read, every choice that was made, and
every selection that fell back to its default.
-/
import LineGrammar.Reading.Basic

namespace LineGrammar

section

variable {σ : Type} [Sink σ]

def readNote (context : Datum) (c : Component) : String :=
  s!"Read {c.kindName} '{c.name}' in section '{context.shown}'"

def choiceNote (context : Datum) (s : Selection) (literal : Literal) : String :=
  s!"Switch '{s.info.name}' selected '{literal.token.text}' in section '{context.shown}'"

/-- the note of a selection none of whose literals is on the line -/
def defaultNotes (context : Datum) (s : Selection) (c : Cursor) : List String :=
  match findLiteral? s c with
  | some _ => []
  | none =>
    [s!"No literal of '{s.info.name}' in section '{context.shown}', using default '{s.default.token.text}'"]

mutual

/-- the notes on one component, the last one saying that it was read -/
def notes (context : Datum) : Component → Cursor → σ → List String
  | .selection s, c, sink =>
    let o := readSelection s c sink
    defaultNotes context s c ++ (if o.error.isSome then [] else [readNote context (.selection s)])
  | .switch s key choices, c, sink =>
    let o := readSelection s c sink
    let inner := if o.error.isSome then [] else notesOfChosen context s (decodedKey s o.sink) choices o.cursor o.sink
    let failed := (read context (.switch s key choices) c sink).error.isSome
    defaultNotes context s c ++ inner ++ (if failed then [] else [readNote context (.switch s key choices)])
  | x, c, sink => if (read context x c sink).error.isSome then [] else [readNote context x]

/-- the notes on components read in order -/
def notesOfAll (context : Datum) : List Component → Cursor → σ → List String
  | [], _, _ => []
  | x :: xs, c, sink =>
    let o := read context x c sink
    notes context x c sink ++ (if o.error.isSome then [] else notesOfAll context xs o.cursor o.sink)

/-- the notes on the choice with the given key -/
def notesOfChosen (context : Datum) (s : Selection) (key : Datum) :
    List (Choice Component) → Cursor → σ → List String
  | [], _, _ => []
  | ⟨literal, components⟩ :: rest, c, sink =>
    if literal.value.datum.same key then
      choiceNote context s literal :: notesOfAll context components c sink
    else notesOfChosen context s key rest c sink

end

end

end LineGrammar
