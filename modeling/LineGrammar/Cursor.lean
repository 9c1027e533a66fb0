/-
The text that is left of a line, and the place where reading goes on.

Reading a line does not move forward through it. A label is looked for on the whole line; what is read is cut out, and
the cursor stays where it was, so the next token read is the one behind. A label counts only as a whole token: blanks
or the ends of the line stand on both sides of it.

`position` is meant to lie on the line. Only `removeAt`, whose cut is made before its position is checked, can leave it
behind the end.
-/
import LineGrammar.ReadError

namespace LineGrammar

structure Cursor where
  line : List Char
  position : Nat
  deriving DecidableEq

/-- whether a text begins with the label as a whole token -/
def beginsWithLabel (label text : List Char) : Bool :=
  label.isPrefixOf text && atBoundary (text.drop label.length)

/-- the offset of the label's first occurrence as a whole token, `free` saying whether one may begin right here -/
def labelOffset? (label : List Char) (free : Bool) : List Char → Option Nat
  | [] => if free && beginsWithLabel label [] then some 0 else none
  | c :: rest =>
    if free && beginsWithLabel label (c :: rest) then some 0
    else (labelOffset? label (isBlank c) rest).map (· + 1)

/-- the index a possibly negative offset stands for: below zero it counts from the end -/
def sliceIndex (size : Nat) (offset : Int) : Nat :=
  if offset < 0 then (size + offset).toNat else offset.toNat

namespace Cursor

/-- the cursor at the beginning of a line -/
def ofLine (line : List Char) : Cursor :=
  ⟨line, 0⟩

/-- the text after the cursor -/
def rest (c : Cursor) : List Char :=
  c.line.drop c.position

def atEnd (c : Cursor) : Bool :=
  c.line.length ≤ c.position

def seekEnd (c : Cursor) : Cursor :=
  { c with position := c.line.length }

def seek (c : Cursor) (position : Int) : Except PositionFault Cursor :=
  if 0 ≤ position && position ≤ c.line.length then .ok { c with position := position.toNat }
  else .error ⟨position, c.line.length⟩

/-! ## Labels -/

/-- the offset of a label on the line -/
def find? (c : Cursor) (label : List Char) : Option Nat :=
  labelOffset? label true c.line

/-- cuts a stretch of the line out and stays where it was; the cut is made even if no cursor can stay there -/
def removeAt (c : Cursor) (start length : Int) : Cursor × Option PositionFault :=
  let size := c.line.length
  let line := c.line.take (sliceIndex size start) ++ c.line.drop (sliceIndex size (start + length))
  let cut : Cursor := { c with line := line }
  match cut.seek start with
  | .ok moved => (moved, none)
  | .error fault => (cut, some fault)

/-- Cuts the label out and stays where it was. Without the label an optional one puts the cursor at the end of the
line, so that the values behind it are read as absent. -/
def consumeLabel (c : Cursor) (label : List Char) (optional : Bool) (field context : Datum) :
    Cursor × Except ReadError Bool :=
  match c.find? label with
  | some start =>
    match c.removeAt start label.length with
    | (after, none) => (after, .ok true)
    | (after, some fault) => (after, .error (.positionOutside fault))
  | none =>
    if optional then (c.seekEnd, .ok false)
    else
      let name := String.ofList label
      (c, .error (.labelMissing name (if field.falsy then .text name else field) context))

/-! ## Tokens -/

/-- the first token after the cursor -/
def peek? (c : Cursor) : Option (List Char) :=
  match skipBlanks c.rest with
  | [] => none
  | body => some (leadingToken body)

/-- the line without the first token after the cursor -/
def withoutToken (c : Cursor) : Cursor :=
  { c with line := c.line.take c.position ++ leadingBlanks c.rest ++ afterToken (skipBlanks c.rest) }

/-- cuts the first token after the cursor out -/
def next (c : Cursor) : Option (List Char) × Cursor :=
  match c.peek? with
  | none => (none, c)
  | some token => (some token, c.withoutToken)

/-- the tokens after the cursor -/
def ahead (c : Cursor) : List (List Char) :=
  tokens c.rest

def shown (c : Cursor) : String :=
  s!"LineCursor(line={quoted (String.ofList c.line)}, position={intShown c.position})"

end Cursor

end LineGrammar
