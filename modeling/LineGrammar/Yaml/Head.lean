/-
The place in a text from which reading goes on, with its line and its column.
-/
import LineGrammar.Yaml.Character

namespace LineGrammar.Yaml

/-- whether the text begins with a mark for the beginning or the end of a document -/
def documentMarkNext (text : List Char) : Bool :=
  (['-', '-', '-'].isPrefixOf text || ['.', '.', '.'].isPrefixOf text) && gapNext (text.drop 3)

/-- The text that is left, and how many characters, lines and columns are before it. No step from here on can be taken
`bound` times, for it is more than the characters of the whole text. -/
structure Head where
  rest : List Char
  index : Nat
  line : Nat
  column : Nat
  bound : Nat

namespace Head

def start (text : List Char) : Head :=
  ⟨text, 0, 0, 0, text.length + 1⟩

def peek? (h : Head) : Option Char :=
  h.rest.head?

/-- whether the next character is the given one -/
def sees (h : Head) (c : Char) : Bool :=
  h.peek? == some c

/-- one character further; a carriage return before a line feed does not end the line by itself -/
def step (h : Head) : Head :=
  match h.rest with
  | [] => h
  | c :: rest =>
    let behind := { h with rest, index := h.index + 1 }
    if isBreak c && !(c == '\r' && rest.head? == some '\n') then { behind with line := h.line + 1, column := 0 }
    else if c == '\uFEFF' then behind
    else { behind with column := h.column + 1 }

/-- so many characters further -/
def advance : Nat → Head → Head
  | 0, h => h
  | n + 1, h => advance n h.step

/-- the head behind all characters of a kind that come next -/
def skipWhile (p : Char → Bool) (h : Head) : Head :=
  h.advance (h.rest.takeWhile p).length

def skipSpaces (h : Head) : Head :=
  h.skipWhile (· == ' ')

/-- the line end that comes next, as the character it stands for, and the head behind it -/
def takeBreak? (h : Head) : Option (Char × Head) :=
  match h.rest with
  | '\r' :: '\n' :: _ => some ('\n', h.advance 2)
  | c :: _ => if isBreak c then some (if c == '\u2028' || c == '\u2029' then c else '\n', h.step) else none
  | [] => none

/-- the head behind a comment, if one comes next -/
def skipComment (h : Head) : Head :=
  if h.sees '#' then h.skipWhile (fun c => !isBreak c) else h

/-- the head at the next thing on the same or a later line, and whether a line ended before it -/
def toNext : Nat → Bool → Head → Head × Bool
  | 0, broken, h => (h, broken)
  | fuel + 1, broken, h =>
    let h := h.skipSpaces.skipComment
    match h.takeBreak? with
    | some (_, behind) => toNext fuel true behind
    | none => (h, broken)

end Head

end LineGrammar.Yaml
