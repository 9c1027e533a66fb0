/-
The lexemes of a YAML text: its marks and scalars, with the beginnings and ends of blocks that follow from indentation.

That something is the key of a mapping shows only at the colon behind it. Every lexeme that may turn out to be one is
remembered as a candidate; when the colon comes, the marks for the key go in front of it.

A text that cannot be cut to its end is cut as far as a reader would see: up to the first candidate that may still turn
out to be a key. There the lexeme `broken` stands, so that a reader who fails before it does not hear of it.
-/
import LineGrammar.Yaml.Scalar
import LineGrammar.Yaml.Tag

namespace LineGrammar.Yaml

/-- What a directive settles: the version of YAML, or what a handle stands for; directives of other names nothing. -/
inductive Directive where
  | version
  | stem (handle text : String)
  | other
  deriving DecidableEq

inductive Lexeme where
  | directive (d : Directive)
  | documentStart
  | documentEnd
  | listBlock
  | mapBlock
  | blockEnd
  | openList
  | closeList
  | openMap
  | closeMap
  | item
  | comma
  | key
  | value
  | alias (name : String)
  | anchor (name : String)
  /-- a tag, and the place in the text where it stands -/
  | tag (t : Tag) (place : Nat)
  | scalar (plain : Bool) (text : List Char)
  /-- the place behind which the text cannot be cut into lexemes -/
  | broken (fault : Fault)
  deriving DecidableEq

/-- What may turn out to be a key: where it begins, how many lexemes come before it, and whether it has to be one. -/
structure Candidate where
  depth : Nat
  before : Nat
  required : Bool
  index : Nat
  line : Nat
  column : Nat

/-- How far a text has been cut into lexemes, the last one first. `margin` is the column of the innermost block. -/
structure Scan where
  head : Head
  depth : Nat
  margin : Int
  margins : List Int
  keyAllowed : Bool
  candidates : List Candidate
  lexemes : List Lexeme
  count : Nat

namespace Scan

def start (text : List Char) : Scan :=
  ⟨if text.head? == some '\uFEFF' then (Head.start text).step else Head.start text, 0, -1, [], true, [], [], 0⟩

def inFlow (s : Scan) : Bool :=
  s.depth != 0

def emit (s : Scan) (l : Lexeme) : Scan :=
  { s with lexemes := l :: s.lexemes, count := s.count + 1 }

/-- puts lexemes, the last one first, behind the first `before` ones -/
def insertAt (s : Scan) (before : Nat) (ls : List Lexeme) : Scan :=
  let later := s.count - before
  { s with lexemes := s.lexemes.take later ++ ls ++ s.lexemes.drop later, count := s.count + ls.length }

/-- the candidates of other depths -/
def otherCandidates (s : Scan) : List Candidate :=
  s.candidates.filter (fun c => c.depth != s.depth)

def candidate? (s : Scan) : Option Candidate :=
  s.candidates.find? (fun c => c.depth == s.depth)

/-- gives up the candidate of this depth, which must not be required -/
def dropCandidate (s : Scan) : Except Fault Scan :=
  match s.candidate? with
  | some c => if c.required then .error .malformed else .ok { s with candidates := s.otherCandidates }
  | none => .ok s

/-- whether a candidate is on an earlier line or too far back -/
def isStale (s : Scan) (c : Candidate) : Bool :=
  c.line != s.head.line || 1024 < s.head.index - c.index

/-- gives up the candidates of earlier lines and those too far back -/
def dropStale (s : Scan) : Except Fault Scan :=
  if s.candidates.any (fun c => s.isStale c && c.required) then .error .malformed
  else .ok { s with candidates := s.candidates.filter (fun c => !s.isStale c) }

/-- remembers that a key may begin here -/
def saveCandidate (s : Scan) : Except Fault Scan :=
  if s.keyAllowed then do
    let required := !s.inFlow && s.margin == s.head.column
    let s ← s.dropCandidate
    let here : Candidate := ⟨s.depth, s.count, required, s.head.index, s.head.line, s.head.column⟩
    pure { s with candidates := here :: s.candidates }
  else .ok s

/-- ends the blocks whose column is beyond the given one -/
def closeBlocks (column : Int) (margin : Int) : List Int → Scan → Scan
  | [], s =>
    if column < margin then { s with margin := -1, margins := [] }.emit .blockEnd
    else { s with margin, margins := [] }
  | outer :: rest, s =>
    if column < margin then closeBlocks column outer rest (s.emit .blockEnd)
    else { s with margin, margins := outer :: rest }

def unwind (s : Scan) (column : Int) : Scan :=
  if s.inFlow || s.margin ≤ column then s else closeBlocks column s.margin s.margins s

/-- whether a block may begin at a column -/
def deeper (s : Scan) (column : Nat) : Bool :=
  s.margin < column

def enter (s : Scan) (column : Nat) : Scan :=
  { s with margins := s.margin :: s.margins, margin := column }

/-- begins a block here unless the one around it has the same column -/
def openBlock (s : Scan) (l : Lexeme) : Scan :=
  if s.deeper s.head.column then (s.enter s.head.column).emit l else s

def skip (n : Nat) (s : Scan) : Scan :=
  { s with head := s.head.advance n }

/-- goes past the line end that comes next, if one does -/
def skipBreak (s : Scan) : Scan :=
  match s.head.takeBreak? with
  | some (_, head) => { s with head }
  | none => s

/-! ## Marks -/

/-- a mark between documents, or the end of the text: all blocks end -/
def leaveBlocks (s : Scan) : Except Fault Scan := do
  let s ← (s.unwind (-1)).dropCandidate
  pure { s with keyAllowed := false }

def takeDocumentMark (s : Scan) : Except Fault Scan := do
  let l := if s.head.sees '-' then Lexeme.documentStart else .documentEnd
  let s ← s.leaveBlocks
  pure ((s.skip 3).emit l)

def openFlow (l : Lexeme) (s : Scan) : Except Fault Scan := do
  let s ← s.saveCandidate
  pure (({ s with depth := s.depth + 1, keyAllowed := true }.skip 1).emit l)

def closeFlow (l : Lexeme) (s : Scan) : Except Fault Scan := do
  if s.depth == 0 then .error .malformed
  else
    let s ← s.dropCandidate
    pure (({ s with depth := s.depth - 1, keyAllowed := false }.skip 1).emit l)

def takeComma (s : Scan) : Except Fault Scan := do
  let s ← { s with keyAllowed := true }.dropCandidate
  pure ((s.skip 1).emit .comma)

def takeItem (s : Scan) : Except Fault Scan := do
  if !s.inFlow && !s.keyAllowed then .error .malformed
  else
    let s := if s.inFlow then s else s.openBlock .listBlock
    let s ← { s with keyAllowed := true }.dropCandidate
    pure ((s.skip 1).emit .item)

def takeKey (s : Scan) : Except Fault Scan := do
  if !s.inFlow && !s.keyAllowed then .error .malformed
  else
    let s := if s.inFlow then s else s.openBlock .mapBlock
    let s ← { s with keyAllowed := !s.inFlow }.dropCandidate
    pure ((s.skip 1).emit .key)

/-- A colon. What was a candidate for a key is one now, and may begin a block at its own column. -/
def takeValue (s : Scan) : Except Fault Scan :=
  match s.candidate? with
  | some c =>
    let s := { s with candidates := s.otherCandidates, keyAllowed := false }
    let s :=
      if !s.inFlow && s.deeper c.column then (s.enter c.column).insertAt c.before [.key, .mapBlock]
      else s.insertAt c.before [.key]
    .ok ((s.skip 1).emit .value)
  | none => do
    if !s.inFlow && !s.keyAllowed then .error .malformed
    else
      let s := if s.inFlow then s else s.openBlock .mapBlock
      let s ← { s with keyAllowed := !s.inFlow }.dropCandidate
      pure ((s.skip 1).emit .value)

/-! ## Names and scalars -/

/-- the name of an anchor or an alias -/
def takeName (make : String → Lexeme) (s : Scan) : Except Fault Scan := do
  let s ← s.saveCandidate
  let body := s.head.rest.drop 1
  let name := body.takeWhile isNameChar
  let behind := body.drop name.length
  let ends := gapNext behind || (behind.head?.map "?:,]\x7d%@\x60".toList.contains).getD true
  if name.isEmpty || !ends then .error .malformed
  else pure (({ s with keyAllowed := false }.skip (1 + name.length)).emit (make (String.ofList name)))

def takeTag (s : Scan) : Except Fault Scan := do
  let s ← s.saveCandidate
  match scanTag? s.head.rest with
  | some (tag, size) => pure (({ s with keyAllowed := false }.skip size).emit (.tag tag s.head.index))
  | none => .error .malformed

def takeBlock (folded : Bool) (s : Scan) : Except Fault Scan := do
  let s ← { s with keyAllowed := true }.dropCandidate
  let (text, after) ← scanBlock folded (max 1 (s.margin + 1).toNat) s.head.step
  pure ({ s with head := after }.emit (.scalar false text))

def takeQuoted (double : Bool) (s : Scan) : Except Fault Scan := do
  let s ← s.saveCandidate
  let (text, after) ← scanQuoted double s.head
  pure ({ s with keyAllowed := false, head := after }.emit (.scalar false text))

def takePlain (s : Scan) : Except Fault Scan := do
  let s ← s.saveCandidate
  let ((text, after), ended) := scanPlain s.inFlow (s.margin + 1) s.head
  pure ({ s with keyAllowed := ended, head := after }.emit (.scalar true text))

/-- whether a plain scalar can begin here -/
def startsPlain (inFlow : Bool) (c : Char) (rest : List Char) : Bool :=
  !("-?:,[]\x7b\x7d#&*!|>'\x22%@\x60".toList.contains c || isGapOrBreak c) ||
    (!gapNext rest && (c == '-' || (!inFlow && (c == '?' || c == ':'))))

/-! ## Directives -/

/-- whether nothing but blanks and a comment behind them is left of a line -/
def directiveEnds (text : List Char) : Bool :=
  match text with
  | [] => true
  | c :: _ => c == ' ' && ((text.dropWhile (· == ' ')).head?.map (· == '#')).getD true

/-- whether a directive asks for a version of the first series -/
def versionFits (text : List Char) : Bool :=
  let body := text.dropWhile (· == ' ')
  let major := body.takeWhile isDigit
  match body.dropWhile isDigit with
  | '.' :: rest =>
    digitsValue major == 1 && !(rest.takeWhile isDigit).isEmpty && directiveEnds (rest.dropWhile isDigit)
  | _ => false

/-- whether a part of the version that a directive asks for has too many digits to be read -/
def versionTooLong (text : List Char) : Bool :=
  let body := text.dropWhile (· == ' ')
  digitLimit < (body.takeWhile isDigit).length ||
    match body.dropWhile isDigit with
    | '.' :: rest => digitLimit < (rest.takeWhile isDigit).length
    | _ => false

/-- the handle that a complete directive declares, with what it stands for -/
def declaredStem? (text : List Char) : Option (String × String) := do
  let body := text.dropWhile (· == ' ')
  let (handle, size) ← scanHandle? body
  let behind := body.drop size
  let text := behind.dropWhile (· == ' ')
  let (stem, extent) ← scanUri? text
  if behind.head? == some ' ' && directiveEnds (text.drop extent) then pure (handle, stem) else none

/-- what a directive settles, given its name and the text behind the name -/
def directiveOf (name text : List Char) : Except Fault Directive :=
  if name == "YAML".toList then
    if versionTooLong text then .error .noValue
    else if versionFits text then .ok .version
    else .error .malformed
  else if name == "TAG".toList then
    match declaredStem? text with
    | some (handle, stem) => .ok (.stem handle stem)
    | none => .error .malformed
  else .ok .other

/-- a directive with the end of its line, behind which no key may begin -/
def takeDirective (s : Scan) : Except Fault Scan := do
  let s ← s.leaveBlocks
  let line := (s.head.rest.drop 1).takeWhile (fun c => !isBreak c)
  let name := line.takeWhile isNameChar
  let text := line.drop name.length
  if name.isEmpty || (text.head?.map (· != ' ')).getD false then .error .malformed
  else
    let d ← directiveOf name text
    pure ((s.skip (1 + line.length)).skipBreak.emit (.directive d))

/-! ## The whole text -/

/-- takes the lexeme that begins with the next character -/
def takeFrom (c : Char) (rest : List Char) (s : Scan) : Except Fault Scan :=
  let ends := gapNext rest
  if c == '%' && s.head.column == 0 then s.takeDirective
  else if s.head.column == 0 && documentMarkNext (c :: rest) then s.takeDocumentMark
  else if c == '[' then s.openFlow .openList
  else if c == '\x7b' then s.openFlow .openMap
  else if c == ']' then s.closeFlow .closeList
  else if c == '\x7d' then s.closeFlow .closeMap
  else if c == ',' then s.takeComma
  else if c == '-' && ends then s.takeItem
  else if c == '?' && (s.inFlow || ends) then s.takeKey
  else if c == ':' && (s.inFlow || ends) then s.takeValue
  else if c == '*' then s.takeName .alias
  else if c == '&' then s.takeName .anchor
  else if c == '!' then s.takeTag
  else if c == '|' && !s.inFlow then s.takeBlock false
  else if c == '>' && !s.inFlow then s.takeBlock true
  else if c == '\x27' then s.takeQuoted false
  else if c == '\x22' then s.takeQuoted true
  else if startsPlain s.inFlow c rest then s.takePlain
  else .error .malformed

/-- goes to the next lexeme, past blanks, comments and ended blocks -/
def approach (s : Scan) : Except Fault Scan := do
  let (head, broken) := Head.toNext s.head.bound false s.head
  let s ← { s with head, keyAllowed := s.keyAllowed || (broken && !s.inFlow) }.dropStale
  pure (s.unwind s.head.column)

/-- takes the next lexeme, and says whether the text goes on behind it -/
def takeNext (s : Scan) : Except Fault (Scan × Bool) := do
  let s ← s.approach
  match s.head.rest with
  | [] => pure (← s.leaveBlocks, false)
  | c :: rest => pure (← s.takeFrom c rest, true)

/-- how many lexemes there are before the first candidate that may still turn out to be a key -/
def settled (s : Scan) : Nat :=
  ((s.candidates.filter (fun c => !s.isStale c)).map Candidate.before).foldl min s.count

/-- what a reader sees of a text that cannot be cut any further -/
def breakOff (s : Scan) (fault : Fault) : List Lexeme :=
  s.lexemes.reverse.take s.settled ++ [.broken fault]

/-- all lexemes up to the end of the text; each of them uses up a character -/
def takeAll : Nat → Scan → List Lexeme
  | 0, s => s.breakOff .malformed
  | fuel + 1, s =>
    match s.takeNext with
    | .ok (next, true) => takeAll fuel next
    | .ok (last, false) => last.lexemes.reverse
    | .error fault => s.breakOff fault

end Scan

/-- the lexemes of a text -/
def lexemes (text : List Char) : List Lexeme :=
  if text.all isAllowed then Scan.takeAll (text.length + 1) (.start text) else [.broken .malformed]

end LineGrammar.Yaml
