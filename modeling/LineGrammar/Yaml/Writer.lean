/-
Data written as YAML in block style.

The items of a list stand under their key without further indentation, everything else two columns further in. A text
is written plain if that reads back as the text, in single quotes if it is printable ASCII, and in double quotes
otherwise. Long texts are folded at blanks beyond column 80.
-/
import LineGrammar.Binary64.Shortest
import LineGrammar.Datum.Display
import LineGrammar.Yaml.Head
import LineGrammar.Yaml.Plain

namespace LineGrammar.Yaml

/-- the line ends a written text can hold without quotes; a carriage return is not among them -/
def isWrittenBreak (c : Char) : Bool :=
  isBreak c && c != '\r'

/-- the column beyond which a text is folded -/
def lineWidth : Nat := 80

/-! ## The pen -/

/-- What has been written, backwards, and where the pen is: `open` says that blanks may be left out before the next
mark, `fresh` that only indentation and list marks stand on the line. -/
structure Pen where
  written : List Char
  column : Nat
  blank : Bool
  fresh : Bool

namespace Pen

def start : Pen :=
  ⟨[], 0, true, true⟩

/-- characters without a line end -/
def put (p : Pen) (text : List Char) : Pen :=
  { p with written := text.reverse ++ p.written, column := p.column + text.length }

def newLine (p : Pen) (c : Char) : Pen :=
  { written := c :: p.written, column := 0, blank := true, fresh := true }

/-- goes to a column, on the next line if need be -/
def indent (p : Pen) (column : Nat) : Pen :=
  let p := if !p.fresh || column < p.column || (p.column == column && !p.blank) then p.newLine '\n' else p
  if p.column < column then { p.put (List.replicate (column - p.column) ' ') with blank := true } else p

/-- A mark, with a blank before it unless there is one or none is needed. After the mark of a list item the line counts
as fresh still. -/
def mark (p : Pen) (text : List Char) (needsBlank : Bool) (leavesBlank keepsFresh : Bool) : Pen :=
  let text := if p.blank || !needsBlank then text else ' ' :: text
  { p.put text with blank := leavesBlank, fresh := p.fresh && keepsFresh }

/-- the pen inside the text of a scalar -/
def inText (p : Pen) : Pen :=
  { p with blank := false, fresh := false }

end Pen

/-! ## How a text may be written -/

inductive Style where
  | plain
  | single
  | double
  deriving DecidableEq

/-- whether a character cannot stand in a text that is not in double quotes -/
def isSpecial (c : Char) : Bool :=
  !(c == '\n' || (' ' ≤ c && c ≤ '~'))

/-- whether a text begins with a character that would mean markup -/
def startsWithMark : List Char → Bool
  | [] => false
  | c :: rest => "#,[]\x7b\x7d&*!|>'\x22%@\x60".toList.contains c || (['?', ':', '-'].contains c && gapNext rest)

/-- whether something that means markup comes after the first character; `before` is the character before -/
def holdsMark (before : Char) : List Char → Bool
  | [] => false
  | c :: rest => (c == ':' && gapNext rest) || (c == '#' && isGapOrBreak before) || holdsMark c rest

def beginsDocument (text : List Char) : Bool :=
  ['-', '-', '-'].isPrefixOf text || ['.', '.', '.'].isPrefixOf text

/-- whether the text holds the first kind of character directly before the second kind -/
def adjacent (p q : Char → Bool) : List Char → Bool
  | c :: d :: rest => (p c && q d) || adjacent p q (d :: rest)
  | _ => false

def isSpace (c : Char) : Bool :=
  c == ' '

/-- whether the characters allow the text to stand without quotes -/
def allowsPlain (text : List Char) : Bool :=
  match text with
  | [] => false
  | c :: rest =>
    !text.any isSpecial && !text.any isWrittenBreak && c != ' ' && text.getLast? != some ' ' &&
      !beginsDocument text && !startsWithMark text && !holdsMark c rest

/-- whether the characters allow the text to stand in single quotes -/
def allowsSingle (text : List Char) : Bool :=
  !text.any isSpecial && !adjacent isWrittenBreak isSpace text && !adjacent isSpace isWrittenBreak text

/-- The style of a text. `isKey` is for a key on one line, which no line end may break. -/
def styleOf (text : List Char) (isKey : Bool) : Style :=
  if allowsPlain text && isPlainText text then .plain
  else if allowsSingle text && !(isKey && text.any isWrittenBreak) then .single
  else .double

/-! ## Texts -/

/-- the text in runs of blanks, runs of line ends, and what is between -/
def runs (text : List Char) : List (List Char) :=
  text.splitBy (fun a b => (a == ' ') == (b == ' ') && isWrittenBreak a == isWrittenBreak b)

/-- writes the runs of a plain text; a single blank may become a line end -/
def writePlainRuns (column : Nat) (fold : Bool) : Pen → List (List Char) → Pen
  | p, [] => p
  | p, run :: rest =>
    if run == [' '] && lineWidth < p.column && fold then writePlainRuns column fold (p.indent column).inText rest
    else writePlainRuns column fold (p.put run) rest

def writePlain (text : List Char) (column : Nat) (fold : Bool) (p : Pen) : Pen :=
  let p := if p.blank then p else p.put [' ']
  writePlainRuns column fold p.inText (runs text)

/-- the line ends of a text in single quotes, the first one doubled because folding would drop it -/
def writeBreaks (column : Nat) (run : List Char) (p : Pen) : Pen :=
  let p := if run.head? == some '\n' then p.newLine '\n' else p
  (run.foldl Pen.newLine p).indent column

/-- writes the runs of a text in single quotes; `first` is true of its first run -/
def writeSingleRuns (column : Nat) (fold : Bool) : Bool → Pen → List (List Char) → Pen
  | _, p, [] => p
  | first, p, run :: rest =>
    let p :=
      if run.head? == some ' ' then
        if run == [' '] && lineWidth < p.column && fold && !first && !rest.isEmpty then p.indent column else p.put run
      else if run.any isWrittenBreak then writeBreaks column run p
      else p.put (run.flatMap (fun c => if c == '\x27' then [c, c] else [c]))
    writeSingleRuns column fold false p rest

def writeSingle (text : List Char) (column : Nat) (fold : Bool) (p : Pen) : Pen :=
  let p := p.mark ['\x27'] true false false
  (writeSingleRuns column fold true p (runs text)).mark ['\x27'] false false false

/-- the characters with an escape of one letter -/
def letterEscapes : List (Nat × Char) :=
  [(0, '0'), (7, 'a'), (8, 'b'), (9, 't'), (10, 'n'), (11, 'v'), (12, 'f'), (13, 'r'), (27, 'e'), (0x22, '\x22'),
    (0x5C, '\\'), (0x85, 'N'), (0xA0, '_'), (0x2028, 'L'), (0x2029, 'P')]

def upperHex (width n : Nat) : List Char :=
  (hexText width n).map Char.toUpper

def needsEscape (c : Char) : Bool :=
  c == '\x22' || c == '\\' || !(' ' ≤ c && c ≤ '~')

def escape (c : Char) : List Char :=
  let n := c.toNat
  match letterEscapes.lookup n with
  | some letter => ['\\', letter]
  | none =>
    if n < 0x100 then '\\' :: 'x' :: upperHex 2 n
    else if n < 0x10000 then '\\' :: 'u' :: upperHex 4 n
    else '\\' :: 'U' :: upperHex 8 n

/-- ends the line after a backslash; a blank that begins the next line is protected by a backslash -/
def breakDouble (column : Nat) (behind : List Char) (p : Pen) : Pen :=
  let p := ((p.put ['\\']).indent column).inText
  if behind.head? == some ' ' then p.put ['\\'] else p

/-- Writes a text in double quotes. `pending` holds the characters that are not written yet, backwards, and `index`
counts the characters before this one. A line may end before a blank, on both sides of an escape, and nowhere else. -/
def writeDoubleFrom (size column : Nat) (fold : Bool) : Nat → List Char → List Char → Pen → Pen
  | _, pending, [], p => p.put pending.reverse
  | index, pending, c :: rest, p =>
    let mayBreak := fold && 0 < index && index + 1 < size
    if needsEscape c then
      let p := (p.put pending.reverse).put (escape c)
      let p := if mayBreak && lineWidth + 1 < p.column then breakDouble column rest p else p
      writeDoubleFrom size column fold (index + 1) [] rest p
    else if mayBreak && (c == ' ' || pending.isEmpty) && lineWidth < p.column + pending.length then
      writeDoubleFrom size column fold (index + 1) [c] rest (breakDouble column (c :: rest) (p.put pending.reverse))
    else writeDoubleFrom size column fold (index + 1) (c :: pending) rest p

def writeDouble (text : List Char) (column : Nat) (fold : Bool) (p : Pen) : Pen :=
  let p := p.mark ['\x22'] true false false
  (writeDoubleFrom text.length column fold 0 [] text p).mark ['\x22'] false false false

def writeText (text : List Char) (column : Nat) (isKey : Bool) (p : Pen) : Pen :=
  match styleOf text isKey with
  | .plain => writePlain text column (!isKey) p
  | .single => writeSingle text column (!isKey) p
  | .double => writeDouble text column (!isKey) p

/-! ## Data -/

/-- Numbers of double precision in YAML: a point before every exponent, and words that begin with one. -/
def numberLayout : Binary64.Layout :=
  ⟨".nan", ".inf", true⟩

/-- the text of a scalar other than a text -/
def scalarChars : Datum → List Char
  | .null => "null".toList
  | .bool b => (if b then "true" else "false").toList
  | .int n => intText n
  | .real x => x.written numberLayout
  | d => d.shown.toList

/-- the column of what stands inside a block at `column`, outside any block at the left margin -/
def innerColumn (column : Option Nat) : Nat :=
  match column with
  | none => 0
  | some n => n + 2

/-- the column at which a folded scalar goes on -/
def foldColumn (column : Option Nat) : Nat :=
  column.getD 0 + 2

/-- whether a datum is a key on the line of its value: short, on one line, and not empty -/
def isSimpleKey : Datum → Bool
  | .text s => !s.isEmpty && !s.toList.any isWrittenBreak && s.length + 5 < 128
  | .list items => items.isEmpty
  | .map entries => entries.isEmpty
  | _ => true

def writeScalar (column : Option Nat) (isKey : Bool) (d : Datum) (p : Pen) : Pen :=
  match d with
  | .text s => writeText s.toList (foldColumn column) isKey p
  | d => writePlain (scalarChars d) (foldColumn column) (!isKey) p

mutual

/-- writes a datum inside the block at `column`; `underKey` says that it is the value or the key of an entry -/
def writeNode (column : Option Nat) (underKey isKey : Bool) : Datum → Pen → Pen
  | .list [], p => (p.mark ['['] true true false).mark [']'] false false false
  | .map [], p => (p.mark ['\x7b'] true true false).mark ['\x7d'] false false false
  | .list (x :: xs), p =>
    let inner := if underKey && !p.fresh then column.getD 0 else innerColumn column
    writeItems inner (x :: xs) p
  | .map (e :: es), p => writeEntries (innerColumn column) (e :: es) p
  | d, p => writeScalar column isKey d p

def writeItems (column : Nat) : List Datum → Pen → Pen
  | [], p => p
  | x :: xs, p =>
    let p := (p.indent column).mark ['-'] true false true
    writeItems column xs (writeNode (some column) false false x p)

def writeEntries (column : Nat) : List (Datum × Datum) → Pen → Pen
  | [], p => p
  | (k, v) :: rest, p =>
    let p := p.indent column
    let p :=
      if isSimpleKey k then (writeNode (some column) true true k p).mark [':'] false false false
      else
        let p := p.mark ['?'] true false true
        ((writeNode (some column) true false k p).indent column).mark [':'] true false true
    writeEntries column rest (writeNode (some column) true false v p)

end

/-- whether a datum is written as a plain scalar -/
def isPlainScalar : Datum → Bool
  | .text s => styleOf s.toList false == .plain
  | .list _ | .map _ => false
  | _ => true

/-- A document with one datum. A plain scalar by itself is followed by a mark for the end of the document. -/
def write (d : Datum) : String :=
  let p := (writeNode none false false d .start).indent 0
  let p := if isPlainScalar d then (p.put ['.', '.', '.']).newLine '\n' else p
  String.ofList p.written.reverse

end LineGrammar.Yaml
