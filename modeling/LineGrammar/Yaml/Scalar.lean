/-
Scalars of YAML as they stand in a text: plain, in quotes, or as a block.

A plain or quoted scalar may go on over several lines: a single line end reads as a blank, and of several line ends all
but the first are kept. A block scalar keeps its lines, or folds them if it begins with `>`.
-/
import LineGrammar.Yaml.Fault
import LineGrammar.Yaml.Head

namespace LineGrammar.Yaml

/-- The characters of a scalar and the head behind it. -/
abbrev Scanned := List Char × Head

/-- the text that line ends stand for: the first one is folded unless it is of a special kind -/
def foldBreaks (first : Char) (others : List Char) : List Char :=
  if first != '\n' then first :: others
  else if others.isEmpty then [' ']
  else others

/-! ## Plain scalars -/

/-- the characters that end a plain scalar inside brackets -/
def isFlowMark (c : Char) : Bool :=
  c == ',' || c == '[' || c == ']' || c == '\x7b' || c == '\x7d'

/-- how many characters of a plain scalar come next without a blank -/
def plainLength (inFlow : Bool) : List Char → Nat
  | [] => 0
  | c :: rest =>
    if isGapOrBreak c then 0
    else if c == ':' && (gapNext rest || (inFlow && (rest.head?.map isFlowMark).getD true)) then 0
    else if inFlow && (isFlowMark c || c == '?') then 0
    else 1 + plainLength inFlow rest

/-- the line ends and blanks inside a plain scalar; `none` if the document ends here -/
def plainBreaks : Nat → List Char → Head → Option (List Char) × Head
  | 0, _, h => (none, h)
  | fuel + 1, before, h =>
    if h.sees ' ' then plainBreaks fuel before h.step
    else
      match h.takeBreak? with
      | none => (some before.reverse, h)
      | some (c, behind) =>
        if documentMarkNext behind.rest then (none, behind) else plainBreaks fuel (c :: before) behind

/-- What is between two words of a plain scalar, empty if the scalar ends here; and whether a line ended. -/
def plainGap (h : Head) : List Char × Head × Bool :=
  let blanks := h.rest.takeWhile (· == ' ')
  let h := h.skipSpaces
  match h.takeBreak? with
  | none => (blanks, h, false)
  | some (first, behind) =>
    if documentMarkNext behind.rest then ([], behind, true)
    else
      match plainBreaks behind.bound [] behind with
      | (none, after) => ([], after, true)
      | (some others, after) => (foldBreaks first others, after, true)

/-- A plain scalar from one word on, with the gap before it. `margin` is the column a new line has to reach. -/
def scanPlainFrom (inFlow : Bool) (margin : Int) : Nat → List Char → Bool → Head → Scanned × Bool
  | 0, _, broken, h => (([], h), broken)
  | fuel + 1, gap, broken, h =>
    let size := if h.sees '#' then 0 else plainLength inFlow h.rest
    if size == 0 then (([], h), broken)
    else
      let word := gap ++ h.rest.take size
      let (gap', after, ended) := plainGap (h.advance size)
      if gap'.isEmpty || after.sees '#' || (!inFlow && (after.column : Int) < margin) then ((word, after), ended)
      else
        let ((more, last), broken') := scanPlainFrom inFlow margin fuel gap' ended after
        ((word ++ more, last), broken')

/-- a plain scalar, and whether a line ended right behind it -/
def scanPlain (inFlow : Bool) (margin : Int) (h : Head) : Scanned × Bool :=
  scanPlainFrom inFlow margin h.bound [] false h

/-! ## Quoted scalars -/

/-- the line ends inside a quoted scalar with the blanks around them; no document may end there -/
def quotedBreaks : Nat → List Char → Head → Except Fault Scanned
  | 0, _, _ => .error .malformed
  | fuel + 1, before, h =>
    if documentMarkNext h.rest then .error .malformed
    else
      let h := h.skipWhile isGap
      match h.takeBreak? with
      | some (c, behind) => quotedBreaks fuel (c :: before) behind
      | none => .ok (before.reverse, h)

/-- blanks and line ends inside a quoted scalar -/
def quotedGap (h : Head) : Except Fault Scanned :=
  let blanks := h.rest.takeWhile isGap
  let h := h.skipWhile isGap
  match h.takeBreak? with
  | none => if h.rest.isEmpty then .error .malformed else .ok (blanks, h)
  | some (first, behind) =>
    (quotedBreaks behind.bound [] behind).map (fun r => (foldBreaks first r.1, r.2))

/-- the characters that escapes of one letter stand for -/
def letterMeanings : List (Char × Nat) :=
  [('0', 0), ('a', 7), ('b', 8), ('t', 9), ('\t', 9), ('n', 10), ('v', 11), ('f', 12), ('r', 13), ('e', 27), (' ', 32),
    ('\x22', 0x22), ('\\', 0x5C), ('/', 0x2F), ('N', 0x85), ('_', 0xA0), ('L', 0x2028), ('P', 0x2029)]

/-- how many hexadecimal digits an escape has -/
def codeSize? (c : Char) : Option Nat :=
  [('x', 2), ('u', 4), ('U', 8)].lookup c

/-- a fixed number of hexadecimal digits as a number -/
def hexNumber? (size : Nat) (text : List Char) : Option Nat :=
  let digits := text.take size
  if digits.length == size && digits.all (fun d => (hexDigitValue? d).isSome) then some (baseValue 16 digits) else none

/-- the second half of a pair of units, if its escape comes next -/
def secondHalf? : List Char → Option Nat
  | '\\' :: 'u' :: rest => (hexNumber? 4 rest).bind (fun n => if 0xDC00 ≤ n && n ≤ 0xDFFF then some n else none)
  | _ => none

/-- The character with a code, and how many characters behind the escape belong to it. Two halves of a pair are one
character; for a lone half the replacement character stands in. -/
def codeMeaning (code : Nat) (behind : List Char) : Except Fault (Char × Nat) :=
  if 0x7FFFFFFF < code then .error .outOfRange
  else if 0x10FFFF < code then .error .noValue
  else if 0xD800 ≤ code && code ≤ 0xDFFF then
    match secondHalf? behind with
    | some n =>
      if code ≤ 0xDBFF then .ok (Char.ofNat (0x10000 + (code - 0xD800) * 0x400 + (n - 0xDC00)), 6)
      else .ok ('\uFFFD', 0)
    | none => .ok ('\uFFFD', 0)
  else .ok (Char.ofNat code, 0)

/-- what an escape stands for, the head being behind its backslash -/
def scanEscape (h : Head) : Except Fault Scanned :=
  match h.rest with
  | [] => .error .malformed
  | c :: rest =>
    match letterMeanings.lookup c, codeSize? c with
    | some n, _ => .ok ([Char.ofNat n], h.step)
    | none, some size =>
      match hexNumber? size rest with
      | none => .error .malformed
      | some code =>
        (codeMeaning code (rest.drop size)).map (fun m => ([m.1], h.advance (1 + size + m.2)))
    | none, none =>
      match h.takeBreak? with
      | some (_, behind) => quotedBreaks behind.bound [] behind
      | none => .error .malformed

/-- the rest of a quoted scalar behind its opening mark, `before` holding its characters backwards -/
def scanQuotedFrom (double : Bool) : Nat → List Char → Head → Except Fault Scanned
  | 0, _, _ => .error .malformed
  | fuel + 1, before, h =>
    match h.rest with
    | [] => .error .malformed
    | c :: rest =>
      if double && c == '\x22' then .ok (before.reverse, h.step)
      else if !double && c == '\x27' then
        if rest.head? == some '\x27' then scanQuotedFrom double fuel ('\x27' :: before) (h.advance 2)
        else .ok (before.reverse, h.step)
      else if double && c == '\\' then
        match scanEscape h.step with
        | .ok (chars, after) => scanQuotedFrom double fuel (chars.reverse ++ before) after
        | .error e => .error e
      else if isGapOrBreak c then
        match quotedGap h with
        | .ok (chars, after) => scanQuotedFrom double fuel (chars.reverse ++ before) after
        | .error e => .error e
      else scanQuotedFrom double fuel (c :: before) h.step

/-- a quoted scalar, the head being at its opening mark -/
def scanQuoted (double : Bool) (h : Head) : Except Fault Scanned :=
  scanQuotedFrom double h.bound [] h.step

/-! ## Block scalars -/

/-- What the line of a block scalar's mark says: whether to keep or to drop line ends at the end, and by how many
columns the scalar is indented. -/
structure BlockHeader where
  keep : Option Bool
  indent : Option Nat

def keepOf? (h : Head) : Option Bool :=
  if h.sees '+' then some true else if h.sees '-' then some false else none

/-- the digit that gives the indentation, which is not zero -/
def indentOf? (h : Head) : Except Fault (Option Nat) :=
  match h.peek? with
  | some c =>
    if isDigit c then (if c == '0' then .error .malformed else .ok (some (digitsValue [c]))) else .ok none
  | none => .ok none

/-- the header of a block scalar with the head behind its line -/
def scanBlockHeader (h : Head) : Except Fault (BlockHeader × Head) := do
  let first := keepOf? h
  let h := if first.isSome then h.step else h
  let indent ← indentOf? h
  let h := if indent.isSome then h.step else h
  let second := if first.isNone && indent.isSome then keepOf? h else none
  let h := if second.isSome then h.step else h
  if !(h.rest.isEmpty || h.sees ' ' || (h.takeBreak?).isSome) then .error .malformed
  else
    let h := h.skipSpaces.skipComment
    match h.takeBreak? with
    | some (_, behind) => pure (⟨first.or second, indent⟩, behind)
    | none => if h.rest.isEmpty then pure (⟨first.or second, indent⟩, h) else .error .malformed

/-- the empty lines before a block scalar, and the column its first line reaches -/
def blockLead : Nat → List Char → Nat → Head → List Char × Nat × Head
  | 0, before, widest, h => (before.reverse, widest, h)
  | fuel + 1, before, widest, h =>
    if h.sees ' ' then blockLead fuel before (max widest (h.column + 1)) h.step
    else
      match h.takeBreak? with
      | some (c, behind) => blockLead fuel (c :: before) widest behind
      | none => (before.reverse, widest, h)

/-- goes to a column through blanks -/
def toColumn (column : Nat) (h : Head) : Head :=
  h.advance (min (column - h.column) (h.rest.takeWhile (· == ' ')).length)

/-- the empty lines before the next line of a block scalar -/
def blockBreaks (column : Nat) : Nat → List Char → Head → Scanned
  | 0, before, h => (before.reverse, h)
  | fuel + 1, before, h =>
    let h := toColumn column h
    match h.takeBreak? with
    | some (c, behind) => blockBreaks column fuel (c :: before) behind
    | none => (before.reverse, h)

/-- the lines of a block scalar from one line on: its characters, the line end of the last line and the empty lines
behind it -/
def blockLines (folded : Bool) (column : Nat) : Nat → Head → List Char × List Char × List Char × Head
  | 0, h => ([], [], [], h)
  | fuel + 1, h =>
    let indented := (h.peek?.map isGap).getD false
    let text := h.rest.takeWhile (fun c => !isBreak c)
    let h := h.advance text.length
    let (ending, h) := match h.takeBreak? with
      | some (c, behind) => ([c], behind)
      | none => ([], h)
    let (breaks, h) := blockBreaks column h.bound [] h
    if h.column == column && !h.rest.isEmpty then
      let joint :=
        if folded && ending == ['\n'] && !indented && !(h.peek?.map isGap).getD false then
          (if breaks.isEmpty then [' '] else [])
        else ending
      let (more, last, trail, after) := blockLines folded column fuel h
      (text ++ joint ++ breaks ++ more, last, trail, after)
    else (text, ending, breaks, h)

/-- a block scalar, the head being behind its mark; `margin` is the least column it can have -/
def scanBlock (folded : Bool) (margin : Nat) (h : Head) : Except Fault Scanned := do
  let (header, h) ← scanBlockHeader h
  let fuel := h.bound
  let (lead, column, h) := match header.indent with
    | some n =>
      let column := margin + n - 1
      let (breaks, after) := blockBreaks column fuel [] h
      (breaks, column, after)
    | none =>
      let (breaks, widest, after) := blockLead fuel [] 0 h
      (breaks, max margin widest, after)
  let (text, ending, trail, after) :=
    if h.column == column && !h.rest.isEmpty then
      let (text, ending, trail, after) := blockLines folded column fuel h
      (lead ++ text, ending, trail, after)
    else ([], [], lead, h)
  pure (match header.keep with
    | some false => (text, after)
    | none => (text ++ ending, after)
    | some true => (text ++ ending ++ trail, after))

end LineGrammar.Yaml
