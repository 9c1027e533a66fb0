/-
Dates as they are written in YAML: a date of the calendar, alone or with a time of day and a distance from universal
time.
-/
import LineGrammar.Datum.Moment
import LineGrammar.Yaml.Character

namespace LineGrammar.Yaml

/-- one or two digits and the text behind them -/
def readOneOrTwo? : List Char → Option (Nat × List Char)
  | a :: b :: rest =>
    if isDigit a && isDigit b then some (digitsValue [a, b], rest)
    else if isDigit a then some (digitsValue [a], b :: rest)
    else none
  | [a] => if isDigit a then some (digitsValue [a], []) else none
  | [] => none

/-- exactly so many digits and the text behind them -/
def readExactly? (count : Nat) (text : List Char) : Option (Nat × List Char) :=
  let digits := text.take count
  if digits.length == count && digits.all isDigit then some (digitsValue digits, text.drop count) else none

/-- the text behind a character it has to begin with -/
def dropChar? (c : Char) : List Char → Option (List Char)
  | d :: rest => if c == d then some rest else none
  | [] => none

/-- the distance from universal time in minutes, `none` for a time without one -/
def readOffset? (text : List Char) : Option (Option Int) :=
  match text.dropWhile isGap with
  | [] => if text.isEmpty then some none else none
  | ['Z'] => some (some 0)
  | c :: rest =>
    if c == '+' || c == '-' then do
      let (hours, behind) ← readOneOrTwo? rest
      let minutes ← match behind with
        | [] => some 0
        | ':' :: m => (readExactly? 2 m).bind (fun r => if r.2.isEmpty then some r.1 else none)
        | _ => none
      let distance : Int := hours * 60 + minutes
      pure (some (if c == '-' then -distance else distance))
    else none

/-- the time of day a text stands for -/
def readClock? (text : List Char) : Option Clock := do
  let (hour, rest) ← readOneOrTwo? text
  let rest ← dropChar? ':' rest
  let (minute, rest) ← readExactly? 2 rest
  let rest ← dropChar? ':' rest
  let (second, rest) ← readExactly? 2 rest
  let (fraction, rest) := match rest with
    | '.' :: more => (more.takeWhile isDigit, more.dropWhile isDigit)
    | _ => ([], rest)
  let offset ← readOffset? rest
  let micro := digitsValue ((fraction ++ List.replicate 6 '0').take 6)
  pure ⟨hour, minute, second, micro, offset⟩

/-- the date that a text has the form of -/
def readMoment? (text : List Char) : Option Moment := do
  let (year, rest) ← readExactly? 4 text
  let rest ← dropChar? '-' rest
  let (month, rest) ← readOneOrTwo? rest
  let rest ← dropChar? '-' rest
  let (day, rest) ← readOneOrTwo? rest
  match rest with
  | [] => pure ⟨year, month, day, none⟩
  | c :: more =>
    if c == 'T' || c == 't' then pure ⟨year, month, day, some (← readClock? more)⟩
    else if isGap c then pure ⟨year, month, day, some (← readClock? (more.dropWhile isGap))⟩
    else none

/-- whether a text is a date without being said to be one: month and day of a date alone have two digits then -/
def isDateForm (text : List Char) : Bool :=
  (readMoment? text).any (fun m => m.clock.isSome || text.length == 10)

end LineGrammar.Yaml
