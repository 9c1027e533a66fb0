/-
What kind of thing a plain scalar of YAML 1.1 is.

A scalar without quotes is a text unless it has the form of something else: a word for nothing or for a truth value, an
integer in one of five notations, a number with a point, or a date. Only the form counts here; whether there is such a
number or date shows when it is read.

`isPlainText` says that none of these forms fits, so that a text can be written without quotes.
-/
import LineGrammar.Number
import LineGrammar.Yaml.Date

namespace LineGrammar.Yaml

/-- The kinds of scalars, lists and maps, whether said by a tag or taken from the form. -/
inductive Kind where
  | null
  | bool
  | int
  | real
  | text
  | octets
  | date
  | list
  | map
  | set
  /-- a list of maps with one entry each -/
  | pairs
  /-- the mark of an entry under which other entries are to be merged in -/
  | merge
  /-- the mark of the entry whose value stands for the whole map -/
  | value
  | unknown
  deriving DecidableEq

/-- whether things of this kind have members, which are read later than the thing itself -/
def Kind.isCollection : Kind → Bool
  | .list | .map | .set | .pairs => true
  | _ => false

/-- whether things of this kind have a single value -/
def Kind.isSingle : Kind → Bool
  | .null | .bool | .int | .real | .text | .octets | .date => true
  | _ => false

/-! ## Words -/

/-- whether the text is one of the words, in small letters, with a capital first letter or in capitals -/
def isCasedWord (words : List String) (text : List Char) : Bool :=
  words.any (fun w =>
    let small := w.toList
    let capital := (small.take 1).map Char.toUpper ++ small.drop 1
    text == small || text == capital || text == small.map Char.toUpper)

def isNullForm (text : List Char) : Bool :=
  text.isEmpty || text == ['~'] || isCasedWord ["null"] text

/-- the words for truth values -/
def flagWords : List (String × Bool) :=
  [("yes", true), ("no", false), ("true", true), ("false", false), ("on", true), ("off", false)]

def isFlagForm (text : List Char) : Bool :=
  isCasedWord (flagWords.map Prod.fst) text

/-! ## Digits with underscores -/

def isDigitOrGap (c : Char) : Bool :=
  isDigit c || c == '_'

def dropGaps (text : List Char) : List Char :=
  text.filter (· != '_')

/-- whether the text begins with a digit and goes on with digits and underscores -/
def isGappedNumber : List Char → Bool
  | [] => false
  | c :: rest => isDigit c && rest.all isDigitOrGap

/-- the parts of a text between colons -/
def splitColons (text : List Char) : List (List Char) :=
  text.foldr (fun c parts =>
    if c == ':' then [] :: parts
    else match parts with
      | [] => [[c]]
      | p :: ps => (c :: p) :: ps) [[]]

/-- whether the text is a number below sixty of one or two digits -/
def isSixtieth : List Char → Bool
  | [a] => isDigit a
  | [a, b] => '0' ≤ a && a ≤ '5' && isDigit b
  | _ => false

/-! ## Integers -/

/-- whether there are characters, and all of them are underscores or digits of a base -/
def isBaseForm (base : Nat) (digits : List Char) : Bool :=
  !digits.isEmpty && digits.all (fun c => (hexDigitValue? c).any (· < base) || c == '_')

/-- whether a text has the form of an integer without a sign -/
def isMagnitudeForm (text : List Char) : Bool :=
  match text with
  | ['0'] => true
  | '0' :: 'b' :: digits => isBaseForm 2 digits
  | '0' :: 'x' :: digits => isBaseForm 16 digits
  | '0' :: digits => isBaseForm 8 digits
  | _ =>
    match splitColons text with
    | first :: others => isGappedNumber first && others.all isSixtieth
    | [] => false

def isIntForm (text : List Char) : Bool :=
  isMagnitudeForm (splitSign text).2

/-! ## Numbers with a point -/

/-- whether a text is a complete exponent with its sign, or empty -/
def isExponentForm : List Char → Bool
  | [] => true
  | c :: rest =>
    let (sign, digits) := splitSign rest
    (c == 'e' || c == 'E') && !sign.isEmpty && !digits.isEmpty && digits.all isDigit

/-- whether a text has digits before its point -/
def isPointedForm (text : List Char) : Bool :=
  match text.dropWhile isDigitOrGap with
  | '.' :: rest => isGappedNumber (text.takeWhile isDigitOrGap) && isExponentForm (rest.dropWhile isDigitOrGap)
  | _ => false

/-- whether a text is a number that begins with its point -/
def isPointFirstForm : List Char → Bool
  | '.' :: rest => isGappedNumber (rest.takeWhile isDigitOrGap) && isExponentForm (rest.dropWhile isDigitOrGap)
  | _ => false

/-- whether a text is a number in places of sixty with a point at the end -/
def isSixtiesForm (text : List Char) : Bool :=
  match (splitColons text).reverse with
  | last :: middle :: higher =>
    match last.dropWhile isDigit, (middle :: higher).reverse with
    | '.' :: fraction, first :: others =>
      isSixtieth (last.takeWhile isDigit) && fraction.all isDigitOrGap && isGappedNumber first && others.all isSixtieth
    | _, _ => false
  | _ => false

/-- whether a text has the form of a number with a point; a sign may not stand before every form -/
def isRealForm (text : List Char) : Bool :=
  let body := (splitSign text).2
  [".inf", ".Inf", ".INF"].any (fun w => body == w.toList) ||
    [".nan", ".NaN", ".NAN"].any (fun w => text == w.toList) ||
    isPointedForm body || isPointFirstForm text || isSixtiesForm body

/-! ## All scalars -/

/-- the text without the line end behind it, if one is there -/
def withoutLastBreak (text : List Char) : List Char :=
  if text.getLast? == some '\n' then text.dropLast else text

/-- the kind of a plain scalar; a line end behind it does not count, unless there is nothing else -/
def Kind.ofPlain (text : List Char) : Kind :=
  let body := withoutLastBreak text
  if text == ['\n'] then .text
  else if isNullForm body then .null
  else if body == ['<', '<'] then .merge
  else if body == ['='] then .value
  else if body == ['!'] || body == ['&'] || body == ['*'] then .unknown
  else if isFlagForm body then .bool
  else if isIntForm body then .int
  else if isRealForm body then .real
  else if isDateForm body then .date
  else .text

/-- whether a plain scalar with this text means the text itself -/
def isPlainText (text : List Char) : Bool :=
  Kind.ofPlain text == .text

end LineGrammar.Yaml
