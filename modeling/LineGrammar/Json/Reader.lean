/-
JSON read as data.

The words `NaN`, `Infinity` and `-Infinity` count as numbers. A number without a point and an exponent is an integer.
Of two entries with the same key the first gives the place and the last the value. Lists and maps may only be nested so
deep.
-/
import LineGrammar.Datum.Basic
import LineGrammar.Error
import LineGrammar.Number

namespace LineGrammar.Json

/-- Why a text is not read as JSON. -/
inductive Fault where
  | malformed
  | tooManyDigits
  | tooDeep
  deriving DecidableEq

def Fault.errorClass : Fault → ErrorClass
  | .malformed => .runtime .json
  | .tooManyDigits => .runtime .value
  | .tooDeep => .runtime .recursion

/-- the most levels of lists and maps that a text may have -/
def levelLimit : Nat := 990

/-- what reading a part of the text yields: its meaning and the text behind it -/
abbrev Step (α : Type) := Except Fault (α × List Char)

def skipSpace (text : List Char) : List Char :=
  text.dropWhile (fun c => c == ' ' || c == '\t' || c == '\n' || c == '\r')

/-- the text behind a word, if it begins with the word -/
def dropWord? (word : String) (text : List Char) : Option (List Char) :=
  if word.toList.isPrefixOf text then some (text.drop word.toList.length) else none

/-- four hexadecimal digits -/
def readUnit : List Char → Step Nat
  | a :: b :: c :: d :: rest =>
    match hexDigitValue? a, hexDigitValue? b, hexDigitValue? c, hexDigitValue? d with
    | some i, some j, some k, some l => .ok (((i * 16 + j) * 16 + k) * 16 + l, rest)
    | _, _, _, _ => .error .malformed
  | _ => .error .malformed

/-- the second half of a pair of units, if it comes next -/
def lowSurrogate? : List Char → Option (Nat × List Char)
  | '\\' :: 'u' :: rest =>
    match readUnit rest with
    | .ok (n, behind) => if 0xDC00 ≤ n && n ≤ 0xDFFF then some (n, behind) else none
    | .error _ => none
  | _ => none

/-- The character of a `\u` escape. Two units that form a pair are one character; a lone half of a pair is none, and
the replacement character stands in for it. -/
def readCodePoint (text : List Char) : Step Char :=
  match readUnit text with
  | .error e => .error e
  | .ok (n, rest) =>
    if 0xD800 ≤ n && n ≤ 0xDBFF then
      match lowSurrogate? rest with
      | some (m, behind) => .ok (Char.ofNat (0x10000 + (n - 0xD800) * 0x400 + (m - 0xDC00)), behind)
      | none => .ok (Char.ofNat 0xFFFD, rest)
    else if 0xDC00 ≤ n && n ≤ 0xDFFF then .ok (Char.ofNat 0xFFFD, rest)
    else .ok (Char.ofNat n, rest)

def simpleEscape? (c : Char) : Option Char :=
  if c == '\x22' || c == '\\' || c == '/' then some c
  else if c == 'b' then some (Char.ofNat 8)
  else if c == 'f' then some (Char.ofNat 12)
  else if c == 'n' then some '\n'
  else if c == 'r' then some '\r'
  else if c == 't' then some '\t'
  else none

/-- the rest of a string whose opening mark has been read, `before` holding its characters backwards -/
def readString : Nat → List Char → List Char → Step String
  | 0, _, _ => .error .malformed
  | fuel + 1, before, text =>
    match text with
    | [] => .error .malformed
    | '\x22' :: rest => .ok (String.ofList before.reverse, rest)
    | '\\' :: 'u' :: rest =>
      match readCodePoint rest with
      | .ok (c, behind) => readString fuel (c :: before) behind
      | .error e => .error e
    | '\\' :: c :: rest =>
      match simpleEscape? c with
      | some d => readString fuel (d :: before) rest
      | none => .error .malformed
    | c :: rest => if c.toNat < 32 then .error .malformed else readString fuel (c :: before) rest

/-- the fraction a text begins with, if it is complete -/
def splitFraction : List Char → List Char × List Char
  | '.' :: rest =>
    let digits := rest.takeWhile isDigit
    if digits.isEmpty then ([], '.' :: rest) else (digits, rest.dropWhile isDigit)
  | text => ([], text)

/-- the number a text begins with -/
def readNumber (text : List Char) : Step Datum :=
  let negative := text.head? == some '-'
  let body := if negative then text.drop 1 else text
  let whole := if body.head? == some '0' then ['0'] else body.takeWhile isDigit
  if whole.isEmpty then .error .malformed
  else
    let (fraction, rest) := splitFraction (body.drop whole.length)
    let (exponent, extent) := leadingExponent rest
    if fraction.isEmpty && extent == 0 then
      if digitLimit < whole.length then .error .tooManyDigits
      else
        let magnitude : Int := digitsValue whole
        .ok (.int (if negative then -magnitude else magnitude), rest)
    else .ok (.real (.nearest negative (.ofParts whole fraction exponent)), rest.drop extent)

/-- the scalars that are words -/
def words : List (String × Datum) :=
  [("null", .null), ("true", .bool true), ("false", .bool false), ("NaN", .real (.nan 0)),
    ("Infinity", .real (.infinite false)), ("-Infinity", .real (.infinite true))]

def readScalar (text : List Char) : Step Datum :=
  match words.findSome? (fun w => (dropWord? w.1 text).map (fun rest => (w.2, rest))) with
  | some step => .ok step
  | none => readNumber text

mutual

/-- the value that comes next, in which there may be so many levels -/
def readValue : Nat → Nat → List Char → Step Datum
  | 0, _, _ => .error .malformed
  | fuel + 1, levels, text =>
    match text with
    | '\x22' :: rest => (readString fuel [] rest).map (fun r => (.text r.1, r.2))
    | '[' :: rest =>
      match levels, skipSpace rest with
      | 0, _ => .error .tooDeep
      | _, ']' :: behind => .ok (.list [], behind)
      | levels + 1, items => readItems fuel levels [] items
    | '\x7b' :: rest =>
      match levels, skipSpace rest with
      | 0, _ => .error .tooDeep
      | _, '\x7d' :: behind => .ok (.map [], behind)
      | levels + 1, fields => readFields fuel levels [] fields
    | _ => readScalar text

/-- the items of a list from the next one on, `before` holding the ones already read backwards -/
def readItems : Nat → Nat → List Datum → List Char → Step Datum
  | 0, _, _, _ => .error .malformed
  | fuel + 1, levels, before, text =>
    match readValue fuel levels text with
    | .error e => .error e
    | .ok (item, rest) =>
      match skipSpace rest with
      | ',' :: behind => readItems fuel levels (item :: before) (skipSpace behind)
      | ']' :: behind => .ok (.list (item :: before).reverse, behind)
      | _ => .error .malformed

/-- the entries of a map from the next one on -/
def readFields : Nat → Nat → List (Datum × Datum) → List Char → Step Datum
  | 0, _, _, _ => .error .malformed
  | fuel + 1, levels, before, text =>
    match text with
    | '\x22' :: start =>
      match readString fuel [] start with
      | .error e => .error e
      | .ok (key, rest) =>
        match skipSpace rest with
        | ':' :: behind =>
          match readValue fuel levels (skipSpace behind) with
          | .error e => .error e
          | .ok (value, after) =>
            let entries := Datum.putEntry (.text key) value before
            match skipSpace after with
            | ',' :: next => readFields fuel levels entries (skipSpace next)
            | '\x7d' :: next => .ok (.map entries, next)
            | _ => .error .malformed
        | _ => .error .malformed
    | _ => .error .malformed

end

/-- the datum a whole text stands for; every part of the text uses up a character, which bounds the search -/
def read (text : List Char) : Except Fault Datum :=
  match readValue (2 * text.length + 2) levelLimit (skipSpace text) with
  | .error e => .error e
  | .ok (value, rest) => if (skipSpace rest).isEmpty then .ok value else .error .malformed

end LineGrammar.Json
