/-
Numbers as they stand on a line.

A numeric text is read greedily: blanks, a sign, and then digits, or digits with a point and an exponent, or a word for
what is not finite. `leadingInt` and `leadingReal` read the longest such beginning of a text and say how long it is.
-/
import LineGrammar.Binary64.Shortest
import LineGrammar.Text.Blank

namespace LineGrammar

inductive NumberKind where
  | int
  | real
  deriving DecidableEq

/-- A number of one of the two kinds. -/
inductive Number where
  | int (n : Int)
  | real (x : Binary64)
  deriving DecidableEq

namespace Number

def kind : Number → NumberKind
  | .int _ => .int
  | .real _ => .real

def chars : Number → List Char
  | .int n => intText n
  | .real x => x.chars

def text (n : Number) : String :=
  String.ofList n.chars

/-- whether a written number can be read at all: the digits of an integer are not too many -/
def legible : Number → Bool
  | .int n => isWritable n
  | .real _ => true

end Number

/-- A number at the beginning of a text, and the length of that beginning. -/
structure Leading (α : Type) where
  value : α
  length : Nat

/-- Why a text has no number at its beginning. -/
inductive NumberFault where
  | noNumber
  | tooManyDigits
  deriving DecidableEq

/-- splits a text after its sign, if it begins with one -/
def splitSign : List Char → List Char × List Char
  | '+' :: rest => (['+'], rest)
  | '-' :: rest => (['-'], rest)
  | text => ([], text)

def isNegative (sign : List Char) : Bool :=
  sign == ['-']

/-- the integer at the beginning of a text -/
def leadingInt (text : List Char) : Except NumberFault (Leading Int) :=
  let blanks := text.takeWhile isAsciiBlank
  let (sign, body) := splitSign (text.dropWhile isAsciiBlank)
  let digits := body.takeWhile isDigit
  if digits.isEmpty then .error .noNumber
  else if digitLimit < digits.length then .error .tooManyDigits
  else
    let magnitude : Int := digitsValue digits
    .ok ⟨if isNegative sign then -magnitude else magnitude, blanks.length + sign.length + digits.length⟩

/-- the digits before and after the point, with the length they take up; one of the two may be empty -/
def leadingMantissa? (text : List Char) : Option (List Char × List Char × Nat) :=
  let whole := text.takeWhile isDigit
  match text.dropWhile isDigit with
  | '.' :: rest =>
    let fraction := rest.takeWhile isDigit
    if whole.isEmpty && fraction.isEmpty then none
    else some (whole, fraction, whole.length + 1 + fraction.length)
  | _ => if whole.isEmpty then none else some (whole, [], whole.length)

/-- the exponent a text begins with and its length, both zero if there is no complete exponent -/
def leadingExponent : List Char → Int × Nat
  | [] => (0, 0)
  | c :: rest =>
    if c == 'e' || c == 'E' then
      let (sign, body) := splitSign rest
      let digits := body.takeWhile isDigit
      let magnitude : Int := digitsValue digits
      if digits.isEmpty then (0, 0)
      else (if isNegative sign then -magnitude else magnitude, 1 + sign.length + digits.length)
    else (0, 0)

/-- whether a text begins with a word of small letters, in any case -/
def beginsWithWord (word text : List Char) : Bool :=
  (text.take word.length).map Char.toLower == word

/-- the words for what is not finite; of two that fit the longer stands first -/
def leadingWord? (negative : Bool) (text : List Char) : Option (Leading Binary64) :=
  if beginsWithWord "infinity".toList text then some ⟨.infinite negative, 8⟩
  else if beginsWithWord "inf".toList text then some ⟨.infinite negative, 3⟩
  else if beginsWithWord "nan".toList text then some ⟨.nan 0, 3⟩
  else none

/-- the number of double precision at the beginning of a text -/
def leadingReal? (text : List Char) : Option (Leading Binary64) :=
  let blanks := text.takeWhile isAsciiBlank
  let (sign, body) := splitSign (text.dropWhile isAsciiBlank)
  let start := blanks.length + sign.length
  match leadingMantissa? body with
  | some (whole, fraction, size) =>
    let (exponent, extent) := leadingExponent (body.drop size)
    some ⟨.nearest (isNegative sign) (.ofParts whole fraction exponent), start + size + extent⟩
  | none => (leadingWord? (isNegative sign) body).map (fun w => ⟨w.value, start + w.length⟩)

/-- the number of a kind at the beginning of a text -/
def leadingNumber (kind : NumberKind) (text : List Char) : Except NumberFault (Leading Number) :=
  match kind with
  | .int => (leadingInt text).map (fun r => ⟨.int r.value, r.length⟩)
  | .real =>
    match leadingReal? text with
    | some r => .ok ⟨.real r.value, r.length⟩
    | none => .error .noNumber

/-- what a text without a number is said to lack -/
def noNumberMessage (kind : NumberKind) (text : List Char) : String :=
  match kind with
  | .int => s!"No integer at the start of '{String.ofList text}'"
  | .real => s!"No floating point number at the start of '{String.ofList text}'"

end LineGrammar
