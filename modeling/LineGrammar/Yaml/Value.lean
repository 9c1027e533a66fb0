/-
What scalars of YAML stand for, once it is settled of which kind they are.

A tag can say that any text is a number or a truth value, so more texts are read here than have the form of one: with
blanks around the digits, with digits of any script, with a sign before every part of a number in places of sixty.
-/
import LineGrammar.Datum.Basic
import LineGrammar.Text.Base64
import LineGrammar.Text.Case
import LineGrammar.Text.Numeral
import LineGrammar.Yaml.Fault
import LineGrammar.Yaml.Plain

namespace LineGrammar.Yaml

/-! ## Integers -/

/-- the letter of a base behind a zero, in either case -/
def baseLetter? (base : Nat) : Option Char :=
  [(2, 'b'), (8, 'o'), (16, 'x')].lookup base

/-- the text behind the mark of a base, if it begins with that mark -/
def dropBaseMark (base : Nat) (text : List Char) : List Char :=
  match text with
  | '0' :: c :: rest => if baseLetter? base == some c.toLower then rest else text
  | _ => text

/-- an integer in a base; only decimal digits are limited in number -/
def readInBase (base : Nat) (text : List Char) : Except Fault Int :=
  let (sign, body) := splitSign (numeral text)
  let digits := dropBaseMark base body
  if digits.isEmpty || !digits.all (fun c => (hexDigitValue? c).any (· < base)) then .error .noValue
  else if base == 10 && digitLimit < digits.length then .error .noValue
  else
    let magnitude : Int := if base == 10 then digitsValue digits else baseValue base digits
    .ok (if isNegative sign then -magnitude else magnitude)

/-- an integer without its own sign, its notation following from how it begins -/
def readUnsigned (text : List Char) : Except Fault Int :=
  match text with
  | [] => .error .emptyNumber
  | '0' :: 'b' :: digits => readInBase 2 digits
  | '0' :: 'x' :: digits => readInBase 16 digits
  | '0' :: _ => readInBase 8 text
  | _ =>
    if text.contains ':' then
      ((splitColons text).mapM (readInBase 10)).map (fun parts => parts.foldl (fun n part => n * 60 + part) 0)
    else readInBase 10 text

def readInt (text : List Char) : Except Fault Int :=
  let (sign, body) := splitSign (dropGaps text)
  (readUnsigned body).map (fun n => if isNegative sign then -n else n)

/-! ## Numbers with a point -/

/-- a number in decimal, with or without a point and an exponent, or a word for what is not finite -/
def readDecimal (text : List Char) : Except Fault Binary64 :=
  let body := numeral text
  match leadingReal? body with
  | some r => if r.length == body.length then .ok r.value else .error .noValue
  | none => .error .noValue

/-- Places of sixty added up from the last one, `weight` being its weight. The weights, the products and the sums are
rounded one by one; no weight may be out of range, not even that of a zero. -/
def sumSixties (weight : Nat) (total : Binary64) : List Binary64 → Except Fault Binary64
  | [] => .ok total
  | x :: higher =>
    match Binary64.ofInt? weight with
    | some w => sumSixties (weight * 60) (total.add (x.mul w)) higher
    | none => .error .outOfRange

/-- a number without its own sign -/
def readUnsignedReal (text : List Char) : Except Fault Binary64 :=
  if text == ".inf".toList then .ok (.infinite false)
  else if text.contains ':' then do
    let parts ← (splitColons text).mapM readDecimal
    sumSixties 1 .zero parts.reverse
  else readDecimal text

/-- A number of double precision. The word with a point for what is not a number always means the same one; any other
such value is one of its own, and gets the payload `own`. -/
def readReal (own : Nat) (text : List Char) : Except Fault Binary64 :=
  let small := lowerCase (dropGaps text)
  let (sign, body) := splitSign small
  if small.isEmpty then .error .emptyNumber
  else if body == ".nan".toList then .ok (.nan 0)
  else (readUnsignedReal body).map (fun x => (if isNegative sign then x.negate else x).withPayload own)

/-! ## All scalars -/

def readFlag (text : List Char) : Except Fault Bool :=
  let word := String.ofList (lowerCase text)
  match flagWords.lookup word with
  | some b => .ok b
  | none => .error (.unknownFlag word)

def readDate (text : List Char) : Except Fault Moment :=
  match readMoment? (withoutLastBreak text) with
  | some m => if m.exists? then .ok m else .error .noValue
  | none => .error .notDate

def readOctets (text : List Char) : Except Fault (List UInt8) :=
  match octets? text with
  | some bytes => if text.all (fun c => c.toNat < 128) then .ok bytes else .error .malformed
  | none => .error .malformed

/-- The datum that a text of some kind stands for; `own` is a number that no other scalar has. -/
def readScalar (kind : Kind) (own : Nat) (text : List Char) : Except Fault Datum :=
  match kind with
  | .null => .ok .null
  | .bool => (readFlag text).map .bool
  | .int => (readInt text).map .int
  | .real => (readReal own text).map .real
  | .text => .ok (.text (String.ofList text))
  | .octets => (readOctets text).map .octets
  | .date => (readDate text).map .moment
  | _ => .error .malformed

end LineGrammar.Yaml
