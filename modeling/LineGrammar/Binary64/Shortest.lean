/-
The shortest decimal that reads back to a given number.

`shortest` looks for the fewest digits, 1 to 17, for which one of the two neighbours of the number on that decimal grid
reads back to it; of two such neighbours it takes the nearer, and on an exact tie the one with an even last digit.

`readsBack_shortest_or_exact`: the result reads back, unless it is the exact expansion that closes the search.
-/
import LineGrammar.Binary64.Basic
import LineGrammar.Text.Digits

namespace LineGrammar

/-- The number `digits · 10^exponent`. -/
structure Decimal where
  digits : Nat
  exponent : Int
  deriving DecidableEq

namespace Decimal

/-- the decimal written with some digits before and some after the point, times a power of ten -/
def ofParts (whole fraction : List Char) (exponent : Int) : Decimal :=
  ⟨digitsValue (whole ++ fraction), exponent - fraction.length⟩

/-- moves trailing zeros of the digits into the exponent, at most `fuel` of them -/
def trim : Nat → Decimal → Decimal
  | 0, d => d
  | fuel + 1, d => if d.digits % 10 == 0 && d.digits != 0 then trim fuel ⟨d.digits / 10, d.exponent + 1⟩ else d

end Decimal

namespace Binary64

/-- the number nearest to a decimal -/
def nearest (negative : Bool) (d : Decimal) : Binary64 :=
  ofDecimal negative d.digits d.exponent

/-- the units of a number as an integer over 10^1074, with all the decimal places it can have -/
def expansion (units : Nat) : Nat :=
  units * Nat.pow 5 places

/-- whether the decimal is read back as `units` -/
def readsBack (units : Nat) (d : Decimal) : Bool :=
  match nearest false d with
  | .finite _ u _ => u == units
  | _ => false

/-- the two neighbours with `count` digits, the nearer one first -/
def neighbours (units size count : Nat) : List Decimal :=
  let n := expansion units
  let step := Nat.pow 10 (size - count)
  let exponent : Int := (size - count : Nat) - (places : Int)
  let below := Decimal.trim 17 ⟨n / step, exponent⟩
  let above := Decimal.trim 17 ⟨n / step + 1, exponent⟩
  let r := n % step
  if 2 * r < step || (2 * r == step && n / step % 2 == 0) then [below, above] else [above, below]

/-- the decimals tried, those of few digits first -/
def candidates (units : Nat) : List Decimal :=
  let size := (natText (expansion units)).length
  (List.range 17).flatMap (fun i => neighbours units size (i + 1))

/-- the number written with all its decimal places -/
def exactDecimal (units : Nat) : Decimal :=
  ⟨expansion units, -places⟩

/-- the shortest decimal that reads back as `units`; the exact expansion is the last resort -/
def shortest (units : Nat) : Decimal :=
  ((candidates units).find? (readsBack units)).getD (exactDecimal units)

theorem readsBack_shortest_or_exact (units : Nat) :
    readsBack units (shortest units) = true ∨ shortest units = exactDecimal units := by
  unfold shortest
  cases h : (candidates units).find? (readsBack units) with
  | none => exact Or.inr rfl
  | some d => exact Or.inl (List.find?_some h)

/-! ## Written form -/

/-- How a number is written: the texts for what is not finite, and whether the digits before an exponent always have
a point. -/
structure Layout where
  nan : String
  infinite : String
  pointBeforeExponent : Bool

/-- The plain form: `nan`, `inf`, `1e-05`. -/
def Layout.plain : Layout := ⟨"nan", "inf", false⟩

/-- the exponent of ten, with a sign and two digits at least -/
def exponentText (exponent : Int) : List Char :=
  let digits := natText exponent.natAbs
  (if exponent < 0 then '-' else '+') :: (if digits.length < 2 then '0' :: digits else digits)

/-- A decimal is written out from 10^-4 up to 10^16, with a digit on each side of the point; otherwise it has one digit
before the point and an exponent. -/
def magnitudeText (layout : Layout) (d : Decimal) : List Char :=
  let digits := natText d.digits
  let point : Int := digits.length + d.exponent
  if d.digits == 0 then ['0', '.', '0']
  else if -4 < point && point ≤ 16 then
    if point ≤ 0 then '0' :: '.' :: (List.replicate (-point).toNat '0' ++ digits)
    else
      let whole := digits.take point.toNat ++ List.replicate (point.toNat - digits.length) '0'
      let fraction := digits.drop point.toNat
      whole ++ '.' :: (if fraction.isEmpty then ['0'] else fraction)
  else
    let fraction := digits.drop 1
    let point' := if fraction.isEmpty then (if layout.pointBeforeExponent then ['.', '0'] else []) else '.' :: fraction
    digits.take 1 ++ point' ++ 'e' :: exponentText (point - 1)

/-- a number in the given layout -/
def written (layout : Layout) : Binary64 → List Char
  | .nan _ => layout.nan.toList
  | .infinite negative => (if negative then ['-'] else []) ++ layout.infinite.toList
  | .finite negative units _ => (if negative then ['-'] else []) ++ magnitudeText layout (shortest units)

/-- a number in its plain form -/
def chars (x : Binary64) : List Char :=
  x.written Layout.plain

def text (x : Binary64) : String :=
  String.ofList x.chars

end Binary64

end LineGrammar
