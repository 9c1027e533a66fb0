/-
Numbers written in digits: decimal for integers, hexadecimal of fixed width for code points.
-/

namespace LineGrammar

def isDigit (c : Char) : Bool :=
  c.isDigit

/-- the most digits an integer may be read from or written in -/
def digitLimit : Nat := 4300

/-- the number a run of decimal digits stands for -/
def digitsValue (digits : List Char) : Nat :=
  Nat.ofDigitChars 10 digits 0

/-- a natural number in decimal, without leading zeros -/
def natText (n : Nat) : List Char :=
  Nat.toDigits 10 n

/-- an integer in decimal, with a sign if it is negative -/
def intText : Int → List Char
  | .ofNat n => natText n
  | .negSucc n => '-' :: natText (n + 1)

/-- whether an integer has few enough digits to be written -/
def isWritable (n : Int) : Bool :=
  (natText n.natAbs).length ≤ digitLimit

/-- a number has no more digits than `limit` if it is below the first one that has more -/
theorem length_natText_le_iff {n limit : Nat} (h : 0 < limit) : (natText n).length ≤ limit ↔ n < Nat.pow 10 limit :=
  Nat.length_toDigits_le_iff (by decide) h

theorem isWritable_iff {n : Int} : isWritable n = true ↔ n.natAbs < Nat.pow 10 digitLimit := by
  rw [isWritable, decide_eq_true_iff]
  exact length_natText_le_iff (by decide)

theorem digitsValue_natText (n : Nat) : digitsValue (natText n) = n :=
  Nat.ofDigitChars_ten_toDigits

theorem isDigit_of_mem_natText {n : Nat} {c : Char} (h : c ∈ natText n) : isDigit c = true :=
  Nat.isDigit_of_mem_toDigits (by decide) (by decide) h

/-- so many digits stand for a number of no more digits -/
theorem digitsValue_lt {digits : List Char} (h : ∀ c ∈ digits, isDigit c = true) :
    digitsValue digits < Nat.pow 10 digits.length := by
  induction digits with
  | nil => decide
  | cons c rest ih =>
    obtain ⟨hc, hrest⟩ := List.forall_mem_cons.1 h
    have hnine : c.toNat - '0'.toNat ≤ 9 := Nat.sub_le_of_le_add (Char.isDigit_iff_toNat.1 hc).2
    have hvalue : digitsValue (c :: rest) =
        Nat.pow 10 rest.length * (c.toNat - '0'.toNat) + digitsValue rest := by
      rw [digitsValue, Nat.ofDigitChars_cons, Nat.ofDigitChars_eq_ofDigitChars_zero, Nat.mul_zero, Nat.zero_add]
      rfl
    calc
      digitsValue (c :: rest) < Nat.pow 10 rest.length * (c.toNat - '0'.toNat) + Nat.pow 10 rest.length := by
        rw [hvalue]
        exact Nat.add_lt_add_left (ih hrest) _
      _ ≤ Nat.pow 10 rest.length * 9 + Nat.pow 10 rest.length := Nat.add_le_add_right (Nat.mul_le_mul_left _ hnine) _
      _ = Nat.pow 10 rest.length * 10 := (Nat.mul_succ _ 9).symm
      _ = Nat.pow 10 (c :: rest).length := rfl

theorem digitsValue_lt_of_length_le {digits : List Char} (h : ∀ c ∈ digits, isDigit c = true) {limit : Nat}
    (hlimit : digits.length ≤ limit) : digitsValue digits < Nat.pow 10 limit :=
  Nat.lt_of_lt_of_le (digitsValue_lt h) (Nat.pow_le_pow_right (by decide) hlimit)

/-- a number in hexadecimal, filled with zeros to a width -/
def hexText (width n : Nat) : List Char :=
  let digits := Nat.toDigits 16 n
  List.replicate (width - digits.length) '0' ++ digits

/-- the value of a hexadecimal digit -/
def hexDigitValue? (c : Char) : Option Nat :=
  if '0' ≤ c && c ≤ '9' then some (c.toNat - '0'.toNat)
  else if 'a' ≤ c && c ≤ 'f' then some (c.toNat - 'a'.toNat + 10)
  else if 'A' ≤ c && c ≤ 'F' then some (c.toNat - 'A'.toNat + 10)
  else none

/-- the number a run of digits stands for in a base up to sixteen; characters that are no digits count as zero -/
def baseValue (base : Nat) (digits : List Char) : Nat :=
  digits.foldl (fun n c => base * n + (hexDigitValue? c).getD 0) 0

end LineGrammar
