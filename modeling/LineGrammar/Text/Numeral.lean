/-
Decimal digits of all scripts, and numbers written in them.

The digits of a script follow its zero in order, so a table of the zeros says what every digit is worth. `numeral` puts
the digits and blanks of ASCII in the place of all others, so that only ASCII is left to be read.
-/
import LineGrammar.Text.Blank

namespace LineGrammar

/-- the code points of the zeros of all scripts -/
def scriptZeros : List Nat := [
  0x0030, 0x0660, 0x06F0, 0x07C0, 0x0966, 0x09E6, 0x0A66, 0x0AE6, 0x0B66, 0x0BE6, 0x0C66, 0x0CE6, 0x0D66, 0x0DE6,
  0x0E50, 0x0ED0, 0x0F20, 0x1040, 0x1090, 0x17E0, 0x1810, 0x1946, 0x19D0, 0x1A80, 0x1A90, 0x1B50, 0x1BB0, 0x1C40,
  0x1C50, 0xA620, 0xA8D0, 0xA900, 0xA9D0, 0xA9F0, 0xAA50, 0xABF0, 0xFF10, 0x104A0, 0x10D30, 0x11066, 0x110F0, 0x11136,
  0x111D0, 0x112F0, 0x11450, 0x114D0, 0x11650, 0x116C0, 0x11730, 0x118E0, 0x11950, 0x11C50, 0x11D50, 0x11DA0, 0x16A60,
  0x16AC0, 0x16B50, 0x1D7CE, 0x1D7D8, 0x1D7E2, 0x1D7EC, 0x1D7F6, 0x1E140, 0x1E2F0, 0x1E950, 0x1FBF0]

/-- the value of a decimal digit of any script -/
def scriptDigit? (c : Char) : Option Nat :=
  (scriptZeros.find? (fun start => start ≤ c.toNat && c.toNat < start + 10)).map (fun start => c.toNat - start)

/-- the character of ASCII that counts for a character of a number; a question mark counts for what is out of place -/
def numeralChar (c : Char) : Char :=
  if c.toNat < 127 then c
  else if isBlank c then ' '
  else
    match scriptDigit? c with
    | some n => Char.ofNat ('0'.toNat + n)
    | none => '?'

/-- the text without the ASCII blanks at its two ends -/
def trimmed (text : List Char) : List Char :=
  ((text.dropWhile isAsciiBlank).reverse.dropWhile isAsciiBlank).reverse

/-- a text from which a number is to be read, in ASCII and without blanks around it -/
def numeral (text : List Char) : List Char :=
  trimmed (text.map numeralChar)

end LineGrammar
