/-
Texts shown in quotes, as they stand inside lists, maps and messages.

A text is put between single quotes, or between double quotes when it holds a single quote and no double one. The
backslash, the enclosing mark and what is not printable are escaped. Octets are shown in the same way, with a letter in
front.
-/
import LineGrammar.Text.Digits
import LineGrammar.Text.Printable

namespace LineGrammar

/-- the mark that encloses a text -/
def quoteMark (text : List Char) : Char :=
  if text.contains '\x27' && !text.contains '\x22' then '\x22' else '\x27'

/-- one character of a text enclosed in `mark` -/
def quotedChar (mark c : Char) : List Char :=
  if c == '\\' || c == mark then ['\\', c]
  else if c == '\n' then ['\\', 'n']
  else if c == '\r' then ['\\', 'r']
  else if c == '\t' then ['\\', 't']
  else if isPrintable c then [c]
  else if c.toNat < 0x100 then '\\' :: 'x' :: hexText 2 c.toNat
  else if c.toNat < 0x10000 then '\\' :: 'u' :: hexText 4 c.toNat
  else '\\' :: 'U' :: hexText 8 c.toNat

def quotedChars (text : List Char) : List Char :=
  let mark := quoteMark text
  mark :: text.flatMap (quotedChar mark) ++ [mark]

/-- a text in quotes -/
def quoted (text : String) : String :=
  String.ofList (quotedChars text.toList)

/-- one octet of octets enclosed in `mark`; of those above ASCII none is printable -/
def quotedOctet (mark : Char) (octet : UInt8) : List Char :=
  if octet.toNat < 127 then quotedChar mark (Char.ofNat octet.toNat) else '\\' :: 'x' :: hexText 2 octet.toNat

/-- octets in quotes -/
def quotedOctets (octets : List UInt8) : String :=
  let mark := quoteMark (octets.map (fun octet => Char.ofNat octet.toNat))
  String.ofList ('b' :: mark :: octets.flatMap (quotedOctet mark) ++ [mark])

end LineGrammar
