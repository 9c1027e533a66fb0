/-
Data written as JSON: the keys of a map in the order of their code points, a blank after commas and colons, and nothing
but printable ASCII.
-/
import LineGrammar.Datum.Display

namespace LineGrammar.Json

/-- the two units by which a code point above the first plane is written -/
def surrogates (n : Nat) : List Nat :=
  [0xD800 + (n - 0x10000) / 0x400, 0xDC00 + (n - 0x10000) % 0x400]

def unitEscape (n : Nat) : List Char :=
  '\\' :: 'u' :: hexText 4 n

/-- one character inside a string -/
def escape (c : Char) : List Char :=
  let n := c.toNat
  if c == '\x22' || c == '\\' then ['\\', c]
  else if c == '\n' then ['\\', 'n']
  else if c == '\r' then ['\\', 'r']
  else if c == '\t' then ['\\', 't']
  else if n == 8 then ['\\', 'b']
  else if n == 12 then ['\\', 'f']
  else if 32 ≤ n && n < 127 then [c]
  else if n < 0x10000 then unitEscape n
  else (surrogates n).flatMap unitEscape

def string (text : String) : String :=
  "\x22" ++ String.ofList (text.toList.flatMap escape) ++ "\x22"

/-- Numbers of double precision in JSON: the plain form, with words of its own for what is not finite. -/
def numberLayout : Binary64.Layout :=
  ⟨"NaN", "Infinity", false⟩

/-- a scalar; what is no scalar of JSON is written as the string it is shown as -/
def scalar : Datum → String
  | .null => "null"
  | .bool b => if b then "true" else "false"
  | .int n => intShown n
  | .real x => String.ofList (x.written numberLayout)
  | d => string d.shown

/-- the text of a key -/
def keyText : Datum → String
  | .text s => s
  | d => scalar d

/-- entries in ascending order of their keys, equal keys in the order given -/
def sortEntries (entries : List (String × String)) : List (String × String) :=
  entries.mergeSort (fun a b => !(b.1 < a.1))

mutual

def write : Datum → String
  | .list items => "[" ++ ", ".intercalate (writeItems items) ++ "]"
  | .map entries =>
    let fields := (sortEntries (writeEntries entries)).map (fun f => string f.1 ++ ": " ++ f.2)
    "\x7b" ++ ", ".intercalate fields ++ "\x7d"
  | d => scalar d

def writeItems : List Datum → List String
  | [] => []
  | x :: xs => write x :: writeItems xs

/-- the keys with the written values -/
def writeEntries : List (Datum × Datum) → List (String × String)
  | [] => []
  | (k, v) :: rest => (keyText k, write v) :: writeEntries rest

end

end LineGrammar.Json
