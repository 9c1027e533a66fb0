/-
Data shown as text. A text shown by itself is that text; inside a list or a map it stands in quotes. Where a list or a
map stands inside itself, dots are shown.
-/
import LineGrammar.Binary64.Shortest
import LineGrammar.Datum.Basic
import LineGrammar.Text.Quoted

namespace LineGrammar

def intShown (n : Int) : String :=
  String.ofList (intText n)

def boolShown (b : Bool) : String :=
  if b then "True" else "False"

/-- parts in braces -/
def braced (parts : List String) : String :=
  "\x7b" ++ ", ".intercalate parts ++ "\x7d"

namespace Datum

/-- what is shown of a list or a map inside itself -/
def dots : Datum → String
  | .map _ => braced ["..."]
  | _ => "[...]"

mutual

/-- the datum as it stands inside lists and maps -/
def inner : Datum → String
  | .null => "None"
  | .bool b => boolShown b
  | .int n => intShown n
  | .real x => x.text
  | .text s => quoted s
  | .octets bytes => quotedOctets bytes
  | .moment m => m.inner
  | .list items => "[" ++ ", ".intercalate (innerItems items) ++ "]"
  | .map entries => braced (innerEntries entries)
  | .set members => if members.isEmpty then "set()" else braced (innerItems members)
  | .pair a b => "(" ++ inner a ++ ", " ++ inner b ++ ")"
  | .again whole => whole.dots

def innerItems : List Datum → List String
  | [] => []
  | x :: xs => inner x :: innerItems xs

def innerEntries : List (Datum × Datum) → List String
  | [] => []
  | (k, v) :: rest => (inner k ++ ": " ++ inner v) :: innerEntries rest

end

mutual

/-- whether no integer in the datum has too many digits to be written -/
def showable : Datum → Bool
  | .int n => isWritable n
  | .list items | .set items => showableItems items
  | .map entries => showableEntries entries
  | .pair a b => showable a && showable b
  | .again whole => showable whole
  | _ => true

def showableItems : List Datum → Bool
  | [] => true
  | x :: xs => showable x && showableItems xs

def showableEntries : List (Datum × Datum) → Bool
  | [] => true
  | (k, v) :: rest => showable k && showable v && showableEntries rest

end

/-- the datum by itself -/
def shown : Datum → String
  | .text s => s
  | .moment m => m.text
  | .again whole => whole.inner
  | d => d.inner

end Datum

/-- a fixed sequence in round brackets, with a comma after a lone member -/
def bracketed (items : List Datum) : String :=
  match items with
  | [x] => "(" ++ x.inner ++ ",)"
  | _ => "(" ++ ", ".intercalate (Datum.innerItems items) ++ ")"

/-- a list of texts -/
def textsShown (items : List String) : String :=
  "[" ++ ", ".intercalate (items.map quoted) ++ "]"

end LineGrammar
