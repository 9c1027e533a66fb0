/-
The classes of characters of YAML.
-/
import LineGrammar.Text.Digits

namespace LineGrammar.Yaml

/-- whether a character may stand in a YAML text at all -/
def isAllowed (c : Char) : Bool :=
  let n := c.toNat
  n == 9 || n == 10 || n == 13 || (0x20 ≤ n && n ≤ 0x7E) || n == 0x85 || (0xA0 ≤ n && n ≤ 0xFFFD) || 0x10000 ≤ n

def isGap (c : Char) : Bool :=
  c == ' ' || c == '\t'

/-- the characters that end a line -/
def isBreak (c : Char) : Bool :=
  c == '\n' || c == '\r' || c == '\u0085' || c == '\u2028' || c == '\u2029'

/-- blanks and line ends -/
def isGapOrBreak (c : Char) : Bool :=
  isGap c || isBreak c

/-- whether a word cannot go on here: the text is at its end, or a blank or a line end comes next -/
def gapNext : List Char → Bool
  | [] => true
  | c :: _ => isGapOrBreak c

/-- the characters of names: of anchors, directives and handles of tags -/
def isNameChar (c : Char) : Bool :=
  c.isAlphanum || c == '-' || c == '_'

/-- the characters of tags -/
def isUriChar (c : Char) : Bool :=
  isNameChar c || ";/?:@&=+$,.!~*'()[]%".toList.contains c

end LineGrammar.Yaml
