/-
What can be wrong with a YAML text.
-/
import LineGrammar.Error
import LineGrammar.Text.Quoted

namespace LineGrammar.Yaml

/-- Why a text is not read as YAML: it is malformed, or a scalar in it does not stand for what it is said or taken to
be. -/
inductive Fault where
  | malformed
  /-- digits that are no number, a date that does not exist, or a code without a character -/
  | noValue
  | outOfRange
  /-- nothing stands where a number has to be -/
  | emptyNumber
  /-- a word, in small letters, that is no truth value -/
  | unknownFlag (word : String)
  /-- a text that does not have the form of a date -/
  | notDate
  /-- a map that is said to be a date -/
  | mapForDate
  /-- more levels of lists and maps than can be gone through, without end or not -/
  | tooDeep
  deriving DecidableEq

def Fault.errorClass : Fault → ErrorClass
  | .malformed => .runtime .yaml
  | .noValue => .runtime .value
  | .outOfRange => .runtime .overflow
  | .emptyNumber => .runtime .index
  | .unknownFlag _ => .runtime .key
  | .notDate => .runtime .attribute
  | .mapForDate => .runtime .type
  | .tooDeep => .runtime .recursion

def Fault.message? : Fault → Option String
  | .unknownFlag word => some (quoted word)
  | _ => none

end LineGrammar.Yaml
