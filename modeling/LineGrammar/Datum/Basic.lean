/-
Data as they come from files and go into containers: scalars, lists and maps, and the sets and pairs of YAML.

Equality of data is loose about numbers: a truth value equals the integer 0 or 1, and an integer equals the number of
double precision with the same value. `same` is that equality. Of two times that both know their distance from universal
time, it compares the instants.

A list or a map may be a member of itself, at any depth. Then `again` stands in its place, and holds the list or map
once more with an empty one in the places inside; nothing that is a member of itself is empty, so an empty one marks
them.
-/
import LineGrammar.Binary64.Basic
import LineGrammar.Datum.Moment

namespace LineGrammar

/-- A piece of data. The entries of a map are in the order in which their keys first came, and so are the members of a
set. -/
inductive Datum where
  | null
  | bool (b : Bool)
  | int (n : Int)
  | real (x : Binary64)
  | text (s : String)
  | octets (bytes : List UInt8)
  | moment (m : Moment)
  | list (items : List Datum)
  | map (entries : List (Datum × Datum))
  | set (members : List Datum)
  | pair (first second : Datum)
  /-- a list or a map around this place -/
  | again (whole : Datum)

namespace Datum

/-- the value of the entry whose key is the given text -/
def field? (name : String) : List (Datum × Datum) → Option Datum
  | [] => none
  | (.text key, value) :: rest => if key = name then some value else field? name rest
  | _ :: rest => field? name rest

/-- a map with texts as keys -/
def record (fields : List (String × Datum)) : Datum :=
  .map (fields.map (fun f => (.text f.1, f.2)))

/-- the value as an exact integer, truth values being 0 and 1 -/
def asInt? : Datum → Option Int
  | .bool b => some (if b then 1 else 0)
  | .int n => some n
  | _ => none

/-- equality of numbers across their kinds -/
def sameNumber : Datum → Datum → Bool
  | .real x, .real y => x.same y
  | .real x, b => match b.asInt? with | some n => x.sameInt n | none => false
  | a, .real y => match a.asInt? with | some n => y.sameInt n | none => false
  | a, b => match a.asInt?, b.asInt? with | some m, some n => m == n | _, _ => false

mutual

/-- loose equality; maps and sets are compared without regard to order -/
def same : Datum → Datum → Bool
  | .null, .null => true
  | .text s, .text t => s == t
  | .octets a, .octets b => a == b
  | .moment m, .moment k => m.same k
  | .list xs, .list ys => sameItems xs ys
  | .map xs, .map ys => xs.length == ys.length && sameEntries xs ys
  | .set xs, .set ys => xs.length == ys.length && sameMembers xs ys
  | .pair a b, .pair c d => same a c && same b d
  | .again a, .again b => same a b
  | .bool a, b => sameNumber (.bool a) b
  | .int a, b => sameNumber (.int a) b
  | .real a, b => sameNumber (.real a) b
  | _, _ => false

def sameItems : List Datum → List Datum → Bool
  | [], [] => true
  | x :: xs, y :: ys => same x y && sameItems xs ys
  | _, _ => false

/-- whether every entry has a counterpart among `others` -/
def sameEntries : List (Datum × Datum) → List (Datum × Datum) → Bool
  | [], _ => true
  | (k, v) :: rest, others => others.any (fun e => same k e.1 && same v e.2) && sameEntries rest others

/-- whether every member is one of `others` -/
def sameMembers : List Datum → List Datum → Bool
  | [], _ => true
  | x :: rest, others => others.any (fun y => same x y) && sameMembers rest others

end

/-- whether the datum can be the key of a map -/
def hashable : Datum → Bool
  | .list _ | .map _ | .set _ | .again _ => false
  | .pair a b => a.hashable && b.hashable
  | _ => true

/-- whether the datum is empty, zero or absent -/
def falsy : Datum → Bool
  | .null | .bool false => true
  | .int n => n == 0
  | .real x => x.same .zero
  | .text s => s.isEmpty
  | .octets bytes => bytes.isEmpty
  | .list items | .set items => items.isEmpty
  | .map entries => entries.isEmpty
  | _ => false

/-- whether one list of characters stands somewhere in another -/
def occursIn (part : List Char) : List Char → Bool
  | [] => part.isEmpty
  | c :: rest => part.isPrefixOf (c :: rest) || occursIn part rest

/-- whether a word is part of a text, a member of a list or a key of a map -/
def mentions (word : String) : Datum → Bool
  | .text s => occursIn word.toList s.toList
  | .list items | .set items => items.any (fun d => d.same (.text word))
  | .map entries => (field? word entries).isSome
  | .pair a b => a.same (.text word) || b.same (.text word)
  | .again whole => whole.mentions word
  | _ => false

/-- the entries with one more: an equal key keeps its place and takes the new value -/
def putEntry (key value : Datum) : List (Datum × Datum) → List (Datum × Datum)
  | [] => [(key, value)]
  | (k, v) :: rest => if same k key then (k, value) :: rest else (k, v) :: putEntry key value rest

/-- the name of the kind of datum -/
def kindName : Datum → String
  | .null => "NoneType"
  | .bool _ => "bool"
  | .int _ => "int"
  | .real _ => "float"
  | .text _ => "str"
  | .octets _ => "bytes"
  | .moment m => if m.clock.isSome then "datetime" else "date"
  | .list _ => "list"
  | .map _ => "dict"
  | .set _ => "set"
  | .pair .. => "tuple"
  | .again whole => whole.kindName

end Datum

end LineGrammar
