/-
What can be said about a grammar before any line is read.

A report counts the components, lists the names that are written and the lengths that are taken from fields, and holds
what is wrong: a length taken from a field that is no integer read before it on the branch, and a name that is written
twice on one branch. A grammar without these two is valid. Warnings tell of what is allowed and still suspicious.
-/
import LineGrammar.Component.Build
import LineGrammar.Grammar.Branch

namespace LineGrammar

/-- A report on one grammar; the two lists of defects are in ascending order. -/
structure Report where
  name : Datum
  total : Nat
  counts : List (String × Nat)
  optional : Nat
  branches : Nat
  depth : Nat
  keys : List String
  repeated : List String
  dependencies : List (String × Datum)
  unresolved : List String
  warnings : List String

/-! ## Lists of names -/

/-- the list with one more member, unless it is there already -/
def addNew (names : List String) (name : String) : List String :=
  if names.contains name then names else names ++ [name]

/-- the members of a list, each once, where it first comes -/
def distinct (names : List String) : List String :=
  names.foldl addNew []

/-- puts a name before the first one that is greater -/
def insertSorted (name : String) : List String → List String
  | [] => [name]
  | n :: rest => if name < n then name :: n :: rest else n :: insertSorted name rest

/-- the members of a list, each once, in ascending order of code points -/
def sortedDistinct (names : List String) : List String :=
  (distinct names).foldr insertSorted []

/-- the association list with a new value for a key: a known key keeps its place -/
def putPair {α : Type} (key : String) (value : α) : List (String × α) → List (String × α)
  | [] => [(key, value)]
  | (k, v) :: rest => if k = key then (k, value) :: rest else (k, v) :: putPair key value rest

def countOne (counts : List (String × Nat)) (kind : String) : List (String × Nat) :=
  putPair kind ((counts.lookup kind).getD 0 + 1) counts

/-! ## Defects -/

/-- whether a length taken from a source is one of the integers; only a text can name one -/
def isAmong (ints : List String) : Datum → Bool
  | .text name => ints.contains name
  | _ => false

/-- the vectors of a branch whose length is taken from no integer before them, `ints` being the integers so far -/
def unresolvedIn (ints : List String) : List Component → List String
  | [] => []
  | c :: rest =>
    let here := match c.lengthSource? with
      | some source => if isAmong ints source then [] else [c.name]
      | none => []
    here ++ unresolvedIn (if c.writesInt then c.name :: ints else ints) rest

/-- the names a branch writes again, `written` being the names so far -/
def repeatedIn (written : List String) : List Component → List String
  | [] => []
  | c :: rest =>
    if c.writesKey then
      (if written.contains c.name then [c.name] else []) ++ repeatedIn (c.name :: written) rest
    else repeatedIn written rest

/-- whether a component that follows an optional separator is bound to fail without it -/
def needsLabel : Component → Bool
  | .selection _ => false
  | c => c.writesKey && !c.optional

def separatorWarning (label : Token) (c : Component) : String :=
  s!"Optional separator '{label.text}' is followed by mandatory '{c.name}'"

/-- the warnings about optional separators that come right before a mandatory value -/
def separatorWarnings : List Component → List String
  | .separator label true _ :: c :: rest =>
    (if needsLabel c then [separatorWarning label c] else []) ++ separatorWarnings (c :: rest)
  | _ :: rest => separatorWarnings rest
  | [] => []

namespace Report

/-- whether every branch can be read without running into the grammar's own defects -/
def valid (r : Report) : Bool :=
  r.unresolved.isEmpty && r.repeated.isEmpty

/-- the report with a warning more, unless it is there already -/
def addWarning (r : Report) (warning : String) : Report :=
  { r with warnings := addNew r.warnings warning }

/-- the warning that sums up a list of defects -/
def summary (what : String) (names : List String) : List String :=
  if names.isEmpty then [] else [what ++ ": " ++ ", ".intercalate names]

end Report

/-- the vectors whose length is taken from a field, with the field; of two vectors with one name the last counts -/
def lengthDependencies (components : List Component) : List (String × Datum) :=
  components.foldl (fun pairs c => match c.lengthSource? with
    | some source => putPair c.name source pairs
    | none => pairs) []

/-- whether every source of a length could be the name of a field; a list or a map cannot even be looked for -/
def sourcesHashable (components : List Component) : Bool :=
  (everyComponentOfAll components).all (fun c => (c.lengthSource?.map Datum.hashable).getD true)

/-- the report on a sequence of components -/
def analyze (name : Datum) (components : List Component) : Report :=
  let inside := everyComponentOfAll components
  let lines := branchesOfAll components
  let unresolved := sortedDistinct (lines.flatMap (unresolvedIn []))
  let repeated := sortedDistinct (lines.flatMap (repeatedIn []))
  { name
    total := inside.length
    counts := (inside.map Component.kindName).foldl countOne []
    optional := (inside.filter Component.optional).length
    branches := lines.length
    depth := switchDepthOfAll components
    keys := distinct (lines.flatMap keysOf)
    repeated
    dependencies := lengthDependencies inside
    unresolved
    warnings := distinct (lines.flatMap separatorWarnings ++ Report.summary "Unresolved vector lengths" unresolved ++
      Report.summary "Keys written twice" repeated) }

/-- the report on given components, unless a length is taken from what cannot be looked for -/
def Report.build (name : Datum) (components : List Component) : Except BuildError Report :=
  if sourcesHashable components then .ok (analyze name components) else .error .unhashable

end LineGrammar
