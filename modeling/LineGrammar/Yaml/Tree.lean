/-
YAML texts as trees of scalars, lists and maps, and the data that trees stand for.

Every node of a tree has its kind, said by a tag or taken from the form. A list or a map with an anchor is `shared`: it
stands in the tree at its own place and wherever an alias names it. What it stands for is found once, when it is
complete; so a text that repeats an alias over and over is no harder to read than another. An alias inside what it names
is a `hole`, and `again` is what stands there in the data.

Of two entries with the same key the first gives the place and the last the value. The entries under a merge key come
before a map's own ones, so that the map's own values prevail.

`datum` is only meant for trees without a fault; whatever is at fault is nothing there.
-/
import LineGrammar.Yaml.Value

namespace LineGrammar.Yaml

/-- A part of a YAML text; `own` is a number that no other scalar with a tag has. -/
inductive Tree where
  | scalar (kind : Kind) (own : Nat) (text : List Char)
  | list (kind : Kind) (items : List Tree)
  | map (kind : Kind) (entries : List (Tree × Tree))
  /-- a list or a map under an anchor, and what it stands for, unless that hangs on what is around it -/
  | shared (anchor : String) (t : Tree) (known : Option Datum)
  /-- a list or a map around this place, named by its anchor -/
  | hole (anchor : String)

namespace Tree

/-- the kind of a tree; what a hole stands for has its kind elsewhere -/
def kind : Tree → Kind
  | .scalar kind _ _ | .list kind _ | .map kind _ => kind
  | .shared _ t _ => t.kind
  | .hole _ => .unknown

/-! ## Scalars -/

mutual

/-- the text of a scalar; a map has that of the value under its value mark, and none if that is the map itself -/
def text : Tree → Except Fault (List Char)
  | .scalar _ _ text => .ok text
  | .map _ entries => valueText entries
  | .shared _ t _ => text t
  | .list .. => .error .malformed
  | .hole _ => .error .tooDeep

def valueText : List (Tree × Tree) → Except Fault (List Char)
  | [] => .error .malformed
  | (k, v) :: rest => if k.kind == .value then text v else valueText rest

end

/-- the number that no other scalar has -/
def own : Tree → Nat
  | .scalar _ own _ => own
  | _ => 0

def isMap : Tree → Bool
  | .map .. => true
  | .shared _ t _ => t.isMap
  | _ => false

/-- the datum of a tree of the kind of a scalar; a map can be any of these kinds but a date -/
def single (t : Tree) : Except Fault Datum := do
  if !t.kind.isSingle then .error .malformed
  else
    let text ← t.text
    if t.isMap && t.kind == .date then .error .mapForDate else readScalar t.kind t.own text

/-- the key of an entry; no list and no map can be one, and a value mark is a text here -/
def key (t : Tree) : Except Fault Datum :=
  if t.kind.isCollection then .error .malformed
  else if t.kind == .value then t.text.map (fun text => .text (String.ofList text))
  else t.single

/-! ## Holes -/

mutual

/-- the anchors of the lists and maps around a tree that its data hang on -/
def holes : Tree → List String
  | .scalar .. => []
  | .list _ items => holesOf items
  | .map _ entries => holesIn entries
  | .shared _ _ (some _) => []
  | .shared anchor t none => (holes t).filter (· != anchor)
  | .hole anchor => [anchor]

def holesOf : List Tree → List String
  | [] => []
  | t :: rest => holes t ++ holesOf rest

def holesIn : List (Tree × Tree) → List String
  | [] => []
  | (k, v) :: rest => holes k ++ holes v ++ holesIn rest

end

mutual

/-- the tree with another one in the holes of an anchor -/
def fill (anchor : String) (filling : Tree) : Tree → Tree
  | .list kind items => .list kind (fillAll anchor filling items)
  | .map kind entries => .map kind (fillEntries anchor filling entries)
  | .shared a t none => .shared a (fill anchor filling t) none
  | .hole a => if a == anchor then filling else .hole a
  | t => t

def fillAll (anchor : String) (filling : Tree) : List Tree → List Tree
  | [] => []
  | t :: rest => fill anchor filling t :: fillAll anchor filling rest

def fillEntries (anchor : String) (filling : Tree) : List (Tree × Tree) → List (Tree × Tree)
  | [] => []
  | (k, v) :: rest => (fill anchor filling k, fill anchor filling v) :: fillEntries anchor filling rest

end

/-! ## Data -/

/-- What stands for the lists and maps around a place that is part of them. -/
abbrev Surroundings := List (String × Datum)

/-- the datum in a result, nothing if there is none -/
def orNull (result : Except Fault Datum) : Datum :=
  match result with
  | .ok d => d
  | .error _ => .null

/-- the entries of a map, of which the last one of a key counts -/
def settle (entries : List (Datum × Datum)) : List (Datum × Datum) :=
  entries.foldl (fun known e => Datum.putEntry e.1 e.2 known) []

/-- what marks a list or a map inside itself for the second time -/
def bare : Tree → Datum
  | .map .. => .again (.map [])
  | _ => .again (.list [])

/-- What a tree under an anchor stands for, unless that is known: inside itself it stands once more, and is marked there
where it would stand again. `data` says what it stands for in given surroundings. -/
def wholeOf (known : Option Datum) (anchor : String) (t : Tree) (around : Surroundings) (data : Surroundings → Datum) :
    Datum :=
  match known with
  | some d => d
  | none => data ((anchor, .again (data ((anchor, t.bare) :: around))) :: around)

mutual

/-- what a tree stands for in given surroundings -/
def datum : Tree → Surroundings → Datum
  | .scalar kind own text, _ => orNull (readScalar kind own text)
  | .list .list items, around => .list (dataOf items around)
  | .list .pairs items, around => .list (pairsOf items around)
  | .list .., _ => .null
  | .map .map entries, around => .map (settle (entriesOf entries around))
  | .map .set entries, around => .set ((settle (entriesOf entries around)).map Prod.fst)
  | .map kind entries, _ => orNull (single (.map kind entries))
  | .shared anchor t known, around => wholeOf known anchor t around (fun inside => datum t inside)
  | .hole anchor, around => (around.lookup anchor).getD .null

def dataOf : List Tree → Surroundings → List Datum
  | [], _ => []
  | t :: rest, around => datum t around :: dataOf rest around

/-- the pairs of maps with one entry each -/
def pairsOf : List Tree → Surroundings → List Datum
  | [], _ => []
  | t :: rest, around => pairOf t around :: pairsOf rest around

def pairOf : Tree → Surroundings → Datum
  | .map _ ((k, v) :: _), around => .pair (datum k around) (datum v around)
  | .shared anchor t known, around =>
    pairOf t ((anchor, wholeOf known anchor t around (fun inside => datum t inside)) :: around)
  | _, _ => .null

/-- all entries of a map in order, those of merged maps first -/
def entriesOf (entries : List (Tree × Tree)) (around : Surroundings) : List (Datum × Datum) :=
  mergedEntries entries around ++ ownEntries entries around

def ownEntries : List (Tree × Tree) → Surroundings → List (Datum × Datum)
  | [], _ => []
  | (k, v) :: rest, around =>
    if k.kind == .merge then ownEntries rest around
    else (orNull k.key, datum v around) :: ownEntries rest around

def mergedEntries : List (Tree × Tree) → Surroundings → List (Datum × Datum)
  | [], _ => []
  | (k, v) :: rest, around =>
    if k.kind == .merge then merged v around ++ mergedEntries rest around else mergedEntries rest around

/-- the entries under a merge key: those of a map, or of the maps of a list, the last map first -/
def merged : Tree → Surroundings → List (Datum × Datum)
  | .map _ entries, around => entriesOf entries around
  | .list _ items, around => mergedItems items around
  | .shared anchor t known, around =>
    match known, t.holes with
    | some (.map entries), [] => entries
    | _, _ => merged t ((anchor, wholeOf known anchor t around (fun inside => datum t inside)) :: around)
  | _, _ => []

def mergedItems : List Tree → Surroundings → List (Datum × Datum)
  | [], _ => []
  | t :: rest, around => mergedItems rest around ++ merged t around

end

/-! ## Sharing -/

/-- a complete tree under its anchor; what it stands for is known if nothing around it is part of it -/
def share (anchor : String) (t : Tree) : Tree :=
  let holes := t.holes
  let known :=
    if holes.isEmpty then some (t.datum [])
    else if holes.all (· == anchor) then some (datum (.shared anchor t none) [])
    else none
  .shared anchor t known

end Tree

end LineGrammar.Yaml
