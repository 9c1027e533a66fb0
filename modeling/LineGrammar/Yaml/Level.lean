/-
The first fault of a YAML tree.

Of several faults the one counts that is met first when lists and maps are gone through level by level: all those of one
depth, in order, before those inside them. A scalar belongs to the turn of the list or map it stands in. What is said to
be a list or a map is only found out not to be one when its own turn comes. A tree under an anchor has one turn only, at
the first place where it stands.
-/
import LineGrammar.Yaml.Tree

namespace LineGrammar.Yaml.Tree

/-- the members that wait for a turn of their own: lists and maps do, whereas a scalar is read at once -/
def waiting (t : Tree) : Except Fault (List Tree) :=
  match t with
  | .hole _ => .ok []
  | _ => if t.kind.isCollection then .ok [t] else t.single.map (fun _ => [])

/-! ## Entries -/

/-- whether a list under an anchor is one of its own items -/
def hasItself (anchor : String) : Tree → Bool
  | .list _ items => items.any (fun item =>
    match item with
    | .hole a => a == anchor
    | _ => false)
  | _ => false

mutual

/-- the entries that are merged into a map, and its own ones -/
def splitEntries : List (Tree × Tree) → Except Fault (List (Tree × Tree) × List (Tree × Tree))
  | [] => .ok ([], [])
  | (k, v) :: rest => do
    if k.kind == .merge then
      let here ← mergedFrom v
      let (merged, own) ← splitEntries rest
      pure (here ++ merged, own)
    else
      let (merged, own) ← splitEntries rest
      pure (merged, (k, v) :: own)

/-- The entries under a merge key, which has to have a map or a list of maps. Those of a tree under an anchor come out
of it, so that the tree is not around them any more. -/
def mergedFrom : Tree → Except Fault (List (Tree × Tree))
  | .map _ entries => (splitEntries entries).map (fun r => r.1 ++ r.2)
  | .list _ items => mergedFromAll items
  | .shared anchor t known =>
    if t.hasItself anchor then .error .malformed
    else (mergedFrom t).map (fillEntries anchor (.shared anchor t known))
  | .scalar .. => .error .malformed
  | .hole _ => .ok []

def mergedFromAll : List Tree → Except Fault (List (Tree × Tree))
  | [] => .ok []
  | t :: rest => do
    let here ← mergedFromItem t
    let later ← mergedFromAll rest
    pure (later ++ here)

def mergedFromItem : Tree → Except Fault (List (Tree × Tree))
  | .map _ entries => (splitEntries entries).map (fun r => r.1 ++ r.2)
  | .shared anchor t known => (mergedFromItem t).map (fillEntries anchor (.shared anchor t known))
  | .list .. | .scalar .. => .error .malformed
  | .hole _ => .ok []

end

def waitingInEntry (entry : Tree × Tree) : Except Fault (List Tree) := do
  let _ ← entry.1.key
  entry.2.waiting

/-- the entries of a map, merged ones among them, have to have keys -/
def waitingInMap : Tree → Except Fault (List Tree)
  | .map _ entries => do
    let (merged, own) ← splitEntries entries
    (merged ++ own).flatMapM waitingInEntry
  | .shared _ t _ => waitingInMap t
  | _ => .error .malformed

/-- the entry of a map with only one -/
def loneEntry : Tree → Option (Tree × Tree)
  | .map _ [entry] => some entry
  | .shared anchor t known =>
    let whole := Tree.shared anchor t known
    (loneEntry t).map (fun entry => (fill anchor whole entry.1, fill anchor whole entry.2))
  | _ => none

/-- a pair is a map with one entry, whose key may be a list or a map too -/
def waitingInPair (t : Tree) : Except Fault (List Tree) :=
  match loneEntry t with
  | none => .error .malformed
  | some entry => do
    let first ← entry.1.waiting
    let second ← entry.2.waiting
    pure (first ++ second)

/-- the items of a list, each of which is looked at in the given way -/
def waitingInList (item : Tree → Except Fault (List Tree)) : Tree → Except Fault (List Tree)
  | .list _ items => items.flatMapM item
  | .shared _ t _ => waitingInList item t
  | _ => .error .malformed

/-! ## Levels -/

/-- the turn of a list or a map: what is left for the next level -/
def turn (t : Tree) : Except Fault (List Tree) :=
  match t.kind with
  | .map | .set => waitingInMap t
  | .list => waitingInList waiting t
  | .pairs => waitingInList waitingInPair t
  | _ => .error .malformed

/-- the trees that have had no turn yet, and the anchors of all that have had one after that -/
def unseen : List String → List Tree → List Tree × List String
  | seen, [] => ([], seen)
  | seen, .shared anchor t known :: rest =>
    if seen.contains anchor then unseen seen rest
    else
      let (others, after) := unseen (anchor :: seen) rest
      (.shared anchor t known :: others, after)
  | seen, t :: rest =>
    let (others, after) := unseen seen rest
    (t :: others, after)

/-- goes through the levels from one on, of which there are at most so many -/
def checkLevels : Nat → List String → List Tree → Except Fault Unit
  | 0, _, _ => .error .malformed
  | levels + 1, seen, trees => do
    let (fresh, seen) := unseen seen trees
    if fresh.isEmpty then pure ()
    else
      let inner ← fresh.flatMapM turn
      checkLevels levels seen inner

/-- goes through a whole tree -/
def check (levels : Nat) (t : Tree) : Except Fault Unit := do
  let trees ← t.waiting
  checkLevels levels [] trees

end LineGrammar.Yaml.Tree
