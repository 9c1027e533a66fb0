/-
The branches of a grammar: what is left of it once a choice is made for every switch.

A branch is a list of components without switches; where a switch stood, its discriminator stands as a selection,
followed by the components of the choice that was made.
-/
import LineGrammar.Component.Basic

namespace LineGrammar

mutual

/-- the branches of one component -/
def branches : Component → List (List Component)
  | .switch s _ choices => (branchesOfChoices choices).map (.selection s :: ·)
  | c => [[c]]

/-- the branches of a sequence: one branch of every component, in all combinations -/
def branchesOfAll : List Component → List (List Component)
  | [] => [[]]
  | x :: xs => (branches x).flatMap (fun b => (branchesOfAll xs).map (b ++ ·))

/-- the branches of every choice, in order -/
def branchesOfChoices : List (Choice Component) → List (List Component)
  | [] => []
  | ⟨_, components⟩ :: rest => branchesOfAll components ++ branchesOfChoices rest

end

mutual

/-- how many switches lie inside each other -/
def switchDepth : Component → Nat
  | .switch _ _ choices => 1 + switchDepthOfChoices choices
  | _ => 0

def switchDepthOfAll : List Component → Nat
  | [] => 0
  | x :: xs => max (switchDepth x) (switchDepthOfAll xs)

def switchDepthOfChoices : List (Choice Component) → Nat
  | [] => 0
  | ⟨_, components⟩ :: rest => max (switchDepthOfAll components) (switchDepthOfChoices rest)

end

mutual

/-- a component and all the components inside it, each before what it holds -/
def everyComponent : Component → List Component
  | .switch s key choices => .switch s key choices :: everyComponentOfChoices choices
  | c => [c]

def everyComponentOfAll : List Component → List Component
  | [] => []
  | x :: xs => everyComponent x ++ everyComponentOfAll xs

def everyComponentOfChoices : List (Choice Component) → List Component
  | [] => []
  | ⟨_, components⟩ :: rest => everyComponentOfAll components ++ everyComponentOfChoices rest

end

namespace Component

/-- whether the component writes an entry under its own name -/
def writesKey : Component → Bool
  | .separator .. | .processed .. => false
  | _ => true

/-- whether the entry is an integer, and so can be a length -/
def writesInt : Component → Bool
  | .scalar _ (.number (.int _)) => true
  | .selection s => s.literals.all (fun l => l.value.isInt)
  | _ => false

/-- the field a vector takes its length from -/
def lengthSource? : Component → Option Datum
  | .vector _ (.takenFrom source) _ => some source
  | _ => none

end Component

/-- the names a branch writes, in order -/
def keysOf (branch : List Component) : List String :=
  (branch.filter Component.writesKey).map Component.name

end LineGrammar
