/-
What keeps default lines from being written, and the default lines of a grammar where nothing does.

Lines are written component by component, each of them on every branch so far before the next one; the obstacle that
counts is the first one met in this order. Only what is known on the branches is needed to find it, and no token of a
line is written before all of it is looked through.
-/
import LineGrammar.Grammar.DefaultLine

namespace LineGrammar

/-- What keeps default lines from being written. -/
inductive Obstacle where
  /-- a component of a kind that cannot be written -/
  | unsupported (kind : String)
  /-- nothing can be known under the source of a length -/
  | sourceUnfit (source : Datum)
  /-- no list has that many members -/
  | lengthTooLarge (count : Nat)
  /-- an integer in the datum has too many digits to be written -/
  | unwritable (d : Datum)

def Obstacle.errorClass : Obstacle → ErrorClass
  | .unsupported _ | .sourceUnfit _ => .runtime .type
  | .lengthTooLarge count => .ofLength count
  | .unwritable _ => .runtime .value

def Obstacle.message? : Obstacle → Option String
  | .unsupported kind => some s!"Unsupported component type: {kind}"
  | .sourceUnfit _ | .lengthTooLarge _ | .unwritable _ => none

/-- a datum as it is shown, unless it cannot be written -/
def Datum.written (d : Datum) : Except Obstacle String :=
  if d.showable then .ok d.shown else .error (.unwritable d)

/-- whether a list may have so many members: fewer than the bound, if there is one -/
def admitted (bound : Option Nat) (count : Nat) : Bool :=
  match bound with
  | some b => count < b
  | none => true

/-- what is known behind a vector of so many values: that it is a vector, which is all that counts -/
def knownAfterVector (bound : Option Nat) (known : Known) (info : Info) (count : Nat) (default : Number) :
    Except Obstacle Known :=
  if admitted bound count then .ok ((info.name, .list [default.datum]) :: known) else .error (.lengthTooLarge count)

/-- what is known behind a component that is no switch; the default of a vector is written once, whatever its length -/
def knownAfter (bound : Option Nat) (known : Known) : Component → Except Obstacle Known
  | .scalar info default => default.datum.written.map (fun _ => (renderLeaf known (.scalar info default)).known)
  | .vector info (.takenFrom source) default =>
    default.datum.written.bind (fun _ =>
      if source.hashable then knownAfterVector bound known info (knownCount known source) default
      else .error (.sourceUnfit source))
  | .vector info (.fixed count) default =>
    default.datum.written.bind (fun _ => knownAfterVector bound known info count default)
  | .unsupported _ kind => .error (.unsupported kind)
  | c => .ok (renderLeaf known c).known

mutual

/-- what is known on every branch behind a component -/
def passed (bound : Option Nat) (all : Bool) : Component → Known → Except Obstacle (List Known)
  | .switch s key choices, known =>
    if all then (defaultFirst key (passedChoices bound s choices known)).flatMapM Prod.snd
    else passedDefault bound s key choices known
  | c, known => (knownAfter bound known c).map ([·])

/-- what is known on every branch behind a sequence, `branches` being what is known on those before it -/
def passedAll (bound : Option Nat) (all : Bool) : List Component → List Known → Except Obstacle (List Known)
  | [], branches => .ok branches
  | x :: xs, branches => do
    let extended ← branches.flatMapM (fun known => passed bound all x known)
    passedAll bound all xs extended

/-- what is known behind every choice -/
def passedChoices (bound : Option Nat) (s : Selection) :
    List (Choice Component) → Known → List (Literal × Except Obstacle (List Known))
  | [], _ => []
  | ⟨literal, components⟩ :: rest, known =>
    (literal, passedAll bound true components [(s.info.name, literal.value.datum) :: known]) ::
      passedChoices bound s rest known

/-- what is known behind the choice with the given key -/
def passedDefault (bound : Option Nat) (s : Selection) (key : Datum) :
    List (Choice Component) → Known → Except Obstacle (List Known)
  | [], known => .ok [known]
  | ⟨literal, components⟩ :: rest, known =>
    if literal.value.datum.same key then
      passedAll bound false components [(s.info.name, literal.value.datum) :: known]
    else passedDefault bound s key rest known

end

/-- one line for every branch, the line of all default choices first -/
def defaultLines (components : List Component) (bound : Option Nat := none) :
    Except Obstacle (List (List Char)) := do
  let _ ← passedAll bound true components [[]]
  pure ((renderAll components []).map (fun r => joinTokens r.tokens))

/-- the line of all default choices -/
def defaultLine (components : List Component) (bound : Option Nat := none) : Except Obstacle (List Char) := do
  let _ ← passedAll bound false components [[]]
  pure (joinTokens (renderDefaultAll components []).tokens)

end LineGrammar
