/-
Lines that say what a grammar assumes anyway.

A default line writes the default of every component as input text. There is one for every branch; a switch writes its
default choice first. The length of a vector that is taken from a field is the default written for that field before,
or one where no such default is known.
-/
import LineGrammar.Reading.Basic

namespace LineGrammar

/-- The values known on a branch, the latest first. -/
abbrev Known := List (String × Datum)

/-- The tokens written so far on a branch, and the values known from them. -/
structure Rendering where
  tokens : List (List Char)
  known : Known

/-- the token for a truth value -/
def flagChars (b : Bool) : List Char :=
  if b then "Yes".toList else "No".toList

def Scalar.chars : Scalar → List Char
  | .text token => token.chars
  | .number n => n.chars
  | .flag b => flagChars b

/-- what the count known under a source of a length says, one where there is none -/
def knownCount (known : Known) : Datum → Nat
  | .text source =>
    match known.lookup source with
    | some (.int n) => if n < 0 then 1 else n.toNat
    | _ => 1
  | _ => 1

/-- how many values of a vector are written -/
def defaultCount (length : Length) (known : Known) : Nat :=
  match length with
  | .fixed count => count
  | .takenFrom source => knownCount known source

/-- the default tokens of a component that is no switch -/
def renderLeaf (known : Known) : Component → Rendering
  | .separator label _ _ => ⟨[label.chars], known⟩
  | .scalar info default => ⟨[default.chars], (info.name, default.datum) :: known⟩
  | .vector info length default =>
    let count := defaultCount length known
    ⟨List.replicate count default.chars, (info.name, .list (List.replicate count default.datum)) :: known⟩
  | .selection s => ⟨[s.default.token.chars], (s.info.name, s.default.value.datum) :: known⟩
  | .processed _ _ => ⟨["none".toList], known⟩
  | .switch .. | .unsupported .. => ⟨[], known⟩

/-- the choices with the default one in front, the others in order -/
def defaultFirst {α : Type} (key : Datum) (groups : List (Literal × α)) : List (Literal × α) :=
  let isDefault := fun (g : Literal × α) => g.1.value.datum.same key
  groups.filter isDefault ++ groups.filter (fun g => !isDefault g)

mutual

/-- the default tokens of a component, one rendering for every branch it opens -/
def render : Component → Known → List Rendering
  | .switch s key choices, known => (defaultFirst key (renderChoices s choices known)).flatMap Prod.snd
  | c, known => [renderLeaf known c]

/-- the default tokens of a sequence, one rendering for every branch -/
def renderAll : List Component → Known → List Rendering
  | [], known => [⟨[], known⟩]
  | x :: xs, known =>
    (render x known).flatMap (fun r => (renderAll xs r.known).map (fun t => ⟨r.tokens ++ t.tokens, t.known⟩))

/-- the renderings of every choice, each beginning with its literal -/
def renderChoices (s : Selection) :
    List (Choice Component) → Known → List (Literal × List Rendering)
  | [], _ => []
  | ⟨literal, components⟩ :: rest, known =>
    let below := renderAll components ((s.info.name, literal.value.datum) :: known)
    (literal, below.map (fun r => ⟨literal.token.chars :: r.tokens, r.known⟩)) :: renderChoices s rest known

end

mutual

/-- the default tokens of a component, with the default choice of every switch -/
def renderDefault : Component → Known → Rendering
  | .switch s key choices, known => renderDefaultChoice s key choices known
  | c, known => renderLeaf known c

def renderDefaultAll : List Component → Known → Rendering
  | [], known => ⟨[], known⟩
  | x :: xs, known =>
    let r := renderDefault x known
    let t := renderDefaultAll xs r.known
    ⟨r.tokens ++ t.tokens, t.known⟩

/-- the rendering of the choice with the given key -/
def renderDefaultChoice (s : Selection) (key : Datum) : List (Choice Component) → Known → Rendering
  | [], known => ⟨[], known⟩
  | ⟨literal, components⟩ :: rest, known =>
    if literal.value.datum.same key then
      let r := renderDefaultAll components ((s.info.name, literal.value.datum) :: known)
      ⟨literal.token.chars :: r.tokens, r.known⟩
    else renderDefaultChoice s key rest known

end

/-- tokens with a blank between them -/
def joinTokens (tokens : List (List Char)) : List Char :=
  [' '].intercalate tokens

end LineGrammar
