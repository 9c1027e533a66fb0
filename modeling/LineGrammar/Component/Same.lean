/-
Equality of components, as loose as the equality of data: it compares everything but the discriminator of a switch,
which follows from the rest. Components that hand a token on are never equal, for what they do cannot be compared.
-/
import LineGrammar.Component.Basic

namespace LineGrammar

namespace Info

def same (a b : Info) : Bool :=
  a.name == b.name && a.optional == b.optional && a.description.same b.description

end Info

namespace Length

def same : Length → Length → Bool
  | .fixed m, .fixed n => m == n
  | .takenFrom s, .takenFrom t => s.same t
  | _, _ => false

end Length

namespace Number

def same : Number → Number → Bool
  | .int m, .int n => m == n
  | .real x, .real y => x.same y
  | _, _ => false

end Number

namespace Scalar

def same : Scalar → Scalar → Bool
  | .text s, .text t => s == t
  | .number m, .number n => m.same n
  | .flag a, .flag b => a == b
  | _, _ => false

end Scalar

namespace Selection

def same (s t : Selection) : Bool :=
  s.info.same t.info && s.literals == t.literals && s.default.token == t.default.token

end Selection

namespace Component

mutual

def same : Component → Component → Bool
  | .separator label optional description, .separator label' optional' description' =>
    label == label' && optional == optional' && description.same description'
  | .scalar info default, .scalar info' default' => info.same info' && default.same default'
  | .vector info length default, .vector info' length' default' =>
    info.same info' && length.same length' && default.same default'
  | .selection s, .selection t => s.same t
  | .switch s key choices, .switch t key' choices' =>
    s.info.same t.info && key.same key' && sameChoices choices choices'
  | _, _ => false

def sameAll : List Component → List Component → Bool
  | [], [] => true
  | x :: xs, y :: ys => same x y && sameAll xs ys
  | _, _ => false

def sameChoices : List (Choice Component) → List (Choice Component) → Bool
  | [], [] => true
  | ⟨literal, components⟩ :: rest, choice' :: rest' =>
    literal == choice'.literal && sameAll components choice'.components && sameChoices rest rest'
  | _, _ => false

end

end Component

end LineGrammar
