import RefNav.Exchange

/-! # Chains of strategies

Strategies are asked one after another until one has an answer.  If none has,
the last strategy's own answer stands, so that "nothing" and "an empty list"
stay apart.
-/

namespace RefNav

/-- What a strategy says about a place. -/
inductive Answer where
  | nothing
  | one (location : Location)
  | many (locations : List Location)
deriving Repr, DecidableEq

namespace Answer

/-- Does the answer name a location? -/
def isHit : Answer → Bool
  | .nothing => false
  | .one _ => true
  | .many locations => !locations.isEmpty

/-- The locations of an answer. -/
def locations : Answer → List Location
  | .nothing => []
  | .one l => [l]
  | .many ls => ls

/-- The answer of an optional location. -/
def ofOption : Option Location → Answer
  | some l => .one l
  | none => .nothing

end Answer

/-- A way to find a definition. -/
structure Strategy where
  name : String
  ask : Act Answer

namespace Chain

/-- Ask the strategies in order.  `last` is the answer of the one asked before;
`onMiss` is told of every strategy that has no answer. -/
def runFrom (onMiss : Strategy → Act Unit) : Answer → List Strategy → Act Answer
  | last, [] => return last
  | _, s :: rest => do
      let answer ← s.ask
      if answer.isHit then return answer
      onMiss s
      runFrom onMiss answer rest

/-- Ask the strategies in order until one has an answer. -/
def run (onMiss : Strategy → Act Unit) (strategies : List Strategy) : Act Answer :=
  runFrom onMiss .nothing strategies

end Chain

end RefNav
