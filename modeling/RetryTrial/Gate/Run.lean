import RetryTrial.Gate.Basic

/-!
# Runs of the gate

A run is a sequence of decisions and outcomes, each starting from the gate that the one before left.
-/

namespace RetryTrial

inductive GateAction
  | decide (attempt : Uuid) (decline : Option Decline) (share : Nat)
  | score (attempt : Uuid) (outcome : Outcome)
deriving DecidableEq

inductive GateReply
  | decision (decision : Decision)
  | tally (tally : Option Tally)
deriving DecidableEq

namespace Gate

def act (draws : Draws) (g : Gate) : GateAction → Traced (GateReply × Gate)
  | .decide attempt decline share => do
    let (decision, g) ← g.decide draws attempt decline share
    return (.decision decision, g)
  | .score attempt outcome => do
    let (tally, g) ← g.score attempt outcome
    return (.tally tally, g)

/-- The replies to the actions, each with what led to it and the gate after it. -/
def run (draws : Draws) (g : Gate) : List GateAction → List (Traced (GateReply × Gate))
  | [] => []
  | action :: rest =>
    let step := g.act draws action
    step :: run draws step.value.2 rest

def after (draws : Draws) (g : Gate) (actions : List GateAction) : Gate :=
  actions.foldl (fun g action => (g.act draws action).value.2) g

end Gate

end RetryTrial
