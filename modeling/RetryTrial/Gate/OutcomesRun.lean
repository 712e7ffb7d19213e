import RetryTrial.Gate.Outcomes

/-!
# Runs of the scored outcomes

A run is a sequence of recordings and of questions about what was recorded, each starting from the
outcomes that the one before left.
-/

namespace RetryTrial

inductive OutcomesAction
  | record (bucket : Bucket) (outcome : Outcome)
  | tally (bucket : Bucket)
  | total (bucket : Bucket)
  | snapshot
deriving DecidableEq

inductive OutcomesReply
  | count (count : Nat)
  | tally (tally : Tally)
  | snapshot (listing : List (String × List (Int32 × Tally)))
deriving DecidableEq

namespace Outcomes

def act (o : Outcomes) : OutcomesAction → OutcomesReply × Outcomes
  | .record b outcome =>
    let (count, o) := o.increment b outcome
    (.count count, o)
  | .tally b => (.tally (o.tally b), o)
  | .total b => (.count (o.tally b).total, o)
  | .snapshot => (.snapshot o.snapshot, o)

/-- The replies to the actions, each with the outcomes after it. -/
def run (o : Outcomes) : List OutcomesAction → List (OutcomesReply × Outcomes)
  | [] => []
  | action :: rest =>
    let step := o.act action
    step :: run step.2 rest

def after (o : Outcomes) (actions : List OutcomesAction) : Outcomes :=
  actions.foldl (fun o action => (o.act action).2) o

end Outcomes

end RetryTrial
