import RetryTrial.Gate.Outcomes
import RetryTrial.Gate.Pending

/-!
# The gate

The gate decides whether a retry goes through. A classified attempt is drawn into a group: in the
treatment group it is aborted exactly if its decline is not retryable; in the control group it goes
through and is pending until its outcome is scored under the decline's processor and code. An
attempt without a classification passes and leaves no trace.
-/

namespace RetryTrial

structure Decision where
  abort : Bool
deriving DecidableEq

namespace Decision

def allow : Decision := ⟨false⟩

end Decision

structure Gate where
  attempted : Nat
  aborted : Nat
  pending : Pending
  outcomes : Outcomes
  /-- How many draws have been made. -/
  drawn : Nat
deriving DecidableEq

namespace Gate

def fresh : Gate := ⟨0, 0, .empty, .empty, 0⟩

def bucket (d : Decline) : Bucket := ⟨d.processor, d.code⟩

def nextGroup (draws : Draws) (g : Gate) (share : Nat) : Group := .ofDraw (draws g.drawn) share

protected def decide (draws : Draws) (g : Gate) (attempt : Uuid) (decline : Option Decline)
    (share : Nat) : Traced (Decision × Gate) :=
  match decline with
  | none => pure (.allow, g)
  | some d =>
    let counted := { g with attempted := g.attempted + 1, drawn := g.drawn + 1 }
    match g.nextGroup draws share with
    | .treatment =>
      if d.retryable then do
        Traced.log (.retryAllowed attempt .treatment counted.attempted d)
        return (.allow, counted)
      else do
        let counted := { counted with aborted := g.aborted + 1 }
        Traced.log (.retryPrevented attempt counted.aborted counted.attempted d)
        return (⟨true⟩, counted)
    | .control => do
      Traced.log (.retryAllowed attempt .control counted.attempted d)
      let pending ← counted.pending.register attempt d
      return (.allow, { counted with pending })

/-- Scores the outcome of a pending attempt; of any other attempt the outcome is ignored. The tally
has the count that recording the outcome yields, and the other count as it is then found. -/
def score (g : Gate) (attempt : Uuid) (outcome : Outcome) : Traced (Option Tally × Gate) :=
  match g.pending.take attempt with
  | (none, _) => pure (none, g)
  | (some d, pending) => do
    let (count, outcomes) := g.outcomes.increment (bucket d) outcome
    let tally := (outcomes.tally (bucket d)).withCount outcome count
    Traced.log (.outcomeScored outcome attempt tally d)
    return (some tally, { g with pending, outcomes })

theorem score_of_get?_eq_none {g : Gate} {attempt : Uuid} (h : g.pending.get? attempt = none)
    (outcome : Outcome) : g.score attempt outcome = pure (none, g) := by
  simp [score, Pending.take, h]

end Gate

end RetryTrial
