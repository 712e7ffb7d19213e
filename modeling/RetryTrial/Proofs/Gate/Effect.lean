import RetryTrial.Proofs.Gate.Step

/-!
# What an action does, as data

All that an action looks at in a gate is the next draw and the entry that its own attempt has among
the pending ones. Its `Effect` says how far it raises the counters, which entry it leaves for its
attempt, what it records and what it answers, but for the running counts in the answer.
-/

namespace RetryTrial

def GateAction.attempt : GateAction → Uuid
  | decide attempt _ _ => attempt
  | score attempt _ => attempt

/-- What a reply says without running counts: the decision, or whether the outcome was scored. -/
def GateReply.said : GateReply → Decision ⊕ Bool
  | decision d => .inl d
  | tally t => .inr t.isSome

namespace Pending

def set (p : Pending) (attempt : Uuid) : Option Decline → Pending
  | some d => p.insert attempt d
  | none => p.erase attempt

theorem get?_set (p : Pending) (a b : Uuid) (entry : Option Decline) :
    (p.set a entry).get? b = if a = b then entry else p.get? b := by
  cases entry with
  | none => exact p.get?_erase a b
  | some d => exact p.get?_insert a b d

theorem set_get? (p : Pending) (a : Uuid) : p.set a (p.get? a) = p := by
  apply ext_get?
  intro b
  rw [get?_set]
  by_cases h : a = b
  · rw [if_pos h, h]
  · rw [if_neg h]

end Pending

namespace Outcomes

def recordAny (o : Outcomes) : Option (Bucket × Outcome) → Outcomes
  | some (b, outcome) => o.record b outcome
  | none => o

end Outcomes

/-- What an action does: by how much it raises the counters, which entry it leaves for its attempt,
what it records and what it says. -/
structure Effect where
  attempted : Nat
  aborted : Nat
  entry : Option Decline
  recorded : Option (Bucket × Outcome)
  said : Decision ⊕ Bool

/-- What an action does at a draw if its attempt has this entry. -/
def GateAction.effect (draw : Nat) (entry : Option Decline) : GateAction → Effect
  | decide _ none _ => ⟨0, 0, entry, none, .inl .allow⟩
  | decide _ (some d) share =>
    match Group.ofDraw draw share with
    | .treatment => ⟨1, (!d.retryable).toNat, entry, none, .inl ⟨!d.retryable⟩⟩
    | .control => ⟨1, 0, some d, none, .inl .allow⟩
  | score _ outcome =>
    ⟨0, 0, none, entry.map fun d => (Gate.bucket d, outcome), .inr entry.isSome⟩

namespace Gate

def apply (g : Gate) (attempt : Uuid) (e : Effect) : Gate where
  attempted := g.attempted + e.attempted
  aborted := g.aborted + e.aborted
  pending := g.pending.set attempt e.entry
  outcomes := g.outcomes.recordAny e.recorded
  drawn := g.drawn + e.attempted

def effect (draws : Draws) (g : Gate) (action : GateAction) : Effect :=
  action.effect (draws g.drawn) (g.pending.get? action.attempt)

/-- An action looks at nothing but the draw and the entry of its attempt. -/
theorem act_eq_apply (draws : Draws) (g : Gate) (action : GateAction) :
    (g.act draws action).value.1.said = (g.effect draws action).said ∧
      (g.act draws action).value.2 = g.apply action.attempt (g.effect draws action) := by
  rcases action with ⟨attempt, _ | d, share⟩ | ⟨attempt, outcome⟩
  · refine ⟨rfl, ?_⟩
    simp only [apply, effect, GateAction.effect, GateAction.attempt, Pending.set_get?]
    rfl
  · rw [value_act_decide]
    cases hg : g.nextGroup draws share with
    | treatment =>
        have hdraw : Group.ofDraw (draws g.drawn) share = .treatment := hg
        rw [value_decide_of_treatment hg]
        simp only [apply, effect, GateAction.effect, GateAction.attempt, hdraw, Pending.set_get?]
        exact ⟨rfl, rfl⟩
    | control =>
        have hdraw : Group.ofDraw (draws g.drawn) share = .control := hg
        rw [value_decide_of_control hg]
        simp only [apply, effect, GateAction.effect, GateAction.attempt, hdraw]
        exact ⟨rfl, rfl⟩
  · rw [value_act_score]
    cases hp : g.pending.get? attempt with
    | none =>
        have hset := g.pending.set_get? attempt
        rw [hp] at hset
        rw [score_of_get?_eq_none hp]
        simp only [apply, effect, GateAction.effect, GateAction.attempt, hp, hset]
        exact ⟨rfl, rfl⟩
    | some d =>
        rw [value_score_of_get? hp]
        simp only [apply, effect, GateAction.effect, GateAction.attempt, hp]
        exact ⟨rfl, rfl⟩

end Gate

end RetryTrial
