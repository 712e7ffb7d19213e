import RetryTrial.Gate.Run

/-!
# What one action does to the gate

A decision without a classification changes nothing. With one it is counted, and the group that the
attempt is drawn into says the rest: the treatment group aborts it unless its decline is retryable
and leaves the pending attempts alone, the control group lets it through and makes it pending.
Scoring takes a pending attempt out and records its outcome; it ignores any other attempt.
-/

namespace RetryTrial

theorem Pending.entries_register (p : Pending) (attempt : Uuid) (d : Decline) :
    (p.register attempt d).entries =
      if p.contains attempt then [.pendingReplaced attempt] else [] := by
  unfold Pending.register
  split <;> rfl

namespace Gate

variable {draws : Draws} {g : Gate} {attempt : Uuid} {d : Decline} {share : Nat}

theorem nextGroup_eq_treatment :
    g.nextGroup draws share = .treatment ↔ draws g.drawn < min share 100 :=
  Group.ofDraw_eq_treatment

theorem nextGroup_eq_control :
    g.nextGroup draws share = .control ↔ min share 100 ≤ draws g.drawn :=
  Group.ofDraw_eq_control

theorem value_decide_of_treatment (h : g.nextGroup draws share = .treatment) :
    (g.decide draws attempt (some d) share).value = (⟨!d.retryable⟩,
      { g with
        attempted := g.attempted + 1
        aborted := g.aborted + (!d.retryable).toNat
        drawn := g.drawn + 1 }) := by
  cases hd : d.retryable <;> simp [Gate.decide, h, hd, Decision.allow]

theorem entries_decide_of_treatment (h : g.nextGroup draws share = .treatment) :
    (g.decide draws attempt (some d) share).entries =
      [if d.retryable then .retryAllowed attempt .treatment (g.attempted + 1) d
        else .retryPrevented attempt (g.aborted + 1) (g.attempted + 1) d] := by
  cases hd : d.retryable <;> simp [Gate.decide, h, hd]

theorem value_decide_of_control (h : g.nextGroup draws share = .control) :
    (g.decide draws attempt (some d) share).value = (.allow,
      { g with
        attempted := g.attempted + 1
        pending := g.pending.insert attempt d
        drawn := g.drawn + 1 }) := by
  simp [Gate.decide, h]

theorem entries_decide_of_control (h : g.nextGroup draws share = .control) :
    (g.decide draws attempt (some d) share).entries =
      .retryAllowed attempt .control (g.attempted + 1) d ::
        if g.pending.contains attempt then [.pendingReplaced attempt] else [] := by
  simp [Gate.decide, h, Pending.entries_register]

theorem abort_decide_iff (draws : Draws) (g : Gate) (attempt : Uuid) (d : Decline) (share : Nat) :
    (g.decide draws attempt (some d) share).value.1.abort = true ↔
      d.retryable = false ∧ draws g.drawn < min share 100 := by
  by_cases h : draws g.drawn < min share 100
  · rw [value_decide_of_treatment (nextGroup_eq_treatment.mpr h)]
    simp [h]
  · rw [value_decide_of_control (nextGroup_eq_control.mpr (Nat.le_of_not_lt h))]
    simp [h, Decision.allow]

theorem value_score_of_get? (h : g.pending.get? attempt = some d) (outcome : Outcome) :
    (g.score attempt outcome).value = (some ((g.outcomes.tally (bucket d)).add outcome),
      { g with
        pending := g.pending.erase attempt
        outcomes := g.outcomes.record (bucket d) outcome }) := by
  simp [score, Pending.take, h, Outcomes.increment_eq_record]

theorem entries_score_of_get? (h : g.pending.get? attempt = some d) (outcome : Outcome) :
    (g.score attempt outcome).entries =
      [.outcomeScored outcome attempt ((g.outcomes.tally (bucket d)).add outcome) d] := by
  simp [score, Pending.take, h, Outcomes.increment_eq_record]

theorem value_act_decide (draws : Draws) (g : Gate) (attempt : Uuid) (decline : Option Decline)
    (share : Nat) : (g.act draws (.decide attempt decline share)).value =
      (.decision (g.decide draws attempt decline share).value.1,
        (g.decide draws attempt decline share).value.2) := rfl

theorem value_act_score (draws : Draws) (g : Gate) (attempt : Uuid) (outcome : Outcome) :
    (g.act draws (.score attempt outcome)).value =
      (.tally (g.score attempt outcome).value.1, (g.score attempt outcome).value.2) := rfl

theorem entries_act_decide (draws : Draws) (g : Gate) (attempt : Uuid) (decline : Option Decline)
    (share : Nat) : (g.act draws (.decide attempt decline share)).entries =
      (g.decide draws attempt decline share).entries := by
  simp [act]

theorem entries_act_score (draws : Draws) (g : Gate) (attempt : Uuid) (outcome : Outcome) :
    (g.act draws (.score attempt outcome)).entries = (g.score attempt outcome).entries := by
  simp [act]

end Gate

end RetryTrial
