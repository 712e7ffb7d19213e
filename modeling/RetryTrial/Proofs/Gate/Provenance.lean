import Mathlib.Tactic.SplitIfs
import RetryTrial.Proofs.Gate.Step

/-!
# What the gate's records stem from

The gate makes up no declines. What is pending was handed to it, and an outcome is counted under the
processor and the code of a decline that was pending before. So what is true of every decline that
is handed over stays true of all that the gate has a record of, and no bucket is listed without an
outcome.
-/

namespace RetryTrial

namespace Gate

/-- The declines that the gate has a record of have this property: every pending one, and for every
listed bucket, which counts an outcome, a decline that belongs there. -/
structure Stems (P : Decline → Prop) (g : Gate) : Prop where
  pending : ∀ attempt d, g.pending.get? attempt = some d → P d
  scored : ∀ b t, g.outcomes.get? b = some t → 0 < t.total ∧ ∃ d, P d ∧ bucket d = b

namespace Stems

variable {P : Decline → Prop} {g : Gate} {d : Decline}

theorem fresh (P : Decline → Prop) : Stems P .fresh where
  pending attempt d h := by
    have hnone : Gate.fresh.pending.get? attempt = none := Pending.get?_empty attempt
    rw [hnone] at h
    cases h
  scored b t h := by
    have hnone : Gate.fresh.outcomes.get? b = none := Outcomes.get?_empty b
    rw [hnone] at h
    cases h

theorem decide (h : g.Stems P) (hd : P d) (draws : Draws) (attempt : Uuid) (share : Nat) :
    (g.decide draws attempt (some d) share).value.2.Stems P := by
  cases hg : g.nextGroup draws share with
  | treatment =>
      rw [value_decide_of_treatment hg]
      exact ⟨h.pending, h.scored⟩
  | control =>
      rw [value_decide_of_control hg]
      refine ⟨?_, h.scored⟩
      intro other e he
      rw [Pending.get?_insert] at he
      split_ifs at he
      · obtain rfl := Option.some.inj he
        exact hd
      · exact h.pending other e he

theorem score (h : g.Stems P) (attempt : Uuid) (outcome : Outcome) :
    (g.score attempt outcome).value.2.Stems P := by
  cases hp : g.pending.get? attempt with
  | none =>
      rw [score_of_get?_eq_none hp]
      exact h
  | some d =>
      rw [value_score_of_get? hp]
      constructor
      · intro other e he
        rw [Pending.get?_erase] at he
        split_ifs at he
        exact h.pending other e he
      · intro b t ht
        rw [Outcomes.get?_record] at ht
        split_ifs at ht with hb
        · obtain rfl := Option.some.inj ht
          refine ⟨?_, d, h.pending attempt d hp, hb⟩
          rw [Tally.total_add]
          omega
        · exact h.scored b t ht

end Stems

end Gate

end RetryTrial
