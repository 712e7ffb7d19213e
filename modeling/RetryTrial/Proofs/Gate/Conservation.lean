import RetryTrial.Proofs.Gate.History
import RetryTrial.Proofs.Gate.Totals
import RetryTrial.Proofs.Warnings

/-!
# Conservation of attempts

Every classified attempt is counted once, every abort once, and every attempt that was enrolled into
the control group is still pending, was scored, or was replaced with a warning when it was enrolled
again. `Balanced` says so of one point of a run; every step keeps it.
-/

namespace RetryTrial.Gate

variable {draws : Draws} {actions : List GateAction}

def abortsBefore (draws : Draws) (actions : List GateAction) (n : ℕ) : ℕ :=
  Nat.count (fun i => reply? draws actions i = some (.decision ⟨true⟩)) n

def enrolledBefore (draws : Draws) (actions : List GateAction) (n : ℕ) : ℕ :=
  Nat.count (fun i => (enrolled? draws actions i).isSome) n

/-- How many pending entries were replaced by the first `n` actions. -/
def replacedBefore (draws : Draws) (actions : List GateAction) (n : ℕ) : ℕ :=
  (logged draws actions n).countP (LogEntry.warns "replaced pending control-group entry")

structure Balanced (draws : Draws) (actions : List GateAction) (n : ℕ) : Prop where
  attempted : (stage draws actions n).attempted = classifiedBefore actions n
  aborted : (stage draws actions n).aborted = abortsBefore draws actions n
  enrolled : enrolledBefore draws actions n = (stage draws actions n).pending.size +
    (stage draws actions n).outcomes.total + replacedBefore draws actions n
  /-- An attempt is enrolled or aborted, never both. -/
  split : enrolledBefore draws actions n + abortsBefore draws actions n ≤ classifiedBefore actions n

variable {n : ℕ} {action : GateAction}

theorem replacedBefore_succ (h : actions[n]? = some action) :
    replacedBefore draws actions (n + 1) = replacedBefore draws actions n +
      ((stage draws actions n).act draws action).entries.countP LogEntry.isReplacement := by
  have hw : LogEntry.warns "replaced pending control-group entry" = LogEntry.isReplacement :=
    funext LogEntry.warns_replaced
  rw [replacedBefore, replacedBefore, logged_succ h, List.countP_append, hw]

theorem abortsBefore_succ (n : ℕ) :
    abortsBefore draws actions (n + 1) = abortsBefore draws actions n +
      if reply? draws actions n = some (.decision ⟨true⟩) then 1 else 0 :=
  Nat.count_succ _ n

theorem enrolledBefore_succ (n : ℕ) :
    enrolledBefore draws actions (n + 1) = enrolledBefore draws actions n +
      if (enrolled? draws actions n).isSome then 1 else 0 :=
  Nat.count_succ _ n

theorem Balanced.succ_of_same (ih : Balanced draws actions n)
    (hs : stage draws actions (n + 1) = stage draws actions n)
    (hc : classifiedBefore actions (n + 1) = classifiedBefore actions n)
    (ha : reply? draws actions n ≠ some (.decision ⟨true⟩))
    (he : enrolled? draws actions n = none)
    (hr : replacedBefore draws actions (n + 1) = replacedBefore draws actions n) :
    Balanced draws actions (n + 1) := by
  have ha' : abortsBefore draws actions (n + 1) = abortsBefore draws actions n := by
    rw [abortsBefore_succ, if_neg ha, Nat.add_zero]
  have he' : enrolledBefore draws actions (n + 1) = enrolledBefore draws actions n := by
    rw [enrolledBefore_succ, he, if_neg (by simp), Nat.add_zero]
  constructor
  · rw [hs, hc, ih.attempted]
  · rw [hs, ha', ih.aborted]
  · rw [hs, he', hr, ih.enrolled]
  · rw [he', ha', hc]
    exact ih.split

theorem balanced_stage (draws : Draws) (actions : List GateAction) (n : ℕ) :
    Balanced draws actions n := by
  induction n using stage_induction draws actions with
  | zero => exact ⟨rfl, rfl, rfl, Nat.le_refl 0⟩
  | idle n h ih =>
      refine ih.succ_of_same (stage_succ_of_none h) (classifiedBefore_succ_of_none h) ?_
        (enrolled?_of_idle h) ?_
      · rw [reply?_eq_none h]
        simp
      · rw [replacedBefore, replacedBefore, logged_succ_of_none h]
  | unclassified n attempt share h ih =>
      refine ih.succ_of_same (stage_succ_of_unclassified h) (classifiedBefore_succ h) ?_
        (enrolled?_of_unclassified h) (replacedBefore_succ h)
      rw [reply?_of_unclassified h]
      simp [Decision.allow]
  | treatment n attempt d share h hg ih =>
      have hs := stage_succ_of_treatment h hg
      have hc : classifiedBefore actions (n + 1) = classifiedBefore actions n + 1 :=
        classifiedBefore_succ h
      have ha : abortsBefore draws actions (n + 1) =
          abortsBefore draws actions n + (!d.retryable).toNat := by
        rw [abortsBefore_succ, reply?_of_treatment h hg]
        cases d.retryable <;> rfl
      have he : enrolledBefore draws actions (n + 1) = enrolledBefore draws actions n := by
        rw [enrolledBefore_succ, enrolled?_of_treatment h hg]
        rfl
      have hr : replacedBefore draws actions (n + 1) = replacedBefore draws actions n := by
        rw [replacedBefore_succ h, entries_act_decide, entries_decide_of_treatment hg]
        cases d.retryable <;> rfl
      have hle := Bool.toNat_le (!d.retryable)
      constructor
      · rw [hs, hc, ← ih.attempted]
      · rw [hs, ha, ← ih.aborted]
      · rw [hs, he, hr, ih.enrolled]
      · rw [he, ha, hc]
        have := ih.split
        omega
  | control n attempt d share h hg ih =>
      have hs := stage_succ_of_control h hg
      have hc : classifiedBefore actions (n + 1) = classifiedBefore actions n + 1 :=
        classifiedBefore_succ h
      have ha : abortsBefore draws actions (n + 1) = abortsBefore draws actions n := by
        rw [abortsBefore_succ, reply?_of_control h hg]
        rfl
      have he : enrolledBefore draws actions (n + 1) = enrolledBefore draws actions n + 1 := by
        rw [enrolledBefore_succ, enrolled?_of_control h hg]
        rfl
      constructor
      · rw [hs, hc, ← ih.attempted]
      · rw [hs, ha, ← ih.aborted]
      · rw [hs, he, ih.enrolled, replacedBefore_succ h, entries_act_decide,
          entries_decide_of_control hg, Pending.size_insert]
        cases (stage draws actions n).pending.contains attempt <;>
          simp [LogEntry.isReplacement] <;> omega
      · rw [he, ha, hc]
        have := ih.split
        omega
  | ignored n attempt outcome h hp ih =>
      refine ih.succ_of_same (stage_succ_of_ignored h hp) (classifiedBefore_succ h) ?_
        (enrolled?_of_score h) ?_
      · rw [reply?_of_ignored h hp]
        simp
      · rw [replacedBefore_succ h, entries_act_score, score_of_get?_eq_none hp]
        rfl
  | scored n attempt d outcome h hp ih =>
      have hs := stage_succ_of_scored h hp
      have hc : classifiedBefore actions (n + 1) = classifiedBefore actions n :=
        classifiedBefore_succ h
      have ha : abortsBefore draws actions (n + 1) = abortsBefore draws actions n := by
        rw [abortsBefore_succ, reply?_of_scored h hp]
        rfl
      have he : enrolledBefore draws actions (n + 1) = enrolledBefore draws actions n := by
        rw [enrolledBefore_succ, enrolled?_of_score h]
        rfl
      have hr : replacedBefore draws actions (n + 1) = replacedBefore draws actions n := by
        rw [replacedBefore_succ h, entries_act_score, entries_score_of_get? hp]
        rfl
      have hin : (stage draws actions n).pending.contains attempt = true := by
        rw [Pending.contains_eq_isSome, hp]
        rfl
      constructor
      · rw [hs, hc, ← ih.attempted]
      · rw [hs, ha, ← ih.aborted]
      · have hpos := Pending.size_pos_of_contains hin
        rw [hs, he, hr, ih.enrolled, Pending.size_erase, if_pos hin, Outcomes.total_record]
        omega
      · rw [he, ha, hc]
        exact ih.split

theorem classifiedBefore_le (actions : List GateAction) (n : ℕ) : classifiedBefore actions n ≤ n :=
  List.countP_le_length.trans (List.length_take_le n actions)

/-- The counters, the pending attempts, the tallies and the warnings of a gate account for every
attempt at every point of a run. No count exceeds the number of steps. -/
theorem attempts_conserved (draws : Draws) (actions : List GateAction) (n : ℕ) :
    let g := stage draws actions n
    g.attempted = classifiedBefore actions n ∧
      g.aborted = abortsBefore draws actions n ∧
      enrolledBefore draws actions n =
        g.pending.size + g.outcomes.total + replacedBefore draws actions n ∧
      g.pending.size + g.outcomes.total ≤ g.attempted - g.aborted ∧
      g.aborted ≤ g.attempted ∧ g.attempted ≤ n := by
  dsimp only
  obtain ⟨hattempted, haborted, henrolled, hsplit⟩ := balanced_stage draws actions n
  have hle := classifiedBefore_le actions n
  refine ⟨hattempted, haborted, henrolled, ?_, ?_, ?_⟩ <;> omega

end RetryTrial.Gate
