import RetryTrial.Proofs.Binary64.Percent
import RetryTrial.Proofs.Gate.Conservation

/-!
# Percentages in the log

Two kinds of events show a share in percent: a prevented retry that of the aborted attempts, and a
scored outcome that of its kind within its bucket. In both the first count is among the second, and
no count exceeds the number of steps. So the percentage is the exact floor, but for the three shares
that double precision shows one short.
-/

namespace RetryTrial

namespace LogEntry

variable {e : LogEntry} {part total : ℕ}

/-- The two counts whose share an event shows in percent. -/
def shownCounts? : LogEntry → Option (ℕ × ℕ)
  | retryPrevented _ aborted attempted _ => some (aborted, attempted)
  | outcomeScored outcome _ tally _ => some (tally.count outcome, tally.total)
  | _ => none

/-- The text of an event that shows this percentage for the share of its counts. -/
def textShowing (percent : ℕ) : LogEntry → String
  | retryPrevented attempt aborted attempted decline =>
    s!"prevented retry attemptPaymentId='{attempt}' totalAborted='{aborted}' " ++
      s!"nbOfAttemptedRetries='{attempted}' totalAbortedPct='{percent}' " ++ verdictText decline
  | outcomeScored outcome attempt tally decline =>
    let bucket := tally.count outcome
    s!"{outcome.adjective} retry attemptPaymentId='{attempt}' nbOfRetries='{tally.total}' " ++
      s!"inBucket='{bucket}' bucketPct='{percent}' processor='{decline.processor}' " ++
      verdictText decline
  | e => e.text

theorem text_eq_textShowing (h : e.shownCounts? = some (part, total)) :
    e.text = e.textShowing (floorPercent part total) := by
  cases e <;> cases h <;> rfl

end LogEntry

theorem Tally.count_le_total (t : Tally) (o : Outcome) : t.count o ≤ t.total := by
  cases o with
  | success => exact Nat.le_add_right _ _
  | failure => exact Nat.le_add_left _ _

theorem Outcomes.total_tally_le (o : Outcomes) (b : Bucket) : (o.tally b).total ≤ o.total := by
  rw [tally]
  cases h : o.get? b with
  | none => exact Nat.zero_le _
  | some t =>
      rw [total_of_get? h]
      exact Nat.le_add_right _ _

namespace Gate

variable {draws : Draws} {actions : List GateAction} {action : GateAction} {e : LogEntry}
  {n part total : ℕ}

/-- What is logged in a run is logged by one of its steps. -/
theorem exists_step_of_mem_logged (h : e ∈ logged draws actions n) :
    ∃ i action, i < n ∧ actions[i]? = some action ∧
      e ∈ ((stage draws actions i).act draws action).entries := by
  induction n with
  | zero => cases h
  | succ n ih =>
      cases ha : actions[n]? with
      | none =>
          rw [logged_succ_of_none ha] at h
          obtain ⟨i, action, hi, hstep⟩ := ih h
          exact ⟨i, action, Nat.lt_succ_of_lt hi, hstep⟩
      | some action =>
          rw [logged_succ ha] at h
          rcases List.mem_append.mp h with hbefore | hlast
          · obtain ⟨i, action, hi, hstep⟩ := ih hbefore
            exact ⟨i, action, Nat.lt_succ_of_lt hi, hstep⟩
          · exact ⟨n, action, Nat.lt_succ_self n, ha, hlast⟩

/-- At a point of a run the counts in question are in proportion. -/
structure Proportioned (g : Gate) (n : ℕ) : Prop where
  aborted_le : g.aborted ≤ g.attempted
  attempted_le : g.attempted ≤ n
  scored_le : g.outcomes.total ≤ n

theorem proportioned_stage (draws : Draws) (actions : List GateAction) (n : ℕ) :
    (stage draws actions n).Proportioned n := by
  obtain ⟨hattempted, haborted, henrolled, hsplit⟩ := balanced_stage draws actions n
  have hle := classifiedBefore_le actions n
  constructor <;> omega

theorem Proportioned.shownCounts {g : Gate} (h : g.Proportioned n)
    (he : e ∈ (g.act draws action).entries) (hc : e.shownCounts? = some (part, total)) :
    part ≤ total ∧ 0 < total ∧ total ≤ n + 1 := by
  obtain ⟨hle, hattempted, hscored⟩ := h
  cases action with
  | decide attempt decline share =>
      rw [entries_act_decide] at he
      cases decline with
      | none => cases he
      | some d =>
          cases hg : g.nextGroup draws share with
          | treatment =>
              rw [entries_decide_of_treatment hg, List.mem_singleton] at he
              subst he
              cases hd : d.retryable with
              | true =>
                  rw [hd] at hc
                  cases hc
              | false =>
                  rw [hd] at hc
                  cases hc
                  omega
          | control =>
              rw [entries_decide_of_control hg, List.mem_cons] at he
              rcases he with rfl | he
              · cases hc
              · split at he
                · rw [List.mem_singleton] at he
                  subst he
                  cases hc
                · cases he
  | score attempt outcome =>
      rw [entries_act_score] at he
      cases hp : g.pending.get? attempt with
      | none =>
          rw [score_of_get?_eq_none hp] at he
          cases he
      | some d =>
          rw [entries_score_of_get? hp, List.mem_singleton] at he
          subst he
          cases hc
          have htally := g.outcomes.total_tally_le (bucket d)
          refine ⟨Tally.count_le_total _ outcome, ?_, ?_⟩
          · rw [Tally.total_add]
            exact Nat.succ_pos _
          · rw [Tally.total_add]
            omega

/-- In every run, the percentage in an event is the exact floor for its two counts, as long as the
second one does not exceed `2 ^ 46`, unless the share is exactly 29, 57 or 58 percent: then it is
one less. Beyond that it misses the floor by at most one. -/
theorem shown_percentages_floored_but_three (draws : Draws) (actions : List GateAction) (n : ℕ)
    (e : LogEntry) (part total : ℕ) (he : e ∈ logged draws actions n)
    (hc : e.shownCounts? = some (part, total)) :
    part ≤ total ∧ 0 < total ∧ total ≤ n ∧
    (total ≤ 2 ^ 46 → ¬ FallsShort part total → e.text = e.textShowing (100 * part / total)) ∧
    (total ≤ 2 ^ 46 → FallsShort part total → e.text = e.textShowing (100 * part / total - 1)) ∧
    ∃ percent, e.text = e.textShowing percent ∧
      percent ≤ 100 * part / total + 1 ∧ 100 * part / total ≤ percent + 1 := by
  obtain ⟨i, action, hi, -, hstep⟩ := exists_step_of_mem_logged he
  obtain ⟨hle, hpos, htotal⟩ := (proportioned_stage draws actions i).shownCounts hstep hc
  have htext := LogEntry.text_eq_textShowing hc
  refine ⟨hle, hpos, by omega, ?_, ?_, ?_⟩
  · intro hbound hshort
    rw [htext, floorPercent_of_not_fallsShort hle hpos hbound hshort]
  · intro hbound hshort
    rw [htext, floorPercent_of_fallsShort hpos (by omega) hshort]
  · exact ⟨floorPercent part total, htext, floorPercent_within_one hle hpos⟩

def refusal (retryable : Bool) : Decline :=
  ⟨"Braintree", 2004, "Expired Card", .expiredCard, retryable⟩

/-- Of three outcomes two are failures: 66 percent. -/
theorem two_thirds_floored :
    let actions : List GateAction :=
      [.decide ⟨1⟩ (some (refusal false)) 0, .decide ⟨2⟩ (some (refusal false)) 0,
        .decide ⟨3⟩ (some (refusal false)) 0, .score ⟨2⟩ .success, .score ⟨1⟩ .failure,
        .score ⟨3⟩ .failure]
    let e : LogEntry := .outcomeScored .failure ⟨3⟩ ⟨1, 2⟩ (refusal false)
    e ∈ logged (.fixed 50) actions 6 ∧ e.shownCounts? = some (2, 3) ∧
      e.text = e.textShowing 66 := by
  intro actions e
  have he : e ∈ logged (.fixed 50) actions 6 := by decide
  have hc : e.shownCounts? = some (2, 3) := rfl
  have hshort : ¬ FallsShort 2 3 := by
    rintro ⟨k, hk, hshare⟩
    omega
  obtain ⟨-, -, -, hexact, -, -⟩ :=
    shown_percentages_floored_but_three (.fixed 50) actions 6 e 2 3 he hc
  exact ⟨he, hc, hexact (by norm_num) hshort⟩

/-- Of fifty attempts 29 are aborted, and the event of the last one shows 57 percent. -/
theorem fifty_attempts_shown_short :
    let actions : List GateAction :=
      List.replicate 21 (.decide ⟨1⟩ (some (refusal true)) 100) ++
        List.replicate 29 (.decide ⟨1⟩ (some (refusal false)) 100)
    let e : LogEntry := .retryPrevented ⟨1⟩ 29 50 (refusal false)
    e ∈ logged (.fixed 0) actions 50 ∧ e.text = e.textShowing 57 ∧
      e.text ≠ e.textShowing (100 * 29 / 50) := by
  decide +kernel

end Gate

end RetryTrial
