import Mathlib.Data.List.Induction
import RetryTrial.Gate.OutcomesRun
import RetryTrial.Proofs.Gate.Listing

/-!
# Runs of the scored outcomes as counts

The recordings of a run say how often each outcome was counted in each bucket. At every stage the
outcomes keep exactly these counts, so every answer of a run can be told from the recordings before
it, and the questions among them make no difference.
-/

namespace RetryTrial

def OutcomesAction.isRecord : OutcomesAction → Bool
  | .record _ _ => true
  | _ => false

namespace Outcomes

def recorded (past : List OutcomesAction) (b : Bucket) (outcome : Outcome) : ℕ :=
  past.count (.record b outcome)

def counts (past : List OutcomesAction) (b : Bucket) : Tally :=
  ⟨recorded past b .success, recorded past b .failure⟩

section Counts

variable {past : List OutcomesAction} {action : OutcomesAction} {b : Bucket} {outcome : Outcome}

theorem count_counts (past : List OutcomesAction) (b : Bucket) (outcome : Outcome) :
    (counts past b).count outcome = recorded past b outcome := by
  cases outcome <;> rfl

theorem counts_append_record (past : List OutcomesAction) (b : Bucket) (outcome : Outcome) :
    counts (past ++ [.record b outcome]) = raise (counts past) b outcome := by
  funext c
  by_cases hc : b = c
  · subst hc
    cases outcome <;> simp [counts, recorded, raise, Tally.add]
  · simp [counts, recorded, raise, hc]

theorem counts_append_of_not_isRecord (h : action.isRecord = false) :
    counts (past ++ [action]) = counts past := by
  have hne (b : Bucket) (outcome : Outcome) : action ≠ .record b outcome := by
    rintro rfl
    cases h
  funext b
  simp [counts, recorded, hne]

theorem counts_ne_zero_iff :
    counts past b ≠ .zero ↔ ∃ outcome, OutcomesAction.record b outcome ∈ past := by
  constructor
  · intro h
    by_cases hs : OutcomesAction.record b .success ∈ past
    · exact ⟨.success, hs⟩
    · refine ⟨.failure, Decidable.byContradiction fun hf => h ?_⟩
      rw [counts, recorded, recorded, List.count_eq_zero.mpr hs, List.count_eq_zero.mpr hf]
      rfl
  · rintro ⟨outcome, hmem⟩ hzero
    have hcount := count_counts past b outcome
    rw [hzero, Tally.count_zero] at hcount
    exact List.count_eq_zero.mp hcount.symm hmem

theorem total_counts_le (past : List OutcomesAction) (b : Bucket) :
    (counts past b).total ≤ past.countP (·.isRecord) := by
  induction past using List.reverseRecOn with
  | nil => exact Nat.le_refl 0
  | append_singleton past action ih =>
      rw [List.countP_append]
      cases action with
      | record c outcome =>
          rw [counts_append_record, raise]
          split
          · rename_i hc
            rw [Tally.total_add, hc]
            exact Nat.succ_le_succ ih
          · exact Nat.le_succ_of_le ih
      | tally c => rwa [counts_append_of_not_isRecord rfl]
      | total c => rwa [counts_append_of_not_isRecord rfl]
      | snapshot => rwa [counts_append_of_not_isRecord rfl]

end Counts

section Run

variable {o : Outcomes} {past actions : List OutcomesAction} {action : OutcomesAction} {n : ℕ}

theorem act_of_not_isRecord (o : Outcomes) (h : action.isRecord = false) :
    (o.act action).2 = o := by
  cases action with
  | record b outcome => cases h
  | tally b => rfl
  | total b => rfl
  | snapshot => rfl

theorem Keeps.act (h : o.Keeps (counts past)) (action : OutcomesAction) :
    (o.act action).2.Keeps (counts (past ++ [action])) := by
  cases action with
  | record b outcome =>
      rw [counts_append_record]
      exact h.record b outcome
  | tally b => rwa [counts_append_of_not_isRecord rfl]
  | total b => rwa [counts_append_of_not_isRecord rfl]
  | snapshot => rwa [counts_append_of_not_isRecord rfl]

theorem after_append_singleton (o : Outcomes) (past : List OutcomesAction)
    (action : OutcomesAction) : o.after (past ++ [action]) = ((o.after past).act action).2 :=
  List.foldl_append

theorem keeps_after (past : List OutcomesAction) : (empty.after past).Keeps (counts past) := by
  induction past using List.reverseRecOn with
  | nil => exact keeps_empty
  | append_singleton past action ih =>
      rw [after_append_singleton]
      exact ih.act action

theorem getElem?_run (o : Outcomes) (actions : List OutcomesAction) (n : ℕ) :
    (o.run actions)[n]? = actions[n]?.map (o.after (actions.take n)).act := by
  induction actions generalizing o n with
  | nil => rfl
  | cons action actions ih =>
      cases n with
      | zero => rfl
      | succ n => exact ih _ n

/-- Nothing recorded before, the outcomes after the first `n` actions. -/
def stage (actions : List OutcomesAction) (n : ℕ) : Outcomes := empty.after (actions.take n)

def reply? (actions : List OutcomesAction) (n : ℕ) : Option OutcomesReply :=
  (empty.run actions)[n]?.map Prod.fst

theorem reply?_eq (h : actions[n]? = some action) :
    reply? actions n = some ((stage actions n).act action).1 := by
  rw [reply?, getElem?_run, h]
  rfl

theorem stage_succ (h : actions[n]? = some action) :
    stage actions (n + 1) = ((stage actions n).act action).2 := by
  rw [stage, List.take_add_one, h, Option.toList_some, after_append_singleton]
  rfl

end Run

/-- However recordings and questions alternate, each bucket has a counter for each outcome that
counts the recordings of that outcome in that bucket. A recording answers the new value of its
counter, a tally and a total answer the counters so far, and a snapshot lists in order the buckets
that were recorded, with theirs. A question leaves everything as it was, no counter goes down and no
listed bucket is lost. A bucket counts no more than the recordings so far, so 64 bits are enough for
fewer than `2 ^ 64` of them. -/
theorem outcomes_refine_flat_counts (actions : List OutcomesAction) :
    (∀ n b outcome, actions[n]? = some (.record b outcome) →
      reply? actions n = some (.count (recorded (actions.take n) b outcome + 1))) ∧
    (∀ n b, actions[n]? = some (.tally b) →
      reply? actions n = some (.tally
        ⟨recorded (actions.take n) b .success, recorded (actions.take n) b .failure⟩)) ∧
    (∀ n b, actions[n]? = some (.total b) →
      reply? actions n = some (.count
        (recorded (actions.take n) b .success + recorded (actions.take n) b .failure))) ∧
    (∀ n, actions[n]? = some .snapshot →
      ∃ listing, reply? actions n = some (.snapshot listing) ∧ Orderly listing ∧
        ∀ b t, Shows listing b t ↔
          (∃ outcome, OutcomesAction.record b outcome ∈ actions.take n) ∧
            t = ⟨recorded (actions.take n) b .success, recorded (actions.take n) b .failure⟩) ∧
    (∀ n action, actions[n]? = some action → action.isRecord = false →
      stage actions (n + 1) = stage actions n) ∧
    (∀ m n b outcome, m ≤ n →
      ((stage actions m).tally b).count outcome ≤ ((stage actions n).tally b).count outcome) ∧
    (∀ m n b t, m ≤ n → Shows (stage actions m).snapshot b t →
      ∃ u, Shows (stage actions n).snapshot b u ∧ ∀ outcome, t.count outcome ≤ u.count outcome) ∧
    ∀ n b, ((stage actions n).tally b).total ≤ (actions.take n).countP (·.isRecord) := by
  have hkeeps (n : ℕ) : (stage actions n).Keeps (counts (actions.take n)) := keeps_after _
  have hle {m n : ℕ} (hmn : m ≤ n) (b : Bucket) (outcome : Outcome) :
      (counts (actions.take m) b).count outcome ≤ (counts (actions.take n) b).count outcome := by
    rw [count_counts, count_counts]
    exact (List.take_sublist_take_left hmn).count_le _
  refine ⟨?_, ?_, ?_, ?_, ?_, ?_, ?_, ?_⟩
  · intro n b outcome h
    rw [reply?_eq h, act, increment_eq, (hkeeps n).tally, count_counts]
  · intro n b h
    rw [reply?_eq h, act, (hkeeps n).tally, counts]
  · intro n b h
    rw [reply?_eq h, act, (hkeeps n).tally, counts, Tally.total]
  · intro n h
    refine ⟨(stage actions n).snapshot, by rw [reply?_eq h, act], (hkeeps n).orderly_snapshot, ?_⟩
    intro b t
    rw [(hkeeps n).shows_snapshot_iff, counts_ne_zero_iff, counts]
  · intro n action h hr
    rw [stage_succ h, act_of_not_isRecord _ hr]
  · intro m n b outcome hmn
    rw [(hkeeps m).tally, (hkeeps n).tally]
    exact hle hmn b outcome
  · intro m n b t hmn hshows
    obtain ⟨hrecorded, rfl⟩ := (hkeeps m).shows_snapshot_iff.mp hshows
    obtain ⟨outcome, hmem⟩ := counts_ne_zero_iff.mp hrecorded
    have hlater : OutcomesAction.record b outcome ∈ actions.take n :=
      (List.take_sublist_take_left hmn).subset hmem
    exact ⟨counts (actions.take n) b,
      (hkeeps n).shows_snapshot_iff.mpr ⟨counts_ne_zero_iff.mpr ⟨outcome, hlater⟩, rfl⟩, hle hmn b⟩
  · intro n b
    rw [(hkeeps n).tally]
    exact total_counts_le _ b

example :
    (empty.after [.record ⟨"Braintree", 2004⟩ .failure, .record ⟨"Adyen", 62⟩ .success,
      .tally ⟨"Paymentech", 603⟩, .record ⟨"Adyen", -5⟩ .failure,
      .record ⟨"Adyen", 62⟩ .success]).snapshot =
      [("Adyen", [(-5, ⟨0, 1⟩), (62, ⟨2, 0⟩)]), ("Braintree", [(2004, ⟨0, 1⟩)])] := rfl

end Outcomes

end RetryTrial
