import RetryTrial.Proofs.Gate.History
import RetryTrial.Proofs.LastMember

/-!
# Scoring exactly once

An attempt is awaited from the step that enrolls it into the control group until its outcome is
reported. The pending attempts of the gate are the awaited ones, each with the decline it was last
enrolled with. So the first outcome after an enrollment is scored in the bucket of that decline, any
further one is ignored, and a tally counts the outcomes that were scored in its bucket.
-/

namespace RetryTrial.Gate

variable {draws : Draws} {actions : List GateAction} {n i j : ℕ} {attempt : Uuid} {d e : Decline}

/-- Of the first `n` steps, step `i` is the last one to enroll the attempt; `d` is its decline. -/
structure LastEnrolled (draws : Draws) (actions : List GateAction) (n : ℕ) (attempt : Uuid)
    (i : ℕ) (d : Decline) : Prop where
  before : i < n
  enrolls : enrolled? draws actions i = some (attempt, d)
  last : ∀ j, i < j → j < n → ∀ e, enrolled? draws actions j ≠ some (attempt, e)

def Reports (actions : List GateAction) (attempt : Uuid) (j : ℕ) : Prop :=
  ∃ outcome, actions[j]? = some (.score attempt outcome)

/-- Since its last enrollment no outcome of the attempt was reported. -/
def Awaited (draws : Draws) (actions : List GateAction) (n : ℕ) (attempt : Uuid) (d : Decline) :
    Prop :=
  ∃ i, LastEnrolled draws actions n attempt i d ∧
    ∀ j, i < j → j < n → ¬ Reports actions attempt j

theorem LastEnrolled.unique (hi : LastEnrolled draws actions n attempt i d)
    (hj : LastEnrolled draws actions n attempt j e) : i = j ∧ d = e := by
  have hij : i = j :=
    eq_of_last_step (S := fun k => ∃ e, enrolled? draws actions k = some (attempt, e))
      hi.before ⟨d, hi.enrolls⟩ (fun k hik hkn => not_exists.mpr (hi.last k hik hkn))
      hj.before ⟨e, hj.enrolls⟩ (fun k hjk hkn => not_exists.mpr (hj.last k hjk hkn))
  subst hij
  refine ⟨rfl, ?_⟩
  have he := hi.enrolls.symm.trans hj.enrolls
  exact congrArg Prod.snd (Option.some.inj he)

theorem lastEnrolled_succ_of_enrolled (h : enrolled? draws actions n = some (attempt, e)) :
    LastEnrolled draws actions (n + 1) attempt i d ↔ i = n ∧ d = e := by
  constructor
  · intro hi
    exact hi.unique ⟨Nat.lt_succ_self n, h, fun j hj hjn => by omega⟩
  · rintro ⟨rfl, rfl⟩
    exact ⟨Nat.lt_succ_self i, h, fun j hj hjn => by omega⟩

theorem lastEnrolled_succ_of_not (h : ∀ e, enrolled? draws actions n ≠ some (attempt, e)) :
    LastEnrolled draws actions (n + 1) attempt i d ↔ LastEnrolled draws actions n attempt i d := by
  constructor
  · intro hi
    have hne : i ≠ n := fun hin => h d (hin ▸ hi.enrolls)
    have hlt := hi.before
    exact ⟨by omega, hi.enrolls, fun j hij hjn => hi.last j hij (by omega)⟩
  · intro hi
    exact ⟨Nat.lt_succ_of_lt hi.before, hi.enrolls, forall_step_succ hi.last h⟩

theorem awaited_succ_of_enrolled (h : enrolled? draws actions n = some (attempt, e)) :
    Awaited draws actions (n + 1) attempt d ↔ d = e := by
  constructor
  · rintro ⟨i, hi, -⟩
    exact ((lastEnrolled_succ_of_enrolled h).mp hi).2
  · intro hd
    exact ⟨n, (lastEnrolled_succ_of_enrolled h).mpr ⟨rfl, hd⟩, fun j hj hjn => by omega⟩

theorem not_awaited_succ_of_reports (h : Reports actions attempt n) :
    ¬ Awaited draws actions (n + 1) attempt d := by
  rintro ⟨i, hi, hquiet⟩
  obtain ⟨outcome, hn⟩ := h
  have hne : i ≠ n := by
    rintro rfl
    have he := hi.enrolls
    rw [enrolled?_of_score hn] at he
    cases he
  have hlt := hi.before
  exact hquiet n (by omega) (Nat.lt_succ_self n) ⟨outcome, hn⟩

theorem awaited_succ_of_not (he : ∀ e, enrolled? draws actions n ≠ some (attempt, e))
    (hr : ¬ Reports actions attempt n) :
    Awaited draws actions (n + 1) attempt d ↔ Awaited draws actions n attempt d := by
  constructor
  · rintro ⟨i, hi, hquiet⟩
    exact ⟨i, (lastEnrolled_succ_of_not he).mp hi, fun j hij hjn => hquiet j hij (by omega)⟩
  · rintro ⟨i, hi, hquiet⟩
    exact ⟨i, (lastEnrolled_succ_of_not he).mpr hi, forall_step_succ hquiet hr⟩

/-- The pending attempts are the awaited ones. -/
theorem get?_stage (draws : Draws) (actions : List GateAction) (n : ℕ) (attempt : Uuid)
    (d : Decline) :
    (stage draws actions n).pending.get? attempt = some d ↔
      Awaited draws actions n attempt d := by
  induction n using stage_induction draws actions with
  | zero =>
      have hn : ¬ Awaited draws actions 0 attempt d := fun ⟨_, hi, _⟩ => Nat.not_lt_zero _ hi.before
      simp [hn, fresh]
  | idle n h ih =>
      rw [stage_succ_of_none h, ih, awaited_succ_of_not]
      · simp [enrolled?_of_idle h]
      · simp [Reports, h]
  | unclassified n a share h ih =>
      rw [stage_succ_of_unclassified h, ih, awaited_succ_of_not]
      · simp [enrolled?_of_unclassified h]
      · simp [Reports, h]
  | treatment n a e share h hg ih =>
      rw [stage_succ_of_treatment h hg, ih, awaited_succ_of_not]
      · simp [enrolled?_of_treatment h hg]
      · simp [Reports, h]
  | control n a e share h hg ih =>
      have he := enrolled?_of_control h hg
      rw [stage_succ_of_control h hg, Pending.get?_insert]
      by_cases ha : a = attempt
      · subst ha
        rw [if_pos rfl, awaited_succ_of_enrolled he, Option.some.injEq, eq_comm]
      · rw [if_neg ha, ih, awaited_succ_of_not]
        · simp [he, ha]
        · simp [Reports, h]
  | ignored n a outcome h hp ih =>
      rw [stage_succ_of_ignored h hp]
      by_cases ha : a = attempt
      · subst ha
        simp [hp, not_awaited_succ_of_reports ⟨outcome, h⟩]
      · rw [ih, awaited_succ_of_not]
        · simp [enrolled?_of_score h]
        · simp [Reports, h, ha]
  | scored n a e outcome h hp ih =>
      rw [stage_succ_of_scored h hp, Pending.get?_erase]
      by_cases ha : a = attempt
      · subst ha
        simp [not_awaited_succ_of_reports ⟨outcome, h⟩]
      · rw [if_neg ha, ih, awaited_succ_of_not]
        · simp [enrolled?_of_score h]
        · simp [Reports, h, ha]

variable {b : Bucket} {outcome reported : Outcome}

/-- An outcome is answered with a tally exactly if its attempt is pending. -/
theorem answered_iff (h : actions[n]? = some (.score attempt outcome)) :
    (∃ t, reply? draws actions n = some (.tally (some t))) ↔
      ∃ d, (stage draws actions n).pending.get? attempt = some d := by
  cases hp : (stage draws actions n).pending.get? attempt with
  | none => simp [reply?_of_ignored h hp]
  | some d => simp [reply?_of_scored h hp]

end RetryTrial.Gate
