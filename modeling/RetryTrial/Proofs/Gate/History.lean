import Mathlib.Data.Nat.Count
import RetryTrial.Proofs.Gate.Step

/-!
# Runs of a fresh gate, step by step

`stage` is the gate after the first steps of a run, `reply?` what a step answered. Steps are counted
from zero. A decision with a classification takes the next draw, so the actions alone say which
decisions enroll their attempt into the control group. `stage_induction` goes along a run by the
kinds of step: what holds of a fresh gate and is kept by each kind holds at every stage.
-/

namespace RetryTrial

def GateAction.isClassified : GateAction → Bool
  | .decide _ (some _) _ => true
  | _ => false

namespace Gate

variable (draws : Draws) (actions : List GateAction)

theorem getElem?_run (g : Gate) (n : ℕ) :
    (g.run draws actions)[n]? =
      actions[n]?.map ((g.after draws (actions.take n)).act draws) := by
  induction actions generalizing g n with
  | nil => rfl
  | cons action actions ih =>
      cases n with
      | zero => rfl
      | succ n => exact ih _ n

/-- A fresh gate after the first `n` actions. -/
def stage (n : ℕ) : Gate := fresh.after draws (actions.take n)

def reply? (n : ℕ) : Option GateReply :=
  (fresh.run draws actions)[n]?.map fun step => step.value.1

def logged (n : ℕ) : List LogEntry :=
  ((fresh.run draws actions).take n).flatMap Traced.entries

@[simp] theorem stage_zero : stage draws actions 0 = fresh := rfl

variable {draws actions} {n : ℕ} {action : GateAction}

theorem stage_succ (h : actions[n]? = some action) :
    stage draws actions (n + 1) = ((stage draws actions n).act draws action).value.2 := by
  simp only [stage, after, List.take_add_one, h, Option.toList_some, List.foldl_append,
    List.foldl_cons, List.foldl_nil]

theorem stage_succ_of_none (h : actions[n]? = none) :
    stage draws actions (n + 1) = stage draws actions n := by
  simp only [stage, List.take_add_one, h, Option.toList_none, List.append_nil]

theorem reply?_eq (h : actions[n]? = some action) :
    reply? draws actions n = some ((stage draws actions n).act draws action).value.1 := by
  rw [reply?, getElem?_run, h]
  rfl

theorem reply?_eq_none (h : actions[n]? = none) : reply? draws actions n = none := by
  rw [reply?, getElem?_run, h]
  rfl

theorem logged_succ (h : actions[n]? = some action) :
    logged draws actions (n + 1) =
      logged draws actions n ++ ((stage draws actions n).act draws action).entries := by
  simp only [logged, List.take_add_one, getElem?_run, h, Option.map_some, Option.toList_some,
    List.flatMap_append, List.flatMap_cons, List.flatMap_nil, List.append_nil]
  rfl

theorem logged_succ_of_none (h : actions[n]? = none) :
    logged draws actions (n + 1) = logged draws actions n := by
  simp only [logged, List.take_add_one, getElem?_run, h, Option.map_none, Option.toList_none,
    List.append_nil]

def classifiedBefore (actions : List GateAction) (n : ℕ) : ℕ :=
  (actions.take n).countP GateAction.isClassified

/-- The attempt that action `n` enrolls into the control group, and its decline. -/
def enrolled? (draws : Draws) (actions : List GateAction) (n : ℕ) : Option (Uuid × Decline) :=
  match actions[n]? with
  | some (.decide attempt (some d) share) =>
    match Group.ofDraw (draws (classifiedBefore actions n)) share with
    | .treatment => none
    | .control => some (attempt, d)
  | _ => none

theorem classifiedBefore_succ (h : actions[n]? = some action) :
    classifiedBefore actions (n + 1) =
      classifiedBefore actions n + if action.isClassified then 1 else 0 := by
  simp only [classifiedBefore, List.take_add_one, h, Option.toList_some, List.countP_append,
    List.countP_singleton]

theorem classifiedBefore_succ_of_none (h : actions[n]? = none) :
    classifiedBefore actions (n + 1) = classifiedBefore actions n := by
  simp only [classifiedBefore, List.take_add_one, h, Option.toList_none, List.append_nil]

section Kinds

variable {attempt : Uuid} {d : Decline} {share : ℕ} {outcome : Outcome}

theorem stage_succ_of_unclassified (h : actions[n]? = some (.decide attempt none share)) :
    stage draws actions (n + 1) = stage draws actions n := stage_succ h

theorem stage_succ_of_treatment (h : actions[n]? = some (.decide attempt (some d) share))
    (hg : (stage draws actions n).nextGroup draws share = .treatment) :
    stage draws actions (n + 1) =
      { stage draws actions n with
        attempted := (stage draws actions n).attempted + 1
        aborted := (stage draws actions n).aborted + (!d.retryable).toNat
        drawn := (stage draws actions n).drawn + 1 } := by
  rw [stage_succ h, value_act_decide, value_decide_of_treatment hg]

theorem stage_succ_of_control (h : actions[n]? = some (.decide attempt (some d) share))
    (hg : (stage draws actions n).nextGroup draws share = .control) :
    stage draws actions (n + 1) =
      { stage draws actions n with
        attempted := (stage draws actions n).attempted + 1
        pending := (stage draws actions n).pending.insert attempt d
        drawn := (stage draws actions n).drawn + 1 } := by
  rw [stage_succ h, value_act_decide, value_decide_of_control hg]

theorem stage_succ_of_ignored (h : actions[n]? = some (.score attempt outcome))
    (hp : (stage draws actions n).pending.get? attempt = none) :
    stage draws actions (n + 1) = stage draws actions n := by
  rw [stage_succ h, value_act_score, score_of_get?_eq_none hp]
  rfl

theorem stage_succ_of_scored (h : actions[n]? = some (.score attempt outcome))
    (hp : (stage draws actions n).pending.get? attempt = some d) :
    stage draws actions (n + 1) =
      { stage draws actions n with
        pending := (stage draws actions n).pending.erase attempt
        outcomes := (stage draws actions n).outcomes.record (bucket d) outcome } := by
  rw [stage_succ h, value_act_score, value_score_of_get? hp]

variable (draws actions) in
/-- What holds of a fresh gate and is kept by every kind of step holds throughout a run. -/
@[elab_as_elim]
theorem stage_induction {motive : ℕ → Prop} (zero : motive 0)
    (idle : ∀ n, actions[n]? = none → motive n → motive (n + 1))
    (unclassified : ∀ n attempt share, actions[n]? = some (.decide attempt none share) →
      motive n → motive (n + 1))
    (treatment : ∀ n attempt d share, actions[n]? = some (.decide attempt (some d) share) →
      (stage draws actions n).nextGroup draws share = .treatment → motive n → motive (n + 1))
    (control : ∀ n attempt d share, actions[n]? = some (.decide attempt (some d) share) →
      (stage draws actions n).nextGroup draws share = .control → motive n → motive (n + 1))
    (ignored : ∀ n attempt outcome, actions[n]? = some (.score attempt outcome) →
      (stage draws actions n).pending.get? attempt = none → motive n → motive (n + 1))
    (scored : ∀ n attempt d outcome, actions[n]? = some (.score attempt outcome) →
      (stage draws actions n).pending.get? attempt = some d → motive n → motive (n + 1))
    (n : ℕ) : motive n := by
  induction n with
  | zero => exact zero
  | succ n ih =>
      rcases h : actions[n]? with _ | (⟨attempt, _ | d, share⟩ | ⟨attempt, outcome⟩)
      · exact idle n h ih
      · exact unclassified n attempt share h ih
      · cases hg : (stage draws actions n).nextGroup draws share with
        | treatment => exact treatment n attempt d share h hg ih
        | control => exact control n attempt d share h hg ih
      · cases hp : (stage draws actions n).pending.get? attempt with
        | none => exact ignored n attempt outcome h hp ih
        | some d => exact scored n attempt d outcome h hp ih

theorem drawn_stage (n : ℕ) : (stage draws actions n).drawn = classifiedBefore actions n := by
  induction n using stage_induction draws actions with
  | zero => rfl
  | idle n h ih => rw [stage_succ_of_none h, classifiedBefore_succ_of_none h, ih]
  | unclassified n attempt share h ih =>
      rw [stage_succ_of_unclassified h, classifiedBefore_succ h, ih]
      rfl
  | treatment n attempt d share h hg ih =>
      rw [stage_succ_of_treatment h hg, classifiedBefore_succ h, ih]
      rfl
  | control n attempt d share h hg ih =>
      rw [stage_succ_of_control h hg, classifiedBefore_succ h, ih]
      rfl
  | ignored n attempt outcome h hp ih =>
      rw [stage_succ_of_ignored h hp, classifiedBefore_succ h, ih]
      rfl
  | scored n attempt d outcome h hp ih =>
      rw [stage_succ_of_scored h hp, classifiedBefore_succ h, ih]
      rfl

theorem enrolled?_of_treatment (h : actions[n]? = some (.decide attempt (some d) share))
    (hg : (stage draws actions n).nextGroup draws share = .treatment) :
    enrolled? draws actions n = none := by
  rw [nextGroup, drawn_stage] at hg
  simp only [enrolled?, h, hg]

theorem enrolled?_of_control (h : actions[n]? = some (.decide attempt (some d) share))
    (hg : (stage draws actions n).nextGroup draws share = .control) :
    enrolled? draws actions n = some (attempt, d) := by
  rw [nextGroup, drawn_stage] at hg
  simp only [enrolled?, h, hg]

theorem reply?_of_unclassified (h : actions[n]? = some (.decide attempt none share)) :
    reply? draws actions n = some (.decision .allow) := reply?_eq h

theorem reply?_of_treatment (h : actions[n]? = some (.decide attempt (some d) share))
    (hg : (stage draws actions n).nextGroup draws share = .treatment) :
    reply? draws actions n = some (.decision ⟨!d.retryable⟩) := by
  rw [reply?_eq h, value_act_decide, value_decide_of_treatment hg]

theorem reply?_of_control (h : actions[n]? = some (.decide attempt (some d) share))
    (hg : (stage draws actions n).nextGroup draws share = .control) :
    reply? draws actions n = some (.decision .allow) := by
  rw [reply?_eq h, value_act_decide, value_decide_of_control hg]

theorem reply?_of_ignored (h : actions[n]? = some (.score attempt outcome))
    (hp : (stage draws actions n).pending.get? attempt = none) :
    reply? draws actions n = some (.tally none) := by
  rw [reply?_eq h, value_act_score, score_of_get?_eq_none hp]
  rfl

theorem reply?_of_scored (h : actions[n]? = some (.score attempt outcome))
    (hp : (stage draws actions n).pending.get? attempt = some d) :
    reply? draws actions n =
      some (.tally (some (((stage draws actions n).outcomes.tally (bucket d)).add outcome))) := by
  rw [reply?_eq h, value_act_score, value_score_of_get? hp]

theorem enrolled?_of_idle (h : actions[n]? = none) : enrolled? draws actions n = none := by
  simp only [enrolled?, h]

theorem enrolled?_of_unclassified (h : actions[n]? = some (.decide attempt none share)) :
    enrolled? draws actions n = none := by
  simp only [enrolled?, h]

theorem enrolled?_of_score (h : actions[n]? = some (.score attempt outcome)) :
    enrolled? draws actions n = none := by
  simp only [enrolled?, h]

end Kinds

end Gate

end RetryTrial
