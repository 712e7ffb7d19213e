import RetryTrial.Proofs.Gate.Scoring

/-!
# Attempts in the treatment group

A decision that draws its attempt into the treatment group leaves the pending attempts alone. An
attempt that was not pending before is not monitored after it: until it is enrolled into the control
group its outcomes are ignored. But an attempt that still waits for the outcome of an earlier
enrollment goes on waiting, and its outcome is scored although the attempt was aborted.
-/

namespace RetryTrial.Gate

variable {draws : Draws} {actions : List GateAction} {n m j : ℕ} {attempt : Uuid} {d : Decline}

/-- Step `n` decides on the attempt and draws it into the treatment group. -/
def Enforced (draws : Draws) (actions : List GateAction) (attempt : Uuid) (n : ℕ) : Prop :=
  ∃ d share, actions[n]? = some (.decide attempt (some d) share) ∧
    Group.ofDraw (draws (classifiedBefore actions n)) share = .treatment

/-- No step from `n` on and before `m` enrolls the attempt into the control group. -/
def Unenrolled (draws : Draws) (actions : List GateAction) (attempt : Uuid) (n m : ℕ) : Prop :=
  ∀ j, n ≤ j → j < m → ∀ d, enrolled? draws actions j ≠ some (attempt, d)

/-- No step from `n` on and before `m` reports an outcome of the attempt. -/
def Unreported (actions : List GateAction) (attempt : Uuid) (n m : ℕ) : Prop :=
  ∀ j, n ≤ j → j < m → ¬ Reports actions attempt j

theorem Enforced.not_enrolled (h : Enforced draws actions attempt n) (d : Decline) :
    enrolled? draws actions n ≠ some (attempt, d) := by
  obtain ⟨e, share, hn, hg⟩ := h
  simp only [enrolled?, hn, hg, ne_eq, reduceCtorEq, not_false_eq_true]

theorem Enforced.not_reports (h : Enforced draws actions attempt n) :
    ¬ Reports actions attempt n := by
  obtain ⟨d, share, hn, -⟩ := h
  rintro ⟨outcome, ho⟩
  rw [hn] at ho
  cases ho

theorem enforced_of_abort {decline : Option Decline} {share : ℕ}
    (h : actions[n]? = some (.decide attempt decline share))
    (ha : reply? draws actions n = some (.decision ⟨true⟩)) :
    Enforced draws actions attempt n := by
  cases decline with
  | none =>
      rw [reply?_of_unclassified h] at ha
      cases ha
  | some d =>
      cases hg : (stage draws actions n).nextGroup draws share with
      | treatment =>
          rw [nextGroup, drawn_stage] at hg
          exact ⟨d, share, h, hg⟩
      | control =>
          rw [reply?_of_control h hg] at ha
          cases ha

theorem get?_succ_of_not (he : ∀ e, enrolled? draws actions n ≠ some (attempt, e))
    (hr : ¬ Reports actions attempt n) :
    (stage draws actions (n + 1)).pending.get? attempt =
      (stage draws actions n).pending.get? attempt := by
  apply Option.ext
  intro d
  rw [get?_stage, get?_stage, awaited_succ_of_not he hr]

theorem get?_succ_of_reports (hr : Reports actions attempt n) :
    (stage draws actions (n + 1)).pending.get? attempt = none := by
  rw [Option.eq_none_iff_forall_ne_some]
  intro d hd
  exact not_awaited_succ_of_reports hr ((get?_stage draws actions (n + 1) attempt d).mp hd)

/-- While it is not enrolled again, an attempt stays pending until an outcome of it is reported. -/
theorem get?_of_unenrolled (hnm : n ≤ m) (h : Unenrolled draws actions attempt n m) :
    (stage draws actions m).pending.get? attempt = some d ↔
      (stage draws actions n).pending.get? attempt = some d ∧ Unreported actions attempt n m := by
  induction m, hnm using Nat.le_induction with
  | base =>
      have hnone : Unreported actions attempt n n := fun j hnj hjn => absurd hjn (by omega)
      rw [and_iff_left hnone]
  | succ m hnm ih =>
      have ih := ih fun j hnj hjm => h j hnj (by omega)
      by_cases hr : Reports actions attempt m
      · rw [get?_succ_of_reports hr]
        constructor
        · intro hd
          cases hd
        · rintro ⟨-, hquiet⟩
          exact absurd hr (hquiet m hnm (Nat.lt_succ_self m))
      · rw [get?_succ_of_not (h m hnm (Nat.lt_succ_self m)) hr, ih]
        apply and_congr_right
        intro _
        constructor
        · exact fun hquiet => forall_step_succ hquiet hr
        · intro hquiet j hnj hjm
          exact hquiet j hnj (by omega)

theorem get?_eq_none_of_unenrolled (hnm : n ≤ m) (h : Unenrolled draws actions attempt n m)
    (hp : (stage draws actions n).pending.get? attempt = none) :
    (stage draws actions m).pending.get? attempt = none := by
  rw [Option.eq_none_iff_forall_ne_some]
  intro d hd
  have hn := ((get?_of_unenrolled hnm h).mp hd).1
  rw [hp] at hn
  cases hn

theorem get?_of_awaited_through {i : ℕ} (hi : LastEnrolled draws actions m attempt i d)
    (hquiet : ∀ j, i < j → j < m → ¬ Reports actions attempt j) (hij : i < j) (hjm : j < m) :
    (stage draws actions j).pending.get? attempt = some d := by
  rw [get?_stage]
  refine ⟨i, ⟨hij, hi.enrolls, ?_⟩, ?_⟩
  · intro l hil hlj
    exact hi.last l hil (by omega)
  · intro l hil hlj
    exact hquiet l hil (by omega)

/-- Only the treatment group aborts. From a treatment decision until its next enrollment an attempt
is pending exactly if it was pending before and none of its outcomes was reported since; if it was
not pending, its outcomes are ignored. Unless a treatment decision met it pending, the last group
that a scored attempt was drawn into is the control group. -/
theorem enforced_not_monitored_unless_awaited (draws : Draws) (actions : List GateAction)
    (attempt : Uuid) :
    (∀ n decline share, actions[n]? = some (.decide attempt decline share) →
      reply? draws actions n = some (.decision ⟨true⟩) → Enforced draws actions attempt n) ∧
    (∀ n m, Enforced draws actions attempt n → n < m →
      Unenrolled draws actions attempt (n + 1) m →
      (∀ d, (stage draws actions m).pending.get? attempt = some d ↔
        (stage draws actions n).pending.get? attempt = some d ∧
          Unreported actions attempt (n + 1) m) ∧
      ((stage draws actions n).pending.get? attempt = none →
        (stage draws actions m).pending.get? attempt = none ∧
        ∀ outcome, actions[m]? = some (.score attempt outcome) →
          reply? draws actions m = some (.tally none) ∧
          stage draws actions (m + 1) = stage draws actions m)) ∧
    (∀ m outcome t, actions[m]? = some (.score attempt outcome) →
      reply? draws actions m = some (.tally (some t)) →
      (∀ j, Enforced draws actions attempt j →
        (stage draws actions j).pending.get? attempt = none) →
      ∃ i d, LastEnrolled draws actions m attempt i d ∧
        ∀ j, i < j → j < m → ¬ Enforced draws actions attempt j) := by
  refine ⟨fun n decline share => enforced_of_abort, ?_, ?_⟩
  · intro n m hn hnm hfree
    have hkept : (stage draws actions (n + 1)).pending.get? attempt =
        (stage draws actions n).pending.get? attempt :=
      get?_succ_of_not hn.not_enrolled hn.not_reports
    constructor
    · intro d
      rw [get?_of_unenrolled hnm hfree, hkept]
    · intro hp
      have hm := get?_eq_none_of_unenrolled hnm hfree (hkept.trans hp)
      refine ⟨hm, ?_⟩
      intro outcome hs
      exact ⟨reply?_of_ignored hs hm, stage_succ_of_ignored hs hm⟩
  · intro m outcome t hs ht hunmet
    obtain ⟨d, hp⟩ := (answered_iff hs).mp ⟨t, ht⟩
    obtain ⟨i, hi, hquiet⟩ := (get?_stage draws actions m attempt d).mp hp
    refine ⟨i, d, hi, ?_⟩
    intro j hij hjm hj
    have hpending := get?_of_awaited_through hi hquiet hij hjm
    rw [hunmet j hj] at hpending
    cases hpending

def expired : Decline := ⟨"Braintree", 2004, "Expired Card", .expiredCard, false⟩

/-- The attempt is enrolled and its outcome reported before it is aborted: the outcome that is
reported after that is ignored. -/
theorem aborted_attempt_ignored :
    let actions : List GateAction :=
      [.decide ⟨1⟩ (some expired) 0, .score ⟨1⟩ .failure, .decide ⟨1⟩ (some expired) 100,
        .decide ⟨1⟩ none 0, .score ⟨1⟩ .success]
    Enforced (.fixed 50) actions ⟨1⟩ 2 ∧ Unenrolled (.fixed 50) actions ⟨1⟩ 3 4 ∧
      (stage (.fixed 50) actions 2).pending.get? ⟨1⟩ = none ∧
      reply? (.fixed 50) actions 4 = some (.tally none) := by
  intro actions
  have henforced : Enforced (.fixed 50) actions ⟨1⟩ 2 := ⟨expired, 100, rfl, by decide⟩
  have hfree : Unenrolled (.fixed 50) actions ⟨1⟩ 3 4 := by
    intro j hj hj' d
    obtain rfl : j = 3 := by omega
    exact nofun
  have hnone : (stage (.fixed 50) actions 2).pending.get? ⟨1⟩ = none := by decide
  have hmain := (enforced_not_monitored_unless_awaited (.fixed 50) actions ⟨1⟩).2.1 2 4
  exact ⟨henforced, hfree, hnone,
    ((hmain henforced (by omega) hfree).2 hnone |>.2 .success rfl).1⟩

/-- The attempt is aborted while it waits for the outcome of its enrollment: it stays pending, and
the outcome that is reported after that is scored. -/
theorem aborted_attempt_scored :
    let actions : List GateAction :=
      [.decide ⟨1⟩ (some expired) 0, .decide ⟨1⟩ (some expired) 100, .score ⟨1⟩ .success]
    reply? (.fixed 50) actions 1 = some (.decision ⟨true⟩) ∧
      (stage (.fixed 50) actions 2).pending.contains ⟨1⟩ = true ∧
      reply? (.fixed 50) actions 2 = some (.tally (some ⟨1, 0⟩)) := by
  decide

end RetryTrial.Gate
