import Mathlib.Data.List.Forall2
import RetryTrial.Proofs.Gate.Effect
import RetryTrial.Proofs.Gate.Enforcement
import RetryTrial.Proofs.Gate.Totals

/-!
# Raising shares

Two runs make the same draws and take the same actions, but the decisions of the second one are at
higher shares. Once an attempt falls into the treatment group in the second run alone, the pending
attempts of the two runs differ, and so may the declines of those that they share. What stays is
that every attempt pending in the second run is pending in the first: `Stricter` says so, and
compares the counters. Every pair of actions keeps it, and so does every pair of runs.
-/

namespace RetryTrial

/-- The same action, a decision at this share or at a higher one. -/
inductive GateAction.Raised : GateAction → GateAction → Prop
  | decide (attempt : Uuid) (decline : Option Decline) {low high : Nat} (h : low ≤ high) :
      Raised (decide attempt decline low) (decide attempt decline high)
  | score (attempt : Uuid) (outcome : Outcome) :
      Raised (score attempt outcome) (score attempt outcome)

theorem GateAction.Raised.attempt_eq {x y : GateAction} (h : x.Raised y) :
    x.attempt = y.attempt := by
  cases h <;> rfl

theorem Group.ofDraw_eq_treatment_of_le {draw low high : Nat} (h : low ≤ high)
    (hlow : ofDraw draw low = .treatment) : ofDraw draw high = .treatment := by
  rw [ofDraw_eq_treatment] at hlow ⊢
  omega

theorem Outcomes.total_recordAny (o : Outcomes) (recorded : Option (Bucket × Outcome)) :
    (o.recordAny recorded).total = o.total + recorded.isSome.toNat := by
  cases recorded with
  | none => rfl
  | some r => exact o.total_record r.1 r.2

/-- The second effect counts the same and aborts what the first one aborts, but it leaves an entry
and records an outcome only if the first one does. -/
structure Effect.Stricter (e f : Effect) : Prop where
  attempted : e.attempted = f.attempted
  aborted : e.aborted ≤ f.aborted
  entry : f.entry.isSome = true → e.entry.isSome = true
  recorded : f.recorded.isSome = true → e.recorded.isSome = true
  aborts : e.said = .inl ⟨true⟩ → f.said = .inl ⟨true⟩
  scores : f.said = .inr true → e.said = .inr true

theorem GateAction.Raised.stricter_effect {x y : GateAction} (h : x.Raised y) (draw : Nat)
    {entry entry' : Option Decline} (he : entry'.isSome = true → entry.isSome = true) :
    (x.effect draw entry).Stricter (y.effect draw entry') := by
  cases h with
  | score attempt outcome =>
      refine ⟨rfl, Nat.le_refl 0, id, by simpa [effect] using he, ?_, by simpa [effect] using he⟩
      exact fun h => absurd h Sum.inr_ne_inl
  | decide attempt decline hshare =>
      rename_i low high
      cases decline with
      | none => exact ⟨rfl, Nat.le_refl 0, he, id, id, fun h => absurd h Sum.inl_ne_inr⟩
      | some d =>
          cases hlow : Group.ofDraw draw low with
          | treatment =>
              have hhigh := Group.ofDraw_eq_treatment_of_le hshare hlow
              simp only [effect, hlow, hhigh]
              exact ⟨rfl, Nat.le_refl _, he, id, id, fun h => absurd h Sum.inl_ne_inr⟩
          | control =>
              cases hhigh : Group.ofDraw draw high with
              | treatment =>
                  simp only [effect, hlow, hhigh]
                  refine ⟨rfl, Nat.zero_le _, fun _ => rfl, id, ?_, ?_⟩
                  · exact fun h => absurd (Sum.inl.inj h) (by decide)
                  · exact fun h => absurd h Sum.inl_ne_inr
              | control =>
                  simp only [effect, hlow, hhigh]
                  exact ⟨rfl, Nat.le_refl 0, id, id, id, fun h => absurd h Sum.inl_ne_inr⟩

namespace Gate

/-- The second gate has counted the same attempts and aborted no fewer. It has scored no more
outcomes, and every attempt that is pending there is pending in the first gate. -/
structure Stricter (g h : Gate) : Prop where
  attempted : g.attempted = h.attempted
  aborted : g.aborted ≤ h.aborted
  pending : ∀ attempt, h.pending.contains attempt = true → g.pending.contains attempt = true
  total : h.outcomes.total ≤ g.outcomes.total
  drawn : g.drawn = h.drawn

variable {draws : Draws} {g h : Gate} {x y : GateAction} {low high actions : List GateAction}

theorem Stricter.refl (g : Gate) : g.Stricter g :=
  ⟨rfl, Nat.le_refl _, fun _ => id, Nat.le_refl _, rfl⟩

theorem Stricter.apply (hg : g.Stricter h) {e f : Effect} (he : e.Stricter f) (attempt : Uuid) :
    (g.apply attempt e).Stricter (h.apply attempt f) := by
  have hattempted := he.attempted
  refine ⟨?_, Nat.add_le_add hg.aborted he.aborted, ?_, ?_, ?_⟩
  · exact congrArg₂ (· + ·) hg.attempted hattempted
  · intro other
    have hother := hg.pending other
    simp only [Pending.contains_eq_isSome, Gate.apply, Pending.get?_set] at hother ⊢
    by_cases heq : attempt = other
    · simpa only [heq, if_true] using he.entry
    · simpa only [heq, if_false] using hother
  · have htotal := hg.total
    have hrecorded := Bool.toNat_le_toNat he.recorded
    simp only [Gate.apply, Outcomes.total_recordAny]
    omega
  · exact congrArg₂ (· + ·) hg.drawn hattempted

/-- At gates one of which is stricter, raised actions have effects of which one is stricter. -/
theorem Stricter.effect (hg : g.Stricter h) (hx : x.Raised y) (draws : Draws) :
    (g.effect draws x).Stricter (h.effect draws y) := by
  have hentry := hg.pending y.attempt
  rw [Pending.contains_eq_isSome, Pending.contains_eq_isSome, ← hx.attempt_eq] at hentry
  rw [Gate.effect, Gate.effect, hg.drawn, ← hx.attempt_eq]
  exact hx.stricter_effect (draws h.drawn) hentry

theorem Stricter.act (hg : g.Stricter h) (hx : x.Raised y) (draws : Draws) :
    (g.act draws x).value.2.Stricter (h.act draws y).value.2 := by
  rw [(act_eq_apply draws g x).2, (act_eq_apply draws h y).2, hx.attempt_eq]
  exact hg.apply (hg.effect hx draws) y.attempt

theorem Stricter.after (hg : g.Stricter h) (hraised : List.Forall₂ GateAction.Raised low high)
    (draws : Draws) : (g.after draws low).Stricter (h.after draws high) := by
  induction hraised generalizing g h with
  | nil => exact hg
  | cons hx _ ih => exact ih (hg.act hx draws)

theorem stricter_stage (hraised : List.Forall₂ GateAction.Raised low high) (draws : Draws) (n : ℕ) :
    (stage draws low n).Stricter (stage draws high n) :=
  (Stricter.refl fresh).after (List.forall₂_take n hraised) draws

end Gate

namespace GateReply

theorem said_eq_inl_iff {reply : GateReply} {d : Decision} :
    reply.said = .inl d ↔ reply = .decision d := by
  cases reply <;> simp [said]

theorem said_eq_inr_true_iff {reply : GateReply} :
    reply.said = .inr true ↔ ∃ t, reply = .tally (some t) := by
  cases reply with
  | decision d => simp [said]
  | tally t => simp [said, Option.isSome_iff_exists]

end GateReply

namespace Gate

variable {draws : Draws} {low high actions : List GateAction} {n : ℕ}

theorem exists_raised_of_getElem? (hraised : List.Forall₂ GateAction.Raised low high) (n : ℕ) :
    low[n]? = none ∧ high[n]? = none ∨
      ∃ x y, low[n]? = some x ∧ high[n]? = some y ∧ x.Raised y := by
  induction hraised generalizing n with
  | nil => exact Or.inl ⟨rfl, rfl⟩
  | cons hx _ ih =>
      cases n with
      | zero => exact Or.inr ⟨_, _, rfl, rfl, hx⟩
      | succ n => exact ih n

/-- What the first run aborts, the second one aborts, and what the second one scores, the first one
scores. -/
theorem replies_of_raised (hraised : List.Forall₂ GateAction.Raised low high) (draws : Draws)
    (n : ℕ) :
    (reply? draws low n = some (.decision ⟨true⟩) →
      reply? draws high n = some (.decision ⟨true⟩)) ∧
    ((∃ t, reply? draws high n = some (.tally (some t))) →
      ∃ t, reply? draws low n = some (.tally (some t))) := by
  obtain ⟨hlow, hhigh⟩ | ⟨x, y, hlow, hhigh, hx⟩ := exists_raised_of_getElem? hraised n
  · rw [reply?_eq_none hlow, reply?_eq_none hhigh]
    exact ⟨nofun, nofun⟩
  · have heffect := (stricter_stage hraised draws n).effect hx draws
    have haborts := heffect.aborts
    have hscores := heffect.scores
    rw [← (act_eq_apply draws _ x).1, ← (act_eq_apply draws _ y).1] at haborts hscores
    rw [GateReply.said_eq_inl_iff, GateReply.said_eq_inl_iff] at haborts
    rw [GateReply.said_eq_inr_true_iff, GateReply.said_eq_inr_true_iff] at hscores
    rw [reply?_eq hlow, reply?_eq hhigh]
    simpa only [Option.some.injEq] using And.intro haborts hscores

theorem not_enforced_of_zero
    (hzero : ∀ attempt decline share, .decide attempt decline share ∈ actions → share = 0)
    (draws : Draws) (attempt : Uuid) (n : ℕ) : ¬ Enforced draws actions attempt n := by
  rintro ⟨d, share, hn, hg⟩
  have hshare := hzero attempt (some d) share (List.mem_of_getElem? hn)
  rw [Group.ofDraw_eq_treatment] at hg
  omega

/-- At shares of 100 and more nothing is enrolled. -/
theorem enrolled?_of_full
    (hfull : ∀ attempt decline share, .decide attempt decline share ∈ actions → 100 ≤ share)
    (hdraws : ∀ i, draws i < 100) (n : ℕ) : enrolled? draws actions n = none := by
  rcases h : actions[n]? with _ | (⟨attempt, _ | d, share⟩ | ⟨attempt, outcome⟩)
  · exact enrolled?_of_idle h
  · exact enrolled?_of_unclassified h
  · have hshare := hfull attempt (some d) share (List.mem_of_getElem? h)
    have hdraw := hdraws (classifiedBefore actions n)
    have hg : Group.ofDraw (draws (classifiedBefore actions n)) share = .treatment := by
      rw [Group.ofDraw_eq_treatment]
      omega
    simp only [enrolled?, h, hg]
  · exact enrolled?_of_score h

theorem pending_eq_empty_of_enrolled? (hnone : ∀ i, enrolled? draws actions i = none) (n : ℕ) :
    (stage draws actions n).pending = .empty := by
  apply Pending.ext_get?
  intro attempt
  rw [Pending.get?_empty, Option.eq_none_iff_forall_ne_some]
  intro d hd
  obtain ⟨i, hi, -⟩ := (get?_stage draws actions n attempt d).mp hd
  have henrolls := hi.enrolls
  rw [hnone i] at henrolls
  cases henrolls

/-- Higher shares count the same attempts, abort whatever lower ones abort, and monitor and score at
most what lower ones do, at every point of a run. Shares of 0 abort nothing; shares of 100 monitor
nothing if all draws are below 100. -/
theorem raised_shares_enforce_more (draws : Draws) :
    (∀ low high, List.Forall₂ GateAction.Raised low high → ∀ n,
      (stage draws low n).attempted = (stage draws high n).attempted ∧
      (reply? draws low n = some (.decision ⟨true⟩) →
        reply? draws high n = some (.decision ⟨true⟩)) ∧
      (stage draws low n).aborted ≤ (stage draws high n).aborted ∧
      (∀ attempt, (stage draws high n).pending.contains attempt = true →
        (stage draws low n).pending.contains attempt = true) ∧
      ((∃ t, reply? draws high n = some (.tally (some t))) →
        ∃ t, reply? draws low n = some (.tally (some t))) ∧
      (stage draws high n).outcomes.total ≤ (stage draws low n).outcomes.total) ∧
    (∀ actions : List GateAction,
      (∀ attempt decline share, .decide attempt decline share ∈ actions → share = 0) →
      ∀ n, reply? draws actions n ≠ some (.decision ⟨true⟩)) ∧
    (∀ actions : List GateAction,
      (∀ attempt decline share, .decide attempt decline share ∈ actions → 100 ≤ share) →
      (∀ i, draws i < 100) →
      ∀ n, enrolled? draws actions n = none ∧ (stage draws actions n).pending = .empty) := by
  refine ⟨?_, ?_, ?_⟩
  · intro low high hraised n
    have hstage := stricter_stage hraised draws n
    obtain ⟨haborts, hscores⟩ := replies_of_raised hraised draws n
    exact ⟨hstage.attempted, haborts, hstage.aborted, hstage.pending, hscores, hstage.total⟩
  · intro actions hzero n hreply
    have hn : ∃ attempt decline share, actions[n]? = some (.decide attempt decline share) := by
      rcases h : actions[n]? with _ | (⟨attempt, decline, share⟩ | ⟨attempt, outcome⟩)
      · rw [reply?_eq_none h] at hreply
        cases hreply
      · exact ⟨attempt, decline, share, rfl⟩
      · rw [reply?_eq h, value_act_score] at hreply
        cases hreply
    obtain ⟨attempt, decline, share, hn⟩ := hn
    exact not_enforced_of_zero hzero draws attempt n (enforced_of_abort hn hreply)
  · intro actions hfull hdraws n
    have hnone := enrolled?_of_full hfull hdraws
    exact ⟨hnone n, pending_eq_empty_of_enrolled? hnone n⟩

def unsettled : Decline := ⟨"Adyen", 5, "Blocked card", .generalDecline, true⟩

/-- The first attempt is decided on again and then waits under different declines in the two runs;
still both score it. The second attempt is enforced in the second run alone. -/
theorem raised_while_pending :
    let low : List GateAction :=
      [.decide ⟨1⟩ (some expired) 0, .decide ⟨1⟩ (some unsettled) 0, .score ⟨1⟩ .success,
        .decide ⟨2⟩ (some expired) 20, .score ⟨2⟩ .failure]
    let high : List GateAction :=
      [.decide ⟨1⟩ (some expired) 0, .decide ⟨1⟩ (some unsettled) 100, .score ⟨1⟩ .success,
        .decide ⟨2⟩ (some expired) 60, .score ⟨2⟩ .failure]
    List.Forall₂ GateAction.Raised low high ∧
      (stage (.fixed 50) low 2).pending.get? ⟨1⟩ = some unsettled ∧
      (stage (.fixed 50) high 2).pending.get? ⟨1⟩ = some expired ∧
      (∃ t, reply? (.fixed 50) low 2 = some (.tally (some t))) ∧
      reply? (.fixed 50) high 3 = some (.decision ⟨true⟩) ∧
      (stage (.fixed 50) low 5).attempted = (stage (.fixed 50) high 5).attempted ∧
      (stage (.fixed 50) high 5).outcomes.total ≤ (stage (.fixed 50) low 5).outcomes.total := by
  intro low high
  have hraised : List.Forall₂ GateAction.Raised low high :=
    .cons (.decide _ _ (by omega)) (.cons (.decide _ _ (by omega)) (.cons (.score _ _)
      (.cons (.decide _ _ (by omega)) (.cons (.score _ _) .nil))))
  have hruns := (raised_shares_enforce_more (.fixed 50)).1 low high hraised
  obtain ⟨-, -, -, -, hscored, -⟩ := hruns 2
  obtain ⟨hattempted, -, -, -, -, htotal⟩ := hruns 5
  have hhigh : reply? (.fixed 50) high 2 = some (.tally (some ⟨1, 0⟩)) := by decide
  exact ⟨hraised, by decide, by decide, hscored ⟨⟨1, 0⟩, hhigh⟩, by decide, hattempted, htotal⟩

end Gate

end RetryTrial
