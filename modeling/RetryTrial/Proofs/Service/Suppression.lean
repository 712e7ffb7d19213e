import RetryTrial.Proofs.Service.Decide

/-!
# When a retry is suppressed

A retry is suppressed exactly if the failure before it is classified as not retryable, the tenant's
share is at hand, and the draw falls below it. Then the gate counts it as attempted and as aborted,
and does nothing else.
-/

namespace RetryTrial.World

variable {setup : Setup} {w : World} {now : Nat} {attempt : Attempt} {d : Decline} {share : Nat}

theorem abort_decide_iff (setup : Setup) (w : World) (now : Nat) (attempt : Attempt) :
    (w.decide setup now attempt).value.1.abort = true ↔
      ∃ d share, Verdict setup w attempt d ∧ d.retryable = false ∧
        (w.share setup now attempt.tenant).value.1 = .ok share ∧
        setup.draws w.gate.drawn < min share 100 := by
  constructor
  · intro ha
    by_cases h : ∃ d share, Verdict setup w attempt d ∧
        (w.share setup now attempt.tenant).value.1 = .ok share
    · obtain ⟨d, share, hv, hs⟩ := h
      rw [value_decide_of_share hv hs] at ha
      obtain ⟨hd, hdraw⟩ := (Gate.abort_decide_iff ..).mp ha
      exact ⟨d, share, hv, hd, hs, hdraw⟩
    · rw [value_decide_of_not_reached h] at ha
      cases ha
  · rintro ⟨d, share, hv, hd, hs, hdraw⟩
    rw [value_decide_of_share hv hs]
    exact (Gate.abort_decide_iff ..).mpr ⟨hd, hdraw⟩

/-- When a retry is suppressed, and what a decision does to the gate in every case. -/
theorem suppressed_exactly_if (setup : Setup) (w : World) (now : Nat) (attempt : Attempt) :
    ((w.decide setup now attempt).value.1.abort = true ↔
      ∃ d share, Verdict setup w attempt d ∧ d.retryable = false ∧
        (w.share setup now attempt.tenant).value.1 = .ok share ∧
        setup.draws w.gate.drawn < min share 100) ∧
    (∀ d share, Verdict setup w attempt d →
      (w.share setup now attempt.tenant).value.1 = .ok share →
      (setup.draws w.gate.drawn < min share 100 → d.retryable = false →
        (w.decide setup now attempt).value.1 = ⟨true⟩ ∧
        (w.decide setup now attempt).value.2.gate =
          { w.gate with
            attempted := w.gate.attempted + 1
            aborted := w.gate.aborted + 1
            drawn := w.gate.drawn + 1 }) ∧
      (setup.draws w.gate.drawn < min share 100 → d.retryable = true →
        (w.decide setup now attempt).value.1 = .allow ∧
        (w.decide setup now attempt).value.2.gate =
          { w.gate with
            attempted := w.gate.attempted + 1
            drawn := w.gate.drawn + 1 }) ∧
      (min share 100 ≤ setup.draws w.gate.drawn →
        (w.decide setup now attempt).value.1 = .allow ∧
        (w.decide setup now attempt).value.2.gate =
          { w.gate with
            attempted := w.gate.attempted + 1
            pending := w.gate.pending.insert attempt.id d
            drawn := w.gate.drawn + 1 })) ∧
    ((¬ ∃ d share, Verdict setup w attempt d ∧
        (w.share setup now attempt.tenant).value.1 = .ok share) →
      (w.decide setup now attempt).value = (.allow, w)) := by
  refine ⟨abort_decide_iff setup w now attempt, ?_, value_decide_of_not_reached⟩
  intro d share hv hs
  rw [value_decide_of_share hv hs]
  refine ⟨?_, ?_, ?_⟩
  · intro hdraw hd
    rw [Gate.value_decide_of_treatment (Gate.nextGroup_eq_treatment.mpr hdraw), hd]
    exact ⟨rfl, rfl⟩
  · intro hdraw hd
    rw [Gate.value_decide_of_treatment (Gate.nextGroup_eq_treatment.mpr hdraw), hd]
    exact ⟨rfl, rfl⟩
  · intro hdraw
    rw [Gate.value_decide_of_control (Gate.nextGroup_eq_control.mpr hdraw)]
    exact ⟨rfl, rfl⟩

end RetryTrial.World
